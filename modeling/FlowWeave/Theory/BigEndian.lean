/-
# Theory.BigEndian — fixed-width big-endian words

`toBE w n` is the `w`-byte big-endian form of `n` (the low `8 * w` bits), and
`fromBE` reads bytes back. The two are inverse in both directions once the width
is fixed: `fromBE_toBE` below `256 ^ w`, and `toBE_fromBE` for every byte string
of that width. The second direction is what makes a fixed-layout decoder
canonical, so it is stated for the machine words as well. `cut` takes a string
apart at fixed widths.
-/
import Mathlib.Tactic.Ring

namespace FlowWeave.Theory.BigEndian

set_option autoImplicit false

/-- The low `w` bytes of `n`, most significant first. -/
def toBE : Nat → Nat → List UInt8
  | 0, _ => []
  | w + 1, n => UInt8.ofNat (n / 256 ^ w) :: toBE w n

/-- The natural a big-endian byte string denotes. -/
def fromBE : List UInt8 → Nat
  | [] => 0
  | byte :: rest => byte.toNat * 256 ^ rest.length + fromBE rest

/-- The bytes at positions `first ..< last`. -/
def slice (bytes : List UInt8) (first last : Nat) : List UInt8 :=
  (bytes.drop first).take (last - first)

@[simp] theorem toBE_length (w n : Nat) : (toBE w n).length = w := by
  induction w with
  | zero => rfl
  | succ w ih => simp [toBE, ih]

theorem fromBE_lt (bytes : List UInt8) : fromBE bytes < 256 ^ bytes.length := by
  induction bytes with
  | nil => simp [fromBE]
  | cons byte rest ih =>
    have small : byte.toNat < 256 := byte.toNat_lt
    have scaled : (byte.toNat + 1) * 256 ^ rest.length ≤ 256 * 256 ^ rest.length :=
      Nat.mul_le_mul_right _ small
    simp only [fromBE, List.length_cons, Nat.pow_succ, Nat.mul_comm _ 256]
    rw [Nat.add_mul, Nat.one_mul] at scaled
    omega

/-- The first `8 * w` bits decide the `w`-byte form. -/
theorem toBE_add_mul (w n k : Nat) : toBE w (n + k * 256 ^ w) = toBE w n := by
  induction w generalizing k with
  | zero => rfl
  | succ w ih =>
    have shift : n + k * 256 ^ (w + 1) = n + k * 256 * 256 ^ w := by ring
    have head : UInt8.ofNat ((n + k * 256 * 256 ^ w) / 256 ^ w) = UInt8.ofNat (n / 256 ^ w) := by
      rw [Nat.add_mul_div_right _ _ (Nat.pow_pos (by decide))]
      apply UInt8.toNat_inj.mp
      simp only [UInt8.toNat_ofNat']
      omega
    rw [shift, toBE, toBE, head, ih]

/-- Reading the `w`-byte form gives the value modulo the width. -/
theorem fromBE_toBE_mod (w n : Nat) : fromBE (toBE w n) = n % 256 ^ w := by
  induction w with
  | zero => simp [toBE, fromBE, Nat.mod_one]
  | succ w ih =>
    have split : n % 256 ^ (w + 1) = n % 256 ^ w + 256 ^ w * (n / 256 ^ w % 256) := by
      rw [Nat.pow_succ, Nat.mod_mul]
    rw [toBE, fromBE, toBE_length, ih, UInt8.toNat_ofNat', split, Nat.mul_comm, Nat.add_comm]

theorem fromBE_toBE {w n : Nat} (fits : n < 256 ^ w) : fromBE (toBE w n) = n := by
  rw [fromBE_toBE_mod, Nat.mod_eq_of_lt fits]

/-- A byte string is the form of the number it denotes. -/
theorem toBE_fromBE (bytes : List UInt8) : toBE bytes.length (fromBE bytes) = bytes := by
  induction bytes with
  | nil => rfl
  | cons byte rest ih =>
    have low := fromBE_lt rest
    have head : (byte.toNat * 256 ^ rest.length + fromBE rest) / 256 ^ rest.length =
        byte.toNat := by
      rw [Nat.add_comm, Nat.add_mul_div_right _ _ (Nat.pow_pos (by decide)),
        Nat.div_eq_of_lt low, Nat.zero_add]
    simp only [List.length_cons, toBE, fromBE, head, UInt8.ofNat_toNat]
    rw [Nat.add_comm, toBE_add_mul, ih]

variable {bytes : List UInt8}

theorem toBE_fromBE_of_length {w : Nat} (width : bytes.length = w) :
    toBE w (fromBE bytes) = bytes := by
  subst width
  exact toBE_fromBE bytes

/-! ## Fixed layouts -/

/-- Consecutive pieces of the given widths. -/
def cut : List Nat → List UInt8 → List (List UInt8)
  | [], _ => []
  | width :: widths, bytes => bytes.take width :: cut widths (bytes.drop width)

/-- Cutting a string that was put together from parts gives the parts. -/
theorem cut_flatten (parts : List (List UInt8)) :
    cut (parts.map List.length) parts.flatten = parts := by
  induction parts with
  | nil => rfl
  | cons part rest ih => simp [cut, ih]

/-- Pieces whose widths add up to the length make the string again. -/
theorem flatten_cut (widths : List Nat) (bytes : List UInt8)
    (exact_ : widths.sum = bytes.length) : (cut widths bytes).flatten = bytes := by
  induction widths generalizing bytes with
  | nil =>
    have empty : bytes = [] := List.length_eq_zero_iff.mp exact_.symm
    simp [cut, empty]
  | cons width rest ih =>
    have remaining : rest.sum = (bytes.drop width).length := by
      simp only [List.sum_cons, List.length_drop] at exact_ ⊢
      omega
    simp only [cut, List.flatten_cons, ih _ remaining, List.take_append_drop]

theorem slice_width {first last width : Nat} (inside : last ≤ bytes.length)
    (wide : last - first = width) : (slice bytes first last).length = width := by
  simp only [slice, List.length_take, List.length_drop]
  omega

theorem slice_one {position : Nat} (inside : position < bytes.length) :
    slice bytes position (position + 1) = [bytes.getD position 0] := by
  have one : position + 1 - position = 0 + 1 := by omega
  rw [slice, List.drop_eq_getElem_cons inside, one, List.take_succ_cons, List.take_zero]
  simp only [List.getD_eq_getElem?_getD, List.getElem?_eq_getElem inside, Option.getD_some]

theorem slice_append_left (rest : List UInt8) {last : Nat} (first : Nat)
    (inside : last ≤ bytes.length) : slice (bytes ++ rest) first last = slice bytes first last := by
  by_cases ordered : first ≤ last
  · rw [slice, slice, List.drop_append_of_le_length (ordered.trans inside),
      List.take_append_of_le_length (by rw [List.length_drop]; omega)]
  · rw [slice, slice, Nat.sub_eq_zero_of_le (by omega), List.take_zero, List.take_zero]

theorem slice_middle {before part : List UInt8} (after : List UInt8) {first last : Nat}
    (starts : before.length = first) (ends : first + part.length = last) :
    slice (before ++ part ++ after) first last = part := by
  subst starts ends
  rw [slice, List.append_assoc, List.drop_left, Nat.add_sub_cancel_left, List.take_left]

theorem slice_to_end (bytes : List UInt8) (first : Nat) :
    slice bytes first bytes.length = bytes.drop first :=
  List.take_of_length_le (by rw [List.length_drop])

/-! ## Machine words -/

/-- `u16::to_be_bytes`. -/
def u16ToBE (x : UInt16) : List UInt8 := toBE 2 x.toNat

/-- `u16::from_be_bytes`. -/
def u16FromBE (bytes : List UInt8) : UInt16 := UInt16.ofNat (fromBE bytes)

/-- `u32::to_be_bytes`. -/
def u32ToBE (x : UInt32) : List UInt8 := toBE 4 x.toNat

/-- `u32::from_be_bytes`. -/
def u32FromBE (bytes : List UInt8) : UInt32 := UInt32.ofNat (fromBE bytes)

/-- `u64::to_be_bytes`. -/
def u64ToBE (x : UInt64) : List UInt8 := toBE 8 x.toNat

/-- `u64::from_be_bytes`. -/
def u64FromBE (bytes : List UInt8) : UInt64 := UInt64.ofNat (fromBE bytes)

@[simp] theorem u16ToBE_length (x : UInt16) : (u16ToBE x).length = 2 := toBE_length _ _

@[simp] theorem u32ToBE_length (x : UInt32) : (u32ToBE x).length = 4 := toBE_length _ _

@[simp] theorem u64ToBE_length (x : UInt64) : (u64ToBE x).length = 8 := toBE_length _ _

@[simp] theorem u16FromBE_toBE (x : UInt16) : u16FromBE (u16ToBE x) = x := by
  rw [u16FromBE, u16ToBE, fromBE_toBE (by simpa using x.toNat_lt), UInt16.ofNat_toNat]

@[simp] theorem u32FromBE_toBE (x : UInt32) : u32FromBE (u32ToBE x) = x := by
  rw [u32FromBE, u32ToBE, fromBE_toBE (by simpa using x.toNat_lt), UInt32.ofNat_toNat]

@[simp] theorem u64FromBE_toBE (x : UInt64) : u64FromBE (u64ToBE x) = x := by
  rw [u64FromBE, u64ToBE, fromBE_toBE (by simpa using x.toNat_lt), UInt64.ofNat_toNat]

theorem u16ToBE_fromBE (width : bytes.length = 2) : u16ToBE (u16FromBE bytes) = bytes := by
  have small : fromBE bytes < 2 ^ 16 := by simpa [width] using fromBE_lt bytes
  rw [u16ToBE, u16FromBE, UInt16.toNat_ofNat_of_lt' small, toBE_fromBE_of_length width]

theorem u32ToBE_fromBE (width : bytes.length = 4) : u32ToBE (u32FromBE bytes) = bytes := by
  have small : fromBE bytes < 2 ^ 32 := by simpa [width] using fromBE_lt bytes
  rw [u32ToBE, u32FromBE, UInt32.toNat_ofNat_of_lt' small, toBE_fromBE_of_length width]

theorem u64ToBE_fromBE (width : bytes.length = 8) : u64ToBE (u64FromBE bytes) = bytes := by
  have small : fromBE bytes < 2 ^ 64 := by simpa [width] using fromBE_lt bytes
  rw [u64ToBE, u64FromBE, UInt64.toNat_ofNat_of_lt' small, toBE_fromBE_of_length width]

end FlowWeave.Theory.BigEndian
