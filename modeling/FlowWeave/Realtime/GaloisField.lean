/-
# Realtime.GaloisField — the byte arithmetic of the parity symbols

`gfMul` multiplies two bytes as polynomials over the two-element field, modulo
`x^8 + x^4 + x^3 + x^2 + 1`. The bytes with `^^^` and `gfMul` are a field with `gfPow · 254` as
the inverse (`Gf256`). The product is additive in both arguments, so the laws of a
commutative ring are checked on the eight powers of two only. For the inverse no table of
products is needed either: `a ^ 256 = a` holds because squaring is additive, hence `a ^ 255`
is idempotent, and the only idempotent bytes are `0` and `1`.
-/
import Mathlib.Data.List.Nodup
import Mathlib.Tactic.Ring

namespace FlowWeave.Realtime

set_option autoImplicit false

def gfReduction : UInt8 := 0x1d

/-- The rounds of the loop of `gfMul`. -/
def gfMulRounds : Nat → UInt8 → UInt8 → UInt8 → UInt8
  | 0, _, _, product => product
  | rounds + 1, left, right, product =>
    let product := if right &&& 1 ≠ 0 then product ^^^ left else product
    let high := left &&& 0x80
    let left := left <<< 1
    let left := if high ≠ 0 then left ^^^ gfReduction else left
    gfMulRounds rounds left (right >>> 1) product

def gfMul (left right : UInt8) : UInt8 := gfMulRounds 8 left right 0

/-- The rounds of the loop of `gfPow`. A byte is zero after eight shifts, so that the loop
has ended after eight rounds (`gfPow_eq_pow`). -/
def gfPowRounds : Nat → UInt8 → UInt8 → UInt8 → UInt8
  | 0, _, _, result => result
  | rounds + 1, base, exponent, result =>
    if exponent = 0 then result
    else
      let result := if exponent &&& 1 ≠ 0 then gfMul result base else result
      gfPowRounds rounds (gfMul base base) (exponent >>> 1) result

def gfPow (base exponent : UInt8) : UInt8 := gfPowRounds 8 base exponent 1

def gfDiv (numerator denominator : UInt8) : Except String UInt8 :=
  if denominator = 0 then .error "C v3 GF(256) 除数为零"
  else if numerator = 0 then .ok 0
  else .ok (gfMul numerator (gfPow denominator 254))

/-- One multiplication for each index below. -/
def globalCoefficient : Nat → UInt8
  | 0 => 1
  | index + 1 => gfMul (globalCoefficient index) 2

/-! ## The product is additive in both arguments -/

/-- The change of `left` in one round: a product with `x`. -/
def gfDouble (left : UInt8) : UInt8 :=
  if left &&& 0x80 ≠ 0 then left <<< 1 ^^^ gfReduction else left <<< 1

theorem gfMulRounds_succ (rounds : Nat) (left right product : UInt8) :
    gfMulRounds (rounds + 1) left right product =
      gfMulRounds rounds (gfDouble left) (right >>> 1)
        (if right &&& 1 ≠ 0 then product ^^^ left else product) := rfl

/-- Statements about all bytes, checked one by one. -/
theorem forall_byte {p : UInt8 → Prop} (all : ∀ i : Fin 256, p (UInt8.ofFin i)) (a : UInt8) :
    p a := all a.toFin

theorem xor_xor_xor_comm (a b c d : UInt8) : a ^^^ b ^^^ (c ^^^ d) = a ^^^ c ^^^ (b ^^^ d) := by
  rw [UInt8.xor_assoc, ← UInt8.xor_assoc b, UInt8.xor_comm b, UInt8.xor_assoc c,
    ← UInt8.xor_assoc]

theorem and_xor (a b mask : UInt8) : (a ^^^ b) &&& mask = (a &&& mask) ^^^ (b &&& mask) := by
  apply UInt8.toBitVec_inj.mp
  ext i
  simp [Bool.and_xor_distrib_right]

/-- A term that depends on one bit of a byte is additive. -/
theorem ite_mask_xor {mask : UInt8} (single : ∀ a, a &&& mask = 0 ∨ a &&& mask = mask)
    (nonzero : mask ≠ 0) (a b term : UInt8) :
    (if (a ^^^ b) &&& mask ≠ 0 then term else 0) =
      (if a &&& mask ≠ 0 then term else 0) ^^^ (if b &&& mask ≠ 0 then term else 0) := by
  rw [and_xor]
  rcases single a with one | one <;> rcases single b with two | two <;> simp [one, two, nonzero]

/-- The byte with bit `i` only. -/
def bit (i : Fin 8) : UInt8 := 1 <<< UInt8.ofNat i.val

theorem bit_single (i : Fin 8) (a : UInt8) : a &&& bit i = 0 ∨ a &&& bit i = bit i := by
  revert i
  apply forall_byte (p := fun a => ∀ i : Fin 8, a &&& bit i = 0 ∨ a &&& bit i = bit i)
  decide +kernel

theorem gfDouble_eq (a : UInt8) :
    gfDouble a = a <<< 1 ^^^ (if a &&& 0x80 ≠ 0 then gfReduction else 0) := by
  unfold gfDouble
  split <;> simp

theorem gfDouble_xor (a b : UInt8) : gfDouble (a ^^^ b) = gfDouble a ^^^ gfDouble b := by
  have top : ∀ a : UInt8, a &&& 0x80 = 0 ∨ a &&& 0x80 = 0x80 := bit_single 7
  rw [gfDouble_eq, gfDouble_eq, gfDouble_eq, UInt8.shiftLeft_xor, ite_mask_xor top (by decide),
    xor_xor_xor_comm]

theorem gfMulRounds_product (rounds : Nat) (left right product : UInt8) :
    gfMulRounds rounds left right product = product ^^^ gfMulRounds rounds left right 0 := by
  induction rounds generalizing left right product with
  | zero => simp [gfMulRounds]
  | succ rounds ih =>
    rw [gfMulRounds_succ, gfMulRounds_succ, ih,
      ih _ _ (if right &&& 1 ≠ 0 then 0 ^^^ left else 0), ← UInt8.xor_assoc]
    congr 1
    split <;> simp

theorem gfMulRounds_zero_succ (rounds : Nat) (left right : UInt8) :
    gfMulRounds (rounds + 1) left right 0 =
      (if right &&& 1 ≠ 0 then left else 0) ^^^
        gfMulRounds rounds (gfDouble left) (right >>> 1) 0 := by
  rw [gfMulRounds_succ, gfMulRounds_product]
  congr 1
  simp

theorem gfMulRounds_xor_left (rounds : Nat) (a b right : UInt8) :
    gfMulRounds rounds (a ^^^ b) right 0 =
      gfMulRounds rounds a right 0 ^^^ gfMulRounds rounds b right 0 := by
  induction rounds generalizing a b right with
  | zero => simp [gfMulRounds]
  | succ rounds ih =>
    rw [gfMulRounds_zero_succ, gfMulRounds_zero_succ, gfMulRounds_zero_succ, gfDouble_xor, ih,
      xor_xor_xor_comm]
    congr 1
    split <;> simp

theorem gfMulRounds_xor_right (rounds : Nat) (left a b : UInt8) :
    gfMulRounds rounds left (a ^^^ b) 0 =
      gfMulRounds rounds left a 0 ^^^ gfMulRounds rounds left b 0 := by
  induction rounds generalizing left a b with
  | zero => simp [gfMulRounds]
  | succ rounds ih =>
    have low : ∀ a : UInt8, a &&& 1 = 0 ∨ a &&& 1 = 1 := bit_single 0
    rw [gfMulRounds_zero_succ, gfMulRounds_zero_succ, gfMulRounds_zero_succ,
      UInt8.shiftRight_xor, ih, xor_xor_xor_comm, ite_mask_xor low (by decide)]

theorem gfMul_xor_left (a b right : UInt8) :
    gfMul (a ^^^ b) right = gfMul a right ^^^ gfMul b right := gfMulRounds_xor_left 8 a b right

theorem gfMul_xor_right (left a b : UInt8) :
    gfMul left (a ^^^ b) = gfMul left a ^^^ gfMul left b := gfMulRounds_xor_right 8 left a b

/-- A byte is the sum of its bits. -/
theorem byte_eq_bits (a : UInt8) :
    a = (List.finRange 8).foldl (fun sum i => sum ^^^ (a &&& bit i)) 0 := by
  apply forall_byte (p := fun a =>
    a = (List.finRange 8).foldl (fun sum i => sum ^^^ (a &&& bit i)) 0)
  decide +kernel

/-- Additive functions that agree on the powers of two are equal. -/
theorem additive_ext {f g : UInt8 → UInt8} (fAdd : ∀ a b, f (a ^^^ b) = f a ^^^ f b)
    (gAdd : ∀ a b, g (a ^^^ b) = g a ^^^ g b)
    (basis : ∀ i : Fin 8, f (bit i) = g (bit i)) (a : UInt8) : f a = g a := by
  have zero : f 0 = g 0 := by
    have one := fAdd 0 0
    have two := gAdd 0 0
    rw [UInt8.xor_self] at one two
    rw [one, two, UInt8.xor_self, UInt8.xor_self]
  have bits : ∀ (indices : List (Fin 8)) (sum : UInt8), f sum = g sum →
      f (indices.foldl (fun sum i => sum ^^^ (a &&& bit i)) sum) =
        g (indices.foldl (fun sum i => sum ^^^ (a &&& bit i)) sum) := by
    intro indices
    induction indices with
    | nil => exact fun _ same => same
    | cons i indices ih =>
      intro sum same
      apply ih
      rw [fAdd, gAdd, same]
      rcases bit_single i a with clear | set
      · rw [clear, zero]
      · rw [set, basis i]
  rw [byte_eq_bits a]
  exact bits _ 0 zero

/-! ## The ring laws -/

theorem gfMul_comm (a b : UInt8) : gfMul a b = gfMul b a := by
  apply additive_ext (f := (gfMul · b)) (g := (gfMul b ·)) (gfMul_xor_left · · b)
    (gfMul_xor_right b)
  intro i
  apply additive_ext (f := (gfMul (bit i) ·)) (g := (gfMul · (bit i)))
    (gfMul_xor_right _) (gfMul_xor_left · · _)
  revert i
  decide +kernel

theorem gfMul_assoc (a b c : UInt8) : gfMul (gfMul a b) c = gfMul a (gfMul b c) := by
  apply additive_ext (f := fun a => gfMul (gfMul a b) c) (g := fun a => gfMul a (gfMul b c))
    (fun x y => by rw [gfMul_xor_left, gfMul_xor_left]) (gfMul_xor_left · · _)
  intro i
  apply additive_ext (f := fun b => gfMul (gfMul (bit i) b) c)
    (g := fun b => gfMul (bit i) (gfMul b c))
    (fun x y => by rw [gfMul_xor_right, gfMul_xor_left])
    (fun x y => by rw [gfMul_xor_left, gfMul_xor_right])
  intro j
  apply additive_ext
    (f := fun c => gfMul (gfMul (bit i) (bit j)) c)
    (g := fun c => gfMul (bit i) (gfMul (bit j) c))
    (gfMul_xor_right _) (fun x y => by rw [gfMul_xor_right, gfMul_xor_right])
  revert i j
  decide +kernel

theorem gfMul_one (a : UInt8) : gfMul a 1 = a := by
  apply additive_ext (f := (gfMul · 1)) (g := id) (gfMul_xor_left · · 1) fun _ _ => rfl
  decide +kernel

theorem gfMul_zero (a : UInt8) : gfMul a 0 = 0 := by
  have sum := gfMul_xor_right a 0 0
  rwa [UInt8.xor_self, UInt8.xor_self] at sum

/-- The bytes as a field: `^^^` is the sum, `gfMul` the product. -/
def Gf256 : Type := UInt8

/-- A byte as an element of the field. -/
def gf (byte : UInt8) : Gf256 := byte

namespace Gf256

instance : DecidableEq Gf256 := inferInstanceAs (DecidableEq UInt8)

instance : Zero Gf256 := ⟨(0 : UInt8)⟩

instance : One Gf256 := ⟨(1 : UInt8)⟩

instance : Add Gf256 := ⟨fun a b => UInt8.xor a b⟩

instance : Sub Gf256 := ⟨fun a b => UInt8.xor a b⟩

instance : Neg Gf256 := ⟨id⟩

instance : Mul Gf256 := ⟨gfMul⟩

instance : CommRing Gf256 where
  add_assoc := UInt8.xor_assoc
  add_comm := UInt8.xor_comm
  zero_add _ := UInt8.zero_xor
  add_zero _ := UInt8.xor_zero
  neg_add_cancel _ := UInt8.xor_self
  sub_eq_add_neg _ _ := rfl
  nsmul := nsmulRec
  zsmul := zsmulRec
  mul_assoc := gfMul_assoc
  mul_comm := gfMul_comm
  mul_one := gfMul_one
  one_mul a := (gfMul_comm 1 a).trans (gfMul_one a)
  mul_zero := gfMul_zero
  zero_mul a := (gfMul_comm 0 a).trans (gfMul_zero a)
  left_distrib := gfMul_xor_right
  right_distrib := gfMul_xor_left

end Gf256

@[simp] theorem gf_xor (a b : UInt8) : gf (a ^^^ b) = gf a + gf b := rfl

@[simp] theorem gf_gfMul (a b : UInt8) : gf (gfMul a b) = gf a * gf b := rfl

@[simp] theorem gf_zero : gf 0 = 0 := rfl

@[simp] theorem gf_one : gf 1 = 1 := rfl

namespace Gf256

theorem add_self (a : Gf256) : a + a = 0 := UInt8.xor_self

theorem sub_eq_add (a b : Gf256) : a - b = a + b := rfl

/-! ## Inverses -/

theorem pow_two_add (a b : Gf256) : (a + b) ^ 2 = a ^ 2 + b ^ 2 := by
  have cross := add_self (a * b)
  calc (a + b) ^ 2 = a ^ 2 + b ^ 2 + (a * b + a * b) := by ring
    _ = a ^ 2 + b ^ 2 := by rw [cross, add_zero]

theorem iterate_square (rounds : ℕ) (a : Gf256) :
    (fun b : Gf256 => b * b)^[rounds] a = a ^ 2 ^ rounds := by
  induction rounds with
  | zero => simp
  | succ rounds ih => rw [Function.iterate_succ_apply', ih, pow_succ 2, pow_mul, pow_two]

theorem pow_two_pow_add (rounds : ℕ) (a b : Gf256) :
    (a + b) ^ 2 ^ rounds = a ^ 2 ^ rounds + b ^ 2 ^ rounds := by
  induction rounds with
  | zero => simp
  | succ rounds ih => rw [pow_succ 2, pow_mul, pow_mul, pow_mul, ih, pow_two_add]

/-- Squaring eight times gives the byte back: it is additive, so eight bytes decide. -/
theorem pow_256 (a : Gf256) : a ^ 256 = a := by
  apply additive_ext (f := fun a => gf a ^ 2 ^ 8) (g := id) (pow_two_pow_add 8) fun _ _ => rfl
  intro i
  show gf (bit i) ^ 2 ^ 8 = gf (bit i)
  rw [← iterate_square]
  revert i
  decide +kernel

theorem eq_zero_or_one_of_idempotent (a : Gf256) : a * a = a → a = 0 ∨ a = 1 := by
  apply forall_byte (p := fun a => gfMul a a = a → a = 0 ∨ a = 1)
  decide +kernel

theorem pow_255 {a : Gf256} (nonzero : a ≠ 0) : a ^ 255 = 1 := by
  have idempotent : a ^ 255 * a ^ 255 = a ^ 255 := by
    calc a ^ 255 * a ^ 255 = a ^ 256 * a ^ 254 := by ring
      _ = a ^ 255 := by
        rw [pow_256]
        ring
  rcases eq_zero_or_one_of_idempotent _ idempotent with zero | one
  · have product : a ^ 255 * a = a := (pow_succ a 255).symm.trans (pow_256 a)
    rw [zero, zero_mul] at product
    exact absurd product.symm nonzero
  · exact one

end Gf256

theorem odd_iff (exponent : UInt8) : exponent &&& 1 ≠ 0 ↔ exponent.toNat % 2 = 1 := by
  rw [Ne, ← UInt8.toNat_inj, UInt8.toNat_and]
  show ¬(exponent.toNat &&& 1) = 0 ↔ _
  rw [Nat.and_one_is_mod]
  omega

theorem gf_gfPowRounds (rounds : ℕ) (base exponent result : UInt8)
    (small : exponent.toNat < 2 ^ rounds) :
    gf (gfPowRounds rounds base exponent result) = gf result * gf base ^ exponent.toNat := by
  induction rounds generalizing base exponent result with
  | zero =>
    have zero : exponent.toNat = 0 := by omega
    rw [zero, pow_zero, mul_one, gfPowRounds]
  | succ rounds ih =>
    rw [gfPowRounds]
    split
    · rename_i zero
      rw [zero, UInt8.toNat_zero, pow_zero, mul_one]
    · have half : (exponent >>> 1).toNat = exponent.toNat / 2 := by
        simp [UInt8.toNat_shiftRight, Nat.shiftRight_eq_div_pow]
      have small : exponent.toNat / 2 < 2 ^ rounds := by
        rw [pow_succ] at small
        omega
      rw [ih _ _ _ (half ▸ small), half, gf_gfMul, ← pow_two, ← pow_mul]
      split
      · rename_i odd
        rw [odd_iff] at odd
        rw [gf_gfMul, mul_assoc, ← pow_succ',
          show 2 * (exponent.toNat / 2) + 1 = exponent.toNat by omega]
      · rename_i even
        rw [odd_iff] at even
        rw [show 2 * (exponent.toNat / 2) = exponent.toNat by omega]

/-- The loop computes the power. -/
@[simp] theorem gf_gfPow (base exponent : UInt8) :
    gf (gfPow base exponent) = gf base ^ exponent.toNat := by
  rw [gfPow, gf_gfPowRounds 8 base exponent 1 exponent.toNat_lt, gf_one, one_mul]

instance : Inv Gf256 := ⟨fun a => gf (gfPow a 254)⟩

theorem Gf256.inv_eq (a : Gf256) : a⁻¹ = a ^ 254 := gf_gfPow a 254

/-- **The bytes are a field.** -/
instance : Field Gf256 where
  exists_pair_ne := ⟨0, 1, by decide⟩
  mul_inv_cancel a nonzero := by
    rw [Gf256.inv_eq, ← pow_succ']
    exact Gf256.pow_255 nonzero
  inv_zero := by decide +kernel
  nnqsmul := _
  nnqsmul_def := fun _ _ => rfl
  qsmul := _
  qsmul_def := fun _ _ => rfl

theorem gfDiv_ok (numerator : UInt8) {denominator : UInt8} (nonzero : denominator ≠ 0) :
    ∃ quotient, gfDiv numerator denominator = .ok quotient ∧
      gf quotient = gf numerator / gf denominator := by
  unfold gfDiv
  rw [if_neg nonzero]
  split
  · rename_i zero
    exact ⟨0, rfl, by rw [zero, gf_zero, zero_div]⟩
  · exact ⟨_, rfl, (div_eq_mul_inv (gf numerator) (gf denominator)).symm⟩

/-! ## The coefficients of the slots -/

theorem gf_globalCoefficient (index : ℕ) : gf (globalCoefficient index) = gf 2 ^ index := by
  induction index with
  | zero => rfl
  | succ index ih => rw [globalCoefficient, gf_gfMul, ih, pow_succ]

theorem globalCoefficient_ne_zero (index : ℕ) : gf (globalCoefficient index) ≠ 0 := by
  rw [gf_globalCoefficient]
  exact pow_ne_zero _ (show gf 2 ≠ 0 by decide)

/-- The forty data shards of a block have distinct coefficients. -/
theorem globalCoefficient_injective {first second : ℕ} (one : first < 40) (two : second < 40)
    (same : globalCoefficient first = globalCoefficient second) : first = second := by
  have distinct : ((List.range 40).map globalCoefficient).Nodup := by decide +kernel
  exact List.inj_on_of_nodup_map distinct (List.mem_range.mpr one) (List.mem_range.mpr two) same

end FlowWeave.Realtime
