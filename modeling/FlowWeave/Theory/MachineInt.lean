/-
# Theory.MachineInt — bounded naturals with checked and saturating arithmetic

Machine words are naturals below an explicit bound. A checked operation answers
`none` exactly when the exact result leaves the word; a saturating one is
clipped at the largest word. Both agree with the exact operation whenever that
fits, which is the only form in which the programs above use them. Flags are the bits
of a word: the last section says when all flags of a mask are among those of a word.
-/
import Mathlib.Data.Nat.Bitwise

namespace FlowWeave.Theory.MachineInt

set_option autoImplicit false

/-- The largest `usize` of a 64-bit target. -/
def usizeMax : Nat := 2 ^ 64 - 1

/-- The largest `u64`. -/
def u64Max : Nat := 2 ^ 64 - 1

/-- The largest `u128`. -/
def u128Max : Nat := 2 ^ 128 - 1

/-- Addition that answers `none` when the sum exceeds `bound`. -/
def checkedAdd (bound a b : Nat) : Option Nat :=
  if a + b ≤ bound then some (a + b) else none

/-- Multiplication that answers `none` when the product exceeds `bound`. -/
def checkedMul (bound a b : Nat) : Option Nat :=
  if a * b ≤ bound then some (a * b) else none

/-- Addition clipped at `bound`. -/
def saturatingAdd (bound a b : Nat) : Nat := min (a + b) bound

/-- Multiplication clipped at `bound`. -/
def saturatingMul (bound a b : Nat) : Nat := min (a * b) bound

theorem checkedAdd_eq_some {bound a b : Nat} (fits : a + b ≤ bound) :
    checkedAdd bound a b = some (a + b) := if_pos fits

theorem checkedAdd_some_iff {bound a b sum : Nat} :
    checkedAdd bound a b = some sum ↔ sum = a + b ∧ a + b ≤ bound := by
  unfold checkedAdd
  split
  · rename_i fits
    simp only [Option.some.injEq, fits, and_true]
    exact eq_comm
  · rename_i overflows
    simp [overflows]

theorem checkedMul_some_iff {bound a b product : Nat} :
    checkedMul bound a b = some product ↔ product = a * b ∧ a * b ≤ bound := by
  unfold checkedMul
  split
  · rename_i fits
    simp only [Option.some.injEq, fits, and_true]
    exact eq_comm
  · rename_i overflows
    simp [overflows]

theorem saturatingAdd_le (bound a b : Nat) : saturatingAdd bound a b ≤ a + b :=
  Nat.min_le_left _ _

theorem saturatingAdd_eq {bound a b : Nat} (fits : a + b ≤ bound) :
    saturatingAdd bound a b = a + b := Nat.min_eq_left fits

theorem toNat_min (a b : UInt16) : (min a b).toNat = min a.toNat b.toNat := by
  show (if a ≤ b then a else b).toNat = _
  rw [Nat.min_def]
  simp only [UInt16.le_iff_toNat_le]
  split <;> rfl

theorem toNat_max (a b : UInt16) : (max a b).toNat = max a.toNat b.toNat := by
  show (if a ≤ b then b else a).toNat = _
  rw [Nat.max_def]
  simp only [UInt16.le_iff_toNat_le]
  split <;> rfl

/-! ## Flags -/

/-- A word has a flag of a union exactly when it has a flag of one of the two. -/
theorem flag_or_iff (flags first second : UInt32) :
    flags &&& (first ||| second) ≠ 0 ↔ flags &&& first ≠ 0 ∨ flags &&& second ≠ 0 := by
  simp only [ne_eq, ← UInt32.toNat_inj, UInt32.toNat_and, UInt32.toNat_or, UInt32.toNat_zero,
    Nat.and_or_distrib_left, Nat.or_eq_zero_iff]
  exact not_and_or

theorem mask_of_flag {flags mask : UInt32} {i : Nat} (single : mask.toNat = 2 ^ i)
    (present : flags &&& mask ≠ 0) : flags &&& mask = mask := by
  have value : (flags &&& mask).toNat = (flags.toNat.testBit i).toNat * 2 ^ i := by
    rw [UInt32.toNat_and, single, Nat.and_two_pow]
  cases flag : flags.toNat.testBit i with
  | false =>
    rw [flag] at value
    exact absurd (UInt32.toNat_inj.mp (by simpa using value)) present
  | true =>
    rw [flag] at value
    exact UInt32.toNat_inj.mp (by simpa [single] using value)

theorem mask_and_not {flags mask : UInt32} (all : flags &&& mask = mask) :
    mask &&& ~~~flags = 0 := by
  rw [← all, UInt32.and_comm flags mask, UInt32.and_assoc, UInt32.and_not_self, UInt32.and_zero]

theorem or_and_not {first second flags : UInt32} (one : first &&& ~~~flags = 0)
    (two : second &&& ~~~flags = 0) : (first ||| second) &&& ~~~flags = 0 := by
  apply UInt32.toBitVec_inj.mp
  have one := congrArg UInt32.toBitVec one
  have two := congrArg UInt32.toBitVec two
  simp only [UInt32.toBitVec_and, UInt32.toBitVec_or] at one two ⊢
  rw [BitVec.and_comm, BitVec.and_or_distrib_left, BitVec.and_comm, one, BitVec.and_comm, two]
  rfl

end FlowWeave.Theory.MachineInt
