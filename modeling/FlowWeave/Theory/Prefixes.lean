/-
# Theory.Prefixes — words that begin with the same bits

Bits are counted from the most significant one. `Agree n x y` says that two words have the same
first `n` bits; the words that agree with `y` are a cylinder. A mask of `n` leading ones cuts a word
down to its first bits (`and_mask_eq_iff`), and a cylinder has one length and one word with no bit
past that length (`agree_unique`).
-/
import Mathlib.Logic.Basic

namespace FlowWeave.Theory.Prefixes

set_option autoImplicit false

variable {w : Nat}

/-- The word with `n` leading ones. -/
def mask (w n : Nat) : BitVec w := if n = 0 then 0 else BitVec.allOnes w <<< (w - n)

/-- The same, with the subtraction and the shift checked for overflow. -/
def checkedMask (w n : Nat) : Option (BitVec w) :=
  if n = 0 then some 0
  else if n ≤ w ∧ w - n < w then some (BitVec.allOnes w <<< (w - n))
  else none

variable {n m : Nat} {y x z : BitVec w}

theorem checkedMask_eq (short : n ≤ w) : checkedMask w n = some (mask w n) := by
  unfold checkedMask mask
  split
  · rfl
  · rw [if_pos (by omega)]

theorem getMsbD_mask (short : n ≤ w) (i : Nat) : (mask w n).getMsbD i = decide (i < n) := by
  unfold mask
  split
  · simp_all
  · rw [BitVec.getMsbD_shiftLeft, BitVec.getMsbD_allOnes]
    exact decide_eq_decide.mpr (by omega)

def Agree (n : Nat) (x y : BitVec w) : Prop := ∀ i < n, x.getMsbD i = y.getMsbD i

theorem Agree.refl (n : Nat) (x : BitVec w) : Agree n x x := fun _ _ => rfl

theorem Agree.symm (agree : Agree n x y) : Agree n y x :=
  fun i inside => (agree i inside).symm

theorem Agree.trans (first : Agree n x y) (second : Agree m y z) (le : n ≤ m) : Agree n x z :=
  fun i inside => (first i inside).trans (second i (Nat.lt_of_lt_of_le inside le))

/-- A word without a bit past its first `n` is what the mask leaves of the words that agree. -/
theorem and_mask_eq_iff (short : n ≤ w) (canonical : y &&& mask w n = y) :
    x &&& mask w n = y ↔ Agree n x y := by
  have bit (i : Nat) : y.getMsbD i = (y.getMsbD i && decide (i < n)) := by
    have same := congrArg (fun word => word.getMsbD i) canonical
    simpa only [BitVec.getMsbD_and, getMsbD_mask short] using same.symm
  constructor
  · rintro rfl i inside
    simp [BitVec.getMsbD_and, getMsbD_mask short, inside]
  · intro agree
    apply BitVec.eq_of_getMsbD_eq
    intro i _
    rw [BitVec.getMsbD_and, getMsbD_mask short]
    by_cases inside : i < n
    · simp [inside, agree i inside]
    · rw [bit i]
      simp [inside]

/-- All bits past the first `n` are turned over. -/
theorem exists_agree_ne (y : BitVec w) (short : n < w) :
    ∃ x, Agree n x y ∧ x.getMsbD n ≠ y.getMsbD n := by
  have flipped (i : Nat) : (y ^^^ ~~~mask w n).getMsbD i =
      (y.getMsbD i ^^ (decide (i < w) && !decide (i < n))) := by
    rw [BitVec.getMsbD_xor, BitVec.getMsbD_not, getMsbD_mask (Nat.le_of_lt short)]
  refine ⟨y ^^^ ~~~mask w n, fun i inside => ?_, ?_⟩
  · simp [flipped, inside]
  · simp [flipped, short]

theorem le_of_agree_imp (short : m ≤ w) (imp : ∀ x, Agree n x y → Agree m x z) : m ≤ n := by
  refine Nat.le_of_not_lt fun longer => ?_
  obtain ⟨x, agree, differs⟩ := exists_agree_ne y (Nat.lt_of_lt_of_le longer short)
  have same := (imp x agree).trans (imp y (.refl n y)).symm (Nat.le_refl m)
  exact differs (same n longer)

/-- A cylinder has one length and one canonical word. -/
theorem agree_unique (short : n ≤ w) (short' : m ≤ w) (canonical : y &&& mask w n = y)
    (canonical' : z &&& mask w m = z) (same : ∀ x, Agree n x y ↔ Agree m x z) : n = m ∧ y = z := by
  have length : n = m := Nat.le_antisymm (le_of_agree_imp short fun x => (same x).mpr)
    (le_of_agree_imp short' fun x => (same x).mp)
  subst length
  have agree := (same y).mp (.refl n y)
  exact ⟨rfl, canonical.symm.trans ((and_mask_eq_iff short canonical').mpr agree)⟩

end FlowWeave.Theory.Prefixes
