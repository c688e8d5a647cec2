/-
# Theory.Spacing — schedules whose entries keep their distance

Every entry of a schedule has a time and keeps the time after it free for a while. So the entries
inside a window of time, the last one apart, keep free at most as much time as the window has
(`Spaced.sum_dropLast_le`), and between two entries there is at least what those from the first
to before the second keep free (`Spaced.between`).
-/
import Mathlib.Algebra.Order.Ring.Nat

namespace FlowWeave.Theory.Spacing

set_option autoImplicit false

variable {α : Type} (time gap : α → ℕ)

/-- Every later entry comes after the gap of every earlier one. -/
def Spaced (entries : List α) : Prop :=
  entries.Pairwise fun first second => time first + gap first ≤ time second

variable {time gap} {entries : List α} (spaced : Spaced time gap entries)

include spaced

theorem Spaced.ordered : entries.Pairwise fun first second => time first ≤ time second :=
  spaced.imp fun apart => (Nat.le_add_right _ _).trans apart

/-- An entry after all gaps can be added. -/
theorem Spaced.append {entry : α}
    (after : ∀ earlier ∈ entries, time earlier + gap earlier ≤ time entry) :
    Spaced time gap (entries ++ [entry]) := by
  refine List.pairwise_append.mpr ⟨spaced, List.pairwise_singleton _ _, ?_⟩
  intro earlier member last isLast
  rw [List.mem_singleton.mp isLast]
  exact after earlier member

/-- **What the entries of a window keep free.** -/
theorem Spaced.sum_dropLast_le (nonempty : entries ≠ []) {start finish : ℕ}
    (after : ∀ entry ∈ entries, start ≤ time entry)
    (before : ∀ entry ∈ entries, time entry ≤ finish) :
    start + (entries.dropLast.map gap).sum ≤ finish := by
  induction entries generalizing start with
  | nil => exact absurd rfl nonempty
  | cons entry rest ih =>
    have starts := after entry List.mem_cons_self
    cases rest with
    | nil => simpa using starts.trans (before entry List.mem_cons_self)
    | cons second rest =>
      obtain ⟨apart, spaced⟩ := List.pairwise_cons.mp spaced
      have rest := ih spaced (List.cons_ne_nil _ _) apart
        fun entry member => before entry (List.mem_cons_of_mem _ member)
      rw [List.dropLast_cons_cons, List.map_cons, List.sum_cons]
      omega

theorem Spaced.time_le {i j : ℕ} (ordered : i ≤ j) (inside : j < entries.length)
    : time entries[i] ≤ time entries[j] := by
  rcases ordered.eq_or_lt with rfl | earlier
  · exact le_rfl
  · exact List.pairwise_iff_getElem.mp spaced.ordered i j _ inside earlier

/-- **Between two entries** lie the gaps from the first to before the second. -/
theorem Spaced.between {i j : ℕ} (ordered : i < j) (inside : j < entries.length) :
    time entries[i] + (((entries.take j).drop i).map gap).sum ≤ time entries[j] := by
  set window := (entries.take (j + 1)).drop i with windowDef
  have init : window.dropLast = (entries.take j).drop i := by
    rw [windowDef, List.take_succ_eq_append_getElem inside,
      List.drop_append_of_le_length (by rw [List.length_take]; omega), List.dropLast_concat]
  have member {entry : α} (isMember : entry ∈ window) :
      ∃ k, ∃ below : k < entries.length, i ≤ k ∧ k ≤ j ∧ entry = entries[k] := by
    obtain ⟨k, below, rfl⟩ := List.getElem_of_mem isMember
    rw [windowDef, List.length_drop, List.length_take] at below
    exact ⟨i + k, by omega, by omega, by omega, by simp [windowDef]⟩
  rw [← init]
  apply Spaced.sum_dropLast_le
  · exact spaced.sublist ((List.drop_sublist _ _).trans (List.take_sublist _ _))
  · apply List.ne_nil_of_length_pos
    rw [windowDef, List.length_drop, List.length_take]
    omega
  · intro entry isMember
    obtain ⟨k, below, after, -, rfl⟩ := member isMember
    exact spaced.time_le after below
  · intro entry isMember
    obtain ⟨k, below, -, before, rfl⟩ := member isMember
    exact spaced.time_le before inside

end FlowWeave.Theory.Spacing
