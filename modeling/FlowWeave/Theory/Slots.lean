/-
# Theory.Slots — fixed arrays of cells that are filled one by one

`Slots size α` is an array of optional values: a cell is missing until a value is stored in
it. `read` and `fill` take any index; reading outside the array finds nothing and filling
there does nothing. `missing` lists the empty cells in increasing order. `foldlM_known` is the
rule for a loop over the cells that are not skipped and must all be there. A flag of an array
of flags is `flag`, raised by `raise`.
-/
import Mathlib.Algebra.BigOperators.Group.List.Basic

namespace FlowWeave.Theory

set_option autoImplicit false

/-- An array of `size` cells, each with a value or none. -/
abbrev Slots (size : ℕ) (α : Type) := Vector (Option α) size

namespace Slots

variable {size : ℕ} {α : Type}

def empty : Slots size α := Vector.replicate size none

def read (slots : Slots size α) (index : ℕ) : Option α := slots[index]?.join

def fill (slots : Slots size α) (index : ℕ) (value : α) : Slots size α :=
  slots.setIfInBounds index (some value)

/-- The empty cells, in increasing order. -/
def missing (slots : Slots size α) : List ℕ :=
  (List.range size).filter fun index => (slots.read index).isNone

@[simp] theorem read_empty (index : ℕ) : (empty : Slots size α).read index = none := by
  rw [read, empty, Vector.getElem?_replicate]
  split <;> rfl

variable {index : ℕ} {slots : Slots size α}

theorem lt_of_read {value : α} (found : slots.read index = some value) : index < size := by
  by_contra outside
  simp [read, outside] at found

theorem read_fill (inside : index < size) (value : α) (other : ℕ) :
    (slots.fill index value).read other =
      if index = other then some value else slots.read other := by
  unfold read fill
  rw [Vector.getElem?_setIfInBounds]
  by_cases same : index = other
  · simp [← same, inside]
  · simp [same]

theorem mem_missing : index ∈ slots.missing ↔ index < size ∧ slots.read index = none := by
  simp [missing]

theorem missing_nodup (slots : Slots size α) : slots.missing.Nodup :=
  List.nodup_range.filter _

theorem exists_read (inside : index < size) (present : index ∉ slots.missing) :
    ∃ value, slots.read index = some value := by
  rw [mem_missing, not_and] at present
  exact Option.ne_none_iff_exists'.mp (present inside)

/-- A sum over all cells is one over the empty cells and one over the others. -/
theorem sum_eq_missing_add_known {M : Type} [AddCommMonoid M] (slots : Slots size α)
    (value : ℕ → M) :
    ((List.range size).map value).sum = (slots.missing.map value).sum +
      (((List.range size).filter (· ∉ slots.missing)).map value).sum := by
  have empty : (List.range size).filter (· ∈ slots.missing) = slots.missing := by
    conv_rhs => rw [missing]
    apply List.filter_congr
    intro index member
    have inside := List.mem_range.mp member
    cases found : slots.read index <;> simp [mem_missing, inside, found]
  have parts := List.filter_append_perm (fun index => decide (index ∈ slots.missing))
    (List.range size)
  rw [empty] at parts
  rw [← (parts.map value).sum_eq, List.map_append, List.sum_append]
  simp only [decide_not]

/-- A loop over the cells that are not skipped. `motive` is what holds after some of them. -/
theorem foldlM_known {σ : Type} (slots : Slots size α) (skip : ℕ → Prop) [DecidablePred skip]
    (next : σ → ℕ → α → σ) (motive : List ℕ → σ → Prop)
    (known : ∀ index < size, ¬skip index → ∃ value, slots.read index = some value)
    (step : ∀ done state index value, motive done state → ¬skip index →
      slots.read index = some value → motive (done ++ [index]) (next state index value))
    (indices : List ℕ) (inside : ∀ index ∈ indices, index < size) (done : List ℕ) (state : σ)
    (start : motive done state) :
    ∃ result, indices.foldlM (fun state index =>
        if skip index then some state
        else do
          let value ← slots.read index
          some (next state index value)) state = some result ∧
      motive (done ++ indices.filter (¬skip ·)) result := by
  induction indices generalizing done state with
  | nil => exact ⟨state, rfl, by simpa using start⟩
  | cons index indices ih =>
    have rest := fun (done : List ℕ) (state : σ) (start : motive done state) =>
      ih (fun other member => inside other (List.mem_cons_of_mem _ member)) done state start
    rw [List.foldlM_cons]
    by_cases skipped : skip index
    · rw [if_pos skipped, List.filter_cons_of_neg (by simpa using skipped)]
      exact rest done state start
    · obtain ⟨value, found⟩ := known index (inside index List.mem_cons_self) skipped
      rw [if_neg skipped, found, List.filter_cons_of_pos (by simpa using skipped),
        List.append_cons]
      exact rest _ _ (step done state index value start skipped found)

/-- Every value stored is one that belongs in its cell. -/
def Holds (belongs : ℕ → α → Prop) (slots : Slots size α) : Prop :=
  ∀ index value, slots.read index = some value → belongs index value

theorem holds_empty (belongs : ℕ → α → Prop) : (empty : Slots size α).Holds belongs := by
  intro index value found
  rw [read_empty] at found
  cases found

theorem Holds.fill {belongs : ℕ → α → Prop} (holds : slots.Holds belongs) {value : α}
    (right : belongs index value) : (slots.fill index value).Holds belongs := by
  intro other found read
  rw [Slots.read, Slots.fill, Vector.getElem?_setIfInBounds] at read
  split at read
  · rename_i same
    split at read <;> cases read
    exact same ▸ right
  · exact holds other found read

end Slots

/-- One flag of an array of flags; none is raised outside. -/
def flag {size : ℕ} (flags : Vector Bool size) (index : ℕ) : Bool := flags[index]?.getD false

def raise {size : ℕ} (flags : Vector Bool size) (index : ℕ) : Vector Bool size :=
  flags.setIfInBounds index true

end FlowWeave.Theory
