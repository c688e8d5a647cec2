/-
# Theory.Panics — functions that return a result and may panic

A `Fallible ε α` is what such a function comes to: `none` is a panic, `some` its result. An
index or a range out of bounds panics, a checked operation whose failure is an error of the
function does not. The lemmas run a function whose ranges are known to be in bounds.
-/
import FlowWeave.Theory.BigEndian

namespace FlowWeave.Theory

open BigEndian

set_option autoImplicit false

abbrev Fallible (ε α : Type) : Type := ExceptT ε Option α

namespace Fallible

variable {ε α β : Type}

/-- A value that must be there: the function panics if it is not. -/
def expect (value : Option α) : Fallible ε α := value.map .ok

/-- A value whose absence is an error of the function. -/
def okOr (error : ε) (value : Option α) : Fallible ε α :=
  some (value.elim (.error error) .ok)

/-- A call whose error is that of the function. -/
def call (result : Except ε α) : Fallible ε α := some result

/-- The error of the function unless a condition holds. -/
def ensure (condition : Prop) [Decidable condition] (error : ε) : Fallible ε Unit :=
  if condition then pure () else throw error

/-- A panic unless a condition holds. -/
def assert (condition : Prop) [Decidable condition] : Fallible ε Unit :=
  expect (if condition then some () else none)

@[simp] theorem expect_some (value : α) : (expect (some value) : Fallible ε α) = pure value := rfl

@[simp] theorem okOr_some (error : ε) (value : α) : okOr error (some value) = pure value := rfl

variable {condition : Prop} {found : Option α} {value : α}

@[simp] theorem ensure_of [Decidable condition] (error : ε) (holds : condition) :
    ensure condition error = pure () := if_pos holds

@[simp] theorem ensure_not [Decidable condition] (error : ε) (fails : ¬condition) :
    ensure condition error = throw error := if_neg fails

theorem ensure_eq_call {refused : Prop} [Decidable condition] [Decidable refused] (error : ε)
    (opposite : refused ↔ ¬condition) :
    ensure condition error = call (if refused then .error error else .ok ()) := by
  by_cases holds : condition
  · rw [ensure_of error holds, if_neg (opposite.not.mpr (not_not.mpr holds))]
    rfl
  · rw [ensure_not error holds, if_pos (opposite.mpr holds)]
    rfl

@[simp] theorem call_ok (value : α) : (call (.ok value) : Fallible ε α) = pure value := rfl

theorem call_bind (first : Except ε α) (next : α → Except ε β) :
    call (first >>= next) = call first >>= fun value => call (next value) := by
  cases first <;> rfl

@[simp] theorem throw_bind (error : ε) (next : α → Fallible ε β) :
    (throw error : Fallible ε α) >>= next = throw error := rfl

/-- Two conditions with one error are one condition. -/
theorem ensure_bind_ensure {one two : Prop} [Decidable one] [Decidable two] (error : ε)
    (next : Unit → Fallible ε β) :
    (ensure one error >>= fun _ => ensure two error >>= next) =
      ensure (one ∧ two) error >>= next := by
  by_cases first : one
  · by_cases second : two
    · rw [ensure_of error first, ensure_of error second, ensure_of error ⟨first, second⟩, pure_bind]
    · have not_both : ¬(one ∧ two) := fun both => second both.2
      rw [ensure_of error first, ensure_not error second, ensure_not error not_both, pure_bind]
  · have not_both : ¬(one ∧ two) := fun both => first both.1
    rw [ensure_not error first, ensure_not error not_both, throw_bind, throw_bind]

/-- A sequence returns a value exactly when its parts do. -/
theorem bind_eq_pure_iff {first : Fallible ε α} {next : α → Fallible ε β} {value : β} :
    first >>= next = pure value ↔ ∃ middle, first = pure middle ∧ next middle = pure value := by
  constructor
  · intro runs
    match first with
    | none => exact absurd runs nofun
    | some (.error error) => exact absurd runs nofun
    | some (.ok middle) => exact ⟨middle, rfl, runs⟩
  · rintro ⟨middle, rfl, runs⟩
    exact runs

theorem expect_eq_pure_iff : (expect found : Fallible ε α) = pure value ↔ found = some value := by
  cases found with
  | none => exact ⟨nofun, nofun⟩
  | some found => exact ⟨fun same => by cases same; rfl, fun same => by cases same; rfl⟩

theorem okOr_eq_pure_iff {error : ε} : okOr error found = pure value ↔ found = some value := by
  cases found with
  | none => exact ⟨nofun, nofun⟩
  | some found => exact ⟨fun same => by cases same; rfl, fun same => by cases same; rfl⟩

theorem ensure_eq_pure_iff [Decidable condition] {error : ε} {nothing : Unit} :
    ensure condition error = pure nothing ↔ condition := by
  unfold ensure
  split
  · rename_i holds
    exact iff_of_true rfl holds
  · rename_i fails
    exact iff_of_false nofun fails

theorem assert_eq_pure_iff [Decidable condition] {nothing : Unit} :
    (assert condition : Fallible ε Unit) = pure nothing ↔ condition := by
  rw [assert, expect_eq_pure_iff]
  simp

theorem call_eq_pure_iff {result : Except ε α} :
    call result = pure value ↔ result = .ok value := Option.some_inj

theorem pure_eq_pure_iff {first second : α} :
    (pure first : Fallible ε α) = pure second ↔ first = second := by
  constructor <;> (rintro ⟨⟩; rfl)

/-! ### Functions that do not panic -/

/-- The function returns. -/
def Returns (run : Fallible ε α) : Prop := run ≠ none

theorem returns_pure (value : α) : Returns (pure value : Fallible ε α) := nofun

theorem returns_throw (error : ε) : Returns (throw error : Fallible ε α) := nofun

theorem returns_expect (there : found = some value) : Returns (expect found : Fallible ε α) := by
  subst there
  exact returns_pure value

theorem returns_okOr (error : ε) (found : Option α) : Returns (okOr error found) := nofun

theorem returns_call (result : Except ε α) : Returns (call result) := nofun

theorem returns_ensure (condition : Prop) [Decidable condition] (error : ε) :
    Returns (ensure condition error) := by
  unfold ensure
  split
  · exact returns_pure ()
  · exact returns_throw error

theorem Returns.bind {first : Fallible ε α} {next : α → Fallible ε β} (one : Returns first)
    (rest : ∀ value, first = pure value → Returns (next value)) : Returns (first >>= next) := by
  match first, one with
  | none, one => exact absurd rfl one
  | some (.error error), _ => exact returns_throw error
  | some (.ok value), _ => exact rest value rfl

end Fallible

/-- The bytes of a range; none if the range is out of bounds. -/
def slice? (bytes : List UInt8) (first last : Nat) : Option (List UInt8) :=
  if first ≤ last ∧ last ≤ bytes.length then some (slice bytes first last) else none

theorem slice?_eq {bytes : List UInt8} {first last : Nat} (ordered : first ≤ last)
    (inside : last ≤ bytes.length) : slice? bytes first last = some (slice bytes first last) :=
  if_pos ⟨ordered, inside⟩

end FlowWeave.Theory
