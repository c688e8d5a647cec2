/-
# Theory.Checks — validators as programs of `Except`

A validator runs checks one after the other and stops at the first that refuses.
`refuseIf` is one check and `okOr` the reading of an optional value; the `eq_ok` lemmas
say what is known when a sequence of them has come to its end.
-/
import Mathlib.Logic.Basic

namespace FlowWeave.Theory.Checks

set_option autoImplicit false

variable {ε α β : Type}

def refuseIf (refused : Prop) [Decidable refused] (error : ε) : Except ε Unit :=
  if refused then .error error else .ok ()

def okOr (error : ε) : Option α → Except ε α
  | none => .error error
  | some value => .ok value

variable {first : Except ε α}

theorem bind_eq_ok {next : α → Except ε β} {result : β} :
    (first >>= next) = .ok result ↔ ∃ value, first = .ok value ∧ next value = .ok result := by
  cases first with
  | error error => exact ⟨nofun, nofun⟩
  | ok value => exact ⟨fun ran => ⟨value, rfl, ran⟩, by rintro ⟨_, ⟨⟩, ran⟩; exact ran⟩

theorem refuseIf_eq_ok {refused : Prop} [Decidable refused] {error : ε} {value : Unit} :
    refuseIf refused error = .ok value ↔ ¬ refused := by
  unfold refuseIf
  split <;> simp_all

theorem ite_error_eq_ok {refused : Prop} [Decidable refused] {error : ε} {next : Except ε α}
    {result : α} :
    (if refused then .error error else next) = .ok result ↔ ¬ refused ∧ next = .ok result := by
  split <;> simp_all

theorem okOr_eq_ok {error : ε} {value : Option α} {result : α} :
    okOr error value = .ok result ↔ value = some result := by
  cases value <;> simp [okOr]

theorem mapError_eq_ok {δ : Type} {adapt : ε → δ} {result : α} :
    first.mapError adapt = .ok result ↔ first = .ok result := by
  cases first with
  | error error => exact ⟨nofun, nofun⟩
  | ok value => constructor <;> (rintro ⟨⟩; rfl)

/-- What is seen of a result is seen of its value. -/
theorem ok_of_toOption_map {look : α → β} {seen : β}
    (evaluated : first.toOption.map look = some seen) :
    ∃ value, first = .ok value ∧ look value = seen := by
  cases first with
  | error error => cases evaluated
  | ok value => exact ⟨value, rfl, Option.some.inj evaluated⟩

/-! ### Lists -/

/-- What every round of a loop keeps, the loop keeps. -/
theorem foldlM_keeps {σ : Type} (keeps : σ → σ → Prop) {round : σ → α → Option σ}
    (refl : ∀ state, keeps state state)
    (trans : ∀ {first second third}, keeps first second → keeps second third → keeps first third)
    (step : ∀ {state item after}, round state item = some after → keeps state after)
    (items : List α) {state after : σ} (ran : items.foldlM round state = some after) :
    keeps state after := by
  induction items generalizing state with
  | nil =>
    cases ran
    exact refl _
  | cons item items ih =>
    rw [List.foldlM_cons] at ran
    obtain ⟨mid, first, rest⟩ := Option.bind_eq_some_iff.mp ran
    exact trans (step first) (ih rest)

theorem mapM_ok (f : α → Except ε β) (g : α → β) (xs : List α)
    (succeeds : ∀ x ∈ xs, f x = .ok (g x)) : xs.mapM f = .ok (xs.map g) := by
  induction xs with
  | nil => rfl
  | cons x rest ih =>
    have head := succeeds x List.mem_cons_self
    have tail := ih (fun y member => succeeds y (List.mem_cons_of_mem _ member))
    simp [List.mapM_cons, head, tail, bind, Except.bind, pure, Except.pure]

/-- A list is read by a reader of texts exactly when it was written. -/
theorem mapM_eq_ok_iff_map {f : α → Except ε β} {g : β → α}
    (inverse : ∀ x y, f x = .ok y ↔ x = g y) {xs : List α} {ys : List β} :
    xs.mapM f = .ok ys ↔ xs = ys.map g := by
  induction xs generalizing ys with
  | nil => cases ys <;> simp [pure, Except.pure]
  | cons x xs ih =>
    rw [List.mapM_cons]
    cases ys with
    | nil => cases f x <;> cases xs.mapM f <;> simp [bind, Except.bind, pure, Except.pure]
    | cons y ys =>
      rw [List.map_cons, List.cons.injEq, ← inverse, ← ih]
      cases f x <;> cases xs.mapM f <;> simp [bind, Except.bind, pure, Except.pure]

end FlowWeave.Theory.Checks
