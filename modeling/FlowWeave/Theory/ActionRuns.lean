/-
# Theory.ActionRuns — runs of a partial step function

A system says for each action whether it can be done in a state, and what the state is then. A
run is a sequence of actions. `runAll_invariant` is the induction over runs, `runAll_along` the
one for runs in which each action meets a condition when it is done. `runAll_happened_iff` is
for a property of states that some actions bring about and none takes away, `runAll_settled_iff`
for one that some actions settle again. `of_guarded` opens a step that has a condition.
-/
import Mathlib.Data.List.Basic

namespace FlowWeave.Theory.ActionRuns

set_option autoImplicit false

variable {S A : Type} (step : S → A → Option S)

/-- The state after a sequence of actions, if each can be done in its turn. -/
def runAll : S → List A → Option S
  | state, [] => some state
  | state, action :: rest => (step state action).bind fun next => runAll next rest

/-- Each action is allowed in the state in which it is done. -/
def Along (allowed : S → A → Prop) : S → List A → Prop
  | _, [] => True
  | state, action :: rest =>
    allowed state action ∧ ∀ next, step state action = some next → Along allowed next rest

/-- A step that is done only when a condition holds. -/
theorem of_guarded {guard : Prop} [Decidable guard] {result next : S}
    (stepped : (if guard then some result else none) = some next) : guard ∧ result = next := by
  simpa using stepped

variable {step} {state last : S} {actions : List A}

/-- A condition on actions alone. -/
theorem along_of_forall {allowed : A → Prop} (each : ∀ action ∈ actions, allowed action) :
    Along step (fun _ action => allowed action) state actions := by
  induction actions generalizing state with
  | nil => trivial
  | cons action rest ih =>
    exact ⟨each action List.mem_cons_self, fun next _ =>
      ih fun other listed => each other (List.mem_cons_of_mem _ listed)⟩

theorem runAll_along {inv : S → Prop} {allowed : S → A → Prop}
    (keeps : ∀ state action next, inv state → allowed state action →
      step state action = some next → inv next)
    (ran : runAll step state actions = some last) (along : Along step allowed state actions)
    (holds : inv state) : inv last := by
  induction actions generalizing state with
  | nil =>
    cases ran
    exact holds
  | cons action rest ih =>
    obtain ⟨next, stepped, ran⟩ := Option.bind_eq_some_iff.mp ran
    exact ih ran (along.2 next stepped) (keeps state action next holds along.1 stepped)

theorem runAll_invariant {inv : S → Prop}
    (keeps : ∀ state action next, inv state → step state action = some next → inv next)
    (ran : runAll step state actions = some last) (holds : inv state) : inv last := by
  induction actions generalizing state with
  | nil =>
    cases ran
    exact holds
  | cons action rest ih =>
    obtain ⟨next, stepped, ran⟩ := Option.bind_eq_some_iff.mp ran
    exact ih ran (keeps state action next holds stepped)

theorem runAll_concat {action : A} (ran : runAll step state (actions ++ [action]) = some last) :
    ∃ middle, runAll step state actions = some middle ∧ step middle action = some last := by
  induction actions generalizing state with
  | nil =>
    obtain ⟨next, stepped, ⟨⟩⟩ := Option.bind_eq_some_iff.mp ran
    exact ⟨state, rfl, stepped⟩
  | cons first rest ih =>
    obtain ⟨next, stepped, ran⟩ := Option.bind_eq_some_iff.mp ran
    obtain ⟨middle, ran, ended⟩ := ih ran
    exact ⟨middle, Option.bind_eq_some_iff.mpr ⟨next, stepped, ran⟩, ended⟩

theorem runAll_happened_iff {happened : S → Prop} {culprit : A → Prop}
    (steps : ∀ state action next, step state action = some next →
      (happened next ↔ happened state ∨ culprit action))
    (ran : runAll step state actions = some last) :
    happened last ↔ happened state ∨ ∃ action ∈ actions, culprit action := by
  induction actions generalizing state with
  | nil =>
    cases ran
    simp
  | cons action rest ih =>
    obtain ⟨next, stepped, ran⟩ := Option.bind_eq_some_iff.mp ran
    rw [ih ran, steps state action next stepped, List.exists_mem_cons_iff, or_assoc]

variable (step) in
/-- Whatever an action of a run raises, a later one settles. -/
def AllSettled (raises : S → A → Prop) (settles : A → Prop) (state : S) (actions : List A) : Prop :=
  ∀ before action after middle, actions = before ++ action :: after →
    runAll step state before = some middle → raises middle action →
      ∃ later ∈ after, settles later

theorem allSettled_cons {raises : S → A → Prop} {settles : A → Prop} {action : A} {next : S}
    (stepped : step state action = some next) :
    AllSettled step raises settles state (action :: actions) ↔
      (raises state action → ∃ later ∈ actions, settles later) ∧
        AllSettled step raises settles next actions := by
  constructor
  · intro settled
    refine ⟨fun raised => settled [] action actions state rfl rfl raised, ?_⟩
    intro before other after middle split ran raised
    refine settled (action :: before) other after middle (by rw [split]; rfl) ?_ raised
    rw [runAll, stepped]
    exact ran
  · rintro ⟨first, later⟩ before other after middle split ran raised
    cases before with
    | nil =>
      cases split
      cases ran
      exact first raised
    | cons head before =>
      cases split
      rw [runAll, stepped] at ran
      exact later before other after middle rfl ran raised

/-- For a property of states that steps raise and actions settle. -/
theorem runAll_settled_iff {pending : S → Prop} {raises : S → A → Prop} {settles : A → Prop}
    (steps : ∀ state action next, step state action = some next →
      (pending next ↔ raises state action ∨ pending state ∧ ¬settles action))
    (ran : runAll step state actions = some last) :
    ¬pending last ↔ (pending state → ∃ later ∈ actions, settles later) ∧
      AllSettled step raises settles state actions := by
  induction actions generalizing state with
  | nil =>
    cases ran
    simp [AllSettled]
  | cons action rest ih =>
    obtain ⟨next, stepped, ran⟩ := Option.bind_eq_some_iff.mp ran
    rw [ih ran, allSettled_cons stepped, steps state action next stepped, List.exists_mem_cons_iff]
    tauto

end FlowWeave.Theory.ActionRuns
