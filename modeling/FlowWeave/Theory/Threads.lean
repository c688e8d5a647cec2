/-
# Theory.Threads — threads with local states over a shared state

Finitely many threads, each with a local state, and one shared state. A step is atomic: it belongs
to one thread and changes the shared state and the local state of that thread.

`Sound own inv fits` is the form of an invariant: what the threads own adds up to a total that `inv`
relates to the shared state, and every thread `fits` the shared state on its own. `Sound.reaches` is
its rule: a step has to be right for what the others own, whatever that is, and must not hurt the
fit of another thread. What the other thread owns is part of the total, too, so a lock that both
would have to own excludes the step.

The second part is about what happens eventually. `FairRun` is an infinite run in which a thread
that stays `Ready` takes a step; steps that are not forced, such as those that wait for the outside,
are left out of `Ready`. `FairRun.eventually_steps` is the rule for one step, and
`FairRun.eventually_zero` for many: a rank of the local state that falls with each step of the
thread, while the thread is ready, comes to zero. A pause for ever where no thread is ready is fair
(`FairRun.of_idle`), and so is a finite run to a fair one (`FairRun.after`).
-/
import Mathlib.Algebra.BigOperators.Group.Finset.Basic

namespace FlowWeave.Theory.Threads

set_option autoImplicit false

open Relation

structure Config (ι σ τ : Type) where
  shared : σ
  locals : ι → τ

section Safety

variable {ι σ τ : Type} [DecidableEq ι] (Step : σ → τ → σ → τ → Prop)

/-- One step of one thread. -/
def StepBy (i : ι) (before after : Config ι σ τ) : Prop :=
  ∃ shared own, Step before.shared (before.locals i) shared own ∧
    after = ⟨shared, Function.update before.locals i own⟩

def Moves (before after : Config ι σ τ) : Prop := ∃ i, StepBy Step i before after

abbrev Reaches : Config ι σ τ → Config ι σ τ → Prop := ReflTransGen (Moves Step)

variable {Step} {i j : ι} {before after : Config ι σ τ}

theorem StepBy.locals_ne (step : StepBy Step i before after) (apart : j ≠ i) :
    after.locals j = before.locals j := by
  obtain ⟨shared, own, -, rfl⟩ := step
  exact Function.update_of_ne apart _ _

theorem StepBy.stepped (step : StepBy Step i before after) :
    Step before.shared (before.locals i) after.shared (after.locals i) := by
  obtain ⟨shared, own, stepped, rfl⟩ := step
  simpa using stepped

/-- What the steps of a thread keep, a run keeps for every thread. -/
theorem locals_kept {ρ : Type} {kind : τ → ρ} (reaches : Reaches Step before after)
    (keeps : ∀ shared thread shared' thread', Step shared thread shared' thread' →
      kind thread' = kind thread) (i : ι) : kind (after.locals i) = kind (before.locals i) := by
  induction reaches with
  | refl => rfl
  | tail _ moves ih =>
    obtain ⟨j, step⟩ := moves
    by_cases same : i = j
    · subst same
      exact (keeps _ _ _ _ step.stepped).trans ih
    · rw [step.locals_ne same]
      exact ih

/-- A run is built from its first step on. -/
theorem exists_reaches_step (i : ι) {shared : σ} {own : τ} {wanted : Config ι σ τ → Prop}
    (step : Step before.shared (before.locals i) shared own) (rest : ∃ last,
      Reaches Step ⟨shared, Function.update before.locals i own⟩ last ∧ wanted last) :
    ∃ last, Reaches Step before last ∧ wanted last := by
  obtain ⟨last, reaches, holds⟩ := rest
  exact ⟨last, .head ⟨i, shared, own, step, rfl⟩ reaches, holds⟩

/-- A thread on its own. -/
def Config.alone (shared : σ) (thread : τ) : Config Unit σ τ := ⟨shared, fun _ => thread⟩

theorem moves_alone {shared shared' : σ} {thread thread' : τ}
    (step : Step shared thread shared' thread') :
    Moves Step (Config.alone shared thread) (Config.alone shared' thread') :=
  ⟨(), shared', thread', step, congrArg (Config.mk shared') (funext fun _ => rfl)⟩

/-! ## Invariants -/

variable [Fintype ι] {M : Type} [AddCommMonoid M] {own : τ → M}
variable {inv : σ → M → Prop} {fits : σ → τ → Prop}

/-- The total that the threads own is as the shared state says, and every thread fits it. -/
structure Sound (own : τ → M) (inv : σ → M → Prop) (fits : σ → τ → Prop) (config : Config ι σ τ) :
    Prop where
  inv : inv config.shared (∑ i, own (config.locals i))
  fits : ∀ i, fits config.shared (config.locals i)

/-- What one thread owns, and what the others do. -/
theorem sum_own (own : τ → M) (locals : ι → τ) (i : ι) :
    ∑ j, own (locals j) = own (locals i) + ∑ j ∈ Finset.univ.erase i, own (locals j) :=
  (Finset.add_sum_erase _ _ (Finset.mem_univ i)).symm

theorem sum_own_pair (own : τ → M) (locals : ι → τ) {i j : ι} (apart : j ≠ i) :
    ∑ k, own (locals k) = own (locals i) +
      (own (locals j) + ∑ k ∈ (Finset.univ.erase i).erase j, own (locals k)) := by
  rw [sum_own own locals i, ← Finset.add_sum_erase (Finset.univ.erase i) (fun k => own (locals k))
    (Finset.mem_erase.mpr ⟨apart, Finset.mem_univ j⟩)]

theorem Sound.step (sound : Sound own inv fits before)
    (steps : ∀ shared thread shared' thread' rest, inv shared (own thread + rest) →
      fits shared thread → Step shared thread shared' thread' →
      inv shared' (own thread' + rest) ∧ fits shared' thread')
    (spares : ∀ shared thread shared' thread' other rest,
      inv shared (own thread + (own other + rest)) → fits shared thread → fits shared other →
      Step shared thread shared' thread' → fits shared' other)
    (moves : Moves Step before after) : Sound own inv fits after := by
  obtain ⟨i, step⟩ := moves
  have stepped := step.stepped
  have total := sound.inv
  rw [sum_own own before.locals i] at total
  obtain ⟨balanced, fit⟩ := steps _ _ _ _ _ total (sound.fits i) stepped
  constructor
  · rw [sum_own own after.locals i]
    have others : ∑ j ∈ Finset.univ.erase i, own (after.locals j) =
        ∑ j ∈ Finset.univ.erase i, own (before.locals j) :=
      Finset.sum_congr rfl fun j isOther => by rw [step.locals_ne (Finset.ne_of_mem_erase isOther)]
    rwa [others]
  · intro j
    by_cases same : j = i
    · exact same ▸ fit
    · have pair := sound.inv
      rw [sum_own_pair own before.locals same] at pair
      rw [step.locals_ne same]
      exact spares _ _ _ _ _ _ pair (sound.fits i) (sound.fits j) stepped

/-- **Invariants of all interleavings.** -/
theorem Sound.reaches (sound : Sound own inv fits before)
    (steps : ∀ shared thread shared' thread' rest, inv shared (own thread + rest) →
      fits shared thread → Step shared thread shared' thread' →
      inv shared' (own thread' + rest) ∧ fits shared' thread')
    (spares : ∀ shared thread shared' thread' other rest,
      inv shared (own thread + (own other + rest)) → fits shared thread → fits shared other →
      Step shared thread shared' thread' → fits shared' other)
    (reaches : Reaches Step before after) : Sound own inv fits after := by
  induction reaches with
  | refl => exact sound
  | tail _ moves ih => exact ih.step steps spares moves

end Safety

section Liveness

variable {ι σ τ : Type} [DecidableEq ι]

/-- An infinite run, with pauses, in which a thread that stays ready takes a step. -/
structure FairRun (Step : σ → τ → σ → τ → Prop) (Ready : σ → τ → Prop)
    (run : Nat → Config ι σ τ) : Prop where
  moves : ∀ n, run (n + 1) = run n ∨ Moves Step (run n) (run (n + 1))
  fair : ∀ i n, (∀ m ≥ n, Ready (run m).shared ((run m).locals i)) →
    ∃ m ≥ n, StepBy Step i (run m) (run (m + 1))

namespace FairRun

variable {Step : σ → τ → σ → τ → Prop} {Ready : σ → τ → Prop} {run : Nat → Config ι σ τ}
  (fairRun : FairRun Step Ready run)

include fairRun

theorem reaches {n m : Nat} (later : n ≤ m) : Reaches Step (run n) (run m) := by
  induction m, later using Nat.le_induction with
  | base => exact .refl
  | succ m _ ih =>
    rcases fairRun.moves m with same | moves
    · rwa [same]
    · exact ih.tail moves

theorem keeps {holds : Config ι σ τ → Prop}
    (stable : ∀ before after, holds before → Moves Step before after → holds after) {n m : Nat}
    (later : n ≤ m) (now : holds (run n)) : holds (run m) := by
  induction m, later using Nat.le_induction with
  | base => exact now
  | succ m _ ih =>
    rcases fairRun.moves m with same | moves
    · rwa [same]
    · exact stable _ _ ih moves

variable {stable : Config ι σ τ → Prop} {i : ι} {n : Nat}

/-- A thread that is ready as long as it has not moved moves, from where it was. -/
theorem eventually_steps {own : τ}
    (lasts : ∀ before after, stable before → Moves Step before after → stable after)
    (ready : ∀ config, stable config → config.locals i = own → Ready config.shared own)
    (now : stable (run n)) (here : (run n).locals i = own) :
    ∃ m ≥ n, stable (run m) ∧ (run m).locals i = own ∧ StepBy Step i (run m) (run (m + 1)) := by
  by_contra never
  push Not at never
  have holds {m : Nat} (later : n ≤ m) : stable (run m) := fairRun.keeps lasts later now
  have stuck (m : Nat) (later : n ≤ m) : (run m).locals i = own := by
    induction m, later using Nat.le_induction with
    | base => exact here
    | succ m later ih =>
      rcases fairRun.moves m with same | ⟨j, step⟩
      · rwa [same]
      · by_cases same : i = j
        · exact absurd (same ▸ step) (never m later (holds later) ih)
        · rw [step.locals_ne same]
          exact ih
  obtain ⟨m, later, step⟩ := fairRun.fair i n fun m later => by
    rw [stuck m later]
    exact ready _ (holds later) (stuck m later)
  exact never m later (holds later) (stuck m later) step

/-- **Progress.** While a property lasts, a thread whose rank is not zero is ready, and its own
steps lower the rank. Then the rank comes to zero. -/
theorem eventually_zero (i : ι) (rank : τ → Nat)
    (lasts : ∀ before after, stable before → Moves Step before after → stable after)
    (ready : ∀ config, stable config → rank (config.locals i) ≠ 0 →
      Ready config.shared (config.locals i))
    (falls : ∀ config shared own, stable config → rank (config.locals i) ≠ 0 →
      Step config.shared (config.locals i) shared own → rank own < rank (config.locals i))
    (now : stable (run n)) : ∃ m ≥ n, stable (run m) ∧ rank ((run m).locals i) = 0 := by
  induction height : rank ((run n).locals i) using Nat.strong_induction_on generalizing n with
  | _ value ih =>
    subst height
    by_cases zero : rank ((run n).locals i) = 0
    · exact ⟨n, le_rfl, now, zero⟩
    · obtain ⟨m, later, holds, here, step⟩ := fairRun.eventually_steps lasts
        (fun config holds same => same ▸ ready config holds (same ▸ zero)) now rfl
      have lower := falls _ _ _ holds (here ▸ zero) step.stepped
      rw [here] at lower
      obtain ⟨last, after, ended⟩ := ih _ lower (lasts _ _ holds ⟨i, step⟩) rfl
      exact ⟨last, by omega, ended⟩

variable {before start last : Config ι σ τ}

omit fairRun in
/-- A pause for ever, where no thread is ready. -/
theorem of_idle (idle : ∀ i, ¬Ready last.shared (last.locals i)) :
    FairRun Step Ready fun _ => last :=
  ⟨fun _ => .inl rfl, fun i n ready => absurd (ready n le_rfl) (idle i)⟩

theorem cons (moves : Moves Step before (run 0)) :
    FairRun Step Ready fun n => n.casesOn before run := by
  refine ⟨fun n => ?_, fun i n ready => ?_⟩
  · cases n with
    | zero => exact .inr moves
    | succ n => exact fairRun.moves n
  · obtain ⟨m, later, step⟩ := fairRun.fair i n fun m later => ready (m + 1) (by omega)
    exact ⟨m + 1, by omega, step⟩

/-- A finite run can come before a fair one. -/
theorem after (reaches : Reaches Step start (run 0)) :
    ∃ whole, FairRun Step Ready whole ∧ whole 0 = start ∧ ∃ n, whole n = run 0 := by
  induction reaches using Relation.ReflTransGen.head_induction_on with
  | refl => exact ⟨run, fairRun, rfl, 0, rfl⟩
  | @head first second move _ ih =>
    obtain ⟨whole, fair, starts, n, there⟩ := ih
    exact ⟨_, fair.cons (starts ▸ move), rfl, n + 1, there⟩

end FairRun

end Liveness

end FlowWeave.Theory.Threads
