/-
# Theory.SharedLedger — programs over shared, bounded counters

Several agents share counters with limits. Each agent adds to a counter if the
limit allows it, and later takes back what it added. A `Program` is what one agent
does: atomic steps on the counters, calls to other services (an `Interface`), and
`settle`, which changes no counter but says how the agent now books what it holds,
as accounted for or as reserved.

`Wp program own Q` is a program logic for one agent that knows nothing of the
others: `own` is what the agent holds in each counter. An addition may succeed or
fail, a call may answer anything, a subtraction must be covered by `own`, and a
`settle` must be exact. `Theory.Interleaving` shows that agents that satisfy their
`Wp` keep the counters right under every interleaving; `Wp.run` is the same for a
program that runs alone, and `Alone` says how such a run ends when the counters are
known (`Wp.alone`, `Alone.seq`). `Calls P program` bounds the calls a program can make, and
`Calls.run` is the rule for invariants of the services.
-/
import Mathlib.Algebra.Group.Pi.Basic

namespace FlowWeave.Theory.SharedLedger

set_option autoImplicit false

/-- The services a program calls besides the counters. -/
structure Interface where
  Call : Type
  Answer : Call → Type

/-- What one agent does, step by step. A `tryAdd` answers the new value of the
counter, or `none` when the limit forbids the addition. -/
inductive Program (κ : Type) (I : Interface) (α : Type) : Type where
  | done (value : α)
  | tryAdd (counter : κ) (amount : Nat) (next : Option Nat → Program κ I α)
  | subtract (counter : κ) (amount : Nat) (next : Program κ I α)
  | settle (accounted reserved : κ → Nat) (next : Program κ I α)
  | call (request : I.Call) (next : I.Answer request → Program κ I α)

namespace Program

variable {κ : Type} {I : Interface} {α β : Type}

def bind (f : α → Program κ I β) : Program κ I α → Program κ I β
  | .done value => f value
  | .tryAdd counter amount next => .tryAdd counter amount fun answer => (next answer).bind f
  | .subtract counter amount next => .subtract counter amount (next.bind f)
  | .settle accounted reserved next => .settle accounted reserved (next.bind f)
  | .call request next => .call request fun answer => (next answer).bind f

instance : Monad (Program κ I) where
  pure := .done
  bind program f := program.bind f

section Logic

variable [DecidableEq κ]

/-- `amounts` with `amount` more in one counter. -/
def deposit (amounts : κ → Nat) (counter : κ) (amount : Nat) : κ → Nat :=
  Function.update amounts counter (amounts counter + amount)

/-- `amounts` with `amount` less in one counter. -/
def withdraw (amounts : κ → Nat) (counter : κ) (amount : Nat) : κ → Nat :=
  Function.update amounts counter (amounts counter - amount)

/-- Whatever the counters of the others allow and whatever the calls answer, an
agent that holds `own` takes no more than it holds, books exactly what it holds,
and ends in `Q`. -/
def Wp : Program κ I α → (κ → Nat) → (α → (κ → Nat) → Prop) → Prop
  | .done value, own, Q => Q value own
  | .tryAdd counter amount next, own, Q =>
    (∀ total, Wp (next (some total)) (deposit own counter amount) Q) ∧ Wp (next none) own Q
  | .subtract counter amount next, own, Q =>
    amount ≤ own counter ∧ Wp next (withdraw own counter amount) Q
  | .settle accounted reserved next, own, Q => accounted + reserved = own ∧ Wp next own Q
  | .call _ next, own, Q => ∀ answer, Wp (next answer) own Q

variable {program : Program κ I α} {own : κ → Nat}

theorem Wp.mono {P Q : α → (κ → Nat) → Prop} (holds : Wp program own P)
    (implies : ∀ value held, P value held → Q value held) : Wp program own Q := by
  induction program generalizing own with
  | done value => exact implies value own holds
  | tryAdd counter amount next ih => exact ⟨fun total => ih _ (holds.1 total), ih _ holds.2⟩
  | subtract counter amount next ih => exact ⟨holds.1, ih holds.2⟩
  | settle accounted reserved next ih => exact ⟨holds.1, ih holds.2⟩
  | call request next ih => exact fun answer => ih answer (holds answer)

theorem Wp.bind {f : α → Program κ I β} {Q : β → (κ → Nat) → Prop}
    (first : Wp program own fun value held => Wp (f value) held Q) : Wp (program >>= f) own Q := by
  induction program generalizing own with
  | done value => exact first
  | tryAdd counter amount next ih => exact ⟨fun total => ih _ (first.1 total), ih _ first.2⟩
  | subtract counter amount next ih => exact ⟨first.1, ih first.2⟩
  | settle accounted reserved next ih => exact ⟨first.1, ih first.2⟩
  | call request next ih => exact fun answer => ih answer (first answer)

/-- A specification of the first part, then the rest from what it promises. -/
theorem Wp.seq {f : α → Program κ I β} {P : α → (κ → Nat) → Prop} {Q : β → (κ → Nat) → Prop}
    (first : Wp program own P) (rest : ∀ value held, P value held → Wp (f value) held Q) :
    Wp (program >>= f) own Q :=
  (first.mono rest).bind

end Logic

/-! ## What a program may return -/

/-- The program returns `value` for some answers of the counters and the
services. -/
def Returns : Program κ I α → α → Prop
  | .done result, value => result = value
  | .tryAdd _ _ next, value => ∃ answer, Returns (next answer) value
  | .subtract _ _ next, value => Returns next value
  | .settle _ _ next, value => Returns next value
  | .call _ next, value => ∃ answer, Returns (next answer) value

variable {program : Program κ I α}

theorem returns_bind {f : α → Program κ I β} {value : β} :
    (program >>= f).Returns value ↔ ∃ mid, program.Returns mid ∧ (f mid).Returns value := by
  induction program with
  | done result =>
    constructor
    · exact fun returned => ⟨result, rfl, returned⟩
    · rintro ⟨mid, rfl, returned⟩
      exact returned
  | tryAdd counter amount next ih =>
    constructor
    · rintro ⟨answer, returned⟩
      obtain ⟨mid, first, rest⟩ := (ih answer).mp returned
      exact ⟨mid, ⟨answer, first⟩, rest⟩
    · rintro ⟨mid, ⟨answer, first⟩, rest⟩
      exact ⟨answer, (ih answer).mpr ⟨mid, first, rest⟩⟩
  | subtract counter amount next ih => exact ih
  | settle accounted reserved next ih => exact ih
  | call request next ih =>
    constructor
    · rintro ⟨answer, returned⟩
      obtain ⟨mid, first, rest⟩ := (ih answer).mp returned
      exact ⟨mid, ⟨answer, first⟩, rest⟩
    · rintro ⟨mid, ⟨answer, first⟩, rest⟩
      exact ⟨answer, (ih answer).mpr ⟨mid, first, rest⟩⟩

theorem Wp.returns [DecidableEq κ] {own : κ → Nat} {Q : α → (κ → Nat) → Prop}
    (holds : Wp program own Q) {value : α} (returned : program.Returns value) :
    ∃ held, Q value held := by
  induction program generalizing own with
  | done result =>
    cases returned
    exact ⟨own, holds⟩
  | tryAdd counter amount next ih =>
    obtain ⟨answer, returned⟩ := returned
    cases answer with
    | none => exact ih _ holds.2 returned
    | some total => exact ih _ (holds.1 total) returned
  | subtract counter amount next ih => exact ih holds.2 returned
  | settle accounted reserved next ih => exact ih holds.2 returned
  | call request next ih =>
    obtain ⟨answer, returned⟩ := returned
    exact ih answer (holds answer) returned

/-! ## What a program may call -/

/-- Every call that the program can make, whatever the answers, is one of `P`. -/
def Calls (P : I.Call → Prop) : Program κ I α → Prop
  | .done _ => True
  | .tryAdd _ _ next => ∀ answer, Calls P (next answer)
  | .subtract _ _ next => Calls P next
  | .settle _ _ next => Calls P next
  | .call request next => P request ∧ ∀ answer, Calls P (next answer)

theorem Calls.seq {P : I.Call → Prop} {f : α → Program κ I β} (first : program.Calls P)
    (rest : ∀ value, (f value).Calls P) : (program >>= f).Calls P := by
  induction program with
  | done value => exact rest value
  | tryAdd counter amount next ih => exact fun answer => ih answer (first answer)
  | subtract counter amount next ih => exact ih first
  | settle accounted reserved next ih => exact ih first
  | call request next ih =>
    obtain ⟨permitted, others⟩ := first
    exact ⟨permitted, fun answer => ih answer (others answer)⟩

/-! ## Running alone -/

section Run

variable [DecidableEq κ] {E : Type}

/-- Run a program alone, from the counters and the state of the services. `none`
is the failure of a subtraction that would go below zero. -/
def run (limits : κ → Nat) (serve : (request : I.Call) → E → I.Answer request × E) :
    Program κ I α → (κ → Nat) → E → Option (α × (κ → Nat) × E)
  | .done value, counters, services => some (value, counters, services)
  | .tryAdd counter amount next, counters, services =>
    if counters counter + amount ≤ limits counter then
      run limits serve (next (some (counters counter + amount)))
        (deposit counters counter amount) services
    else run limits serve (next none) counters services
  | .subtract counter amount next, counters, services =>
    if amount ≤ counters counter then
      run limits serve next (withdraw counters counter amount) services
    else none
  | .settle _ _ next, counters, services => run limits serve next counters services
  | .call request next, counters, services =>
    run limits serve (next (serve request services).1) counters (serve request services).2

variable {services : E} {counters limits : κ → Nat} {program : Program κ I α}
  {serve : (request : I.Call) → E → I.Answer request × E}

theorem run_returns {after : κ → Nat} {later : E} {value : α}
    (ran : program.run limits serve counters services = some (value, after, later)) :
    program.Returns value := by
  induction program generalizing counters services with
  | done result =>
    cases ran
    rfl
  | tryAdd counter amount next ih =>
    simp only [run] at ran
    split at ran
    · exact ⟨_, ih _ ran⟩
    · exact ⟨_, ih _ ran⟩
  | subtract counter amount next ih =>
    simp only [run] at ran
    split at ran
    · exact ih ran
    · cases ran
  | settle accounted reserved next ih => exact ih ran
  | call request next ih => exact ⟨_, ih _ ran⟩

/-- What every permitted call keeps of the services is kept by a run. -/
theorem Calls.run {P : I.Call → Prop} {Q : E → Prop} {after : κ → Nat} {later : E} {value : α}
    (calls : program.Calls P)
    (keeps : ∀ request services, P request → Q services → Q (serve request services).2)
    (start : Q services)
    (ran : program.run limits serve counters services = some (value, after, later)) : Q later := by
  induction program generalizing counters services with
  | done result =>
    cases ran
    exact start
  | tryAdd counter amount next ih =>
    simp only [Program.run] at ran
    split at ran
    · exact ih _ (calls _) start ran
    · exact ih _ (calls _) start ran
  | subtract counter amount next ih =>
    simp only [Program.run] at ran
    split at ran
    · exact ih calls start ran
    · cases ran
  | settle accounted reserved next ih => exact ih calls start ran
  | call request next ih =>
    obtain ⟨permitted, others⟩ := calls
    exact ih _ (others _) (keeps request services permitted start) ran

/-- A program that satisfies its `Wp` and whose holdings are in the counters
runs through, and changes the counters by what it gained or gave back. -/
theorem Wp.run {own : κ → Nat} {Q : α → (κ → Nat) → Prop} (holds : Wp program own Q)
    (covered : ∀ counter, own counter ≤ counters counter) (limits : κ → Nat)
    (serve : (request : I.Call) → E → I.Answer request × E) (services : E) :
    ∃ value after later held, program.run limits serve counters services =
        some (value, after, later) ∧ Q value held ∧ (∀ counter, held counter ≤ after counter) ∧
      ∀ counter, after counter + own counter = counters counter + held counter := by
  induction program generalizing own counters services with
  | done value => exact ⟨value, counters, services, own, rfl, holds, covered, fun _ => rfl⟩
  | tryAdd counter amount next ih =>
    simp only [Program.run]
    split
    · have covered' : ∀ other, deposit own counter amount other ≤
          deposit counters counter amount other := by
        intro other
        by_cases same : other = counter
        · subst same
          simpa [deposit] using covered other
        · simpa [deposit, Function.update_of_ne same] using covered other
      obtain ⟨value, after, later, held, ran, promised, coveredAfter, change⟩ :=
        ih _ (holds.1 _) covered' services
      refine ⟨value, after, later, held, ran, promised, coveredAfter, fun other => ?_⟩
      have := change other
      by_cases same : other = counter
      · subst same
        simp only [deposit, Function.update_self] at this
        omega
      · simpa [deposit, Function.update_of_ne same] using this
    · exact ih _ holds.2 covered services
  | subtract counter amount next ih =>
    obtain ⟨holdsAmount, rest⟩ := holds
    have enough : amount ≤ counters counter := Nat.le_trans holdsAmount (covered counter)
    have covered' : ∀ other, withdraw own counter amount other ≤
        withdraw counters counter amount other := by
      intro other
      by_cases same : other = counter
      · subst same
        have := covered other
        simp only [withdraw, Function.update_self]
        omega
      · simpa [withdraw, Function.update_of_ne same] using covered other
    obtain ⟨value, after, later, held, ran, promised, coveredAfter, change⟩ :=
      ih rest covered' services
    simp only [Program.run, if_pos enough]
    refine ⟨value, after, later, held, ran, promised, coveredAfter, fun other => ?_⟩
    have := change other
    by_cases same : other = counter
    · subst same
      simp only [withdraw, Function.update_self] at this
      omega
    · simpa [withdraw, Function.update_of_ne same] using this
  | settle accounted reserved next ih => exact ih holds.2 covered services
  | call request next ih => exact ih _ (holds _) covered _

/-- Run alone, the program runs through and ends in `Q`. -/
def Alone (limits : κ → Nat) (serve : (request : I.Call) → E → I.Answer request × E)
    (program : Program κ I α) (counters : κ → Nat) (services : E)
    (Q : α → (κ → Nat) → E → Prop) : Prop :=
  ∃ value after later, program.run limits serve counters services = some (value, after, later) ∧
    Q value after later

/-- What a program promises of its holdings, beside those of the others. -/
theorem Wp.alone {own : κ → Nat} {Q : α → (κ → Nat) → Prop} (holds : Wp program own Q)
    (others : κ → Nat) :
    Alone limits serve program (others + own) services fun value after _ =>
      ∃ held, Q value held ∧ after = others + held := by
  obtain ⟨value, after, later, held, ran, promised, -, change⟩ :=
    holds.run (fun counter => Nat.le_add_left _ _) limits serve services
  refine ⟨value, after, later, ran, held, promised, funext fun counter => ?_⟩
  have changed := change counter
  simp only [Pi.add_apply] at changed ⊢
  omega

/-- What the first part promises, and the rest from there. -/
theorem Alone.seq {f : α → Program κ I β} {P : α → (κ → Nat) → E → Prop}
    {Q : β → (κ → Nat) → E → Prop} (first : Alone limits serve program counters services P)
    (rest : ∀ value after later, P value after later → Alone limits serve (f value) after later Q) :
    Alone limits serve (program >>= f) counters services Q := by
  obtain ⟨value, after, later, ran, promised⟩ := first
  have second := rest value after later promised
  clear promised
  suffices same : (program >>= f).run limits serve counters services =
      (f value).run limits serve after later by
    obtain ⟨last, final, end_, ranOn, holds⟩ := second
    exact ⟨last, final, end_, same.trans ranOn, holds⟩
  clear second
  induction program generalizing counters services with
  | done result =>
    cases ran
    rfl
  | tryAdd counter amount next ih =>
    change (Program.tryAdd counter amount fun answer => (next answer).bind f).run _ _ _ _ = _
    simp only [Program.run] at ran ⊢
    split at ran
    · rename_i fits
      rw [if_pos fits]
      exact ih _ ran
    · rename_i full
      rw [if_neg full]
      exact ih _ ran
  | subtract counter amount next ih =>
    change (Program.subtract counter amount (next.bind f)).run _ _ _ _ = _
    simp only [Program.run] at ran ⊢
    split at ran
    · rename_i enough
      rw [if_pos enough]
      exact ih ran
    · cases ran
  | settle accounted reserved next ih => exact ih ran
  | call request next ih => exact ih _ ran

end Run

end Program

end FlowWeave.Theory.SharedLedger
