/-
# Theory.Interleaving — agents on shared counters, step by step

A system of agents, each idle in a state of its own or in the middle of a
`Program`. Any agent may take the next step: every addition, subtraction, call and
`settle` is a step of its own, so the steps of one operation mix with those of the
other agents in any order. A subtraction below zero leaves the agent `panicked`.

The frame of a running agent says how it books what it holds: what is accounted
for, what is reserved, and what is in transit, that is, already moved in the
counters and not yet booked by a `settle`.

`reachable_sound` is the one result: if every operation satisfies its `Wp` then in
every reachable configuration each counter is the sum of what the agents hold, no
counter exceeds its limit, and no agent has panicked.
-/
import FlowWeave.Theory.SharedLedger
import Mathlib.Algebra.Order.BigOperators.Group.Finset
import Mathlib.Algebra.Order.Ring.Int

namespace FlowWeave.Theory.SharedLedger

open Program Function

set_option autoImplicit false
set_option linter.unusedSectionVars false

/-- How a running agent books what it holds. -/
structure Frame (κ : Type) where
  accounted : κ → Nat
  reserved : κ → Nat
  transit : κ → Int

namespace Frame

variable {κ : Type} [DecidableEq κ]

/-- Everything the agent holds in a counter. -/
def holding (frame : Frame κ) (counter : κ) : Int :=
  frame.accounted counter + frame.reserved counter + frame.transit counter

/-- A counter has moved and the move is not yet booked. -/
def move (frame : Frame κ) (counter : κ) (change : Int) : Frame κ :=
  { frame with transit := update frame.transit counter (frame.transit counter + change) }

theorem move_holding (frame : Frame κ) (counter other : κ) (change : Int) :
    (frame.move counter change).holding other =
      frame.holding other + if other = counter then change else 0 := by
  unfold holding move
  by_cases same : other = counter
  · subst same
    simp only [update_self, if_true]
    omega
  · simp [same]

end Frame

/-- An agent: idle, in the middle of an operation, or stopped by an underflow. -/
inductive Agent (κ : Type) (I : Interface) (S : Type) where
  | idle (state : S)
  | busy (frame : Frame κ) (rest : Program κ I S)
  | panicked

structure Config (ι κ : Type) (I : Interface) (S : Type) where
  counters : κ → Nat
  agents : ι → Agent κ I S

section System

variable {ι κ : Type} [DecidableEq ι] [DecidableEq κ] {I : Interface} {S : Type}
  (limits : κ → Nat) (accounted : S → κ → Nat) (Starts : S → Program κ I S → Prop)

/-- One step of one agent. -/
inductive Step (config : Config ι κ I S) : Config ι κ I S → Prop
  | start (i : ι) {state : S} {program : Program κ I S}
      (idle : config.agents i = .idle state) (starts : Starts state program) :
      Step config ⟨config.counters,
        update config.agents i (.busy ⟨accounted state, 0, 0⟩ program)⟩
  | add (i : ι) {frame : Frame κ} {counter : κ} {amount : Nat}
      {next : Option Nat → Program κ I S}
      (busy : config.agents i = .busy frame (.tryAdd counter amount next))
      (fits : config.counters counter + amount ≤ limits counter) :
      Step config ⟨deposit config.counters counter amount,
        update config.agents i (.busy (frame.move counter amount)
          (next (some (config.counters counter + amount))))⟩
  | full (i : ι) {frame : Frame κ} {counter : κ} {amount : Nat}
      {next : Option Nat → Program κ I S}
      (busy : config.agents i = .busy frame (.tryAdd counter amount next))
      (exceeds : limits counter < config.counters counter + amount) :
      Step config ⟨config.counters, update config.agents i (.busy frame (next none))⟩
  | subtract (i : ι) {frame : Frame κ} {counter : κ} {amount : Nat}
      {next : Program κ I S} (busy : config.agents i = .busy frame (.subtract counter amount next))
      (enough : amount ≤ config.counters counter) :
      Step config ⟨withdraw config.counters counter amount,
        update config.agents i (.busy (frame.move counter (-amount)) next)⟩
  | underflow (i : ι) {frame : Frame κ} {counter : κ} {amount : Nat}
      {next : Program κ I S} (busy : config.agents i = .busy frame (.subtract counter amount next))
      (lacks : config.counters counter < amount) :
      Step config ⟨config.counters, update config.agents i .panicked⟩
  | settle (i : ι) {frame : Frame κ} {booked reserved : κ → Nat}
      {next : Program κ I S} (busy : config.agents i = .busy frame (.settle booked reserved next)) :
      Step config ⟨config.counters,
        update config.agents i (.busy ⟨booked, reserved, 0⟩ next)⟩
  | call (i : ι) {frame : Frame κ} {request : I.Call}
      {next : I.Answer request → Program κ I S}
      (busy : config.agents i = .busy frame (.call request next)) (answer : I.Answer request) :
      Step config ⟨config.counters, update config.agents i (.busy frame (next answer))⟩
  | finish (i : ι) {frame : Frame κ} {state : S}
      (busy : config.agents i = .busy frame (.done state)) :
      Step config ⟨config.counters, update config.agents i (.idle state)⟩

/-- What an agent holds in a counter. -/
def Agent.holding (counter : κ) : Agent κ I S → Int
  | .idle state => accounted state counter
  | .busy frame _ => frame.holding counter
  | .panicked => 0

variable (Inv : S → Prop)

/-- An agent that keeps to the logic: a running one holds what its `Wp` starts
from. -/
def Agent.Sound : Agent κ I S → Prop
  | .idle state => Inv state
  | .busy frame rest => ∃ own : κ → Nat, (∀ counter, (own counter : Int) = frame.holding counter) ∧
      rest.Wp own fun state held => held = accounted state ∧ Inv state
  | .panicked => False

/-- A sound configuration: the counters are the sum of the holdings and within
their limits, and every agent keeps to the logic. -/
structure Config.Sound [Fintype ι] (config : Config ι κ I S) : Prop where
  balanced : ∀ counter, (config.counters counter : Int) =
    ∑ i, (config.agents i).holding accounted counter
  bounded : ∀ counter, config.counters counter ≤ limits counter
  agents : ∀ i, (config.agents i).Sound accounted Inv

variable {limits accounted Starts Inv}

variable {agent : Agent κ I S} {i : ι} {config : Config ι κ I S}

theorem Agent.Sound.holding_nonneg (sound : agent.Sound accounted Inv) (counter : κ) :
    0 ≤ agent.holding accounted counter := by
  cases agent with
  | idle state => exact Int.natCast_nonneg _
  | busy frame rest =>
    obtain ⟨own, holds, -⟩ := sound
    rw [Agent.holding, ← holds counter]
    exact Int.natCast_nonneg _
  | panicked => exact le_rfl

/-- A program that runs alone is one way for its agent to go on. -/
theorem Step.of_run {E : Type} {serve : (request : I.Call) → E → I.Answer request × E}
    {program : Program κ I S} {frame : Frame κ} {services later : E} {state : S} {after : κ → Nat}
    {agents : ι → Agent κ I S} (busy : config.agents i = .busy frame program)
    (ran : program.run limits serve config.counters services = some (state, after, later))
    (last : update config.agents i (.idle state) = agents) :
    Relation.ReflTransGen (Step limits accounted Starts) config ⟨after, agents⟩ := by
  induction program generalizing config frame services with
  | done value =>
    cases ran
    subst last
    exact .single (.finish i busy)
  | tryAdd counter amount next ih =>
    simp only [run] at ran
    split at ran
    · rename_i fits
      refine .head (.add i busy fits) ?_
      exact ih _ (update_self _ _ _) ran ((update_idem _ _ _).trans last)
    · rename_i exceeds
      refine .head (.full i busy (Nat.lt_of_not_le exceeds)) ?_
      exact ih _ (update_self _ _ _) ran ((update_idem _ _ _).trans last)
  | subtract counter amount next ih =>
    simp only [run] at ran
    split at ran
    · rename_i enough
      refine .head (.subtract i busy enough) ?_
      exact ih (update_self _ _ _) ran ((update_idem _ _ _).trans last)
    · cases ran
  | settle booked reserved next ih =>
    refine .head (.settle i busy) ?_
    exact ih (update_self _ _ _) ran ((update_idem _ _ _).trans last)
  | call request next ih =>
    refine .head (.call i busy (serve request services).1) ?_
    exact ih _ (update_self _ _ _) ran ((update_idem _ _ _).trans last)

/-- A whole operation of an idle agent, run alone. -/
theorem Step.operation {E : Type} (serve : (request : I.Call) → E → I.Answer request × E)
    (services : E) (i : ι) {program : Program κ I S} {later : E} {state after : S}
    {counters : κ → Nat} (idle : config.agents i = .idle state) (starts : Starts state program)
    (ran : program.run limits serve config.counters services = some (after, counters, later)) :
    Relation.ReflTransGen (Step limits accounted Starts) config
      ⟨counters, update config.agents i (.idle after)⟩ :=
  .head (.start i idle starts)
    (Step.of_run (update_self _ _ _) ran (update_idem _ _ _))

variable [Fintype ι]

/-- A sum of holdings after one agent has changed. -/
theorem sum_update (agents : ι → Agent κ I S) (i : ι) (agent : Agent κ I S) (counter : κ) :
    ∑ j, (update agents i agent j).holding accounted counter =
      ∑ j, (agents j).holding accounted counter +
        (agent.holding accounted counter - (agents i).holding accounted counter) := by
  have split : ∀ f : ι → Int, ∑ j, f j = f i + ∑ j ∈ Finset.univ.erase i, f j := fun f =>
    (Finset.add_sum_erase _ f (Finset.mem_univ i)).symm
  have rest : ∑ j ∈ Finset.univ.erase i,
      (update agents i agent j).holding accounted counter =
      ∑ j ∈ Finset.univ.erase i, (agents j).holding accounted counter := by
    apply Finset.sum_congr rfl
    intro j member
    rw [update_of_ne (Finset.ne_of_mem_erase member)]
  rw [split, rest, update_self, split fun j => (agents j).holding accounted counter]
  omega

section Sound

variable (sound : config.Sound limits accounted Inv)

include sound

/-- What an agent holds is in the counter. -/
theorem Config.Sound.holding_le (i : ι) (counter : κ) :
    (config.agents i).holding accounted counter ≤ config.counters counter := by
  rw [sound.balanced counter]
  exact Finset.single_le_sum
    (fun j _ => (sound.agents j).holding_nonneg counter) (Finset.mem_univ i)

/-- One agent moves to a sound state and the counters follow its holdings. -/
theorem Config.Sound.update {counters : κ → Nat} (agentSound : agent.Sound accounted Inv)
    (change : ∀ counter, (counters counter : Int) = config.counters counter +
      (agent.holding accounted counter - (config.agents i).holding accounted counter))
    (bounded : ∀ counter, counters counter ≤ limits counter) :
    Config.Sound limits accounted Inv ⟨counters, update config.agents i agent⟩ where
  balanced := by
    intro counter
    rw [sum_update, change counter, sound.balanced counter]
  bounded := bounded
  agents := by
    intro j
    by_cases same : j = i
    · subst same
      simpa using agentSound
    · simpa [update_of_ne same] using sound.agents j

/-- A step that leaves the counters alone and the holding of its agent as it
was. -/
theorem Config.Sound.update_same (agentSound : agent.Sound accounted Inv)
    (same : ∀ counter, agent.holding accounted counter =
      (config.agents i).holding accounted counter) :
    Config.Sound limits accounted Inv ⟨config.counters, Function.update config.agents i agent⟩ :=
  sound.update agentSound (fun counter => by rw [same]; omega) sound.bounded

/-- The program of a running agent, with what it holds. -/
theorem Config.Sound.busy {frame : Frame κ} {rest : Program κ I S}
    (busy : config.agents i = .busy frame rest) :
    ∃ own : κ → Nat, (∀ counter, (own counter : Int) = frame.holding counter) ∧
      rest.Wp own (fun state held => held = accounted state ∧ Inv state) ∧
      ∀ counter, own counter ≤ config.counters counter := by
  have agentSound := sound.agents i
  rw [busy] at agentSound
  obtain ⟨own, holds, wp⟩ := agentSound
  refine ⟨own, holds, wp, fun counter => ?_⟩
  have within := sound.holding_le i counter
  rw [busy, Agent.holding, ← holds counter] at within
  exact Int.ofNat_le.mp within

end Sound

/-- **One step keeps a configuration sound.** -/
theorem Step.sound
    (specified : ∀ state program, Inv state → Starts state program →
      program.Wp (accounted state) fun after held => held = accounted after ∧ Inv after)
    {next : Config ι κ I S} (step : Step limits accounted Starts config next)
    (sound : config.Sound limits accounted Inv) : next.Sound limits accounted Inv := by
  cases step with
  | @start i state program idle starts =>
    have inv : Inv state := by
      have := sound.agents i
      rwa [idle] at this
    refine sound.update_same ⟨accounted state, fun counter => ?_, specified _ _ inv starts⟩
      fun counter => ?_
    · simp [Frame.holding]
    · simp [idle, Agent.holding, Frame.holding]
  | @add i frame counter amount next busy fits =>
    obtain ⟨own, holds, wp, -⟩ := sound.busy busy
    refine sound.update ⟨deposit own counter amount, fun other => ?_, wp.1 _⟩
      (fun other => ?_) fun other => ?_
    · rw [Frame.move_holding, ← holds other]
      by_cases same : other = counter
      · subst same
        simp [deposit]
      · simp [deposit, same]
    · simp only [Agent.holding, busy, Frame.move_holding]
      by_cases same : other = counter
      · subst same
        simp [deposit]
      · simp [deposit, same]
    · by_cases same : other = counter
      · subst same
        simpa [deposit] using fits
      · simpa [deposit, same] using sound.bounded other
  | @full i frame counter amount next busy exceeds =>
    obtain ⟨own, holds, wp, -⟩ := sound.busy busy
    exact sound.update_same ⟨own, holds, wp.2⟩ fun other => by rw [busy]; rfl
  | @subtract i frame counter amount next busy enough =>
    obtain ⟨own, holds, ⟨covered, wp⟩, -⟩ := sound.busy busy
    refine sound.update ⟨withdraw own counter amount, fun other => ?_, wp⟩
      (fun other => ?_) fun other => ?_
    · rw [Frame.move_holding, ← holds other]
      by_cases same : other = counter
      · subst same
        simp only [withdraw, Function.update_self, if_true]
        omega
      · simp [withdraw, same]
    · simp only [Agent.holding, busy, Frame.move_holding]
      by_cases same : other = counter
      · subst same
        simp only [withdraw, Function.update_self, if_true]
        omega
      · simp [withdraw, same]
    · have bound := sound.bounded other
      by_cases same : other = counter
      · subst same
        simp only [withdraw, Function.update_self]
        omega
      · simpa [withdraw, same] using bound
  | @underflow i frame counter amount next busy lacks =>
    obtain ⟨own, -, ⟨covered, -⟩, within⟩ := sound.busy busy
    have := within counter
    omega
  | @settle i frame booked reserved next busy =>
    obtain ⟨own, holds, ⟨exact_, wp⟩, -⟩ := sound.busy busy
    have books : ∀ counter, (own counter : Int) = booked counter + reserved counter := by
      intro counter
      rw [← exact_]
      simp
    refine sound.update_same ⟨own, fun counter => ?_, wp⟩ fun counter => ?_
    · simpa [Frame.holding] using books counter
    · rw [busy, Agent.holding, Agent.holding, ← holds counter, books counter]
      simp [Frame.holding]
  | @call i frame request next busy answer =>
    obtain ⟨own, holds, wp, -⟩ := sound.busy busy
    exact sound.update_same ⟨own, holds, wp answer⟩ fun other => by rw [busy]; rfl
  | @finish i frame state busy =>
    obtain ⟨own, holds, ⟨rfl, inv⟩, -⟩ := sound.busy busy
    exact sound.update_same inv fun other => by rw [busy]; exact holds other

/-- **Every reachable configuration is sound.** -/
theorem reachable_sound
    (specified : ∀ state program, Inv state → Starts state program →
      program.Wp (accounted state) fun after held => held = accounted after ∧ Inv after)
    {first : Config ι κ I S} (sound : first.Sound limits accounted Inv)
    (reachable : Relation.ReflTransGen (Step limits accounted Starts) first config) :
    config.Sound limits accounted Inv := by
  induction reachable with
  | refl => exact sound
  | tail _ step ih => exact step.sound specified ih

end System

end FlowWeave.Theory.SharedLedger
