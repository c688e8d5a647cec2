/-
# Vpn.SharedReassembly — the reassembly counters that all handles share

Any number of handles share one budget. Each is built, used and dropped by its own
threads, and the steps of their operations on the two counters interleave in any
order. A slot is the place of one handle: vacant, holding a live handle, or left
by a dropped one.

`sharedReassembly_exact`: at every point each counter is the sum of what the
handles account for, what their reservations hold and what is half moved; no
counter exceeds its limit, no `subtract` underflows, and when every handle is
inactive or dropped both counters are zero. It instantiates `Theory.Interleaving`
with the specifications of `Vpn.DataPathRun`.
-/
import FlowWeave.Theory.Interleaving
import FlowWeave.Vpn.DataPathRun

namespace FlowWeave.Vpn

open Theory.SharedLedger
open Theory.SharedLedger.Program (Wp)
open VpnDataPathState (Good)

set_option autoImplicit false

inductive HandleSlot where
  | vacant
  | live (inner : VpnDataPathInner) (state : VpnDataPathState)
  | dropped

namespace HandleSlot

/-- The accounted amounts of a slot. -/
def accounted : HandleSlot → LedgerCounter → Nat
  | .live _ state => amounts state.accountedBytes state.accountedPackets
  | _ => 0

def Inv : HandleSlot → Prop
  | .live inner state => Good inner state
  | _ => True

/-- Deactivated, dropped or never built. -/
def Closed : HandleSlot → Prop
  | .live _ state => state.active = false
  | _ => True

/-- What a slot may do next, while it holds the lock of its handle. -/
inductive Starts : HandleSlot → DataPathM HandleSlot → Prop
  | build {policy : VpnDataPolicy} {limits : VpnIdentityLimits} {maxIpPacketLen : Nat}
      {sessionGeneration : UInt64} {inner : VpnDataPathInner} {state : VpnDataPathState}
      (built : newPolicyInactive policy limits maxIpPacketLen sessionGeneration =
        .ok (inner, state)) :
      Starts .vacant (pure (.live inner state))
  | operate {inner : VpnDataPathInner} {state ready : VpnDataPathState}
      (rehash : state.Rehash ready) (op : DataPathOp) :
      Starts (.live inner state) (do
        let outcome ← op.program inner ready
        pure (.live inner outcome.2))
  -- `ingest_datagram` gives up the lock before its policy check, which touches neither
  -- the counters nor the state, so that another operation may come before that check
  | ingestLocked {inner : VpnDataPathInner} {state ready : VpnDataPathState}
      (rehash : state.Rehash ready) (direction : VpnPacketDirection) (now : Nat)
      (datagram : List UInt8) :
      Starts (.live inner state) (do
        let outcome ← inner.ingestLocked direction now datagram ready
        pure (.live inner outcome.2))
  | drop {inner : VpnDataPathInner} {state : VpnDataPathState} :
      Starts (.live inner state) (do
        dropInner state
        pure .dropped)

/-- **Every operation of a slot** starts and ends with exactly its accounted amounts
in the counters. -/
theorem Starts.wp {slot : HandleSlot} {program : DataPathM HandleSlot} (inv : slot.Inv)
    (starts : Starts slot program) :
    Wp program slot.accounted fun after held => held = after.accounted ∧ after.Inv := by
  cases starts with
  | @build policy limits maxIpPacketLen sessionGeneration inner state built =>
    obtain ⟨good, inactive, -⟩ := VpnDataPathState.newPolicyInactive_good built
    obtain ⟨noBytes, noPackets⟩ := good.inactive inactive
    refine ⟨?_, good⟩
    show 0 = amounts state.accountedBytes state.accountedPackets
    rw [noBytes, noPackets, amounts_zero]
  | @operate inner state ready rehash op =>
    have good := rehash.good inv
    show Wp _ state.owned _
    rw [← rehash.owned_eq]
    refine (op.program_wp good).seq fun outcome held promised => ?_
    exact ⟨promised.2.1, promised.1⟩
  | @ingestLocked inner state ready rehash direction now datagram =>
    have good := rehash.good inv
    show Wp _ state.owned _
    rw [← rehash.owned_eq]
    refine (VpnDataPathInner.ingestLocked_wp good).seq fun outcome held ends => ?_
    exact ⟨ends.owned, ends.good⟩
  | @drop inner state =>
    refine (dropInner_wp state).seq fun _ held released => ?_
    exact ⟨released, trivial⟩

theorem Closed.accounted_eq {slot : HandleSlot} (closed : slot.Closed) (inv : slot.Inv) :
    slot.accounted = 0 := by
  cases slot with
  | vacant => rfl
  | dropped => rfl
  | live inner state =>
    obtain ⟨noBytes, noPackets⟩ := inv.inactive closed
    rw [accounted, noBytes, noPackets, amounts_zero]

end HandleSlot

/-! ## The shared counters -/

section Shared

variable {ι : Type} [Fintype ι] [DecidableEq ι]

/-- A configuration of handles, some in the middle of an operation. -/
abbrev HandleConfig (ι : Type) := Config ι LedgerCounter dataPathServices HandleSlot

/-- No handle yet. -/
def HandleConfig.initial : HandleConfig ι := ⟨0, fun _ => .idle .vacant⟩

/-- One step of one handle, on a budget. -/
def HandleStep (budget : VpnGlobalReassemblyBudget) : HandleConfig ι → HandleConfig ι → Prop :=
  Step budget.limits HandleSlot.accounted HandleSlot.Starts

theorem HandleConfig.sound {budget : VpnGlobalReassemblyBudget} {config : HandleConfig ι}
    (reachable : Relation.ReflTransGen (HandleStep budget) HandleConfig.initial config) :
    config.Sound budget.limits HandleSlot.accounted HandleSlot.Inv := by
  refine reachable_sound (fun _ _ inv starts => starts.wp inv) ?_ reachable
  exact {
    balanced := fun counter => by simp [HandleConfig.initial, Agent.holding, HandleSlot.accounted]
    bounded := fun counter => Nat.zero_le _
    agents := fun _ => trivial }

/-- **The shared counters are exact and bounded under every interleaving.** -/
theorem sharedReassembly_exact (budget : VpnGlobalReassemblyBudget) (config : HandleConfig ι)
    (reachable : Relation.ReflTransGen (HandleStep budget) HandleConfig.initial config) :
    (∀ counter, (config.counters counter : Int) =
        ∑ i, (config.agents i).holding HandleSlot.accounted counter) ∧
      config.counters .bytes ≤ budget.byteLimit ∧
      config.counters .packets ≤ budget.packetLimit ∧
      (∀ i, config.agents i ≠ .panicked) ∧
      (∀ i frame counter amount next,
        config.agents i = .busy frame (.subtract counter amount next) →
          amount ≤ config.counters counter) ∧
      ((∀ i, ∃ slot : HandleSlot, config.agents i = .idle slot ∧ slot.Closed) →
        config.counters .bytes = 0 ∧ config.counters .packets = 0) := by
  have sound := HandleConfig.sound reachable
  refine ⟨sound.balanced, sound.bounded .bytes, sound.bounded .packets, ?_, ?_, ?_⟩
  · intro i panicked
    have agent := sound.agents i
    rw [panicked] at agent
    exact agent
  · intro i frame counter amount next busy
    obtain ⟨own, -, ⟨covered, -⟩, within⟩ := sound.busy busy
    exact le_trans covered (within counter)
  · intro closed
    have nothing : ∀ counter, config.counters counter = 0 := by
      intro counter
      have sum := sound.balanced counter
      have none_ : ∀ i, (config.agents i).holding HandleSlot.accounted counter = 0 := by
        intro i
        obtain ⟨slot, idle, slotClosed⟩ := closed i
        have inv : slot.Inv := by
          have agent := sound.agents i
          rwa [idle] at agent
        rw [idle, Agent.holding, slotClosed.accounted_eq inv]
        rfl
      rw [Finset.sum_eq_zero fun i _ => none_ i] at sum
      exact Int.ofNat_eq_zero.mp sum
    exact ⟨nothing .bytes, nothing .packets⟩

end Shared

/-! The example datagram on one of two slots: its three bytes are in the counter. -/

/-- The first slot has held these handles, the last one now. -/
def exampleAgents (slots : List HandleSlot) :
    Fin 2 → Agent LedgerCounter dataPathServices HandleSlot :=
  slots.foldl (fun agents slot => Function.update agents ⟨0, Nat.two_pos⟩ (.idle slot))
    fun _ => .idle .vacant

def exampleEnv : DataPathEnv := ⟨.new .default 0, .default, .default⟩

def exampleIngestSlot : DataPathM HandleSlot := do
  let outcome ← (DataPathOp.ingestDatagram .uplink exampleDatagram 5).program exampleInner
    exampleActive
  pure (.live exampleInner outcome.2)

theorem sharedReassembly_exact_example :
    ∃ config : HandleConfig (Fin 2),
      Relation.ReflTransGen (HandleStep exampleBudget) HandleConfig.initial config ∧
      config.counters .bytes = 3 ∧
      ∑ i, (config.agents i).holding HandleSlot.accounted .bytes = 3 := by
  have evaluated : (exampleIngestSlot.run exampleBudget.limits DataPathEnv.serve 0
      exampleEnv).map (·.2.1 .bytes) = some 3 := by decide +kernel
  obtain ⟨⟨slot, counters, later⟩, ran, three⟩ := Option.map_eq_some_iff.mp evaluated
  have built : newPolicyInactive examplePolicy .default 1500 1 =
      .ok (exampleInner, exampleState) := rfl
  have build : Relation.ReflTransGen (HandleStep exampleBudget) HandleConfig.initial
      ⟨0, exampleAgents [.live exampleInner exampleState]⟩ :=
    Step.operation DataPathEnv.serve exampleEnv 0 rfl (.build built) rfl
  have activated : Relation.ReflTransGen (HandleStep exampleBudget)
      ⟨0, exampleAgents [.live exampleInner exampleState]⟩
      ⟨0, exampleAgents [.live exampleInner exampleState, .live exampleInner exampleActive]⟩ :=
    Step.operation DataPathEnv.serve exampleEnv 0 rfl
      (.operate (.refl exampleState) .activate) rfl
  have ingested : Relation.ReflTransGen (HandleStep exampleBudget)
      ⟨0, exampleAgents [.live exampleInner exampleState, .live exampleInner exampleActive]⟩
      ⟨counters, exampleAgents
        [.live exampleInner exampleState, .live exampleInner exampleActive, slot]⟩ :=
    Step.operation DataPathEnv.serve exampleEnv 0 rfl
      (.operate (.refl exampleActive) (.ingestDatagram .uplink exampleDatagram 5)) ran
  have reachable := (build.trans activated).trans ingested
  refine ⟨_, reachable, three, ?_⟩
  rw [← (sharedReassembly_exact exampleBudget _ reachable).1 .bytes]
  exact congrArg Int.ofNat three

end FlowWeave.Vpn
