/-
# Vpn.WholePackets — datagrams that carry a whole packet, and the shared budget

A datagram with a whole packet is never buffered, but `ingest_datagram` reserves its
bytes and a packet in the shared budget all the same. So the other handles decide
whether it passes, by what they leave of the budget.

* `wholePacket_independent_iff` — two global states that differ in the other handles
  answer such a datagram alike when the handle does not come to the reservation, or the
  budget gives the same answer in both, and only then;
* `wholePacket_refused` — one partial packet of another handle takes it away.

The run of a handle alone is computed from the counters as what the others hold and what
it holds itself.
-/
import Mathlib.Tactic.FinCases
import FlowWeave.Vpn.SharedReassembly
import FlowWeave.Vpn.LimiterRuns

namespace FlowWeave.Vpn

open Theory.MachineInt Theory.SharedLedger DataPathEnv VpnReassembler HandleConfig
open VpnDataPathState (Buffers Covered Good)

set_option autoImplicit false

/-! ## Running alone -/

/-- A program of a handle, run alone. -/
def RunsAlone {α : Type} (budget : VpnGlobalReassemblyBudget) (program : DataPathM α)
    (counters : LedgerCounter → Nat) (env : DataPathEnv)
    (Q : α → (LedgerCounter → Nat) → DataPathEnv → Prop) : Prop :=
  program.Alone budget.limits serve counters env Q

section Alone

variable {budget : VpnGlobalReassemblyBudget} {rest : LedgerCounter → Nat} {env : DataPathEnv}

theorem reconcileShrinkElseFail_alone {α : Type} {inner : VpnDataPathInner}
    {state : VpnDataPathState} (covered : Covered inner state)
    {continues : VpnDataPathState → DataPathM (Except VpnDataPathError α × VpnDataPathState)}
    {Q : Except VpnDataPathError α × VpnDataPathState → (LedgerCounter → Nat) → DataPathEnv → Prop}
    (next : ∀ later, RunsAlone budget (continues state.settled) (rest + state.settled.owned) later
      Q) :
    RunsAlone budget (reconcileShrinkElseFail state continues) (rest + state.owned) env Q := by
  refine ((reconcileShrink_wp covered).alone rest).seq fun result after later promised => ?_
  obtain ⟨held, ⟨rfl, rfl⟩, rfl⟩ := promised
  exact next later

/-- How the budget answers a reservation. -/
def VpnGlobalReassemblyBudget.refusal (budget : VpnGlobalReassemblyBudget)
    (counters : LedgerCounter → Nat) (bytes packets : Nat) : Option VpnQuotaRejection :=
  if budget.byteLimit < counters .bytes + bytes then some .globalReassemblyLimit
  else if budget.packetLimit < counters .packets + packets then some .globalInflightLimit
  else none

theorem tryReserve_alone (counters : LedgerCounter → Nat) (bytes packets : Nat) :
    RunsAlone budget (tryReserve bytes packets) counters env fun result after _ =>
      match budget.refusal counters bytes packets with
      | some rejection => result = .error rejection
      | none => result = .ok ⟨bytes, packets⟩ ∧ after = counters + amounts bytes packets := by
  by_cases manyBytes : budget.byteLimit < counters .bytes + bytes
  · have refusal : budget.refusal counters bytes packets = some .globalReassemblyLimit :=
      if_pos manyBytes
    rw [refusal]
    exact ⟨_, _, _, if_neg (Nat.not_le.mpr manyBytes), rfl⟩
  · have fitsBytes : counters .bytes + bytes ≤ budget.limits .bytes := Nat.le_of_not_lt manyBytes
    refine Program.Alone.seq (P := fun answer after later =>
      answer = some (counters .bytes + bytes) ∧ after = counters + amounts bytes 0)
      ⟨_, _, _, if_pos fitsBytes, rfl, ?_⟩ fun answer after later added => ?_
    · funext counter
      cases counter <;> rfl
    obtain ⟨rfl, rfl⟩ := added
    by_cases manyPackets : budget.packetLimit < counters .packets + packets
    · have refusal : budget.refusal counters bytes packets = some .globalInflightLimit := by
        rw [VpnGlobalReassemblyBudget.refusal, if_neg manyBytes, if_pos manyPackets]
      rw [refusal]
      refine Program.Alone.seq (P := fun answer after _ =>
        answer = none ∧ after = counters + amounts bytes 0)
        ⟨_, _, _, if_neg (Nat.not_le.mpr manyPackets), rfl, rfl⟩
        fun answer after last refused => ?_
      obtain ⟨rfl, rfl⟩ := refused
      have covered : bytes ≤ amounts bytes 0 .bytes := le_rfl
      exact ((subtract_wp covered).alone counters).seq fun _ after later _ => ⟨_, _, _, rfl, rfl⟩
    · have refusal : budget.refusal counters bytes packets = none := by
        rw [VpnGlobalReassemblyBudget.refusal, if_neg manyBytes, if_neg manyPackets]
      rw [refusal]
      have fitsPackets : (counters + amounts bytes 0) .packets + packets ≤
          budget.limits .packets := Nat.le_of_not_lt manyPackets
      refine Program.Alone.seq (P := fun answer after _ =>
        answer = some (counters .packets + packets) ∧ after = counters + amounts bytes packets)
        ⟨_, _, _, if_pos fitsPackets, rfl, ?_⟩ fun answer after last added => ?_
      · funext counter
        cases counter <;> rfl
      · obtain ⟨rfl, rfl⟩ := added
        exact ⟨_, _, _, rfl, rfl, rfl⟩

end Alone

/-! ## A whole packet -/

/-- The fragment is a whole packet, of a legal length and with an id that is not in use. -/
structure WholePacket (inner : VpnDataPathInner) (state : VpnDataPathState)
    (direction : VpnPacketDirection) (fragment : VpnFragment) : Prop where
  first : fragment.offset = 0
  whole : fragment.payload.length = fragment.totalLen
  allowed : fragment.totalLen ≤ inner.maxIpPacketLen
  unused : (state.reassembler direction).packets.lookup fragment.packetId = none

variable {state : VpnDataPathState} {inner : VpnDataPathInner}

theorem WholePacket.expired {direction : VpnPacketDirection} {fragment : VpnFragment}
    (packet : WholePacket inner state direction fragment) (now : Nat) :
    WholePacket inner (state.expire now).settled direction fragment where
  first := packet.first
  whole := packet.whole
  allowed := packet.allowed
  unused := by
    rw [VpnDataPathState.settled_reassembler]
    exact ((state.expire_shrinks now).prunes direction).lookup_none packet.unused

theorem VpnDataPathState.Good.settled_eq (good : Good inner state) : state.settled = state := by
  rw [settled, ← good.exactBytes, ← good.exactPackets]

/-- Where nothing is added the identity has room already. -/
theorem VpnDataPathInner.makeIdentityRoom_nothing (good : Good inner state)
    (direction : VpnPacketDirection) (packetId : UInt32) (existingPacket : Bool) (fuel : Nat) :
    inner.makeIdentityRoom direction packetId existingPacket 0 0 (fuel + 1) state =
      pure (.ok (), state) := by
  obtain ⟨bytesSmall, packetsSmall⟩ := good.buffers.small
  have bytes := le_trans good.bytes good.bytes_le
  have packets := le_trans good.packets good.packets_le
  have byteSum : state.heldBytes + 0 ≤ usizeMax := by
    simp only [vpnMaxIpPacketLen, usizeMax] at bytesSmall ⊢
    omega
  have packetSum : state.heldPackets + 0 ≤ usizeMax := by
    simp only [vpnDefaultMaxInflightPackets, usizeMax] at packetsSmall ⊢
    omega
  simp only [makeIdentityRoom, good.buffers.usage.1, good.buffers.usage.2,
    checkedAdd_exceeds byteSum, checkedAdd_exceeds packetSum]
  simp [Nat.not_lt.mpr bytes, Nat.not_lt.mpr packets]

namespace VpnDataPathInner

variable {budget : VpnGlobalReassemblyBudget} {rest : LedgerCounter → Nat} {env : DataPathEnv}
  {inner : VpnDataPathInner} {state : VpnDataPathState} {direction : VpnPacketDirection}
  {now : Nat} {datagram : List UInt8} {fragment : VpnFragment}

/-- Only the answer of the budget is between a whole packet and the reassembler. -/
theorem ingestReserved_alone (good : Good inner state) (active : state.active = true)
    (fresh : (state.reassembler direction).Fresh now)
    (decoded : decodeVpnIpFragment datagram = .ok fragment)
    (packet : WholePacket inner state direction fragment) :
    RunsAlone budget
      (inner.ingestReserved direction now datagram fragment fragment.payload.length state)
      (rest + state.owned) env fun outcome _ _ =>
        outcome.1 = match budget.refusal (rest + state.owned) fragment.payload.length 1 with
          | some rejection => .error (.quota rejection)
          | none => .ok ((state.reassembler direction).ingest now datagram).1 := by
  have wellFormed := decodeVpnIpFragment_wellFormed decoded
  have reassemblerGood := (good.buffers direction).1
  have absent : (state.reassembler direction).containsPacket fragment.packetId = false := by
    rw [containsPacket, packet.unused]
    rfl
  have completes : (state.reassembler direction).fragmentWillComplete fragment = true := by
    rw [fragmentWillComplete_iff reassemblerGood wellFormed,
      receivedBytesOf_none packet.unused, packet.whole, Nat.zero_add]
  have announced : (state.reassembler direction).additionalBufferedBytes fragment =
      .ok fragment.payload.length := by
    rw [additionalBufferedBytes, packet.unused]
  have nothing :
      (state.reassembler direction).announcedBytes fragment fragment.payload.length = 0 :=
    if_pos completes
  have noPacket : (state.reassembler direction).announcedPackets fragment = 0 :=
    if_pos (Or.inr completes)
  obtain ⟨-, bytesCovered, packetsCovered⟩ :=
    ingestAt_reserved good active fresh decoded announced
      (by rw [nothing]; exact le_trans good.bytes good.bytes_le)
      (by rw [noPacket]; exact le_trans good.packets good.packets_le)
  unfold ingestReserved
  simp only [absent, completes, if_true, Bool.not_true, Bool.and_false, Bool.false_eq_true,
    if_false, makeIdentityRoom_nothing good, Bool.not_false] at packetsCovered ⊢
  show RunsAlone budget (reconcileShrinkElseFail state _) _ _ _
  refine reconcileShrinkElseFail_alone good.toCovered fun later => ?_
  rw [good.settled_eq]
  refine (tryReserve_alone (rest + state.owned) fragment.payload.length 1).seq
    fun result after later reserved => ?_
  cases answer : budget.refusal (rest + state.owned) fragment.payload.length 1 with
  | some rejection =>
    rw [answer] at reserved
    subst reserved
    exact ⟨_, _, _, rfl, rfl⟩
  | none =>
    rw [answer] at reserved
    obtain ⟨rfl, rfl⟩ := reserved
    have counters : rest + state.owned + amounts fragment.payload.length 1 =
        rest + amounts (state.accountedBytes + fragment.payload.length)
          (state.accountedPackets + 1) := by
      rw [add_assoc, VpnDataPathState.owned, amounts_add]
    have few : fragment.payload.length ≤ vpnMaxIpPacketLen := by
      have small := wellFormed.small
      have inside := wellFormed.inside
      omega
    rw [counters]
    refine ((reconcile_ingestAt_wp good few le_rfl rfl bytesCovered packetsCovered).alone rest).seq
      fun result after later promised => ?_
    obtain ⟨held, ⟨rfl, rfl⟩, rfl⟩ := promised
    exact ⟨_, _, _, rfl, rfl⟩

/-- What the policy check makes of the reassembler's result. -/
def delivered (inner : VpnDataPathInner) (direction : VpnPacketDirection) :
    Except VpnPacketError (Option (List UInt8)) → Except VpnDataPathError (Option VpnDataPacket)
  | .ok (some packet) =>
    match validateVpnIpPacketPolicy inner.policy direction packet with
    | .error error => .error (.policy error)
    | .ok metadata => .ok (some ⟨packet, metadata⟩)
  | .ok none => .ok none
  | .error error => .error (.fragment error)

theorem delivered_ne_quota (inner : VpnDataPathInner) (direction : VpnPacketDirection)
    (result : Except VpnPacketError (Option (List UInt8))) (rejection : VpnQuotaRejection) :
    inner.delivered direction result ≠ .error (.quota rejection) := by
  rcases result with error | _ | packet
  · exact nofun
  · exact nofun
  · simp only [delivered]
    split <;> simp

theorem deliver_alone (result : Except VpnPacketError (Option (List UInt8)))
    (counters : LedgerCounter → Nat) :
    RunsAlone budget (inner.deliver direction result) counters env fun value _ _ =>
      value = inner.delivered direction result := by
  rcases result with error | _ | packet
  · simp only [deliver]
    split <;> exact ⟨_, _, _, rfl, rfl⟩
  · exact ⟨_, _, _, rfl, rfl⟩
  · refine Program.Alone.seq (P := fun _ _ _ => True) ⟨_, _, _, rfl, trivial⟩
      fun _ after later _ => ?_
    simp only [delivered]
    cases validateVpnIpPacketPolicy inner.policy direction packet <;>
      exact ⟨_, _, _, rfl, rfl⟩

/-- The answer to a whole packet: the handle is active, its limiter admits the datagram and
the budget has room, or the first of them that is not so says why. The last argument is
what the reassembler makes of it. -/
def wholePacketAnswer (budget : VpnGlobalReassemblyBudget) (counters : LedgerCounter → Nat)
    (env : DataPathEnv) (active : Bool) (direction : VpnPacketDirection)
    (datagramLen now bytes : Nat) (value : Except VpnDataPathError (Option VpnDataPacket)) :
    Except VpnDataPathError (Option VpnDataPacket) :=
  if active then
    match (env.limiter.admitDatagrams env.quotaMetrics direction [datagramLen] now).1 with
    | .error rejection => .error (.quota rejection)
    | .ok () =>
      match budget.refusal counters bytes 1 with
      | some rejection => .error (.quota rejection)
      | none => value
  else .error .staleGeneration

section Answer

variable {active : Bool} {datagramLen bytes : Nat} {counters counters' : LedgerCounter → Nat}
  {value : Except VpnDataPathError (Option VpnDataPacket)}

/-- Of the services only the limiter's answer matters. -/
theorem wholePacketAnswer_congr {env' : DataPathEnv} (bytes : Nat)
    (value : Except VpnDataPathError (Option VpnDataPacket))
    (same : (env'.limiter.admitDatagrams env'.quotaMetrics direction [datagramLen] now).1 =
      (env.limiter.admitDatagrams env.quotaMetrics direction [datagramLen] now).1) :
    wholePacketAnswer budget counters env' active direction datagramLen now bytes value =
      wholePacketAnswer budget counters env active direction datagramLen now bytes value := by
  rw [wholePacketAnswer, wholePacketAnswer, same]

theorem wholePacketAnswer_eq_iff
    (notQuota : ∀ rejection, value ≠ .error (.quota rejection)) :
    wholePacketAnswer budget counters env active direction datagramLen now bytes value =
        wholePacketAnswer budget counters' env active direction datagramLen now bytes value ↔
      active = false ∨
        (env.limiter.admitDatagrams env.quotaMetrics direction [datagramLen] now).1 ≠ .ok () ∨
        budget.refusal counters bytes 1 = budget.refusal counters' bytes 1 := by
  unfold wholePacketAnswer
  cases active with
  | false => simp
  | true =>
    cases (env.limiter.admitDatagrams env.quotaMetrics direction [datagramLen] now).1 with
    | error rejection => simp
    | ok admitted =>
      simp only [if_true, Bool.true_eq_false, ne_eq, not_true_eq_false, false_or]
      cases budget.refusal counters bytes 1 with
      | none =>
        cases budget.refusal counters' bytes 1 with
        | none => simp
        | some rejection => simpa using notQuota rejection
      | some rejection =>
        cases budget.refusal counters' bytes 1 with
        | none => simpa using (notQuota rejection).symm
        | some rejection' => simp

end Answer

theorem ingestDatagram_alone (good : Good inner state)
    (decoded : decodeVpnIpFragment datagram = .ok fragment)
    (packet : WholePacket inner state direction fragment) :
    RunsAlone budget (inner.ingestDatagram direction datagram now state) (rest + state.owned) env
      fun outcome _ _ =>
        outcome.1 = wholePacketAnswer budget (rest + (state.expire now).settled.owned) env
          state.active direction datagram.length now fragment.payload.length
          (inner.delivered direction
            (((state.expire now).settled.reassembler direction).ingest now datagram).1) := by
  unfold wholePacketAnswer
  cases active : state.active with
  | false =>
    unfold ingestDatagram ingestLocked
    rw [active]
    exact ⟨_, _, _, rfl, rfl⟩
  | true =>
    rw [if_pos rfl]
    refine Program.Alone.seq (P := fun outcome _ _ => outcome.1 =
      match (env.limiter.admitDatagrams env.quotaMetrics direction [datagram.length] now).1 with
      | .error rejection => .error (.quota rejection)
      | .ok () =>
        match budget.refusal (rest + (state.expire now).settled.owned)
            fragment.payload.length 1 with
        | some rejection => .error (.quota rejection)
        | none => .ok (((state.expire now).settled.reassembler direction).ingest now datagram).1)
      ?_ fun outcome after later answered => ?_
    · unfold ingestLocked
      rw [active]
      refine Program.Alone.seq (P := fun answer after later =>
        answer = (env.limiter.admitDatagrams env.quotaMetrics direction [datagram.length] now).1 ∧
          after = rest + state.owned)
        ⟨_, _, _, rfl, rfl, rfl⟩ fun answer after later admitted => ?_
      obtain ⟨rfl, rfl⟩ := admitted
      cases (env.limiter.admitDatagrams env.quotaMetrics direction [datagram.length] now).1 with
      | error rejection => exact ⟨_, _, _, rfl, rfl⟩
      | ok admitted =>
        have shrinks := state.expire_shrinks now
        have covered := shrinks.covered good.toCovered
        have packet' := packet.expired now
        have fresh : ((state.expire now).settled.reassembler direction).Fresh now := by
          rw [VpnDataPathState.settled_reassembler]
          cases direction with
          | uplink => exact expire_fresh _ _
          | downlink => exact expire_fresh _ _
        have filled : fragment.payload.length ≠ 0 := by
          simpa using (decodeVpnIpFragment_wellFormed decoded).filled
        obtain ⟨length, isLength⟩ := Nat.exists_eq_succ_of_ne_zero filled
        have announced : ((state.expire now).settled.reassembler
            direction).additionalBufferedBytes fragment = .ok (length + 1) := by
          rw [additionalBufferedBytes, packet'.unused, isLength]
        rw [← shrinks.owned_eq]
        refine reconcileShrinkElseFail_alone covered fun later => ?_
        rw [decoded]
        have reserved := @ingestReserved_alone budget rest later _ _ _ _ _ _ covered.settled
          (shrinks.active.trans active) fresh decoded packet'
        simp only [ingestFragment, if_neg (Nat.not_lt.mpr packet.allowed), announced]
        rw [isLength] at reserved ⊢
        exact reserved
    · obtain ⟨result, ended⟩ := outcome
      dsimp only at answered
      subst answered
      cases (env.limiter.admitDatagrams env.quotaMetrics direction [datagram.length] now).1 with
      | error rejection => exact ⟨_, _, _, rfl, rfl⟩
      | ok admitted =>
        cases budget.refusal (rest + (state.expire now).settled.owned)
            fragment.payload.length 1 with
        | some rejection => exact ⟨_, _, _, rfl, rfl⟩
        | none =>
          refine (deliver_alone _ after).seq fun value after later same => ?_
          exact ⟨_, _, _, rfl, same⟩

end VpnDataPathInner

/-! ## Two global states -/

section Shared

variable {ι : Type} [Fintype ι] [DecidableEq ι]

/-- The counters once a handle has given back what has timed out. -/
def countersAfterExpiry (counters : LedgerCounter → Nat) (state : VpnDataPathState) (now : Nat) :
    LedgerCounter → Nat :=
  fun counter => counters counter - state.owned counter + (state.expire now).settled.owned counter

/-- A handle at rest in a reachable configuration is good, and the counters contain what it
accounts for. -/
theorem HandleConfig.idle {budget : VpnGlobalReassemblyBudget} {config : HandleConfig ι}
    (reachable : Relation.ReflTransGen (HandleStep budget) initial config) {i : ι}
    {inner : VpnDataPathInner} {state : VpnDataPathState}
    (idle : config.agents i = .idle (.live inner state)) :
    Good inner state ∧
      config.counters = (fun counter => config.counters counter - state.owned counter) +
        state.owned := by
  have sound := sound reachable
  have good : Good inner state := by
    have agent := sound.agents i
    rwa [idle] at agent
  refine ⟨good, ?_⟩
  funext counter
  have holds := sound.holding_le i counter
  rw [idle] at holds
  exact (Nat.sub_add_cancel (Int.ofNat_le.mp holds)).symm

/-- **When whole packets do not depend on the other handles.** In two reachable global
states with the same handle `i` and the same limiter, a datagram with a whole packet is
answered alike if and only if the handle is inactive, its limiter refuses the datagram, or
the budget gives the same answer in both. -/
theorem wholePacket_independent_iff (budget : VpnGlobalReassemblyBudget)
    {config other : HandleConfig ι}
    (reachable : Relation.ReflTransGen (HandleStep budget) HandleConfig.initial config)
    (reachable' : Relation.ReflTransGen (HandleStep budget) HandleConfig.initial other) {i : ι}
    {inner : VpnDataPathInner} {state : VpnDataPathState}
    (idle : config.agents i = .idle (.live inner state))
    (idle' : other.agents i = .idle (.live inner state)) {env env' : DataPathEnv}
    (sameLimiter : env'.limiter = env.limiter) {direction : VpnPacketDirection}
    {datagram : List UInt8} {fragment : VpnFragment}
    (decoded : decodeVpnIpFragment datagram = .ok fragment)
    (packet : WholePacket inner state direction fragment) (now : Nat) :
    ∃ result result',
      ((inner.ingestDatagram direction datagram now state).run budget.limits DataPathEnv.serve
          config.counters env).map (·.1.1) = some result ∧
        ((inner.ingestDatagram direction datagram now state).run budget.limits DataPathEnv.serve
          other.counters env').map (·.1.1) = some result' ∧
        (result = result' ↔
          state.active = false ∨
            (env.limiter.admitDatagrams env.quotaMetrics direction [datagram.length] now).1 ≠
              .ok () ∨
            budget.refusal (countersAfterExpiry config.counters state now)
                fragment.payload.length 1 =
              budget.refusal (countersAfterExpiry other.counters state now)
                fragment.payload.length 1) := by
  obtain ⟨good, split⟩ := HandleConfig.idle reachable idle
  obtain ⟨-, split'⟩ := HandleConfig.idle reachable' idle'
  obtain ⟨outcome, after, later, ran, answered⟩ :=
    @VpnDataPathInner.ingestDatagram_alone budget
      (fun counter => config.counters counter - state.owned counter) env _ _ direction now _ _ good
      decoded packet
  obtain ⟨outcome', after', later', ran', answered'⟩ :=
    @VpnDataPathInner.ingestDatagram_alone budget
      (fun counter => other.counters counter - state.owned counter) env' _ _ direction now _ _ good
      decoded packet
  rw [← split] at ran
  rw [← split'] at ran'
  refine ⟨outcome.1, outcome'.1, by rw [ran]; rfl, by rw [ran']; rfl, ?_⟩
  have sameAnswer := (@IdentityRateState.admitDatagrams_congr env'.limiter env.limiter now
    env'.quotaMetrics env.quotaMetrics direction [datagram.length] (by rw [sameLimiter])).1
  have value := inner.delivered_ne_quota direction
    (((state.expire now).settled.reassembler direction).ingest now datagram).1
  rw [answered, answered', VpnDataPathInner.wholePacketAnswer_congr _ _ sameAnswer]
  exact VpnDataPathInner.wholePacketAnswer_eq_iff value

end Shared

/-! Two handles on a budget of one packet. The first has an incomplete packet or is not
there; the second gets a whole one. -/

def exampleOpenInner : VpnDataPathInner := { exampleInner with policy := .exampleOpen }

def exampleWholePacket : List UInt8 :=
  [0x45, 0, 0, 20, 0, 0, 0, 0, 64, 17, 0, 0, 10, 66, 0, 2, 8, 8, 8, 8]

def exampleWholeFragment : VpnFragment := ⟨9, 20, 0, exampleWholePacket⟩

theorem exampleWholeFragment_decoded :
    decodeVpnIpFragment (vpnIpDatagram 9 20 0 exampleWholePacket) = .ok exampleWholeFragment := by
  decide +kernel

theorem exampleWholeFragment_whole :
    WholePacket exampleOpenInner exampleActive .uplink exampleWholeFragment :=
  ⟨rfl, rfl, by decide, rfl⟩

/-- Agents with these slots. -/
def examplePair (first second : HandleSlot) :
    Fin 2 → Agent LedgerCounter dataPathServices HandleSlot
  | 0 => .idle first
  | 1 => .idle second

theorem examplePair_first (first second after : HandleSlot) :
    Function.update (examplePair first second) 0 (.idle after) = examplePair after second := by
  funext i
  fin_cases i <;> rfl

theorem examplePair_second (first second after : HandleSlot) :
    Function.update (examplePair first second) 1 (.idle after) = examplePair first after := by
  funext i
  fin_cases i <;> rfl

/-- Only the second handle. -/
def exampleAlone : HandleConfig (Fin 2) :=
  ⟨0, examplePair .vacant (.live exampleOpenInner exampleActive)⟩

theorem exampleOpenInner_built :
    newPolicyInactive exampleOpenInner.policy .default 1500 1 =
      .ok (exampleOpenInner, exampleState) := rfl

theorem exampleAlone_reachable :
    Relation.ReflTransGen (HandleStep exampleSmallBudget) initial exampleAlone := by
  have start : (initial : HandleConfig (Fin 2)) = ⟨0, examplePair .vacant .vacant⟩ := by
    rw [initial]
    congr 1
    funext i
    fin_cases i <;> rfl
  have build : Relation.ReflTransGen (HandleStep exampleSmallBudget)
      ⟨0, examplePair .vacant .vacant⟩
      ⟨0, Function.update (examplePair .vacant .vacant) 1
        (.idle (.live exampleOpenInner exampleState))⟩ :=
    Step.operation serve exampleEnv 1 rfl (.build exampleOpenInner_built) rfl
  have activate : Relation.ReflTransGen (HandleStep exampleSmallBudget)
      ⟨0, examplePair .vacant (.live exampleOpenInner exampleState)⟩
      ⟨0, Function.update (examplePair .vacant (.live exampleOpenInner exampleState)) 1
        (.idle (.live exampleOpenInner exampleActive))⟩ :=
    Step.operation serve exampleEnv 1 rfl
      (.operate (.refl exampleState) .activate) rfl
  rw [examplePair_second] at build activate
  rw [start]
  exact build.trans activate

/-- The first handle has three bytes of a packet. -/
theorem exampleCrowded_reachable :
    ∃ slot, Relation.ReflTransGen (HandleStep exampleSmallBudget) initial
      ⟨amounts 3 1, examplePair slot (.live exampleOpenInner exampleActive)⟩ := by
  have evaluated : (exampleIngestSlot.run exampleSmallBudget.limits serve 0
      exampleEnv).map (fun ended => (ended.2.1 .bytes, ended.2.1 .packets)) = some (3, 1) := by
    decide +kernel
  obtain ⟨⟨slot, counters, later⟩, ran, amounts_⟩ := Option.map_eq_some_iff.mp evaluated
  have counted : counters = amounts 3 1 := by
    funext counter
    cases counter with
    | bytes => exact congrArg Prod.fst amounts_
    | packets => exact congrArg Prod.snd amounts_
  subst counted
  have built : newPolicyInactive examplePolicy .default 1500 1 =
      .ok (exampleInner, exampleState) := rfl
  have build : Relation.ReflTransGen (HandleStep exampleSmallBudget) exampleAlone
      ⟨0, Function.update exampleAlone.agents 0 (.idle (.live exampleInner exampleState))⟩ :=
    Step.operation serve exampleEnv 0 rfl (.build built) rfl
  have activate : Relation.ReflTransGen (HandleStep exampleSmallBudget)
      ⟨0, examplePair (.live exampleInner exampleState) (.live exampleOpenInner exampleActive)⟩
      ⟨0, Function.update (examplePair (.live exampleInner exampleState)
        (.live exampleOpenInner exampleActive)) 0 (.idle (.live exampleInner exampleActive))⟩ :=
    Step.operation serve exampleEnv 0 rfl
      (.operate (.refl exampleState) .activate) rfl
  have ingest : Relation.ReflTransGen (HandleStep exampleSmallBudget)
      ⟨0, examplePair (.live exampleInner exampleActive) (.live exampleOpenInner exampleActive)⟩
      ⟨amounts 3 1, Function.update (examplePair (.live exampleInner exampleActive)
        (.live exampleOpenInner exampleActive)) 0 (.idle slot)⟩ :=
    Step.operation serve exampleEnv 0 rfl
      (.operate (.refl exampleActive) (.ingestDatagram .uplink exampleDatagram 5)) ran
  rw [exampleAlone, examplePair_first] at build
  rw [examplePair_first] at activate ingest
  exact ⟨slot, exampleAlone_reachable.trans ((build.trans activate).trans ingest)⟩

/-- What the second handle answers to its whole packet. -/
def exampleWholeAnswer (counters : LedgerCounter → Nat) :
    Option (Except VpnDataPathError (Option VpnDataPacket)) :=
  ((exampleOpenInner.ingestDatagram .uplink (vpnIpDatagram 9 20 0 exampleWholePacket) 6
    exampleActive).run exampleSmallBudget.limits serve counters exampleEnv).map (·.1.1)

/-- With a partial packet of the other handle in the budget, the packet is lost. -/
theorem wholePacket_refused :
    ∃ config other : HandleConfig (Fin 2),
      Relation.ReflTransGen (HandleStep exampleSmallBudget) HandleConfig.initial config ∧
      Relation.ReflTransGen (HandleStep exampleSmallBudget) HandleConfig.initial other ∧
      config.agents 1 = .idle (.live exampleOpenInner exampleActive) ∧
      other.agents 1 = .idle (.live exampleOpenInner exampleActive) ∧
      exampleWholeAnswer config.counters =
        some (.ok (some ⟨exampleWholePacket,
          ⟨.v4 (Ipv4Addr.ofOctets [10, 66, 0, 2]), .v4 (Ipv4Addr.ofOctets [8, 8, 8, 8])⟩⟩)) ∧
      exampleWholeAnswer other.counters = some (.error (.quota .globalInflightLimit)) := by
  obtain ⟨slot, reachable⟩ := exampleCrowded_reachable
  refine ⟨exampleAlone, _, exampleAlone_reachable, reachable, rfl, rfl, ?_, ?_⟩
  · decide +kernel
  · change exampleWholeAnswer (amounts 3 1) = _
    decide +kernel

theorem wholePacket_independent_iff_example :
    ∃ result result', exampleWholeAnswer 0 = some result ∧
      exampleWholeAnswer (amounts 3 1) = some result' ∧
      (result = result' ↔
        exampleSmallBudget.refusal (countersAfterExpiry 0 exampleActive 6) 20 1 =
          exampleSmallBudget.refusal (countersAfterExpiry (amounts 3 1) exampleActive 6) 20 1) := by
  obtain ⟨slot, reachable⟩ := exampleCrowded_reachable
  obtain ⟨result, result', first, second, same⟩ := wholePacket_independent_iff exampleSmallBudget
    exampleAlone_reachable reachable (i := 1) rfl rfl
      (rfl : exampleEnv.limiter = exampleEnv.limiter)
    exampleWholeFragment_decoded exampleWholeFragment_whole 6
  refine ⟨result, result', first, second, same.trans ?_⟩
  have admitted : (exampleEnv.limiter.admitDatagrams exampleEnv.quotaMetrics .uplink
      [(vpnIpDatagram 9 20 0 exampleWholePacket).length] 6).1 = .ok () := by decide +kernel
  rw [admitted]
  constructor
  · rintro (inactive | refused | same)
    · cases inactive
    · exact absurd rfl refused
    · exact same
  · exact fun same => .inr (.inr same)

end FlowWeave.Vpn
