/-
# Vpn.DataPathRun — whole runs of one data path

A run of a handle is a sequence of operations, each with its reply. Other handles
may use the shared counters and the limiter in between, so an operation may return
whatever its program returns for some answers of theirs (`Program.Returns`); the
hash tables may have changed their order.

`dataPath_invariant`: after every operation of every run the books of the handle
are exact and within the limits of its identity, and no reply is one of the errors
that would mean a fault of the accounting.
-/
import FlowWeave.Vpn.DataPathLedger

namespace FlowWeave.Vpn

open Theory.SharedLedger (Program)
open Theory.SharedLedger.Program (Wp)
open VpnDataPathState (Good)

set_option autoImplicit false

/-! ## Operations and replies -/

inductive DataPathOp where
  | ingestDatagram (direction : VpnPacketDirection) (datagram : List UInt8) (now : Nat)
  | encodeIpPacket (direction : VpnPacketDirection) (packetId : UInt32) (packet : List UInt8)
      (maxDatagramLen now : Nat)
  | expireReassembly (now : Nat)
  | activate
  | deactivate

inductive DataPathReply where
  | ingested (result : Except VpnDataPathError (Option VpnDataPacket))
  | encoded (result : Except VpnDataPathError (List (List UInt8)))
  | expired (packets : Nat)
  | switched

def DataPathReply.error? : DataPathReply → Option VpnDataPathError
  | .ingested (.error error) => some error
  | .encoded (.error error) => some error
  | _ => none

namespace DataPathOp

/-- One operation on the locked state. -/
def program (inner : VpnDataPathInner) (state : VpnDataPathState) :
    DataPathOp → DataPathM (DataPathReply × VpnDataPathState)
  | .ingestDatagram direction datagram now => do
    let (result, state) ← inner.ingestDatagram direction datagram now state
    pure (.ingested result, state)
  | .encodeIpPacket direction packetId packet maxDatagramLen now => do
    let result ← inner.encodeIpPacket direction packetId packet maxDatagramLen now state
    pure (.encoded result, state)
  | .expireReassembly now => do
    let (packets, state) ← FlowWeave.Vpn.expireReassembly now state
    pure (.expired packets, state)
  | .activate => do
    let state ← FlowWeave.Vpn.activate state
    pure (.switched, state)
  | .deactivate => do
    let state ← FlowWeave.Vpn.deactivate state
    pure (.switched, state)

/-- Only `activate` and `deactivate` switch a handle. -/
def activeAfter (active : Bool) : DataPathOp → Bool
  | .activate => true
  | .deactivate => false
  | _ => active

end DataPathOp

variable {inner : VpnDataPathInner} {state : VpnDataPathState}

/-- `encode_ip_packet` takes no step on the counters. -/
theorem VpnDataPathInner.encodeIpPacket_wp (direction : VpnPacketDirection) (packetId : UInt32)
    (packet : List UInt8) (maxDatagramLen now : Nat) (own : LedgerCounter → Nat) :
    Wp (inner.encodeIpPacket direction packetId packet maxDatagramLen now state) own
      fun result held => held = own ∧
        ∀ error, result = .error error → error.isInternal = false := by
  unfold encodeIpPacket
  split
  · refine (record_wp _ _).seq fun _ held unchanged => ?_
    exact ⟨unchanged, fun error isError => by cases isError; rfl⟩
  · split
    · exact ⟨rfl, fun error isError => by cases isError; rfl⟩
    · cases validateVpnIpPacketPolicy inner.policy direction packet with
      | error error =>
        refine (record_wp _ _).seq fun _ held unchanged => ?_
        exact ⟨unchanged, fun error isError => by cases isError; rfl⟩
      | ok metadata =>
        cases encodeVpnIpFragments packetId packet maxDatagramLen with
        | error error => exact ⟨rfl, fun error isError => by cases isError; rfl⟩
        | ok fragments =>
          refine (admitDatagrams_wp _ _ _ _).seq fun answer held admitted => ?_
          obtain ⟨rate, rfl⟩ := admitted
          cases answer with
          | error rejection =>
            refine ⟨rfl, fun error isError => ?_⟩
            cases isError
            exact rate.external
          | ok admitted =>
            refine (record_wp _ _).seq fun _ held unchanged => ?_
            exact ⟨unchanged, fun error isError => by cases isError⟩

/-- **One operation** keeps the invariant. -/
theorem DataPathOp.program_wp (good : Good inner state) (op : DataPathOp) :
    Wp (op.program inner state) state.owned fun outcome held =>
      Good inner outcome.2 ∧ held = outcome.2.owned ∧
        outcome.2.active = op.activeAfter state.active ∧
        ∀ error, outcome.1.error? = some error → error.isInternal = false := by
  cases op with
  | ingestDatagram direction datagram now =>
    refine (VpnDataPathInner.ingestDatagram_wp good).seq fun outcome held ends => ?_
    refine ⟨ends.good, ends.owned, ends.active, fun error replied => ?_⟩
    obtain ⟨result, after⟩ := outcome
    cases result with
    | error other =>
      cases replied
      exact ends.external _ rfl
    | ok packet => cases replied
  | encodeIpPacket direction packetId packet maxDatagramLen now =>
    refine (VpnDataPathInner.encodeIpPacket_wp direction packetId packet maxDatagramLen now
      state.owned).seq fun result held promised => ?_
    obtain ⟨rfl, external⟩ := promised
    refine ⟨good, rfl, rfl, fun error replied => ?_⟩
    cases result with
    | error other =>
      cases replied
      exact external _ rfl
    | ok fragments => cases replied
  | expireReassembly now =>
    refine (expireReassembly_wp good now).seq fun outcome held promised => ?_
    exact ⟨promised.1, promised.2.1, promised.2.2, fun error replied => by cases replied⟩
  | activate =>
    refine (activate_wp good).seq fun after held promised => ?_
    exact ⟨promised.1, promised.2.1, promised.2.2, fun error replied => by cases replied⟩
  | deactivate =>
    refine (deactivate_wp good).seq fun after held promised => ?_
    exact ⟨promised.1, promised.2.1, promised.2.2, fun error replied => by cases replied⟩

variable {after : VpnDataPathState} {direction : VpnPacketDirection}

/-- What an operation may return, from a good state. -/
theorem DataPathOp.returns_good (good : Good inner state) {op : DataPathOp} {reply : DataPathReply}
    (returned : (op.program inner state).Returns (reply, after)) :
    Good inner after ∧ after.active = op.activeAfter state.active ∧
      ∀ error, reply.error? = some error → error.isInternal = false := by
  obtain ⟨held, afterGood, -, active, external⟩ := (op.program_wp good).returns returned
  exact ⟨afterGood, active, external⟩

/-! ## Packets that pass -/

/-- The packet that an operation with this reply has let through, and which way. -/
def DataPathOp.passed : DataPathOp → DataPathReply → Option (VpnPacketDirection × List UInt8)
  | .ingestDatagram direction _ _, .ingested (.ok (some packet)) => some (direction, packet.bytes)
  | .encodeIpPacket direction _ packet _ _, .encoded (.ok _) => some (direction, packet)
  | _, _ => none

theorem VpnDataPathInner.deliver_some {result : Except VpnPacketError (Option (List UInt8))}
    {packet : VpnDataPacket}
    (returned : (inner.deliver direction result).Returns (.ok (some packet))) :
    validateVpnIpPacketPolicy inner.policy direction packet.bytes = .ok packet.metadata := by
  cases result with
  | error error =>
    rw [deliver] at returned
    cases malformed : isMalformed error with
    | true =>
      rw [malformed] at returned
      obtain ⟨_, -, failed⟩ := Program.returns_bind.mp returned
      cases failed
    | false =>
      rw [malformed] at returned
      cases returned
  | ok reassembled =>
    cases reassembled with
    | none => cases returned
    | some bytes =>
      obtain ⟨_, -, checked⟩ := Program.returns_bind.mp returned
      cases policy : validateVpnIpPacketPolicy inner.policy direction bytes with
      | error error =>
        rw [policy] at checked
        cases checked
      | ok metadata =>
        rw [policy] at checked
        cases checked
        exact policy

/-- `ingest_datagram` returns a packet only while active, and after the policy check. -/
theorem VpnDataPathInner.ingestDatagram_delivers {datagram : List UInt8} {now : Nat}
    {packet : VpnDataPacket}
    (returned : (inner.ingestDatagram direction datagram now state).Returns
      (.ok (some packet), after)) :
    state.active = true ∧
      validateVpnIpPacketPolicy inner.policy direction packet.bytes = .ok packet.metadata := by
  obtain ⟨⟨outcome, mid⟩, locked, rest⟩ := Program.returns_bind.mp returned
  cases outcome with
  | error error => cases rest
  | ok result =>
    obtain ⟨delivered, delivers, same⟩ := Program.returns_bind.mp rest
    cases same
    constructor
    · by_contra inactive
      rw [Bool.not_eq_true] at inactive
      rw [ingestLocked, inactive] at locked
      obtain ⟨_, -, stale⟩ := Program.returns_bind.mp locked
      cases stale
    · exact deliver_some delivers

/-- `encode_ip_packet` succeeds only while active, and after the policy check. -/
theorem VpnDataPathInner.encodeIpPacket_passes {packetId : UInt32} {packet : List UInt8}
    {maxDatagramLen now : Nat} {fragments : List (List UInt8)}
    (returned : (inner.encodeIpPacket direction packetId packet maxDatagramLen now state).Returns
      (.ok fragments)) :
    state.active = true ∧
      ∃ metadata, validateVpnIpPacketPolicy inner.policy direction packet = .ok metadata := by
  unfold encodeIpPacket at returned
  cases active : state.active with
  | false =>
    rw [active] at returned
    obtain ⟨_, -, stale⟩ := Program.returns_bind.mp returned
    cases stale
  | true =>
    refine ⟨rfl, ?_⟩
    rw [active, if_neg (by decide)] at returned
    split at returned
    · cases returned
    · cases checked : validateVpnIpPacketPolicy inner.policy direction packet with
      | error error =>
        rw [checked] at returned
        obtain ⟨_, -, refused⟩ := Program.returns_bind.mp returned
        cases refused
      | ok metadata => exact ⟨metadata, rfl⟩

/-- **Only what the policy allows passes**, and only while the handle is active. -/
theorem DataPathOp.passed_policy {op : DataPathOp} {reply : DataPathReply} {packet : List UInt8}
    (returned : (op.program inner state).Returns (reply, after))
    (passed : op.passed reply = some (direction, packet)) :
    state.active = true ∧
      ∃ metadata, validateVpnIpPacketPolicy inner.policy direction packet = .ok metadata := by
  cases op with
  | ingestDatagram direction datagram now =>
    obtain ⟨⟨result, mid⟩, ingested, same⟩ := Program.returns_bind.mp returned
    cases same
    cases result with
    | error error => cases passed
    | ok packet =>
      cases packet with
      | none => cases passed
      | some packet =>
        cases passed
        obtain ⟨active, checked⟩ := VpnDataPathInner.ingestDatagram_delivers ingested
        exact ⟨active, packet.metadata, checked⟩
  | encodeIpPacket direction packetId packet maxDatagramLen now =>
    obtain ⟨result, encoded, same⟩ := Program.returns_bind.mp returned
    cases same
    cases result with
    | error error => cases passed
    | ok fragments =>
      cases passed
      exact VpnDataPathInner.encodeIpPacket_passes encoded
  | expireReassembly now => cases passed
  | activate => cases passed
  | deactivate => cases passed

/-! ## Runs -/

/-- The operations of a run with their replies, oldest first. -/
inductive Runs (inner : VpnDataPathInner) (first : VpnDataPathState) :
    List (DataPathOp × DataPathReply) → VpnDataPathState → Prop
  | start : Runs inner first [] first
  | step {log : List (DataPathOp × DataPathReply)} {state ready after : VpnDataPathState}
      {op : DataPathOp} {reply : DataPathReply} (earlier : Runs inner first log state)
      (rehash : state.Rehash ready)
      (returned : (op.program inner ready).Returns (reply, after)) :
      Runs inner first (log ++ [(op, reply)]) after

theorem Runs.good {first : VpnDataPathState} {log : List (DataPathOp × DataPathReply)}
    (firstGood : Good inner first) (run : Runs inner first log state) :
    Good inner state ∧
      ∀ entry ∈ log, ∀ error, entry.2.error? = some error → error.isInternal = false := by
  induction run with
  | start => exact ⟨firstGood, fun entry member => by cases member⟩
  | @step log state ready after op reply earlier rehash returned ih =>
    obtain ⟨good, external⟩ := ih
    obtain ⟨afterGood, -, replied⟩ := DataPathOp.returns_good (rehash.good good) returned
    refine ⟨afterGood, fun entry member => ?_⟩
    rcases List.mem_append.mp member with old | last
    · exact external entry old
    · cases List.mem_singleton.mp last
      exact replied

/-- **The invariant of a data path.** -/
theorem dataPath_invariant {policy : VpnDataPolicy} {limits : VpnIdentityLimits}
    {maxIpPacketLen : Nat} {sessionGeneration : UInt64} {inner : VpnDataPathInner}
    {first state : VpnDataPathState} {log : List (DataPathOp × DataPathReply)}
    (built : newPolicyInactive policy limits maxIpPacketLen sessionGeneration =
      .ok (inner, first))
    (run : Runs inner first log state) :
    state.accountedBytes = state.uplink.bufferedBytes + state.downlink.bufferedBytes ∧
      state.accountedPackets = state.uplink.packets.size + state.downlink.packets.size ∧
      state.uplink.bufferedBytes + state.downlink.bufferedBytes ≤ limits.maxReassemblyBytes ∧
      state.uplink.packets.size + state.downlink.packets.size ≤ 1024 ∧
      ∀ entry ∈ log, entry.2.error? ≠ some .resourceAccountingInvariant ∧
        entry.2.error? ≠ some (.quota .identityReassemblyLimit) ∧
        entry.2.error? ≠ some (.quota .identityInflightLimit) := by
  obtain ⟨firstGood, -, rfl⟩ := VpnDataPathState.newPolicyInactive_good built
  obtain ⟨good, external⟩ := run.good firstGood
  have bytes := le_trans good.bytes good.bytes_le
  refine ⟨good.exactBytes, good.exactPackets, bytes, le_trans good.packets good.packets_le, ?_⟩
  intro entry member
  have never : ∀ error : VpnDataPathError, error.isInternal = true →
      entry.2.error? ≠ some error := by
    intro error internal replied
    rw [external entry member error replied] at internal
    cases internal
  exact ⟨never _ rfl, never _ rfl, never _ rfl⟩

/-! A handle with default limits: it is activated, and three bytes of a larger packet
arrive. -/

def examplePolicy : VpnDataPolicy where
  clientIpv4 := some ⟨0x0a420002⟩
  clientIpv6 := none
  allowedDestinations := []
  valid := by decide

def exampleInner : VpnDataPathInner where
  policy := examplePolicy
  maxIpPacketLen := 1500
  maxReassemblyBytes := VpnIdentityLimits.default.maxReassemblyBytes
  sessionGeneration := 1

def exampleReassembler : VpnReassembler where
  limits := exampleInner.reassemblyLimits
  packets := ∅
  bufferedBytes := 0
  stats := VpnReassemblyStats.default

def exampleState : VpnDataPathState where
  active := false
  uplink := exampleReassembler
  downlink := exampleReassembler
  accountedBytes := 0
  accountedPackets := 0

def exampleActive : VpnDataPathState := { exampleState with active := true }

def exampleDatagram : List UInt8 := [0x46, 0x57, 0x49, 0x31, 0, 0, 0, 7, 0, 40, 0, 0, 1, 2, 3]

/-- The datagram, ingested alone. -/
def exampleIngest : Option (DataPathReply × VpnDataPathState) :=
  (((DataPathOp.ingestDatagram .uplink exampleDatagram 5).program exampleInner
    exampleActive).run (amounts 65535 1024) DataPathEnv.serve 0
      ⟨.new .default 0, .default, .default⟩).map (·.1)

theorem dataPath_invariant_example :
    newPolicyInactive examplePolicy .default 1500 1 = .ok (exampleInner, exampleState) ∧
      ∃ log state, Runs exampleInner exampleState log state ∧ log.length = 2 ∧
        state.uplink.bufferedBytes + state.downlink.bufferedBytes = 3 := by
  have evaluated : exampleIngest.map (·.2.accountedBytes) = some 3 := by decide +kernel
  obtain ⟨⟨reply, after⟩, ingested, three⟩ := Option.map_eq_some_iff.mp evaluated
  obtain ⟨⟨outcome, counters, env⟩, ran, same⟩ := Option.map_eq_some_iff.mp ingested
  cases same
  have built : newPolicyInactive examplePolicy .default 1500 1 =
      .ok (exampleInner, exampleState) := rfl
  have activated : (DataPathOp.activate.program exampleInner exampleState).Returns
      (.switched, exampleActive) := rfl
  have run := (Runs.start.step (.refl exampleState) activated).step (.refl _)
    (Program.run_returns ran)
  exact ⟨built, _, after, run, rfl, (dataPath_invariant built run).1.symm.trans three⟩

end FlowWeave.Vpn
