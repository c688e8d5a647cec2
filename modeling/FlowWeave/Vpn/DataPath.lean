/-
# Vpn.DataPath — the data path of one session (`src/vpn_data_path.rs`, and the
global reassembly budget of `src/vpn_quota.rs`)

A handle guards two reassemblers, one for each direction, by a mutex. What it
buffers is accounted for twice: in the handle, and in two counters that all
handles share. The operations are programs over those counters
(`Theory.SharedLedger`): every `try_add_bounded` and every `subtract` is a step of
its own that other handles' steps may come between, and so is every call to the
rate limiter and to the metrics. A `book` marks the moments at which the code
itself changes its books, that is, assigns `accounted_bytes` and
`accounted_packets` or creates a reservation.
-/
import FlowWeave.Theory.SharedLedger
import FlowWeave.Vpn.DataPolicy

namespace FlowWeave.Vpn

open Theory.MachineInt
open Theory.SharedLedger (Interface Program)

set_option autoImplicit false

/-! ## State -/

structure VpnDataPacket where
  bytes : List UInt8
  metadata : VpnIpPacketMeta
  deriving DecidableEq, Repr

inductive VpnDataPathError where
  | staleGeneration
  | negotiatedPacketTooLarge
  | quota (rejection : VpnQuotaRejection)
  | fragment (error : VpnPacketError)
  | policy (error : VpnDataPolicyError)
  | resourceAccountingInvariant
  deriving DecidableEq, Repr

/-- The immutable part of `VpnDataPathInner`. -/
structure VpnDataPathInner where
  policy : VpnDataPolicy
  maxIpPacketLen : Nat
  maxReassemblyBytes : Nat
  sessionGeneration : UInt64

structure VpnDataPathState where
  active : Bool
  uplink : VpnReassembler
  downlink : VpnReassembler
  accountedBytes : Nat
  accountedPackets : Nat

/-- `new_policy_inactive`, but for the shared services, which are not state of the
handle. -/
def newPolicyInactive (policy : VpnDataPolicy) (limits : VpnIdentityLimits) (maxIpPacketLen : Nat)
    (sessionGeneration : UInt64) : Except VpnPacketError (VpnDataPathInner × VpnDataPathState) :=
  if ¬ (vpnMinIpPacketLen ≤ maxIpPacketLen ∧ maxIpPacketLen ≤ vpnMaxIpPacketLen) then
    .error .invalidReassemblyLimits
  else do
    let reassemblyLimits : VpnReassemblyLimits := {
      maxInflightPackets := vpnDefaultMaxInflightPackets
      maxBufferedBytes := limits.maxReassemblyBytes
      fragmentTimeout := vpnDefaultFragmentTimeout }
    let uplink ← VpnReassembler.new reassemblyLimits
    let downlink ← VpnReassembler.new reassemblyLimits
    .ok ({ policy := policy
           maxIpPacketLen := maxIpPacketLen
           maxReassemblyBytes := limits.maxReassemblyBytes
           sessionGeneration := sessionGeneration },
         { active := false
           uplink := uplink
           downlink := downlink
           accountedBytes := 0
           accountedPackets := 0 })

/-- `new_inactive`: the policy and the limits of an identity. -/
def newInactive (identity : VpnIdentity) (maxIpPacketLen : Nat) (sessionGeneration : UInt64) :
    Except VpnPacketError (VpnDataPathInner × VpnDataPathState) :=
  newPolicyInactive identity.dataPolicy identity.limits maxIpPacketLen sessionGeneration

namespace VpnDataPathState

def reassembler (state : VpnDataPathState) : VpnPacketDirection → VpnReassembler
  | .uplink => state.uplink
  | .downlink => state.downlink

/-- What a write through `reassembler_mut` leaves. -/
def setReassembler (state : VpnDataPathState) (direction : VpnPacketDirection)
    (reassembler : VpnReassembler) : VpnDataPathState :=
  match direction with
  | .uplink => { state with uplink := reassembler }
  | .downlink => { state with downlink := reassembler }

def bufferedBytes (state : VpnDataPathState) : Nat :=
  saturatingAdd usizeMax state.uplink.bufferedBytes state.downlink.bufferedBytes

def inflightPackets (state : VpnDataPathState) : Nat :=
  saturatingAdd usizeMax state.uplink.inflightPackets state.downlink.inflightPackets

def expire (state : VpnDataPathState) (now : Nat) : VpnDataPathState :=
  { state with
    uplink := (state.uplink.expire now).2
    downlink := (state.downlink.expire now).2 }

def clear (state : VpnDataPathState) : VpnDataPathState :=
  { state with uplink := state.uplink.clear, downlink := state.downlink.clear }

def evictUplink (state : VpnDataPathState) (packetId : UInt32) : Bool × VpnDataPathState :=
  let (evicted, uplink) := state.uplink.evictPacket packetId
  (evicted, { state with uplink := uplink })

def evictDownlink (state : VpnDataPathState) (packetId : UInt32) : Bool × VpnDataPathState :=
  let (evicted, downlink) := state.downlink.evictPacket packetId
  (evicted, { state with downlink := downlink })

/-- Evict the packet that was updated longest ago in either direction, but not
the one a fragment is about to be added to. -/
def evictOldest (state : VpnDataPathState) (direction : VpnPacketDirection) (packetId : UInt32)
    (existingPacket : Bool) : Bool × VpnDataPathState :=
  let uplinkExcluded := if direction = .uplink ∧ existingPacket then some packetId else none
  let downlinkExcluded := if direction = .downlink ∧ existingPacket then some packetId else none
  match state.uplink.oldestPacketUpdatedAt uplinkExcluded,
      state.downlink.oldestPacketUpdatedAt downlinkExcluded with
  | some (uplinkId, _), none => state.evictUplink uplinkId
  | none, some (downlinkId, _) => state.evictDownlink downlinkId
  | some (uplinkId, uplinkAt), some (downlinkId, downlinkAt) =>
    if uplinkAt ≤ downlinkAt then state.evictUplink uplinkId
    else state.evictDownlink downlinkId
  | none, none => (false, state)

/-- `state.reassembler_mut(direction).ingest(now, datagram)`. -/
def ingestAt (state : VpnDataPathState) (direction : VpnPacketDirection) (now : Nat)
    (datagram : List UInt8) : Except VpnPacketError (Option (List UInt8)) × VpnDataPathState :=
  let (result, reassembler) := (state.reassembler direction).ingest now datagram
  (result, state.setReassembler direction reassembler)

end VpnDataPathState

/-! ## The shared services -/

inductive LedgerCounter where
  | bytes
  | packets
  deriving DecidableEq, Repr

/-- Amounts in the two counters. -/
def amounts (bytes packets : Nat) : LedgerCounter → Nat
  | .bytes => bytes
  | .packets => packets

/-- What a data path reports to the metrics. -/
inductive MetricEvent where
  | staleGeneration
  | identityReassemblyRejection
  | identityInflightRejection
  | globalReassemblyRejection
  | globalInflightRejection
  | reassemblyPeaks (bytes packets : Nat)
  | policy (direction : VpnPacketDirection) (packetLen : Nat)
      (result : Except VpnDataPolicyError VpnIpPacketMeta)
  | malformedPacket

inductive DataPathCall where
  | admitDatagrams (direction : VpnPacketDirection) (datagramLengths : List Nat) (now : Nat)
  | record (event : MetricEvent)

/-- The limiter answers with a rejection of its own or with admission. -/
def DataPathCall.Answer : DataPathCall → Type
  | .admitDatagrams .. =>
    { answer : Except VpnQuotaRejection Unit // IdentityRateState.RateAnswer answer }
  | .record _ => Unit

def dataPathServices : Interface := ⟨DataPathCall, DataPathCall.Answer⟩

/-- A program of one handle. -/
abbrev DataPathM := Program LedgerCounter dataPathServices

def admitDatagrams (direction : VpnPacketDirection) (datagramLengths : List Nat) (now : Nat) :
    DataPathM (Except VpnQuotaRejection Unit) :=
  .call (DataPathCall.admitDatagrams direction datagramLengths now) fun answer => .done answer.1

def record (event : MetricEvent) : DataPathM Unit :=
  .call (DataPathCall.record event) fun _ => .done ()

def book (accounted reserved : LedgerCounter → Nat) : DataPathM Unit :=
  .settle accounted reserved (.done ())

/-- The services behind the calls: the identity's limiter and the metrics. -/
structure DataPathEnv where
  limiter : IdentityRateState
  quotaMetrics : VpnQuotaMetrics
  policyMetrics : VpnDataPolicyMetrics

namespace DataPathEnv

def record (env : DataPathEnv) : MetricEvent → DataPathEnv
  | .staleGeneration => { env with quotaMetrics := env.quotaMetrics.recordStaleGeneration }
  | .identityReassemblyRejection =>
    { env with quotaMetrics := env.quotaMetrics.recordIdentityReassemblyRejection }
  | .identityInflightRejection =>
    { env with quotaMetrics := env.quotaMetrics.recordIdentityInflightRejection }
  | .globalReassemblyRejection =>
    { env with quotaMetrics := env.quotaMetrics.recordGlobalReassemblyRejection }
  | .globalInflightRejection =>
    { env with quotaMetrics := env.quotaMetrics.recordGlobalInflightRejection }
  | .reassemblyPeaks bytes packets =>
    { env with quotaMetrics := env.quotaMetrics.updateReassemblyPeaks bytes packets }
  | .policy direction packetLen result =>
    { env with policyMetrics := env.policyMetrics.record direction packetLen result }
  | .malformedPacket => { env with policyMetrics := env.policyMetrics.recordMalformedPacket }

def serve : (call : DataPathCall) → DataPathEnv → call.Answer × DataPathEnv
  | .admitDatagrams direction datagramLengths now, env =>
    let admission := env.limiter.admitDatagrams env.quotaMetrics direction datagramLengths now
    (⟨admission.1, (IdentityRateState.admitDatagrams_admission env.limiter env.quotaMetrics
        direction datagramLengths now).rateAnswer⟩,
      { env with limiter := admission.2.1, quotaMetrics := admission.2.2 })
  | .record event, env => ((), env.record event)

end DataPathEnv

/-! ## The global reassembly budget -/

def tryAddBounded (counter : LedgerCounter) (amount : Nat) : DataPathM (Option Nat) :=
  .tryAdd counter amount .done

def subtract (counter : LedgerCounter) (amount : Nat) : DataPathM Unit :=
  if amount = 0 then .done () else .subtract counter amount (.done ())

/-- `release` and `release_accounted`. -/
def release (bytes packets : Nat) : DataPathM Unit := do
  subtract .bytes bytes
  subtract .packets packets

/-- The budget's limits; its counters are the two of `LedgerCounter`. -/
structure VpnGlobalReassemblyBudget where
  byteLimit : Nat
  packetLimit : Nat
  byteLimit_range : vpnMaxIpPacketLen ≤ byteLimit ∧ byteLimit ≤ vpnMaxGlobalReassemblyBytes
  packetLimit_range : packetLimit ≠ 0 ∧ packetLimit ≤ vpnMaxGlobalInflightPackets

namespace VpnGlobalReassemblyBudget

def new (byteLimit packetLimit : Nat) : Option VpnGlobalReassemblyBudget :=
  if valid : (vpnMaxIpPacketLen ≤ byteLimit ∧ byteLimit ≤ vpnMaxGlobalReassemblyBytes) ∧
      packetLimit ≠ 0 ∧ packetLimit ≤ vpnMaxGlobalInflightPackets then
    some ⟨byteLimit, packetLimit, valid.1, valid.2⟩
  else none

def limits (budget : VpnGlobalReassemblyBudget) : LedgerCounter → Nat :=
  amounts budget.byteLimit budget.packetLimit

end VpnGlobalReassemblyBudget

def exampleBudget : VpnGlobalReassemblyBudget := ⟨65535, 1024, by decide, by decide⟩

def exampleSmallBudget : VpnGlobalReassemblyBudget :=
  { exampleBudget with packetLimit := 1, packetLimit_range := by decide }

structure VpnGlobalReassemblyReservation where
  bytes : Nat
  packets : Nat

def tryReserve (bytes packets : Nat) :
    DataPathM (Except VpnQuotaRejection VpnGlobalReassemblyReservation) := do
  match ← tryAddBounded .bytes bytes with
  | none =>
    record .globalReassemblyRejection
    pure (.error .globalReassemblyLimit)
  | some currentBytes =>
    match ← tryAddBounded .packets packets with
    | none =>
      subtract .bytes bytes
      record .globalInflightRejection
      pure (.error .globalInflightLimit)
    | some currentPackets =>
      record (.reassemblyPeaks currentBytes currentPackets)
      pure (.ok ⟨bytes, packets⟩)

namespace VpnGlobalReassemblyReservation

/-- A reservation that is given up: `reconcile` returned early, and `Drop` releases
what is still reserved. -/
def drop (reservation : VpnGlobalReassemblyReservation) (accountedBytes accountedPackets : Nat) :
    DataPathM (Option (Nat × Nat)) := do
  release reservation.bytes reservation.packets
  book (amounts accountedBytes accountedPackets) 0
  pure none

/-- `reconcile`: the accounted amounts afterwards, or `none` for `false`. On success
the reservation is empty and its `Drop` releases nothing. -/
def reconcile (reservation : VpnGlobalReassemblyReservation)
    (accountedBytes accountedPackets actualBytes actualPackets : Nat) :
    DataPathM (Option (Nat × Nat)) :=
  match checkedAdd usizeMax accountedBytes reservation.bytes with
  | none => reservation.drop accountedBytes accountedPackets
  | some totalBytes =>
    match checkedAdd usizeMax accountedPackets reservation.packets with
    | none => reservation.drop accountedBytes accountedPackets
    | some totalPackets =>
      if actualBytes > totalBytes ∨ actualPackets > totalPackets then
        reservation.drop accountedBytes accountedPackets
      else do
        release (totalBytes - actualBytes) (totalPackets - actualPackets)
        book (amounts actualBytes actualPackets) 0
        release 0 0
        pure (some (actualBytes, actualPackets))

end VpnGlobalReassemblyReservation

/-! ## Accounting -/

/-- `reconcile_shrink`: the state afterwards, or `none` for `false`. -/
def reconcileShrink (state : VpnDataPathState) : DataPathM (Option VpnDataPathState) :=
  let actualBytes := state.bufferedBytes
  let actualPackets := state.inflightPackets
  if actualBytes > state.accountedBytes ∨ actualPackets > state.accountedPackets then pure none
  else do
    release (state.accountedBytes - actualBytes) (state.accountedPackets - actualPackets)
    book (amounts actualBytes actualPackets) 0
    pure (some { state with accountedBytes := actualBytes, accountedPackets := actualPackets })

def releaseAllAccounted (state : VpnDataPathState) : DataPathM VpnDataPathState := do
  release state.accountedBytes state.accountedPackets
  book 0 0
  pure { state with accountedBytes := 0, accountedPackets := 0 }

def failAccounting {α : Type} (state : VpnDataPathState) :
    DataPathM (Except VpnDataPathError α × VpnDataPathState) := do
  let state ← releaseAllAccounted state.clear
  pure (.error .resourceAccountingInvariant, state)

/-- `if !self.reconcile_shrink(..) { return Err(self.fail_accounting(..)) }`, and the
rest of the operation. -/
def reconcileShrinkElseFail {α : Type} (state : VpnDataPathState)
    (rest : VpnDataPathState → DataPathM (Except VpnDataPathError α × VpnDataPathState)) :
    DataPathM (Except VpnDataPathError α × VpnDataPathState) := do
  match ← reconcileShrink state with
  | none => failAccounting state
  | some state => rest state

/-! ## Operations -/

namespace VpnDataPathInner

/-- The loop of `make_identity_room`. Every round evicts a packet, so one round more
than there are packets is enough. -/
def makeIdentityRoom (inner : VpnDataPathInner) (direction : VpnPacketDirection)
    (packetId : UInt32) (existingPacket : Bool) (additionalBytes additionalPackets : Nat) :
    Nat → VpnDataPathState → DataPathM (Except VpnQuotaRejection Unit × VpnDataPathState)
  | 0, state => pure (.error .identityReassemblyLimit, state)
  | fuel + 1, state =>
    let countExceeded := (checkedAdd usizeMax state.inflightPackets additionalPackets).all
      fun count => count > vpnDefaultMaxInflightPackets
    let bytesExceeded := (checkedAdd usizeMax state.bufferedBytes additionalBytes).all
      fun bytes => bytes > inner.maxReassemblyBytes
    if !countExceeded && !bytesExceeded then pure (.ok (), state)
    else
      match state.evictOldest direction packetId existingPacket with
      | (true, state) =>
        makeIdentityRoom inner direction packetId existingPacket additionalBytes
          additionalPackets fuel state
      | (false, state) => do
        if countExceeded then
          record .identityInflightRejection
          pure (.error .identityInflightLimit, state)
        else
          record .identityReassemblyRejection
          pure (.error .identityReassemblyLimit, state)

/-- The part of `ingest_datagram` for a fragment that adds bytes. -/
def ingestReserved (inner : VpnDataPathInner) (direction : VpnPacketDirection) (now : Nat)
    (datagram : List UInt8) (fragment : VpnFragment) (additionalBytes : Nat)
    (state : VpnDataPathState) :
    DataPathM (Except VpnDataPathError (Except VpnPacketError (Option (List UInt8))) ×
      VpnDataPathState) := do
  let existingPacket := (state.reassembler direction).containsPacket fragment.packetId
  let completesPacket := (state.reassembler direction).fragmentWillComplete fragment
  let (room, state) ← inner.makeIdentityRoom direction fragment.packetId existingPacket
    (if completesPacket then 0 else additionalBytes)
    (if !existingPacket && !completesPacket then 1 else 0)
    (state.inflightPackets + 1) state
  match room with
  | .error rejection => pure (.error (.quota rejection), state)
  | .ok () =>
    reconcileShrinkElseFail state fun state => do
      match ← tryReserve additionalBytes (if !existingPacket then 1 else 0) with
      | .error rejection => pure (.error (.quota rejection), state)
      | .ok reservation =>
        book (amounts state.accountedBytes state.accountedPackets)
          (amounts reservation.bytes reservation.packets)
        let (result, state) := state.ingestAt direction now datagram
        match ← reservation.reconcile state.accountedBytes state.accountedPackets
            state.bufferedBytes state.inflightPackets with
        | none => failAccounting state
        | some (accountedBytes, accountedPackets) =>
          pure (.ok result, { state with
            accountedBytes := accountedBytes
            accountedPackets := accountedPackets })

/-- The part of `ingest_datagram` for a datagram that decodes. -/
def ingestFragment (inner : VpnDataPathInner) (direction : VpnPacketDirection) (now : Nat)
    (datagram : List UInt8) (fragment : VpnFragment) (state : VpnDataPathState) :
    DataPathM (Except VpnDataPathError (Except VpnPacketError (Option (List UInt8))) ×
      VpnDataPathState) :=
  if fragment.totalLen > inner.maxIpPacketLen then
    let state := state.setReassembler direction
      ((state.reassembler direction).rejectDecodedFragment fragment.packetId)
    reconcileShrinkElseFail state fun state => pure (.error .negotiatedPacketTooLarge, state)
  else
    match (state.reassembler direction).additionalBufferedBytes fragment with
    | .ok 0 =>
      let (result, state) := state.ingestAt direction now datagram
      reconcileShrinkElseFail state fun state => pure (.ok result, state)
    | .ok additionalBytes =>
      inner.ingestReserved direction now datagram fragment additionalBytes state
    | .error _ =>
      let (result, state) := state.ingestAt direction now datagram
      reconcileShrinkElseFail state fun state => pure (.ok result, state)

/-- The part of `ingest_datagram` that holds the lock: an early error, or the
reassembler's result. -/
def ingestLocked (inner : VpnDataPathInner) (direction : VpnPacketDirection) (now : Nat)
    (datagram : List UInt8) (state : VpnDataPathState) :
    DataPathM (Except VpnDataPathError (Except VpnPacketError (Option (List UInt8))) ×
      VpnDataPathState) := do
  if !state.active then
    record .staleGeneration
    pure (.error .staleGeneration, state)
  else
    match ← admitDatagrams direction [datagram.length] now with
    | .error rejection => pure (.error (.quota rejection), state)
    | .ok () =>
      reconcileShrinkElseFail (state.expire now) fun state =>
        match decodeVpnIpFragment datagram with
        | .error expected =>
          let (actual, state) := state.ingestAt direction now datagram
          reconcileShrinkElseFail state fun state =>
            pure (.error (.fragment (match actual with
              | .error error => error
              | .ok _ => expected)), state)
        | .ok fragment => inner.ingestFragment direction now datagram fragment state

/-- The errors of a packet that is no IP packet. -/
def isMalformed : VpnPacketError → Bool
  | .invalidIpVersion => true
  | .invalidIpv4Header => true
  | .invalidIpv4Length => true
  | .invalidIpv6Length => true
  | .ipv6JumbogramUnsupported => true
  | _ => false

/-- The part of `ingest_datagram` after the lock: the policy check. -/
def deliver (inner : VpnDataPathInner) (direction : VpnPacketDirection) :
    Except VpnPacketError (Option (List UInt8)) →
      DataPathM (Except VpnDataPathError (Option VpnDataPacket))
  | .ok (some packet) => do
    let policy := validateVpnIpPacketPolicy inner.policy direction packet
    record (.policy direction packet.length policy)
    match policy with
    | .error error => pure (.error (.policy error))
    | .ok metadata => pure (.ok (some ⟨packet, metadata⟩))
  | .ok none => pure (.ok none)
  | .error error => do
    if isMalformed error then
      record .malformedPacket
      pure (.error (.fragment error))
    else pure (.error (.fragment error))

def ingestDatagram (inner : VpnDataPathInner) (direction : VpnPacketDirection)
    (datagram : List UInt8) (now : Nat) (state : VpnDataPathState) :
    DataPathM (Except VpnDataPathError (Option VpnDataPacket) × VpnDataPathState) := do
  let (outcome, state) ← inner.ingestLocked direction now datagram state
  match outcome with
  | .error error => pure (.error error, state)
  | .ok result => do
    let delivered ← inner.deliver direction result
    pure (delivered, state)

def encodeIpPacket (inner : VpnDataPathInner) (direction : VpnPacketDirection) (packetId : UInt32)
    (packet : List UInt8) (maxDatagramLen now : Nat) (state : VpnDataPathState) :
    DataPathM (Except VpnDataPathError (List (List UInt8))) := do
  if !state.active then
    record .staleGeneration
    pure (.error .staleGeneration)
  else if packet.length > inner.maxIpPacketLen then pure (.error .negotiatedPacketTooLarge)
  else
    match validateVpnIpPacketPolicy inner.policy direction packet with
    | .error error =>
      record (.policy direction packet.length (.error error))
      pure (.error (.policy error))
    | .ok metadata =>
      match encodeVpnIpFragments packetId packet maxDatagramLen with
      | .error error => pure (.error (.fragment error))
      | .ok fragments =>
        match ← admitDatagrams direction (fragments.map List.length) now with
        | .error rejection => pure (.error (.quota rejection))
        | .ok () =>
          record (.policy direction packet.length (.ok metadata))
          pure (.ok fragments)

end VpnDataPathInner

def expireReassembly (now : Nat) (state : VpnDataPathState) :
    DataPathM (Nat × VpnDataPathState) := do
  let before := state.inflightPackets
  let state := state.expire now
  match ← reconcileShrink state with
  | some state => pure (before - state.inflightPackets, state)
  | none =>
    let state ← releaseAllAccounted state.clear
    pure (before - state.inflightPackets, state)

def activate (state : VpnDataPathState) : DataPathM VpnDataPathState :=
  pure { state with active := true }

def deactivate (state : VpnDataPathState) : DataPathM VpnDataPathState :=
  releaseAllAccounted { state with active := false }.clear

/-- `Drop for VpnDataPathInner`. -/
def dropInner (state : VpnDataPathState) : DataPathM Unit := do
  let _ ← releaseAllAccounted state
  pure ()

end FlowWeave.Vpn
