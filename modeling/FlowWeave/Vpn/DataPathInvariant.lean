/-
# Vpn.DataPathInvariant — the books of a data path are right after every operation

`Good inner state` is the invariant of one handle: both reassemblers are good, the
accounted amounts are what they buffer, the two directions together stay within
the identity's limits, and an inactive handle holds nothing. Between operations
the state is `Good`; in the middle of one, when packets have been removed and the
books not yet adjusted, it is `Covered`: it buffers no more than is accounted for.

Removing packets leads from `Good` to `Covered` (`Shrinks.covered`), a new handle is `Good`
(`newPolicyInactive_good`), and eviction can always make enough room
(`VpnDataPathInner.makeIdentityRoom_room`). `Vpn.DataPathLedger` has the specification of each
operation and `Vpn.DataPathRun` puts them together over whole runs.
-/
import FlowWeave.Vpn.DataPath
import FlowWeave.Vpn.Ingest

namespace FlowWeave.Vpn

open Theory Theory.MachineInt VpnReassembler
open Theory.SharedLedger (Program)
open Theory.SharedLedger.Program (Wp deposit withdraw)
open VpnReassembler (Prunes)

set_option autoImplicit false

/-! ## The state -/

/-- The limits both reassemblers of a handle are built with. -/
def VpnDataPathInner.reassemblyLimits (inner : VpnDataPathInner) : VpnReassemblyLimits where
  maxInflightPackets := vpnDefaultMaxInflightPackets
  maxBufferedBytes := inner.maxReassemblyBytes
  fragmentTimeout := vpnDefaultFragmentTimeout

namespace VpnDataPathState

/-- What the handle holds in the shared counters between operations. -/
def owned (state : VpnDataPathState) : LedgerCounter → Nat :=
  amounts state.accountedBytes state.accountedPackets

/-- All partial packets, in both directions. -/
def heldPackets (state : VpnDataPathState) : Nat :=
  state.uplink.packets.size + state.downlink.packets.size

def heldBytes (state : VpnDataPathState) : Nat :=
  state.uplink.bufferedBytes + state.downlink.bufferedBytes

def other : VpnPacketDirection → VpnPacketDirection
  | .uplink => .downlink
  | .downlink => .uplink

section Directions

variable (state : VpnDataPathState) (direction : VpnPacketDirection) (reassembler : VpnReassembler)

theorem heldPackets_split :
    state.heldPackets = (state.reassembler direction).packets.size +
      (state.reassembler (other direction)).packets.size := by
  cases direction with
  | uplink => rfl
  | downlink => exact Nat.add_comm _ _

theorem heldBytes_split :
    state.heldBytes = (state.reassembler direction).bufferedBytes +
      (state.reassembler (other direction)).bufferedBytes := by
  cases direction with
  | uplink => rfl
  | downlink => exact Nat.add_comm _ _

@[simp] theorem setReassembler_same :
    (state.setReassembler direction reassembler).reassembler direction = reassembler := by
  cases direction <;> rfl

@[simp] theorem setReassembler_other :
    (state.setReassembler direction reassembler).reassembler (other direction) =
      state.reassembler (other direction) := by
  cases direction <;> rfl

@[simp] theorem setReassembler_active :
    (state.setReassembler direction reassembler).active = state.active := by
  cases direction <;> rfl

@[simp] theorem setReassembler_accountedBytes :
    (state.setReassembler direction reassembler).accountedBytes = state.accountedBytes := by
  cases direction <;> rfl

@[simp] theorem setReassembler_accountedPackets :
    (state.setReassembler direction reassembler).accountedPackets = state.accountedPackets := by
  cases direction <;> rfl

end Directions

theorem forall_direction {P : VpnPacketDirection → Prop} (direction : VpnPacketDirection)
    (here : P direction) (there : P (other direction)) : ∀ side, P side := by
  intro side
  cases direction <;> cases side <;> assumption

/-- Both reassemblers are good, and built with the handle's limits. -/
def Buffers (inner : VpnDataPathInner) (state : VpnDataPathState) : Prop :=
  ∀ direction, (state.reassembler direction).Good ∧
    (state.reassembler direction).limits = inner.reassemblyLimits

/-- The state buffers no more than is accounted for, and the accounted amounts are
within the limits of the identity. -/
structure Covered (inner : VpnDataPathInner) (state : VpnDataPathState) : Prop where
  buffers : Buffers inner state
  bytes : state.heldBytes ≤ state.accountedBytes
  packets : state.heldPackets ≤ state.accountedPackets
  bytes_le : state.accountedBytes ≤ inner.maxReassemblyBytes
  packets_le : state.accountedPackets ≤ vpnDefaultMaxInflightPackets
  inactive : state.active = false → state.accountedBytes = 0 ∧ state.accountedPackets = 0

/-- The invariant between operations: what is accounted for is what is buffered. -/
structure Good (inner : VpnDataPathInner) (state : VpnDataPathState) : Prop
    extends Covered inner state where
  exactBytes : state.accountedBytes = state.heldBytes
  exactPackets : state.accountedPackets = state.heldPackets

variable {state : VpnDataPathState} {inner : VpnDataPathInner}

/-- There are `2 ^ 32` packet ids for each direction, so the sums stay far from
`usize` overflow. -/
theorem Buffers.small (buffers : Buffers inner state) :
    state.heldBytes ≤ 2 ^ 33 * vpnMaxIpPacketLen ∧
      state.heldPackets ≤ 2 * vpnDefaultMaxInflightPackets := by
  have count : ∀ direction,
      (state.reassembler direction).packets.size ≤ vpnDefaultMaxInflightPackets := by
    intro direction
    have limited := (buffers direction).1.inflight_le
    rwa [(buffers direction).2] at limited
  have upBytes := (buffers .uplink).1.bytes_small
  have downBytes := (buffers .downlink).1.bytes_small
  have upCount := count .uplink
  have downCount := count .downlink
  simp only [reassembler] at upBytes downBytes upCount downCount
  constructor
  · unfold heldBytes
    omega
  · unfold heldPackets
    omega

theorem Buffers.usage (buffers : Buffers inner state) :
    state.bufferedBytes = state.heldBytes ∧ state.inflightPackets = state.heldPackets := by
  obtain ⟨bytes, packets⟩ := buffers.small
  simp only [vpnMaxIpPacketLen, vpnDefaultMaxInflightPackets] at bytes packets
  constructor
  · apply saturatingAdd_eq
    unfold heldBytes at bytes
    simp only [usizeMax]
    omega
  · apply saturatingAdd_eq
    unfold heldPackets at packets
    simp only [VpnReassembler.inflightPackets, usizeMax]
    omega

/-- The limit of a handle that has reassemblers admits the largest IP packet. -/
theorem Buffers.byteLimit (buffers : Buffers inner state) :
    vpnMaxIpPacketLen ≤ inner.maxReassemblyBytes := by
  have limit := (buffers .uplink).1.byteLimit
  rwa [(buffers .uplink).2] at limit

/-! ## Removing packets -/

/-- Packets have been removed from the reassemblers and nothing else has
changed. -/
structure Shrinks (before after : VpnDataPathState) : Prop where
  prunes : ∀ direction, Prunes (before.reassembler direction) (after.reassembler direction)
  active : after.active = before.active
  accountedBytes : after.accountedBytes = before.accountedBytes
  accountedPackets : after.accountedPackets = before.accountedPackets

namespace Shrinks

variable {before mid after : VpnDataPathState}

theorem refl (state : VpnDataPathState) : Shrinks state state :=
  ⟨fun _ => .refl _, rfl, rfl, rfl⟩

theorem trans (first : Shrinks before mid) (second : Shrinks mid after) : Shrinks before after where
  prunes := fun direction => (first.prunes direction).trans (second.prunes direction)
  active := second.active.trans first.active
  accountedBytes := second.accountedBytes.trans first.accountedBytes
  accountedPackets := second.accountedPackets.trans first.accountedPackets

variable (shrinks : Shrinks before after)

include shrinks

theorem heldBytes_le : after.heldBytes ≤ before.heldBytes :=
  Nat.add_le_add (shrinks.prunes .uplink).bytes_le (shrinks.prunes .downlink).bytes_le

theorem heldPackets_le : after.heldPackets ≤ before.heldPackets :=
  Nat.add_le_add (shrinks.prunes .uplink).size_le (shrinks.prunes .downlink).size_le

theorem owned_eq : after.owned = before.owned := by
  rw [owned, owned, shrinks.accountedBytes, shrinks.accountedPackets]

theorem buffers {inner : VpnDataPathInner} (good : Buffers inner before) : Buffers inner after :=
  fun direction =>
  ⟨(shrinks.prunes direction).good (good direction).1,
    (shrinks.prunes direction).limits_eq.trans (good direction).2⟩

theorem covered {inner : VpnDataPathInner} (covers : Covered inner before) :
    Covered inner after where
  buffers := shrinks.buffers covers.buffers
  bytes := by
    rw [shrinks.accountedBytes]
    exact le_trans shrinks.heldBytes_le covers.bytes
  packets := by
    rw [shrinks.accountedPackets]
    exact le_trans shrinks.heldPackets_le covers.packets
  bytes_le := by rw [shrinks.accountedBytes]; exact covers.bytes_le
  packets_le := by rw [shrinks.accountedPackets]; exact covers.packets_le
  inactive := by
    rw [shrinks.active, shrinks.accountedBytes, shrinks.accountedPackets]
    exact covers.inactive

end Shrinks

variable {direction : VpnPacketDirection} {after before state : VpnDataPathState}
  {inner : VpnDataPathInner} {existingPacket : Bool} {packetId : UInt32}

theorem setReassembler_shrinks (state : VpnDataPathState) {reassembler : VpnReassembler}
    (prunes : Prunes (state.reassembler direction) reassembler) :
    Shrinks state (state.setReassembler direction reassembler) where
  prunes := by
    refine forall_direction direction ?_ ?_
    · rwa [setReassembler_same]
    · rw [setReassembler_other]
      exact .refl _
  active := setReassembler_active _ _ _
  accountedBytes := setReassembler_accountedBytes _ _ _
  accountedPackets := setReassembler_accountedPackets _ _ _

theorem expire_shrinks (state : VpnDataPathState) (now : Nat) :
    Shrinks state (state.expire now) where
  prunes := by
    intro direction
    cases direction with
    | uplink => exact expire_prunes _ _
    | downlink => exact expire_prunes _ _
  active := rfl
  accountedBytes := rfl
  accountedPackets := rfl

/-! ## Rehashing and switching -/

/-- The hash tables iterate in another order. -/
structure Rehash (before after : VpnDataPathState) : Prop where
  reassembler : ∀ direction, (before.reassembler direction).Rehash (after.reassembler direction)
  active : after.active = before.active
  accountedBytes : after.accountedBytes = before.accountedBytes
  accountedPackets : after.accountedPackets = before.accountedPackets

theorem Rehash.refl (state : VpnDataPathState) : Rehash state state :=
  ⟨fun _ => .refl _, rfl, rfl, rfl⟩

theorem Rehash.owned_eq (rehash : Rehash before after) : after.owned = before.owned := by
  rw [owned, owned, rehash.accountedBytes, rehash.accountedPackets]

theorem Rehash.good (rehash : Rehash before after) (good : Good inner before) :
    Good inner after := by
  have heldBytes : after.heldBytes = before.heldBytes :=
    congrArg₂ (· + ·) (rehash.reassembler .uplink).bytes_eq (rehash.reassembler .downlink).bytes_eq
  have heldPackets : before.heldPackets = after.heldPackets :=
    congrArg₂ (· + ·) (rehash.reassembler .uplink).packets.size_eq
      (rehash.reassembler .downlink).packets.size_eq
  refine { buffers := fun direction => ?_, bytes := ?_, packets := ?_, bytes_le := ?_,
           packets_le := ?_, inactive := ?_, exactBytes := ?_, exactPackets := ?_ }
  · exact ⟨(rehash.reassembler direction).good (good.buffers direction).1,
      (rehash.reassembler direction).limits_eq.trans (good.buffers direction).2⟩
  · rw [heldBytes, rehash.accountedBytes]; exact good.bytes
  · rw [← heldPackets, rehash.accountedPackets]; exact good.packets
  · rw [rehash.accountedBytes]; exact good.bytes_le
  · rw [rehash.accountedPackets]; exact good.packets_le
  · rw [rehash.active, rehash.accountedBytes, rehash.accountedPackets]; exact good.inactive
  · rw [heldBytes, rehash.accountedBytes]; exact good.exactBytes
  · rw [← heldPackets, rehash.accountedPackets]; exact good.exactPackets

theorem Good.activated (good : Good inner state) : Good inner { state with active := true } where
  buffers := fun direction => by
    have same : ({ state with active := true } : VpnDataPathState).reassembler direction =
        state.reassembler direction := by cases direction <;> rfl
    rw [same]
    exact good.buffers direction
  bytes := good.bytes
  packets := good.packets
  bytes_le := good.bytes_le
  packets_le := good.packets_le
  inactive := fun inactive => by cases inactive
  exactBytes := good.exactBytes
  exactPackets := good.exactPackets

/-- A cleared state holds nothing. -/
theorem Buffers.cleared (buffers : Buffers inner state) :
    Good inner { state.clear with accountedBytes := 0, accountedPackets := 0 } where
  buffers := fun direction => by
    cases direction with
    | uplink => exact ⟨clear_good (buffers .uplink).1, (buffers .uplink).2⟩
    | downlink => exact ⟨clear_good (buffers .downlink).1, (buffers .downlink).2⟩
  bytes := le_rfl
  packets := le_rfl
  bytes_le := Nat.zero_le _
  packets_le := Nat.zero_le _
  inactive := fun _ => ⟨rfl, rfl⟩
  exactBytes := rfl
  exactPackets := rfl

/-- A new handle. -/
theorem newPolicyInactive_good {policy : VpnDataPolicy} {limits : VpnIdentityLimits}
    {maxIpPacketLen : Nat} {sessionGeneration : UInt64}
    (built : newPolicyInactive policy limits maxIpPacketLen sessionGeneration =
      .ok (inner, state)) :
    Good inner state ∧ state.active = false ∧
      inner = ⟨policy, maxIpPacketLen, limits.maxReassemblyBytes, sessionGeneration⟩ := by
  unfold newPolicyInactive at built
  split at built
  · cases built
  · dsimp only at built
    cases made : new {
        maxInflightPackets := vpnDefaultMaxInflightPackets
        maxBufferedBytes := limits.maxReassemblyBytes
        fragmentTimeout := vpnDefaultFragmentTimeout } with
    | error error =>
      rw [made] at built
      cases built
    | ok reassembler =>
      rw [made] at built
      cases built
      obtain ⟨reassemblerGood, sameLimits⟩ := new_good made
      obtain ⟨noPackets, noBytes⟩ := new_empty made
      refine ⟨{ buffers := fun direction => ?_, bytes := ?_, packets := ?_,
                bytes_le := Nat.zero_le _, packets_le := Nat.zero_le _,
                inactive := fun _ => ⟨rfl, rfl⟩, exactBytes := ?_, exactPackets := ?_ },
        rfl, rfl⟩
      · cases direction <;> exact ⟨reassemblerGood, sameLimits⟩
      all_goals simp [heldBytes, heldPackets, noBytes, noPackets]

/-- The limits of an identity are good for a handle. -/
theorem newPolicyInactive_succeeds (policy : VpnDataPolicy) (limits : VpnIdentityLimits)
    {maxIpPacketLen : Nat} (sessionGeneration : UInt64)
    (lengths : vpnMinIpPacketLen ≤ maxIpPacketLen ∧ maxIpPacketLen ≤ vpnMaxIpPacketLen) :
    ∃ inner state, newPolicyInactive policy limits maxIpPacketLen sessionGeneration =
      .ok (inner, state) := by
  have wide := limits.bounds.2.2.1
  have valid : ¬ (vpnDefaultMaxInflightPackets = 0 ∨ limits.maxReassemblyBytes < vpnMaxIpPacketLen ∨
      vpnDefaultFragmentTimeout = 0) := by
    simp only [vpnDefaultMaxInflightPackets, vpnDefaultFragmentTimeout]
    omega
  simp only [newPolicyInactive, lengths, and_self, not_true_eq_false, if_false,
    new, if_neg valid]
  exact ⟨_, _, rfl⟩

/-! ## Eviction over both directions -/

/-- The packet that eviction spares on one side. -/
def excluded (direction side : VpnPacketDirection) (packetId : UInt32) (existingPacket : Bool) :
    Option UInt32 :=
  if direction = side ∧ existingPacket then some packetId else none

/-- One packet, not the spared one, has been evicted. -/
structure Evicts (direction : VpnPacketDirection) (packetId : UInt32) (existingPacket : Bool)
    (before after : VpnDataPathState) : Prop where
  shrinks : Shrinks before after
  fewer : after.heldPackets < before.heldPackets
  spared : existingPacket = true →
    (after.reassembler direction).packets.lookup packetId =
      (before.reassembler direction).packets.lookup packetId

/-- The packet a fragment belongs to is as before: it is spared, or there is
none. -/
theorem Evicts.lookup_eq (evicts : Evicts direction packetId existingPacket before after)
    (existing : (before.reassembler direction).containsPacket packetId = existingPacket) :
    (after.reassembler direction).packets.lookup packetId =
      (before.reassembler direction).packets.lookup packetId := by
  cases existingPacket with
  | true => exact evicts.spared rfl
  | false =>
    have absent : (before.reassembler direction).packets.lookup packetId = none := by
      simpa [containsPacket] using existing
    rw [absent]
    exact (evicts.shrinks.prunes direction).lookup_none absent

/-- `evictUplink` and `evictDownlink`, of a packet that the search has found. -/
theorem evict_evicts (state : VpnDataPathState) (direction side : VpnPacketDirection)
    {evictedId : UInt32} {evictedAt : Nat}
    (oldest : (state.reassembler side).oldestPacketUpdatedAt
      (excluded direction side packetId existingPacket) = some (evictedId, evictedAt)) :
    ((state.reassembler side).evictPacket evictedId).1 = true ∧
      Evicts direction packetId existingPacket state
        (state.setReassembler side ((state.reassembler side).evictPacket evictedId).2) := by
  obtain ⟨held, found, notExcluded⟩ := oldestPacketUpdatedAt_some oldest
  have contains : (state.reassembler side).containsPacket evictedId = true := by
    simp [containsPacket, found]
  refine ⟨by simp [evictPacket, contains], ?_⟩
  have prunes := evictPacket_prunes (state.reassembler side) evictedId
  refine ⟨setReassembler_shrinks state prunes, ?_, ?_⟩
  · have size := Table.size_erase found
    rw [heldPackets_split state side, heldPackets_split _ side, setReassembler_same,
      setReassembler_other]
    simp only [evictPacket, contains, if_true, countEvicted,
      removePacket_packets]
    omega
  · intro existing
    by_cases same : side = direction
    · subst same
      have ne : packetId ≠ evictedId := by
        intro equal
        simp [excluded, existing, equal] at notExcluded
      simp only [setReassembler_same, evictPacket, contains, if_true,
        countEvicted, removePacket_packets]
      exact AList.lookup_erase_ne ne
    · have opposite : direction = other side := by
        cases side <;> cases direction <;> first | rfl | exact absurd rfl same
      rw [opposite, setReassembler_other]

/-- `evictOldest` evicts a packet, or only the spared one is left. -/
theorem evictOldest_cases (state : VpnDataPathState) (direction : VpnPacketDirection)
    (packetId : UInt32) (existingPacket : Bool) :
    (∃ after, state.evictOldest direction packetId existingPacket = (true, after) ∧
        Evicts direction packetId existingPacket state after) ∨
      (state.evictOldest direction packetId existingPacket = (false, state) ∧
        ∀ side id held, (state.reassembler side).packets.lookup id = some held →
          excluded direction side packetId existingPacket = some id) := by
  have evicted : ∀ side id evictedAt, (state.reassembler side).oldestPacketUpdatedAt
      (excluded direction side packetId existingPacket) = some (id, evictedAt) →
      ∃ after, (((state.reassembler side).evictPacket id).1,
          state.setReassembler side ((state.reassembler side).evictPacket id).2) = (true, after) ∧
        Evicts direction packetId existingPacket state after := by
    intro side id evictedAt oldest
    obtain ⟨done, evicts⟩ := evict_evicts state direction side oldest
    exact ⟨_, by rw [done], evicts⟩
  have up := evicted .uplink
  have down := evicted .downlink
  simp only [reassembler] at up down
  unfold evictOldest
  dsimp only
  split
  · rename_i uplinkId _ oldest _
    exact .inl (up uplinkId _ oldest)
  · rename_i downlinkId _ _ oldest
    exact .inl (down downlinkId _ oldest)
  · rename_i uplinkId uplinkAt downlinkId downlinkAt upOldest downOldest
    split
    · exact .inl (up uplinkId _ upOldest)
    · exact .inl (down downlinkId _ downOldest)
  · rename_i upNothing downNothing
    refine .inr ⟨rfl, fun side id held found => ?_⟩
    cases side with
    | uplink => exact oldestPacketUpdatedAt_none upNothing found
    | downlink => exact oldestPacketUpdatedAt_none downNothing found

/-- When only the spared packet is left, it is all that is buffered. -/
theorem Buffers.only_excluded (buffers : Buffers inner state)
    (only : ∀ side id held, (state.reassembler side).packets.lookup id = some held →
      excluded direction side packetId existingPacket = some id) :
    state.heldPackets ≤ (if existingPacket then 1 else 0) ∧
      state.heldBytes ≤ (state.reassembler direction).receivedBytesOf packetId := by
  have goodThere := (buffers (other direction)).1
  have emptyThere : (state.reassembler (other direction)).packets.size = 0 := by
    apply Table.size_eq_zero_iff.mpr
    intro id
    apply Option.eq_none_iff_forall_ne_some.mpr
    intro held found
    have spared := only _ id held found
    cases direction <;> simp [excluded, other] at spared
  -- without the spared packet this side is empty as well
  have goodHere := (buffers direction).1
  have goodRest := goodHere.removePacket packetId
  have emptyRest : ((state.reassembler direction).removePacket packetId).packets.size = 0 := by
    apply Table.size_eq_zero_iff.mpr
    intro id
    apply Option.eq_none_iff_forall_ne_some.mpr
    intro held found
    have before := (Prunes.removePacket _ packetId).lookup_some found
    have spared := only _ id held before
    simp only [excluded] at spared
    split at spared
    · cases spared
      rw [removePacket_lookup_self] at found
      cases found
    · cases spared
  have bytesRest := goodRest.empty_bytes emptyRest
  rw [removePacket_bufferedBytes] at bytesRest
  rw [heldPackets_split state direction, heldBytes_split state direction, emptyThere,
    goodThere.empty_bytes emptyThere]
  refine ⟨?_, by omega⟩
  cases found : (state.reassembler direction).packets.lookup packetId with
  | none =>
    rw [removePacket_packets, Table.erase_of_lookup_none found] at emptyRest
    rw [emptyRest]
    exact Nat.zero_le _
  | some held =>
    have spared := only _ packetId held found
    have existing : existingPacket = true := by
      simp only [excluded] at spared
      split at spared
      · rename_i both
        exact both.2
      · cases spared
    have size := Table.size_erase found
    rw [removePacket_packets] at emptyRest
    simp only [existing, if_true]
    omega

end VpnDataPathState

/-- `is_none_or(|total| total > limit)` on a sum that does not overflow. -/
theorem checkedAdd_exceeds {a b limit : Nat} (fits : a + b ≤ usizeMax) :
    ((checkedAdd usizeMax a b).all fun total => total > limit) = decide (limit < a + b) := by
  rw [checkedAdd_eq_some fits]
  rfl

/-- **Eviction always makes enough room**: for a packet more if it is new, and for
bytes that its partial packet can still take. -/
theorem VpnDataPathInner.makeIdentityRoom_room (inner : VpnDataPathInner)
    {direction : VpnPacketDirection} {packetId : UInt32} {existingPacket : Bool}
    {additionalBytes additionalPackets : Nat}
    (packets : additionalPackets ≤ if existingPacket then 0 else 1) (fuel : Nat) :
    ∀ {state : VpnDataPathState}, state.Buffers inner →
      (state.reassembler direction).containsPacket packetId = existingPacket →
      (state.reassembler direction).receivedBytesOf packetId + additionalBytes ≤
        vpnMaxIpPacketLen →
      state.heldPackets < fuel →
      ∃ after, inner.makeIdentityRoom direction packetId existingPacket additionalBytes
          additionalPackets fuel state = pure (.ok (), after) ∧
        state.Shrinks after ∧
        (after.reassembler direction).packets.lookup packetId =
          (state.reassembler direction).packets.lookup packetId ∧
        after.heldBytes + additionalBytes ≤ inner.maxReassemblyBytes ∧
        after.heldPackets + additionalPackets ≤ vpnDefaultMaxInflightPackets := by
  induction fuel with
  | zero => exact fun _ _ _ enough => absurd enough (Nat.not_lt_zero _)
  | succ fuel ih =>
    intro state buffers existing bytes enough
    obtain ⟨bytesSmall, packetsSmall⟩ := buffers.small
    have atMostOne : additionalPackets ≤ 1 := by
      split at packets <;> omega
    have byteSum : state.heldBytes + additionalBytes ≤ usizeMax := by
      simp only [vpnMaxIpPacketLen, usizeMax] at bytesSmall bytes ⊢
      omega
    have packetSum : state.heldPackets + additionalPackets ≤ usizeMax := by
      simp only [vpnDefaultMaxInflightPackets, usizeMax] at packetsSmall ⊢
      omega
    simp only [makeIdentityRoom, buffers.usage.1, buffers.usage.2, checkedAdd_exceeds byteSum,
      checkedAdd_exceeds packetSum]
    by_cases room : state.heldPackets + additionalPackets ≤ vpnDefaultMaxInflightPackets ∧
        state.heldBytes + additionalBytes ≤ inner.maxReassemblyBytes
    · refine ⟨state, ?_, .refl state, rfl, room.2, room.1⟩
      simp [Nat.not_lt.mpr room.1, Nat.not_lt.mpr room.2]
    · have tight : ¬ ((!decide (vpnDefaultMaxInflightPackets < state.heldPackets +
          additionalPackets) && !decide (inner.maxReassemblyBytes < state.heldBytes +
          additionalBytes)) = true) := by
        simpa [Nat.not_lt] using room
      rw [if_neg tight]
      rcases state.evictOldest_cases direction packetId existingPacket with
        ⟨after, evicted, evicts⟩ | ⟨-, only⟩
      · rw [evicted]
        have same := evicts.lookup_eq existing
        have existing' : (after.reassembler direction).containsPacket packetId =
            existingPacket := by
          rw [← existing, containsPacket, containsPacket, same]
        have bytes' : (after.reassembler direction).receivedBytesOf packetId +
            additionalBytes ≤ vpnMaxIpPacketLen := by
          rwa [receivedBytesOf, same]
        obtain ⟨last, ran, shrinks, sameLast, within⟩ := ih
          (evicts.shrinks.buffers buffers) existing' bytes'
          (Nat.lt_of_lt_of_le evicts.fewer (Nat.le_of_lt_succ enough))
        exact ⟨last, ran, evicts.shrinks.trans shrinks, sameLast.trans same, within⟩
      · -- only the spared packet is left, and there is room beside it
        obtain ⟨few, little⟩ := buffers.only_excluded only
        have limit := buffers.byteLimit
        refine absurd ⟨?_, by omega⟩ room
        simp only [vpnDefaultMaxInflightPackets]
        split at few <;> omega

end FlowWeave.Vpn
