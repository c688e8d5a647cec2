/-
# Vpn.Reassembler — collecting the fragments of IP packets (`src/vpn.rs`)

`VpnReassembler` keeps one `PartialPacket` for each packet id it has seen some
but not all bytes of. `ingest` first drops what has timed out, then gives the
fragment to its partial packet: a copy of a stored fragment changes nothing, an
overlap or a changed total discards the partial packet, and the last missing
fragment returns the packet. `makeRoom` evicts the partial packets that were
updated longest ago.

The packet table is a hash map in the source, so which of two equally old
packets is evicted depends on its iteration order; here that is the order of the
table's list.
-/
import FlowWeave.Theory.Table
import FlowWeave.Vpn.Packet

namespace FlowWeave.Vpn

open Theory Theory.Segments Theory.MachineInt

set_option autoImplicit false

/-! ## State -/

def vpnDefaultMaxInflightPackets : Nat := 1024

def vpnDefaultMaxReassemblyBytes : Nat := 8 * 1024 * 1024

/-- Three seconds, in nanoseconds. -/
def vpnDefaultFragmentTimeout : Nat := 3 * 1000000000

structure VpnReassemblyLimits where
  maxInflightPackets : Nat
  maxBufferedBytes : Nat
  fragmentTimeout : Nat
  deriving DecidableEq, Repr

/-- `VpnReassemblyLimits::default`. -/
def VpnReassemblyLimits.default : VpnReassemblyLimits where
  maxInflightPackets := vpnDefaultMaxInflightPackets
  maxBufferedBytes := vpnDefaultMaxReassemblyBytes
  fragmentTimeout := vpnDefaultFragmentTimeout

structure VpnReassemblyStats where
  fragmentsReceived : Nat
  fragmentsRejected : Nat
  duplicateFragments : Nat
  packetsCompleted : Nat
  completedBytes : Nat
  packetsExpired : Nat
  packetsEvicted : Nat
  deriving DecidableEq, Repr

/-- `VpnReassemblyStats::default`. -/
def VpnReassemblyStats.default : VpnReassemblyStats := ⟨0, 0, 0, 0, 0, 0, 0⟩

structure PartialPacket where
  totalLen : Nat
  fragments : SortedMap (List UInt8)
  receivedBytes : Nat
  updatedAt : Nat

/-- `PartialPacket::new`. -/
def PartialPacket.new (totalLen now : Nat) : PartialPacket where
  totalLen := totalLen
  fragments := SortedMap.empty
  receivedBytes := 0
  updatedAt := now

structure VpnReassembler where
  limits : VpnReassemblyLimits
  packets : Table UInt32 PartialPacket
  bufferedBytes : Nat
  stats : VpnReassemblyStats

/-! ## One partial packet -/

/-- The loop over the stored fragments: `true` at a copy of the fragment, an
error at a fragment it overlaps. -/
def scanFragments (fragment : VpnFragment) (fragmentEnd : Nat) :
    List (Nat × List UInt8) → Except VpnPacketError Bool
  | [] => .ok false
  | (existingOffset, existingPayload) :: rest =>
    let existingEnd := existingOffset + existingPayload.length
    if existingOffset = fragment.offset ∧ existingPayload = fragment.payload then .ok true
    else if fragment.offset < existingEnd ∧ existingOffset < fragmentEnd then
      .error .fragmentOverlap
    else scanFragments fragment fragmentEnd rest

namespace PartialPacket

/-- The part of `ingest_inner` that puts a fragment into its partial packet, and
whether the fragment was a duplicate. -/
def absorb (held : PartialPacket) (now : Nat) (fragment : VpnFragment) :
    Except VpnPacketError (PartialPacket × Bool) :=
  if held.totalLen ≠ fragment.totalLen then .error .fragmentTotalChanged
  else
    match checkedAdd usizeMax fragment.offset fragment.payload.length with
    | none => .error .fragmentBounds
    | some fragmentEnd =>
      match scanFragments fragment fragmentEnd held.fragments.entries with
      | .error error => .error error
      | .ok true => .ok (held, true)
      | .ok false =>
        if held.fragments.entries.length ≥ vpnMaxFragmentsPerPacket then
          .error .fragmentLimitExceeded
        else
          match checkedAdd usizeMax held.receivedBytes fragment.payload.length with
          | none => .error .fragmentBounds
          | some receivedBytes =>
            .ok ({ held with
              fragments := held.fragments.insert fragment.offset fragment.payload
              receivedBytes := receivedBytes
              updatedAt := now }, false)

/-- The loop that joins the fragments in order of offset. -/
def joinFragments (packet : List UInt8) :
    List (Nat × List UInt8) → Except VpnPacketError (List UInt8)
  | [] => .ok packet
  | (offset, payload) :: rest =>
    if offset ≠ packet.length then .error .fragmentBounds
    else joinFragments (packet ++ payload) rest

/-- The part of `ingest_inner` that runs once every byte is there. -/
def assemble (held : PartialPacket) : Except VpnPacketError (List UInt8) :=
  match joinFragments [] held.fragments.entries with
  | .error error => .error error
  | .ok packet =>
    if packet.length ≠ held.totalLen then .error .fragmentBounds
    else
      match inspectVpnIpPacket packet with
      | .error error => .error error
      | .ok _ => .ok packet

end PartialPacket

/-! ## The table of partial packets -/

namespace VpnReassembler

/-- `VpnReassembler::new`. -/
def new (limits : VpnReassemblyLimits) : Except VpnPacketError VpnReassembler :=
  if limits.maxInflightPackets = 0 ∨ limits.maxBufferedBytes < vpnMaxIpPacketLen ∨
      limits.fragmentTimeout = 0 then
    .error .invalidReassemblyLimits
  else .ok {
    limits := limits
    packets := ∅
    bufferedBytes := 0
    stats := VpnReassemblyStats.default }

def inflightPackets (self : VpnReassembler) : Nat := self.packets.size

def containsPacket (self : VpnReassembler) (packetId : UInt32) : Bool :=
  (self.packets.lookup packetId).isSome

def additionalBufferedBytes (self : VpnReassembler) (fragment : VpnFragment) :
    Except VpnPacketError Nat :=
  match self.packets.lookup fragment.packetId with
  | none => .ok fragment.payload.length
  | some held =>
    if held.totalLen ≠ fragment.totalLen then .error .fragmentTotalChanged
    else
      match checkedAdd usizeMax fragment.offset fragment.payload.length with
      | none => .error .fragmentBounds
      | some fragmentEnd =>
        match scanFragments fragment fragmentEnd held.fragments.entries with
        | .error error => .error error
        | .ok true => .ok 0
        | .ok false =>
          if held.fragments.entries.length ≥ vpnMaxFragmentsPerPacket then
            .error .fragmentLimitExceeded
          else .ok fragment.payload.length

def fragmentWillComplete (self : VpnReassembler) (fragment : VpnFragment) : Bool :=
  let receivedBytes := ((self.packets.lookup fragment.packetId).map (·.receivedBytes)).getD 0
  checkedAdd usizeMax receivedBytes fragment.payload.length == some fragment.totalLen

/-- `min_by_key` over the packets other than the excluded one. -/
def oldestPacketUpdatedAt (self : VpnReassembler) (excludedPacketId : Option UInt32) :
    Option (UInt32 × Nat) :=
  ((self.packets.entries.filter fun entry => some entry.1 ≠ excludedPacketId).argmin
    fun entry => entry.2.updatedAt).map fun entry => (entry.1, entry.2.updatedAt)

def removePacket (self : VpnReassembler) (packetId : UInt32) : VpnReassembler :=
  match self.packets.lookup packetId with
  | none => self
  | some held =>
    { self with
      packets := self.packets.erase packetId
      bufferedBytes := self.bufferedBytes - held.receivedBytes }

/-- One more packet in `packets_evicted`. -/
def countEvicted (self : VpnReassembler) : VpnReassembler :=
  { self with stats := { self.stats with
      packetsEvicted := saturatingAdd u64Max self.stats.packetsEvicted 1 } }

def evictPacket (self : VpnReassembler) (packetId : UInt32) : Bool × VpnReassembler :=
  if self.containsPacket packetId then (true, (self.removePacket packetId).countEvicted)
  else (false, self)

def clear (self : VpnReassembler) : VpnReassembler :=
  { self with packets := ∅, bufferedBytes := 0 }

def countReceived (self : VpnReassembler) : VpnReassembler :=
  { self with stats := { self.stats with
      fragmentsReceived := saturatingAdd u64Max self.stats.fragmentsReceived 1 } }

def countRejected (self : VpnReassembler) : VpnReassembler :=
  { self with stats := { self.stats with
      fragmentsRejected := saturatingAdd u64Max self.stats.fragmentsRejected 1 } }

/-- One more in `duplicate_fragments`, for a duplicate. -/
def countDuplicate (self : VpnReassembler) (duplicate : Bool) : VpnReassembler :=
  if duplicate then
    { self with stats := { self.stats with
        duplicateFragments := saturatingAdd u64Max self.stats.duplicateFragments 1 } }
  else self

def countCompleted (self : VpnReassembler) (packet : List UInt8) : VpnReassembler :=
  { self with stats := { self.stats with
      packetsCompleted := saturatingAdd u64Max self.stats.packetsCompleted 1
      completedBytes := saturatingAdd u64Max self.stats.completedBytes packet.length } }

def rejectDecodedFragment (self : VpnReassembler) (packetId : UInt32) : VpnReassembler :=
  self.countReceived.countRejected.removePacket packetId

/-- The ids `expire` collects before it removes them. -/
def expiredIds (self : VpnReassembler) (now : Nat) : List UInt32 :=
  (self.packets.entries.filter fun entry =>
    now - entry.2.updatedAt ≥ self.limits.fragmentTimeout).map (·.1)

def expire (self : VpnReassembler) (now : Nat) : Nat × VpnReassembler :=
  let expired := self.expiredIds now
  let count := expired.length
  let removed := expired.foldl removePacket self
  (count, { removed with stats := { removed.stats with
    packetsExpired := saturatingAdd u64Max removed.stats.packetsExpired count } })

/-- `evict_oldest`; `none` when there is nothing to evict. -/
def evictOldest (self : VpnReassembler) : Option VpnReassembler :=
  match self.packets.entries.argmin fun entry => entry.2.updatedAt with
  | none => none
  | some entry => some (self.removePacket entry.1).countEvicted

/-- A `while full { if !evict_oldest() { break } }` loop. Every round removes a
packet, so as many rounds as there are packets suffice (`evictWhile_exit`). -/
def evictWhile (full : VpnReassembler → Bool) : Nat → VpnReassembler → VpnReassembler
  | 0, self => self
  | fuel + 1, self =>
    if full self then
      match self.evictOldest with
      | none => self
      | some next => evictWhile full fuel next
    else self

def makeRoom (self : VpnReassembler) (incomingBytes : Nat) : VpnReassembler :=
  let counted := evictWhile
    (fun state => state.packets.size ≥ state.limits.maxInflightPackets) self.packets.size self
  evictWhile
    (fun state => saturatingAdd usizeMax state.bufferedBytes incomingBytes >
      state.limits.maxBufferedBytes) counted.packets.size counted

/-- The partial packet of a fragment, taken out of the table, or a new one. -/
def takePartial (self : VpnReassembler) (now : Nat) (fragment : VpnFragment) :
    PartialPacket × VpnReassembler :=
  match self.packets.lookup fragment.packetId with
  | some held =>
    (held, { self with
      packets := self.packets.erase fragment.packetId
      bufferedBytes := self.bufferedBytes - held.receivedBytes })
  | none => (PartialPacket.new fragment.totalLen now, self)

/-- The end of `ingest_inner` for a packet that still misses bytes. -/
def store (self : VpnReassembler) (packetId : UInt32) (held : PartialPacket) : VpnReassembler :=
  { self with
    packets := self.packets.insert packetId held
    bufferedBytes := self.bufferedBytes + held.receivedBytes }

def ingestInner (self : VpnReassembler) (now : Nat) (datagram : List UInt8) :
    Except VpnPacketError (Option (List UInt8)) × VpnReassembler :=
  match decodeVpnIpFragment datagram with
  | .error error => (.error error, self)
  | .ok fragment =>
    let (held, taken) := self.takePartial now fragment
    match held.absorb now fragment with
    | .error error => (.error error, taken)
    | .ok (held, duplicate) =>
      let taken := taken.countDuplicate duplicate
      if held.receivedBytes = held.totalLen then
        match held.assemble with
        | .error error => (.error error, taken)
        | .ok packet => (.ok (some packet), taken)
      else
        (.ok none, (taken.makeRoom held.receivedBytes).store fragment.packetId held)

/-- The statistics `ingest` keeps of its result. -/
def recordResult (self : VpnReassembler) :
    Except VpnPacketError (Option (List UInt8)) → VpnReassembler
  | .ok (some packet) => self.countCompleted packet
  | .ok none => self
  | .error _ => self.countRejected

def ingest (self : VpnReassembler) (now : Nat) (datagram : List UInt8) :
    Except VpnPacketError (Option (List UInt8)) × VpnReassembler :=
  let (result, after) := (self.countReceived.expire now).2.ingestInner now datagram
  (result, after.recordResult result)

end VpnReassembler

end FlowWeave.Vpn
