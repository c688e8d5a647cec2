/-
# Vpn.Packet — IP packets and their `FWI1` datagrams (`src/vpn.rs`)

`inspectVpnIpPacket` is the strict IP header check, `encodeVpnIpFragments` cuts
an accepted packet into datagrams, `decodeVpnIpFragment` reads one datagram.

The encoder never fails on an accepted packet at a legal datagram size
(`encodeVpnIpFragments_eq`): it is `packetSegments`, the packet's chunks at
their offsets, under one header each. `decodeVpnIpFragment_frame` reads such a
datagram back.
-/
import FlowWeave.Theory.Checks
import FlowWeave.Theory.MachineInt
import FlowWeave.Theory.Segments
import FlowWeave.Vpn.IpAddr

namespace FlowWeave.Vpn

open Theory.BigEndian Theory.Checks Theory.Segments Theory.MachineInt

set_option autoImplicit false

/-! ## Constants -/

/-- The bytes of `FWI1`. -/
def vpnIpDatagramMagic : List UInt8 := [0x46, 0x57, 0x49, 0x31]

def vpnIpDatagramHeaderLen : Nat := 12

def vpnMinIpPacketLen : Nat := 1280

def vpnMaxIpPacketLen : Nat := 65535

def vpnMaxIpDatagramLen : Nat := vpnIpDatagramHeaderLen + vpnMaxIpPacketLen

def vpnMaxFragmentsPerPacket : Nat := 64

/-- `usize::div_ceil`. -/
def divCeil (a b : Nat) : Nat := (a + b - 1) / b

def vpnMinQuicDatagramLen : Nat :=
  vpnIpDatagramHeaderLen + divCeil vpnMaxIpPacketLen vpnMaxFragmentsPerPacket

example : vpnMinQuicDatagramLen = 1036 := by decide

inductive VpnPacketError where
  | packetEmpty
  | packetTooLarge
  | datagramCapacityTooSmall
  | tooManyFragments
  | invalidMagic
  | fragmentEmpty
  | fragmentBounds
  | fragmentTotalChanged
  | fragmentOverlap
  | fragmentLimitExceeded
  | invalidReassemblyLimits
  | invalidIpVersion
  | invalidIpv4Header
  | invalidIpv4Length
  | invalidIpv6Length
  | ipv6JumbogramUnsupported
  deriving DecidableEq, Repr

structure VpnIpPacketMeta where
  source : IpAddr
  destination : IpAddr
  deriving DecidableEq, Repr

structure VpnFragment where
  packetId : UInt32
  totalLen : Nat
  offset : Nat
  payload : List UInt8
  deriving DecidableEq, Repr

/-! ## The IP header -/

def inspectIpv4Packet (packet : List UInt8) : Except VpnPacketError VpnIpPacketMeta :=
  if packet.length < 20 then .error .invalidIpv4Header
  else
    let headerLen := (packet.getD 0 0 &&& 0x0f).toNat * 4
    if headerLen < 20 ∨ headerLen > packet.length then .error .invalidIpv4Header
    else
      let totalLen := fromBE (slice packet 2 4)
      if totalLen ≠ packet.length ∨ totalLen < headerLen then .error .invalidIpv4Length
      else .ok {
        source := .v4 (Ipv4Addr.ofOctets (slice packet 12 16))
        destination := .v4 (Ipv4Addr.ofOctets (slice packet 16 20)) }

def inspectIpv6Packet (packet : List UInt8) : Except VpnPacketError VpnIpPacketMeta :=
  if packet.length < 40 then .error .invalidIpv6Length
  else
    let payloadLen := fromBE (slice packet 4 6)
    if payloadLen = 0 ∧ packet.length > 40 then .error .ipv6JumbogramUnsupported
    else if payloadLen + 40 ≠ packet.length then .error .invalidIpv6Length
    else .ok {
      source := .v6 (Ipv6Addr.ofOctets (slice packet 8 24))
      destination := .v6 (Ipv6Addr.ofOctets (slice packet 24 40)) }

def inspectVpnIpPacket (packet : List UInt8) : Except VpnPacketError VpnIpPacketMeta :=
  if packet.isEmpty then .error .packetEmpty
  else if packet.length > vpnMaxIpPacketLen then .error .packetTooLarge
  else if packet.getD 0 0 >>> 4 = 4 then inspectIpv4Packet packet
  else if packet.getD 0 0 >>> 4 = 6 then inspectIpv6Packet packet
  else .error .invalidIpVersion

variable {metadata : VpnIpPacketMeta} {packet : List UInt8} {payloadCapacity : Nat}

/-- An accepted packet is not empty and its length fits 16 bits. -/
theorem inspectVpnIpPacket_bounds (accepted : inspectVpnIpPacket packet = .ok metadata) :
    0 < packet.length ∧ packet.length ≤ vpnMaxIpPacketLen := by
  simp only [inspectVpnIpPacket, ite_error_eq_ok] at accepted
  obtain ⟨filled, small, -⟩ := accepted
  exact ⟨List.length_pos_iff.mpr (by simpa using filled), by omega⟩

/-- Source and destination of an accepted packet are of one family. -/
theorem inspectVpnIpPacket_family (accepted : inspectVpnIpPacket packet = .ok metadata) :
    metadata.source.family = metadata.destination.family := by
  simp only [inspectVpnIpPacket, inspectIpv4Packet, inspectIpv6Packet] at accepted
  repeat' split at accepted
  all_goals cases accepted
  all_goals rfl

/-! ## Datagrams -/

/-- One datagram: header, then payload. -/
def vpnIpDatagram (packetId : UInt32) (totalLen offset : UInt16) (payload : List UInt8) :
    List UInt8 :=
  vpnIpDatagramMagic ++ u32ToBE packetId ++ u16ToBE totalLen ++ u16ToBE offset ++ payload

theorem vpnIpDatagram_length (packetId : UInt32) (totalLen offset : UInt16) (payload : List UInt8) :
    (vpnIpDatagram packetId totalLen offset payload).length =
      vpnIpDatagramHeaderLen + payload.length := by
  have magic : vpnIpDatagramMagic.length = 4 := rfl
  simp only [vpnIpDatagram, List.length_append, magic, u32ToBE_length, u16ToBE_length,
    vpnIpDatagramHeaderLen]

/-- `u16::try_from`. -/
def u16TryFrom (n : Nat) : Option UInt16 := if n < 2 ^ 16 then some (UInt16.ofNat n) else none

/-- The loop body of the encoder: the datagram of the piece at `index`. -/
def encodeFragment (packetId : UInt32) (totalLen : UInt16) (payloadCapacity : Nat)
    (piece : List UInt8 × Nat) : Except VpnPacketError (List UInt8) :=
  match (checkedMul usizeMax piece.2 payloadCapacity).bind u16TryFrom with
  | none => .error .fragmentBounds
  | some offset => .ok (vpnIpDatagram packetId totalLen offset piece.1)

def encodeVpnIpFragments (packetId : UInt32) (packet : List UInt8) (maxDatagramLen : Nat) :
    Except VpnPacketError (List (List UInt8)) := do
  let _ ← inspectVpnIpPacket packet
  if maxDatagramLen < vpnMinQuicDatagramLen then
    .error .datagramCapacityTooSmall
  else
    let payloadCapacity := maxDatagramLen - vpnIpDatagramHeaderLen
    if divCeil packet.length payloadCapacity > vpnMaxFragmentsPerPacket then
      .error .tooManyFragments
    else
      match u16TryFrom packet.length with
      | none => .error .packetTooLarge
      | some totalLen =>
        (chunks payloadCapacity packet).zipIdx.mapM
          (encodeFragment packetId totalLen payloadCapacity)

def decodeVpnIpFragment (datagram : List UInt8) : Except VpnPacketError VpnFragment :=
  if datagram.length ≤ vpnIpDatagramHeaderLen then .error .fragmentEmpty
  else if slice datagram 0 4 ≠ vpnIpDatagramMagic then .error .invalidMagic
  else
    let packetId := u32FromBE (slice datagram 4 8)
    let totalLen := fromBE (slice datagram 8 10)
    let offset := fromBE (slice datagram 10 12)
    let payload := datagram.drop vpnIpDatagramHeaderLen
    if totalLen = 0 ∨ offset ≥ totalLen ∨ payload.length > totalLen - offset then
      .error .fragmentBounds
    else .ok { packetId, totalLen, offset, payload }

/-- What a decoded fragment promises: a non-empty payload inside its packet, and
a packet length that fits 16 bits. -/
structure VpnFragment.WellFormed (fragment : VpnFragment) : Prop where
  filled : fragment.payload ≠ []
  inside : fragment.offset + fragment.payload.length ≤ fragment.totalLen
  small : fragment.totalLen ≤ vpnMaxIpPacketLen

theorem decodeVpnIpFragment_wellFormed {datagram : List UInt8} {fragment : VpnFragment}
    (decoded : decodeVpnIpFragment datagram = .ok fragment) : fragment.WellFormed := by
  simp only [decodeVpnIpFragment, ite_error_eq_ok, not_or, not_le, ge_iff_le, gt_iff_lt, not_lt]
    at decoded
  obtain ⟨long, -, ⟨-, before, fits⟩, ⟨⟩⟩ := decoded
  refine ⟨?_, by simp only; omega, ?_⟩
  · intro empty
    have := congrArg List.length empty
    simp only [List.length_drop, List.length_nil] at this
    omega
  · have read := fromBE_lt (slice datagram 8 10)
    have width : (slice datagram 8 10).length ≤ 2 := by simp [slice]
    have cap : 256 ^ (slice datagram 8 10).length ≤ 256 ^ 2 :=
      Nat.pow_le_pow_right (by decide) width
    simp only [vpnMaxIpPacketLen]
    omega

/-- The decoder reads back a datagram whose header is consistent. -/
theorem decodeVpnIpFragment_frame (packetId : UInt32) {totalLen offset : UInt16}
    {payload : List UInt8} (filled : payload ≠ [])
    (inside : offset.toNat + payload.length ≤ totalLen.toNat) :
    decodeVpnIpFragment (vpnIpDatagram packetId totalLen offset payload) =
      .ok ⟨packetId, totalLen.toNat, offset.toNat, payload⟩ := by
  have positive : 0 < payload.length := List.length_pos_iff.mpr filled
  have magicLength : vpnIpDatagramMagic.length = 4 := rfl
  have total : fromBE (u16ToBE totalLen) = totalLen.toNat :=
    fromBE_toBE (by simpa using totalLen.toNat_lt)
  have start : fromBE (u16ToBE offset) = offset.toNat :=
    fromBE_toBE (by simpa using offset.toNat_lt)
  set datagram := vpnIpDatagram packetId totalLen offset payload with isDatagram
  have long : ¬ datagram.length ≤ vpnIpDatagramHeaderLen := by
    simp only [isDatagram, vpnIpDatagram, List.length_append, magicLength, u32ToBE_length,
      u16ToBE_length, vpnIpDatagramHeaderLen]
    omega
  have magic : slice datagram 0 4 = vpnIpDatagramMagic := by
    simp [slice, isDatagram, vpnIpDatagram, magicLength]
  have idBytes : slice datagram 4 8 = u32ToBE packetId := by
    simp [slice, isDatagram, vpnIpDatagram, magicLength]
  have totalBytes : slice datagram 8 10 = u16ToBE totalLen := by
    simp [slice, isDatagram, vpnIpDatagram, List.take_append, List.drop_append, magicLength]
  have startBytes : slice datagram 10 12 = u16ToBE offset := by
    simp [slice, isDatagram, vpnIpDatagram, List.drop_append, vpnIpDatagramMagic,
      List.drop_of_length_le]
  have body : datagram.drop vpnIpDatagramHeaderLen = payload := by
    simp [isDatagram, vpnIpDatagram, List.drop_append, vpnIpDatagramHeaderLen, vpnIpDatagramMagic,
      List.drop_of_length_le]
  unfold decodeVpnIpFragment
  rw [if_neg long, if_neg (not_not_intro magic), idBytes, totalBytes, startBytes, body, total,
    start, u32FromBE_toBE]
  have bounds : ¬ (totalLen.toNat = 0 ∨ offset.toNat ≥ totalLen.toNat ∨
      payload.length > totalLen.toNat - offset.toNat) := by
    omega
  simp only [if_neg bounds]

/-! ## The encoder on accepted packets -/

/-- The pieces of a packet at their offsets. -/
def packetSegments (packet : List UInt8) (payloadCapacity : Nat) : List (Nat × List UInt8) :=
  chunkSegments payloadCapacity 0 (chunks payloadCapacity packet)

theorem packetSegments_spec (packet : List UInt8) (positive : 0 < payloadCapacity) :
    Contiguous 0 (packetSegments packet payloadCapacity) ∧
      joined (packetSegments packet payloadCapacity) = packet ∧
      ∀ segment ∈ packetSegments packet payloadCapacity,
        segment.2 ≠ [] ∧ segment.2.length ≤ payloadCapacity := by
  have spec := chunkSegments_spec positive packet.length 0 packet le_rfl
  rw [Nat.zero_mul] at spec
  exact spec

theorem packetSegments_total (positive : 0 < payloadCapacity) :
    total (packetSegments packet payloadCapacity) = packet.length := by
  rw [← joined_length, (packetSegments_spec packet positive).2.1]

/-- The pieces are disjoint, in order, and inside the packet. -/
theorem packetSegments_separated (positive : 0 < payloadCapacity) :
    Separated packet.length 0 (packetSegments packet payloadCapacity) := by
  obtain ⟨contiguous, -, pieces⟩ := packetSegments_spec packet positive
  have separated := contiguous.separated (fun segment member => (pieces segment member).1)
  rwa [Nat.zero_add, packetSegments_total positive] at separated

/-- At a legal datagram size a packet has at most 64 pieces. -/
theorem packetSegments_length_le (small : packet.length ≤ vpnMaxIpPacketLen)
    (wide : 1024 ≤ payloadCapacity) :
    (packetSegments packet payloadCapacity).length ≤ vpnMaxFragmentsPerPacket := by
  have room : packet.length ≤ 64 * payloadCapacity := by
    simp only [vpnMaxIpPacketLen] at small
    omega
  have count := chunksFuel_length_le packet.length 64 packet room
  simpa [packetSegments, chunkSegments, chunks, vpnMaxFragmentsPerPacket] using count

/-- The datagrams of a packet, one for each piece. -/
def packetDatagrams (packetId : UInt32) (packet : List UInt8) (payloadCapacity : Nat) :
    List (List UInt8) :=
  (packetSegments packet payloadCapacity).map fun segment =>
    vpnIpDatagram packetId (UInt16.ofNat packet.length) (UInt16.ofNat segment.1) segment.2

/-- As many datagrams as the payload capacity goes into the packet, rounded up; each adds
its header. -/
theorem packetDatagrams_lengths (packetId : UInt32) (packet : List UInt8)
    (positive : 0 < payloadCapacity) :
    (packetDatagrams packetId packet payloadCapacity).length =
      divCeil packet.length payloadCapacity ∧
      ((packetDatagrams packetId packet payloadCapacity).map List.length).sum =
        packet.length + vpnIpDatagramHeaderLen * divCeil packet.length payloadCapacity ∧
      ∀ datagram ∈ packetDatagrams packetId packet payloadCapacity,
        vpnIpDatagramHeaderLen < datagram.length ∧
          datagram.length ≤ vpnIpDatagramHeaderLen + packet.length := by
  have count :
      (packetSegments packet payloadCapacity).length = divCeil packet.length payloadCapacity := by
    simpa [packetSegments, chunkSegments, chunks, divCeil] using
      chunksFuel_length_eq positive packet.length packet le_rfl
  have bytes : ∀ segments : List (Nat × List UInt8),
      (segments.map fun segment => vpnIpDatagramHeaderLen + segment.2.length).sum =
        total segments + vpnIpDatagramHeaderLen * segments.length := by
    intro segments
    induction segments with
    | nil => rfl
    | cons segment rest ih =>
      simp only [List.map_cons, List.sum_cons, total_cons, List.length_cons, ih, Nat.mul_succ]
      omega
  refine ⟨by rw [packetDatagrams, List.length_map, count], ?_, ?_⟩
  · rw [packetDatagrams, List.map_map, ← count, ← packetSegments_total positive, ← bytes]
    simp only [Function.comp_def, vpnIpDatagram_length]
  · intro datagram member
    obtain ⟨segment, isSegment, rfl⟩ := List.mem_map.mp member
    obtain ⟨-, filled, inside⟩ := (packetSegments_separated positive).mem isSegment
    have := List.length_pos_iff.mpr filled
    rw [vpnIpDatagram_length]
    omega

/-- **The encoder does not fail.** On an accepted packet and at a legal datagram
size it returns the datagrams of the packet's pieces. -/
theorem encodeVpnIpFragments_eq (packetId : UInt32) {maxDatagramLen : Nat}
    (accepted : inspectVpnIpPacket packet = .ok metadata)
    (legal : vpnMinQuicDatagramLen ≤ maxDatagramLen) :
    encodeVpnIpFragments packetId packet maxDatagramLen =
      .ok (packetDatagrams packetId packet (maxDatagramLen - vpnIpDatagramHeaderLen)) := by
  obtain ⟨-, small⟩ := inspectVpnIpPacket_bounds accepted
  simp only [vpnMaxIpPacketLen] at small
  have legal' : 1036 ≤ maxDatagramLen := legal
  have wide : 1024 ≤ maxDatagramLen - vpnIpDatagramHeaderLen := by
    simp only [vpnIpDatagramHeaderLen]; omega
  generalize capacity : maxDatagramLen - vpnIpDatagramHeaderLen = payloadCapacity at wide
  have positive : 0 < payloadCapacity := by omega
  have few : ¬ divCeil packet.length payloadCapacity > vpnMaxFragmentsPerPacket := by
    simp only [divCeil, vpnMaxFragmentsPerPacket, gt_iff_lt, not_lt]
    have : (packet.length + payloadCapacity - 1) / payloadCapacity < 65 := by
      rw [Nat.div_lt_iff_lt_mul positive]
      omega
    omega
  have pieces : (chunks payloadCapacity packet).zipIdx.mapM
      (encodeFragment packetId (UInt16.ofNat packet.length) payloadCapacity) =
      .ok (packetDatagrams packetId packet payloadCapacity) := by
    rw [Theory.Checks.mapM_ok _ (fun piece => vpnIpDatagram packetId (UInt16.ofNat packet.length)
      (UInt16.ofNat (piece.2 * payloadCapacity)) piece.1)]
    · simp [packetDatagrams, packetSegments, chunkSegments, Function.comp_def]
    · intro piece member
      -- every offset lies inside the packet, so it fits both `usize` and `u16`
      have segment : (piece.2 * payloadCapacity, piece.1) ∈
          packetSegments packet payloadCapacity :=
        List.mem_map.mpr ⟨piece, member, rfl⟩
      obtain ⟨-, -, fits⟩ := (packetSegments_separated positive).mem segment
      have offsetSmall : piece.2 * payloadCapacity ≤ 65535 := by simp only at fits; omega
      have product : checkedMul usizeMax piece.2 payloadCapacity =
          some (piece.2 * payloadCapacity) :=
        checkedMul_some_iff.mpr ⟨rfl, by simp only [usizeMax]; omega⟩
      have narrow : u16TryFrom (piece.2 * payloadCapacity) =
          some (UInt16.ofNat (piece.2 * payloadCapacity)) := by
        rw [u16TryFrom, if_pos (by omega)]
      simp only [encodeFragment, product, Option.bind_some, narrow]
  have narrow : u16TryFrom packet.length = some (UInt16.ofNat packet.length) := by
    rw [u16TryFrom, if_pos (by omega)]
  simp only [encodeVpnIpFragments, accepted, bind, Except.bind, if_neg (Nat.not_lt.mpr legal),
    capacity, if_neg few, narrow, pieces]

end FlowWeave.Vpn
