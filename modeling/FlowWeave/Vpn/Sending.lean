/-
# Vpn.Sending — packets on their way, seen from the sender

A `Sent` packet is one that the encoder accepted, with its datagrams. An `Arrival`
is a datagram at a time; lists of arrivals stand newest first. Which packets are
open after some arrivals, that is, begun and not complete, and how many bytes of
them have arrived, is defined here from the datagrams alone, without a
reassembler. `heldOf` is the partial packet a receiver ought to have of an open
packet, and the lemmas say how one arrival changes it.
-/
import FlowWeave.Vpn.ReassemblerInvariant

namespace FlowWeave.Vpn

open Theory Theory.Segments Theory.MachineInt

set_option autoImplicit false

/-- A packet with the datagrams `encode_vpn_ip_fragments` made of it. -/
structure Sent where
  packetId : UInt32
  packet : List UInt8
  maxDatagramLen : Nat
  datagrams : List (List UInt8)
  encoded : encodeVpnIpFragments packetId packet maxDatagramLen = .ok datagrams

structure Arrival where
  now : Nat
  datagram : List UInt8

/-- Datagrams are compared as lists of bytes. -/
instance lawfulDatagrams : LawfulBEq (List UInt8) := inferInstance

namespace Sent

/-! ## Arrivals -/

/-- The datagrams of the packet that have arrived, each once. -/
def arrived (sent : Sent) (arrivals : List Arrival) : List (List UInt8) :=
  sent.datagrams.filter fun datagram => datagram ∈ arrivals.map (·.datagram)

def Complete (sent : Sent) (arrivals : List Arrival) : Prop :=
  ∀ datagram ∈ sent.datagrams, datagram ∈ arrivals.map (·.datagram)

instance (sent : Sent) (arrivals : List Arrival) : Decidable (sent.Complete arrivals) :=
  inferInstanceAs (Decidable (∀ datagram ∈ sent.datagrams, datagram ∈ arrivals.map (·.datagram)))

/-- Some fragment has arrived and some fragment is missing. -/
def Open (sent : Sent) (arrivals : List Arrival) : Prop :=
  sent.arrived arrivals ≠ [] ∧ ¬ sent.Complete arrivals

instance (sent : Sent) (arrivals : List Arrival) : Decidable (sent.Open arrivals) :=
  inferInstanceAs (Decidable (_ ∧ _))

/-- The bytes of the packet that have arrived. -/
def arrivedBytes (sent : Sent) (arrivals : List Arrival) : Nat :=
  ((sent.arrived arrivals).map fun datagram => datagram.length - vpnIpDatagramHeaderLen).sum

/-- The arrival brings a fragment of the packet that was missing. -/
def New (sent : Sent) (arrival : Arrival) (earlier : List Arrival) : Prop :=
  arrival.datagram ∈ sent.datagrams ∧ arrival.datagram ∉ earlier.map (·.datagram)

instance (sent : Sent) (arrival : Arrival) (earlier : List Arrival) :
    Decidable (sent.New arrival earlier) := inferInstanceAs (Decidable (_ ∧ _))

/-- When the last new fragment arrived. -/
def lastNew (sent : Sent) : List Arrival → Nat
  | [] => 0
  | arrival :: earlier => if sent.New arrival earlier then arrival.now else sent.lastNew earlier

/-! ## Segments -/

/-- The pieces of the packet at their offsets. -/
def segments (sent : Sent) : List (Nat × List UInt8) :=
  packetSegments sent.packet (sent.maxDatagramLen - vpnIpDatagramHeaderLen)

/-- The datagram of a piece. -/
def datagramOf (sent : Sent) (segment : Nat × List UInt8) : List UInt8 :=
  vpnIpDatagram sent.packetId (UInt16.ofNat sent.packet.length) (UInt16.ofNat segment.1) segment.2

def fragmentOf (sent : Sent) (segment : Nat × List UInt8) : VpnFragment :=
  ⟨sent.packetId, sent.packet.length, segment.1, segment.2⟩

variable (sent : Sent)

/-- What the encoder has checked. -/
theorem checked : (∃ metadata, inspectVpnIpPacket sent.packet = .ok metadata) ∧
    vpnMinQuicDatagramLen ≤ sent.maxDatagramLen := by
  have encoded := sent.encoded
  unfold encodeVpnIpFragments at encoded
  cases inspected : inspectVpnIpPacket sent.packet with
  | error error =>
    rw [inspected] at encoded
    cases encoded
  | ok metadata =>
    rw [inspected] at encoded
    refine ⟨⟨metadata, rfl⟩, Nat.le_of_not_lt fun short => ?_⟩
    simp only [bind, Except.bind, if_pos short] at encoded
    cases encoded

theorem datagrams_eq : sent.datagrams = sent.segments.map sent.datagramOf := by
  obtain ⟨⟨metadata, accepted⟩, legal⟩ := sent.checked
  have encoded := sent.encoded
  rw [encodeVpnIpFragments_eq sent.packetId accepted legal] at encoded
  exact (Except.ok.inj encoded).symm

theorem packet_small : 0 < sent.packet.length ∧ sent.packet.length ≤ vpnMaxIpPacketLen := by
  obtain ⟨⟨metadata, accepted⟩, -⟩ := sent.checked
  exact inspectVpnIpPacket_bounds accepted

theorem capacity_wide : 1024 ≤ sent.maxDatagramLen - vpnIpDatagramHeaderLen := by
  have legal : 1036 ≤ sent.maxDatagramLen := sent.checked.2
  simp only [vpnIpDatagramHeaderLen]
  omega

theorem separated : Separated sent.packet.length 0 sent.segments :=
  packetSegments_separated (by have := sent.capacity_wide; omega)

theorem segments_total : total sent.segments = sent.packet.length :=
  packetSegments_total (by have := sent.capacity_wide; omega)

theorem segments_joined : joined sent.segments = sent.packet :=
  (packetSegments_spec sent.packet (by have := sent.capacity_wide; omega)).2.1

theorem segments_length_le : sent.segments.length ≤ vpnMaxFragmentsPerPacket :=
  packetSegments_length_le sent.packet_small.2 sent.capacity_wide

theorem segments_sorted : sent.segments.Pairwise fun a b => a.1 < b.1 := by
  have filled : ∀ segment ∈ sent.segments, 0 < segment.2.length := fun segment member =>
    List.length_pos_iff.mpr (sent.separated.mem member).2.1
  refine sent.separated.pairwise.imp_of_mem fun {a b} isA isB below => ?_
  have := filled a isA
  omega

theorem eq_of_offset {a b : Nat × List UInt8} (isA : a ∈ sent.segments)
    (isB : b ∈ sent.segments) (same : a.1 = b.1) : a = b := by
  have offsets : (sent.segments.map Prod.fst).Nodup :=
    List.pairwise_map.mpr (sent.segments_sorted.imp Nat.ne_of_lt)
  exact List.inj_on_of_nodup_map offsets isA isB same

variable {segment : Nat × List UInt8} {sent} {arrivals : List Arrival}

/-- The decoder reads the piece back. -/
theorem decode_datagramOf (sent : Sent) (member : segment ∈ sent.segments) :
    decodeVpnIpFragment (sent.datagramOf segment) = .ok (sent.fragmentOf segment) := by
  obtain ⟨-, filled, inside⟩ := sent.separated.mem member
  have small := sent.packet_small.2
  simp only [vpnMaxIpPacketLen] at small
  have length : (UInt16.ofNat sent.packet.length).toNat = sent.packet.length :=
    UInt16.toNat_ofNat_of_lt' (by simp only [UInt16.size]; omega)
  have offset : (UInt16.ofNat segment.1).toNat = segment.1 :=
    UInt16.toNat_ofNat_of_lt' (by simp only [UInt16.size]; omega)
  have decoded : decodeVpnIpFragment (sent.datagramOf segment) = .ok ⟨sent.packetId,
      (UInt16.ofNat sent.packet.length).toNat, (UInt16.ofNat segment.1).toNat, segment.2⟩ :=
    decodeVpnIpFragment_frame sent.packetId filled (by rw [length, offset]; exact inside)
  rwa [length, offset] at decoded

theorem datagramOf_injOn (sent : Sent) {a b : Nat × List UInt8} (isA : a ∈ sent.segments)
    (isB : b ∈ sent.segments) (same : sent.datagramOf a = sent.datagramOf b) : a = b := by
  have decoded := sent.decode_datagramOf isA
  rw [same, sent.decode_datagramOf isB] at decoded
  have fragments := Except.ok.inj decoded
  exact Prod.ext (congrArg VpnFragment.offset fragments).symm
    (congrArg VpnFragment.payload fragments).symm

/-- A datagram names its packet. -/
theorem packetId_eq {other : Sent} {datagram : List UInt8} (here : datagram ∈ sent.datagrams)
    (there : datagram ∈ other.datagrams) : sent.packetId = other.packetId := by
  rw [datagrams_eq] at here there
  obtain ⟨a, isA, rfl⟩ := List.mem_map.mp here
  obtain ⟨b, isB, same⟩ := List.mem_map.mp there
  have decoded := other.decode_datagramOf isB
  rw [same, sent.decode_datagramOf isA] at decoded
  exact congrArg VpnFragment.packetId (Except.ok.inj decoded)

/-! ## What a receiver ought to hold -/

def arrivedSegments (sent : Sent) (arrivals : List Arrival) : List (Nat × List UInt8) :=
  sent.segments.filter fun segment => sent.datagramOf segment ∈ arrivals.map (·.datagram)

theorem mem_arrivedSegments :
    segment ∈ sent.arrivedSegments arrivals ↔
      segment ∈ sent.segments ∧ sent.datagramOf segment ∈ arrivals.map (·.datagram) := by
  simp [arrivedSegments]

theorem arrived_eq (sent : Sent) (arrivals : List Arrival) :
    sent.arrived arrivals = (sent.arrivedSegments arrivals).map sent.datagramOf := by
  rw [arrived, datagrams_eq, arrivedSegments, List.filter_map, Function.comp_def]

theorem datagramOf_length (sent : Sent) (segment : Nat × List UInt8) :
    (sent.datagramOf segment).length = vpnIpDatagramHeaderLen + segment.2.length :=
  vpnIpDatagram_length ..

theorem arrivedBytes_eq (sent : Sent) (arrivals : List Arrival) :
    sent.arrivedBytes arrivals = total (sent.arrivedSegments arrivals) := by
  rw [arrivedBytes, arrived_eq, List.map_map, total]
  apply congrArg List.sum
  apply List.map_congr_left
  intro segment member
  show (sent.datagramOf segment).length - vpnIpDatagramHeaderLen = segment.2.length
  rw [datagramOf_length, Nat.add_sub_cancel_left]

theorem arrivedSegments_sorted (sent : Sent) (arrivals : List Arrival) :
    (sent.arrivedSegments arrivals).Pairwise fun a b => a.1 < b.1 :=
  sent.segments_sorted.filter _

theorem arrivedSegments_complete (complete : sent.Complete arrivals) :
    sent.arrivedSegments arrivals = sent.segments := by
  apply List.filter_eq_self.mpr
  intro segment member
  rw [decide_eq_true_eq]
  apply complete
  rw [datagrams_eq]
  exact List.mem_map_of_mem member

/-- The packet is complete when all its bytes have arrived. -/
theorem complete_iff :
    sent.Complete arrivals ↔ total (sent.arrivedSegments arrivals) = sent.packet.length := by
  constructor
  · intro complete
    rw [arrivedSegments_complete complete, segments_total]
  · intro full datagram member
    rw [datagrams_eq] at member
    obtain ⟨segment, isSegment, rfl⟩ := List.mem_map.mp member
    by_contra missing
    have less : total (sent.arrivedSegments arrivals) < total sent.segments :=
      total_filter_lt isSegment (decide_eq_false missing) (sent.separated.mem isSegment).2.1
    rw [segments_total] at less
    exact absurd full (Nat.ne_of_lt less)

/-- The partial packet of what has arrived. -/
def heldOf (sent : Sent) (arrivals : List Arrival) : PartialPacket where
  totalLen := sent.packet.length
  fragments := ⟨sent.arrivedSegments arrivals, sent.arrivedSegments_sorted arrivals⟩
  receivedBytes := total (sent.arrivedSegments arrivals)
  updatedAt := sent.lastNew arrivals

theorem heldOf_good (sent : Sent) (arrivals : List Arrival) : (sent.heldOf arrivals).Good where
  separated := sent.separated.filter _
  received := rfl
  small := sent.packet_small.2

theorem open_iff :
    sent.Open arrivals ↔
      sent.arrivedSegments arrivals ≠ [] ∧ ¬ sent.Complete arrivals := by
  rw [Open, arrived_eq, ne_eq, List.map_eq_nil_iff]

theorem arrivedSegments_nil (sent : Sent) : sent.arrivedSegments [] = [] := by
  simp [arrivedSegments]

theorem not_complete_nil (sent : Sent) : ¬ sent.Complete [] := by
  have positive := sent.packet_small.1
  rw [complete_iff, sent.arrivedSegments_nil, total_nil]
  omega

/-- A complete packet is assembled. -/
theorem assemble_heldOf (complete : sent.Complete arrivals) :
    (sent.heldOf arrivals).assemble = .ok sent.packet := by
  have entries : (sent.heldOf arrivals).fragments.entries = sent.segments :=
    arrivedSegments_complete complete
  obtain ⟨metadata, accepted⟩ := sent.checked.1
  rw [PartialPacket.assemble_eq (sent.heldOf_good arrivals) (complete_iff.mp complete),
    entries, sent.segments_joined, accepted]
  rfl

/-! ## One arrival -/

section Arrival

variable {sent : Sent} {arrival : Arrival} {earlier : List Arrival}

section Stale

variable (stale : ¬ sent.New arrival earlier)

include stale

/-- An arrival of another packet, or a copy of a fragment that has arrived, changes
nothing. -/
theorem arrivedSegments_stale :
    sent.arrivedSegments (arrival :: earlier) = sent.arrivedSegments earlier := by
  apply List.filter_congr
  intro segment member
  by_cases same : sent.datagramOf segment = arrival.datagram
  · have ofSent : arrival.datagram ∈ sent.datagrams := by
      rw [datagrams_eq, ← same]
      exact List.mem_map_of_mem member
    have copy : arrival.datagram ∈ earlier.map (·.datagram) := by
      by_contra missing
      exact stale ⟨ofSent, missing⟩
    simp [same, copy]
  · simp [same]

theorem lastNew_stale :
    sent.lastNew (arrival :: earlier) = sent.lastNew earlier := if_neg stale

theorem heldOf_stale :
    sent.heldOf (arrival :: earlier) = sent.heldOf earlier := by
  simp only [heldOf, arrivedSegments_stale stale, lastNew_stale stale]

theorem complete_stale :
    sent.Complete (arrival :: earlier) ↔ sent.Complete earlier := by
  rw [complete_iff, complete_iff, arrivedSegments_stale stale]

theorem open_stale :
    sent.Open (arrival :: earlier) ↔ sent.Open earlier := by
  rw [open_iff, open_iff, arrivedSegments_stale stale, complete_stale stale]

end Stale

variable {segment : Nat × List UInt8}

/-- A missing fragment is put among the others. -/
theorem heldOf_new (member : segment ∈ sent.segments)
    (carries : arrival.datagram = sent.datagramOf segment)
    (missing : arrival.datagram ∉ earlier.map (·.datagram)) {held : PartialPacket}
    (sameTotal : held.totalLen = sent.packet.length)
    (sameFragments : held.fragments.entries = sent.arrivedSegments earlier)
    (sameBytes : held.receivedBytes = total (sent.arrivedSegments earlier)) :
    sent.heldOf (arrival :: earlier) =
      held.withFragment arrival.now (sent.fragmentOf segment) := by
  have absent : segment ∉ sent.arrivedSegments earlier := by
    intro old
    rw [carries] at missing
    exact missing (mem_arrivedSegments.mp old).2
  have fresh : ∀ entry ∈ sent.arrivedSegments earlier, entry.1 ≠ segment.1 := by
    intro entry old same
    have isEntry := (mem_arrivedSegments.mp old).1
    exact absent (eq_of_offset sent isEntry member same ▸ old)
  have perm := sortedInsert_perm segment.2 fresh
  have entries : sent.arrivedSegments (arrival :: earlier) =
      sortedInsert segment.1 segment.2 (sent.arrivedSegments earlier) := by
    apply SortedMap.entries_eq_of_mem_iff (sent.arrivedSegments_sorted _)
      (sortedInsert_sorted _ _ (sent.arrivedSegments_sorted _))
    intro entry
    rw [perm.mem_iff, List.mem_cons, mem_arrivedSegments, mem_arrivedSegments, List.map_cons,
      List.mem_cons, carries]
    constructor
    · rintro ⟨isEntry, same | old⟩
      · exact .inl (sent.datagramOf_injOn isEntry member same)
      · exact .inr ⟨isEntry, old⟩
    · rintro (rfl | ⟨isEntry, old⟩)
      · exact ⟨member, .inl rfl⟩
      · exact ⟨isEntry, .inr old⟩
  have isNew : sent.New arrival earlier := by
    refine ⟨?_, missing⟩
    rw [carries, datagrams_eq]
    exact List.mem_map_of_mem member
  have bytes : total (sent.arrivedSegments (arrival :: earlier)) =
      held.receivedBytes + segment.2.length := by
    rw [entries, total_perm perm, total_cons, sameBytes, Nat.add_comm]
  have fragments : (⟨sent.arrivedSegments (arrival :: earlier),
      sent.arrivedSegments_sorted _⟩ : SortedMap (List UInt8)) =
      held.fragments.insert segment.1 segment.2 := by
    apply SortedMap.ext
    rw [SortedMap.insert_entries, sameFragments]
    exact entries
  simp only [heldOf, PartialPacket.withFragment, fragmentOf, sameTotal, bytes, fragments, lastNew,
    if_pos isNew]

/-- **A receiver that holds what has arrived takes the next fragment**: a copy as a
duplicate, a missing one among the others. -/
theorem absorb_eq (member : segment ∈ sent.segments)
    (carries : arrival.datagram = sent.datagramOf segment) {held : PartialPacket}
    (holds : held = sent.heldOf earlier ∨ (sent.arrivedSegments earlier = [] ∧
      held = PartialPacket.new sent.packet.length arrival.now)) :
    held.absorb arrival.now (sent.fragmentOf segment) =
      .ok (sent.heldOf (arrival :: earlier),
        decide (arrival.datagram ∈ earlier.map (·.datagram))) := by
  have sameTotal : held.totalLen = sent.packet.length := by
    rcases holds with rfl | ⟨-, rfl⟩ <;> rfl
  have sameFragments : held.fragments.entries = sent.arrivedSegments earlier := by
    rcases holds with rfl | ⟨nothing, rfl⟩
    · rfl
    · exact nothing.symm
  have sameBytes : held.receivedBytes = total (sent.arrivedSegments earlier) := by
    rcases holds with rfl | ⟨nothing, rfl⟩
    · rfl
    · rw [nothing]; rfl
  have small := sent.packet_small.2
  obtain ⟨-, -, inside⟩ := sent.separated.mem member
  have within := (sent.heldOf_good earlier).received_le
  simp only [vpnMaxIpPacketLen] at small
  simp only [heldOf] at within
  have ends : checkedAdd usizeMax (sent.fragmentOf segment).offset
      (sent.fragmentOf segment).payload.length = some (segment.1 + segment.2.length) := by
    apply checkedAdd_eq_some
    simp only [fragmentOf, usizeMax]
    omega
  -- the stored pieces are each this one or apart from it
  have compatible : ∀ entry ∈ held.fragments.entries, entry = segment ∨
      ¬ Overlaps segment entry := by
    intro entry old
    rw [sameFragments] at old
    by_cases same : entry = segment
    · exact .inl same
    · exact .inr (sent.separated.apart member (mem_arrivedSegments.mp old).1 (Ne.symm same))
  have isCopy : segment ∈ held.fragments.entries ↔
      arrival.datagram ∈ earlier.map (·.datagram) := by
    rw [sameFragments, mem_arrivedSegments, carries]
    exact and_iff_right member
  have scan : scanFragments (sent.fragmentOf segment) (segment.1 + segment.2.length)
      held.fragments.entries = .ok (decide (arrival.datagram ∈ earlier.map (·.datagram))) :=
    (scanFragments_eq (sent.fragmentOf segment) compatible).trans
      (congrArg Except.ok (decide_eq_decide.mpr isCopy))
  have agrees : ¬ held.totalLen ≠ (sent.fragmentOf segment).totalLen := not_not_intro sameTotal
  simp only [PartialPacket.absorb, if_neg agrees, ends, scan]
  by_cases copy : arrival.datagram ∈ earlier.map (·.datagram)
  · have stored : held = sent.heldOf earlier := by
      rcases holds with same | ⟨nothing, -⟩
      · exact same
      · have old := isCopy.mpr copy
        rw [sameFragments, nothing] at old
        cases old
    rw [decide_eq_true copy, heldOf_stale (fun new => new.2 copy), stored]
  · have few : ¬ held.fragments.entries.length ≥ vpnMaxFragmentsPerPacket := by
      have count := sent.segments_length_le
      have fewer : (sent.arrivedSegments earlier).length < sent.segments.length := by
        apply List.length_filter_lt_length_iff_exists.mpr
        refine ⟨segment, member, ?_⟩
        rw [← carries]
        simpa using copy
      rw [sameFragments]
      omega
    have sum : checkedAdd usizeMax held.receivedBytes (sent.fragmentOf segment).payload.length =
        some (held.receivedBytes + segment.2.length) := by
      apply checkedAdd_eq_some
      simp only [fragmentOf, usizeMax]
      omega
    rw [decide_eq_false copy]
    simp only [if_neg few, sum]
    rw [heldOf_new member carries copy sameTotal sameFragments sameBytes]
    rfl

end Arrival

end Sent

end FlowWeave.Vpn
