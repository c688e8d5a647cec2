/-
# Vpn.RoundTrip — encoded packets come back, whatever the order of their fragments

Any number of packets are encoded and their datagrams arrive shuffled, with extra
copies, interleaved with each other. As long as the open packets fit the
reassembler's limits and no open packet waits too long, the reassembler holds
exactly `Sent.heldOf` of each open packet (`Agrees`), and so returns each packet
when its last missing fragment arrives, and nothing else.

* `paced_of_ordered` — for times in order, "does not wait too long" is that
  consecutive new fragments of a packet are less than the timeout apart.
* `fragments_roundTrip` — the encoder never fails on an accepted packet, and the
  shuffled datagrams give every packet back exactly once.
-/
import FlowWeave.Vpn.ReassemblySoundness
import FlowWeave.Vpn.Sending

namespace FlowWeave.Vpn

open Theory Theory.MachineInt VpnReassembler
open VpnReassembler (Outcome)

set_option autoImplicit false

/-! ## Schedules -/

def openPackets (family : List Sent) (arrivals : List Arrival) : List Sent :=
  family.filter fun sent => sent.Open arrivals

/-- From one new fragment of a packet to the next, no time is reached that is the
timeout later. -/
def Paced (family : List Sent) (limits : VpnReassemblyLimits) (arrivals : List Arrival) : Prop :=
  ∀ arrival earlier, (arrival :: earlier) <:+ arrivals → ∀ sent ∈ family, sent.Open earlier →
    arrival.now - sent.lastNew earlier < limits.fragmentTimeout

/-- What a sequence of arrivals keeps to, for a reassembler with these limits. -/
structure Schedule (family : List Sent) (limits : VpnReassemblyLimits)
    (arrivals : List Arrival) : Prop where
  /-- Every datagram is a fragment, or a copy of one, of a packet that still misses
  a fragment. -/
  timely : ∀ arrival earlier, (arrival :: earlier) <:+ arrivals →
    ∃ sent ∈ family, arrival.datagram ∈ sent.datagrams ∧ ¬ sent.Complete earlier
  paced : Paced family limits arrivals
  /-- The open packets fit. -/
  fits : ∀ earlier, earlier <:+ arrivals →
    (openPackets family earlier).length ≤ limits.maxInflightPackets ∧
      ((openPackets family earlier).map (·.arrivedBytes earlier)).sum ≤ limits.maxBufferedBytes

variable {limits : VpnReassemblyLimits} {family : List Sent}

theorem Schedule.earlier {arrival : Arrival} {earlier : List Arrival}
    (schedule : Schedule family limits (arrival :: earlier)) : Schedule family limits earlier where
  timely := fun other before is => schedule.timely other before (is.trans (List.suffix_cons _ _))
  paced := fun other before is => schedule.paced other before (is.trans (List.suffix_cons _ _))
  fits := fun before is => schedule.fits before (is.trans (List.suffix_cons _ _))

/-- A schedule goes on with one more arrival. -/
theorem Schedule.next {arrival : Arrival} {earlier : List Arrival}
    (schedule : Schedule family limits earlier)
    (timely : ∃ sent ∈ family, arrival.datagram ∈ sent.datagrams ∧ ¬ sent.Complete earlier)
    (paced : ∀ sent ∈ family, sent.Open earlier →
      arrival.now - sent.lastNew earlier < limits.fragmentTimeout)
    (fits : (openPackets family (arrival :: earlier)).length ≤ limits.maxInflightPackets ∧
      ((openPackets family (arrival :: earlier)).map (·.arrivedBytes (arrival :: earlier))).sum ≤
        limits.maxBufferedBytes) : Schedule family limits (arrival :: earlier) where
  timely := fun other before is => by
    rcases List.suffix_cons_iff.mp is with same | older
    · cases same
      exact timely
    · exact schedule.timely other before older
  paced := fun other before is => by
    rcases List.suffix_cons_iff.mp is with same | older
    · cases same
      exact paced
    · exact schedule.paced other before older
  fits := fun before is => by
    rcases List.suffix_cons_iff.mp is with rfl | older
    · exact fits
    · exact schedule.fits before older

/-- An open packet that is complete in the end gets a new fragment, and until then
is as it was. -/
theorem Sent.next_new {sent : Sent} (later : List Arrival) :
    ∀ {earlier : List Arrival}, sent.Open earlier → sent.Complete (later ++ earlier) →
      ∃ newer next between, later = newer ++ next :: between ∧
        sent.New next (between ++ earlier) ∧ sent.Open (between ++ earlier) ∧
        sent.lastNew (between ++ earlier) = sent.lastNew earlier := by
  -- from the oldest of the later arrivals on
  induction later using List.reverseRecOn with
  | nil => exact fun isOpen complete => absurd complete isOpen.2
  | append_singleton rest arrival ih =>
    intro earlier isOpen complete
    by_cases new : sent.New arrival earlier
    · exact ⟨rest, arrival, [], rfl, new, isOpen, rfl⟩
    · rw [List.append_assoc, List.singleton_append] at complete
      obtain ⟨newer, next, between, rfl, isNew, stillOpen, last⟩ :=
        ih ((Sent.open_stale new).mpr isOpen) complete
      refine ⟨newer, next, between ++ [arrival], by simp, ?_⟩
      rw [List.append_assoc, List.singleton_append]
      exact ⟨isNew, stillOpen, last.trans (Sent.lastNew_stale new)⟩

/-- When the times are in order, only the gaps between consecutive new fragments of
a packet matter. -/
theorem paced_of_ordered {arrivals : List Arrival}
    (ordered : arrivals.Pairwise fun later earlier => earlier.now ≤ later.now)
    (complete : ∀ sent ∈ family, sent.Complete arrivals)
    (gaps : ∀ arrival earlier, (arrival :: earlier) <:+ arrivals → ∀ sent ∈ family,
      sent.Open earlier → sent.New arrival earlier →
        arrival.now - sent.lastNew earlier < limits.fragmentTimeout) :
    Paced family limits arrivals := by
  rintro arrival earlier ⟨later, rfl⟩ sent isSent isOpen
  by_cases new : sent.New arrival earlier
  · exact gaps arrival earlier (List.suffix_append _ _) sent isSent isOpen new
  · obtain ⟨newer, next, between, rfl, isNew, stillOpen, last⟩ :=
      Sent.next_new later ((Sent.open_stale new).mpr isOpen) (complete sent isSent)
    have inTime := gaps next (between ++ arrival :: earlier)
      ⟨newer, by simp⟩ sent isSent stillOpen isNew
    rw [last, Sent.lastNew_stale new] at inTime
    have before : arrival.now ≤ next.now :=
      (List.pairwise_append.mp ordered).2.2 next (by simp) arrival List.mem_cons_self
    omega

/-! ## The table of a receiver -/

/-- The table holds the open packets, with what has arrived of them. -/
def Holds (family : List Sent) (arrivals : List Arrival) (packets : Table UInt32 PartialPacket) :
    Prop :=
  ∀ packetId held, packets.lookup packetId = some held ↔
    ∃ sent ∈ family, sent.packetId = packetId ∧ sent.Open arrivals ∧ held = sent.heldOf arrivals

section Table

variable {family : List Sent} {arrivals earlier : List Arrival} {arrival : Arrival}
  {packets : Table UInt32 PartialPacket} (distinct : (family.map (·.packetId)).Nodup)

variable {sent : Sent}

/-- The other packets are as before the arrival. -/
theorem Holds.others (holds : Holds family earlier packets)
    (ofSent : arrival.datagram ∈ sent.datagrams) {packetId : UInt32}
    (other : packetId ≠ sent.packetId) (held : PartialPacket) :
    packets.lookup packetId = some held ↔ ∃ sent ∈ family, sent.packetId = packetId ∧
      sent.Open (arrival :: earlier) ∧ held = sent.heldOf (arrival :: earlier) := by
  rw [holds packetId held]
  apply exists_congr
  intro candidate
  apply and_congr_right
  intro _
  apply and_congr_right
  rintro rfl
  have stale : ¬ candidate.New arrival earlier := fun new =>
    other (Sent.packetId_eq new.1 ofSent)
  rw [Sent.open_stale stale, Sent.heldOf_stale stale]

include distinct

theorem sent_eq {other : Sent} (isSent : sent ∈ family) (isOther : other ∈ family)
    (same : sent.packetId = other.packetId) : sent = other :=
  List.inj_on_of_nodup_map distinct isSent isOther same

/-- The entries are those of the open packets, in some order. -/
theorem Holds.entries_perm (holds : Holds family arrivals packets) :
    packets.entries.Perm ((openPackets family arrivals).map
      fun sent =>
        (⟨sent.packetId, sent.heldOf arrivals⟩ : Sigma fun _ : UInt32 => PartialPacket)) := by
  have ids : ((openPackets family arrivals).map (·.packetId)).Nodup :=
    distinct.sublist (List.filter_sublist.map _)
  apply (List.perm_ext_iff_of_nodup packets.nodupKeys.nodup ?_).mpr
  · rintro ⟨packetId, held⟩
    rw [← Table.lookup_eq_some_iff, holds packetId held, List.mem_map]
    constructor
    · rintro ⟨sent, member, rfl, isOpen, rfl⟩
      exact ⟨sent, List.mem_filter.mpr ⟨member, decide_eq_true isOpen⟩, rfl⟩
    · rintro ⟨sent, member, same⟩
      cases same
      obtain ⟨isSent, isOpen⟩ := List.mem_filter.mp member
      exact ⟨sent, isSent, rfl, of_decide_eq_true isOpen, rfl⟩
  · exact List.Nodup.of_map (fun entry => entry.1) (by rw [List.map_map]; exact ids)

theorem Holds.size_eq (holds : Holds family arrivals packets) :
    packets.size = (openPackets family arrivals).length := by
  rw [Table.size, (holds.entries_perm distinct).length_eq, List.length_map]

theorem Holds.weight_eq (holds : Holds family arrivals packets) :
    packets.weight (·.receivedBytes) =
      ((openPackets family arrivals).map (·.arrivedBytes arrivals)).sum := by
  rw [Table.weight, ((holds.entries_perm distinct).map _).sum_eq, List.map_map]
  apply congrArg List.sum
  apply List.map_congr_left
  intro sent member
  exact (sent.arrivedBytes_eq arrivals).symm

/-- The packet of the arrival is still open: it is stored again. -/
theorem Holds.stored (holds : Holds family earlier packets) (isSent : sent ∈ family)
    (ofSent : arrival.datagram ∈ sent.datagrams) (isOpen : sent.Open (arrival :: earlier)) :
    Holds family (arrival :: earlier)
      ((packets.erase sent.packetId).insert sent.packetId (sent.heldOf (arrival :: earlier))) := by
  intro packetId held
  by_cases here : packetId = sent.packetId
  · subst here
    rw [AList.lookup_insert, Option.some_inj]
    constructor
    · rintro rfl
      exact ⟨sent, isSent, rfl, isOpen, rfl⟩
    · rintro ⟨other, isOther, same, -, rfl⟩
      rw [sent_eq distinct isOther isSent same]
  · rw [AList.lookup_insert_ne here, AList.lookup_erase_ne here]
    exact holds.others ofSent here held

/-- The packet of the arrival is complete: it is gone. -/
theorem Holds.completed (holds : Holds family earlier packets) (isSent : sent ∈ family)
    (ofSent : arrival.datagram ∈ sent.datagrams) (complete : sent.Complete (arrival :: earlier)) :
    Holds family (arrival :: earlier) (packets.erase sent.packetId) := by
  intro packetId held
  by_cases here : packetId = sent.packetId
  · subst here
    rw [AList.lookup_erase]
    refine ⟨(fun found => nomatch found), ?_⟩
    rintro ⟨other, isOther, same, isOpen, -⟩
    rw [sent_eq distinct isOther isSent same] at isOpen
    exact absurd complete isOpen.2
  · rw [AList.lookup_erase_ne here]
    exact holds.others ofSent here held

end Table

/-! ## One arrival at a reassembler -/

/-- The reassembler holds the open packets and has dropped none. -/
structure Agrees (family : List Sent) (limits : VpnReassemblyLimits) (arrivals : List Arrival)
    (state : VpnReassembler) : Prop where
  good : state.Good
  limits_eq : state.limits = limits
  holds : Holds family arrivals state.packets
  evicted : state.stats.packetsEvicted = 0
  expired : state.stats.packetsExpired = 0

namespace Agrees

variable {family : List Sent} {limits : VpnReassemblyLimits} {earlier : List Arrival}
  {arrival : Arrival} {self : VpnReassembler}

theorem rehash {after : VpnReassembler} (agrees : Agrees family limits earlier self)
    (rehash : self.Rehash after) : Agrees family limits earlier after where
  good := rehash.good agrees.good
  limits_eq := rehash.limits_eq.trans agrees.limits_eq
  holds := fun packetId held => by
    rw [← rehash.packets.lookup_eq]
    exact agrees.holds packetId held
  evicted := by rw [rehash.rest]; exact agrees.evicted
  expired := by rw [rehash.rest]; exact agrees.expired

theorem fresh (agrees : Agrees family limits earlier self)
    (schedule : Schedule family limits (arrival :: earlier)) : self.Fresh arrival.now := by
  intro packetId held found
  obtain ⟨sent, isSent, -, isOpen, rfl⟩ := (agrees.holds packetId held).mp found
  rw [agrees.limits_eq]
  exact schedule.paced arrival earlier List.suffix_rfl sent isSent isOpen

/-- The partial packet that an arrival goes to. -/
theorem partialFor (agrees : Agrees family limits earlier self) {sent : Sent}
    (isSent : sent ∈ family) (missing : ¬ sent.Complete earlier) (segment : Nat × List UInt8)
    (distinct : (family.map (·.packetId)).Nodup) :
    self.partialFor arrival.now (sent.fragmentOf segment) = sent.heldOf earlier ∨
      (sent.arrivedSegments earlier = [] ∧
        self.partialFor arrival.now (sent.fragmentOf segment) =
          PartialPacket.new sent.packet.length arrival.now) := by
  unfold VpnReassembler.partialFor
  cases found : self.packets.lookup (sent.fragmentOf segment).packetId with
  | some held =>
    obtain ⟨other, isOther, same, -, rfl⟩ := (agrees.holds _ held).mp found
    rw [sent_eq distinct isOther isSent same]
    exact .inl rfl
  | none =>
    refine .inr ⟨?_, rfl⟩
    by_contra some_
    have isOpen : sent.Open earlier := Sent.open_iff.mpr ⟨some_, missing⟩
    have stored := (agrees.holds _ _).mpr ⟨sent, isSent, rfl, isOpen, rfl⟩
    rw [show sent.packetId = (sent.fragmentOf segment).packetId from rfl, found] at stored
    cases stored

end Agrees

variable {arrival : Arrival} {limits : VpnReassemblyLimits} {earlier : List Arrival}
  {family : List Sent} {self : VpnReassembler}

/-- What an arrival gives, and the table it leaves but for evictions. -/
theorem Agrees.outcome {mid after : VpnReassembler}
    {result : Except VpnPacketError (Option (List UInt8))}
    (agrees : Agrees family limits earlier mid) (distinct : (family.map (·.packetId)).Nodup)
    {sent : Sent} (isSent : sent ∈ family) (ofSent : arrival.datagram ∈ sent.datagrams)
    (missing : ¬ sent.Complete earlier)
    (fits : (openPackets family (arrival :: earlier)).length ≤ limits.maxInflightPackets ∧
      ((openPackets family (arrival :: earlier)).map (·.arrivedBytes (arrival :: earlier))).sum ≤
        limits.maxBufferedBytes) (outcome : Outcome mid arrival.now arrival.datagram result after) :
    result = .ok (if sent.Complete (arrival :: earlier) then some sent.packet else none) ∧
      Holds family (arrival :: earlier) after.packets ∧
      after.stats.packetsEvicted = 0 ∧ after.stats.packetsExpired = 0 := by
  rw [Sent.datagrams_eq] at ofSent
  obtain ⟨segment, isSegment, carries⟩ := List.mem_map.mp ofSent
  have decoded : decodeVpnIpFragment arrival.datagram = .ok (sent.fragmentOf segment) := by
    rw [← carries]
    exact sent.decode_datagramOf isSegment
  have absorbed := Sent.absorb_eq isSegment carries.symm
    (agrees.partialFor isSent missing segment distinct)
  have ofSent : arrival.datagram ∈ sent.datagrams := by rwa [Sent.datagrams_eq]
  generalize decide (arrival.datagram ∈ earlier.map (·.datagram)) = copy at absorbed
  -- the state without the packet of the arrival
  set taken := (mid.removePacket sent.packetId).countDuplicate copy with takenDef
  have takenPackets : taken.packets = mid.packets.erase sent.packetId := by
    rw [takenDef]
    cases copy <;> exact removePacket_packets _ _
  have takenStats : taken.stats.packetsEvicted = 0 ∧ taken.stats.packetsExpired = 0 := by
    rw [takenDef]
    cases copy <;> simp [countDuplicate, agrees.evicted, agrees.expired]
  cases outcome with
  | undecoded failed =>
    rw [decoded] at failed
    cases failed
  | refused decoded' refuses =>
    rw [decoded] at decoded'
    cases decoded'
    rw [absorbed] at refuses
    cases refuses
  | malformed decoded' absorbed' complete assembled =>
    rw [decoded] at decoded'
    cases decoded'
    rw [absorbed] at absorbed'
    cases absorbed'
    rw [Sent.assemble_heldOf (Sent.complete_iff.mpr complete)] at assembled
    cases assembled
  | completed decoded' absorbed' complete assembled =>
    rw [decoded] at decoded'
    cases decoded'
    rw [absorbed] at absorbed'
    cases absorbed'
    have isComplete := Sent.complete_iff.mpr complete
    rw [Sent.assemble_heldOf isComplete] at assembled
    cases assembled
    refine ⟨by rw [if_pos isComplete], ?_, takenStats⟩
    show Holds family (arrival :: earlier) taken.packets
    rw [takenPackets]
    exact agrees.holds.completed distinct isSent ofSent isComplete
  | stored decoded' absorbed' misses =>
    rw [decoded] at decoded'
    cases decoded'
    rw [absorbed] at absorbed'
    cases absorbed'
    have incomplete : ¬ sent.Complete (arrival :: earlier) := fun complete =>
      misses (Sent.complete_iff.mp complete)
    have isOpen : sent.Open (arrival :: earlier) := by
      refine Sent.open_iff.mpr ⟨List.ne_nil_of_mem (Sent.mem_arrivedSegments.mpr
        ⟨isSegment, ?_⟩), incomplete⟩
      rw [carries]
      exact List.mem_cons_self
    have holds := agrees.holds.stored distinct isSent ofSent isOpen
    rw [← takenPackets] at holds
    -- there is room for the packet, so nothing is evicted for it
    have absent : taken.packets.lookup sent.packetId = none := by
      rw [takenPackets, AList.lookup_erase]
    have takenGood : taken.Good :=
      (countDuplicate_prunes _ copy).good (agrees.good.removePacket _)
    have takenLimits : taken.limits = limits := by
      rw [takenDef, (countDuplicate_prunes _ copy).limits_eq,
        removePacket_limits, agrees.limits_eq]
    have size := holds.size_eq distinct
    have weight := holds.weight_eq distinct
    rw [Table.size_insert_of_absent absent] at size
    rw [Table.weight_insert_of_absent _ absent, ← takenGood.bytes] at weight
    have room : ((mid.removePacket (sent.fragmentOf segment).packetId).countDuplicate
        copy).makeRoom (sent.heldOf (arrival :: earlier)).receivedBytes = taken := by
      apply makeRoom_eq_self
      · show taken.packets.size < taken.limits.maxInflightPackets
        rw [takenLimits]
        omega
      · show taken.bufferedBytes + _ ≤ taken.limits.maxBufferedBytes
        rw [takenLimits, weight]
        exact fits.2
    rw [room]
    exact ⟨by rw [if_neg incomplete], holds, takenStats⟩

/-- Nothing expires when an arrival comes in time. -/
theorem Agrees.expires (agrees : Agrees family limits earlier self)
    (schedule : Schedule family limits (arrival :: earlier)) :
    Agrees family limits earlier (self.expired arrival.now) := by
  have fresh := agrees.fresh schedule
  have prunes := VpnReassembler.expired_prunes self arrival.now
  have nothing : self.countReceived.expiredIds arrival.now = [] :=
    VpnReassembler.Fresh.expiredIds fresh
  refine { good := prunes.good agrees.good, limits_eq := prunes.limits_eq.trans agrees.limits_eq,
           holds := ?_, evicted := ?_, expired := ?_ }
  · rw [fresh.expired.1]
    exact agrees.holds
  · simp only [VpnReassembler.expired, VpnReassembler.expire, nothing, List.foldl_nil]
    exact agrees.evicted
  · have zero : saturatingAdd u64Max self.stats.packetsExpired 0 = 0 := by
      rw [agrees.expired]
      rfl
    simp only [VpnReassembler.expired, VpnReassembler.expire, nothing, List.foldl_nil,
      List.length_nil]
    exact zero

/-- **One arrival** gives its packet when it brings the last missing fragment, and
nothing otherwise. -/
theorem Agrees.ingest (agrees : Agrees family limits earlier self)
    (distinct : (family.map (·.packetId)).Nodup)
    (schedule : Schedule family limits (arrival :: earlier)) :
    Agrees family limits (arrival :: earlier) (self.ingest arrival.now arrival.datagram).2 ∧
      ∀ sent ∈ family, arrival.datagram ∈ sent.datagrams →
        ¬ sent.Complete earlier ∧ (self.ingest arrival.now arrival.datagram).1 =
          .ok (if sent.Complete (arrival :: earlier) then some sent.packet else none) := by
  obtain ⟨sent, isSent, ofSent, missing⟩ := schedule.timely arrival earlier List.suffix_rfl
  obtain ⟨after, outcome, recorded⟩ :=
    ingest_outcome self arrival.now arrival.datagram
  have fits := schedule.fits (arrival :: earlier) List.suffix_rfl
  obtain ⟨result, holds, evicted, expired⟩ :=
    (agrees.expires schedule).outcome distinct isSent ofSent missing fits outcome
  constructor
  · have bookkeeping : (self.ingest arrival.now arrival.datagram).2.packets = after.packets ∧
        (self.ingest arrival.now arrival.datagram).2.stats.packetsEvicted =
          after.stats.packetsEvicted ∧
        (self.ingest arrival.now arrival.datagram).2.stats.packetsExpired =
          after.stats.packetsExpired := by
      rw [recorded, result]
      split <;> exact ⟨rfl, rfl, rfl⟩
    exact {
      good := ingest_good agrees.good _ _
      limits_eq := (ingest_limits _ _ _).trans agrees.limits_eq
      holds := bookkeeping.1 ▸ holds
      evicted := bookkeeping.2.1.trans evicted
      expired := bookkeeping.2.2.trans expired }
  · intro other isOther ofOther
    rw [sent_eq distinct isOther isSent (Sent.packetId_eq ofOther ofSent)]
    exact ⟨missing, result⟩

/-! ## Whole runs -/

/-- A reassembler is fed arrivals, each with its result, newest first; its table may
change its order in between. -/
inductive Feeds (first : VpnReassembler) :
    List (Arrival × Except VpnPacketError (Option (List UInt8))) → VpnReassembler → Prop
  | start : Feeds first [] first
  | next {log : List (Arrival × Except VpnPacketError (Option (List UInt8)))}
      {self ready : VpnReassembler} (earlier : Feeds first log self) (rehash : self.Rehash ready)
      (arrival : Arrival) :
      Feeds first ((arrival, (ready.ingest arrival.now arrival.datagram).1) :: log)
        (ready.ingest arrival.now arrival.datagram).2

/-- The results that return a packet at one of its datagrams. -/
def deliveries (sent : Sent)
    (log : List (Arrival × Except VpnPacketError (Option (List UInt8)))) : Nat :=
  log.countP fun entry =>
    entry.1.datagram ∈ sent.datagrams ∧ entry.2 = .ok (some sent.packet)

/-- What a run has returned so far. -/
structure Delivered (family : List Sent)
    (log : List (Arrival × Except VpnPacketError (Option (List UInt8)))) : Prop where
  exactly : ∀ sent ∈ family, ∀ arrival result earlier, ((arrival, result) :: earlier) <:+ log →
    arrival.datagram ∈ sent.datagrams →
    result = .ok (if sent.Complete (arrival :: earlier.map (·.1)) then some sent.packet else none)
  once : ∀ sent ∈ family,
    deliveries sent log = if sent.Complete (log.map (·.1)) then 1 else 0

theorem Agrees.start {first : VpnReassembler} (built : new limits = .ok first) :
    Agrees family limits [] first := by
  obtain ⟨good, limits_eq⟩ := new_good built
  have stats := new_stats built
  refine { good := good, limits_eq := limits_eq, holds := fun packetId held => ?_,
           evicted := by rw [stats]; rfl, expired := by rw [stats]; rfl }
  rw [(new_empty built).1, AList.lookup_empty]
  refine ⟨(fun found => nomatch found), ?_⟩
  rintro ⟨sent, -, -, isOpen, -⟩
  exact absurd sent.arrivedSegments_nil (Sent.open_iff.mp isOpen).1

theorem Delivered.start (family : List Sent) : Delivered family [] where
  exactly := fun sent _ arrival result earlier is => by
    have := List.suffix_nil.mp is
    cases this
  once := fun sent _ => (if_neg sent.not_complete_nil).symm

theorem Delivered.next {result : Except VpnPacketError (Option (List UInt8))}
    {log : List (Arrival × Except VpnPacketError (Option (List UInt8)))}
    (delivered : Delivered family log)
    (gives : ∀ sent ∈ family, arrival.datagram ∈ sent.datagrams →
      ¬ sent.Complete (log.map (·.1)) ∧
        result =
          .ok (if sent.Complete (arrival :: log.map (·.1)) then some sent.packet else none)) :
    Delivered family ((arrival, result) :: log) where
  exactly := by
    intro sent isSent other given earlier is ofSent
    rcases List.suffix_cons_iff.mp is with same | older
    · cases same
      exact (gives sent isSent ofSent).2
    · exact delivered.exactly sent isSent other given earlier older ofSent
  once := by
    intro sent isSent
    have before := delivered.once sent isSent
    unfold deliveries at before ⊢
    rw [List.countP_cons, before, List.map_cons]
    by_cases ofSent : arrival.datagram ∈ sent.datagrams
    · obtain ⟨missing, rfl⟩ := gives sent isSent ofSent
      rw [if_neg missing]
      by_cases complete : sent.Complete (arrival :: log.map (·.1))
      · simp [ofSent, complete]
      · simp [complete]
    · rw [if_congr (Sent.complete_stale fun new => ofSent new.1) rfl rfl]
      simp [ofSent]

theorem Feeds.agrees {first : VpnReassembler}
    {log : List (Arrival × Except VpnPacketError (Option (List UInt8)))}
    (built : new limits = .ok first) (distinct : (family.map (·.packetId)).Nodup)
    (feeds : Feeds first log self) (schedule : Schedule family limits (log.map (·.1))) :
    Agrees family limits (log.map (·.1)) self ∧ Delivered family log := by
  induction feeds with
  | start => exact ⟨.start built, .start family⟩
  | @next log self ready earlier rehash arrival ih =>
    obtain ⟨agrees, delivered⟩ := ih schedule.earlier
    obtain ⟨after, gives⟩ := (agrees.rehash rehash).ingest distinct schedule
    exact ⟨after, delivered.next gives⟩

theorem Sent.datagram_length_le (sent : Sent) :
    ∀ datagram ∈ sent.datagrams, datagram.length ≤ sent.maxDatagramLen := by
  have wide := sent.capacity_wide
  rw [sent.datagrams_eq]
  intro datagram member
  obtain ⟨segment, isSegment, rfl⟩ := List.mem_map.mp member
  have narrow := ((packetSegments_spec sent.packet (by omega)).2.2 segment isSegment).2
  rw [sent.datagramOf_length]
  omega

/-- **FWI1 round trip.** The encoder takes every IP packet, in at most 64 datagrams of
the given size. Datagrams of any packets with distinct ids, shuffled, copied and
interleaved, give each packet back once, when its last missing fragment arrives;
nothing is evicted or expires, and nothing is left. And when the times are in order,
it is enough for `Paced` that consecutive new fragments of a packet are less than
the timeout apart. -/
theorem fragments_roundTrip :
    (∀ packetId packet metadata maxDatagramLen, inspectVpnIpPacket packet = .ok metadata →
      vpnMinQuicDatagramLen ≤ maxDatagramLen →
      ∃ datagrams, encodeVpnIpFragments packetId packet maxDatagramLen = .ok datagrams ∧
        datagrams.length ≤ 64 ∧ ∀ datagram ∈ datagrams, datagram.length ≤ maxDatagramLen) ∧
    (∀ (limits : VpnReassemblyLimits) (first self : VpnReassembler) (family : List Sent)
      (log : List (Arrival × Except VpnPacketError (Option (List UInt8)))),
      VpnReassembler.new limits = .ok first →
      (family.map (·.packetId)).Nodup →
      Feeds first log self →
      (∀ sent ∈ family, sent.Complete (log.map (·.1))) →
      Schedule family limits (log.map (·.1)) →
      (∀ entry ∈ log, ∀ error, entry.2 ≠ .error error) ∧
        (∀ sent ∈ family, ∀ arrival result earlier, ((arrival, result) :: earlier) <:+ log →
          arrival.datagram ∈ sent.datagrams →
          result = .ok (if sent.Complete (arrival :: earlier.map (·.1)) then some sent.packet
            else none)) ∧
        (∀ sent ∈ family, deliveries sent log = 1) ∧
        self.stats.packetsEvicted = 0 ∧ self.stats.packetsExpired = 0 ∧
        self.inflightPackets = 0 ∧ self.bufferedBytes = 0) ∧
    ∀ (limits : VpnReassemblyLimits) (family : List Sent) (arrivals : List Arrival),
      arrivals.Pairwise (fun later earlier => earlier.now ≤ later.now) →
      (∀ sent ∈ family, sent.Complete arrivals) →
      (∀ arrival earlier, (arrival :: earlier) <:+ arrivals → ∀ sent ∈ family,
        sent.Open earlier → sent.New arrival earlier →
          arrival.now - sent.lastNew earlier < limits.fragmentTimeout) →
      Paced family limits arrivals := by
  refine ⟨?_, ?_, fun _ _ _ ordered complete gaps => paced_of_ordered ordered complete gaps⟩
  · intro packetId packet metadata maxDatagramLen accepted legal
    have encoded := encodeVpnIpFragments_eq packetId accepted legal
    let sent : Sent := ⟨packetId, packet, maxDatagramLen, _, encoded⟩
    refine ⟨_, encoded, ?_, sent.datagram_length_le⟩
    show sent.datagrams.length ≤ 64
    rw [sent.datagrams_eq, List.length_map]
    exact sent.segments_length_le
  · intro limits first self family log built distinct feeds complete schedule
    obtain ⟨agrees, delivered⟩ := feeds.agrees built distinct schedule
    have nothing : openPackets family (log.map (·.1)) = [] := by
      apply List.filter_eq_nil_iff.mpr
      intro sent isSent isOpen
      exact (of_decide_eq_true isOpen).2 (complete sent isSent)
    have size := agrees.holds.size_eq distinct
    have weight := agrees.holds.weight_eq distinct
    rw [nothing] at size weight
    refine ⟨?_, delivered.exactly, ?_, agrees.evicted, agrees.expired, size,
      agrees.good.bytes.trans weight⟩
    · rintro ⟨arrival, result⟩ member error failed
      obtain ⟨later, earlier, rfl⟩ := List.append_of_mem member
      have is := List.suffix_append later ((arrival, result) :: earlier)
      obtain ⟨sent, isSent, ofSent, -⟩ := schedule.timely arrival _ (is.map Prod.fst)
      rw [delivered.exactly sent isSent arrival result earlier is ofSent] at failed
      cases failed
    · intro sent isSent
      rw [delivered.once sent isSent, if_pos (complete sent isSent)]

/-! An IPv4 packet of 1100 bytes, in two datagrams of at most 1036 bytes. -/

def exampleLong : List UInt8 :=
  [0x45, 0, 0x04, 0x4c, 0, 0, 0, 0, 64, 17, 0, 0, 10, 66, 0, 2, 10, 66, 0, 1] ++
    List.replicate 1080 5

def exampleFirst : List UInt8 :=
  [0x46, 0x57, 0x49, 0x31, 0, 0, 0, 9, 0x04, 0x4c, 0, 0] ++ exampleLong.take 1024

def exampleRest : List UInt8 :=
  [0x46, 0x57, 0x49, 0x31, 0, 0, 0, 9, 0x04, 0x4c, 0x04, 0] ++ exampleLong.drop 1024

def exampleSent : Sent :=
  ⟨9, exampleLong, 1036, [exampleFirst, exampleRest], by decide +kernel⟩

/-- The second datagram, a copy of it, and the first one; newest first. -/
def exampleArrivals : List Arrival :=
  [⟨3, exampleFirst⟩, ⟨2, exampleRest⟩, ⟨1, exampleRest⟩]

theorem exampleArrivals_schedule :
    Schedule [exampleSent] VpnReassemblyLimits.default exampleArrivals := by
  have nothing : Schedule [exampleSent] VpnReassemblyLimits.default [] :=
    { timely := fun _ _ is => nomatch List.suffix_nil.mp is
      paced := fun _ _ is => nomatch List.suffix_nil.mp is
      fits := fun earlier is => by
        rw [List.suffix_nil.mp is]
        decide +kernel }
  apply ((nothing.next ?_ ?_ ?_).next ?_ ?_ ?_).next <;> decide +kernel

theorem fragments_roundTrip_example :
    ∃ log self, log.map (·.1) = exampleArrivals ∧ Feeds exampleEmpty log self ∧
      deliveries exampleSent log = 1 ∧ self.bufferedBytes = 0 := by
  have feeds := ((Feeds.start.next (.refl exampleEmpty) ⟨1, exampleRest⟩).next (.refl _)
    ⟨2, exampleRest⟩).next (.refl _) ⟨3, exampleFirst⟩
  obtain ⟨-, -, once, -, -, -, noBytes⟩ := fragments_roundTrip.2.1 VpnReassemblyLimits.default
    exampleEmpty _ [exampleSent] _ rfl (List.nodup_singleton _) feeds (by decide +kernel)
    exampleArrivals_schedule
  exact ⟨_, _, rfl, feeds, once exampleSent List.mem_cons_self, noBytes⟩

end FlowWeave.Vpn
