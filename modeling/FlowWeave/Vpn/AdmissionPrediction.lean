/-
# Vpn.AdmissionPrediction — the admission predictor and the reassembler

Before a datagram is given to `ingest`, `additional_buffered_bytes` and
`fragment_will_complete` say what it will add. They walk over the stored fragments with
code of their own; `additionalBufferedBytes_eq` says that the walks agree. What `ingest`
then does to the table is said by `Dropped`, `Unchanged` and `Buffered`.

* `prediction_agrees` — in every reachable state where nothing expires, what they say of
  a fragment is what `ingest` does with it.
-/
import FlowWeave.Vpn.ReassemblerRuns

namespace FlowWeave.Vpn

open Theory Theory.Segments PartialPacket

set_option autoImplicit false

namespace VpnReassembler

/-! ## The prediction and the partial packet -/

variable {self : VpnReassembler} {fragment : VpnFragment}

/-- **One classification.** The walk of `additional_buffered_bytes` over the stored
fragments and that of `ingest_inner` come to the same answer. -/
theorem additionalBufferedBytes_eq (good : self.Good) (wellFormed : fragment.WellFormed)
    (now : Nat) :
    self.additionalBufferedBytes fragment =
      ((self.partialFor now fragment).absorb now fragment).map
        fun absorbed => if absorbed.2 then 0 else fragment.payload.length := by
  cases absorbed : (self.partialFor now fragment).absorb now fragment with
  | ok pair => exact additionalBufferedBytes_of_absorb absorbed
  | error error =>
    have refuses := PartialPacket.absorb_error (good.partialFor now wellFormed) wellFormed absorbed
    unfold partialFor at absorbed
    unfold additionalBufferedBytes
    cases found : self.packets.lookup fragment.packetId with
    | none =>
      -- a new partial packet has nothing to refuse the fragment for
      rw [found, Option.getD_none] at absorbed
      simp only [PartialPacket.absorb, PartialPacket.new, ne_eq, not_true_eq_false, if_false,
        SortedMap.empty, scanFragments, vpnMaxFragmentsPerPacket, List.length_nil, ge_iff_le,
        Nat.le_zero_eq, OfNat.ofNat_ne_zero] at absorbed
      repeat' split at absorbed
      all_goals cases absorbed
      all_goals cases refuses
    | some held =>
      rw [found, Option.getD_some] at absorbed
      unfold PartialPacket.absorb at absorbed
      split at absorbed
      · rename_i changed
        cases absorbed
        simp only [if_pos changed]
        rfl
      · rename_i sameTotal
        simp only [if_neg sameTotal]
        split at absorbed
        · cases absorbed
          cases refuses
        · split at absorbed
          · cases absorbed
            rfl
          · cases absorbed
          · split at absorbed
            · rename_i many
              cases absorbed
              simp only [if_pos many]
              rfl
            · split at absorbed <;> cases absorbed
              cases refuses

/-! ## What happens to the table -/

/-- The states differ in the other statistics only. -/
structure SameBuffers (before after : VpnReassembler) : Prop where
  limits : after.limits = before.limits
  packets : after.packets = before.packets
  bytes : after.bufferedBytes = before.bufferedBytes
  evictions : after.stats.packetsEvicted = before.stats.packetsEvicted

/-- One packet and its bytes are gone, if it was there; nothing was evicted. -/
structure Dropped (before after : VpnReassembler) (packetId : UInt32) : Prop where
  limits : after.limits = before.limits
  packets : after.packets = before.packets.erase packetId
  bytes : after.bufferedBytes + before.receivedBytesOf packetId = before.bufferedBytes
  evictions : after.stats.packetsEvicted = before.stats.packetsEvicted

/-- The same packets; a hash table has no order. -/
structure Unchanged (before after : VpnReassembler) : Prop where
  limits : after.limits = before.limits
  packets : Table.Rehash before.packets after.packets
  bytes : after.bufferedBytes = before.bufferedBytes
  evictions : after.stats.packetsEvicted = before.stats.packetsEvicted

/-- The packets of `evicted` are gone, and their bytes. -/
structure Evicted (before after : VpnReassembler) (evicted : List UInt32) : Prop where
  limits : after.limits = before.limits
  distinct : evicted.Nodup
  present : ∀ packetId ∈ evicted, before.containsPacket packetId = true
  packets : ∀ packetId, after.packets.lookup packetId =
    if packetId ∈ evicted then none else before.packets.lookup packetId
  bytes : after.bufferedBytes + (evicted.map before.receivedBytesOf).sum = before.bufferedBytes
  count : after.packets.size + evicted.length = before.packets.size

/-- A packet has the given bytes more. It is new if it was not there, and the packets of
`evicted`, which are others, are gone. -/
structure Buffered (before after : VpnReassembler) (packetId : UInt32) (additional : Nat)
    (evicted : List UInt32) : Prop where
  limits : after.limits = before.limits
  distinct : evicted.Nodup
  present : ∀ other ∈ evicted, other ≠ packetId ∧ before.containsPacket other = true
  others : ∀ other, other ≠ packetId → after.packets.lookup other =
    if other ∈ evicted then none else before.packets.lookup other
  stored : after.containsPacket packetId = true
  received : after.receivedBytesOf packetId = before.receivedBytesOf packetId + additional
  bytes : after.bufferedBytes + (evicted.map before.receivedBytesOf).sum =
    before.bufferedBytes + additional
  count : after.packets.size + evicted.length =
    before.packets.size + if before.containsPacket packetId then 0 else 1

section Transfer

variable {before before' after after' : VpnReassembler} {packetId : UInt32}

theorem SameBuffers.receivedBytesOf (same : SameBuffers before after) :
    after.receivedBytesOf = before.receivedBytesOf := by
  funext packetId
  rw [VpnReassembler.receivedBytesOf, VpnReassembler.receivedBytesOf, same.packets]

theorem SameBuffers.containsPacket (same : SameBuffers before after) :
    after.containsPacket = before.containsPacket := by
  funext packetId
  rw [VpnReassembler.containsPacket, VpnReassembler.containsPacket, same.packets]

theorem Dropped.congr (dropped : Dropped before after packetId) (same : SameBuffers before' before)
    (same' : SameBuffers after after') : Dropped before' after' packetId where
  limits := by rw [same'.limits, dropped.limits, same.limits]
  packets := by rw [same'.packets, dropped.packets, same.packets]
  bytes := by rw [same'.bytes, ← same.receivedBytesOf, dropped.bytes, same.bytes]
  evictions := by rw [same'.evictions, dropped.evictions, same.evictions]

theorem Unchanged.congr (unchanged : Unchanged before after) (same : SameBuffers before' before)
    (same' : SameBuffers after after') : Unchanged before' after' where
  limits := by rw [same'.limits, unchanged.limits, same.limits]
  packets := by rw [same'.packets, ← same.packets]; exact unchanged.packets
  bytes := by rw [same'.bytes, unchanged.bytes, same.bytes]
  evictions := by rw [same'.evictions, unchanged.evictions, same.evictions]

theorem Buffered.congr {additional : Nat} {evicted : List UInt32}
    (buffered : Buffered before after packetId additional evicted)
    (same : SameBuffers before' before) (same' : SameBuffers after after') :
    Buffered before' after' packetId additional evicted where
  limits := by rw [same'.limits, buffered.limits, same.limits]
  distinct := buffered.distinct
  present := by rw [← same.containsPacket]; exact buffered.present
  others := by rw [same'.packets, ← same.packets]; exact buffered.others
  stored := by rw [same'.containsPacket]; exact buffered.stored
  received := by rw [same'.receivedBytesOf, buffered.received, same.receivedBytesOf]
  bytes := by rw [same'.bytes, ← same.receivedBytesOf, buffered.bytes, same.bytes]
  count := by rw [same'.packets, ← same.packets, ← same.containsPacket]; exact buffered.count

end Transfer

theorem Fresh.sameBuffers {now : Nat} (fresh : self.Fresh now) :
    SameBuffers self (self.expired now) := by
  have none_ : self.countReceived.expiredIds now = [] := Fresh.expiredIds fresh
  simp only [VpnReassembler.expired, expire, none_, List.foldl_nil]
  exact ⟨rfl, rfl, rfl, rfl⟩

theorem recordResult_sameBuffers (self : VpnReassembler)
    (result : Except VpnPacketError (Option (List UInt8))) :
    SameBuffers self (self.recordResult result) := by
  rcases result with error | _ | packet <;> exact ⟨rfl, rfl, rfl, rfl⟩

theorem countDuplicate_sameBuffers (self : VpnReassembler) (duplicate : Bool) :
    SameBuffers self (self.countDuplicate duplicate) := by
  cases duplicate <;> exact ⟨rfl, rfl, rfl, rfl⟩

theorem SameBuffers.refl (self : VpnReassembler) : SameBuffers self self := ⟨rfl, rfl, rfl, rfl⟩

section Effects

variable {self : VpnReassembler} (good : self.Good)

include good in
theorem Good.dropped (packetId : UInt32) : Dropped self (self.removePacket packetId) packetId where
  limits := removePacket_limits self packetId
  packets := removePacket_packets self packetId
  bytes := by
    rw [removePacket_bufferedBytes]
    cases found : self.packets.lookup packetId with
    | none => rw [receivedBytesOf_none found]; omega
    | some held =>
      have within := good.received_le_bytes found
      rw [receivedBytesOf_some found]
      omega
  evictions := by rw [removePacket_stats]

variable {packetId : UInt32}

/-- Taking a packet out and storing it again changes nothing, and needs no eviction. -/
theorem store_unchanged {mid : VpnReassembler} {held : PartialPacket}
    (dropped : Dropped self mid packetId) (found : self.packets.lookup packetId = some held) :
    Unchanged self (mid.store packetId held) where
  limits := dropped.limits
  packets := by
    have absent : mid.packets.lookup packetId = none := by
      rw [dropped.packets, AList.lookup_erase]
    have entries := AList.entries_insert_of_notMem (b := held) (AList.lookup_eq_none.mp absent)
    rw [store, Table.Rehash, entries, dropped.packets]
    exact Table.erase_split found
  bytes := by
    have bytes := dropped.bytes
    rw [receivedBytesOf_some found] at bytes
    exact bytes
  evictions := dropped.evictions

include good in
/-- The packet was within both limits, so it fits again. -/
theorem makeRoom_of_dropped {mid : VpnReassembler} {held : PartialPacket}
    (dropped : Dropped self mid packetId) (found : self.packets.lookup packetId = some held) :
    mid.makeRoom held.receivedBytes = mid := by
  have bytes := dropped.bytes
  have size := Table.size_erase found
  have inflight := good.inflight_le
  have buffered := good.bytes_le
  rw [receivedBytesOf_some found] at bytes
  apply makeRoom_eq_self
  · rw [dropped.limits, dropped.packets]
    omega
  · rw [dropped.limits]
    omega

theorem removePacket_of_absent (absent : self.packets.lookup packetId = none) :
    self.removePacket packetId = self := by
  rw [removePacket, absent]

end Effects

/-- What is evicted after a packet was dropped are other packets, with the same bytes. -/
theorem Evicted.others {before mid after : VpnReassembler} {packetId : UInt32}
    {evicted : List UInt32} (evictions : Evicted mid after evicted)
    (dropped : Dropped before mid packetId) :
    (∀ other ∈ evicted, other ≠ packetId ∧ before.containsPacket other = true) ∧
      evicted.map mid.receivedBytesOf = evicted.map before.receivedBytesOf := by
  have others : ∀ other ∈ evicted, other ≠ packetId ∧ before.containsPacket other = true := by
    intro other member
    have present := evictions.present other member
    rw [containsPacket, dropped.packets] at present
    by_cases same : other = packetId
    · rw [same, AList.lookup_erase] at present
      cases present
    · rw [AList.lookup_erase_ne same] at present
      exact ⟨same, present⟩
  refine ⟨others, List.map_congr_left fun other member => ?_⟩
  rw [receivedBytesOf, dropped.packets, AList.lookup_erase_ne (others other member).1]
  rfl

/-- What `Prunes` removes is a set of packets with their bytes. -/
theorem Prunes.exists_evicted {before after : VpnReassembler} (prunes : Prunes before after)
    (good : before.Good) : ∃ evicted, Evicted before after evicted := by
  induction prunes with
  | rest limits packets bytes =>
    refine ⟨[], limits, List.nodup_nil, nofun, ?_, ?_, ?_⟩
    · simp [packets]
    · simp [bytes]
    · simp [packets]
  | @remove before after removed tail ih =>
    cases found : before.packets.lookup removed with
    | none =>
      rw [removePacket_of_absent found] at ih
      exact ih good
    | some held =>
      obtain ⟨evicted, rest⟩ := ih (good.removePacket removed)
      have dropped := good.dropped removed
      obtain ⟨others, sameBytes⟩ := rest.others dropped
      have size := Table.size_erase found
      have bytes := dropped.bytes
      have restBytes := rest.bytes
      have restCount := rest.count
      rw [sameBytes] at restBytes
      rw [dropped.packets] at restCount
      refine ⟨removed :: evicted, rest.limits.trans dropped.limits, ?_, ?_, ?_, ?_, ?_⟩
      · exact List.nodup_cons.mpr ⟨fun member => (others _ member).1 rfl, rest.distinct⟩
      · intro packetId member
        rcases List.mem_cons.mp member with rfl | later
        · simp [containsPacket, found]
        · exact (others packetId later).2
      · intro packetId
        rw [rest.packets, dropped.packets]
        by_cases same : packetId = removed
        · subst same
          simp
        · simp [AList.lookup_erase_ne same, same]
      · rw [List.map_cons, List.sum_cons]
        omega
      · rw [List.length_cons]
        omega

/-- A packet taken out, room made for it, and put back with more bytes. -/
theorem Evicted.buffered {before mid roomy : VpnReassembler} {packetId : UInt32}
    {evicted : List UInt32} {held : PartialPacket} {additional : Nat}
    (evictions : Evicted mid roomy evicted) (dropped : Dropped before mid packetId)
    (grown : held.receivedBytes = before.receivedBytesOf packetId + additional) :
    Buffered before (roomy.store packetId held) packetId additional evicted := by
  obtain ⟨others, sameBytes⟩ := evictions.others dropped
  have absent : roomy.packets.lookup packetId = none := by
    rw [evictions.packets, dropped.packets, AList.lookup_erase, ite_self]
  have here : (roomy.store packetId held).packets.lookup packetId = some held :=
    AList.lookup_insert _
  have bytes := evictions.bytes
  have bytesBefore := dropped.bytes
  rw [sameBytes] at bytes
  refine {
    limits := evictions.limits.trans dropped.limits
    distinct := evictions.distinct
    present := others
    others := ?_
    stored := by simp [containsPacket, here]
    received := (receivedBytesOf_some here).trans grown
    bytes := ?_
    count := ?_ }
  · intro other different
    rw [store, AList.lookup_insert_ne different, evictions.packets, dropped.packets,
      AList.lookup_erase_ne different]
  · change roomy.bufferedBytes + held.receivedBytes + _ = _
    omega
  · have count := evictions.count
    have inserted : (roomy.store packetId held).packets.size = roomy.packets.size + 1 :=
      Table.size_insert_of_absent absent
    rw [dropped.packets] at count
    unfold containsPacket
    cases found : before.packets.lookup packetId with
    | none =>
      rw [Table.erase_of_lookup_none found] at count
      simp only [Option.isSome_none, Bool.false_eq_true, if_false]
      omega
    | some old =>
      have size := Table.size_erase found
      simp only [Option.isSome_some, if_true]
      omega

/-! ## Prediction and outcome -/

/-- `ingest_inner` takes the fragment for a copy of a stored one. -/
def TakenAsDuplicate (self : VpnReassembler) (now : Nat) (fragment : VpnFragment) : Prop :=
  ∃ held, ((self.expired now).takePartial now fragment).1.absorb now fragment = .ok (held, true)

/-- The packet is complete and gone from the table; it is returned if its header is in
order, and nothing is evicted. -/
def Finished (before after : VpnReassembler) (fragment : VpnFragment)
    (result : Except VpnPacketError (Option (List UInt8))) : Prop :=
  Dropped before after fragment.packetId ∧
    ∃ packet, packet.length = fragment.totalLen ∧
      result = (inspectVpnIpPacket packet).map fun _ => some packet

/-- The outcome of a fragment its partial packet does not have, by what was announced. -/
def NewFragment (before after : VpnReassembler) (fragment : VpnFragment)
    (result : Except VpnPacketError (Option (List UInt8))) : Prop :=
  (Finished before after fragment result ∧ before.fragmentWillComplete fragment = true) ∨
    (result = .ok none ∧ before.fragmentWillComplete fragment = false ∧
      ∃ evicted, Buffered before after fragment.packetId fragment.payload.length evicted)

section Classified

variable {self after : VpnReassembler} {now : Nat} {fragment : VpnFragment} {held : PartialPacket}
  (good : self.Good) (wellFormed : fragment.WellFormed)

include good

/-- A copy of a stored fragment cannot be the last missing one. -/
theorem Good.duplicate_stored
    (absorbed : (self.partialFor now fragment).absorb now fragment = .ok (held, true)) :
    self.packets.lookup fragment.packetId = some held ∧ held.receivedBytes < held.totalLen := by
  obtain ⟨-, ⟨-, rfl, member⟩ | ⟨impossible, -⟩⟩ := absorb_ok absorbed
  · unfold VpnReassembler.partialFor at member ⊢
    cases found : self.packets.lookup fragment.packetId with
    | none => rw [found] at member; cases member
    | some stored => exact ⟨rfl, (good.stored _ stored found).2⟩
  · cases impossible

include wellFormed

theorem Good.absorbed_received
    (absorbed : (self.partialFor now fragment).absorb now fragment = .ok (held, false)) :
    held.receivedBytes = self.receivedBytesOf fragment.packetId + fragment.payload.length ∧
      (held.receivedBytes = held.totalLen ↔ self.fragmentWillComplete fragment = true) := by
  obtain ⟨sameTotal, ⟨impossible, -⟩ | ⟨-, rfl, -, -⟩⟩ := absorb_ok absorbed
  · cases impossible
  · have received : ((self.partialFor now fragment).withFragment now fragment).receivedBytes =
        self.receivedBytesOf fragment.packetId + fragment.payload.length := by
      rw [← partialFor_receivedBytes self now fragment]
      rfl
    refine ⟨received, ?_⟩
    rw [fragmentWillComplete_iff good wellFormed, received, ← sameTotal]
    rfl

/-- Once complete, the packet is taken out and its header decides. -/
theorem Good.finished {duplicate : Bool}
    (absorbed : (self.partialFor now fragment).absorb now fragment = .ok (held, duplicate))
    (complete : held.receivedBytes = held.totalLen) :
    duplicate = false ∧
      Finished self ((self.removePacket fragment.packetId).countDuplicate duplicate) fragment
        (held.assemble.map some) ∧
      self.fragmentWillComplete fragment = true := by
  cases duplicate with
  | true => exact absurd complete (Nat.ne_of_lt (good.duplicate_stored absorbed).2)
  | false =>
    have heldGood := absorb_good (good.partialFor now wellFormed) wellFormed absorbed
    have assembled := assemble_eq heldGood complete
    have total := (absorb_ok absorbed).1
    have kept : held.totalLen = fragment.totalLen := by
      obtain ⟨-, ⟨-, rfl, -⟩ | ⟨-, rfl, -, -⟩⟩ := absorb_ok absorbed <;> exact total
    refine ⟨rfl, ⟨good.dropped _, joined held.fragments.entries, ?_, ?_⟩,
      (good.absorbed_received wellFormed absorbed).2.mp complete⟩
    · rw [joined_length, ← kept, ← complete, heldGood.received]
    · rw [assembled]
      cases inspectVpnIpPacket (joined held.fragments.entries) <;> rfl

end Classified

/-- **The three classes of fragments**, by what the partial packet says. -/
theorem Outcome.classified {after : VpnReassembler} {now : Nat} {datagram : List UInt8}
    {result : Except VpnPacketError (Option (List UInt8))}
    (outcome : Outcome self now datagram result after) (good : self.Good)
    (decoded : decodeVpnIpFragment datagram = .ok fragment) :
    (∃ error, (self.partialFor now fragment).absorb now fragment = .error error ∧
        result = .error error ∧ Dropped self after fragment.packetId) ∨
      (∃ held, (self.partialFor now fragment).absorb now fragment = .ok (held, true) ∧
        result = .ok none ∧ Unchanged self after) ∨
      ∃ held, (self.partialFor now fragment).absorb now fragment = .ok (held, false) ∧
        NewFragment self after fragment result := by
  have wellFormed := decodeVpnIpFragment_wellFormed decoded
  cases outcome with
  | undecoded failed => rw [decoded] at failed; cases failed
  | @refused fragment' error decoded' absorbed =>
    cases decoded.symm.trans decoded'
    exact Or.inl ⟨error, absorbed, rfl, good.dropped _⟩
  | @malformed fragment' held duplicate error decoded' absorbed complete assembled =>
    cases decoded.symm.trans decoded'
    obtain ⟨rfl, finished, announced⟩ := good.finished wellFormed absorbed complete
    rw [assembled] at finished
    exact Or.inr (Or.inr ⟨held, absorbed, Or.inl ⟨finished, announced⟩⟩)
  | @completed fragment' held duplicate packet decoded' absorbed complete assembled =>
    cases decoded.symm.trans decoded'
    obtain ⟨rfl, finished, announced⟩ := good.finished wellFormed absorbed complete
    rw [assembled] at finished
    exact Or.inr (Or.inr ⟨held, absorbed, Or.inl ⟨finished, announced⟩⟩)
  | @stored fragment' held duplicate decoded' absorbed missing =>
    cases decoded.symm.trans decoded'
    have taken : Dropped self ((self.removePacket fragment.packetId).countDuplicate duplicate)
        fragment.packetId :=
      (good.dropped fragment.packetId).congr (.refl self) (countDuplicate_sameBuffers _ duplicate)
    cases duplicate with
    | true =>
      have found := (good.duplicate_stored absorbed).1
      refine Or.inr (Or.inl ⟨held, absorbed, rfl, ?_⟩)
      rw [makeRoom_of_dropped good taken found]
      exact store_unchanged taken found
    | false =>
      obtain ⟨received, completes⟩ := good.absorbed_received wellFormed absorbed
      obtain ⟨evicted, evictions⟩ := (makeRoom_prunes
        ((self.removePacket fragment.packetId).countDuplicate false)
        held.receivedBytes).exists_evicted (good.removePacket _)
      refine Or.inr (Or.inr ⟨held, absorbed, Or.inr ⟨rfl, ?_, evicted, ?_⟩⟩)
      · rw [← Bool.not_eq_true, ← completes]
        exact missing
      · exact evictions.buffered taken received

/-- A finished packet is never answered with `None`. -/
theorem Finished.result_ne {before after : VpnReassembler}
    {result : Except VpnPacketError (Option (List UInt8))}
    (finished : Finished before after fragment result) :
    result ≠ .ok none ∧ ∀ error, error.refusesFragment = true → result ≠ .error error := by
  obtain ⟨-, packet, -, rfl⟩ := finished
  cases inspected : inspectVpnIpPacket packet with
  | ok metadata => exact ⟨nofun, nofun⟩
  | error error =>
    refine ⟨nofun, ?_⟩
    rintro other refuses same
    cases same
    rw [(inspectVpnIpPacket_error inspected).1] at refuses
    cases refuses

theorem fresh_of_expire {now : Nat} (nothing : (self.expire now).1 = 0) : self.Fresh now := by
  intro packetId held found
  by_contra old
  have member := mem_expiredIds.mpr ⟨held, found, Nat.le_of_not_lt old⟩
  exact absurd (List.length_pos_of_mem member) (Nat.not_lt.mpr (Nat.le_of_eq nothing))

/-- **The prediction agrees with `ingest`.** Where nothing expires, for every datagram that
decodes:

* an error is predicted when and only when `ingest` refuses the fragment with it, and the
  partial packet is then dropped;
* 0 bytes are predicted for copies of stored fragments and only for them, which change
  nothing;
* otherwise the payload's length is predicted, and the packet is finished when and only
  when `fragmentWillComplete`; if not, just these bytes are added, apart from evictions. -/
theorem prediction_agrees {limits : VpnReassemblyLimits} {self : VpnReassembler}
    (reachable : Reachable limits self) {now : Nat} (nothingExpires : (self.expire now).1 = 0)
    {datagram : List UInt8} {fragment : VpnFragment}
    (decoded : decodeVpnIpFragment datagram = .ok fragment) :
    (∀ error, self.additionalBufferedBytes fragment = .error error ↔
        error.refusesFragment = true ∧ (self.ingest now datagram).1 = .error error) ∧
      (∀ error, self.additionalBufferedBytes fragment = .error error →
        Dropped self (self.ingest now datagram).2 fragment.packetId) ∧
      (self.additionalBufferedBytes fragment = .ok 0 ↔ self.TakenAsDuplicate now fragment) ∧
      (self.additionalBufferedBytes fragment = .ok 0 →
        (self.ingest now datagram).1 = .ok none ∧ Unchanged self (self.ingest now datagram).2) ∧
      ∀ additional, self.additionalBufferedBytes fragment = .ok additional → additional ≠ 0 →
        additional = fragment.payload.length ∧
          (Finished self (self.ingest now datagram).2 fragment (self.ingest now datagram).1 ↔
            self.fragmentWillComplete fragment = true) ∧
          (self.fragmentWillComplete fragment = false →
            (self.ingest now datagram).1 = .ok none ∧
              ∃ evicted, Buffered self (self.ingest now datagram).2 fragment.packetId additional
                evicted) := by
  have good := reachable.kept.good
  have wellFormed := decodeVpnIpFragment_wellFormed decoded
  have filled := List.length_pos_iff.mpr wellFormed.filled
  have same := (fresh_of_expire nothingExpires).sameBuffers
  have expiredGood := (expired_prunes self now).good good
  obtain ⟨samePrediction, -, sameCompletion⟩ :=
    announced_congr fragment (congrArg (·.lookup fragment.packetId) same.packets)
  obtain ⟨after, outcome, recorded⟩ := ingest_outcome self now datagram
  have same' : SameBuffers after (self.ingest now datagram).2 := by
    rw [recorded]
    exact recordResult_sameBuffers after _
  have predicted := additionalBufferedBytes_eq expiredGood wellFormed now
  rw [samePrediction] at predicted
  simp only [TakenAsDuplicate, takePartial_eq]
  rw [predicted]
  obtain ⟨error, absorbed, result, dropped⟩ | ⟨held, absorbed, result, unchanged⟩ |
      ⟨held, absorbed, new⟩ := outcome.classified expiredGood decoded
  · have refuses := absorb_error (expiredGood.partialFor now wellFormed) wellFormed
      absorbed
    simp only [absorbed, result]
    refine ⟨fun other => ⟨?_, ?_⟩, fun _ _ => dropped.congr same same', ⟨nofun, ?_⟩, nofun, nofun⟩
    · rintro ⟨rfl⟩
      exact ⟨refuses, rfl⟩
    · rintro ⟨-, ⟨rfl⟩⟩
      rfl
    · rintro ⟨held, impossible⟩
      cases impossible
  · simp only [absorbed, result]
    refine ⟨fun other => ⟨nofun, ?_⟩, nofun, ⟨fun _ => ⟨held, rfl⟩, fun _ => rfl⟩,
      fun _ => ⟨trivial, unchanged.congr same same'⟩, ?_⟩
    · rintro ⟨-, impossible⟩
      cases impossible
    · rintro additional ⟨rfl⟩ positive
      exact absurd rfl positive
  · simp only [absorbed]
    refine ⟨fun other => ⟨nofun, ?_⟩, nofun, ⟨?_, ?_⟩, ?_, ?_⟩
    · rintro ⟨refuses, failed⟩
      rcases new with ⟨finished, -⟩ | ⟨result, -⟩
      · exact absurd failed (finished.result_ne.2 other refuses)
      · rw [result] at failed
        cases failed
    · intro nothing
      exact absurd (Except.ok.inj nothing) (Nat.ne_of_gt filled)
    · rintro ⟨held, impossible⟩
      cases impossible
    · intro nothing
      exact absurd (Except.ok.inj nothing) (Nat.ne_of_gt filled)
    · rintro additional ⟨rfl⟩ -
      refine ⟨rfl, ?_⟩
      rw [← sameCompletion]
      rcases new with ⟨⟨dropped, packet⟩, completes⟩ | ⟨result, incomplete, evicted, buffered⟩
      · rw [completes]
        exact ⟨⟨fun _ => rfl, fun _ => ⟨dropped.congr same same', packet⟩⟩, nofun⟩
      · rw [incomplete]
        refine ⟨⟨fun finished => absurd result finished.result_ne.1, nofun⟩,
          fun _ => ⟨result, evicted, buffered.congr same same'⟩⟩

/-- The second half completes the packet, which is not an IP packet. -/
theorem prediction_agrees_example :
    exampleReassembler.additionalBufferedBytes ⟨7, 40, 20, List.replicate 20 0⟩ = .ok 20 ∧
      (Finished exampleReassembler
          (exampleReassembler.ingest 1 (vpnIpDatagram 7 40 20 (List.replicate 20 0))).2
          ⟨7, 40, 20, List.replicate 20 0⟩
          (exampleReassembler.ingest 1 (vpnIpDatagram 7 40 20 (List.replicate 20 0))).1 ↔
        exampleReassembler.fragmentWillComplete ⟨7, 40, 20, List.replicate 20 0⟩ = true) := by
  have announced : exampleReassembler.additionalBufferedBytes ⟨7, 40, 20, List.replicate 20 0⟩ =
      .ok 20 := by decide +kernel
  obtain ⟨-, -, -, -, new⟩ := @prediction_agrees .default exampleReassembler
    exampleReassembler_reachable 1 (by decide +kernel)
    (vpnIpDatagram 7 40 20 (List.replicate 20 0)) ⟨7, 40, 20, List.replicate 20 0⟩
    (by decide +kernel)
  exact ⟨announced, (new 20 announced (by decide)).2.1⟩

end VpnReassembler

end FlowWeave.Vpn
