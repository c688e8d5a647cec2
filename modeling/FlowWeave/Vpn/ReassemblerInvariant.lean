/-
# Vpn.ReassemblerInvariant — what a reassembler keeps, in every state

`PartialPacket.Good`: the stored fragments are disjoint, non-empty and inside the
packet, and `receivedBytes` is what they hold. `VpnReassembler.Good`: every stored
partial packet is good and still misses bytes, `bufferedBytes` is the sum over
them, and both limits hold.

`Prunes before after` says that `after` comes from `before` by removing packets,
whatever happens to the statistics. Expiry, eviction and rejection are of this
kind, and `Prunes.good` is the one argument that they keep the invariant.

* `PartialPacket.assemble_eq` — once every byte is there, the fragments tile the
  packet and only the header check can still refuse it.
* `makeRoom_room` — after `makeRoom` one more packet and the incoming bytes fit.
* `Good.store` — storing a packet that fits keeps the invariant.
-/
import FlowWeave.Vpn.Reassembler

namespace FlowWeave.Vpn

open Theory Theory.Checks Theory.Segments Theory.MachineInt

set_option autoImplicit false

/-! ## The scan over stored fragments -/

variable {entries : List (Nat × List UInt8)}

/-- A scan over fragments that are each the same as, or apart from, the new one
finds it exactly when it is there. -/
theorem scanFragments_eq (fragment : VpnFragment)
    (compatible : ∀ entry ∈ entries, entry = (fragment.offset, fragment.payload) ∨
      ¬ Overlaps (fragment.offset, fragment.payload) entry) :
    scanFragments fragment (fragment.offset + fragment.payload.length) entries =
      .ok (decide ((fragment.offset, fragment.payload) ∈ entries)) := by
  induction entries with
  | nil => rfl
  | cons entry rest ih =>
    obtain ⟨existingOffset, existingPayload⟩ := entry
    have later := ih (fun other member => compatible other (List.mem_cons_of_mem _ member))
    simp only [scanFragments]
    split
    · rename_i same
      obtain ⟨rfl, rfl⟩ := same
      simp
    · rename_i different
      have ne : (existingOffset, existingPayload) ≠ (fragment.offset, fragment.payload) := by
        simpa using different
      have apart := (compatible _ List.mem_cons_self).resolve_left ne
      simp only [Overlaps] at apart
      rw [if_neg apart, later]
      simp [Ne.symm ne]

theorem scanFragments_found {fragment : VpnFragment} {fragmentEnd : Nat}
    (found : scanFragments fragment fragmentEnd entries = .ok true) :
    (fragment.offset, fragment.payload) ∈ entries := by
  induction entries with
  | nil => simp [scanFragments] at found
  | cons entry rest ih =>
    simp only [scanFragments] at found
    split at found
    · rename_i same
      rw [← same.1, ← same.2]
      exact List.mem_cons_self
    · exact List.mem_cons_of_mem _ (ih (ite_error_eq_ok.mp found).2)

theorem scanFragments_absent {fragment : VpnFragment}
    (absent : scanFragments fragment (fragment.offset + fragment.payload.length) entries =
      .ok false) : ∀ entry ∈ entries, ¬ Overlaps (fragment.offset, fragment.payload) entry := by
  induction entries with
  | nil => simp
  | cons entry rest ih =>
    simp only [scanFragments] at absent
    split at absent
    · cases absent
    · obtain ⟨apart, absent⟩ := ite_error_eq_ok.mp absent
      intro other member
      rcases List.mem_cons.mp member with rfl | later
      · exact apart
      · exact ih absent other later

/-! ## One partial packet -/

/-- The stored fragments are disjoint and inside the packet, and
`receivedBytes` counts them. -/
structure PartialPacket.Good (held : PartialPacket) : Prop where
  separated : Separated held.totalLen 0 held.fragments.entries
  received : held.receivedBytes = total held.fragments.entries
  small : held.totalLen ≤ vpnMaxIpPacketLen

namespace PartialPacket

theorem Good.received_le {held : PartialPacket} (good : held.Good) :
    held.receivedBytes ≤ held.totalLen := by
  have fits := good.separated.total_le
  rw [good.received]
  omega

theorem new_good {totalLen now : Nat} (small : totalLen ≤ vpnMaxIpPacketLen) :
    (new totalLen now).Good :=
  ⟨Nat.zero_le _, rfl, small⟩

/-- What `absorb` makes of a fragment that is no copy of a stored one. -/
def withFragment (held : PartialPacket) (now : Nat) (fragment : VpnFragment) : PartialPacket where
  totalLen := held.totalLen
  fragments := held.fragments.insert fragment.offset fragment.payload
  receivedBytes := held.receivedBytes + fragment.payload.length
  updatedAt := now

/-- `absorb` accepts a copy of a stored fragment, which changes nothing, or a
fragment apart from all of them. -/
theorem absorb_ok {held after : PartialPacket} {now : Nat} {fragment : VpnFragment}
    {duplicate : Bool} (absorbed : held.absorb now fragment = .ok (after, duplicate)) :
    held.totalLen = fragment.totalLen ∧
      ((duplicate = true ∧ after = held ∧
          (fragment.offset, fragment.payload) ∈ held.fragments.entries) ∨
        (duplicate = false ∧ after = held.withFragment now fragment ∧
          held.fragments.entries.length < vpnMaxFragmentsPerPacket ∧
          ∀ entry ∈ held.fragments.entries,
            ¬ Overlaps (fragment.offset, fragment.payload) entry)) := by
  obtain ⟨sameTotal, absorbed⟩ := ite_error_eq_ok.mp absorbed
  refine ⟨not_not.mp sameTotal, ?_⟩
  split at absorbed
  · cases absorbed
  rename_i fragmentEnd ends
  obtain ⟨rfl, -⟩ := checkedAdd_some_iff.mp ends
  split at absorbed
  · cases absorbed
  · rename_i found
    cases absorbed
    exact Or.inl ⟨rfl, rfl, scanFragments_found found⟩
  · rename_i absent
    obtain ⟨few, absorbed⟩ := ite_error_eq_ok.mp absorbed
    split at absorbed
    · cases absorbed
    · rename_i receivedBytes sum
      obtain ⟨rfl, -⟩ := checkedAdd_some_iff.mp sum
      cases absorbed
      exact Or.inr ⟨rfl, rfl, by omega, scanFragments_absent absent⟩

section Fragment

variable {held : PartialPacket} {fragment : VpnFragment} (good : held.Good)
  (wellFormed : fragment.WellFormed) (sameTotal : held.totalLen = fragment.totalLen)
  (apart : ∀ entry ∈ held.fragments.entries,
    ¬ Overlaps (fragment.offset, fragment.payload) entry)

include wellFormed apart in
/-- A fragment apart from the stored ones starts where none of them does. -/
theorem offset_fresh (separated : Separated held.totalLen 0 held.fragments.entries) :
    ∀ entry ∈ held.fragments.entries, entry.1 ≠ fragment.offset := by
  intro entry member same
  have filled := List.length_pos_iff.mpr (separated.mem member).2.1
  have positive := List.length_pos_iff.mpr wellFormed.filled
  refine apart entry member ⟨?_, ?_⟩ <;> simp only <;> omega

include good wellFormed sameTotal apart

theorem withFragment_good (now : Nat) : (held.withFragment now fragment).Good where
  separated := by
    have inside := wellFormed.inside
    rw [← sameTotal] at inside
    exact good.separated.insert (Nat.zero_le _) wellFormed.filled inside apart
  received := by
    have perm := sortedInsert_perm fragment.payload
      (offset_fresh wellFormed apart good.separated)
    simp only [withFragment, SortedMap.insert_entries, total_perm perm, total_cons,
      good.received]
    omega
  small := good.small

/-- A fragment apart from the stored ones fits what the packet still misses. -/
theorem received_add_le : held.receivedBytes + fragment.payload.length ≤ held.totalLen :=
  (withFragment_good good wellFormed sameTotal apart 0).received_le

end Fragment

variable {held : PartialPacket}

theorem absorb_good {after : PartialPacket} {now : Nat} {fragment : VpnFragment} {duplicate : Bool}
    (good : held.Good) (wellFormed : fragment.WellFormed)
    (absorbed : held.absorb now fragment = .ok (after, duplicate)) : after.Good := by
  obtain ⟨sameTotal, ⟨-, rfl, -⟩ | ⟨-, rfl, -, apart⟩⟩ := absorb_ok absorbed
  · exact good
  · exact withFragment_good good wellFormed sameTotal apart now

theorem joinFragments_contiguous (packet : List UInt8) {entries : List (Nat × List UInt8)}
    (contiguous : Contiguous packet.length entries) :
    joinFragments packet entries = .ok (packet ++ joined entries) := by
  induction entries generalizing packet with
  | nil => simp [joinFragments]
  | cons entry rest ih =>
    obtain ⟨offset, payload⟩ := entry
    obtain ⟨rfl, tail⟩ := contiguous
    rw [← List.length_append] at tail
    simp only [joinFragments, ne_eq, not_true_eq_false, if_false, ih _ tail, joined_cons,
      List.append_assoc]

/-- Once every byte is there, `assemble` joins the fragments; only the header
check can still refuse the packet. -/
theorem assemble_eq (good : held.Good) (complete : held.receivedBytes = held.totalLen) :
    held.assemble =
      (inspectVpnIpPacket (joined held.fragments.entries)).map
        fun _ => joined held.fragments.entries := by
  have full : 0 + total held.fragments.entries = held.totalLen := by
    rw [← good.received, complete]; omega
  have joins := joinFragments_contiguous []
    (good.separated.contiguous_of_total full)
  have length : (joined held.fragments.entries).length = held.totalLen := by
    rw [joined_length]; omega
  simp only [assemble, joins, List.nil_append, length, ne_eq, not_true_eq_false, if_false]
  cases inspectVpnIpPacket (joined held.fragments.entries) <;> rfl

theorem assemble_ok {packet : List UInt8} (good : held.Good)
    (complete : held.receivedBytes = held.totalLen) (assembled : held.assemble = .ok packet) :
    packet = joined held.fragments.entries ∧
      ∃ metadata, inspectVpnIpPacket packet = .ok metadata := by
  rw [assemble_eq good complete] at assembled
  cases inspected : inspectVpnIpPacket (joined held.fragments.entries) with
  | error error => rw [inspected] at assembled; cases assembled
  | ok metadata =>
    rw [inspected] at assembled
    cases assembled
    exact ⟨rfl, metadata, inspected⟩

end PartialPacket

/-! ## Removing packets -/

namespace VpnReassembler

/-- `after` is `before` with packets removed; the statistics may differ. -/
inductive Prunes : VpnReassembler → VpnReassembler → Prop
  | rest {before after : VpnReassembler} (limits : after.limits = before.limits)
      (packets : after.packets = before.packets)
      (bytes : after.bufferedBytes = before.bufferedBytes) : Prunes before after
  | remove {before after : VpnReassembler} (packetId : UInt32)
      (tail : Prunes (before.removePacket packetId) after) : Prunes before after

section RemovePacket

variable (self : VpnReassembler) (packetId : UInt32)

@[simp] theorem removePacket_limits : (self.removePacket packetId).limits = self.limits := by
  unfold removePacket
  split <;> rfl

@[simp] theorem removePacket_stats : (self.removePacket packetId).stats = self.stats := by
  unfold removePacket
  split <;> rfl

@[simp] theorem removePacket_packets :
    (self.removePacket packetId).packets = self.packets.erase packetId := by
  unfold removePacket
  split
  · rename_i absent
    exact (Table.erase_of_lookup_none absent).symm
  · rfl

/-- The bytes held of a packet. -/
def receivedBytesOf (self : VpnReassembler) (packetId : UInt32) : Nat :=
  ((self.packets.lookup packetId).map (·.receivedBytes)).getD 0

theorem receivedBytesOf_none {self : VpnReassembler} {packetId : UInt32}
    (absent : self.packets.lookup packetId = none) : self.receivedBytesOf packetId = 0 := by
  rw [receivedBytesOf, absent]
  rfl

theorem receivedBytesOf_some {self : VpnReassembler} {packetId : UInt32} {held : PartialPacket}
    (found : self.packets.lookup packetId = some held) :
    self.receivedBytesOf packetId = held.receivedBytes := by
  rw [receivedBytesOf, found]
  rfl

theorem removePacket_bufferedBytes :
    (self.removePacket packetId).bufferedBytes =
      self.bufferedBytes - self.receivedBytesOf packetId := by
  unfold removePacket
  split
  · rename_i absent
    rw [receivedBytesOf_none absent]
    rfl
  · rename_i held found
    rw [receivedBytesOf_some found]

end RemovePacket

namespace Prunes

variable {before mid after : VpnReassembler}

theorem refl (self : VpnReassembler) : Prunes self self := rest rfl rfl rfl

/-- Only limits, packets and buffered bytes matter. -/
theorem of_same (tail : Prunes mid after) (limits : mid.limits = before.limits)
    (packets : mid.packets = before.packets) (bytes : mid.bufferedBytes = before.bufferedBytes) :
    Prunes before after := by
  induction tail generalizing before with
  | rest limits' packets' bytes' =>
    exact rest (limits'.trans limits) (packets'.trans packets) (bytes'.trans bytes)
  | remove packetId tail ih =>
    refine remove packetId (ih ?_ ?_ ?_)
    · simpa using limits
    · simp [packets]
    · simp only [removePacket_bufferedBytes, receivedBytesOf, packets, bytes]

theorem trans (first : Prunes before mid) (second : Prunes mid after) : Prunes before after := by
  induction first with
  | rest limits packets bytes => exact second.of_same limits packets bytes
  | remove packetId tail ih => exact remove packetId (ih second)

theorem removePacket (self : VpnReassembler) (packetId : UInt32) :
    Prunes self (self.removePacket packetId) :=
  remove packetId (refl _)

theorem limits_eq (prunes : Prunes before after) : after.limits = before.limits := by
  induction prunes with
  | rest limits packets bytes => exact limits
  | remove packetId tail ih => simpa using ih

theorem lookup_some (prunes : Prunes before after) {packetId : UInt32} {held : PartialPacket}
    (found : after.packets.lookup packetId = some held) :
    before.packets.lookup packetId = some held := by
  induction prunes with
  | rest limits packets bytes => rwa [packets] at found
  | remove removed tail ih =>
    have inner := ih found
    rw [removePacket_packets] at inner
    by_cases same : packetId = removed
    · subst same
      rw [AList.lookup_erase] at inner
      cases inner
    · rwa [AList.lookup_erase_ne same] at inner

theorem lookup_none (prunes : Prunes before after) {packetId : UInt32}
    (absent : before.packets.lookup packetId = none) : after.packets.lookup packetId = none := by
  cases found : after.packets.lookup packetId with
  | none => rfl
  | some held => rw [prunes.lookup_some found] at absent; cases absent

theorem size_le (prunes : Prunes before after) : after.packets.size ≤ before.packets.size := by
  induction prunes with
  | rest limits packets bytes => rw [packets]
  | remove packetId tail ih =>
    rw [removePacket_packets] at ih
    exact le_trans ih (Table.size_erase_le _ _)

theorem bytes_le (prunes : Prunes before after) : after.bufferedBytes ≤ before.bufferedBytes := by
  induction prunes with
  | rest limits packets bytes => rw [bytes]
  | remove packetId tail ih =>
    rw [removePacket_bufferedBytes] at ih
    omega

end Prunes

theorem foldl_removePacket_prunes (ids : List UInt32) (self : VpnReassembler) :
    Prunes self (ids.foldl VpnReassembler.removePacket self) := by
  induction ids generalizing self with
  | nil => exact Prunes.refl self
  | cons packetId rest ih => exact Prunes.remove packetId (ih _)

theorem expire_prunes (self : VpnReassembler) (now : Nat) : Prunes self (self.expire now).2 :=
  (foldl_removePacket_prunes (self.expiredIds now) self).trans (Prunes.rest rfl rfl rfl)

theorem evictPacket_prunes (self : VpnReassembler) (packetId : UInt32) :
    Prunes self (self.evictPacket packetId).2 := by
  unfold evictPacket
  split
  · exact (Prunes.removePacket self packetId).trans (Prunes.rest rfl rfl rfl)
  · exact Prunes.refl self

theorem rejectDecodedFragment_prunes (self : VpnReassembler) (packetId : UInt32) :
    Prunes self (self.rejectDecodedFragment packetId) :=
  (Prunes.removePacket _ packetId).of_same rfl rfl rfl

variable {self before after : VpnReassembler} {packetId : UInt32} {held : PartialPacket}
  {limits : VpnReassemblyLimits}

theorem evictOldest_prunes {next : VpnReassembler} (evicted : self.evictOldest = some next) :
    Prunes self next := by
  unfold evictOldest at evicted
  split at evicted
  · cases evicted
  · rename_i entry oldest
    cases evicted
    exact (Prunes.removePacket self entry.1).trans (Prunes.rest rfl rfl rfl)

theorem evictWhile_prunes (full : VpnReassembler → Bool) (fuel : Nat) (self : VpnReassembler) :
    Prunes self (evictWhile full fuel self) := by
  induction fuel generalizing self with
  | zero => exact Prunes.refl self
  | succ fuel ih =>
    simp only [evictWhile]
    split
    · split
      · exact Prunes.refl self
      · rename_i next evicted
        exact (evictOldest_prunes evicted).trans (ih next)
    · exact Prunes.refl self

theorem makeRoom_prunes (self : VpnReassembler) (incomingBytes : Nat) :
    Prunes self (self.makeRoom incomingBytes) :=
  (evictWhile_prunes _ _ _).trans (evictWhile_prunes _ _ _)

/-! ## Eviction makes room -/

theorem evictOldest_none_iff : self.evictOldest = none ↔ self.packets.size = 0 := by
  unfold evictOldest Table.size
  split
  · rename_i none_
    simpa using List.argmin_eq_none.mp none_
  · rename_i entry oldest
    have member := List.argmin_mem oldest
    simp only [reduceCtorEq, false_iff]
    exact Nat.ne_of_gt (List.length_pos_of_mem member)

theorem evictOldest_size {next : VpnReassembler} (evicted : self.evictOldest = some next) :
    next.packets.size + 1 = self.packets.size := by
  unfold evictOldest at evicted
  split at evicted
  · cases evicted
  · rename_i entry oldest
    cases evicted
    have found := Table.lookup_eq_some_iff.mpr (List.argmin_mem oldest)
    simpa [countEvicted] using Table.size_erase found

theorem oldestPacketUpdatedAt_some {excluded : Option UInt32} {updatedAt : Nat}
    (oldest : self.oldestPacketUpdatedAt excluded = some (packetId, updatedAt)) :
    ∃ held, self.packets.lookup packetId = some held ∧ some packetId ≠ excluded := by
  unfold oldestPacketUpdatedAt at oldest
  obtain ⟨entry, least, same⟩ := Option.map_eq_some_iff.mp oldest
  obtain ⟨member, allowed⟩ := List.mem_filter.mp (List.argmin_mem least)
  cases same
  exact ⟨entry.2, Table.lookup_eq_some_iff.mpr member, by simpa using allowed⟩

theorem oldestPacketUpdatedAt_none {excluded : Option UInt32}
    (nothing : self.oldestPacketUpdatedAt excluded = none)
    (found : self.packets.lookup packetId = some held) : excluded = some packetId := by
  unfold oldestPacketUpdatedAt at nothing
  have none_ := List.argmin_eq_none.mp (Option.map_eq_none_iff.mp nothing)
  have out := List.filter_eq_nil_iff.mp none_ _ (Table.lookup_eq_some_iff.mp found)
  simp only [ne_eq, decide_not, Bool.not_eq_true, Bool.not_eq_false', decide_eq_true_eq] at out
  exact out.symm

/-- The eviction loop stops because its condition fails or nothing is left: as
many rounds as packets are enough. -/
theorem evictWhile_exit (full : VpnReassembler → Bool) (fuel : Nat) (self : VpnReassembler)
    (enough : self.packets.size ≤ fuel) :
    full (evictWhile full fuel self) = false ∨ (evictWhile full fuel self).packets.size = 0 := by
  induction fuel generalizing self with
  | zero => exact Or.inr (Nat.le_zero.mp enough)
  | succ fuel ih =>
    simp only [evictWhile]
    split
    · split
      · rename_i none_
        exact Or.inr (evictOldest_none_iff.mp none_)
      · rename_i next evicted
        exact ih next (by have := evictOldest_size evicted; omega)
    · rename_i room
      exact Or.inl (by simpa using room)

/-! ## The invariant -/

/-- The invariant of a reassembler. -/
structure Good (state : VpnReassembler) : Prop where
  inflightLimit : 0 < state.limits.maxInflightPackets
  byteLimit : vpnMaxIpPacketLen ≤ state.limits.maxBufferedBytes
  stored : ∀ packetId held, state.packets.lookup packetId = some held →
    held.Good ∧ held.receivedBytes < held.totalLen
  bytes : state.bufferedBytes = state.packets.weight (·.receivedBytes)
  bytes_le : state.bufferedBytes ≤ state.limits.maxBufferedBytes
  inflight_le : state.packets.size ≤ state.limits.maxInflightPackets

theorem new_good (built : new limits = .ok self) : self.Good ∧ self.limits = limits := by
  obtain ⟨valid, ⟨⟩⟩ := ite_error_eq_ok.mp built
  simp only [not_or, not_lt] at valid
  exact ⟨{ inflightLimit := Nat.pos_of_ne_zero valid.1
           byteLimit := valid.2.1
           stored := fun packetId held found => by simp at found
           bytes := rfl
           bytes_le := Nat.zero_le _
           inflight_le := Nat.zero_le _ }, rfl⟩

theorem new_empty (built : new limits = .ok self) : self.packets = ∅ ∧ self.bufferedBytes = 0 := by
  obtain ⟨-, ⟨⟩⟩ := ite_error_eq_ok.mp built
  exact ⟨rfl, rfl⟩

theorem new_stats (built : new limits = .ok self) : self.stats = VpnReassemblyStats.default := by
  obtain ⟨-, ⟨⟩⟩ := ite_error_eq_ok.mp built
  rfl

/-- Limits, packets and buffered bytes decide the invariant. -/
theorem Good.of_same (good : before.Good) (limits : after.limits = before.limits)
    (packets : after.packets = before.packets)
    (bytes : after.bufferedBytes = before.bufferedBytes) :
    after.Good where
  inflightLimit := limits ▸ good.inflightLimit
  byteLimit := limits ▸ good.byteLimit
  stored := packets ▸ good.stored
  bytes := by rw [bytes, packets, good.bytes]
  bytes_le := by rw [bytes, limits]; exact good.bytes_le
  inflight_le := by rw [packets, limits]; exact good.inflight_le

theorem Good.received_le_bytes (good : self.Good)
    (found : self.packets.lookup packetId = some held) :
    held.receivedBytes ≤ self.bufferedBytes := by
  rw [good.bytes, ← Table.weight_erase (·.receivedBytes) found]
  exact Nat.le_add_left _ _

theorem Good.removePacket (good : self.Good) (packetId : UInt32) :
    (self.removePacket packetId).Good := by
  have pruned := Prunes.removePacket self packetId
  refine { inflightLimit := ?_, byteLimit := ?_, stored := ?_, bytes := ?_, bytes_le := ?_,
           inflight_le := ?_ }
  · rw [removePacket_limits]; exact good.inflightLimit
  · rw [removePacket_limits]; exact good.byteLimit
  · exact fun other held found => good.stored other held (pruned.lookup_some found)
  · rw [removePacket_bufferedBytes, removePacket_packets]
    cases found : self.packets.lookup packetId with
    | none =>
      rw [receivedBytesOf_none found, Table.erase_of_lookup_none found]
      exact good.bytes
    | some held =>
      have split := Table.weight_erase (·.receivedBytes) found
      have sum := good.bytes
      rw [receivedBytesOf_some found]
      omega
  · rw [removePacket_limits]; exact le_trans pruned.bytes_le good.bytes_le
  · rw [removePacket_limits]; exact le_trans pruned.size_le good.inflight_le

theorem Prunes.good (prunes : Prunes before after) (good : before.Good) : after.Good := by
  induction prunes with
  | rest limits packets bytes => exact good.of_same limits packets bytes
  | remove packetId tail ih => exact ih (good.removePacket packetId)

/-- The hash table iterates in another order. -/
structure Rehash (before after : VpnReassembler) : Prop where
  packets : Table.Rehash before.packets after.packets
  rest : after = { before with packets := after.packets }

theorem Rehash.refl (self : VpnReassembler) : Rehash self self := ⟨List.Perm.refl _, rfl⟩

theorem Rehash.limits_eq (rehash : Rehash before after) :
    after.limits = before.limits := by rw [rehash.rest]

theorem Rehash.bytes_eq (rehash : Rehash before after) :
    after.bufferedBytes = before.bufferedBytes := by rw [rehash.rest]

theorem Rehash.good (rehash : Rehash before after) (good : before.Good) : after.Good where
  inflightLimit := rehash.limits_eq ▸ good.inflightLimit
  byteLimit := rehash.limits_eq ▸ good.byteLimit
  stored := fun packetId held found =>
    good.stored packetId held ((rehash.packets.lookup_eq packetId).trans found)
  bytes := by rw [rehash.bytes_eq, good.bytes, rehash.packets.weight_eq]
  bytes_le := by rw [rehash.bytes_eq, rehash.limits_eq]; exact good.bytes_le
  inflight_le := by rw [← rehash.packets.size_eq, rehash.limits_eq]; exact good.inflight_le

/-- There are `2 ^ 32` packet ids, so the buffered bytes stay far from `usize`
overflow whatever the limits are. -/
theorem Good.bytes_small (good : self.Good) : self.bufferedBytes ≤ 2 ^ 32 * vpnMaxIpPacketLen := by
  have each : ∀ packetId held, self.packets.lookup packetId = some held →
      held.receivedBytes ≤ vpnMaxIpPacketLen := by
    intro packetId held found
    obtain ⟨heldGood, missing⟩ := good.stored packetId held found
    exact le_trans heldGood.received_le heldGood.small
  have count : self.packets.size ≤ 2 ^ 32 :=
    Table.size_le_of_code (fun _ _ same => UInt32.toNat_inj.mp same)
      (fun packetId => packetId.toNat_lt) _
  rw [good.bytes]
  exact le_trans (Table.weight_le each) (Nat.mul_le_mul_right _ count)

theorem Good.empty_bytes (good : self.Good) (empty : self.packets.size = 0) :
    self.bufferedBytes = 0 := by
  have entries : self.packets.entries = [] := List.length_eq_zero_iff.mp empty
  rw [good.bytes, Table.weight, entries]
  rfl

theorem evictWhile_eq_self {full : VpnReassembler → Bool} (room : full self = false) (fuel : Nat) :
    evictWhile full fuel self = self := by
  cases fuel with
  | zero => rfl
  | succ fuel => simp only [evictWhile, room, Bool.false_eq_true, if_false]

/-- Where there is room, `makeRoom` evicts nothing. -/
theorem makeRoom_eq_self {incomingBytes : Nat}
    (count : self.packets.size < self.limits.maxInflightPackets)
    (bytes : self.bufferedBytes + incomingBytes ≤ self.limits.maxBufferedBytes) :
    self.makeRoom incomingBytes = self := by
  have fits : saturatingAdd usizeMax self.bufferedBytes incomingBytes ≤
      self.limits.maxBufferedBytes := le_trans (saturatingAdd_le _ _ _) bytes
  have counted : evictWhile (fun state => state.packets.size ≥ state.limits.maxInflightPackets)
      self.packets.size self = self := evictWhile_eq_self (by simpa using count) _
  rw [makeRoom, counted]
  exact evictWhile_eq_self (by simpa using fits) _

/-- `makeRoom` leaves room for one packet more and for the incoming bytes. -/
theorem makeRoom_room (good : self.Good) {incomingBytes : Nat}
    (small : incomingBytes ≤ vpnMaxIpPacketLen) :
    (self.makeRoom incomingBytes).packets.size < self.limits.maxInflightPackets ∧
      (self.makeRoom incomingBytes).bufferedBytes + incomingBytes ≤
        self.limits.maxBufferedBytes := by
  unfold makeRoom
  set tooMany : VpnReassembler → Bool :=
    fun state => state.packets.size ≥ state.limits.maxInflightPackets
  set tooBig : VpnReassembler → Bool := fun state =>
    saturatingAdd usizeMax state.bufferedBytes incomingBytes > state.limits.maxBufferedBytes
  set counted := evictWhile tooMany self.packets.size self with countedDef
  have firstPrunes : Prunes self counted := evictWhile_prunes _ _ _
  have secondPrunes : Prunes counted (evictWhile tooBig counted.packets.size counted) :=
    evictWhile_prunes _ _ _
  set roomy := evictWhile tooBig counted.packets.size counted with roomyDef
  have limits : roomy.limits = self.limits := (firstPrunes.trans secondPrunes).limits_eq
  have roomyGood : roomy.Good := (firstPrunes.trans secondPrunes).good good
  constructor
  · have fewer : counted.packets.size < self.limits.maxInflightPackets := by
      have countedLimits := firstPrunes.limits_eq
      rcases evictWhile_exit tooMany self.packets.size self le_rfl with room | empty
      · simp only [tooMany, ge_iff_le, decide_eq_false_iff_not, not_le, ← countedDef] at room
        rwa [countedLimits] at room
      · rw [countedDef, empty]
        exact good.inflightLimit
    exact lt_of_le_of_lt secondPrunes.size_le fewer
  · rcases evictWhile_exit tooBig counted.packets.size counted le_rfl with room | empty
    · simp only [tooBig, gt_iff_lt, decide_eq_false_iff_not, not_lt, ← roomyDef] at room
      have bytesSmall := roomyGood.bytes_small
      rw [saturatingAdd_eq, limits] at room
      · exact room
      · simp only [vpnMaxIpPacketLen, usizeMax] at bytesSmall small ⊢
        omega
    · rw [roomyGood.empty_bytes empty, Nat.zero_add]
      exact le_trans small good.byteLimit

theorem Good.store (good : self.Good) (heldGood : held.Good)
    (missing : held.receivedBytes < held.totalLen) (absent : self.packets.lookup packetId = none)
    (count : self.packets.size < self.limits.maxInflightPackets)
    (room : self.bufferedBytes + held.receivedBytes ≤ self.limits.maxBufferedBytes) :
    (self.store packetId held).Good where
  inflightLimit := good.inflightLimit
  byteLimit := good.byteLimit
  stored := by
    intro other stored found
    by_cases same : other = packetId
    · subst same
      rw [VpnReassembler.store, AList.lookup_insert] at found
      cases found
      exact ⟨heldGood, missing⟩
    · rw [VpnReassembler.store, AList.lookup_insert_ne same] at found
      exact good.stored other stored found
  bytes := by
    simp only [VpnReassembler.store, Table.weight_insert_of_absent _ absent, good.bytes]
  bytes_le := room
  inflight_le := by
    simp only [VpnReassembler.store, Table.size_insert_of_absent absent]
    exact count

end VpnReassembler

end FlowWeave.Vpn
