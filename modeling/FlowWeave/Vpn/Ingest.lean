/-
# Vpn.Ingest — everything one `ingest` can do

`Outcome` lists the ways `ingestInner` can end, each with the state it leaves:
the datagram does not decode, its partial packet refuses it, the completed packet
is malformed, the packet is returned, or the packet still misses bytes and is
stored. `ingest` is that after an expiry, up to the statistics
(`ingest_outcome`); no later proof unfolds it.

* `ingest_good` — `ingest` keeps the reassembler's invariant.
* `ingest_usage_le` — on a state without expired packets an `ingest` buffers no
  more than `additionalBufferedBytes` and `fragmentWillComplete` announce.
-/
import FlowWeave.Vpn.ReassemblerInvariant

namespace FlowWeave.Vpn

open Theory Theory.Checks Theory.MachineInt

set_option autoImplicit false

namespace VpnReassembler

/-! ## Outcomes -/

/-- The partial packet a fragment goes to. -/
def partialFor (self : VpnReassembler) (now : Nat) (fragment : VpnFragment) : PartialPacket :=
  (self.packets.lookup fragment.packetId).getD (PartialPacket.new fragment.totalLen now)

theorem takePartial_eq (self : VpnReassembler) (now : Nat) (fragment : VpnFragment) :
    self.takePartial now fragment =
      (self.partialFor now fragment, self.removePacket fragment.packetId) := by
  unfold takePartial partialFor removePacket
  cases self.packets.lookup fragment.packetId <;> rfl

variable {fragment : VpnFragment} {self after before : VpnReassembler} {datagram : List UInt8}
  {now : Nat} {result : Except VpnPacketError (Option (List UInt8))} {packetId : UInt32}

theorem Good.partialFor (good : self.Good) (now : Nat) (wellFormed : fragment.WellFormed) :
    (self.partialFor now fragment).Good := by
  unfold VpnReassembler.partialFor
  cases found : self.packets.lookup fragment.packetId with
  | none => exact PartialPacket.new_good wellFormed.small
  | some held => exact (good.stored _ held found).1

/-- The ways `ingestInner` can end. -/
inductive Outcome (self : VpnReassembler) (now : Nat) (datagram : List UInt8) :
    Except VpnPacketError (Option (List UInt8)) → VpnReassembler → Prop
  | undecoded {error : VpnPacketError} (decoded : decodeVpnIpFragment datagram = .error error) :
      Outcome self now datagram (.error error) self
  | refused {fragment : VpnFragment} {error : VpnPacketError}
      (decoded : decodeVpnIpFragment datagram = .ok fragment)
      (absorbed : (self.partialFor now fragment).absorb now fragment = .error error) :
      Outcome self now datagram (.error error) (self.removePacket fragment.packetId)
  | malformed {fragment : VpnFragment} {held : PartialPacket} {duplicate : Bool}
      {error : VpnPacketError} (decoded : decodeVpnIpFragment datagram = .ok fragment)
      (absorbed : (self.partialFor now fragment).absorb now fragment = .ok (held, duplicate))
      (complete : held.receivedBytes = held.totalLen) (assembled : held.assemble = .error error) :
      Outcome self now datagram (.error error)
        ((self.removePacket fragment.packetId).countDuplicate duplicate)
  | completed {fragment : VpnFragment} {held : PartialPacket} {duplicate : Bool}
      {packet : List UInt8} (decoded : decodeVpnIpFragment datagram = .ok fragment)
      (absorbed : (self.partialFor now fragment).absorb now fragment = .ok (held, duplicate))
      (complete : held.receivedBytes = held.totalLen) (assembled : held.assemble = .ok packet) :
      Outcome self now datagram (.ok (some packet))
        ((self.removePacket fragment.packetId).countDuplicate duplicate)
  | stored {fragment : VpnFragment} {held : PartialPacket} {duplicate : Bool}
      (decoded : decodeVpnIpFragment datagram = .ok fragment)
      (absorbed : (self.partialFor now fragment).absorb now fragment = .ok (held, duplicate))
      (missing : held.receivedBytes ≠ held.totalLen) :
      Outcome self now datagram (.ok none)
        ((((self.removePacket fragment.packetId).countDuplicate duplicate).makeRoom
          held.receivedBytes).store fragment.packetId held)

theorem ingestInner_outcome (self : VpnReassembler) (now : Nat) (datagram : List UInt8) :
    Outcome self now datagram (self.ingestInner now datagram).1
      (self.ingestInner now datagram).2 := by
  unfold ingestInner
  split
  · rename_i error decoded
    exact .undecoded decoded
  · rename_i fragment decoded
    simp only [takePartial_eq]
    split
    · rename_i error absorbed
      exact .refused decoded absorbed
    · rename_i held duplicate absorbed
      split
      · rename_i complete
        split
        · rename_i error assembled
          exact .malformed decoded absorbed complete assembled
        · rename_i packet assembled
          exact .completed decoded absorbed complete assembled
      · rename_i missing
        exact .stored decoded absorbed missing

/-- The state in which `ingest` looks at the datagram. -/
def expired (self : VpnReassembler) (now : Nat) : VpnReassembler :=
  (self.countReceived.expire now).2

theorem expired_prunes (self : VpnReassembler) (now : Nat) : Prunes self (self.expired now) :=
  (expire_prunes _ now).of_same rfl rfl rfl

/-- `ingest` is an outcome on the expired state, and bookkeeping. -/
theorem ingest_outcome (self : VpnReassembler) (now : Nat) (datagram : List UInt8) :
    ∃ after, Outcome (self.expired now) now datagram (self.ingest now datagram).1 after ∧
      (self.ingest now datagram).2 = after.recordResult (self.ingest now datagram).1 :=
  ⟨_, ingestInner_outcome _ now datagram, rfl⟩

theorem recordResult_prunes (self : VpnReassembler)
    (result : Except VpnPacketError (Option (List UInt8))) :
    Prunes self (self.recordResult result) := by
  rcases result with error | _ | packet <;> exact Prunes.rest rfl rfl rfl

theorem countDuplicate_prunes (self : VpnReassembler) (duplicate : Bool) :
    Prunes self (self.countDuplicate duplicate) := by
  cases duplicate <;> exact Prunes.rest rfl rfl rfl

theorem removePacket_lookup_self (self : VpnReassembler) (packetId : UInt32) :
    (self.removePacket packetId).packets.lookup packetId = none := by
  rw [removePacket_packets, AList.lookup_erase]

/-! ## The invariant -/

theorem Outcome.good (outcome : Outcome self now datagram result after) (good : self.Good) :
    after.Good := by
  cases outcome with
  | undecoded decoded => exact good
  | refused decoded absorbed => exact good.removePacket _
  | malformed decoded absorbed complete assembled =>
    exact (countDuplicate_prunes _ _).good (good.removePacket _)
  | completed decoded absorbed complete assembled =>
    exact (countDuplicate_prunes _ _).good (good.removePacket _)
  | @stored fragment held duplicate decoded absorbed missing =>
    have wellFormed := decodeVpnIpFragment_wellFormed decoded
    have heldGood := PartialPacket.absorb_good (good.partialFor now wellFormed) wellFormed absorbed
    have misses : held.receivedBytes < held.totalLen :=
      Nat.lt_of_le_of_ne heldGood.received_le missing
    have taken := countDuplicate_prunes (self.removePacket fragment.packetId) duplicate
    have takenGood := taken.good (good.removePacket _)
    have prunes := taken.trans (makeRoom_prunes _ held.receivedBytes)
    obtain ⟨count, room⟩ :=
      makeRoom_room takenGood (le_trans heldGood.received_le heldGood.small)
    have limits := (makeRoom_prunes
      ((self.removePacket fragment.packetId).countDuplicate duplicate) held.receivedBytes).limits_eq
    refine ((makeRoom_prunes _ _).good takenGood).store heldGood misses
      (prunes.lookup_none (removePacket_lookup_self self _)) ?_ ?_
    · rw [limits]; exact count
    · rw [limits]; exact room

/-- **`ingest` keeps the invariant**, whatever the datagram and the time. -/
theorem ingest_good (good : self.Good) (now : Nat) (datagram : List UInt8) :
    (self.ingest now datagram).2.Good := by
  obtain ⟨after, outcome, recorded⟩ := ingest_outcome self now datagram
  rw [recorded]
  exact (recordResult_prunes after _).good (outcome.good ((expired_prunes self now).good good))

theorem clear_good (good : self.Good) : self.clear.Good where
  inflightLimit := good.inflightLimit
  byteLimit := good.byteLimit
  stored := fun packetId held found => by simp [clear] at found
  bytes := rfl
  bytes_le := Nat.zero_le _
  inflight_le := Nat.zero_le _

theorem Outcome.limits_eq (outcome : Outcome self now datagram result after) :
    after.limits = self.limits := by
  cases outcome with
  | undecoded decoded => rfl
  | refused decoded absorbed => exact removePacket_limits _ _
  | malformed decoded absorbed complete assembled =>
    rw [(countDuplicate_prunes _ _).limits_eq, removePacket_limits]
  | completed decoded absorbed complete assembled =>
    rw [(countDuplicate_prunes _ _).limits_eq, removePacket_limits]
  | stored decoded absorbed missing =>
    simp only [store]
    rw [(makeRoom_prunes _ _).limits_eq, (countDuplicate_prunes _ _).limits_eq, removePacket_limits]

theorem ingest_limits (self : VpnReassembler) (now : Nat) (datagram : List UInt8) :
    (self.ingest now datagram).2.limits = self.limits := by
  obtain ⟨after, outcome, recorded⟩ := ingest_outcome self now datagram
  rw [recorded, (recordResult_prunes after _).limits_eq, outcome.limits_eq,
    (expired_prunes self now).limits_eq]

/-! ## Expiry -/

/-- Nothing in the table has timed out. -/
def Fresh (self : VpnReassembler) (now : Nat) : Prop :=
  ∀ packetId held, self.packets.lookup packetId = some held →
    now - held.updatedAt < self.limits.fragmentTimeout

theorem Prunes.fresh (prunes : Prunes before after) (fresh : before.Fresh now) :
    after.Fresh now := by
  intro packetId held found
  rw [prunes.limits_eq]
  exact fresh packetId held (prunes.lookup_some found)

theorem foldl_removePacket_lookup {ids : List UInt32} (member : packetId ∈ ids)
    (self : VpnReassembler) :
    (ids.foldl VpnReassembler.removePacket self).packets.lookup packetId = none := by
  induction ids generalizing self with
  | nil => cases member
  | cons head rest ih =>
    rcases List.mem_cons.mp member with rfl | later
    · exact (foldl_removePacket_prunes rest _).lookup_none (removePacket_lookup_self self packetId)
    · exact ih later _

theorem mem_expiredIds :
    packetId ∈ self.expiredIds now ↔ ∃ held, self.packets.lookup packetId = some held ∧
      self.limits.fragmentTimeout ≤ now - held.updatedAt := by
  simp only [expiredIds, List.mem_map, List.mem_filter, ge_iff_le, decide_eq_true_eq]
  constructor
  · rintro ⟨⟨found, held⟩, ⟨member, old⟩, rfl⟩
    exact ⟨held, Table.lookup_eq_some_iff.mpr member, old⟩
  · rintro ⟨held, found, old⟩
    exact ⟨⟨packetId, held⟩, ⟨Table.lookup_eq_some_iff.mp found, old⟩, rfl⟩

theorem expire_fresh (self : VpnReassembler) (now : Nat) : (self.expire now).2.Fresh now := by
  intro packetId held found
  have prunes := expire_prunes self now
  have before := prunes.lookup_some found
  rw [prunes.limits_eq]
  by_contra old
  have member := mem_expiredIds.mpr ⟨held, before, Nat.le_of_not_lt old⟩
  have gone := foldl_removePacket_lookup member self
  simp only [expire] at found
  rw [gone] at found
  cases found

theorem Fresh.expiredIds (fresh : self.Fresh now) : self.expiredIds now = [] := by
  apply List.eq_nil_iff_forall_not_mem.mpr
  intro packetId member
  obtain ⟨held, found, old⟩ := mem_expiredIds.mp member
  exact absurd (fresh packetId held found) (Nat.not_lt.mpr old)

/-- On a fresh state the expiry inside `ingest` removes nothing. -/
theorem Fresh.expired (fresh : self.Fresh now) :
    (self.expired now).packets = self.packets ∧
      (self.expired now).bufferedBytes = self.bufferedBytes := by
  have none_ : self.countReceived.expiredIds now = [] := Fresh.expiredIds fresh
  simp only [VpnReassembler.expired, expire, none_, List.foldl_nil]
  exact ⟨rfl, rfl⟩

/-! ## What an ingest adds -/

/-- `additionalBufferedBytes` announces what `absorb` does. -/
theorem additionalBufferedBytes_of_absorb {held : PartialPacket} {duplicate : Bool}
    (absorbed : (self.partialFor now fragment).absorb now fragment = .ok (held, duplicate)) :
    self.additionalBufferedBytes fragment =
      .ok (if duplicate then 0 else fragment.payload.length) := by
  unfold partialFor at absorbed
  unfold additionalBufferedBytes
  cases found : self.packets.lookup fragment.packetId with
  | none =>
    rw [found, Option.getD_none] at absorbed
    obtain ⟨-, ⟨-, -, impossible⟩ | ⟨rfl, -⟩⟩ := PartialPacket.absorb_ok absorbed
    · cases impossible
    · rfl
  | some stored =>
    rw [found, Option.getD_some] at absorbed
    obtain ⟨sameTotal, absorbed⟩ := ite_error_eq_ok.mp absorbed
    simp only [if_neg sameTotal]
    split at absorbed
    · cases absorbed
    split at absorbed
    · cases absorbed
    · cases absorbed
      rfl
    · obtain ⟨few, absorbed⟩ := ite_error_eq_ok.mp absorbed
      split at absorbed
      · cases absorbed
      · cases absorbed
        simp only [if_neg few]
        rfl

/-- Bytes and packets of `after` are within those of `before` and the given
amounts. -/
def UsageWithin (before after : VpnReassembler) (bytes packets : Nat) : Prop :=
  after.bufferedBytes ≤ before.bufferedBytes + bytes ∧
    after.packets.size ≤ before.packets.size + packets

theorem Prunes.usageWithin (prunes : Prunes before after) (bytes packets : Nat) :
    UsageWithin before after bytes packets :=
  ⟨le_trans prunes.bytes_le (Nat.le_add_right _ _), le_trans prunes.size_le (Nat.le_add_right _ _)⟩

theorem Prunes.trans_usageWithin {mid : VpnReassembler} (prunes : Prunes mid after)
    {bytes packets : Nat} (within : UsageWithin before mid bytes packets) :
    UsageWithin before after bytes packets :=
  ⟨le_trans prunes.bytes_le within.1, le_trans prunes.size_le within.2⟩

/-- Unless it stores a packet, an outcome only removes. -/
theorem Outcome.prunes_of_not_stored (outcome : Outcome self now datagram result after)
    (notStored : result ≠ .ok none) : Prunes self after := by
  cases outcome with
  | undecoded decoded => exact Prunes.refl self
  | refused decoded absorbed => exact Prunes.removePacket self _
  | malformed decoded absorbed complete assembled =>
    exact (Prunes.removePacket self _).trans (countDuplicate_prunes _ _)
  | completed decoded absorbed complete assembled =>
    exact (Prunes.removePacket self _).trans (countDuplicate_prunes _ _)
  | stored decoded absorbed missing => exact absurd rfl notStored

/-- Storing a packet over its old partial packet adds the difference. -/
theorem store_usage {mid : VpnReassembler} (good : self.Good) (held : PartialPacket)
    (prunes : Prunes (self.removePacket packetId) mid) :
    (mid.store packetId held).bufferedBytes + self.receivedBytesOf packetId ≤
        self.bufferedBytes + held.receivedBytes ∧
      (mid.store packetId held).packets.size ≤
        self.packets.size + (if self.containsPacket packetId then 0 else 1) := by
  have midBytes := prunes.bytes_le
  have midSize := prunes.size_le
  have absent := prunes.lookup_none (removePacket_lookup_self self packetId)
  have stored : (mid.store packetId held).packets.size = mid.packets.size + 1 :=
    Table.size_insert_of_absent absent
  have bytes : (mid.store packetId held).bufferedBytes = mid.bufferedBytes + held.receivedBytes :=
    rfl
  rw [removePacket_bufferedBytes] at midBytes
  rw [removePacket_packets] at midSize
  cases found : self.packets.lookup packetId with
  | none =>
    have missing : self.containsPacket packetId = false := by simp [containsPacket, found]
    rw [receivedBytesOf_none found] at midBytes ⊢
    rw [Table.erase_of_lookup_none found] at midSize
    simp only [missing, Bool.false_eq_true, if_false]
    omega
  | some old =>
    have contains : self.containsPacket packetId = true := by simp [containsPacket, found]
    have within := good.received_le_bytes found
    have size := Table.size_erase found
    rw [receivedBytesOf_some found] at midBytes ⊢
    simp only [contains, if_true]
    omega

/-- What an `ingest` may add, as announced before it: nothing for a packet that
it completes. -/
def announcedBytes (self : VpnReassembler) (fragment : VpnFragment) (additional : Nat) : Nat :=
  if self.fragmentWillComplete fragment then 0 else additional

def announcedPackets (self : VpnReassembler) (fragment : VpnFragment) : Nat :=
  if self.containsPacket fragment.packetId ∨ self.fragmentWillComplete fragment then 0 else 1

/-- The announcement for a fragment depends on its partial packet only. -/
theorem announced_congr {other : VpnReassembler} (fragment : VpnFragment)
    (same : other.packets.lookup fragment.packetId = self.packets.lookup fragment.packetId) :
    other.additionalBufferedBytes fragment = self.additionalBufferedBytes fragment ∧
      other.containsPacket fragment.packetId = self.containsPacket fragment.packetId ∧
      other.fragmentWillComplete fragment = self.fragmentWillComplete fragment := by
  unfold additionalBufferedBytes containsPacket fragmentWillComplete
  rw [same]
  exact ⟨rfl, rfl, rfl⟩

theorem Good.receivedBytesOf_le (good : self.Good) (packetId : UInt32) :
    self.receivedBytesOf packetId ≤ vpnMaxIpPacketLen := by
  cases found : self.packets.lookup packetId with
  | none => rw [receivedBytesOf_none found]; exact Nat.zero_le _
  | some held =>
    rw [receivedBytesOf_some found]
    have heldGood := (good.stored _ held found).1
    exact le_trans heldGood.received_le heldGood.small

/-- A partial packet never outgrows the largest IP packet. -/
theorem additional_fits (good : self.Good) (wellFormed : fragment.WellFormed) {additional : Nat}
    (announced : self.additionalBufferedBytes fragment = .ok additional) :
    self.receivedBytesOf fragment.packetId + additional ≤ vpnMaxIpPacketLen := by
  have inside := wellFormed.inside
  have small := wellFormed.small
  unfold additionalBufferedBytes at announced
  cases found : self.packets.lookup fragment.packetId with
  | none =>
    rw [found] at announced
    cases announced
    rw [receivedBytesOf_none found]
    omega
  | some held =>
    have heldGood := (good.stored _ held found).1
    have received := heldGood.received_le
    rw [found] at announced
    rw [receivedBytesOf_some found]
    dsimp only at announced
    split at announced
    · cases announced
    · rename_i sameTotal
      have sameTotal := not_not.mp sameTotal
      split at announced
      · cases announced
      · rename_i fragmentEnd ends
        obtain ⟨rfl, -⟩ := checkedAdd_some_iff.mp ends
        split at announced
        · cases announced
        · cases announced
          omega
        · rename_i absent
          split at announced
          · cases announced
          · cases announced
            have fits := PartialPacket.received_add_le heldGood wellFormed sameTotal
              (scanFragments_absent absent)
            omega

/-- A fragment that adds nothing belongs to a partial packet. -/
theorem containsPacket_of_nothing (wellFormed : fragment.WellFormed)
    (nothing : self.additionalBufferedBytes fragment = .ok 0) :
    self.containsPacket fragment.packetId = true := by
  unfold additionalBufferedBytes at nothing
  unfold containsPacket
  cases found : self.packets.lookup fragment.packetId with
  | none =>
    rw [found] at nothing
    exact absurd (List.length_eq_zero_iff.mp (Except.ok.inj nothing)) wellFormed.filled
  | some held => rfl

theorem fragmentWillComplete_iff (good : self.Good) (wellFormed : fragment.WellFormed) :
    self.fragmentWillComplete fragment = true ↔
      self.receivedBytesOf fragment.packetId + fragment.payload.length = fragment.totalLen := by
  have received := good.receivedBytesOf_le fragment.packetId
  have inside := wellFormed.inside
  have small := wellFormed.small
  have fits : self.receivedBytesOf fragment.packetId + fragment.payload.length ≤ usizeMax := by
    simp only [vpnMaxIpPacketLen, usizeMax] at received small ⊢
    omega
  change (checkedAdd usizeMax (self.receivedBytesOf fragment.packetId) fragment.payload.length ==
    some fragment.totalLen) = true ↔ _
  simp only [checkedAdd_eq_some fits, beq_iff_eq, Option.some.injEq]

theorem partialFor_receivedBytes (self : VpnReassembler) (now : Nat) (fragment : VpnFragment) :
    (self.partialFor now fragment).receivedBytes = self.receivedBytesOf fragment.packetId := by
  unfold partialFor receivedBytesOf
  cases self.packets.lookup fragment.packetId <;> rfl

/-- A stored fragment has a partial packet. -/
theorem containsPacket_of_mem {entry : Nat × List UInt8}
    (member : entry ∈ (self.partialFor now fragment).fragments.entries) :
    self.containsPacket fragment.packetId = true := by
  unfold partialFor at member
  cases found : self.packets.lookup fragment.packetId with
  | none => rw [found] at member; cases member
  | some held => simp [containsPacket, found]

theorem Outcome.usage_le {additional : Nat} (outcome : Outcome self now datagram result after)
    (good : self.Good) (decoded : decodeVpnIpFragment datagram = .ok fragment)
    (announced : self.additionalBufferedBytes fragment = .ok additional) :
    UsageWithin self after (self.announcedBytes fragment additional)
      (self.announcedPackets fragment) := by
  by_cases notStored : result = .ok none
  · subst notStored
    cases outcome with
    | @stored fragment' held duplicate decoded' absorbed missing =>
      rw [decoded] at decoded'
      cases decoded'
      have prunes := (countDuplicate_prunes (self.removePacket fragment.packetId) duplicate).trans
        (makeRoom_prunes _ held.receivedBytes)
      obtain ⟨bytes, packets⟩ := store_usage good held prunes
      have asAbsorbed := additionalBufferedBytes_of_absorb absorbed
      rw [announced, Except.ok.injEq] at asAbsorbed
      have received := partialFor_receivedBytes self now fragment
      generalize VpnReassembler.store _ _ _ = final at bytes packets ⊢
      obtain ⟨sameTotal, ⟨-, same, member⟩ | ⟨rfl, same, -, -⟩⟩ :=
        PartialPacket.absorb_ok absorbed
      · -- a duplicate: its partial packet is stored again
        have contains := containsPacket_of_mem member
        rw [same, received] at bytes
        simp only [contains, if_true] at packets
        exact ⟨by omega, le_trans packets (Nat.le_add_right _ _)⟩
      · -- a new fragment that does not complete its packet
        have wellFormed := decodeVpnIpFragment_wellFormed decoded
        have sum : held.receivedBytes =
            self.receivedBytesOf fragment.packetId + fragment.payload.length := by
          rw [same, ← received]
          rfl
        have incomplete : self.fragmentWillComplete fragment = false := by
          rw [← Bool.not_eq_true, fragmentWillComplete_iff good wellFormed, ← sum, ← sameTotal]
          rw [same] at missing ⊢
          exact missing
        simp only [UsageWithin, announcedBytes, announcedPackets, incomplete, Bool.false_eq_true,
          if_false, or_false] at asAbsorbed ⊢
        exact ⟨by omega, packets⟩
  · exact (outcome.prunes_of_not_stored notStored).usageWithin _ _

section Fresh

variable {self : VpnReassembler} {now : Nat} {datagram : List UInt8}

/-- **An `ingest` buffers no more than announced.** -/
theorem ingest_usage_le {fragment : VpnFragment} {additional : Nat} (good : self.Good)
    (fresh : self.Fresh now) (decoded : decodeVpnIpFragment datagram = .ok fragment)
    (announced : self.additionalBufferedBytes fragment = .ok additional) :
    UsageWithin self (self.ingest now datagram).2 (self.announcedBytes fragment additional)
      (self.announcedPackets fragment) := by
  obtain ⟨after, outcome, recorded⟩ := ingest_outcome self now datagram
  obtain ⟨samePackets, sameBytes⟩ := fresh.expired
  have announced' : (self.expired now).additionalBufferedBytes fragment = .ok additional := by
    unfold additionalBufferedBytes at announced ⊢
    rwa [samePackets]
  have within := outcome.usage_le ((expired_prunes self now).good good) decoded announced'
  have bytes : (self.expired now).announcedBytes fragment additional =
      self.announcedBytes fragment additional := by
    unfold announcedBytes fragmentWillComplete
    rw [samePackets]
  have packets : (self.expired now).announcedPackets fragment = self.announcedPackets fragment := by
    unfold announcedPackets fragmentWillComplete containsPacket
    rw [samePackets]
  rw [bytes, packets, UsageWithin, samePackets, sameBytes] at within
  rw [recorded]
  exact (recordResult_prunes after _).trans_usageWithin within

/-- Without an announcement — the datagram does not decode, or its partial packet
refuses it — an `ingest` fails and only removes. -/
theorem ingest_prunes_of_refused (refused : ∀ fragment,
      decodeVpnIpFragment datagram = .ok fragment →
      ∃ error, self.additionalBufferedBytes fragment = .error error)
    (fresh : self.Fresh now) :
    Prunes self (self.ingest now datagram).2 ∧
      ∃ error, (self.ingest now datagram).1 = .error error := by
  obtain ⟨after, outcome, recorded⟩ := ingest_outcome self now datagram
  obtain ⟨samePackets, -⟩ := fresh.expired
  have notAbsorbed : ∀ fragment held duplicate, decodeVpnIpFragment datagram = .ok fragment →
      ((self.expired now).partialFor now fragment).absorb now fragment ≠ .ok (held, duplicate) := by
    intro fragment held duplicate decoded absorbed
    have announced := additionalBufferedBytes_of_absorb absorbed
    obtain ⟨error, failed⟩ := refused fragment decoded
    unfold additionalBufferedBytes at announced failed
    rw [samePackets, failed] at announced
    cases announced
  have failed : ∃ error, (self.ingest now datagram).1 = .error error := by
    generalize (self.ingest now datagram).1 = result at outcome
    cases outcome with
    | undecoded decoded => exact ⟨_, rfl⟩
    | refused decoded absorbed => exact ⟨_, rfl⟩
    | malformed decoded absorbed => exact absurd absorbed (notAbsorbed _ _ _ decoded)
    | completed decoded absorbed => exact absurd absorbed (notAbsorbed _ _ _ decoded)
    | stored decoded absorbed => exact absurd absorbed (notAbsorbed _ _ _ decoded)
  refine ⟨?_, failed⟩
  obtain ⟨error, isError⟩ := failed
  rw [recorded]
  have pruned := outcome.prunes_of_not_stored (by rw [isError]; simp)
  exact ((expired_prunes self now).trans pruned).trans (recordResult_prunes after _)

end Fresh

end VpnReassembler

end FlowWeave.Vpn
