/-
# Vpn.ReassemblerRuns — reassemblers in every reachable state

A reassembler is reached from a new one by any calls of its mutators, with any bytes
and times, while the hash table may change its order between them.

* `reachable_represents` — what holds of the fields then: it is `Good`, and no packet has
  more fragments than allowed (`Counted`).
-/
import FlowWeave.Vpn.Ingest

namespace FlowWeave.Vpn

open Theory.Segments Theory.MachineInt

set_option autoImplicit false

/-! ## Runs -/

/-- A call of one of the reassembler's mutators. -/
inductive ReassemblerCall where
  | ingest (now : Nat) (datagram : List UInt8)
  | expire (now : Nat)
  | evictPacket (packetId : UInt32)
  | rejectDecodedFragment (packetId : UInt32)
  | clear

namespace VpnReassembler

def call (self : VpnReassembler) : ReassemblerCall → VpnReassembler
  | .ingest now datagram => (self.ingest now datagram).2
  | .expire now => (self.expire now).2
  | .evictPacket packetId => (self.evictPacket packetId).2
  | .rejectDecodedFragment packetId => self.rejectDecodedFragment packetId
  | .clear => self.clear

inductive Reachable (limits : VpnReassemblyLimits) : VpnReassembler → Prop
  | new {self : VpnReassembler} (built : VpnReassembler.new limits = .ok self) :
      Reachable limits self
  | rehash {self after : VpnReassembler} (earlier : Reachable limits self)
      (rehash : Rehash self after) : Reachable limits after
  | call {self : VpnReassembler} (earlier : Reachable limits self) (call : ReassemblerCall) :
      Reachable limits (self.call call)

/-! ## How many fragments a packet has -/

/-- Every stored packet has between 1 and 64 fragments. -/
def Counted (self : VpnReassembler) : Prop :=
  ∀ packetId held, self.packets.lookup packetId = some held →
    1 ≤ held.fragments.entries.length ∧
      held.fragments.entries.length ≤ vpnMaxFragmentsPerPacket

variable {after self : VpnReassembler} {limits : VpnReassemblyLimits}

theorem Prunes.counted {before : VpnReassembler} (prunes : Prunes before after)
    (counted : before.Counted) : after.Counted :=
  fun packetId held found => counted packetId held (prunes.lookup_some found)

theorem absorb_counted {now : Nat} {fragment : VpnFragment} {held : PartialPacket}
    {duplicate : Bool} (good : self.Good) (counted : self.Counted)
    (wellFormed : fragment.WellFormed)
    (absorbed : (self.partialFor now fragment).absorb now fragment = .ok (held, duplicate)) :
    1 ≤ held.fragments.entries.length ∧
      held.fragments.entries.length ≤ vpnMaxFragmentsPerPacket := by
  obtain ⟨-, ⟨-, rfl, member⟩ | ⟨-, rfl, few, apart⟩⟩ := PartialPacket.absorb_ok absorbed
  · -- a copy of a fragment, so there is a stored packet
    unfold partialFor at member ⊢
    cases found : self.packets.lookup fragment.packetId with
    | none => rw [found] at member; cases member
    | some stored => exact counted _ stored found
  · have perm := sortedInsert_perm fragment.payload
      (PartialPacket.offset_fresh wellFormed apart (good.partialFor now wellFormed).separated)
    simp only [PartialPacket.withFragment, SortedMap.insert_entries, perm.length_eq,
      List.length_cons]
    omega

theorem Outcome.counted {now : Nat} {datagram : List UInt8}
    {result : Except VpnPacketError (Option (List UInt8))}
    (outcome : Outcome self now datagram result after) (good : self.Good) (counted : self.Counted) :
    after.Counted := by
  by_cases notStored : result = .ok none
  · subst notStored
    cases outcome with
    | @stored fragment held duplicate decoded absorbed missing =>
      intro packetId other found
      have prunes := ((Prunes.removePacket self fragment.packetId).trans
        (countDuplicate_prunes _ duplicate)).trans
        (makeRoom_prunes _ held.receivedBytes)
      by_cases same : packetId = fragment.packetId
      · subst same
        rw [store, AList.lookup_insert] at found
        cases found
        exact absorb_counted good counted (decodeVpnIpFragment_wellFormed decoded) absorbed
      · rw [store, AList.lookup_insert_ne same] at found
        exact counted packetId other (prunes.lookup_some found)
  · exact (outcome.prunes_of_not_stored notStored).counted counted

theorem ingest_counted (good : self.Good) (counted : self.Counted) (now : Nat)
    (datagram : List UInt8) : (self.ingest now datagram).2.Counted := by
  obtain ⟨after, outcome, recorded⟩ := ingest_outcome self now datagram
  have pruned := expired_prunes self now
  rw [recorded]
  exact (recordResult_prunes after _).counted
    (outcome.counted (pruned.good good) (pruned.counted counted))

/-- What is kept along a run. -/
structure Kept (limits : VpnReassemblyLimits) (state : VpnReassembler) : Prop where
  good : state.Good
  counted : state.Counted
  limits_eq : state.limits = limits

theorem Kept.prunes {before : VpnReassembler} (kept : Kept limits before)
    (prunes : Prunes before after) : Kept limits after :=
  ⟨prunes.good kept.good, prunes.counted kept.counted, prunes.limits_eq.trans kept.limits_eq⟩

theorem Kept.call (kept : Kept limits self) (call : ReassemblerCall) :
    Kept limits (self.call call) := by
  cases call with
  | ingest now datagram =>
    exact ⟨ingest_good kept.good now datagram, ingest_counted kept.good kept.counted now datagram,
      (ingest_limits self now datagram).trans kept.limits_eq⟩
  | expire now => exact kept.prunes (expire_prunes self now)
  | evictPacket packetId => exact kept.prunes (evictPacket_prunes self packetId)
  | rejectDecodedFragment packetId => exact kept.prunes (rejectDecodedFragment_prunes self packetId)
  | clear =>
    exact ⟨clear_good kept.good,
      fun packetId held found => by simp [VpnReassembler.call, clear] at found, kept.limits_eq⟩

theorem Reachable.kept (reachable : Reachable limits self) : Kept limits self := by
  induction reachable with
  | new built =>
    refine ⟨(new_good built).1, fun packetId held found => ?_, (new_good built).2⟩
    rw [(new_empty built).1, AList.lookup_empty] at found
    cases found
  | rehash earlier rehash ih =>
    exact ⟨rehash.good ih.good,
      fun packetId held found => ih.counted packetId held
        ((rehash.packets.lookup_eq packetId).trans found),
      rehash.limits_eq.trans ih.limits_eq⟩
  | call earlier call ih => exact ih.call call

/-! ## Errors -/

/-- A scan fails only at an overlap. -/
theorem scanFragments_error {fragment : VpnFragment} {fragmentEnd : Nat}
    {entries : List (Nat × List UInt8)} {error : VpnPacketError}
    (failed : scanFragments fragment fragmentEnd entries = .error error) :
    error = .fragmentOverlap := by
  induction entries with
  | nil => simp [scanFragments] at failed
  | cons entry rest ih =>
    simp only [scanFragments] at failed
    split at failed
    · cases failed
    · split at failed
      · cases failed
        rfl
      · exact ih failed

end VpnReassembler

/-- The errors with which a partial packet refuses a fragment. -/
def VpnPacketError.refusesFragment : VpnPacketError → Bool
  | .fragmentTotalChanged | .fragmentOverlap | .fragmentLimitExceeded => true
  | _ => false

variable {error : VpnPacketError}

/-- The header check has errors of its own. -/
theorem inspectVpnIpPacket_error {packet : List UInt8}
    (failed : inspectVpnIpPacket packet = .error error) :
    error.refusesFragment = false ∧ error ≠ .fragmentBounds := by
  simp only [inspectVpnIpPacket, inspectIpv4Packet, inspectIpv6Packet] at failed
  repeat' split at failed
  all_goals cases failed
  all_goals exact ⟨rfl, by decide⟩

theorem PartialPacket.absorb_error {held : PartialPacket} {now : Nat} {fragment : VpnFragment}
    (good : held.Good) (wellFormed : fragment.WellFormed)
    (failed : held.absorb now fragment = .error error) : error.refusesFragment = true := by
  have inside := wellFormed.inside
  have small := wellFormed.small
  unfold absorb at failed
  split at failed
  · cases failed
    rfl
  · rename_i sameTotal
    have ends : fragment.offset + fragment.payload.length ≤ usizeMax := by
      simp only [vpnMaxIpPacketLen, usizeMax] at small ⊢
      omega
    rw [checkedAdd_eq_some ends] at failed
    simp only at failed
    split at failed
    · rename_i overlaps
      cases failed
      rw [VpnReassembler.scanFragments_error overlaps]
      rfl
    · cases failed
    · rename_i absent
      have fits := received_add_le good wellFormed (not_not.mp sameTotal)
        (scanFragments_absent absent)
      have heldSmall := good.small
      have sum : held.receivedBytes + fragment.payload.length ≤ usizeMax := by
        simp only [vpnMaxIpPacketLen, usizeMax] at heldSmall ⊢
        omega
      split at failed
      · cases failed
        rfl
      · rw [checkedAdd_eq_some sum] at failed
        cases failed

/-- A complete packet is refused by the header check only. -/
theorem PartialPacket.assemble_error {held : PartialPacket} (good : held.Good)
    (complete : held.receivedBytes = held.totalLen) (failed : held.assemble = .error error) :
    error.refusesFragment = false ∧ error ≠ .fragmentBounds := by
  rw [assemble_eq good complete] at failed
  cases inspected : inspectVpnIpPacket (joined held.fragments.entries) with
  | error other =>
    rw [inspected] at failed
    cases failed
    exact inspectVpnIpPacket_error inspected
  | ok metadata => rw [inspected] at failed; cases failed

namespace VpnReassembler

theorem Outcome.not_fragmentBounds {self after : VpnReassembler} {now : Nat}
    {datagram : List UInt8} {result : Except VpnPacketError (Option (List UInt8))}
    {fragment : VpnFragment} (outcome : Outcome self now datagram result after) (good : self.Good)
    (decoded : decodeVpnIpFragment datagram = .ok fragment) : result ≠ .error .fragmentBounds := by
  have wellFormed := decodeVpnIpFragment_wellFormed decoded
  rintro rfl
  cases outcome with
  | undecoded failed => rw [decoded] at failed; cases failed
  | refused decoded' absorbed =>
    rw [decoded] at decoded'
    cases decoded'
    cases PartialPacket.absorb_error (good.partialFor now wellFormed) wellFormed absorbed
  | malformed decoded' absorbed complete assembled =>
    rw [decoded] at decoded'
    cases decoded'
    have heldGood := PartialPacket.absorb_good (good.partialFor now wellFormed) wellFormed absorbed
    exact (PartialPacket.assemble_error heldGood complete assembled).2 rfl

/-! ## The representation invariant -/

/-- A partial packet as it stands in the table. -/
structure Represents (held : PartialPacket) : Prop where
  fragmentCount : 1 ≤ held.fragments.entries.length ∧
    held.fragments.entries.length ≤ vpnMaxFragmentsPerPacket
  filled : ∀ entry ∈ held.fragments.entries, entry.2 ≠ []
  disjoint : held.fragments.entries.Pairwise fun one other => ¬ Overlaps one other
  inside : ∀ entry ∈ held.fragments.entries, entry.1 + entry.2.length ≤ held.totalLen
  received : held.receivedBytes = (held.fragments.entries.map fun entry => entry.2.length).sum
  missing : held.receivedBytes < held.totalLen

/-- **The representation invariant.** Whatever was called with whatever bytes and times,
the stored packets are as `Represents` says, the byte counter is their sum, and both
limits hold. A datagram that decodes is never answered with `FragmentBounds`, so the two
checks on the joined packet never fail. -/
theorem reachable_represents {limits : VpnReassemblyLimits} {self : VpnReassembler}
    (reachable : Reachable limits self) :
    (∀ packetId held, self.packets.lookup packetId = some held → Represents held) ∧
      self.bufferedBytes = self.packets.weight (·.receivedBytes) ∧
      self.packets.size ≤ limits.maxInflightPackets ∧
      self.bufferedBytes ≤ limits.maxBufferedBytes ∧
      ∀ now datagram fragment, decodeVpnIpFragment datagram = .ok fragment →
        (self.ingest now datagram).1 ≠ .error .fragmentBounds := by
  obtain ⟨good, counted, rfl⟩ := reachable.kept
  refine ⟨?_, good.bytes, good.inflight_le, good.bytes_le, ?_⟩
  · intro packetId held found
    obtain ⟨heldGood, missing⟩ := good.stored packetId held found
    exact {
      fragmentCount := counted packetId held found
      filled := fun entry member => (heldGood.separated.mem member).2.1
      disjoint := heldGood.separated.pairwise.imp fun below both => by
        have := both.2
        omega
      inside := fun entry member => (heldGood.separated.mem member).2.2
      received := heldGood.received
      missing := missing }
  · intro now datagram fragment decoded
    obtain ⟨after, outcome, -⟩ := ingest_outcome self now datagram
    exact outcome.not_fragmentBounds ((expired_prunes self now).good good) decoded

/-- The first half of a packet of 40 bytes. -/
def exampleDatagram : List UInt8 := vpnIpDatagram 7 40 0 (List.replicate 20 0)

def exampleNew : VpnReassembler :=
  ⟨.default, ∅, 0, .default⟩

def exampleReassembler : VpnReassembler := exampleNew.call (.ingest 0 exampleDatagram)

theorem exampleReassembler_reachable : Reachable .default exampleReassembler :=
  .call (.new rfl) _

theorem reachable_represents_example :
    exampleReassembler.packets.size = 1 ∧
      (∀ packetId held, exampleReassembler.packets.lookup packetId = some held →
        Represents held) ∧
      exampleReassembler.bufferedBytes = exampleReassembler.packets.weight (·.receivedBytes) ∧
      exampleReassembler.packets.size ≤ vpnDefaultMaxInflightPackets ∧
      exampleReassembler.bufferedBytes ≤ vpnDefaultMaxReassemblyBytes ∧
      ∀ now datagram fragment, decodeVpnIpFragment datagram = .ok fragment →
        (exampleReassembler.ingest now datagram).1 ≠ .error .fragmentBounds :=
  ⟨by decide +kernel, reachable_represents exampleReassembler_reachable⟩

end VpnReassembler

end FlowWeave.Vpn
