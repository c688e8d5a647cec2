/-
# Vpn.ReassemblySoundness — a delivered packet is made of live datagrams

An arbitrary sender feeds a reassembler arbitrary datagrams at arbitrary times, and
its owner may expire, evict and reject partial packets in between. `Trace` is any
such run with its history: which datagrams were ingested, and when a packet id was
discarded, that is, completed, rejected, expired or evicted. A datagram is live for
an id when it was ingested after the last time the id was discarded.

`Recorded` is the invariant: every stored fragment comes from a live datagram.
`reassembly_sound`: a returned packet is an IP packet, and live datagrams of its id
and length tile it exactly. So no overlapping or conflicting fragment, and no
fragment of a discarded partial packet, contributes a byte to it.
-/
import FlowWeave.Vpn.Ingest

namespace FlowWeave.Vpn

open Theory.Segments VpnReassembler
open VpnReassembler (Prunes Outcome)

set_option autoImplicit false

/-! ## Histories -/

inductive ReassemblyEvent where
  | ingested (datagram : List UInt8)
  | discarded (packetId : UInt32)

/-- The datagrams ingested since an id was last discarded; histories stand newest
first. -/
def liveDatagrams (packetId : UInt32) : List ReassemblyEvent → List (List UInt8)
  | [] => []
  | .ingested datagram :: rest => datagram :: liveDatagrams packetId rest
  | .discarded other :: rest => if other = packetId then [] else liveDatagrams packetId rest

/-- The ids that have a partial packet before and none after. -/
def lost (before after : VpnReassembler) : List ReassemblyEvent :=
  (before.packets.keys.filter fun packetId => !after.containsPacket packetId).map .discarded

/-- The id that an `ingest` completes or rejects. -/
def concluded (datagram : List UInt8) :
    Except VpnPacketError (Option (List UInt8)) → List ReassemblyEvent
  | .ok none => []
  | _ =>
    match decodeVpnIpFragment datagram with
    | .ok fragment => [.discarded fragment.packetId]
    | .error _ => []

/-- The history up to the moment at which `ingest` looks at the datagram: it has
discarded what has expired. -/
def arrival (self : VpnReassembler) (now : Nat) (datagram : List UInt8)
    (history : List ReassemblyEvent) : List ReassemblyEvent :=
  .ingested datagram :: (lost self (self.expired now) ++ history)

/-- A run of a reassembler, with its history. -/
inductive Trace : VpnReassembler → List ReassemblyEvent → Prop
  | new {limits : VpnReassemblyLimits} {self : VpnReassembler}
      (built : new limits = .ok self) : Trace self []
  | rehash {self after : VpnReassembler} {history : List ReassemblyEvent}
      (trace : Trace self history) (rehash : self.Rehash after) : Trace after history
  | ingest {self : VpnReassembler} {history : List ReassemblyEvent} (trace : Trace self history)
      (now : Nat) (datagram : List UInt8) :
      Trace (self.ingest now datagram).2
        (concluded datagram (self.ingest now datagram).1 ++
          lost (self.expired now) (self.ingest now datagram).2 ++
          arrival self now datagram history)
  | expire {self : VpnReassembler} {history : List ReassemblyEvent} (trace : Trace self history)
      (now : Nat) : Trace (self.expire now).2 (lost self (self.expire now).2 ++ history)
  | evictPacket {self : VpnReassembler} {history : List ReassemblyEvent}
      (trace : Trace self history) (packetId : UInt32) :
      Trace (self.evictPacket packetId).2 (lost self (self.evictPacket packetId).2 ++ history)
  | rejectDecodedFragment {self : VpnReassembler} {history : List ReassemblyEvent}
      (trace : Trace self history) (packetId : UInt32) :
      Trace (self.rejectDecodedFragment packetId)
        (.discarded packetId :: lost self (self.rejectDecodedFragment packetId) ++ history)
  | clear {self : VpnReassembler} {history : List ReassemblyEvent} (trace : Trace self history) :
      Trace self.clear (lost self self.clear ++ history)

variable {packetId : UInt32}

theorem liveDatagrams_discarded {ids : List UInt32} (kept : packetId ∉ ids)
    (history : List ReassemblyEvent) :
    liveDatagrams packetId (ids.map .discarded ++ history) = liveDatagrams packetId history := by
  induction ids with
  | nil => rfl
  | cons id rest ih =>
    have ne : id ≠ packetId := fun same => kept (same ▸ List.mem_cons_self)
    simp only [List.map_cons, List.cons_append, liveDatagrams, if_neg ne]
    exact ih fun later => kept (List.mem_cons_of_mem _ later)

/-- A packet that is still there has lost nothing. -/
theorem liveDatagrams_lost (before : VpnReassembler) {after : VpnReassembler} {held : PartialPacket}
    (found : after.packets.lookup packetId = some held) (history : List ReassemblyEvent) :
    liveDatagrams packetId (lost before after ++ history) = liveDatagrams packetId history := by
  apply liveDatagrams_discarded
  intro member
  have gone := (List.mem_filter.mp member).2
  simp [containsPacket, found] at gone

/-! ## The invariant -/

/-- A datagram, with the fragment it decodes to. -/
structure Tile where
  datagram : List UInt8
  fragment : VpnFragment
  decoded : decodeVpnIpFragment datagram = .ok fragment

/-- A live datagram carries the stored fragment. -/
def Backed (history : List ReassemblyEvent) (packetId : UInt32) (totalLen : Nat)
    (entry : Nat × List UInt8) : Prop :=
  ∃ tile : Tile, tile.datagram ∈ liveDatagrams packetId history ∧
    tile.fragment.packetId = packetId ∧ tile.fragment.totalLen = totalLen ∧
    (tile.fragment.offset, tile.fragment.payload) = entry

theorem Backed.of_live {history later : List ReassemblyEvent} {totalLen : Nat}
    {entry : Nat × List UInt8} (backed : Backed history packetId totalLen entry)
    (keeps : ∀ datagram ∈ liveDatagrams packetId history, datagram ∈ liveDatagrams packetId later) :
    Backed later packetId totalLen entry := by
  obtain ⟨tile, live, carries⟩ := backed
  exact ⟨tile, keeps _ live, carries⟩

/-- Every stored fragment comes from a live datagram. -/
def Recorded (self : VpnReassembler) (history : List ReassemblyEvent) : Prop :=
  ∀ packetId held, self.packets.lookup packetId = some held →
    ∀ entry ∈ held.fragments.entries, Backed history packetId held.totalLen entry

namespace Recorded

variable {self after : VpnReassembler} {history : List ReassemblyEvent}
  (recorded : Recorded self history)

include recorded

theorem ingested (datagram : List UInt8) :
    Recorded self (.ingested datagram :: history) := fun packetId held found entry member =>
  (recorded packetId held found entry member).of_live fun _ live => List.mem_cons_of_mem _ live

theorem discarded {packetId : UInt32} (absent : self.packets.lookup packetId = none) :
    Recorded self (.discarded packetId :: history) := by
  intro other held found entry member
  have ne : packetId ≠ other := by
    rintro rfl
    rw [absent] at found
    cases found
  apply (recorded other held found entry member).of_live
  intro datagram live
  simpa only [liveDatagrams, if_neg ne] using live

/-- Removing packets, and recording which. -/
theorem prunes (prunes : Prunes self after) : Recorded after (lost self after ++ history) := by
  intro packetId held found entry member
  apply (recorded packetId held (prunes.lookup_some found) entry member).of_live
  intro datagram live
  rwa [liveDatagrams_lost self found]

theorem rehash (rehash : self.Rehash after) : Recorded after history := fun packetId held found =>
  recorded packetId held ((rehash.packets.lookup_eq packetId).trans found)

/-- What a partial packet holds after it has absorbed a fragment comes from live
datagrams and the one that has just arrived. -/
theorem absorbed {now : Nat} {datagram : List UInt8} {fragment : VpnFragment} {held : PartialPacket}
    {duplicate : Bool}
    (decoded : decodeVpnIpFragment datagram = .ok fragment)
    (absorbed : (self.partialFor now fragment).absorb now fragment = .ok (held, duplicate)) :
    ∀ entry ∈ held.fragments.entries,
      Backed (.ingested datagram :: history) fragment.packetId held.totalLen entry := by
  have earlier : ∀ entry ∈ (self.partialFor now fragment).fragments.entries,
      Backed (.ingested datagram :: history) fragment.packetId
        (self.partialFor now fragment).totalLen entry := by
    unfold partialFor
    cases found : self.packets.lookup fragment.packetId with
    | none => exact fun entry member => by cases member
    | some stored => exact recorded.ingested datagram _ stored found
  obtain ⟨sameTotal, ⟨-, rfl, -⟩ | ⟨-, rfl, -⟩⟩ := PartialPacket.absorb_ok absorbed
  · exact earlier
  · intro entry member
    rcases mem_sortedInsert member with rfl | old
    · exact ⟨⟨datagram, fragment, decoded⟩, List.mem_cons_self, rfl, sameTotal.symm, rfl⟩
    · exact earlier entry old

/-- A fragment is stored: its packet holds live datagrams, and what was evicted for
it is recorded. -/
theorem stored {now : Nat} {datagram : List UInt8} {fragment : VpnFragment} {held : PartialPacket}
    {duplicate : Bool}
    (decoded : decodeVpnIpFragment datagram = .ok fragment)
    (absorbed : (self.partialFor now fragment).absorb now fragment = .ok (held, duplicate))
    {room : VpnReassembler} (prunes : Prunes self room)
    (same : after.packets = (room.store fragment.packetId held).packets) :
    Recorded after (lost self after ++ .ingested datagram :: history) := by
  intro packetId other found entry member
  have live := liveDatagrams_lost self found (.ingested datagram :: history)
  suffices Backed (.ingested datagram :: history) packetId other.totalLen entry from
    this.of_live fun datagram member => by rwa [live]
  rw [same] at found
  by_cases here : packetId = fragment.packetId
  · subst here
    rw [store, AList.lookup_insert] at found
    cases found
    exact recorded.absorbed decoded absorbed entry member
  · rw [store, AList.lookup_insert_ne here] at found
    exact recorded.ingested datagram packetId other (prunes.lookup_some found) entry member

end Recorded

variable {self : VpnReassembler} {history : List ReassemblyEvent}

/-- The packets that an `ingest` leaves, and the packet it concludes. -/
theorem VpnReassembler.Outcome.concluded_absent {after : VpnReassembler} {now : Nat}
    {datagram : List UInt8} {result : Except VpnPacketError (Option (List UInt8))}
    (outcome : Outcome self now datagram result after) (concludes : result ≠ .ok none)
    {fragment : VpnFragment} (decoded : decodeVpnIpFragment datagram = .ok fragment) :
    after.packets.lookup fragment.packetId = none := by
  have removed := removePacket_lookup_self self fragment.packetId
  cases outcome with
  | undecoded failed => rw [failed] at decoded; cases decoded
  | refused decoded' absorbed =>
    rw [decoded] at decoded'
    cases decoded'
    exact removed
  | malformed decoded' absorbed complete assembled =>
    rw [decoded] at decoded'
    cases decoded'
    exact (countDuplicate_prunes _ _).lookup_none removed
  | completed decoded' absorbed complete assembled =>
    rw [decoded] at decoded'
    cases decoded'
    exact (countDuplicate_prunes _ _).lookup_none removed
  | stored decoded' absorbed missing => exact absurd rfl concludes

theorem Recorded.ingest (recorded : Recorded self history) (now : Nat) (datagram : List UInt8) :
    Recorded (self.ingest now datagram).2
      (concluded datagram (self.ingest now datagram).1 ++
        lost (self.expired now) (self.ingest now datagram).2 ++
        arrival self now datagram history) := by
  obtain ⟨after, outcome, finished⟩ := ingest_outcome self now datagram
  have expired := recorded.prunes (expired_prunes self now)
  have bookkeeping := recordResult_prunes after (self.ingest now datagram).1
  rw [← finished] at bookkeeping
  generalize (self.ingest now datagram).2 = final at finished bookkeeping ⊢
  generalize (self.ingest now datagram).1 = result at outcome finished bookkeeping ⊢
  by_cases concludes : result = .ok none
  · subst concludes
    have same : final.packets = after.packets := by rw [finished]; rfl
    cases outcome with
    | @stored fragment held duplicate decoded absorbed missing =>
      exact expired.stored decoded absorbed
        ((Prunes.removePacket _ _).trans ((countDuplicate_prunes _ _).trans
          (makeRoom_prunes _ _))) same
  · have pruned := (expired.ingested datagram).prunes
      ((outcome.prunes_of_not_stored concludes).trans bookkeeping)
    cases decoded : decodeVpnIpFragment datagram with
    | error error =>
      have nothing : concluded datagram result = [] := by
        unfold concluded
        rw [decoded]
        split <;> rfl
      rw [nothing]
      exact pruned
    | ok fragment =>
      have discards : concluded datagram result = [.discarded fragment.packetId] := by
        unfold concluded
        rw [decoded]
        split
        · exact absurd rfl concludes
        · rfl
      rw [discards]
      exact pruned.discarded
        (bookkeeping.lookup_none (outcome.concluded_absent concludes decoded))

/-- **Every run is recorded**, and keeps the reassembler's invariant. -/
theorem Trace.recorded (trace : Trace self history) : self.Good ∧ Recorded self history := by
  induction trace with
  | new built =>
    refine ⟨(new_good built).1, fun packetId held found => ?_⟩
    rw [(new_empty built).1] at found
    cases found
  | rehash trace rehash ih => exact ⟨rehash.good ih.1, ih.2.rehash rehash⟩
  | ingest trace now datagram ih =>
    exact ⟨ingest_good ih.1 now datagram, ih.2.ingest now datagram⟩
  | @expire self history trace now ih =>
    have prunes := expire_prunes self now
    exact ⟨prunes.good ih.1, ih.2.prunes prunes⟩
  | @evictPacket self history trace packetId ih =>
    have prunes := evictPacket_prunes self packetId
    exact ⟨prunes.good ih.1, ih.2.prunes prunes⟩
  | @rejectDecodedFragment self history trace packetId ih =>
    have prunes := rejectDecodedFragment_prunes self packetId
    refine ⟨prunes.good ih.1, (ih.2.prunes prunes).discarded ?_⟩
    exact removePacket_lookup_self _ packetId
  | clear trace ih =>
    refine ⟨clear_good ih.1, fun packetId held found => ?_⟩
    cases found

/-! ## Delivered packets -/

/-- The fragments stand side by side from the first byte of the packet to its last,
and the packet is their bytes. -/
structure Tiles (packet : List UInt8) (fragments : List VpnFragment) : Prop where
  disjoint : fragments.Pairwise fun a b => a.offset + a.payload.length ≤ b.offset
  inside : ∀ fragment ∈ fragments, fragment.offset + fragment.payload.length ≤ packet.length
  covers : ∀ position < packet.length, ∃ fragment ∈ fragments,
    fragment.offset ≤ position ∧ position < fragment.offset + fragment.payload.length
  content : ∀ fragment ∈ fragments,
    (packet.drop fragment.offset).take fragment.payload.length = fragment.payload

/-- Disjoint fragments of the right total length tile what they join to. -/
theorem Tiles.of_separated {entries : List (Nat × List UInt8)} {fragments : List VpnFragment}
    (carry : fragments.map (fun fragment => (fragment.offset, fragment.payload)) = entries)
    (separated : Separated (joined entries).length 0 entries)
    (full : total entries = (joined entries).length) : Tiles (joined entries) fragments := by
  have contiguous := separated.contiguous_of_total (by omega)
  have member : ∀ fragment ∈ fragments, (fragment.offset, fragment.payload) ∈ entries := by
    intro fragment member
    rw [← carry]
    exact List.mem_map_of_mem member
  refine { disjoint := ?_, inside := ?_, covers := ?_, content := ?_ }
  · have ordered := separated.pairwise
    rw [← carry] at ordered
    exact List.pairwise_map.mp ordered
  · exact fun fragment isFragment => (separated.mem (member fragment isFragment)).2.2
  · intro position inside
    obtain ⟨entry, isEntry, holds⟩ := contiguous.covers (Nat.zero_le position) (by omega)
    rw [← carry] at isEntry
    obtain ⟨fragment, isFragment, rfl⟩ := List.mem_map.mp isEntry
    exact ⟨fragment, isFragment, holds⟩
  · intro fragment isFragment
    have content := (contiguous.content_at (member fragment isFragment)).2
    simpa using content

/-- **Reassembly is sound against an arbitrary sender.** -/
theorem reassembly_sound (trace : Trace self history) {now : Nat} {datagram packet : List UInt8}
    (delivered : (self.ingest now datagram).1 = .ok (some packet)) :
    (∃ metadata, inspectVpnIpPacket packet = .ok metadata) ∧
      ∃ last, decodeVpnIpFragment datagram = .ok last ∧
        ∃ tiles : List Tile,
          (∀ tile ∈ tiles,
            tile.datagram ∈
                liveDatagrams last.packetId (arrival self now datagram history) ∧
              tile.fragment.packetId = last.packetId ∧
              tile.fragment.totalLen = packet.length) ∧
          Tiles packet (tiles.map (·.fragment)) := by
  obtain ⟨good, recorded⟩ := trace.recorded
  have expires := expired_prunes self now
  obtain ⟨after, outcome, -⟩ := ingest_outcome self now datagram
  rw [delivered] at outcome
  cases outcome with
  | @completed last held duplicate _ decoded absorbed complete assembled =>
    have wellFormed := decodeVpnIpFragment_wellFormed decoded
    have heldGood := PartialPacket.absorb_good
      ((expires.good good).partialFor now wellFormed) wellFormed absorbed
    obtain ⟨rfl, inspected⟩ := PartialPacket.assemble_ok heldGood complete assembled
    have full : total held.fragments.entries = (joined held.fragments.entries).length :=
      (joined_length _).symm
    have length : (joined held.fragments.entries).length = held.totalLen := by
      rw [← full, ← heldGood.received, complete]
    refine ⟨inspected, last, decoded, ?_⟩
    -- a tile for each stored fragment
    have backed := (recorded.prunes expires).absorbed decoded absorbed
    have : Nonempty Tile := ⟨⟨datagram, last, decoded⟩⟩
    choose! tileOf live ofId ofLength carries using backed
    refine ⟨held.fragments.entries.map tileOf, ?_, ?_⟩
    · intro tile member
      obtain ⟨entry, isEntry, rfl⟩ := List.mem_map.mp member
      exact ⟨live entry isEntry, ofId entry isEntry, (ofLength entry isEntry).trans length.symm⟩
    · apply Tiles.of_separated
      · rw [List.map_map, List.map_map]
        exact (List.map_congr_left carries).trans (List.map_id _)
      · rw [length]
        exact heldGood.separated
      · exact full

/-! An IPv4 header of twenty bytes, in two fragments. -/

def examplePacket : List UInt8 :=
  [0x45, 0, 0, 20, 0, 0, 0, 0, 64, 17, 0, 0, 10, 66, 0, 2, 10, 66, 0, 1]

def exampleFragment (offset : UInt8) (payload : List UInt8) : List UInt8 :=
  [0x46, 0x57, 0x49, 0x31, 0, 0, 0, 7, 0, 20, 0, offset] ++ payload

def exampleEmpty : VpnReassembler :=
  ⟨VpnReassemblyLimits.default, ∅, 0, VpnReassemblyStats.default⟩

/-- After the first fragment. -/
def exampleHalf : VpnReassembler :=
  (exampleEmpty.ingest 1 (exampleFragment 0 (examplePacket.take 8))).2

theorem reassembly_sound_example :
    (exampleHalf.ingest 2 (exampleFragment 8 (examplePacket.drop 8))).1 =
        .ok (some examplePacket) ∧
      ∃ tiles : List Tile, Tiles examplePacket (tiles.map (·.fragment)) := by
  have built : new VpnReassemblyLimits.default = .ok exampleEmpty := rfl
  have delivered : (exampleHalf.ingest 2 (exampleFragment 8 (examplePacket.drop 8))).1 =
      .ok (some examplePacket) := by decide +kernel
  have trace := (Trace.new built).ingest 1 (exampleFragment 0 (examplePacket.take 8))
  obtain ⟨-, last, -, tiles, -, tiled⟩ := reassembly_sound trace delivered
  exact ⟨delivered, tiles, tiled⟩

end FlowWeave.Vpn
