/-
# Theory.Segments — pieces of a byte string at offsets

A *segment* is an offset and the content found there. A receiver that collects
segments of a string of known length wants one fact: once pairwise disjoint
segments inside `0 ..< n` have `n` elements between them, they tile `0 ..< n`,
and joining them in order of offset is the string.

* `SortedMap` — a map with natural keys, iterated in increasing order of key;
  `insert` replaces the value of a key that is present.
* `Separated lo hi` — segments in order, non-empty, disjoint, inside `lo ..< hi`.
  `Separated.insert` keeps it when a segment that overlaps none is added, and
  `Separated.contiguous_of_total` is the tiling fact.
* `chunkSegments` — the segments of consecutive chunks of one size.
-/
import Mathlib.Algebra.Ring.Nat
import Mathlib.Data.List.Pairwise
import Mathlib.Data.List.Sort
import Mathlib.Algebra.BigOperators.Group.List.Basic

namespace FlowWeave.Theory.Segments

open List

set_option autoImplicit false

/-! ## Maps sorted by a natural key -/

section Sorted

variable {β : Type}

/-- Put `value` at `key` in a list kept in order of key, over an old value. -/
def sortedInsert (key : Nat) (value : β) : List (Nat × β) → List (Nat × β)
  | [] => [(key, value)]
  | entry :: rest =>
    if key < entry.1 then (key, value) :: entry :: rest
    else if key = entry.1 then (key, value) :: rest
    else entry :: sortedInsert key value rest

variable {entries : List (Nat × β)}

theorem mem_sortedInsert {key : Nat} {value : β} {entry : Nat × β}
    (member : entry ∈ sortedInsert key value entries) : entry = (key, value) ∨ entry ∈ entries := by
  induction entries with
  | nil => simpa [sortedInsert] using member
  | cons head rest ih =>
    simp only [sortedInsert] at member
    split at member
    · simpa using member
    · split at member
      · rcases mem_cons.mp member with here | there
        · exact Or.inl here
        · exact Or.inr (mem_cons_of_mem _ there)
      · rcases mem_cons.mp member with here | there
        · exact Or.inr (here ▸ mem_cons_self)
        · rcases ih there with new | old
          · exact Or.inl new
          · exact Or.inr (mem_cons_of_mem _ old)

theorem sortedInsert_sorted (key : Nat) (value : β)
    (sorted : entries.Pairwise (fun a b => a.1 < b.1)) :
    (sortedInsert key value entries).Pairwise (fun a b => a.1 < b.1) := by
  induction entries with
  | nil => simp [sortedInsert]
  | cons head rest ih =>
    obtain ⟨above, tail⟩ := pairwise_cons.mp sorted
    simp only [sortedInsert]
    split
    · rename_i before
      refine pairwise_cons.mpr ⟨?_, sorted⟩
      intro entry member
      rcases mem_cons.mp member with rfl | later
      · exact before
      · exact lt_trans before (above entry later)
    · rename_i notBefore
      split
      · rename_i same
        exact pairwise_cons.mpr ⟨fun entry member => same ▸ above entry member, tail⟩
      · rename_i different
        refine pairwise_cons.mpr ⟨?_, ih tail⟩
        intro entry member
        rcases mem_sortedInsert member with rfl | old
        · exact Nat.lt_of_le_of_ne (Nat.le_of_not_lt notBefore) (Ne.symm different)
        · exact above entry old

/-- A new key makes the list longer by exactly its entry. -/
theorem sortedInsert_perm {key : Nat} (value : β) (fresh : ∀ entry ∈ entries, entry.1 ≠ key) :
    (sortedInsert key value entries).Perm ((key, value) :: entries) := by
  induction entries with
  | nil => exact Perm.refl _
  | cons head rest ih =>
    simp only [sortedInsert]
    split
    · exact Perm.refl _
    · split
      · rename_i same
        exact absurd same.symm (fresh head mem_cons_self)
      · have inner := ih (fun entry member => fresh entry (mem_cons_of_mem _ member))
        exact (inner.cons head).trans (Perm.swap _ _ _)

/-- A map with natural keys, kept and iterated in increasing order of key. -/
@[ext] structure SortedMap (β : Type) where
  entries : List (Nat × β)
  sorted : entries.Pairwise (fun a b => a.1 < b.1)

namespace SortedMap

def empty : SortedMap β := ⟨[], Pairwise.nil⟩

def insert (map : SortedMap β) (key : Nat) (value : β) : SortedMap β :=
  ⟨sortedInsert key value map.entries, sortedInsert_sorted key value map.sorted⟩

@[simp] theorem insert_entries (map : SortedMap β) (key : Nat) (value : β) :
    (map.insert key value).entries = sortedInsert key value map.entries := rfl

/-- Sorted entries are determined by which entries there are. -/
theorem entries_eq_of_mem_iff {left right : List (Nat × β)}
    (leftSorted : left.Pairwise (fun a b => a.1 < b.1))
    (rightSorted : right.Pairwise (fun a b => a.1 < b.1))
    (same : ∀ entry, entry ∈ left ↔ entry ∈ right) : left = right := by
  have distinct : ∀ {entries : List (Nat × β)},
      entries.Pairwise (fun a b => a.1 < b.1) → entries.Nodup := by
    intro entries sorted
    exact sorted.imp (fun {a b} below equal => absurd (equal ▸ below) (lt_irrefl b.1))
  have perm : left.Perm right :=
    (perm_ext_iff_of_nodup (distinct leftSorted) (distinct rightSorted)).mpr same
  refine perm.eq_of_pairwise ?_ leftSorted rightSorted
  intro a b _ _ below above
  exact absurd (lt_trans below above) (lt_irrefl _)

end SortedMap

end Sorted

/-! ## Disjoint segments -/

section Disjoint

variable {α : Type}

/-- The number of elements the segments hold. -/
def total (segments : List (Nat × List α)) : Nat :=
  (segments.map fun segment => segment.2.length).sum

/-- The contents, in list order. -/
def joined (segments : List (Nat × List α)) : List α :=
  (segments.map Prod.snd).flatten

/-- Segments in order of offset, none empty, none overlapping, all in `lo ..< hi`. -/
def Separated (hi : Nat) : Nat → List (Nat × List α) → Prop
  | lo, [] => lo ≤ hi
  | lo, (offset, content) :: rest =>
    lo ≤ offset ∧ content ≠ [] ∧ Separated hi (offset + content.length) rest

/-- Each segment starts where the one before it ended. -/
def Contiguous : Nat → List (Nat × List α) → Prop
  | _, [] => True
  | at_, (offset, content) :: rest => offset = at_ ∧ Contiguous (at_ + content.length) rest

@[simp] theorem total_nil : total ([] : List (Nat × List α)) = 0 := rfl

@[simp] theorem total_cons (segment : Nat × List α) (rest : List (Nat × List α)) :
    total (segment :: rest) = segment.2.length + total rest := by
  simp [total]

@[simp] theorem joined_nil : joined ([] : List (Nat × List α)) = [] := rfl

@[simp] theorem joined_cons (segment : Nat × List α) (rest : List (Nat × List α)) :
    joined (segment :: rest) = segment.2 ++ joined rest := by
  simp [joined]

theorem total_perm {left right : List (Nat × List α)} (perm : left.Perm right) :
    total left = total right :=
  (perm.map _).sum_eq

theorem joined_length (segments : List (Nat × List α)) :
    (joined segments).length = total segments := by
  induction segments with
  | nil => rfl
  | cons segment rest ih => simp [ih]

variable {lo hi : Nat} {segments : List (Nat × List α)} {segment : Nat × List α}

/-- Leaving out a segment that is not empty leaves out elements. -/
theorem total_filter_lt {keep : Nat × List α → Bool} (member : segment ∈ segments)
    (out : keep segment = false) (filled : segment.2 ≠ []) :
    total (segments.filter keep) < total segments := by
  have split := total_perm (filter_append_perm keep segments)
  have dropped : segment ∈ segments.filter fun other => !keep other :=
    mem_filter.mpr ⟨member, by simp [out]⟩
  obtain ⟨before, after, parts⟩ := append_of_mem dropped
  have positive := length_pos_iff.mpr filled
  rw [parts] at split
  simp only [total, map_append, map_cons, sum_append, sum_cons] at split ⊢
  omega

section Separated

variable (separated : Separated hi lo segments)

include separated

/-- Disjoint segments fit: their elements are at most the room they lie in. -/
theorem Separated.total_le : lo + total segments ≤ hi := by
  induction segments generalizing lo with
  | nil => simpa [Separated] using separated
  | cons segment rest ih =>
    obtain ⟨offset, content⟩ := segment
    obtain ⟨after, -, tail⟩ := separated
    have := ih tail
    simp only [total_cons]
    omega

/-- **Tiling.** Disjoint segments with as many elements as there is room leave no
gap. -/
theorem Separated.contiguous_of_total (full : lo + total segments = hi) :
    Contiguous lo segments := by
  induction segments generalizing lo with
  | nil => trivial
  | cons segment rest ih =>
    obtain ⟨offset, content⟩ := segment
    obtain ⟨after, -, tail⟩ := separated
    have bound := tail.total_le
    simp only [total_cons] at full
    have starts : offset = lo := by omega
    subst starts
    exact ⟨rfl, ih tail (by omega)⟩

theorem Separated.mono_lo {lo' : Nat} (below : lo' ≤ lo) : Separated hi lo' segments := by
  cases segments with
  | nil => exact le_trans below separated
  | cons segment rest => exact ⟨le_trans below separated.1, separated.2⟩

theorem Separated.lo_le : lo ≤ hi :=
  le_trans (Nat.le_add_right _ _) separated.total_le

theorem Separated.filter (keep : Nat × List α → Bool) : Separated hi lo (segments.filter keep) := by
  induction segments generalizing lo with
  | nil => exact separated
  | cons segment rest ih =>
    obtain ⟨offset, content⟩ := segment
    obtain ⟨after, filled, tail⟩ := separated
    cases kept : keep (offset, content) with
    | true =>
      rw [filter_cons_of_pos kept]
      exact ⟨after, filled, ih tail⟩
    | false =>
      rw [filter_cons_of_neg (by simp [kept])]
      exact (ih tail).mono_lo (by omega)

/-- Every member of a separated list is non-empty and inside the room. -/
theorem Separated.mem (member : segment ∈ segments) :
    lo ≤ segment.1 ∧ segment.2 ≠ [] ∧ segment.1 + segment.2.length ≤ hi := by
  induction segments generalizing lo with
  | nil => cases member
  | cons head rest ih =>
    obtain ⟨offset, content⟩ := head
    obtain ⟨after, filled, tail⟩ := separated
    rcases mem_cons.mp member with rfl | later
    · exact ⟨after, filled, tail.lo_le⟩
    · obtain ⟨above, rest⟩ := ih tail later
      exact ⟨by omega, rest⟩

/-- Two members of a separated list do not overlap. -/
theorem Separated.pairwise : segments.Pairwise (fun a b => a.1 + a.2.length ≤ b.1) := by
  induction segments generalizing lo with
  | nil => exact Pairwise.nil
  | cons head rest ih =>
    obtain ⟨offset, content⟩ := head
    obtain ⟨-, -, tail⟩ := separated
    exact pairwise_cons.mpr ⟨fun segment member => (tail.mem member).1, ih tail⟩

/-- Two segments share a position. -/
def Overlaps (a b : Nat × List α) : Prop :=
  a.1 < b.1 + b.2.length ∧ b.1 < a.1 + a.2.length

theorem Separated.apart {a b : Nat × List α} (isA : a ∈ segments) (isB : b ∈ segments) (ne : a ≠ b)
    : ¬ Overlaps a b := by
  have symmetric : Std.Symm fun a b : Nat × List α => ¬ Overlaps a b :=
    ⟨fun a b apart both => apart ⟨both.2, both.1⟩⟩
  have disjoint : segments.Pairwise fun a b => ¬ Overlaps a b :=
    separated.pairwise.imp fun below both => by
      unfold Overlaps at both
      omega
  exact disjoint.forall isA isB ne

/-- A non-empty segment that overlaps none of the others can be put among them. -/
theorem Separated.insert {offset : Nat} {content : List α} (after : lo ≤ offset)
    (filled : content ≠ []) (inside : offset + content.length ≤ hi)
    (disjoint : ∀ segment ∈ segments, ¬ Overlaps (offset, content) segment) :
    Separated hi lo (sortedInsert offset content segments) := by
  have positive : 0 < content.length := length_pos_iff.mpr filled
  induction segments generalizing lo with
  | nil => exact ⟨after, filled, inside⟩
  | cons head rest ih =>
    obtain ⟨headOffset, headContent⟩ := head
    obtain ⟨headAfter, headFilled, tail⟩ := separated
    have headPositive : 0 < headContent.length := length_pos_iff.mpr headFilled
    have apart := disjoint (headOffset, headContent) mem_cons_self
    simp only [Overlaps, not_and, not_lt] at apart
    simp only [sortedInsert]
    split
    · rename_i before
      -- the new segment ends before the head starts, since the two are disjoint
      have ends : offset + content.length ≤ headOffset := apart (by omega)
      exact ⟨after, filled, ends, headFilled, tail⟩
    · rename_i notBefore
      split
      · rename_i same
        have : headOffset + headContent.length ≤ offset := by
          by_contra inHead
          have := apart (by omega)
          omega
        omega
      · have later : headOffset + headContent.length ≤ offset := by
          by_contra inHead
          have := apart (by omega)
          omega
        refine ⟨headAfter, headFilled, ih tail later ?_⟩
        exact fun segment member => disjoint segment (mem_cons_of_mem _ member)

end Separated

/-- The bytes of a contiguous list stand at their offsets in the joined string. -/
theorem Contiguous.content_at (contiguous : Contiguous lo segments) (member : segment ∈ segments) :
    lo ≤ segment.1 ∧
      ((joined segments).drop (segment.1 - lo)).take segment.2.length = segment.2 := by
  induction segments generalizing lo with
  | nil => cases member
  | cons head rest ih =>
    obtain ⟨offset, content⟩ := head
    obtain ⟨rfl, tail⟩ := contiguous
    rcases mem_cons.mp member with rfl | later
    · simp
    · obtain ⟨above, found⟩ := ih tail later
      refine ⟨by omega, ?_⟩
      have skip : segment.1 - offset =
          content.length + (segment.1 - (offset + content.length)) := by
        omega
      rw [joined_cons, skip, ← drop_drop, drop_left]
      exact found

/-- A contiguous list covers every position up to its end. -/
theorem Contiguous.covers {position : Nat} (contiguous : Contiguous lo segments)
    (from_ : lo ≤ position) (upto : position < lo + total segments) :
    ∃ segment ∈ segments, segment.1 ≤ position ∧ position < segment.1 + segment.2.length := by
  induction segments generalizing lo with
  | nil => simp at upto; omega
  | cons head rest ih =>
    obtain ⟨offset, content⟩ := head
    obtain ⟨rfl, tail⟩ := contiguous
    by_cases here : position < offset + content.length
    · exact ⟨(offset, content), mem_cons_self, from_, here⟩
    · simp only [total_cons] at upto
      obtain ⟨segment, member, found⟩ := ih tail (by omega) (by omega)
      exact ⟨segment, mem_cons_of_mem _ member, found⟩

end Disjoint

/-! ## Chunks -/

section Chunks

variable {α : Type}

/-- Consecutive pieces of `size` elements, the last one possibly shorter. The
fuel bounds the number of pieces; `chunks` gives it the length of the list. -/
def chunksFuel (size : Nat) : Nat → List α → List (List α)
  | 0, _ => []
  | fuel + 1, xs =>
    if xs.isEmpty then [] else xs.take size :: chunksFuel size fuel (xs.drop size)

/-- `slice::chunks`. -/
def chunks (size : Nat) (xs : List α) : List (List α) := chunksFuel size xs.length xs

/-- The pieces with the offsets they stand at, counted in pieces from `index`. -/
def chunkSegments (size index : Nat) (pieces : List (List α)) : List (Nat × List α) :=
  (pieces.zipIdx index).map fun piece => (piece.2 * size, piece.1)

@[simp] theorem chunkSegments_nil (size index : Nat) :
    chunkSegments size index ([] : List (List α)) = [] := rfl

@[simp] theorem chunkSegments_cons (size index : Nat) (piece : List α) (rest : List (List α)) :
    chunkSegments size index (piece :: rest) =
      (index * size, piece) :: chunkSegments size (index + 1) rest := by
  simp [chunkSegments]

theorem chunksFuel_nil (size fuel : Nat) : chunksFuel size fuel ([] : List α) = [] := by
  cases fuel <;> rfl

variable {size : Nat}

/-- The chunk segments are separated, leave no gap, and join to the list. -/
theorem chunkSegments_spec (positive : 0 < size) (fuel index : Nat) (xs : List α)
    (enough : xs.length ≤ fuel) :
    Contiguous (index * size) (chunkSegments size index (chunksFuel size fuel xs)) ∧
      joined (chunkSegments size index (chunksFuel size fuel xs)) = xs ∧
      (∀ segment ∈ chunkSegments size index (chunksFuel size fuel xs),
        segment.2 ≠ [] ∧ segment.2.length ≤ size) := by
  induction fuel generalizing index xs with
  | zero =>
    have empty : xs = [] := length_eq_zero_iff.mp (by omega)
    subst empty
    simp [chunksFuel, Contiguous]
  | succ fuel ih =>
    cases xs with
    | nil => simp [chunksFuel, Contiguous]
    | cons x rest =>
      have shorter : ((x :: rest).drop size).length ≤ fuel := by
        simp only [length_drop, length_cons] at enough ⊢
        omega
      obtain ⟨contiguous, joins, pieces⟩ := ih (index + 1) _ shorter
      simp only [chunksFuel, isEmpty_cons, Bool.false_eq_true, if_false,
        chunkSegments_cons]
      refine ⟨⟨rfl, ?_⟩, ?_, ?_⟩
      · -- a piece shorter than `size` is the last one: nothing follows it
        by_cases long : size ≤ (x :: rest).length
        · have full : ((x :: rest).take size).length = size := by
            simp only [length_take]; omega
          rw [full, ← Nat.succ_mul]
          exact contiguous
        · have done : (x :: rest).drop size = [] := drop_eq_nil_of_le (by omega)
          simp [done, chunksFuel_nil, Contiguous]
      · rw [joined_cons, joins]
        exact take_append_drop _ _
      · intro segment member
        rcases mem_cons.mp member with rfl | later
        · refine ⟨?_, length_take_le _ _⟩
          simp only [ne_eq, take_eq_nil_iff]
          rintro (zero | impossible)
          · omega
          · cases impossible
        · exact pieces segment later

theorem Contiguous.separated {lo : Nat} {segments : List (Nat × List α)}
    (contiguous : Contiguous lo segments) (filled : ∀ segment ∈ segments, segment.2 ≠ []) :
    Separated (lo + total segments) lo segments := by
  induction segments generalizing lo with
  | nil => exact le_rfl
  | cons head rest ih =>
    obtain ⟨offset, content⟩ := head
    obtain ⟨rfl, tail⟩ := contiguous
    have inner := ih tail (fun segment member => filled segment (mem_cons_of_mem _ member))
    refine ⟨le_rfl, filled _ mem_cons_self, ?_⟩
    simpa [Nat.add_assoc] using inner

/-- At most `count` chunks when `count` of them hold the list. -/
theorem chunksFuel_length_le (fuel count : Nat) (xs : List α) (room : xs.length ≤ count * size) :
    (chunksFuel size fuel xs).length ≤ count := by
  induction fuel generalizing count xs with
  | zero => simp [chunksFuel]
  | succ fuel ih =>
    cases xs with
    | nil => simp [chunksFuel]
    | cons x rest =>
      cases count with
      | zero => simp at room
      | succ count =>
        simp only [chunksFuel, isEmpty_cons, Bool.false_eq_true, if_false,
          length_cons, Nat.add_le_add_iff_right]
        apply ih
        simp only [length_drop, Nat.succ_mul] at room ⊢
        omega

/-- The number of chunks is the length over the size, rounded up. -/
theorem chunksFuel_length_eq (positive : 0 < size) (fuel : Nat) (xs : List α)
    (enough : xs.length ≤ fuel) :
    (chunksFuel size fuel xs).length = (xs.length + size - 1) / size := by
  induction fuel generalizing xs with
  | zero =>
    have empty : xs = [] := length_eq_zero_iff.mp (by omega)
    subst empty
    simp [chunksFuel, Nat.div_eq_of_lt (Nat.sub_lt positive Nat.one_pos)]
  | succ fuel ih =>
    cases xs with
    | nil => simp [chunksFuel, Nat.div_eq_of_lt (Nat.sub_lt positive Nat.one_pos)]
    | cons x rest =>
      have shorter : ((x :: rest).drop size).length ≤ fuel := by
        simp only [length_drop, length_cons] at enough ⊢
        omega
      simp only [chunksFuel, isEmpty_cons, Bool.false_eq_true, if_false, length_cons,
        ih _ shorter, length_drop]
      rw [← Nat.add_div_right _ positive]
      by_cases long : size ≤ rest.length + 1
      · congr 1
        omega
      · -- The only chunk is a short one.
        have last : rest.length + 1 - size + size - 1 + size = size - 1 + size := by omega
        rw [last, Nat.add_div_right _ positive, Nat.div_eq_of_lt (by omega)]
        refine (Nat.div_eq_of_lt_le ?_ ?_).symm <;> omega

end Chunks

end FlowWeave.Theory.Segments
