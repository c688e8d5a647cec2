/-
# Failover.RecoveryGap — the longest silence after a fault (`src/lib.rs`)

`recovery_gap_trace_after_fault` looks at the receive times of the sustained records, pair by
pair, and takes the greatest distance among the pairs whose later record is not before the fault.
Times are in nanoseconds and their differences saturate, as `saturating_duration_since` does.

Between the head of a sorted list and a record past a limit two neighbours lie on both sides of
the limit (`exists_across`). At the fault they show that there is a gap; at the end of a silent
interval they show that the interval is no longer than the gap: `recovery_gap_longest_silence`.
-/
import Mathlib.Data.List.Basic

namespace FlowWeave.Failover

set_option autoImplicit false

structure RecoveryGapTrace where
  duration : Nat
  startedAfterFault : Nat
  endedAfterFault : Nat
  nextSequence : Nat
  deriving DecidableEq, Repr

/-- `Iterator::max_by_key`: the last item with the greatest key. -/
def maxByKey {α : Type} (key : α → Nat) : List α → Option α
  | [] => none
  | first :: rest => some (rest.foldl (fun best item =>
    if key item < key best then best else item) first)

/-- The gap that ends with the record after `index`. A slice is shorter than `u64::MAX`, so the
cast of its index is exact. -/
def gapTrace (failureStarted : Nat) (pair : Nat × Nat) (index : Nat) : RecoveryGapTrace where
  duration := pair.2 - pair.1
  startedAfterFault := pair.1 - failureStarted
  endedAfterFault := pair.2 - failureStarted
  nextSequence := index + 1

/-- The candidates: `windows(2)`, numbered and filtered. -/
def gapTraces (receivedAt : List Nat) (failureStarted : Nat) : List RecoveryGapTrace :=
  ((receivedAt.zip receivedAt.tail).zipIdx.filter fun item => failureStarted ≤ item.1.2).map
    fun item => gapTrace failureStarted item.1 item.2

def recoveryGapTraceAfterFault (receivedAt : List Nat) (failureStarted : Nat) :
    Option RecoveryGapTrace :=
  let hasBefore := receivedAt.any (· < failureStarted)
  let hasAfter := receivedAt.any (failureStarted ≤ ·)
  if !hasBefore || !hasAfter then none
  else maxByKey RecoveryGapTrace.duration (gapTraces receivedAt failureStarted)

/-! ## The greatest item -/

section Maximum

variable {α : Type} (key : α → Nat)

theorem foldl_max_spec (items : List α) (first : α) :
    let best := items.foldl (fun best item => if key item < key best then best else item) first
    best ∈ first :: items ∧ ∀ item ∈ first :: items, key item ≤ key best := by
  induction items generalizing first with
  | nil => simp
  | cons item rest ih =>
    obtain ⟨member, greatest⟩ := ih (if key item < key first then first else item)
    refine ⟨?_, fun other isMember => ?_⟩
    · rcases List.mem_cons.mp member with best | inRest
      · rw [List.foldl_cons, best]
        split <;> simp
      · exact List.mem_cons_of_mem _ (List.mem_cons_of_mem _ inRest)
    · have bound := greatest _ List.mem_cons_self
      simp only [List.mem_cons] at isMember greatest
      rcases isMember with rfl | rfl | inRest
      · exact Nat.le_trans (by split <;> omega) bound
      · exact Nat.le_trans (by split <;> omega) bound
      · exact greatest other (.inr inRest)

theorem maxByKey_spec {items : List α} {best : α} (found : maxByKey key items = some best) :
    best ∈ items ∧ ∀ item ∈ items, key item ≤ key best := by
  cases items with
  | nil => cases found
  | cons first rest =>
    cases found
    exact foldl_max_spec key rest first

theorem maxByKey_isSome {items : List α} : (maxByKey key items).isSome ↔ items ≠ [] := by
  cases items <;> simp [maxByKey]

end Maximum

/-! ## Neighbours -/

/-- Two records in a row, the later one at or after the fault. -/
structure Consecutive (receivedAt : List Nat) (failureStarted index earlier later : Nat) :
    Prop where
  found : receivedAt[index]? = some earlier
  next : receivedAt[index + 1]? = some later
  after : failureStarted ≤ later

theorem mem_gapTraces {receivedAt : List Nat} {failureStarted : Nat} {gap : RecoveryGapTrace} :
    gap ∈ gapTraces receivedAt failureStarted ↔ ∃ index earlier later,
      Consecutive receivedAt failureStarted index earlier later ∧
        gap = gapTrace failureStarted (earlier, later) index := by
  have pairs (pair : Nat × Nat) (index : Nat) :
      (pair, index) ∈ (receivedAt.zip receivedAt.tail).zipIdx ↔
        receivedAt[index]? = some pair.1 ∧ receivedAt[index + 1]? = some pair.2 := by
    rw [List.mk_mem_zipIdx_iff_getElem?, List.getElem?_zip_eq_some, List.getElem?_tail]
  simp only [gapTraces, List.mem_map, List.mem_filter, decide_eq_true_eq]
  constructor
  · rintro ⟨⟨pair, index⟩, ⟨member, after⟩, rfl⟩
    obtain ⟨earlier, later⟩ := (pairs pair index).mp member
    exact ⟨index, pair.1, pair.2, ⟨earlier, later, after⟩, rfl⟩
  · rintro ⟨index, earlier, later, found, rfl⟩
    exact ⟨((earlier, later), index), ⟨(pairs _ _).mpr ⟨found.found, found.next⟩, found.after⟩,
      rfl⟩

/-- On the way from below a limit to a record past it, two neighbours lie on its sides. -/
theorem exists_across {limit first : Nat} {rest : List Nat} (below : first < limit)
    (past : ∃ time ∈ first :: rest, limit ≤ time) :
    ∃ index earlier later, (first :: rest)[index]? = some earlier ∧
      (first :: rest)[index + 1]? = some later ∧ earlier < limit ∧ limit ≤ later := by
  induction rest generalizing first with
  | nil =>
    obtain ⟨time, member, reached⟩ := past
    rw [List.mem_singleton.mp member] at reached
    exact absurd reached (Nat.not_le.mpr below)
  | cons second rest ih =>
    by_cases reached : limit ≤ second
    · exact ⟨0, first, second, rfl, rfl, below, reached⟩
    · obtain ⟨time, member, passed⟩ := past
      have inRest : time ∈ second :: rest := by
        rcases List.mem_cons.mp member with rfl | inRest
        · omega
        · exact inRest
      obtain ⟨index, found⟩ := ih (Nat.not_le.mp reached) ⟨time, inRest, passed⟩
      exact ⟨index + 1, found⟩

theorem exists_across_of_sorted {receivedAt : List Nat} (sorted : receivedAt.Pairwise (· ≤ ·))
    {limit : Nat} (below : ∃ time ∈ receivedAt, time < limit)
    (past : ∃ time ∈ receivedAt, limit ≤ time) :
    ∃ index earlier later, receivedAt[index]? = some earlier ∧
      receivedAt[index + 1]? = some later ∧ earlier < limit ∧ limit ≤ later := by
  obtain ⟨time, member, small⟩ := below
  cases receivedAt with
  | nil => cases member
  | cons first rest =>
    refine exists_across ?_ past
    rcases List.mem_cons.mp member with rfl | inRest
    · exact small
    · exact Nat.lt_of_le_of_lt ((List.pairwise_cons.mp sorted).1 time inRest) small

/-! ## The gap -/

theorem hasBefore_hasAfter_iff (receivedAt : List Nat) (failureStarted : Nat) :
    (!receivedAt.any (· < failureStarted) || !receivedAt.any (failureStarted ≤ ·)) = false ↔
      (∃ time ∈ receivedAt, time < failureStarted) ∧
        ∃ time ∈ receivedAt, failureStarted ≤ time := by
  rw [Bool.or_eq_false_iff, Bool.not_eq_false', Bool.not_eq_false', List.any_eq_true,
    List.any_eq_true]
  simp only [decide_eq_true_eq]

/-- **The gap is the longest silence after the fault.** There is one exactly if records lie on both
sides of the fault. It is the greatest distance of neighbours whose later record is not before the
fault, it ends with the record that it names, and no interval from the fault to the last record
without a record inside is longer. -/
theorem recovery_gap_longest_silence (receivedAt : List Nat) (sorted : receivedAt.Pairwise (· ≤ ·))
    (failureStarted : Nat) :
    ((recoveryGapTraceAfterFault receivedAt failureStarted).isSome = true ↔
      (∃ time ∈ receivedAt, time < failureStarted) ∧ ∃ time ∈ receivedAt, failureStarted ≤ time) ∧
    ∀ gap, recoveryGapTraceAfterFault receivedAt failureStarted = some gap →
      (∃ index earlier later, Consecutive receivedAt failureStarted index earlier later ∧
        gap.duration = later - earlier ∧ gap.nextSequence = index + 1 ∧
        gap.startedAfterFault = earlier - failureStarted ∧
        gap.endedAfterFault = later - failureStarted ∧
        (failureStarted ≤ earlier →
          gap.endedAfterFault - gap.startedAfterFault = gap.duration)) ∧
      (∀ index earlier later, Consecutive receivedAt failureStarted index earlier later →
        later - earlier ≤ gap.duration) ∧
      (∀ start stop last, receivedAt.getLast? = some last → failureStarted ≤ start →
        start ≤ stop → stop ≤ last → (∀ time ∈ receivedAt, ¬(start < time ∧ time < stop)) →
        stop - start ≤ gap.duration) ∧
      gap.endedAfterFault - gap.startedAfterFault ≤ gap.duration := by
  unfold recoveryGapTraceAfterFault
  by_cases sides : (∃ time ∈ receivedAt, time < failureStarted) ∧
      ∃ time ∈ receivedAt, failureStarted ≤ time
  case neg =>
    have missing := mt (hasBefore_hasAfter_iff receivedAt failureStarted).mp sides
    simp only [Bool.not_eq_false] at missing
    simp [missing, sides]
  case pos =>
    simp only [(hasBefore_hasAfter_iff receivedAt failureStarted).mpr sides, Bool.false_eq_true,
      if_false]
    obtain ⟨index, earlier, later, found, next, -, after⟩ :=
      exists_across_of_sorted sorted sides.1 sides.2
    have has := mem_gapTraces.mpr ⟨index, earlier, later, ⟨found, next, after⟩, rfl⟩
    refine ⟨iff_of_true ((maxByKey_isSome _).mpr (List.ne_nil_of_mem has)) sides,
      fun gap isGap => ?_⟩
    obtain ⟨member, greatest⟩ := maxByKey_spec _ isGap
    have longest (index earlier later : Nat)
        (pair : Consecutive receivedAt failureStarted index earlier later) :
        later - earlier ≤ gap.duration :=
      greatest _ (mem_gapTraces.mpr ⟨index, earlier, later, pair, rfl⟩)
    obtain ⟨place, before, ends, pair, rfl⟩ := mem_gapTraces.mp member
    refine ⟨⟨place, before, ends, pair, rfl, rfl, rfl, rfl, fun started => ?_⟩, longest,
      fun start stop last isLast begins ordered inside silent => ?_, ?_⟩
    · simp only [gapTrace]
      omega
    · -- the neighbours around the end of the interval, the earlier one not inside it
      obtain ⟨time, isTime, small⟩ := sides.1
      obtain ⟨index, earlier, later, found, next, less, reached⟩ := exists_across_of_sorted sorted
        ⟨time, isTime, Nat.lt_of_lt_of_le small (Nat.le_trans begins ordered)⟩
        ⟨last, List.mem_of_getLast? isLast, inside⟩
      have early := silent earlier (List.mem_of_getElem? found)
      have atMost := longest index earlier later
        ⟨found, next, by omega⟩
      omega
    · have after := pair.after
      simp only [gapTrace]
      omega

/-- Records at 1, 4, 9 and 12, and a fault at 3: the silence from 4 to 9. -/
theorem recovery_gap_longest_silence_example :
    recoveryGapTraceAfterFault [1, 4, 9, 12] 3 = some ⟨5, 1, 6, 2⟩ ∧
      ∀ index earlier later, Consecutive [1, 4, 9, 12] 3 index earlier later →
        later - earlier ≤ 5 := by
  have found : recoveryGapTraceAfterFault [1, 4, 9, 12] 3 = some ⟨5, 1, 6, 2⟩ := by decide
  exact ⟨found, ((recovery_gap_longest_silence [1, 4, 9, 12] (by decide) 3).2 _ found).2.1⟩

end FlowWeave.Failover
