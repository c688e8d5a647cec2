/-
# Realtime.Batch — the batches of the C group (`src/realtime.rs`)

A batch is five messages with consecutive sequence numbers in one datagram of fixed size: the
generation time of the first in microseconds, the other four as distances in ticks of four
microseconds, then the digests and the payloads. The two directions of the codec are inverse
to each other and the decoder does not panic (`realtime_batch_round_trip`).
-/
import FlowWeave.Realtime.Payload
import FlowWeave.Theory.MachineInt
import FlowWeave.Theory.Panics

namespace FlowWeave.Realtime

open Theory Theory.MachineInt Theory.BigEndian Fallible List

set_option autoImplicit false

/-- The ASCII text `FWC1`. -/
def realtimeMagic : List UInt8 := [0x46, 0x57, 0x43, 0x31]

def realtimeVersion : UInt8 := 1

def realtimeMessageSize : Nat := 200

def realtimeBatchMessages : Nat := 5

def realtimeTimestampQuantumMicros : Nat := 4

def realtimeBatchHeaderSize : Nat :=
  20 + (realtimeBatchMessages - 1) * 2 + realtimeBatchMessages * 4

def realtimeBatchSize : Nat := realtimeBatchHeaderSize + realtimeBatchMessages * realtimeMessageSize

abbrev RealtimePayload := List.Vector UInt8 realtimeMessageSize

structure RealtimeMessage where
  sequence : UInt32
  generatedMicros : UInt64
  payload : RealtimePayload

open RealtimeMessage

structure DecodedRealtimeMessage where
  sequence : UInt32
  generatedMicros : UInt64
  payloadDigest : UInt32
  payload : RealtimePayload

structure DecodedRealtimeBatch where
  batchId : UInt32
  messages : List DecodedRealtimeMessage

/-- The errors of the encoder. -/
inductive RealtimeBatchError where
  | incompleteBatch
  | firstSequenceOverflow
  | firstSequenceMismatch
  | baseTimeRange
  | timesNotMonotonic
  | timesNotQuantized
  | intervalRange
  deriving DecidableEq, Repr

/-! ## Encoding -/

/-- The distances of neighbours (`messages.windows(2)`), in ticks. -/
def encodeTicks : List RealtimeMessage → Fallible RealtimeBatchError (List UInt16)
  | first :: second :: rest => do
    let delta ← okOr .timesNotMonotonic
      (if first.generatedMicros ≤ second.generatedMicros
        then some (second.generatedMicros.toNat - first.generatedMicros.toNat) else none)
    ensure (delta % realtimeTimestampQuantumMicros = 0) .timesNotQuantized
    let ticks ← okOr .intervalRange
      (if delta / realtimeTimestampQuantumMicros < 2 ^ 16
        then some (UInt16.ofNat (delta / realtimeTimestampQuantumMicros)) else none)
    let later ← encodeTicks (second :: rest)
    return ticks :: later
  | _ => pure []

def payloadDigest (payload : RealtimePayload) : UInt32 := (digest payload.toList).toUInt32

def encodeRealtimeBatch (batchId : UInt32) (messages : List RealtimeMessage) :
    Fallible RealtimeBatchError (List UInt8) := do
  ensure (messages.length = realtimeBatchMessages) .incompleteBatch
  let expectedFirstSequence ← okOr .firstSequenceOverflow
    (checkedMul (2 ^ 32 - 1) batchId.toNat realtimeBatchMessages)
  let first ← expect messages.head?
  ensure (first.sequence.toNat = expectedFirstSequence) .firstSequenceMismatch
  let baseGeneratedMicros ← okOr .baseTimeRange
    (if first.generatedMicros.toNat < 2 ^ 32 then some first.generatedMicros.toUInt32 else none)
  let ticks ← encodeTicks messages
  let encoded := realtimeMagic ++ [realtimeVersion] ++ [UInt8.ofNat realtimeBatchMessages] ++
    [0, 0] ++ u32ToBE batchId ++ u32ToBE first.sequence ++ u32ToBE baseGeneratedMicros ++
    ticks.flatMap u16ToBE ++
    messages.flatMap (fun message => u32ToBE (payloadDigest message.payload)) ++
    messages.flatMap (fun message => message.payload.toList)
  assert (encoded.length = realtimeBatchSize)
  return encoded

/-! ## Decoding -/

def tickBytes (data : List UInt8) (slot : Nat) : Option (List UInt8) :=
  slice? data (20 + (slot - 1) * 2) (20 + (slot - 1) * 2 + 2)

def digestBytes (data : List UInt8) (slot : Nat) : Option (List UInt8) :=
  slice? data (20 + (realtimeBatchMessages - 1) * 2 + slot * 4)
    (20 + (realtimeBatchMessages - 1) * 2 + slot * 4 + 4)

/-- A payload copied from its place; the copy panics if the lengths differ. -/
def payloadBytes (data : List UInt8) (slot : Nat) : Option RealtimePayload := do
  let bytes ← slice? data (realtimeBatchHeaderSize + slot * realtimeMessageSize)
    (realtimeBatchHeaderSize + slot * realtimeMessageSize + realtimeMessageSize)
  if length : bytes.length = realtimeMessageSize then some ⟨bytes, length⟩ else none

/-- The generation times of some slots; `previous` is the one before them. -/
def decodeGenerated (data : List UInt8) : List Nat → UInt64 → Fallible Unit (List UInt64)
  | [], _ => pure []
  | slot :: slots, previous => do
    let ticks ← expect (tickBytes data slot)
    let distance ← expect
      (checkedMul u64Max (u16FromBE ticks).toNat realtimeTimestampQuantumMicros)
    let generated ← okOr () (checkedAdd u64Max previous.toNat distance)
    let later ← decodeGenerated data slots (UInt64.ofNat generated)
    return UInt64.ofNat generated :: later

/-- The messages from a slot on, with their generation times. -/
def decodeMessages (data : List UInt8) (firstSequence : UInt32) :
    Nat → List UInt64 → Fallible Unit (List DecodedRealtimeMessage)
  | _, [] => pure []
  | slot, generatedMicros :: times => do
    let sequence ← okOr () (checkedAdd (2 ^ 32 - 1) firstSequence.toNat slot)
    let payloadDigest ← expect (digestBytes data slot)
    let payload ← expect (payloadBytes data slot)
    let later ← decodeMessages data firstSequence (slot + 1) times
    return { sequence := UInt32.ofNat sequence, generatedMicros,
             payloadDigest := u32FromBE payloadDigest, payload } :: later

def decodeRealtimeBatch (data : List UInt8) : Fallible Unit DecodedRealtimeBatch := do
  ensure (data.length = realtimeBatchSize) ()
  ensure ((← expect (slice? data 0 4)) = realtimeMagic) ()
  ensure ((← expect data[4]?) = realtimeVersion) ()
  ensure ((← expect data[5]?) = UInt8.ofNat realtimeBatchMessages) ()
  ensure ((← expect (slice? data 6 8)) = [0, 0]) ()
  let batchId ← expect (slice? data 8 12)
  let firstSequence ← expect (slice? data 12 16)
  let base ← expect (slice? data 16 20)
  let later ← decodeGenerated data (range' 1 (realtimeBatchMessages - 1))
    (u32FromBE base).toUInt64
  let messages ← decodeMessages data (u32FromBE firstSequence) 0
    ((u32FromBE base).toUInt64 :: later)
  return { batchId := u32FromBE batchId, messages }

/-! ## What the encoder writes -/

/-- Neighbours among some times are the given numbers of ticks apart. -/
inductive Spaced : List UInt64 → List UInt16 → Prop
  | one (time : UInt64) : Spaced [time] []
  | cons {first second : UInt64} {rest : List UInt64} {ticks : UInt16} {later : List UInt16}
      (apart : second.toNat = first.toNat + ticks.toNat * realtimeTimestampQuantumMicros)
      (spaced : Spaced (second :: rest) later) :
      Spaced (first :: second :: rest) (ticks :: later)

variable {ticks : List UInt16} {times : List UInt64} {data : List UInt8} {slot : Nat}

theorem Spaced.length_succ (spaced : Spaced times ticks) : times.length = ticks.length + 1 := by
  induction spaced with
  | one time => rfl
  | cons apart spaced ih => rw [length_cons, ih, length_cons]

theorem encodeTicks_eq_pure_iff {first : RealtimeMessage} {rest : List RealtimeMessage} :
    encodeTicks (first :: rest) = pure ticks ↔
      Spaced ((first :: rest).map generatedMicros) ticks := by
  induction rest generalizing first ticks with
  | nil =>
    constructor
    · intro encoded
      cases pure_eq_pure_iff.mp encoded
      exact .one _
    · intro spaced
      cases spaced
      rfl
  | cons second rest ih =>
    simp only [encodeTicks, bind_eq_pure_iff, okOr_eq_pure_iff,
      ensure_eq_pure_iff, pure_eq_pure_iff, Option.ite_none_right_eq_some,
      exists_const, ih]
    constructor
    · rintro ⟨_, ⟨ordered, ⟨⟩⟩, quantized, _, ⟨small, ⟨⟩⟩, later, spaced, rfl⟩
      refine .cons ?_ spaced
      rw [UInt16.toNat_ofNat_of_lt' small,
        Nat.div_mul_cancel (Nat.dvd_of_mod_eq_zero quantized)]
      exact (Nat.add_sub_cancel' (UInt64.le_iff_toNat_le.mp ordered)).symm
    · intro spaced
      cases spaced with
      | @cons _ _ _ own later apart spaced =>
        have ordered : first.generatedMicros ≤ second.generatedMicros := by
          rw [UInt64.le_iff_toNat_le]
          omega
        have delta : second.generatedMicros.toNat - first.generatedMicros.toNat =
            own.toNat * realtimeTimestampQuantumMicros := by omega
        have quotient : own.toNat * realtimeTimestampQuantumMicros /
            realtimeTimestampQuantumMicros = own.toNat := Nat.mul_div_left _ (by decide)
        refine ⟨_, ⟨ordered, congrArg some delta⟩, Nat.mul_mod_left _ _, own, ?_, later, spaced,
          rfl⟩
        rw [quotient, UInt16.ofNat_toNat]
        exact ⟨own.toNat_lt, rfl⟩

/-- The fields of a batch in their order. -/
def batchParts (batchId sequence baseGeneratedMicros : UInt32) (ticks : List UInt16)
    (digests : List UInt32) (payloads : List RealtimePayload) : List (List UInt8) :=
  [realtimeMagic, [realtimeVersion], [UInt8.ofNat realtimeBatchMessages], [0, 0], u32ToBE batchId,
    u32ToBE sequence, u32ToBE baseGeneratedMicros] ++ ticks.map u16ToBE ++ digests.map u32ToBE ++
    payloads.map List.Vector.toList

/-- The widths of the fields. -/
def batchWidths : List Nat :=
  [4, 1, 1, 2, 4, 4, 4] ++ replicate 4 2 ++ replicate 5 4 ++ replicate 5 200

theorem batchParts_widths (batchId sequence baseGeneratedMicros : UInt32) (ticks : List UInt16)
    (digests : List UInt32) (payloads : List RealtimePayload) (four : ticks.length = 4)
    (five : digests.length = 5) (whole : payloads.length = 5) :
    (batchParts batchId sequence baseGeneratedMicros ticks digests payloads).map length =
      batchWidths := by
  have width (payload : RealtimePayload) : payload.toList.length = 200 := payload.toList_length
  simp only [batchParts, batchWidths, map_append, map_map, Function.comp_def,
    u16ToBE_length, u32ToBE_length, width, map_const', four, five, whole]
  rfl

theorem batchParts_length (batchId sequence baseGeneratedMicros : UInt32) (ticks : List UInt16)
    (digests : List UInt32) (payloads : List RealtimePayload) (four : ticks.length = 4)
    (five : digests.length = 5) (whole : payloads.length = 5) :
    (batchParts batchId sequence baseGeneratedMicros ticks digests payloads).flatten.length =
      realtimeBatchSize := by
  rw [length_flatten, batchParts_widths _ _ _ _ _ _ four five whole]
  rfl

/-- **The encoder**: what it accepts and what it writes. -/
theorem encodeRealtimeBatch_eq_pure_iff {batchId : UInt32} {messages : List RealtimeMessage}
    {bytes : List UInt8} :
    encodeRealtimeBatch batchId messages = pure bytes ↔
      ∃ first rest ticks, messages = first :: rest ∧ messages.length = realtimeBatchMessages ∧
        first.sequence.toNat = batchId.toNat * realtimeBatchMessages ∧
        first.generatedMicros.toNat < 2 ^ 32 ∧
        Spaced (messages.map generatedMicros) ticks ∧
        bytes = (batchParts batchId first.sequence first.generatedMicros.toUInt32 ticks
          (messages.map fun message => payloadDigest message.payload)
          (messages.map payload)).flatten := by
  have joined (first : RealtimeMessage) (base : UInt32) (ticks : List UInt16) :
      realtimeMagic ++ [realtimeVersion] ++ [UInt8.ofNat realtimeBatchMessages] ++ [0, 0] ++
        u32ToBE batchId ++ u32ToBE first.sequence ++ u32ToBE base ++ ticks.flatMap u16ToBE ++
        messages.flatMap (fun message => u32ToBE (payloadDigest message.payload)) ++
        messages.flatMap (fun message => message.payload.toList) =
      (batchParts batchId first.sequence base ticks
        (messages.map fun message => payloadDigest message.payload)
        (messages.map payload)).flatten := by
    simp only [batchParts, List.flatten_append, List.map_map, Function.comp_def, List.flatMap_def,
      List.flatten_cons, List.flatten_nil, List.append_assoc, List.append_nil]
  simp only [encodeRealtimeBatch, bind_eq_pure_iff, ensure_eq_pure_iff,
    okOr_eq_pure_iff, expect_eq_pure_iff, assert_eq_pure_iff,
    pure_eq_pure_iff, Option.ite_none_right_eq_some, exists_const, joined]
  constructor
  · rintro ⟨five, _, product, first, head, sequence, _, ⟨small, ⟨⟩⟩, ticks, spaced, -, rfl⟩
    obtain ⟨rest, rfl⟩ := List.head?_eq_some_iff.mp head
    obtain ⟨rfl, -⟩ := checkedMul_some_iff.mp product
    exact ⟨first, rest, ticks, rfl, five, sequence, small, encodeTicks_eq_pure_iff.mp spaced, rfl⟩
  · rintro ⟨first, rest, ticks, rfl, five, sequence, small, spaced, rfl⟩
    have product : batchId.toNat * realtimeBatchMessages ≤ 2 ^ 32 - 1 := by
      have := first.sequence.toNat_lt
      omega
    have four : ticks.length = 4 := by
      have total := spaced.length_succ
      rw [List.length_map, five] at total
      exact (Nat.succ.inj total).symm
    have sized := batchParts_length batchId first.sequence first.generatedMicros.toUInt32 ticks
      ((first :: rest).map fun message => payloadDigest message.payload)
      ((first :: rest).map payload) four
      (by rw [List.length_map]; exact five) (by rw [List.length_map]; exact five)
    exact ⟨five, _, checkedMul_some_iff.mpr ⟨rfl, product⟩, first, rfl, sequence, _, ⟨small, rfl⟩,
      ticks, encodeTicks_eq_pure_iff.mpr spaced, sized, rfl⟩

/-! ## What the decoder reads -/

def tickSlice (data : List UInt8) (slot : Nat) : List UInt8 :=
  slice data (20 + (slot - 1) * 2) (20 + (slot - 1) * 2 + 2)

def digestSlice (data : List UInt8) (slot : Nat) : List UInt8 :=
  slice data (28 + slot * 4) (28 + slot * 4 + 4)

def payloadSlice (data : List UInt8) (slot : Nat) : List UInt8 :=
  slice data (48 + slot * 200) (48 + slot * 200 + 200)

/-- The fields of a batch where the decoder looks for them. -/
theorem batch_cut (data : List UInt8) :
    cut batchWidths data =
      [slice data 0 4, slice data 4 5, slice data 5 6, slice data 6 8, slice data 8 12,
        slice data 12 16, slice data 16 20] ++ (range' 1 4).map (tickSlice data) ++
      (range' 0 5).map (digestSlice data) ++ (range' 0 5).map (payloadSlice data) := by
  simp [cut, batchWidths, slice, tickSlice, digestSlice, payloadSlice, replicate,
    range']

section Slot

variable (sized : data.length = realtimeBatchSize) (inside : slot < 5)

include sized inside

theorem digestSlice_length : (digestSlice data slot).length = 4 := by
  have whole : realtimeBatchSize = 1048 := rfl
  exact slice_width (by omega) (by omega)

theorem tickSlice_length : (tickSlice data slot).length = 2 := by
  have whole : realtimeBatchSize = 1048 := rfl
  exact slice_width (by omega) (by omega)

theorem payloadSlice_length : (payloadSlice data slot).length = realtimeMessageSize := by
  have whole : realtimeBatchSize = 1048 := rfl
  have own : realtimeMessageSize = 200 := rfl
  exact slice_width (by omega) (by omega)

theorem tickBytes_eq : tickBytes data slot = some (tickSlice data slot) := by
  have whole : realtimeBatchSize = 1048 := rfl
  exact slice?_eq (by omega) (by omega)

theorem digestBytes_eq : digestBytes data slot = some (digestSlice data slot) := by
  have whole : realtimeBatchSize = 1048 := rfl
  have count : realtimeBatchMessages = 5 := rfl
  exact slice?_eq (by omega) (by omega)

theorem payloadBytes_eq :
    ∃ payload, payloadBytes data slot = some payload ∧ payload.toList = payloadSlice data slot := by
  have whole : realtimeBatchSize = 1048 := rfl
  have read : slice? data (realtimeBatchHeaderSize + slot * realtimeMessageSize)
      (realtimeBatchHeaderSize + slot * realtimeMessageSize + realtimeMessageSize) =
      some (payloadSlice data slot) :=
    slice?_eq (Nat.le_add_right _ _) (show 48 + slot * 200 + 200 ≤ data.length by omega)
  refine ⟨⟨payloadSlice data slot, payloadSlice_length sized inside⟩, ?_, rfl⟩
  rw [payloadBytes, read]
  exact dif_pos (payloadSlice_length sized inside)

end Slot

/-- The product of the ticks and the quantum does not overflow. -/
theorem distance_fits (ticks : UInt16) :
    checkedMul u64Max ticks.toNat realtimeTimestampQuantumMicros =
      some (ticks.toNat * realtimeTimestampQuantumMicros) := by
  have small := ticks.toNat_lt
  exact checkedMul_some_iff.mpr ⟨rfl, show ticks.toNat * 4 ≤ 2 ^ 64 - 1 by omega⟩

/-- The times that the decoder finds are those with the distances in the datagram. -/
theorem decodeGenerated_eq_pure_iff (sized : data.length = realtimeBatchSize) {slots : List Nat}
    (inside : ∀ slot ∈ slots, slot < 5) {previous : UInt64} {later : List UInt64} :
    decodeGenerated data slots previous = pure later ↔
      Spaced (previous :: later) (slots.map fun slot => u16FromBE (tickSlice data slot)) := by
  induction slots generalizing previous later with
  | nil =>
    constructor
    · intro decoded
      cases pure_eq_pure_iff.mp decoded
      exact .one previous
    · intro spaced
      cases spaced
      rfl
  | cons slot slots ih =>
    have ih {previous : UInt64} {later : List UInt64} :=
      @ih (fun slot member => inside slot (mem_cons_of_mem _ member)) previous later
    simp only [decodeGenerated, tickBytes_eq sized (inside slot mem_cons_self),
      distance_fits, expect_some, pure_bind, bind_eq_pure_iff,
      okOr_eq_pure_iff, pure_eq_pure_iff, checkedAdd_some_iff, ih]
    constructor
    · rintro ⟨_, ⟨rfl, fits⟩, rest, spaced, rfl⟩
      refine .cons ?_ spaced
      exact UInt64.toNat_ofNat_of_lt' (Nat.lt_of_le_sub_one (by decide) fits)
    · intro spaced
      cases spaced with
      | @cons _ second rest _ _ apart spaced =>
        have fits : previous.toNat + (u16FromBE (tickSlice data slot)).toNat *
            realtimeTimestampQuantumMicros ≤ u64Max := by
          rw [← apart]
          exact Nat.le_sub_one_of_lt second.toNat_lt
        refine ⟨_, ⟨rfl, fits⟩, rest, ?_⟩
        rw [← apart, UInt64.ofNat_toNat]
        exact ⟨spaced, rfl⟩

/-- What the decoder finds from a slot on. -/
structure ReadsMessages (data : List UInt8) (firstSequence : UInt32) (slot : Nat)
    (times : List UInt64) (messages : List DecodedRealtimeMessage) : Prop where
  sequences : messages.map (fun message => message.sequence.toNat) =
    range' (firstSequence.toNat + slot) times.length
  generated : messages.map DecodedRealtimeMessage.generatedMicros = times
  digests : messages.map (fun message => u32ToBE message.payloadDigest) =
    (range' slot times.length).map (digestSlice data)
  payloads : messages.map (fun message => message.payload.toList) =
    (range' slot times.length).map (payloadSlice data)

theorem decodeMessages_eq_pure_iff (sized : data.length = realtimeBatchSize)
    {firstSequence : UInt32} (inside : slot + times.length ≤ 5)
    {messages : List DecodedRealtimeMessage} :
    decodeMessages data firstSequence slot times = pure messages ↔
      ReadsMessages data firstSequence slot times messages := by
  induction times generalizing slot messages with
  | nil =>
    constructor
    · intro decoded
      cases pure_eq_pure_iff.mp decoded
      exact ⟨rfl, rfl, rfl, rfl⟩
    · intro reads
      rw [List.map_eq_nil_iff.mp reads.generated]
      rfl
  | cons time times ih =>
    rw [List.length_cons] at inside
    have ih {messages : List DecodedRealtimeMessage} := @ih (slot + 1) (by omega) messages
    have own : slot < 5 := by omega
    obtain ⟨payload, copied, payloadIs⟩ := payloadBytes_eq sized own
    simp only [decodeMessages, digestBytes_eq sized own, copied, expect_some, pure_bind,
      bind_eq_pure_iff, okOr_eq_pure_iff, pure_eq_pure_iff,
      checkedAdd_some_iff, ih]
    constructor
    · rintro ⟨_, ⟨rfl, fits⟩, later, ⟨sequences, generated, digests, payloads⟩, rfl⟩
      have number : (UInt32.ofNat (firstSequence.toNat + slot)).toNat =
          firstSequence.toNat + slot :=
        UInt32.toNat_ofNat_of_lt' (Nat.lt_of_le_sub_one (by decide) fits)
      constructor
      · rw [List.map_cons, List.length_cons, List.range'_succ, sequences, number, Nat.add_assoc]
      · rw [List.map_cons, generated]
      · rw [List.map_cons, List.length_cons, List.range'_succ, List.map_cons, digests,
          u32ToBE_fromBE (digestSlice_length sized own)]
      · rw [List.map_cons, List.length_cons, List.range'_succ, List.map_cons, payloads,
          payloadIs]
    · intro reads
      obtain ⟨sequences, generated, digests, payloads⟩ := reads
      cases messages with
      | nil => exact absurd generated nofun
      | cons message later =>
        simp only [List.map_cons, List.length_cons, List.range'_succ, List.cons.injEq]
          at sequences generated digests payloads
        have fits : firstSequence.toNat + slot ≤ 2 ^ 32 - 1 := by
          have := message.sequence.toNat_lt
          omega
        have same : payload = message.payload := by
          apply List.Vector.toList_injective
          rw [payloadIs, payloads.1]
        refine ⟨_, ⟨rfl, fits⟩, later, ⟨sequences.2, generated.2, digests.2, payloads.2⟩, ?_⟩
        rw [← sequences.1, UInt32.ofNat_toNat, ← digests.1, u32FromBE_toBE, same, ← generated.1]

/-- The header that the decoder asks for. -/
structure RealtimeHeader (data : List UInt8) : Prop where
  sized : data.length = realtimeBatchSize
  magic : slice data 0 4 = realtimeMagic
  version : slice data 4 5 = [realtimeVersion]
  count : slice data 5 6 = [UInt8.ofNat realtimeBatchMessages]
  reserved : slice data 6 8 = [0, 0]

theorem slice_one_eq_iff {position : Nat} (inside : position < data.length) (byte : UInt8) :
    slice data position (position + 1) = [byte] ↔ data[position]? = some byte := by
  rw [slice_one inside, getElem?_eq_getElem inside, getD_eq_getElem _ _ inside,
    singleton_inj, Option.some_inj]

theorem decodeRealtimeBatch_eq_pure {batch : DecodedRealtimeBatch} :
    decodeRealtimeBatch data = pure batch ↔
      RealtimeHeader data ∧ batch.batchId = u32FromBE (slice data 8 12) ∧
        ∃ later, Spaced ((u32FromBE (slice data 16 20)).toUInt64 :: later)
            ((range' 1 4).map fun slot => u16FromBE (tickSlice data slot)) ∧
          ReadsMessages data (u32FromBE (slice data 12 16)) 0
            ((u32FromBE (slice data 16 20)).toUInt64 :: later) batch.messages := by
  by_cases sized : data.length = realtimeBatchSize
  · have whole : realtimeBatchSize = 1048 := rfl
    have fourth : 4 < data.length := by omega
    have fifth : 5 < data.length := by omega
    have read {first last : Nat} (ordered : first ≤ last) (inside : last ≤ 1048) :
        slice? data first last = some (slice data first last) := slice?_eq ordered (by omega)
    have slots : ∀ slot ∈ range' 1 4, slot < 5 := by decide
    have short {later : List UInt64}
        (spaced : Spaced ((u32FromBE (slice data 16 20)).toUInt64 :: later)
          ((range' 1 4).map fun slot => u16FromBE (tickSlice data slot))) :
        0 + ((u32FromBE (slice data 16 20)).toUInt64 :: later).length ≤ 5 := by
      rw [spaced.length_succ, length_map]
      decide
    rw [decodeRealtimeBatch, ensure_of _ sized, pure_bind, read (by decide) (by decide),
      read (by decide) (by decide), read (by decide) (by decide), read (by decide) (by decide),
      read (by decide) (by decide), getElem?_eq_getElem fourth,
      getElem?_eq_getElem fifth]
    simp only [expect_some, pure_bind, bind_eq_pure_iff,
      ensure_eq_pure_iff, pure_eq_pure_iff, exists_const,
      show realtimeBatchMessages - 1 = 4 from rfl, decodeGenerated_eq_pure_iff sized slots]
    constructor
    · rintro ⟨magic, version, count, reserved, later, spaced, messages, reads, rfl⟩
      refine ⟨⟨sized, magic, ?_, ?_, reserved⟩, rfl, later, spaced,
        (decodeMessages_eq_pure_iff sized (short spaced)).mp reads⟩
      · rw [slice_one_eq_iff fourth, getElem?_eq_getElem fourth, version]
      · rw [slice_one_eq_iff fifth, getElem?_eq_getElem fifth, count]
    · rintro ⟨⟨-, magic, version, count, reserved⟩, batchId, later, spaced, reads⟩
      rw [slice_one_eq_iff fourth, getElem?_eq_getElem fourth, Option.some_inj] at version
      rw [slice_one_eq_iff fifth, getElem?_eq_getElem fifth, Option.some_inj] at count
      exact ⟨magic, version, count, reserved, later, spaced, batch.messages,
        (decodeMessages_eq_pure_iff sized (short spaced)).mpr reads, by rw [← batchId]⟩
  · refine iff_of_false ?_ fun ⟨header, _⟩ => sized header.sized
    intro decoded
    obtain ⟨_, checked, _⟩ := bind_eq_pure_iff.mp decoded
    exact sized (ensure_eq_pure_iff.mp checked)

/-- The fields of a datagram that has the layout of a batch. -/
theorem slices_of_batchParts {batchId sequence baseGeneratedMicros : UInt32} {digests : List UInt32}
    {payloads : List RealtimePayload} (four : ticks.length = 4) (five : digests.length = 5)
    (whole : payloads.length = 5)
    (laid : data =
      (batchParts batchId sequence baseGeneratedMicros ticks digests payloads).flatten) :
    RealtimeHeader data ∧ slice data 8 12 = u32ToBE batchId ∧
      slice data 12 16 = u32ToBE sequence ∧ slice data 16 20 = u32ToBE baseGeneratedMicros ∧
      (List.range' 1 4).map (tickSlice data) = ticks.map u16ToBE ∧
      (List.range' 0 5).map (digestSlice data) = digests.map u32ToBE ∧
      (List.range' 0 5).map (payloadSlice data) = payloads.map List.Vector.toList := by
  have sized : data.length = realtimeBatchSize := by
    rw [laid, batchParts_length _ _ _ _ _ _ four five whole]
  have pieces :=
    cut_flatten (batchParts batchId sequence baseGeneratedMicros ticks digests payloads)
  rw [batchParts_widths _ _ _ _ _ _ four five whole, ← laid, batch_cut, batchParts,
    List.append_assoc, List.append_assoc, List.append_assoc, List.append_assoc] at pieces
  obtain ⟨fixed, pieces⟩ := List.append_inj pieces rfl
  obtain ⟨tickPieces, pieces⟩ := List.append_inj pieces (by simp [four])
  obtain ⟨digestPieces, payloadPieces⟩ := List.append_inj pieces (by simp [five])
  simp only [List.cons.injEq, and_true] at fixed
  obtain ⟨magic, version, count, reserved, batchIs, sequenceIs, baseIs⟩ := fixed
  exact ⟨⟨sized, magic, version, count, reserved⟩, batchIs, sequenceIs, baseIs, tickPieces,
    digestPieces, payloadPieces⟩

/-- A datagram with the right header has the layout of a batch. -/
theorem batchParts_of_header (header : RealtimeHeader data) (digests : List UInt32)
    (payloads : List RealtimePayload)
    (digestPieces : digests.map u32ToBE = (List.range' 0 5).map (digestSlice data))
    (payloadPieces : payloads.map List.Vector.toList = (List.range' 0 5).map (payloadSlice data)) :
    data = (batchParts (u32FromBE (slice data 8 12)) (u32FromBE (slice data 12 16))
      (u32FromBE (slice data 16 20))
      ((List.range' 1 4).map fun slot => u16FromBE (tickSlice data slot)) digests
      payloads).flatten := by
  have whole : realtimeBatchSize = 1048 := rfl
  have sized := header.sized
  have total : batchWidths.sum = data.length := by
    rw [sized]
    rfl
  have word {first last : Nat} (inside : last ≤ 1048) (wide : last - first = 4) :
      u32ToBE (u32FromBE (slice data first last)) = slice data first last :=
    u32ToBE_fromBE (slice_width (by omega) wide)
  have tickPieces :
      ((List.range' 1 4).map fun slot => u16FromBE (tickSlice data slot)).map u16ToBE =
      (List.range' 1 4).map (tickSlice data) := by
    rw [List.map_map]
    apply List.map_congr_left
    intro slot member
    exact u16ToBE_fromBE (tickSlice_length sized
      ((by decide : ∀ slot ∈ List.range' 1 4, slot < 5) slot member))
  conv_lhs => rw [← flatten_cut batchWidths data total, batch_cut, header.magic, header.version,
    header.count, header.reserved, ← tickPieces, ← digestPieces, ← payloadPieces]
  rw [batchParts, word (by decide) (by decide), word (by decide) (by decide),
    word (by decide) (by decide)]

/-- **The decoder**: what it accepts and what it makes of it. -/
theorem decodeRealtimeBatch_eq_pure_iff {batch : DecodedRealtimeBatch} :
    decodeRealtimeBatch data = pure batch ↔
      ∃ first rest ticks, batch.messages = first :: rest ∧
        batch.messages.length = realtimeBatchMessages ∧
        batch.messages.map (fun message => message.sequence.toNat) =
          range' first.sequence.toNat realtimeBatchMessages ∧
        first.generatedMicros.toNat < 2 ^ 32 ∧
        Spaced (batch.messages.map DecodedRealtimeMessage.generatedMicros) ticks ∧
        data = (batchParts batch.batchId first.sequence first.generatedMicros.toUInt32 ticks
          (batch.messages.map DecodedRealtimeMessage.payloadDigest)
          (batch.messages.map DecodedRealtimeMessage.payload)).flatten := by
  rw [decodeRealtimeBatch_eq_pure]
  constructor
  · rintro ⟨header, batchId, later, spaced, reads⟩
    obtain ⟨sequences, generated, digests, payloads⟩ := reads
    have five : (((u32FromBE (slice data 16 20)).toUInt64 :: later)).length = 5 := by
      rw [spaced.length_succ]
      rfl
    rw [five] at sequences digests payloads
    cases messages : batch.messages with
    | nil => rw [messages] at generated; exact absurd generated nofun
    | cons first rest =>
      rw [messages] at sequences generated digests payloads
      have time : first.generatedMicros = (u32FromBE (slice data 16 20)).toUInt64 :=
        (cons.inj generated).1
      have number : first.sequence = u32FromBE (slice data 12 16) :=
        UInt32.toNat_inj.mp (cons.inj sequences).1
      refine ⟨first, rest, _, rfl, ?_, ?_, ?_, generated ▸ spaced, ?_⟩
      · rw [← length_map, generated]
        exact five
      · rw [sequences, number]
        rfl
      · rw [time]
        exact (u32FromBE (slice data 16 20)).toNat_lt
      · rw [batchId, time, number, UInt32.toUInt32_toUInt64]
        refine batchParts_of_header header _ _ ?_ ?_
        · rw [map_map]
          exact digests
        · rw [map_map]
          exact payloads
  · rintro ⟨first, rest, ticks, messages, five, sequences, small, spaced, laid⟩
    have four : ticks.length = 4 := by
      have total := spaced.length_succ
      rw [length_map, five] at total
      exact (Nat.succ.inj total).symm
    obtain ⟨header, batchIs, sequenceIs, baseIs, tickIs, digestIs, payloadIs⟩ :=
      slices_of_batchParts four (by rw [length_map]; exact five)
        (by rw [length_map]; exact five) laid
    have time : (u32FromBE (slice data 16 20)).toUInt64 = first.generatedMicros := by
      rw [baseIs, u32FromBE_toBE]
      apply UInt64.toNat_inj.mp
      rw [UInt32.toNat_toUInt64, UInt64.toNat_toUInt32, Nat.mod_eq_of_lt small]
    rw [messages] at spaced sequences digestIs payloadIs five
    have length :
        (first.generatedMicros :: rest.map DecodedRealtimeMessage.generatedMicros).length = 5 := by
      rw [← map_cons, length_map]
      exact five
    refine ⟨header, by rw [batchIs, u32FromBE_toBE],
      rest.map DecodedRealtimeMessage.generatedMicros, ?_, ?_⟩
    · have read : (range' 1 4).map (fun slot => u16FromBE (tickSlice data slot)) = ticks := by
        rw [← Function.comp_def u16FromBE, ← map_map, tickIs, map_map]
        exact map_id'' u16FromBE_toBE ticks
      rw [read, time]
      exact spaced
    · rw [messages, time]
      constructor
      · rw [length, sequences, sequenceIs, u32FromBE_toBE]
        rfl
      · rfl
      · rw [length, digestIs, map_map]
        rfl
      · rw [length, payloadIs, map_map]
        rfl

/-! ## The decoder returns -/

theorem decodeGenerated_returns (sized : data.length = realtimeBatchSize) {slots : List Nat}
    (inside : ∀ slot ∈ slots, slot < 5) (previous : UInt64) :
    (decodeGenerated data slots previous).Returns := by
  induction slots generalizing previous with
  | nil => exact returns_pure _
  | cons slot slots ih =>
    have ih := ih fun slot member => inside slot (mem_cons_of_mem _ member)
    refine (returns_expect (tickBytes_eq sized (inside slot mem_cons_self))).bind
      fun ticks _ => ?_
    refine (returns_expect (distance_fits (u16FromBE ticks))).bind fun _ _ => ?_
    refine (returns_okOr _ _).bind fun generated _ => ?_
    exact (ih _).bind fun _ _ => returns_pure _

theorem decodeMessages_returns (sized : data.length = realtimeBatchSize) (firstSequence : UInt32)
    (inside : slot + times.length ≤ 5) :
    (decodeMessages data firstSequence slot times).Returns := by
  induction times generalizing slot with
  | nil => exact returns_pure _
  | cons time times ih =>
    rw [length_cons] at inside
    have own : slot < 5 := by omega
    obtain ⟨payload, copied, -⟩ := payloadBytes_eq sized own
    refine (returns_okOr _ _).bind fun _ _ => ?_
    refine (returns_expect (digestBytes_eq sized own)).bind fun _ _ => ?_
    refine (returns_expect copied).bind fun _ _ => ?_
    exact (ih (by omega)).bind fun _ _ => returns_pure _

/-- No range that the decoder reads is out of bounds and no product overflows. -/
theorem decodeRealtimeBatch_returns (data : List UInt8) : (decodeRealtimeBatch data).Returns := by
  refine (returns_ensure _ _).bind fun _ checked => ?_
  have sized := ensure_eq_pure_iff.mp checked
  have whole : realtimeBatchSize = 1048 := rfl
  have read {first last : Nat} (ordered : first ≤ last) (inside : last ≤ 1048) :
      (expect (slice? data first last) : Fallible Unit (List UInt8)).Returns :=
    returns_expect (slice?_eq ordered (by omega))
  have byte {position : Nat} (inside : position < 1048) :
      (expect data[position]? : Fallible Unit UInt8).Returns :=
    returns_expect (getElem?_eq_getElem (by omega))
  have slots : ∀ slot ∈ range' 1 (realtimeBatchMessages - 1), slot < 5 := by decide
  refine (read (by decide) (by decide)).bind fun _ _ => ?_
  refine (returns_ensure _ _).bind fun _ _ => ?_
  refine (byte (by decide)).bind fun _ _ => ?_
  refine (returns_ensure _ _).bind fun _ _ => ?_
  refine (byte (by decide)).bind fun _ _ => ?_
  refine (returns_ensure _ _).bind fun _ _ => ?_
  refine (read (by decide) (by decide)).bind fun _ _ => ?_
  refine (returns_ensure _ _).bind fun _ _ => ?_
  refine (read (by decide) (by decide)).bind fun _ _ => ?_
  refine (read (by decide) (by decide)).bind fun _ _ => ?_
  refine (read (by decide) (by decide)).bind fun base _ => ?_
  refine (decodeGenerated_returns sized slots _).bind fun later generated => ?_
  have spaced := (decodeGenerated_eq_pure_iff sized slots).mp generated
  refine (decodeMessages_returns sized _ ?_).bind fun _ _ => returns_pure _
  rw [spaced.length_succ, length_map]
  decide

/-! ## The round trips -/

/-- The message as the encoder takes it. -/
def DecodedRealtimeMessage.message (decoded : DecodedRealtimeMessage) : RealtimeMessage :=
  { sequence := decoded.sequence
    generatedMicros := decoded.generatedMicros
    payload := decoded.payload }

/-- The message as the decoder should give it back. -/
def RealtimeMessage.decoded (message : RealtimeMessage) : DecodedRealtimeMessage :=
  { sequence := message.sequence
    generatedMicros := message.generatedMicros
    payloadDigest := payloadDigest message.payload
    payload := message.payload }

/-- Sequence numbers that count up from the first one. -/
def Consecutive (messages : List RealtimeMessage) : Prop :=
  ∀ first ∈ messages.head?, messages.map (fun message => message.sequence.toNat) =
    range' first.sequence.toNat messages.length

/-- **The codec.** Decoding what the encoder wrote gives the batch back, encoding what the
decoder accepted gives the bytes back if the batch number and the digests are right, and the
decoder returns on all bytes. -/
theorem realtime_batch_round_trip :
    (∀ (batchId : UInt32) (messages : List RealtimeMessage) (bytes : List UInt8),
      Consecutive messages → encodeRealtimeBatch batchId messages = pure bytes →
      decodeRealtimeBatch bytes = pure ⟨batchId, messages.map RealtimeMessage.decoded⟩) ∧
    (∀ (data : List UInt8) (batch : DecodedRealtimeBatch), decodeRealtimeBatch data = pure batch →
      (∀ first ∈ batch.messages.head?,
        batch.batchId.toNat * realtimeBatchMessages = first.sequence.toNat) →
      (∀ message ∈ batch.messages, message.payloadDigest = payloadDigest message.payload) →
      encodeRealtimeBatch batch.batchId (batch.messages.map DecodedRealtimeMessage.message) =
        pure data) ∧
    ∀ data, (decodeRealtimeBatch data).Returns := by
  refine ⟨?_, ?_, decodeRealtimeBatch_returns⟩
  · intro batchId messages bytes consecutive encoded
    obtain ⟨first, rest, ticks, rfl, five, -, small, spaced, laid⟩ :=
      encodeRealtimeBatch_eq_pure_iff.mp encoded
    have sequences := consecutive first rfl
    rw [five] at sequences
    refine decodeRealtimeBatch_eq_pure_iff.mpr ⟨first.decoded, rest.map decoded,
      ticks, rfl, ?_, ?_, small, ?_, ?_⟩
    · rw [length_map, five]
    · rw [map_map]
      exact sequences
    · rw [map_map]
      exact spaced
    · rw [map_map, map_map]
      exact laid
  · intro data batch decoded numbered digests
    obtain ⟨first, rest, ticks, messages, five, -, small, spaced, laid⟩ :=
      decodeRealtimeBatch_eq_pure_iff.mp decoded
    have right : batch.messages.map DecodedRealtimeMessage.payloadDigest =
        batch.messages.map fun message => payloadDigest message.payload :=
      map_congr_left digests
    rw [right] at laid
    rw [messages] at numbered five spaced laid ⊢
    refine encodeRealtimeBatch_eq_pure_iff.mpr ⟨first.message,
      rest.map DecodedRealtimeMessage.message, ticks, rfl, ?_, (numbered first rfl).symm, small,
      ?_, ?_⟩
    · rw [length_map, five]
    · rw [map_map]
      exact spaced
    · rw [map_map, map_map]
      exact laid

/-- Five messages ten milliseconds apart. -/
def exampleMessages : List RealtimeMessage :=
  (List.range realtimeBatchMessages).map fun index =>
    { sequence := UInt32.ofNat (35 + index)
      generatedMicros := UInt64.ofNat (70000 + 10000 * index)
      payload := List.Vector.replicate realtimeMessageSize 0 }

/-- The bytes of a batch that is encoded are decoded. -/
theorem realtime_batch_round_trip_example :
    ∃ bytes, encodeRealtimeBatch 7 exampleMessages = pure bytes ∧
      decodeRealtimeBatch bytes = pure ⟨7, exampleMessages.map RealtimeMessage.decoded⟩ ∧
      encodeRealtimeBatch 7
        ((exampleMessages.map RealtimeMessage.decoded).map DecodedRealtimeMessage.message) =
        pure bytes := by
  have spaced : Spaced (exampleMessages.map RealtimeMessage.generatedMicros)
      [2500, 2500, 2500, 2500] :=
    .cons rfl (.cons rfl (.cons rfl (.cons rfl (.one _))))
  obtain ⟨bytes, encoded⟩ : ∃ bytes, encodeRealtimeBatch 7 exampleMessages = pure bytes :=
    ⟨_, encodeRealtimeBatch_eq_pure_iff.mpr ⟨_, _, _, rfl, rfl, rfl, by decide, spaced, rfl⟩⟩
  have decoded := realtime_batch_round_trip.1 7 exampleMessages bytes (by
    intro first head
    cases head
    rfl) encoded
  refine ⟨bytes, encoded, decoded,
    realtime_batch_round_trip.2.1 bytes ⟨7, exampleMessages.map RealtimeMessage.decoded⟩ decoded
      ?_ ?_⟩
  · intro first head
    cases head
    rfl
  · intro message member
    obtain ⟨sent, -, rfl⟩ := mem_map.mp member
    rfl

end FlowWeave.Realtime
