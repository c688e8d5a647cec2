/-
# Failover.SustainedRecords — the record streams of the sustained failover experiments

A writer sends records with a header (a sequence number and the digest of the payload), then an
end marker: the greatest sequence number and the number of records. Two writers share the loop
and differ in what stops it and in their error texts. The receiver reads header after header
and checks each record against the one it expects.

`sustainedStream chunkSize seed records` says what the stream of a number of records is. A
writer finishes exactly this stream if the numbers fit in 64 bits (`writeRecords_ok_iff`), and
the receiver accepts exactly these streams (`receiveSustainedRecords_ok_iff`). The end marker is
never taken for a record, as the number of a record is less than the number of records and that
is at most the greatest number. Together: `sustained_records_exact`.
-/
import FlowWeave.Realtime.Payload
import FlowWeave.Theory.BigEndian
import FlowWeave.Theory.MachineInt

namespace FlowWeave.Failover

open Theory.BigEndian Theory.MachineInt
open FlowWeave.Realtime (digest Instant)

set_option autoImplicit false

def sustainedRecordHeaderSize : Nat := 16

def sustainedRecordEnd : Nat := u64Max

/-- The errors of the experiments; the texts are those of `other_error`. -/
inductive LabError where
  | other (text : String)
  | finishedEarly
  | readToEnd
  deriving DecidableEq, Repr

def fillSustainedPayload (chunkSize : Nat) (seed : UInt8) (sequence : Nat) : List UInt8 :=
  (List.range chunkSize).map fun index => seed + UInt8.ofNat sequence + UInt8.ofNat index * 31

def sustainedPayloadIsValid (payload : List UInt8) (seed : UInt8) (sequence : Nat) : Bool :=
  payload.zipIdx.all fun (byte, index) =>
    byte = seed + UInt8.ofNat sequence + UInt8.ofNat index * 31

theorem fillSustainedPayload_length (chunkSize : Nat) (seed : UInt8) (sequence : Nat) :
    (fillSustainedPayload chunkSize seed sequence).length = chunkSize := by
  rw [fillSustainedPayload, List.length_map, List.length_range]

/-- The check accepts what the writers fill in and nothing else. -/
theorem sustainedPayloadIsValid_iff {payload : List UInt8} {chunkSize : Nat}
    (length : payload.length = chunkSize) (seed : UInt8) (sequence : Nat) :
    sustainedPayloadIsValid payload seed sequence ↔
      payload = fillSustainedPayload chunkSize seed sequence := by
  subst length
  rw [sustainedPayloadIsValid, List.all_eq_true]
  constructor
  · intro valid
    apply List.ext_getElem (fillSustainedPayload_length _ _ _).symm
    intro index inside _
    have byte := valid (payload[index], index) (List.mk_mem_zipIdx_iff_getElem?.mpr
      (List.getElem?_eq_getElem inside))
    simpa [fillSustainedPayload] using byte
  · rintro filled ⟨byte, index⟩ member
    have found := List.mk_mem_zipIdx_iff_getElem?.mp member
    obtain ⟨inside, rfl⟩ := List.getElem?_eq_some_iff.mp found
    have same := (List.getElem_of_eq filled inside).trans
      (List.getElem_map _)
    simpa using same

/-! ## The writers -/

/-- What a writer has written when it returns, whether it has finished the stream, and its
result. -/
structure SustainedWrite (α : Type) where
  written : List UInt8
  finished : Bool
  result : Except LabError α

/-- A record: its header and its payload. -/
def sustainedRecord (chunkSize : Nat) (seed : UInt8) (sequence : Nat) : List UInt8 :=
  let payload := fillSustainedPayload chunkSize seed sequence
  toBE 8 sequence ++ toBE 8 (digest payload).toNat ++ payload

/-- The loop of the two writers, when the condition that keeps it going holds a number of
times. -/
def writeRecords (sequenceOverflow bytesOverflow : String) (chunkSize : Nat) (seed : UInt8) :
    Nat → Nat → Nat → List UInt8 × Except LabError (Nat × Nat)
  | 0, sequence, bytes => ([], .ok (sequence, bytes))
  | rounds + 1, sequence, bytes =>
    let record := sustainedRecord chunkSize seed sequence
    match checkedAdd u64Max sequence 1 with
    | none => (record, .error (.other sequenceOverflow))
    | some sequence =>
      match checkedAdd u64Max bytes chunkSize with
      | none => (record, .error (.other bytesOverflow))
      | some bytes =>
        let rest := writeRecords sequenceOverflow bytesOverflow chunkSize seed rounds
          sequence bytes
        (record ++ rest.1, rest.2)

def endMarker (sequence : Nat) : List UInt8 := toBE 8 sustainedRecordEnd ++ toBE 8 sequence

/-- What follows the loop: the end marker, and what the writer returns after it. -/
def finishStream {α : Type} (returned : Nat → Nat → Except LabError α) :
    List UInt8 × Except LabError (Nat × Nat) → SustainedWrite α
  | (written, .error error) => { written, finished := false, result := .error error }
  | (written, .ok (sequence, bytes)) =>
    { written := written ++ endMarker sequence, finished := true,
      result := returned sequence bytes }

/-- The writer whose loop condition `started.elapsed() < duration` holds `rounds` times;
`elapsed` is the time since the start when it returns. -/
def writeSustainedRecords (chunkSize : Nat) (seed : UInt8) (rounds : Nat) (elapsed : Nat) :
    SustainedWrite (Nat × Nat × Nat) :=
  finishStream (fun sequence bytes => .ok (sequence, bytes, elapsed))
    (writeRecords "持续换网记录编号溢出" "持续换网累计字节数溢出" chunkSize seed rounds 0 0)

/-- The ASCII text `FWA=`. -/
def sustainedFailoverOk : List UInt8 := [0x46, 0x57, 0x41, 0x3d]

def parseSustainedSuccessResponse (response : List UInt8) : Except LabError (Nat × Nat) :=
  if response.length ≠ 20 ∨ response.take 4 ≠ sustainedFailoverOk then
    .error (.other "服务端没有返回有效的持续换网校验结果")
  else .ok (fromBE (slice response 4 12), fromBE (slice response 12 20))

/-- The writer that finds no stop request `rounds` times and then one; `response` is what it
reads after the end marker, if that can be read. -/
def runDeclaredBackloggedWriter (chunkSize : Nat) (seed : UInt8) (rounds : Nat)
    (response : Option (List UInt8)) : SustainedWrite (Nat × Nat) :=
  finishStream (fun sequence bytes => do
      let response ← response.elim (.error .readToEnd) .ok
      let received ← parseSustainedSuccessResponse response
      if (sequence, bytes) ≠ received then
        .error (.other "持续 writer 上传的记录数或业务字节数不一致")
      else .ok (sequence, bytes))
    (writeRecords "持续 writer 记录编号溢出" "持续 writer 累计字节数溢出" chunkSize seed rounds 0 0)

/-! ## The receiver -/

structure SustainedReceiveTrace where
  receivedAt : List Instant
  records : Nat
  bytes : Nat
  elapsed : Nat
  deriving DecidableEq, Repr

/-- What the receiver is given besides the stream. -/
structure ReceiverSetting where
  chunkSize : Nat
  seed : UInt8
  /-- With an event channel, whether its receiver is still there at each send. -/
  sustainedEvents : Option (Nat → Bool)
  started : Instant
  /-- The clock after each record, and at the end. -/
  now : Nat → Instant

/-- The send of an event, if there is a channel. -/
def sendEvent (setting : ReceiverSetting) (count : Nat) : Except LabError Unit :=
  match setting.sustainedEvents with
  | some isOpen => if isOpen count then .ok () else .error (.other "持续换网服务端事件接收端已关闭")
  | none => .ok ()

/-- The rounds of the receiver's loop on the rest of a finished stream. -/
def receiveRecords (setting : ReceiverSetting) (stream : List UInt8)
    (expectedSequence bytes : Nat) (receivedAt : List Instant) :
    Except LabError SustainedReceiveTrace :=
  if stream.length < sustainedRecordHeaderSize then .error .finishedEarly
  else
    let sequence := fromBE (stream.take 8)
    let expectedDigest := fromBE (slice stream 8 16)
    let rest := stream.drop sustainedRecordHeaderSize
    if sequence = sustainedRecordEnd then
      if expectedDigest ≠ expectedSequence then
        .error (.other "持续换网结束标记的记录总数不正确")
      else if rest.length > 1 then .error .readToEnd
      else if rest ≠ [] then .error (.other "持续换网结束标记后仍有多余数据")
      else
        match sendEvent setting expectedSequence with
        | .error error => .error error
        | .ok () =>
          .ok { receivedAt, records := expectedSequence, bytes
                elapsed := setting.now expectedSequence - setting.started }
    else if sequence ≠ expectedSequence then
      .error (.other s!"持续换网记录编号错误：期望 {expectedSequence}，实际 {sequence}")
    else if rest.length < setting.chunkSize then .error .finishedEarly
    else
      let payload := rest.take setting.chunkSize
      if sustainedPayloadIsValid payload setting.seed sequence = false ∨
          (digest payload).toNat ≠ expectedDigest then
        .error (.other s!"持续换网记录 {sequence} 的内容摘要不正确")
      else
        match sendEvent setting expectedSequence with
        | .error error => .error error
        | .ok () =>
          match checkedAdd u64Max bytes setting.chunkSize with
          | none => .error (.other "持续换网接收字节数溢出")
          | some bytes =>
            receiveRecords setting (rest.drop setting.chunkSize) (expectedSequence + 1) bytes
              (receivedAt ++ [setting.now expectedSequence])
termination_by stream.length
decreasing_by
  simp only [sustainedRecordHeaderSize, rest, List.length_drop] at *
  omega

def receiveSustainedRecords (setting : ReceiverSetting) (stream : List UInt8) :
    Except LabError SustainedReceiveTrace :=
  receiveRecords setting stream 0 0 []

/-! ## The streams -/

/-- The records from a sequence number on. -/
def recordsFrom (chunkSize : Nat) (seed : UInt8) : Nat → Nat → List UInt8
  | _, 0 => []
  | sequence, count + 1 =>
    sustainedRecord chunkSize seed sequence ++ recordsFrom chunkSize seed (sequence + 1) count

/-- The stream of a number of records. -/
def sustainedStream (chunkSize : Nat) (seed : UInt8) (records : Nat) : List UInt8 :=
  recordsFrom chunkSize seed 0 records ++ endMarker records

/-- The numbers of records for which the writers' counters do not overflow. -/
def CountersFit (chunkSize records : Nat) : Prop :=
  records ≤ u64Max ∧ records * chunkSize ≤ u64Max

instance (chunkSize records : Nat) : Decidable (CountersFit chunkSize records) :=
  inferInstanceAs (Decidable (_ ∧ _))

theorem sustainedRecord_length (chunkSize : Nat) (seed : UInt8) (sequence : Nat) :
    (sustainedRecord chunkSize seed sequence).length = 16 + chunkSize := by
  simp only [sustainedRecord, List.length_append, toBE_length, fillSustainedPayload_length]

theorem recordsFrom_length (chunkSize : Nat) (seed : UInt8) (sequence count : Nat) :
    (recordsFrom chunkSize seed sequence count).length = count * (16 + chunkSize) := by
  induction count generalizing sequence with
  | zero => simp [recordsFrom]
  | succ count ih =>
    rw [recordsFrom, List.length_append, sustainedRecord_length, ih, Nat.succ_mul, Nat.add_comm]

theorem sustainedStream_injective (chunkSize : Nat) (seed : UInt8) :
    Function.Injective (sustainedStream chunkSize seed) := by
  intro first second same
  have lengths := congrArg List.length same
  simp only [sustainedStream, endMarker, List.length_append, recordsFrom_length,
    toBE_length] at lengths
  exact Nat.eq_of_mul_eq_mul_right (show 0 < 16 + chunkSize by omega) (by omega)

variable {sequenceOverflow bytesOverflow : String}

/-- What the writers' loop writes, and when it does not overflow. -/
theorem writeRecords_ok_iff {chunkSize : Nat} {seed : UInt8} {rounds sequence bytes : Nat}
    {written : List UInt8} {final total : Nat} (sequenceFits : sequence ≤ u64Max)
    (bytesFit : bytes ≤ u64Max) :
    writeRecords sequenceOverflow bytesOverflow chunkSize seed rounds sequence bytes =
        (written, .ok (final, total)) ↔
      written = recordsFrom chunkSize seed sequence rounds ∧ final = sequence + rounds ∧
        total = bytes + rounds * chunkSize ∧ final ≤ u64Max ∧ total ≤ u64Max := by
  induction rounds generalizing sequence bytes written with
  | zero =>
    simp only [writeRecords, recordsFrom, Prod.mk.injEq, Except.ok.injEq, Nat.zero_mul,
      Nat.add_zero]
    constructor
    · rintro ⟨rfl, rfl, rfl⟩
      exact ⟨rfl, rfl, rfl, sequenceFits, bytesFit⟩
    · rintro ⟨rfl, rfl, rfl, -, -⟩
      exact ⟨rfl, rfl, rfl⟩
  | succ rounds ih =>
    rw [writeRecords, recordsFrom, Nat.succ_mul]
    cases nextSequence : checkedAdd u64Max sequence 1 with
    | none =>
      have overflow : ¬sequence + 1 ≤ u64Max := fun fits =>
        absurd (checkedAdd_eq_some fits) (by rw [nextSequence]; nofun)
      exact iff_of_false nofun fun ⟨_, final, _, finalFits, _⟩ => by omega
    | some next =>
      obtain ⟨rfl, nextFits⟩ := checkedAdd_some_iff.mp nextSequence
      cases nextBytes : checkedAdd u64Max bytes chunkSize with
      | none =>
        have overflow : ¬bytes + chunkSize ≤ u64Max := fun fits =>
          absurd (checkedAdd_eq_some fits) (by rw [nextBytes]; nofun)
        exact iff_of_false nofun fun ⟨_, _, total, _, totalFits⟩ => by omega
      | some more =>
        obtain ⟨rfl, moreFits⟩ := checkedAdd_some_iff.mp nextBytes
        have rest {tail : List UInt8} := @ih (sequence + 1) (bytes + chunkSize) tail
          nextFits moreFits
        simp only [Prod.mk.injEq]
        constructor
        · rintro ⟨rfl, ok⟩
          obtain ⟨tail, final, total, fits⟩ := rest.mp (Prod.ext rfl ok)
          exact ⟨congrArg _ tail, by omega, by omega, fits⟩
        · rintro ⟨rfl, final, total, fits⟩
          have ok := rest.mpr ⟨rfl, by omega, by omega, fits⟩
          exact ⟨by rw [ok], by rw [ok]⟩

/-- The writer has written a stream to its end. -/
def SustainedWrite.Finishes {α : Type} (write : SustainedWrite α) (stream : List UInt8) : Prop :=
  write.finished = true ∧ write.written = stream

/-- A writer finishes the stream of a number of records exactly when its counters do not
overflow. -/
theorem finishStream_finishes_iff {α : Type} {returned : Nat → Nat → Except LabError α}
    {chunkSize : Nat} {seed : UInt8} {records : Nat} {stream : List UInt8} :
    (finishStream returned (writeRecords sequenceOverflow bytesOverflow chunkSize seed records 0
        0)).Finishes stream ↔
      CountersFit chunkSize records ∧ stream = sustainedStream chunkSize seed records := by
  have exact_ {written : List UInt8} {final total : Nat} :=
    @writeRecords_ok_iff sequenceOverflow bytesOverflow chunkSize seed records 0 0 written final
      total (Nat.zero_le _) (Nat.zero_le _)
  by_cases fits : CountersFit chunkSize records
  · rw [exact_.mpr ⟨rfl, (Nat.zero_add _).symm, (Nat.zero_add _).symm, fits⟩]
    exact ⟨fun ⟨_, same⟩ => ⟨fits, same.symm⟩, fun ⟨_, same⟩ => ⟨rfl, same.symm⟩⟩
  · refine iff_of_false (fun ⟨finished, _⟩ => ?_) fun ⟨fine, _⟩ => fits fine
    match run : writeRecords sequenceOverflow bytesOverflow chunkSize seed records 0 0 with
    | (written, .error error) =>
      rw [run] at finished
      cases finished
    | (written, .ok (final, total)) =>
      obtain ⟨-, rfl, rfl, finalFits, totalFits⟩ := exact_.mp run
      exact fits ⟨by omega, by omega⟩

theorem finishStream_finished_iff {α : Type} {returned : Nat → Nat → Except LabError α}
    {chunkSize : Nat} {seed : UInt8} {records : Nat} :
    (finishStream returned (writeRecords sequenceOverflow bytesOverflow chunkSize seed records 0
        0)).finished = true ↔ CountersFit chunkSize records :=
  ⟨fun finished => (finishStream_finishes_iff.mp ⟨finished, rfl⟩).1,
    fun fits => (finishStream_finishes_iff.mpr ⟨fits, rfl⟩).1⟩

/-! ## What the receiver accepts -/

/-- Every event that the receiver sends finds its channel open. -/
def EventsDelivered (setting : ReceiverSetting) : Prop :=
  ∀ isOpen, setting.sustainedEvents = some isOpen → ∀ count, isOpen count = true

theorem EventsDelivered.sendEvent {setting : ReceiverSetting} (delivered : EventsDelivered setting)
    (count : Nat) : sendEvent setting count = .ok () := by
  unfold Failover.sendEvent
  split
  · rename_i isOpen channel
    rw [if_pos (delivered isOpen channel count)]
  · rfl

/-- The words of a header, as the receiver reads them. -/
theorem header_words (first second : Nat) (rest : List UInt8) :
    (toBE 8 first ++ toBE 8 second ++ rest).take 8 = toBE 8 first ∧
      slice (toBE 8 first ++ toBE 8 second ++ rest) 8 16 = toBE 8 second ∧
      (toBE 8 first ++ toBE 8 second ++ rest).drop sustainedRecordHeaderSize = rest ∧
      ¬(toBE 8 first ++ toBE 8 second ++ rest).length < sustainedRecordHeaderSize := by
  refine ⟨rfl, rfl, rfl, ?_⟩
  simp only [List.length_append, toBE_length, sustainedRecordHeaderSize]
  omega

/-- A stream with a header, put together from the header's words. -/
theorem header_split {stream : List UInt8} (long : ¬stream.length < sustainedRecordHeaderSize) :
    stream = toBE 8 (fromBE (stream.take 8)) ++ toBE 8 (fromBE (slice stream 8 16)) ++
      stream.drop sustainedRecordHeaderSize := by
  rw [sustainedRecordHeaderSize] at long ⊢
  rw [toBE_fromBE_of_length (by rw [List.length_take]; omega),
    toBE_fromBE_of_length (slice_width (by omega) (by omega)), slice,
    ← List.take_add, List.take_append_drop]

theorem fromBE_word_le {bytes : List UInt8} (width : bytes.length ≤ 8) : fromBE bytes ≤ u64Max := by
  have small := fromBE_lt bytes
  have mono : 256 ^ bytes.length ≤ 256 ^ 8 := Nat.pow_le_pow_right (by decide) width
  have bound : u64Max = 256 ^ 8 - 1 := rfl
  omega

/-- What the receiver knows of the stream's rest when it returns a trace. -/
def Accepts (setting : ReceiverSetting) (stream : List UInt8) (expectedSequence bytes : Nat)
    (receivedAt : List Instant) (trace : SustainedReceiveTrace) : Prop :=
  ∃ count,
    stream = recordsFrom setting.chunkSize setting.seed expectedSequence count ++
      endMarker (expectedSequence + count) ∧
    expectedSequence + count ≤ u64Max ∧ bytes + count * setting.chunkSize ≤ u64Max ∧
    trace = {
      receivedAt := receivedAt ++ (List.range' expectedSequence count).map setting.now
      records := expectedSequence + count
      bytes := bytes + count * setting.chunkSize
      elapsed := setting.now (expectedSequence + count) - setting.started }

variable {setting : ReceiverSetting} {stream : List UInt8} {expectedSequence bytes : Nat}
  {receivedAt : List Instant} {trace : SustainedReceiveTrace}

theorem Accepts.record (rest : Accepts setting stream (expectedSequence + 1)
      (bytes + setting.chunkSize) (receivedAt ++ [setting.now expectedSequence]) trace) :
    Accepts setting (sustainedRecord setting.chunkSize setting.seed expectedSequence ++ stream)
      expectedSequence bytes receivedAt trace := by
  obtain ⟨count, rfl, sequenceFits, bytesFit, rfl⟩ := rest
  have numbers : expectedSequence + 1 + count = expectedSequence + (count + 1) := by omega
  have sizes : bytes + setting.chunkSize + count * setting.chunkSize =
      bytes + (count + 1) * setting.chunkSize := by rw [Nat.succ_mul]; omega
  rw [numbers] at sequenceFits ⊢
  rw [sizes] at bytesFit ⊢
  refine ⟨count + 1, by rw [recordsFrom, List.append_assoc], sequenceFits, bytesFit, ?_⟩
  rw [List.range'_succ, List.map_cons, List.append_assoc]
  rfl

/-- A round on the record that is expected. -/
theorem receiveRecords_record (delivered : EventsDelivered setting) (rest : List UInt8)
    (sequenceFits : expectedSequence + 1 ≤ u64Max)
    (bytesFit : bytes + setting.chunkSize ≤ u64Max) :
    receiveRecords setting
        (sustainedRecord setting.chunkSize setting.seed expectedSequence ++ rest)
        expectedSequence bytes receivedAt =
      receiveRecords setting rest (expectedSequence + 1) (bytes + setting.chunkSize)
        (receivedAt ++ [setting.now expectedSequence]) := by
  set payload := fillSustainedPayload setting.chunkSize setting.seed expectedSequence
    with payloadDef
  have width : payload.length = setting.chunkSize := fillSustainedPayload_length _ _ _
  have split : sustainedRecord setting.chunkSize setting.seed expectedSequence ++ rest =
      toBE 8 expectedSequence ++ toBE 8 (digest payload).toNat ++ (payload ++ rest) :=
    List.append_assoc _ _ _
  obtain ⟨first, second, tail, long⟩ := header_words expectedSequence (digest payload).toNat
    (payload ++ rest)
  have number : fromBE (toBE 8 expectedSequence) = expectedSequence :=
    fromBE_toBE (show expectedSequence < 2 ^ 64 by rw [u64Max] at sequenceFits; omega)
  have sum : fromBE (toBE 8 (digest payload).toNat) = (digest payload).toNat :=
    fromBE_toBE (digest payload).toNat_lt
  have notEnd : ¬expectedSequence = sustainedRecordEnd := by
    rw [sustainedRecordEnd]
    omega
  have enough : ¬(payload ++ rest).length < setting.chunkSize := by
    rw [List.length_append]
    omega
  have taken : (payload ++ rest).take setting.chunkSize = payload := List.take_left' width
  have dropped : (payload ++ rest).drop setting.chunkSize = rest := List.drop_left' width
  have valid : sustainedPayloadIsValid payload setting.seed expectedSequence = true :=
    (sustainedPayloadIsValid_iff width _ _).mpr payloadDef
  rw [split, receiveRecords, if_neg long]
  simp only [first, second, tail, number, sum, if_neg notEnd, enough, taken, dropped, valid,
    delivered.sendEvent, checkedAdd_eq_some bytesFit, ne_eq, not_true_eq_false, if_false,
    Bool.true_eq_false, or_self]

/-- The last round, on the end marker. -/
theorem receiveRecords_endMarker (sequenceFits : expectedSequence ≤ u64Max) :
    receiveRecords setting (endMarker expectedSequence) expectedSequence bytes receivedAt =
      (sendEvent setting expectedSequence).map fun _ =>
        { receivedAt, records := expectedSequence, bytes
          elapsed := setting.now expectedSequence - setting.started } := by
  have split : endMarker expectedSequence =
      toBE 8 sustainedRecordEnd ++ toBE 8 expectedSequence ++ [] := (List.append_nil _).symm
  obtain ⟨first, second, tail, long⟩ := header_words sustainedRecordEnd expectedSequence []
  have number : fromBE (toBE 8 sustainedRecordEnd) = sustainedRecordEnd := fromBE_toBE (by decide)
  have count : fromBE (toBE 8 expectedSequence) = expectedSequence :=
    fromBE_toBE (show expectedSequence < 2 ^ 64 by rw [u64Max] at sequenceFits; omega)
  rw [split, receiveRecords, if_neg long]
  simp only [first, second, tail, number, count, if_true, ne_eq, not_true_eq_false, if_false,
    List.length_nil, gt_iff_lt, Nat.not_lt_zero]
  cases sendEvent setting expectedSequence <;> rfl

theorem receiveRecords_accepts (delivered : EventsDelivered setting)
    (accepts : Accepts setting stream expectedSequence bytes receivedAt trace) :
    receiveRecords setting stream expectedSequence bytes receivedAt = .ok trace := by
  obtain ⟨count, rfl, sequenceFits, bytesFit, rfl⟩ := accepts
  induction count generalizing expectedSequence bytes receivedAt with
  | zero =>
    rw [recordsFrom, List.nil_append, Nat.add_zero,
      receiveRecords_endMarker (by omega), delivered.sendEvent]
    simp [Except.map]
  | succ count ih =>
    rw [Nat.succ_mul] at bytesFit
    rw [recordsFrom, List.append_assoc,
      receiveRecords_record delivered _ (by omega) (by omega),
      show expectedSequence + (count + 1) = expectedSequence + 1 + count by omega,
      ih (by omega) (by omega), List.range'_succ, List.map_cons, List.append_assoc,
      Nat.succ_mul]
    congr 2
    omega

/-- By the rounds of the loop: a round that goes on has read the record that it expected, and
the round that returns has read the end marker. -/
theorem accepts_of_receiveRecords (bytesFit : bytes ≤ u64Max)
    (received : receiveRecords setting stream expectedSequence bytes receivedAt = .ok trace) :
    Accepts setting stream expectedSequence bytes receivedAt trace := by
  fun_induction receiveRecords setting stream expectedSequence bytes receivedAt with
  | case6 stream expectedSequence bytes receivedAt long sequence expectedDigest rest atEnd count
      few empty sent =>
      have whole := header_split long
      have number : fromBE (stream.take 8) = sustainedRecordEnd := atEnd
      have total : fromBE (slice stream 8 16) = expectedSequence := not_not.mp count
      have nothing : stream.drop sustainedRecordHeaderSize = [] := not_not.mp empty
      rw [number, total, nothing, List.append_nil] at whole
      have fits : expectedSequence ≤ u64Max := by
        rw [← total]
        exact fromBE_word_le (by simp [slice])
      cases received
      exact ⟨0, whole, fits, by simpa using bytesFit, by simp⟩
  | case12 stream expectedSequence bytes receivedAt long sequence expectedDigest rest notEnd
      expected enough payload checked sent more added ih =>
      obtain ⟨rfl, moreFits⟩ := checkedAdd_some_iff.mp added
      have whole := header_split long
      have number : fromBE (stream.take 8) = expectedSequence := not_not.mp expected
      have width : payload.length = setting.chunkSize :=
        List.length_take_of_le (Nat.not_lt.mp enough)
      obtain ⟨valid, sum⟩ := not_or.mp checked
      have filled := (sustainedPayloadIsValid_iff width _ _).mp (Bool.eq_true_of_not_eq_false valid)
      have record : stream =
          sustainedRecord setting.chunkSize setting.seed expectedSequence ++
            rest.drop setting.chunkSize := by
        have digests : (digest payload).toNat = fromBE (slice stream 8 16) := not_not.mp sum
        have payloads : payload =
            fillSustainedPayload setting.chunkSize setting.seed expectedSequence :=
          number ▸ filled
        rw [sustainedRecord, ← payloads, digests, ← number, List.append_assoc,
          List.take_append_drop]
        exact whole
      rw [record]
      exact (ih moreFits received).record
  | _ => cases received

theorem receiveSustainedRecords_ok_iff (delivered : EventsDelivered setting) :
    receiveSustainedRecords setting stream = .ok trace ↔
      ∃ records, CountersFit setting.chunkSize records ∧
        stream = sustainedStream setting.chunkSize setting.seed records ∧
        trace = {
          receivedAt := (List.range' 0 records).map setting.now
          records
          bytes := records * setting.chunkSize
          elapsed := setting.now records - setting.started } := by
  have rounds : receiveSustainedRecords setting stream = .ok trace ↔
      Accepts setting stream 0 0 [] trace :=
    ⟨accepts_of_receiveRecords (Nat.zero_le _), receiveRecords_accepts delivered⟩
  rw [rounds, Accepts]
  simp only [Nat.zero_add, List.nil_append, CountersFit, sustainedStream]
  exact exists_congr fun records => by tauto

/-- **The receiver accepts exactly what the writers finish.** The events are delivered or there
is no channel for them; the times and the writer's response are arbitrary. A writer finishes a
number of records exactly if its counters can hold them, and the receiver returns that number. -/
theorem sustained_records_exact (setting : ReceiverSetting) (delivered : EventsDelivered setting)
    (stream : List UInt8) (elapsed : Nat) (response : Option (List UInt8)) :
    ((∃ trace, receiveSustainedRecords setting stream = .ok trace) ↔ ∃ records,
      (writeSustainedRecords setting.chunkSize setting.seed records elapsed).Finishes stream) ∧
    ((∃ trace, receiveSustainedRecords setting stream = .ok trace) ↔ ∃ records,
      (runDeclaredBackloggedWriter setting.chunkSize setting.seed records response).Finishes
        stream) ∧
    (∀ records,
      ((writeSustainedRecords setting.chunkSize setting.seed records elapsed).finished = true ↔
        records ≤ 2 ^ 64 - 1 ∧ records * setting.chunkSize ≤ 2 ^ 64 - 1) ∧
      ((runDeclaredBackloggedWriter setting.chunkSize setting.seed records response).finished =
          true ↔ records ≤ 2 ^ 64 - 1 ∧ records * setting.chunkSize ≤ 2 ^ 64 - 1)) ∧
    ∀ trace records, receiveSustainedRecords setting stream = .ok trace →
      (writeSustainedRecords setting.chunkSize setting.seed records elapsed).Finishes stream ∨
        (runDeclaredBackloggedWriter setting.chunkSize setting.seed records response).Finishes
          stream →
      trace.records = records ∧ trace.bytes = records * setting.chunkSize ∧
        trace.receivedAt.length = records := by
  have accepted : (∃ trace, receiveSustainedRecords setting stream = .ok trace) ↔
      ∃ records, CountersFit setting.chunkSize records ∧
        stream = sustainedStream setting.chunkSize setting.seed records := by
    simp only [receiveSustainedRecords_ok_iff delivered]
    exact ⟨fun ⟨_, records, fits, same, _⟩ => ⟨records, fits, same⟩,
      fun ⟨records, fits, same⟩ => ⟨_, records, fits, same, rfl⟩⟩
  refine ⟨?_, ?_, ?_, ?_⟩
  · rw [accepted]
    exact exists_congr fun records => finishStream_finishes_iff.symm
  · rw [accepted]
    exact exists_congr fun records => finishStream_finishes_iff.symm
  · exact fun records => ⟨finishStream_finished_iff, finishStream_finished_iff⟩
  · intro trace records received finishes
    obtain ⟨count, -, same, rfl⟩ := (receiveSustainedRecords_ok_iff delivered).mp received
    have written : stream = sustainedStream setting.chunkSize setting.seed records := by
      rcases finishes with sustained | backlogged
      · exact (finishStream_finishes_iff.mp sustained).2
      · exact (finishStream_finishes_iff.mp backlogged).2
    have count : count = records :=
      sustainedStream_injective _ _ (same.symm.trans written)
    subst count
    exact ⟨rfl, rfl, by simp⟩

/-- A receiver of records of three bytes, without an event channel. -/
def exampleSetting : ReceiverSetting where
  chunkSize := 3
  seed := 7
  sustainedEvents := none
  started := 100
  now := fun count => 200 + count

theorem exampleSetting_delivered : EventsDelivered exampleSetting := nofun

theorem sustained_records_exact_example :
    EventsDelivered exampleSetting ∧
      (∃ trace, receiveSustainedRecords exampleSetting (sustainedStream 3 7 2) = .ok trace ∧
        trace.records = 2 ∧ trace.bytes = 6 ∧ trace.receivedAt.length = 2) ∧
      ¬∃ trace, receiveSustainedRecords exampleSetting (sustainedStream 3 7 2 ++ [0]) =
        .ok trace := by
  have finishes : (runDeclaredBackloggedWriter 3 7 2 none).Finishes (sustainedStream 3 7 2) :=
    finishStream_finishes_iff.mpr ⟨by decide, rfl⟩
  obtain ⟨-, accepts, -, traces⟩ := sustained_records_exact exampleSetting
    exampleSetting_delivered (sustainedStream 3 7 2) 5 none
  obtain ⟨trace, received⟩ := accepts.mpr ⟨2, finishes⟩
  refine ⟨exampleSetting_delivered, ⟨trace, received, traces trace 2 received (.inr finishes)⟩, ?_⟩
  intro trailing
  obtain ⟨records, written⟩ := (sustained_records_exact exampleSetting exampleSetting_delivered
    (sustainedStream 3 7 2 ++ [0]) 5 none).1.mp trailing
  have lengths := congrArg List.length (finishStream_finishes_iff.mp written).2
  simp only [sustainedStream, endMarker, exampleSetting, List.length_append, recordsFrom_length,
    toBE_length, List.length_singleton] at lengths
  omega

/-- The writers' stream is refused when nobody is there to take the events. -/
theorem closed_channel_refuses_stream :
    ∃ setting stream error,
      (writeSustainedRecords setting.chunkSize setting.seed 0 0).Finishes stream ∧
        receiveSustainedRecords setting stream = .error error := by
  let setting := { exampleSetting with sustainedEvents := some fun _ => false }
  refine ⟨setting, sustainedStream 3 7 0, .other "持续换网服务端事件接收端已关闭",
    finishStream_finishes_iff.mpr ⟨by decide, rfl⟩, ?_⟩
  exact receiveRecords_endMarker (Nat.zero_le _)

end FlowWeave.Failover
