/-
# Realtime.FrameDigest — encoding frames, and what their digest catches

The digest of a byte string multiplies the state by an odd number and adds the next byte with
`^^^`. The low byte of the state depends on the low byte before it only, and both parts of the
step are injective, so two strings that differ in one byte have digests with different low
bytes (`digest_low_ne`). A frame is a header and a payload and is decoded to what was encoded
(`decodeV3Frame_header`, `decodeV12Frame_header`). The digest stands in the header: a frame
with one byte of its payload changed is decoded, but its digest is wrong
(`digest_catches_byte`).
-/
import FlowWeave.Realtime.Frame
import FlowWeave.Theory.Panics

namespace FlowWeave.Realtime

open Theory Theory.MachineInt Theory.BigEndian Fallible

set_option autoImplicit false

/-! ## One byte of difference -/

/-- Two strings of one length with different bytes at exactly one position. -/
def DifferInOneByte (left right : List UInt8) : Prop :=
  left.length = right.length ∧ ∃! position : Nat, left[position]? ≠ right[position]?

variable {left right : List UInt8} {symbolIndex : Nat}

theorem DifferInOneByte.split (differ : DifferInOneByte left right) :
    ∃ front before after back, before ≠ after ∧ left = front ++ before :: back ∧
      right = front ++ after :: back := by
  obtain ⟨length, position, different, only⟩ := differ
  have same : ∀ other, other ≠ position → left[other]? = right[other]? := by
    intro other elsewhere
    by_contra differs
    exact elsewhere (only other differs)
  have inLeft : position < left.length := by
    by_contra outside
    rw [List.getElem?_eq_none (by omega), List.getElem?_eq_none (by omega)] at different
    exact different rfl
  have inRight : position < right.length := length ▸ inLeft
  have front : left.take position = right.take position := by
    apply List.ext_getElem?
    intro other
    rw [List.getElem?_take, List.getElem?_take]
    split
    · exact same other (by omega)
    · rfl
  have back : left.drop (position + 1) = right.drop (position + 1) := by
    apply List.ext_getElem?
    intro other
    rw [List.getElem?_drop, List.getElem?_drop]
    exact same _ (by omega)
  refine ⟨left.take position, left[position], right[position], left.drop (position + 1), ?_, ?_,
    ?_⟩
  · rw [List.getElem?_eq_getElem inLeft, List.getElem?_eq_getElem inRight] at different
    exact fun equal => different (congrArg some equal)
  · rw [List.getElem_cons_drop, List.take_append_drop]
  · rw [front, back, List.getElem_cons_drop, List.take_append_drop]

/-! ## The digest -/

/-- The digest's step on the low byte of the state. -/
def digestLowStep (low byte : UInt8) : UInt8 := low * 0xb3 ^^^ byte

theorem digest_low (data : List UInt8) : (digest data).toUInt8 = data.foldl digestLowStep 0x25 := by
  have follows : ∀ hash : UInt64,
      (data.foldl (fun hash byte => hash * 0x100000001b3 ^^^ byte.toUInt64) hash).toUInt8 =
        data.foldl digestLowStep hash.toUInt8 := by
    induction data with
    | nil => exact fun _ => rfl
    | cons byte rest ih =>
      intro hash
      rw [List.foldl_cons, List.foldl_cons, ih, UInt64.toUInt8_xor, UInt64.toUInt8_mul,
        UInt8.toUInt8_toUInt64]
      rfl
  exact follows _

/-- The factor is odd, so it has an inverse modulo 256. -/
theorem digestLowStep_injective (byte : UInt8) : Function.Injective (digestLowStep · byte) := by
  intro first second same
  have products : first * 0xb3 = second * 0xb3 := UInt8.xor_left_inj byte |>.mp same
  have undone : first * 0xb3 * 0x7b = second * 0xb3 * 0x7b := by rw [products]
  rwa [UInt8.mul_assoc, UInt8.mul_assoc, show (0xb3 : UInt8) * 0x7b = 1 from rfl, UInt8.mul_one,
    UInt8.mul_one] at undone

theorem foldl_digestLowStep_ne {first second : UInt8} (different : first ≠ second)
    (data : List UInt8) : data.foldl digestLowStep first ≠ data.foldl digestLowStep second := by
  induction data generalizing first second with
  | nil => exact different
  | cons byte rest ih => exact ih ((digestLowStep_injective byte).ne different)

/-- **One changed byte changes the low byte of the digest.** -/
theorem digest_low_ne (differ : DifferInOneByte left right) :
    (digest left).toUInt8 ≠ (digest right).toUInt8 := by
  obtain ⟨front, before, after, back, different, rfl, rfl⟩ := differ.split
  rw [digest_low, digest_low, List.foldl_append, List.foldl_append, List.foldl_cons,
    List.foldl_cons]
  apply foldl_digestLowStep_ne
  intro same
  exact different (UInt8.xor_right_inj _ |>.mp same)

theorem digest_toUInt16_ne (differ : DifferInOneByte left right) :
    (digest left).toUInt16 ≠ (digest right).toUInt16 := by
  intro same
  apply digest_low_ne differ
  simpa using congrArg UInt16.toUInt8 same

theorem digest_toUInt32_ne (differ : DifferInOneByte left right) :
    (digest left).toUInt32 ≠ (digest right).toUInt32 := by
  intro same
  apply digest_low_ne differ
  simpa using congrArg UInt32.toUInt8 same

/-! ## C v3 frames -/

/-- `kind as u8`. -/
def V3FrameKind.code : V3FrameKind → UInt8
  | .original => 0
  | .pairParity => 1
  | .globalZero => 2
  | .globalOne => 3

theorem V3FrameKind.tryFrom_code (kind : V3FrameKind) :
    V3FrameKind.tryFrom kind.code = some kind := by
  cases kind <;> rfl

/-- The header of a C v3 frame. -/
def v3Header (kind : V3FrameKind) (symbolIndex : UInt8)
    (blockId firstSequence payloadDigest : UInt32) : List UInt8 :=
  v3Magic ++ [v3Version] ++ [kind.code] ++ [symbolIndex] ++ [0] ++ u32ToBE blockId ++
    u32ToBE firstSequence ++ u32ToBE payloadDigest

def encodeV3Frame (kind : V3FrameKind) (symbolIndex blockId firstSequence : Nat)
    (payload : V3Payload) : Fallible String (List UInt8) := do
  let symbolIndex ← okOr "C v3 符号位置超过 u8 范围"
    (if symbolIndex < 2 ^ 8 then some (UInt8.ofNat symbolIndex) else none)
  let blockId ← okOr "C v3 块号超过 u32 范围"
    (if blockId < 2 ^ 32 then some (UInt32.ofNat blockId) else none)
  let firstSequence ← okOr "C v3 块首序号超过 u32 范围"
    (if firstSequence < 2 ^ 32 then some (UInt32.ofNat firstSequence) else none)
  let encoded := v3Header kind symbolIndex blockId firstSequence (digest payload.toList).toUInt32 ++
    payload.toList
  assert (encoded.length = v3FrameSize)
  return encoded

theorem v3Frame_length (kind : V3FrameKind) (symbolIndex : UInt8)
    (blockId firstSequence payloadDigest : UInt32) (payload : V3Payload) :
    (v3Header kind symbolIndex blockId firstSequence payloadDigest ++ payload.toList).length =
      v3FrameSize := by
  rw [List.length_append, payload.toList_length]
  rfl

theorem encodeV3Frame_eq_pure_iff {kind : V3FrameKind} {blockId firstSequence : Nat}
    {payload : V3Payload} {frame : List UInt8} :
    encodeV3Frame kind symbolIndex blockId firstSequence payload = pure frame ↔
      symbolIndex < 2 ^ 8 ∧ blockId < 2 ^ 32 ∧ firstSequence < 2 ^ 32 ∧
        frame = v3Header kind (UInt8.ofNat symbolIndex) (UInt32.ofNat blockId)
          (UInt32.ofNat firstSequence) (digest payload.toList).toUInt32 ++ payload.toList := by
  simp only [encodeV3Frame, bind_eq_pure_iff, okOr_eq_pure_iff,
    assert_eq_pure_iff, pure_eq_pure_iff, Option.ite_none_right_eq_some,
    exists_const, v3Frame_length, true_and]
  constructor
  · rintro ⟨_, ⟨symbolFits, ⟨⟩⟩, _, ⟨blockFits, ⟨⟩⟩, _, ⟨firstFits, ⟨⟩⟩, rfl⟩
    exact ⟨symbolFits, blockFits, firstFits, rfl⟩
  · rintro ⟨symbolFits, blockFits, firstFits, rfl⟩
    exact ⟨_, ⟨symbolFits, rfl⟩, _, ⟨blockFits, rfl⟩, _, ⟨firstFits, rfl⟩, rfl⟩

theorem decodeV3Frame_header (kind : V3FrameKind) (symbolIndex : UInt8)
    (blockId firstSequence payloadDigest : UInt32) (payload : V3Payload) :
    decodeV3Frame (v3Header kind symbolIndex blockId firstSequence payloadDigest ++
        payload.toList) =
      some {
        kind
        symbolIndex := symbolIndex.toNat
        blockId := blockId.toNat
        firstSequence := firstSequence.toNat
        payloadDigest
        payload } := by
  set data := v3Header kind symbolIndex blockId firstSequence payloadDigest ++ payload.toList
  have length : data.length = v3FrameSize := v3Frame_length _ _ _ _ _ payload
  have block : slice data 8 12 = u32ToBE blockId := rfl
  have first : slice data 12 16 = u32ToBE firstSequence := rfl
  have sum : slice data 16 20 = u32ToBE payloadDigest := rfl
  have word (value : UInt32) : fromBE (u32ToBE value) = value.toNat :=
    fromBE_toBE (by simpa using value.toNat_lt)
  have checked : ¬(data.take 4 ≠ v3Magic ∨ data.getD 4 0 ≠ v3Version ∨ data.getD 7 0 ≠ 0) := by
    rintro (other | other | other) <;> exact other rfl
  have code : data.getD 5 0 = kind.code := rfl
  rw [decodeV3Frame, dif_pos length, if_neg checked, code, V3FrameKind.tryFrom_code]
  simp only [Option.bind_eq_bind, Option.bind_some, block, first, sum, word, UInt32.ofNat_toNat]
  rfl

/-! ## C v12 frames -/

/-- `kind as u8`. -/
def V12FrameKind.code : V12FrameKind → UInt8
  | .data0 => 0
  | .data1 => 1
  | .localParity => 2
  | .global => 3

theorem V12FrameKind.tryFrom_code (kind : V12FrameKind) :
    V12FrameKind.tryFrom kind.code = some kind := by
  cases kind <;> rfl

def v12MaxBlockId : Nat := 2 ^ 16 - 1

/-- The header of a C v12 frame: the kind and the symbol share a byte. -/
def v12Header (kind : V12FrameKind) (symbolIndex : Nat) (blockId payloadDigest : UInt16) :
    List UInt8 :=
  v12Magic ++ [kind.code <<< 6 ||| UInt8.ofNat symbolIndex] ++ u16ToBE blockId ++
    u16ToBE payloadDigest

def encodeV12Frame (kind : V12FrameKind) (symbolIndex blockId : Nat) (payload : V12Shard) :
    Fallible String (List UInt8) := do
  ensure (¬symbolIndex ≥ 32) "C v12 符号位置超过 5 bit 范围"
  ensure (¬blockId > v12MaxBlockId) "C v12 超块号超过 u16 范围"
  let encoded := v12Header kind symbolIndex (UInt16.ofNat blockId)
    (digest payload.toList).toUInt16 ++ payload.toList
  assert (encoded.length = v12FrameSize)
  return encoded

theorem v12Frame_length (kind : V12FrameKind) (symbolIndex : Nat) (blockId payloadDigest : UInt16)
    (payload : V12Shard) :
    (v12Header kind symbolIndex blockId payloadDigest ++ payload.toList).length =
      v12FrameSize := by
  rw [List.length_append, payload.toList_length]
  rfl

theorem encodeV12Frame_eq_pure_iff {kind : V12FrameKind} {blockId : Nat} {payload : V12Shard}
    {frame : List UInt8} :
    encodeV12Frame kind symbolIndex blockId payload = pure frame ↔
      symbolIndex < 32 ∧ blockId < 2 ^ 16 ∧
        frame = v12Header kind symbolIndex (UInt16.ofNat blockId)
          (digest payload.toList).toUInt16 ++ payload.toList := by
  have limit : v12MaxBlockId = 2 ^ 16 - 1 := rfl
  simp only [encodeV12Frame, bind_eq_pure_iff, ensure_eq_pure_iff,
    assert_eq_pure_iff, pure_eq_pure_iff, exists_const, v12Frame_length, true_and]
  constructor
  · rintro ⟨symbolFits, blockFits, rfl⟩
    exact ⟨by omega, by omega, rfl⟩
  · rintro ⟨symbolFits, blockFits, rfl⟩
    exact ⟨by omega, by omega, rfl⟩

/-- The kind and the symbol are read back from their byte. -/
theorem kindAndSymbol_spec (kind : V12FrameKind) (fits : symbolIndex < 32) :
    (kind.code <<< 6 ||| UInt8.ofNat symbolIndex) &&& 0x20 = 0 ∧
      (kind.code <<< 6 ||| UInt8.ofNat symbolIndex) >>> 6 = kind.code ∧
      ((kind.code <<< 6 ||| UInt8.ofNat symbolIndex) &&& 0x1f).toNat = symbolIndex := by
  have all : ∀ symbol : Fin 32,
      (kind.code <<< 6 ||| UInt8.ofNat symbol) &&& 0x20 = 0 ∧
        (kind.code <<< 6 ||| UInt8.ofNat symbol) >>> 6 = kind.code ∧
        ((kind.code <<< 6 ||| UInt8.ofNat symbol) &&& 0x1f).toNat = symbol := by
    cases kind <;> decide
  exact all ⟨symbolIndex, fits⟩

theorem decodeV12Frame_header (kind : V12FrameKind) (fits : symbolIndex < 32)
    (blockId payloadDigest : UInt16) (payload : V12Shard) :
    decodeV12Frame (v12Header kind symbolIndex blockId payloadDigest ++ payload.toList) =
      some {
        kind
        symbolIndex
        blockId := blockId.toNat
        firstSequence := blockId.toNat * v12BlockMessages
        payloadDigest
        payload } := by
  set data := v12Header kind symbolIndex blockId payloadDigest ++ payload.toList
  obtain ⟨reserved, kindBits, symbolBits⟩ := kindAndSymbol_spec kind fits
  have length : data.length = v12FrameSize := v12Frame_length _ _ _ _ payload
  have packed : data.getD 2 0 = kind.code <<< 6 ||| UInt8.ofNat symbolIndex := rfl
  have block : slice data 3 5 = u16ToBE blockId := rfl
  have sum : slice data 5 7 = u16ToBE payloadDigest := rfl
  have word (value : UInt16) : fromBE (u16ToBE value) = value.toNat :=
    fromBE_toBE (by simpa using value.toNat_lt)
  have checked : ¬(data.take 2 ≠ v12Magic ∨ data.getD 2 0 &&& 0x20 ≠ 0) := by
    rintro (other | other)
    · exact other rfl
    · exact other (packed ▸ reserved)
  have sequence : checkedMul usizeMax blockId.toNat v12BlockMessages =
      some (blockId.toNat * v12BlockMessages) := by
    have small := blockId.toNat_lt
    exact checkedMul_some_iff.mpr ⟨rfl, show blockId.toNat * 20 ≤ 2 ^ 64 - 1 by omega⟩
  rw [decodeV12Frame, dif_pos length, if_neg checked, packed, kindBits, symbolBits,
    V12FrameKind.tryFrom_code]
  simp only [Option.bind_eq_bind, Option.bind_some, block, sum, word, sequence,
    UInt16.ofNat_toNat]
  rfl

/-! ## What the digest catches -/

/-- **A changed byte is caught.** The digests of two strings that differ in one byte differ in
their low byte, and in the widths that frames carry. An encoded frame is decoded to what was
encoded, and with one byte of its payload changed it is decoded with a digest that is not the
one of its payload. -/
theorem digest_catches_byte :
    (∀ left right, DifferInOneByte left right →
      digest left ≠ digest right ∧ (digest left).toUInt8 ≠ (digest right).toUInt8 ∧
        (digest left).toUInt16 ≠ (digest right).toUInt16 ∧
        (digest left).toUInt32 ≠ (digest right).toUInt32) ∧
    (∀ kind symbolIndex blockId firstSequence payload frame,
      encodeV3Frame kind symbolIndex blockId firstSequence payload = pure frame →
      (∃ payloadDigest, decodeV3Frame frame =
          some { kind, symbolIndex, blockId, firstSequence, payloadDigest, payload } ∧
        (digest payload.toList).toUInt32 = payloadDigest) ∧
      ∀ altered : V3Payload, DifferInOneByte payload.toList altered.toList →
        ∃ decoded, decodeV3Frame (frame.take v3HeaderSize ++ altered.toList) = some decoded ∧
          decoded.payload = altered ∧
          (digest decoded.payload.toList).toUInt32 ≠ decoded.payloadDigest) ∧
    (∀ kind symbolIndex blockId payload frame,
      encodeV12Frame kind symbolIndex blockId payload = pure frame →
      (∃ firstSequence payloadDigest, decodeV12Frame frame =
          some { kind, symbolIndex, blockId, firstSequence, payloadDigest, payload } ∧
        (digest payload.toList).toUInt16 = payloadDigest) ∧
      ∀ altered : V12Shard, DifferInOneByte payload.toList altered.toList →
        ∃ decoded, decodeV12Frame (frame.take v12HeaderSize ++ altered.toList) = some decoded ∧
          decoded.payload = altered ∧
          (digest decoded.payload.toList).toUInt16 ≠ decoded.payloadDigest) := by
  refine ⟨fun left right differ => ⟨fun same => digest_low_ne differ (by rw [same]),
    digest_low_ne differ, digest_toUInt16_ne differ, digest_toUInt32_ne differ⟩, ?_, ?_⟩
  · intro kind symbolIndex blockId firstSequence payload frame encoded
    obtain ⟨symbolFits, blockFits, firstFits, rfl⟩ := encodeV3Frame_eq_pure_iff.mp encoded
    refine ⟨⟨_, ?_, rfl⟩, fun altered differ => ⟨_, decodeV3Frame_header kind _ _ _ _ altered,
      rfl, (digest_toUInt32_ne differ).symm⟩⟩
    rw [decodeV3Frame_header, UInt8.toNat_ofNat_of_lt' symbolFits,
      UInt32.toNat_ofNat_of_lt' blockFits, UInt32.toNat_ofNat_of_lt' firstFits]
  · intro kind symbolIndex blockId payload frame encoded
    obtain ⟨symbolFits, blockFits, rfl⟩ := encodeV12Frame_eq_pure_iff.mp encoded
    refine ⟨⟨blockId * v12BlockMessages, _, ?_, rfl⟩, fun altered differ =>
      ⟨_, decodeV12Frame_header kind symbolFits _ _ altered, rfl,
        (digest_toUInt16_ne differ).symm⟩⟩
    rw [decodeV12Frame_header kind symbolFits, UInt16.toNat_ofNat_of_lt' blockFits]

/-- A payload of zeros with one byte. -/
def examplePayload (byte : UInt8) : V3Payload :=
  ⟨byte :: List.replicate 199 0, rfl⟩

def exampleShard (byte : UInt8) : V12Shard := ⟨byte :: List.replicate 99 0, rfl⟩

theorem differInOneByte_cons {before after : UInt8} (different : before ≠ after)
    (back : List UInt8) : DifferInOneByte (before :: back) (after :: back) := by
  refine ⟨rfl, 0, by simpa using different, fun position differs => ?_⟩
  cases position with
  | zero => rfl
  | succ position => exact absurd rfl differs

theorem digest_catches_byte_example :
    DifferInOneByte (examplePayload 0).toList (examplePayload 1).toList ∧
      (digest (examplePayload 0).toList).toUInt8 ≠ (digest (examplePayload 1).toList).toUInt8 ∧
      (∃ frame decoded, encodeV3Frame .pairParity 3 7 70 (examplePayload 0) = pure frame ∧
        decodeV3Frame (frame.take v3HeaderSize ++ (examplePayload 1).toList) = some decoded ∧
        (digest decoded.payload.toList).toUInt32 ≠ decoded.payloadDigest) ∧
      ∃ frame decoded, encodeV12Frame .global 2 9 (exampleShard 0) = pure frame ∧
        decodeV12Frame (frame.take v12HeaderSize ++ (exampleShard 1).toList) = some decoded ∧
        (digest decoded.payload.toList).toUInt16 ≠ decoded.payloadDigest := by
  obtain ⟨digests, v3, v12⟩ := digest_catches_byte
  have payloads : DifferInOneByte (examplePayload 0).toList (examplePayload 1).toList :=
    differInOneByte_cons (by decide) _
  have shards : DifferInOneByte (exampleShard 0).toList (exampleShard 1).toList :=
    differInOneByte_cons (by decide) _
  refine ⟨payloads, (digests _ _ payloads).2.1, ?_, ?_⟩
  · have encoded : encodeV3Frame .pairParity 3 7 70 (examplePayload 0) = pure _ :=
      encodeV3Frame_eq_pure_iff.mpr ⟨by decide, by decide, by decide, rfl⟩
    obtain ⟨decoded, decodes, -, wrong⟩ := (v3 _ _ _ _ _ _ encoded).2 _ payloads
    exact ⟨_, decoded, encoded, decodes, wrong⟩
  · have encoded : encodeV12Frame .global 2 9 (exampleShard 0) = pure _ :=
      encodeV12Frame_eq_pure_iff.mpr ⟨by decide, by decide, rfl⟩
    obtain ⟨decoded, decodes, -, wrong⟩ := (v12 _ _ _ _ _ encoded).2 _ shards
    exact ⟨_, decoded, encoded, decodes, wrong⟩

end FlowWeave.Realtime
