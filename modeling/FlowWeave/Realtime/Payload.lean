/-
# Realtime.Payload — message payloads, shards and parities

The payload of a message is a function of its sequence number. The C v4 sender sends the ten
payloads of a block, the sum of each pair and two global parities; the C v12 sender cuts each
of the twenty payloads of a block into two shards and sends the shards, the sum of the two
shards of each message and three global parities. Payloads and shards are arrays of bytes and
all parities are linear: at every byte position (`lane`) a global parity is a sum of products
in `Gf256` (`lane_globalZero`, `lane_globalOne`, `lane_v12Parity`).
-/
import FlowWeave.Realtime.GaloisField
import Mathlib.Data.Vector.Zip

namespace FlowWeave.Realtime

set_option autoImplicit false

def v3LogicalMessageSize : Nat := 200

def v3BlockMessages : Nat := 10

def v3PairParities : Nat := v3BlockMessages / 2

def v3GlobalParities : Nat := 2

def v12ShardSize : Nat := v3LogicalMessageSize / 2

def v12BlockMessages : Nat := 20

def v12DataShards : Nat := v12BlockMessages * 2

def v12GlobalParities : Nat := 3

abbrev V3Payload := List.Vector UInt8 v3LogicalMessageSize

abbrev V12Shard := List.Vector UInt8 v12ShardSize

/-- Times are nanoseconds of one monotonic clock. -/
abbrev Instant := Nat

/-! ## The generated payloads -/

def rotateLeft (byte count : UInt8) : UInt8 := byte <<< count ||| byte >>> (8 - count)

/-- The bytes from `index` on, with the generator's state before them. -/
def v3PayloadBytes (sequence : UInt32) : Nat → Nat → UInt32 → List UInt8
  | 0, _, _ => []
  | rest + 1, index, state =>
    let state := state ^^^ state <<< 13
    let state := state ^^^ state >>> 17
    let state := state ^^^ state <<< 5
    let byte := state.toUInt8 +
      rotateLeft (UInt8.ofNat index) (sequence % 7 + 1).toUInt8 +
      (sequence >>> UInt32.ofNat (index % 4 * 8)).toUInt8
    byte :: v3PayloadBytes sequence rest (index + 1) state

theorem length_v3PayloadBytes (sequence : UInt32) (count index : Nat) (state : UInt32) :
    (v3PayloadBytes sequence count index state).length = count := by
  induction count generalizing index state with
  | zero => rfl
  | succ rest ih => simp [v3PayloadBytes, ih]

/-- The payload that the sender generates for a message. -/
def makeV3Payload (sequence : UInt32) : V3Payload :=
  ⟨v3PayloadBytes sequence v3LogicalMessageSize 0 (sequence * 0x85ebca6b + 0xc2b2ae35),
    length_v3PayloadBytes _ _ _ _⟩

/-- The two halves of a payload. -/
def makeV12MessageShards (sequence : UInt32) : V12Shard × V12Shard :=
  let payload := makeV3Payload sequence
  (⟨payload.toList.take v12ShardSize, by rw [List.length_take, payload.toList_length]; rfl⟩,
    ⟨payload.toList.drop v12ShardSize, by rw [List.length_drop, payload.toList_length]; rfl⟩)

def makeV12DataShard (firstSequence : UInt32) (dataIndex : Nat) : V12Shard :=
  let messageSlot := dataIndex / 2
  let half := dataIndex % 2
  let shards := makeV12MessageShards (firstSequence + UInt32.ofNat messageSlot)
  if half = 0 then shards.1 else shards.2

def makeV12BlockDataShards (firstSequence : UInt32) (index : Nat) : V12Shard :=
  makeV12DataShard firstSequence index

/-- A 64-bit hash of some bytes. -/
def digest (data : List UInt8) : UInt64 :=
  data.foldl (fun hash byte => hash * 0x100000001b3 ^^^ byte.toUInt64) 0xcbf29ce484222325

/-! ## Parities -/

section Bytes

variable {size : Nat}

def xorBytes (left right : List.Vector UInt8 size) : List.Vector UInt8 size :=
  List.Vector.zipWith (· ^^^ ·) left right

/-- `sum[i] ^= gf_mul(factor, source[i])` at every position. -/
def addScaled (sum : List.Vector UInt8 size) (factor : UInt8)
    (source : List.Vector UInt8 size) : List.Vector UInt8 size :=
  List.Vector.zipWith (fun byte other => byte ^^^ gfMul factor other) sum source

def zeroBytes : List.Vector UInt8 size := List.Vector.replicate size 0

/-- The byte at one position, as an element of the field. -/
def lane (bytes : List.Vector UInt8 size) (position : Fin size) : Gf256 := gf (bytes.get position)

theorem lane_ext {left right : List.Vector UInt8 size}
    (same : ∀ position, lane left position = lane right position) : left = right :=
  List.Vector.ext same

@[simp] theorem lane_xorBytes (left right : List.Vector UInt8 size) (position : Fin size) :
    lane (xorBytes left right) position = lane left position + lane right position := by
  simp [lane, xorBytes]

@[simp] theorem lane_addScaled (sum source : List.Vector UInt8 size) (factor : UInt8)
    (position : Fin size) :
    lane (addScaled sum factor source) position =
      lane sum position + gf factor * lane source position := by
  simp [lane, addScaled]

@[simp] theorem lane_zeroBytes (position : Fin size) :
    lane (zeroBytes : List.Vector UInt8 size) position = 0 := by
  simp [lane, zeroBytes]

/-- A sum of scaled arrays, lane by lane. -/
theorem lane_foldl_addScaled {ι : Type} (indices : List ι) (factor : ι → UInt8)
    (source : ι → List.Vector UInt8 size) (start : List.Vector UInt8 size)
    (position : Fin size) :
    lane (indices.foldl (fun sum index => addScaled sum (factor index) (source index)) start)
        position =
      lane start position +
        (indices.map fun index => gf (factor index) * lane (source index) position).sum := by
  induction indices generalizing start with
  | nil => simp
  | cons index indices ih => rw [List.foldl_cons, ih, lane_addScaled, List.map_cons,
      List.sum_cons, add_assoc]

/-- In a field of characteristic two the sum of two equal arrays cancels. -/
theorem xorBytes_cancel (left right : List.Vector UInt8 size) :
    xorBytes (xorBytes left right) right = left := by
  apply lane_ext
  intro position
  rw [lane_xorBytes, lane_xorBytes, add_assoc, Gf256.add_self, add_zero]

theorem xorBytes_comm (left right : List.Vector UInt8 size) :
    xorBytes left right = xorBytes right left := by
  apply lane_ext
  intro position
  rw [lane_xorBytes, lane_xorBytes, add_comm]

end Bytes

def xorV12Shards (left right : V12Shard) : V12Shard := xorBytes left right

/-- The plain sum of the payloads of a block and the sum with the coefficients. -/
def makeGlobalParities (payloads : Nat → V3Payload) : V3Payload × V3Payload :=
  (List.range v3BlockMessages).foldl
    (fun parities index => (xorBytes parities.1 (payloads index),
      addScaled parities.2 (globalCoefficient index) (payloads index)))
    (zeroBytes, zeroBytes)

/-- Row `r` is the sum of the shards with the `r`-th powers of their coefficients. -/
def makeV12GlobalParities (payloads : Nat → V12Shard) : List V12Shard :=
  (List.range v12DataShards).foldl
    (fun parities slot => parities.mapIdx fun row parity =>
      addScaled parity (gfPow (globalCoefficient slot) (UInt8.ofNat row)) (payloads slot))
    (List.replicate v12GlobalParities zeroBytes)

theorem lane_globalParities_foldl (payloads : Nat → V3Payload) (indices : List Nat)
    (start : V3Payload × V3Payload) (position : Fin v3LogicalMessageSize) :
    let parities := indices.foldl
      (fun parities index => (xorBytes parities.1 (payloads index),
        addScaled parities.2 (globalCoefficient index) (payloads index))) start
    lane parities.1 position =
        lane start.1 position + (indices.map fun index => lane (payloads index) position).sum ∧
      lane parities.2 position = lane start.2 position +
        (indices.map fun index =>
          gf (globalCoefficient index) * lane (payloads index) position).sum := by
  induction indices generalizing start with
  | nil => simp
  | cons index indices ih =>
    obtain ⟨one, two⟩ := ih (xorBytes start.1 (payloads index),
      addScaled start.2 (globalCoefficient index) (payloads index))
    simp only [List.foldl_cons, List.map_cons, List.sum_cons] at one two ⊢
    rw [one, two]
    simp [add_assoc]

theorem lane_globalZero (payloads : Nat → V3Payload) (position : Fin v3LogicalMessageSize) :
    lane (makeGlobalParities payloads).1 position =
      ((List.range v3BlockMessages).map fun index => lane (payloads index) position).sum := by
  have fold := (lane_globalParities_foldl payloads (List.range v3BlockMessages)
    (zeroBytes, zeroBytes) position).1
  rwa [lane_zeroBytes, zero_add] at fold

theorem lane_globalOne (payloads : Nat → V3Payload) (position : Fin v3LogicalMessageSize) :
    lane (makeGlobalParities payloads).2 position =
      ((List.range v3BlockMessages).map fun index =>
        gf (globalCoefficient index) * lane (payloads index) position).sum := by
  have fold := (lane_globalParities_foldl payloads (List.range v3BlockMessages)
    (zeroBytes, zeroBytes) position).2
  rwa [lane_zeroBytes, zero_add] at fold

/-- The coefficient of a slot in a row of the global parities. -/
def rowCoefficient (row slot : Nat) : UInt8 :=
  gfPow (globalCoefficient slot) (UInt8.ofNat row)

theorem gf_rowCoefficient {row : Nat} (small : row < v12GlobalParities) (slot : Nat) :
    gf (rowCoefficient row slot) = gf (globalCoefficient slot) ^ row := by
  rw [rowCoefficient, gf_gfPow, UInt8.toNat_ofNat_of_lt' (lt_of_lt_of_le small (by decide))]

/-- The global parity of one row. -/
def v12Parity (payloads : Nat → V12Shard) (row : Nat) : V12Shard :=
  (List.range v12DataShards).foldl
    (fun sum slot => addScaled sum (rowCoefficient row slot) (payloads slot)) zeroBytes

theorem makeV12GlobalParities_getElem? (payloads : Nat → V12Shard) {row : Nat}
    (small : row < v12GlobalParities) :
    (makeV12GlobalParities payloads)[row]? = some (v12Parity payloads row) := by
  have fold : ∀ (slots : List Nat) (parities : List V12Shard) (parity : V12Shard),
      parities[row]? = some parity →
      (slots.foldl (fun parities slot => parities.mapIdx fun row parity =>
        addScaled parity (gfPow (globalCoefficient slot) (UInt8.ofNat row)) (payloads slot))
        parities)[row]? =
      some (slots.foldl
        (fun sum slot => addScaled sum (rowCoefficient row slot) (payloads slot)) parity) := by
    intro slots
    induction slots with
    | nil => exact fun _ _ found => found
    | cons slot slots ih =>
      intro parities parity found
      apply ih
      rw [List.getElem?_mapIdx, found]
      rfl
  apply fold
  rw [List.getElem?_replicate, if_pos small]

theorem lane_v12Parity (payloads : Nat → V12Shard) {row : Nat} (small : row < v12GlobalParities)
    (position : Fin v12ShardSize) :
    lane (v12Parity payloads row) position =
      ((List.range v12DataShards).map fun slot =>
        gf (globalCoefficient slot) ^ row * lane (payloads slot) position).sum := by
  rw [v12Parity, lane_foldl_addScaled, lane_zeroBytes, zero_add]
  simp only [gf_rowCoefficient small]

end FlowWeave.Realtime
