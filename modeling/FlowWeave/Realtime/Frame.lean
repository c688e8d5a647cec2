/-
# Realtime.Frame — the frames of the two codes

A C v3 frame (used by C v4) has a header of twenty bytes, a C v12 frame one of seven. What follows
the header is the payload of a message, or a shard; the header has its digest.
-/
import FlowWeave.Realtime.Payload
import FlowWeave.Theory.BigEndian
import FlowWeave.Theory.MachineInt

namespace FlowWeave.Realtime

open Theory.MachineInt Theory.BigEndian

set_option autoImplicit false

/-! ## C v3 frames -/

inductive V3FrameKind where
  | original
  | pairParity
  | globalZero
  | globalOne
  deriving DecidableEq, Repr

def V3FrameKind.tryFrom (value : UInt8) : Option V3FrameKind :=
  if value = 0 then some .original
  else if value = 1 then some .pairParity
  else if value = 2 then some .globalZero
  else if value = 3 then some .globalOne
  else none

structure V3DecodedFrame where
  kind : V3FrameKind
  symbolIndex : Nat
  blockId : Nat
  firstSequence : Nat
  payloadDigest : UInt32
  payload : V3Payload

/-- The ASCII text `FWC3`. -/
def v3Magic : List UInt8 := [0x46, 0x57, 0x43, 0x33]

def v3Version : UInt8 := 3

def v3HeaderSize : Nat := 20

def v3FrameSize : Nat := v3HeaderSize + v3LogicalMessageSize

def decodeV3Frame (data : List UInt8) : Option V3DecodedFrame :=
  if length : data.length = v3FrameSize then
    if data.take 4 ≠ v3Magic ∨ data.getD 4 0 ≠ v3Version ∨ data.getD 7 0 ≠ 0 then none
    else do
      let kind ← V3FrameKind.tryFrom (data.getD 5 0)
      some {
        kind
        symbolIndex := (data.getD 6 0).toNat
        blockId := fromBE (slice data 8 12)
        firstSequence := fromBE (slice data 12 16)
        payloadDigest := UInt32.ofNat (fromBE (slice data 16 20))
        payload := ⟨data.drop v3HeaderSize, by rw [List.length_drop, length]; rfl⟩ }
  else none

/-! ## C v12 frames -/

inductive V12FrameKind where
  | data0
  | data1
  | localParity
  | global
  deriving DecidableEq, Repr

def V12FrameKind.tryFrom (value : UInt8) : Option V12FrameKind :=
  if value = 0 then some .data0
  else if value = 1 then some .data1
  else if value = 2 then some .localParity
  else if value = 3 then some .global
  else none

structure V12DecodedFrame where
  kind : V12FrameKind
  symbolIndex : Nat
  blockId : Nat
  firstSequence : Nat
  payloadDigest : UInt16
  payload : V12Shard

/-- The ASCII text `F2`. -/
def v12Magic : List UInt8 := [0x46, 0x32]

def v12HeaderSize : Nat := 7

def v12FrameSize : Nat := v12HeaderSize + v12ShardSize

def decodeV12Frame (data : List UInt8) : Option V12DecodedFrame :=
  if length : data.length = v12FrameSize then
    if data.take 2 ≠ v12Magic ∨ data.getD 2 0 &&& 0x20 ≠ 0 then none
    else do
      let kind ← V12FrameKind.tryFrom (data.getD 2 0 >>> 6)
      let blockId := fromBE (slice data 3 5)
      let firstSequence ← checkedMul usizeMax blockId v12BlockMessages
      some {
        kind
        symbolIndex := (data.getD 2 0 &&& 0x1f).toNat
        blockId
        firstSequence
        payloadDigest := UInt16.ofNat (fromBE (slice data 5 7))
        payload := ⟨data.drop v12HeaderSize, by rw [List.length_drop, length]; rfl⟩ }
  else none

/-- The data shards of the block that starts at a sequence number. -/
def sentV12Shards (firstSequence : Nat) : Nat → V12Shard :=
  makeV12BlockDataShards (UInt32.ofNat firstSequence)

end FlowWeave.Realtime
