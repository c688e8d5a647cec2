/-
# Vpn.NetworkEvent — the netlink parser (`src/vpn_network_event.rs`)

The monitor reads datagrams of netlink messages and wants the first one after which recovery
is worth a try. A message has a header of sixteen bytes with its length and its type and is
padded to a multiple of four bytes. The parser accepts exactly the streams of such messages
and returns the event of the first message that has one (`parseRecoveryEvent_exact`).
-/
import FlowWeave.Theory.MachineInt
import FlowWeave.Theory.Panics

namespace FlowWeave.Vpn

open Theory Theory.MachineInt Theory.BigEndian Fallible

set_option autoImplicit false

def netlinkAlignment : Nat := 4

def netlinkHeaderLen : Nat := 16

def netlinkLinkPayloadLen : Nat := 16

def netlinkAddressPayloadLen : Nat := 8

def netlinkRoutePayloadLen : Nat := 12

/-- `RTM_NEWLINK`, `RTM_NEWADDR`, `RTM_NEWROUTE` and `NLMSG_OVERRUN`. -/
def rtmNewLink : UInt16 := 16

def rtmNewAddr : UInt16 := 20

def rtmNewRoute : UInt16 := 24

def nlmsgOverrun : UInt16 := 4

def iffUp : UInt32 := 0x1

def iffRunning : UInt32 := 0x40

def iffLowerUp : UInt32 := 0x10000

inductive VpnNetworkRecoveryEvent where
  | linkAvailable
  | addressAdded
  | routeAdded
  | eventsLost
  deriving DecidableEq, Repr

inductive NetlinkParseError where
  | truncatedHeader
  | invalidMessageLength
  | truncatedPayload
  | lengthOverflow
  deriving DecidableEq, Repr

/-- A slice in memory has at most `isize::MAX` bytes. -/
structure ByteSlice where
  bytes : List UInt8
  fits : bytes.length ≤ 2 ^ 63 - 1

/-- The byte order of the target. -/
inductive Endian where
  | little
  | big
  deriving DecidableEq, Repr

section

variable (endian : Endian)

/-- The number that the target reads from some bytes. -/
def fromNE (bytes : List UInt8) : Nat :=
  match endian with
  | .little => fromBE bytes.reverse
  | .big => fromBE bytes

/-- Both panic on a slice of another length. -/
def readU16 (bytes : List UInt8) : Option UInt16 :=
  if bytes.length = 2 then some (UInt16.ofNat (fromNE endian bytes)) else none

def readU32 (bytes : List UInt8) : Option UInt32 :=
  if bytes.length = 4 then some (UInt32.ofNat (fromNE endian bytes)) else none

def requirePayload (payload : List UInt8) (minimum : Nat) : Fallible NetlinkParseError Unit :=
  .ensure (¬payload.length < minimum) .truncatedPayload

def linkIsAvailable (payload : List UInt8) : Fallible NetlinkParseError Bool := do
  let flags ← expect ((slice? payload 8 12).bind (readU32 endian))
  let isUp := flags &&& iffUp ≠ 0
  let hasCarrier := flags &&& (iffRunning ||| iffLowerUp) ≠ 0
  return isUp ∧ hasCarrier

/-- The event after a message; one that was there stays. -/
def eventAfter (messageType : UInt16) (payload : List UInt8)
    (recoveryEvent : Option VpnNetworkRecoveryEvent) :
    Fallible NetlinkParseError (Option VpnNetworkRecoveryEvent) :=
  if messageType = rtmNewLink then do
    requirePayload payload netlinkLinkPayloadLen
    let available ← linkIsAvailable endian payload
    return if available then recoveryEvent.or (some .linkAvailable) else recoveryEvent
  else if messageType = rtmNewAddr then do
    requirePayload payload netlinkAddressPayloadLen
    return recoveryEvent.or (some .addressAdded)
  else if messageType = rtmNewRoute then do
    requirePayload payload netlinkRoutePayloadLen
    return recoveryEvent.or (some .routeAdded)
  else if messageType = nlmsgOverrun then
    return recoveryEvent.or (some .eventsLost)
  else return recoveryEvent

/-- `x & !(NETLINK_ALIGNMENT - 1)` of a `usize`. -/
def clearLowBits (value : Nat) : Nat :=
  (UInt64.ofNat value &&& ~~~(UInt64.ofNat (netlinkAlignment - 1))).toNat

/-- The body of the loop: the next offset and the event so far. -/
def parseMessage (datagram : List UInt8) (offset : Nat)
    (recoveryEvent : Option VpnNetworkRecoveryEvent) :
    Fallible NetlinkParseError (Nat × Option VpnNetworkRecoveryEvent) := do
  let remaining ← expect (slice? datagram offset datagram.length)
  ensure (¬remaining.length < netlinkHeaderLen) .truncatedHeader
  let messageLen ← expect ((slice? remaining 0 4).bind (readU32 endian))
  ensure
    (¬(messageLen.toNat < netlinkHeaderLen ∨ messageLen.toNat > remaining.length))
    .invalidMessageLength
  let messageType ← expect ((slice? remaining 4 6).bind (readU16 endian))
  let payload ← expect (slice? remaining netlinkHeaderLen messageLen.toNat)
  let recoveryEvent ← eventAfter endian messageType payload recoveryEvent
  let padded ← okOr .lengthOverflow
    (checkedAdd usizeMax messageLen.toNat (netlinkAlignment - 1))
  let next ←
    if clearLowBits padded > remaining.length then
      if messageLen.toNat = remaining.length then pure datagram.length
      else throw .invalidMessageLength
    else okOr .lengthOverflow (checkedAdd usizeMax offset (clearLowBits padded))
  return (next, recoveryEvent)

/-- The loop, for a number of rounds; one that is not over by then has no result. -/
def parseMessages (datagram : List UInt8) : Nat → Nat → Option VpnNetworkRecoveryEvent →
    Fallible NetlinkParseError (Option VpnNetworkRecoveryEvent)
  | 0, _, _ => expect none
  | rounds + 1, offset, recoveryEvent =>
    if offset < datagram.length then do
      let (offset, recoveryEvent) ← parseMessage endian datagram offset recoveryEvent
      parseMessages datagram rounds offset recoveryEvent
    else return recoveryEvent

/-- No datagram takes more rounds than it has bytes. -/
def parseRecoveryEvent (datagram : ByteSlice) :
    Fallible NetlinkParseError (Option VpnNetworkRecoveryEvent) :=
  parseMessages endian datagram.bytes (datagram.bytes.length + 1) 0 none

/-! ## Streams of messages -/

/-- The fields of a message. -/
def messageLength (message : List UInt8) : Nat := fromNE endian (message.take 4)

def messageTypeOf (message : List UInt8) : UInt16 :=
  UInt16.ofNat (fromNE endian (slice message 4 6))

def linkFlags (message : List UInt8) : UInt32 :=
  UInt32.ofNat (fromNE endian (slice message (netlinkHeaderLen + 8) (netlinkHeaderLen + 12)))

/-- The fixed part of the payload of a type. -/
def fixedPayloadLen (messageType : UInt16) : Nat :=
  if messageType = rtmNewLink then netlinkLinkPayloadLen
  else if messageType = rtmNewAddr then netlinkAddressPayloadLen
  else if messageType = rtmNewRoute then netlinkRoutePayloadLen
  else 0

/-- A message, without its padding: its length field is its length and the fixed part of its
payload is there. -/
structure NetlinkMessage (message : List UInt8) : Prop where
  header : netlinkHeaderLen ≤ message.length
  length : messageLength endian message = message.length
  payload : netlinkHeaderLen + fixedPayloadLen (messageTypeOf endian message) ≤ message.length

/-- The event of a message: a link that is up and has a carrier, a new address, a new route
or an overrun. -/
def messageEvent (message : List UInt8) : Option VpnNetworkRecoveryEvent :=
  if messageTypeOf endian message = rtmNewLink then
    let flags := linkFlags endian message
    if flags &&& iffUp ≠ 0 ∧ (flags &&& iffRunning ≠ 0 ∨ flags &&& iffLowerUp ≠ 0) then
      some .linkAvailable
    else none
  else if messageTypeOf endian message = rtmNewAddr then some .addressAdded
  else if messageTypeOf endian message = rtmNewRoute then some .routeAdded
  else if messageTypeOf endian message = nlmsgOverrun then some .eventsLost
  else none

/-- Messages one after the other, each with its padding; the last one may have none. -/
inductive NetlinkStream : List (List UInt8) → List UInt8 → Prop
  | nil : NetlinkStream [] []
  | last {message : List UInt8} (formed : NetlinkMessage endian message) :
      NetlinkStream [message] message
  | cons {message padding rest : List UInt8} {messages : List (List UInt8)}
      (formed : NetlinkMessage endian message)
      (aligned : (message.length + padding.length) % netlinkAlignment = 0)
      (short : padding.length < netlinkAlignment) (stream : NetlinkStream messages rest) :
      NetlinkStream (message :: messages) (message ++ padding ++ rest)

/-! ## One round -/

variable {endian}

theorem fromNE_lt (bytes : List UInt8) : fromNE endian bytes < 256 ^ bytes.length := by
  cases endian with
  | little =>
    rw [fromNE, ← List.length_reverse]
    exact fromBE_lt _
  | big => exact fromBE_lt bytes

theorem clearLowBits_eq {value : Nat} (fits : value < 2 ^ 64) :
    clearLowBits value = value / netlinkAlignment * netlinkAlignment := by
  have mask : (~~~(UInt64.ofNat (netlinkAlignment - 1))).toNat = (2 ^ 62 - 1) <<< 2 := by decide
  have multiple : value / netlinkAlignment * netlinkAlignment = value >>> 2 <<< 2 := by
    rw [Nat.shiftRight_eq_div_pow, Nat.shiftLeft_eq]
    rfl
  rw [clearLowBits, UInt64.toNat_and, UInt64.toNat_ofNat_of_lt' fits, mask, multiple]
  apply Nat.eq_of_testBit_eq
  intro bit
  rw [Nat.testBit_and, Nat.testBit_shiftLeft, Nat.testBit_shiftLeft, Nat.testBit_two_pow_sub_one,
    Nat.testBit_shiftRight]
  by_cases low : 2 ≤ bit
  · rw [Nat.add_sub_cancel' low]
    by_cases high : bit < 64
    · simp [low, show bit - 2 < 62 by omega]
    · have zero : value.testBit bit = false :=
        Nat.testBit_lt_two_pow (lt_of_lt_of_le fits (Nat.pow_le_pow_right (by decide) (by omega)))
      simp [zero]
  · simp [low]

variable {bytes : List UInt8}

theorem readU32_slice {first : Nat} (inside : first + 4 ≤ bytes.length) :
    (slice? bytes first (first + 4)).bind (readU32 endian) =
      some (UInt32.ofNat (fromNE endian (slice bytes first (first + 4)))) := by
  rw [slice?_eq (by omega) inside, Option.bind_some, readU32,
    if_pos (slice_width inside (by omega))]

theorem readU16_slice {first : Nat} (inside : first + 2 ≤ bytes.length) :
    (slice? bytes first (first + 2)).bind (readU16 endian) =
      some (UInt16.ofNat (fromNE endian (slice bytes first (first + 2)))) := by
  rw [slice?_eq (by omega) inside, Option.bind_some, readU16,
    if_pos (slice_width inside (by omega))]

variable {message : List UInt8}

theorem linkIsAvailable_eq (long : netlinkHeaderLen + netlinkLinkPayloadLen ≤ message.length) :
    linkIsAvailable endian (message.drop netlinkHeaderLen) =
      pure (decide (linkFlags endian message &&& iffUp ≠ 0 ∧
        (linkFlags endian message &&& iffRunning ≠ 0 ∨
          linkFlags endian message &&& iffLowerUp ≠ 0))) := by
  have inside : 8 + 4 ≤ (message.drop netlinkHeaderLen).length := by
    rw [List.length_drop]
    exact Nat.le_sub_of_add_le (le_trans (by decide) long)
  have same : slice (message.drop netlinkHeaderLen) 8 (8 + 4) =
      slice message (netlinkHeaderLen + 8) (netlinkHeaderLen + 12) := by
    rw [slice, slice, List.drop_drop]
    rfl
  rw [linkIsAvailable, show (12 : Nat) = 8 + 4 from rfl, readU32_slice inside, same,
    expect_some, pure_bind]
  simp only [flag_or_iff]
  rfl

/-- What a message does to the event, once its payload is long enough. -/
theorem eventAfter_eq (recoveryEvent : Option VpnNetworkRecoveryEvent)
    (header : netlinkHeaderLen ≤ message.length) :
    eventAfter endian (messageTypeOf endian message) (message.drop netlinkHeaderLen)
        recoveryEvent =
      if netlinkHeaderLen + fixedPayloadLen (messageTypeOf endian message) ≤ message.length then
        pure (recoveryEvent.or (messageEvent endian message))
      else throw .truncatedPayload := by
  unfold eventAfter fixedPayloadLen messageEvent
  generalize messageTypeOf endian message = messageType
  have required (minimum : Nat) : requirePayload (message.drop netlinkHeaderLen) minimum =
      if netlinkHeaderLen + minimum ≤ message.length then pure () else throw .truncatedPayload := by
    rw [requirePayload, ensure, List.length_drop]
    congr 1
    apply propext
    omega
  by_cases link : messageType = rtmNewLink
  · simp only [if_pos link, required]
    by_cases long : netlinkHeaderLen + netlinkLinkPayloadLen ≤ message.length
    · rw [if_pos long, if_pos long, pure_bind, linkIsAvailable_eq long, pure_bind]
      split_ifs <;> simp_all
    · rw [if_neg long, if_neg long, throw_bind]
  by_cases address : messageType = rtmNewAddr
  · simp only [if_neg link, if_pos address, required]
    split_ifs <;> rfl
  by_cases route : messageType = rtmNewRoute
  · simp only [if_neg link, if_neg address, if_pos route, required]
    split_ifs <;> rfl
  simp only [if_neg link, if_neg address, if_neg route]
  rw [Nat.add_zero, if_pos header]
  split_ifs
  · rfl
  · rw [Option.or_none]

/-- The padding that a message takes. -/
def paddingLen (message : List UInt8) : Nat :=
  (message.length + (netlinkAlignment - 1)) / netlinkAlignment * netlinkAlignment - message.length

theorem paddingLen_unique {padding : Nat} :
    (message.length + padding) % netlinkAlignment = 0 ∧ padding < netlinkAlignment ↔
      padding = paddingLen message := by
  simp only [paddingLen, netlinkAlignment]
  omega

/-- A message that starts a stream of bytes, with what follows it. -/
structure StartsWith (endian : Endian) (bytes message rest : List UInt8) : Prop where
  split : bytes = message ++ rest
  header : netlinkHeaderLen ≤ message.length
  length : messageLength endian message = message.length

variable {rest : List UInt8}

/-- The length field decides where the first message ends. -/
theorem StartsWith.unique {other after : List UInt8} (one : StartsWith endian bytes message rest)
    (two : StartsWith endian bytes other after) : message = other ∧ rest = after := by
  have longOne := one.header
  have longTwo := two.header
  have header : netlinkHeaderLen = 16 := rfl
  have fields : message.take 4 = other.take 4 := by
    have first := @List.take_append_of_le_length _ message rest 4 (by omega)
    rw [← first, ← one.split, two.split, List.take_append_of_le_length (by omega)]
  have same : message.length = other.length := by
    rw [← one.length, ← two.length, messageLength, messageLength, fields]
  exact List.append_inj (one.split.symm.trans two.split) same

/-- The first message of a stream, its padding and the stream after it. -/
theorem NetlinkStream.uncons {messages : List (List UInt8)}
    (stream : NetlinkStream endian messages bytes) (present : bytes ≠ []) :
    ∃ message later rest, messages = message :: later ∧ NetlinkMessage endian message ∧
      StartsWith endian bytes message rest ∧
      (rest = [] ∧ later = [] ∨
        paddingLen message ≤ rest.length ∧
          NetlinkStream endian later (rest.drop (paddingLen message))) := by
  cases stream with
  | nil => exact absurd rfl present
  | last formed =>
    exact ⟨bytes, [], [], rfl, formed, ⟨(List.append_nil _).symm, formed.header, formed.length⟩,
      .inl ⟨rfl, rfl⟩⟩
  | @cons message padding rest later formed aligned short stream =>
    have own : padding.length = paddingLen message := paddingLen_unique.mp ⟨aligned, short⟩
    refine ⟨message, later, padding ++ rest, rfl, formed,
      ⟨List.append_assoc _ _ _, formed.header, formed.length⟩, .inr ⟨?_, ?_⟩⟩
    · rw [← own, List.length_append]
      omega
    · rw [← own, List.drop_left]
      exact stream

theorem NetlinkStream.eq_nil {messages : List (List UInt8)}
    (stream : NetlinkStream endian messages []) : messages = [] := by
  generalize empty : ([] : List UInt8) = bytes at stream
  cases stream with
  | nil => rfl
  | last formed => exact absurd formed.header (by rw [← empty]; decide)
  | cons formed aligned short stream =>
    have nothing := (List.append_eq_nil_iff.mp (List.append_eq_nil_iff.mp empty.symm).1).1
    exact absurd formed.header (by rw [nothing]; decide)

theorem NetlinkStream.cons_iff (starts : StartsWith endian bytes message rest)
    (formed : NetlinkMessage endian message) (room : paddingLen message ≤ rest.length ∨ rest = [])
    (messages : List (List UInt8)) :
    NetlinkStream endian messages bytes ↔
      ∃ later, messages = message :: later ∧
        NetlinkStream endian later (rest.drop (paddingLen message)) := by
  have positive : 0 < message.length := lt_of_lt_of_le (by decide) starts.header
  constructor
  · intro stream
    have present : bytes ≠ [] := by
      rw [starts.split]
      exact List.append_ne_nil_of_left_ne_nil (List.ne_nil_of_length_pos positive) rest
    obtain ⟨other, later, after, rfl, -, begins, last⟩ := stream.uncons present
    obtain ⟨rfl, rfl⟩ := starts.unique begins
    refine ⟨later, rfl, ?_⟩
    rcases last with ⟨rfl, rfl⟩ | ⟨-, stream⟩
    · rw [List.drop_nil]
      exact .nil
    · exact stream
  · rintro ⟨later, rfl, stream⟩
    rw [starts.split]
    rcases room with room | rfl
    · have width : (rest.take (paddingLen message)).length = paddingLen message :=
        List.length_take_of_le room
      obtain ⟨aligned, short⟩ := paddingLen_unique.mpr width
      have whole := NetlinkStream.cons formed aligned short stream
      rwa [List.append_assoc, List.take_append_drop] at whole
    · rw [List.drop_nil] at stream
      rw [stream.eq_nil, List.append_nil]
      exact .last formed

variable {datagram : List UInt8}

/-- A round on bytes that start with a message. -/
theorem parseMessage_eq (fits : datagram.length ≤ 2 ^ 63 - 1) {offset : Nat}
    (inside : offset ≤ datagram.length)
    (starts : StartsWith endian (datagram.drop offset) message rest)
    (recoveryEvent : Option VpnNetworkRecoveryEvent) :
    parseMessage endian datagram offset recoveryEvent =
      if netlinkHeaderLen + fixedPayloadLen (messageTypeOf endian message) ≤ message.length then
        if paddingLen message ≤ rest.length then
          pure (offset + (message.length + paddingLen message),
            recoveryEvent.or (messageEvent endian message))
        else if rest = [] then
          pure (datagram.length, recoveryEvent.or (messageEvent endian message))
        else throw .invalidMessageLength
      else throw .truncatedPayload := by
  obtain ⟨split, long, declared⟩ := starts
  have header : netlinkHeaderLen = 16 := rfl
  have usize : usizeMax = 2 ^ 64 - 1 := rfl
  have alignment : netlinkAlignment = 4 := rfl
  have small : message.length < 2 ^ 32 := by
    have bound := @fromNE_lt endian (message.take 4)
    rw [List.length_take, Nat.min_eq_left (by omega)] at bound
    rw [← declared]
    exact bound
  have total : (message ++ rest).length = datagram.length - offset := by
    rw [← split, List.length_drop]
  have whole : (message ++ rest).length = message.length + rest.length := List.length_append
  have remaining : slice? datagram offset datagram.length = some (message ++ rest) := by
    rw [slice?_eq inside le_rfl, slice_to_end, split]
  have lengthField : (slice? (message ++ rest) 0 4).bind (readU32 endian) =
      some (UInt32.ofNat message.length) := by
    rw [show (4 : Nat) = 0 + 4 from rfl, readU32_slice (by omega),
      slice_append_left rest 0 (by omega), ← declared]
    rfl
  have typeField : (slice? (message ++ rest) 4 6).bind (readU16 endian) =
      some (messageTypeOf endian message) := by
    rw [show (6 : Nat) = 4 + 2 from rfl, readU16_slice (by omega),
      slice_append_left rest 4 (by omega)]
    rfl
  have payload : slice? (message ++ rest) netlinkHeaderLen message.length =
      some (message.drop netlinkHeaderLen) := by
    rw [slice?_eq long (by omega), slice_append_left rest _ le_rfl, slice_to_end]
  have aligned : clearLowBits (message.length + (netlinkAlignment - 1)) =
      message.length + paddingLen message := by
    rw [clearLowBits_eq (by omega), paddingLen]
    simp only [netlinkAlignment]
    omega
  rw [parseMessage, remaining, expect_some, pure_bind,
    ensure_of _ (by omega), pure_bind, lengthField, expect_some, pure_bind,
    UInt32.toNat_ofNat_of_lt' small, ensure_of _ (by omega), pure_bind, typeField,
    expect_some, pure_bind, payload, expect_some, pure_bind,
    eventAfter_eq recoveryEvent long, checkedAdd_eq_some (by omega), okOr_some]
  split
  · rw [pure_bind, pure_bind, aligned, whole]
    by_cases room : paddingLen message ≤ rest.length
    · rw [if_neg (by omega), if_pos room, checkedAdd_eq_some (by omega), okOr_some,
        pure_bind]
    · rw [if_pos (by omega), if_neg room]
      by_cases ends : rest = []
      · rw [if_pos ends, if_pos (by rw [ends]; rfl), pure_bind]
      · have more : message.length ≠ message.length + rest.length := by
          have := List.length_pos_iff.mpr ends
          omega
        rw [if_neg ends, if_neg more, throw_bind]
  · rfl

/-- A round on bytes that do not start with a message. -/
theorem parseMessage_throws {offset : Nat} (inside : offset ≤ datagram.length)
    (no : ∀ message rest, ¬StartsWith endian (datagram.drop offset) message rest)
    (recoveryEvent : Option VpnNetworkRecoveryEvent) :
    ∃ error, parseMessage endian datagram offset recoveryEvent = throw error := by
  have header : netlinkHeaderLen = 16 := rfl
  rw [parseMessage, slice?_eq inside le_rfl, slice_to_end, expect_some, pure_bind]
  generalize datagram.drop offset = remaining at no
  by_cases short : remaining.length < netlinkHeaderLen
  · exact ⟨.truncatedHeader, by rw [ensure, if_neg (not_not.mpr short), throw_bind]⟩
  rw [ensure_of _ short, pure_bind, show (4 : Nat) = 0 + 4 from rfl,
    readU32_slice (by omega), expect_some, pure_bind]
  by_cases wrong : (UInt32.ofNat (fromNE endian (slice remaining 0 (0 + 4)))).toNat <
      netlinkHeaderLen ∨
      (UInt32.ofNat (fromNE endian (slice remaining 0 (0 + 4)))).toNat > remaining.length
  · exact ⟨.invalidMessageLength,
      by rw [ensure, if_neg (not_not.mpr wrong), throw_bind]⟩
  -- A length field in range would make the bytes start with a message.
  · have small : fromNE endian (slice remaining 0 4) < 2 ^ 32 := by
      have bound := @fromNE_lt endian (slice remaining 0 4)
      rwa [slice_width (by omega) rfl] at bound
    rw [UInt32.toNat_ofNat_of_lt' small, not_or, not_lt, not_lt] at wrong
    have own : (remaining.take (fromNE endian (slice remaining 0 4))).length =
        fromNE endian (slice remaining 0 4) := List.length_take_of_le wrong.2
    refine absurd ⟨(List.take_append_drop _ remaining).symm, ?_, ?_⟩
      (no (remaining.take (fromNE endian (slice remaining 0 4))) _)
    · rw [own]
      exact wrong.1
    · rw [own, messageLength, List.take_take, Nat.min_eq_left (by omega)]
      rfl

/-- **One round**: it fails if the bytes are not a stream, and otherwise reads their first
message and goes on behind its padding. -/
theorem parseMessage_spec (fits : datagram.length ≤ 2 ^ 63 - 1) {offset : Nat}
    (inside : offset < datagram.length) (recoveryEvent : Option VpnNetworkRecoveryEvent) :
    (∃ error, parseMessage endian datagram offset recoveryEvent = throw error ∧
      ∀ messages, ¬NetlinkStream endian messages (datagram.drop offset)) ∨
    ∃ message next, offset < next ∧ next ≤ datagram.length ∧
      parseMessage endian datagram offset recoveryEvent =
        pure (next, recoveryEvent.or (messageEvent endian message)) ∧
      ∀ messages, NetlinkStream endian messages (datagram.drop offset) ↔
        ∃ later, messages = message :: later ∧ NetlinkStream endian later (datagram.drop next) := by
  have present : datagram.drop offset ≠ [] := by
    rw [Ne, List.drop_eq_nil_iff]
    omega
  by_cases found : ∃ message rest, StartsWith endian (datagram.drop offset) message rest
  · obtain ⟨message, rest, starts⟩ := found
    have round := parseMessage_eq fits inside.le starts recoveryEvent
    have total : datagram.length - offset = message.length + rest.length := by
      rw [← List.length_drop, starts.split, List.length_append]
    have positive : 0 < message.length := lt_of_lt_of_le (by decide) starts.header
    by_cases formed : netlinkHeaderLen + fixedPayloadLen (messageTypeOf endian message) ≤
        message.length
    · have whole : NetlinkMessage endian message := ⟨starts.header, starts.length, formed⟩
      rw [if_pos formed] at round
      by_cases room : paddingLen message ≤ rest.length
      · rw [if_pos room] at round
        refine .inr ⟨message, _, by omega, by omega, round, fun messages => ?_⟩
        rw [← List.drop_drop, starts.split, ← List.drop_drop, List.drop_left, ← starts.split]
        exact NetlinkStream.cons_iff starts whole (.inl room) messages
      · rw [if_neg room] at round
        by_cases ends : rest = []
        · rw [if_pos ends] at round
          refine .inr ⟨message, _, inside, le_rfl, round, fun messages => ?_⟩
          have streams := NetlinkStream.cons_iff starts whole (.inr ends) messages
          rwa [ends, List.drop_nil, ← List.drop_length] at streams
        · rw [if_neg ends] at round
          refine .inl ⟨_, round, fun messages stream => ?_⟩
          obtain ⟨other, later, after, -, -, begins, last⟩ := stream.uncons present
          obtain ⟨rfl, rfl⟩ := starts.unique begins
          rcases last with ⟨nothing, -⟩ | ⟨enough, -⟩
          · exact ends nothing
          · exact room enough
    · rw [if_neg formed] at round
      refine .inl ⟨_, round, fun messages stream => ?_⟩
      obtain ⟨other, later, after, -, first, begins, -⟩ := stream.uncons present
      obtain ⟨rfl, rfl⟩ := starts.unique begins
      exact formed first.payload
  · obtain ⟨error, fails⟩ := parseMessage_throws inside.le
      (fun message rest starts => found ⟨message, rest, starts⟩) recoveryEvent
    refine .inl ⟨error, fails, fun messages stream => found ?_⟩
    obtain ⟨message, later, rest, -, -, starts, -⟩ := stream.uncons present
    exact ⟨message, rest, starts⟩

/-! ## The loop -/

theorem parseMessages_spec (fits : datagram.length ≤ 2 ^ 63 - 1) {rounds offset : Nat}
    (inside : offset ≤ datagram.length) (enough : datagram.length - offset < rounds)
    (recoveryEvent : Option VpnNetworkRecoveryEvent) :
    (parseMessages endian datagram rounds offset recoveryEvent).Returns ∧
      ∀ result, parseMessages endian datagram rounds offset recoveryEvent = pure result ↔
        ∃ messages, NetlinkStream endian messages (datagram.drop offset) ∧
          result = recoveryEvent.or (messages.findSome? (messageEvent endian)) := by
  induction rounds generalizing offset recoveryEvent with
  | zero => exact absurd enough (Nat.not_lt_zero _)
  | succ rounds ih =>
    rw [parseMessages]
    by_cases more : offset < datagram.length
    · rw [if_pos more]
      rcases parseMessage_spec fits more recoveryEvent with
        ⟨error, fails, none⟩ | ⟨message, next, forward, within, reads, streams⟩
      · rw [fails, throw_bind]
        refine ⟨returns_throw error, fun result => iff_of_false nofun ?_⟩
        rintro ⟨messages, stream, -⟩
        exact none messages stream
      · rw [reads, pure_bind]
        obtain ⟨returns, results⟩ := ih within (by omega)
          (recoveryEvent.or (messageEvent endian message))
        refine ⟨returns, fun result => (results result).trans ?_⟩
        constructor
        · rintro ⟨later, stream, rfl⟩
          refine ⟨message :: later, (streams _).mpr ⟨later, rfl, stream⟩, ?_⟩
          rw [Option.or_assoc, List.findSome?_cons]
          cases messageEvent endian message <;> rfl
        · rintro ⟨messages, stream, rfl⟩
          obtain ⟨later, rfl, after⟩ := (streams _).mp stream
          refine ⟨later, after, ?_⟩
          rw [Option.or_assoc, List.findSome?_cons]
          cases messageEvent endian message <;> rfl
    · rw [if_neg more, List.drop_eq_nil_of_le (Nat.le_of_not_lt more)]
      refine ⟨returns_pure _, fun result => ?_⟩
      constructor
      · intro same
        cases pure_eq_pure_iff.mp same
        exact ⟨[], .nil, (Option.or_none).symm⟩
      · rintro ⟨messages, stream, rfl⟩
        rw [stream.eq_nil]
        simp

/-- **The parser** returns on every byte string, accepts exactly the streams of well-formed
messages and gives the event of the first message that has one. -/
theorem parseRecoveryEvent_exact (endian : Endian) (datagram : ByteSlice) :
    (parseRecoveryEvent endian datagram).Returns ∧
      ∀ result, parseRecoveryEvent endian datagram = pure result ↔
        ∃ messages, NetlinkStream endian messages datagram.bytes ∧
          result = messages.findSome? (messageEvent endian) := by
  have spec := @parseMessages_spec endian datagram.bytes datagram.fits
    (datagram.bytes.length + 1) 0 (Nat.zero_le _) (Nat.lt_succ_self _) none
  simpa only [parseRecoveryEvent, List.drop_zero, Option.none_or] using spec

end

end FlowWeave.Vpn
