/-
# Proxy.Request — the request of a proxied stream, and who may connect

A stream begins with a request: magic, two lengths, the token and the text of the target.
The server reads it with two `read_exact` calls from a stream that arrives in pieces of any
size, and decodes what it has read. `readExact_eq` says that the pieces do not matter, and
`readProxyRequest_eq` that the reader and the decoder agree on whatever was read, although
both check the header.

`handleServerStream` is the program of one stream, with the questions it asks: what the stream
says, which tokens are accepted at that moment (they may be reloaded at any time), and whether
the upstream can be reached. The three parts together are `proxy_request_exact`.

The text of a socket address is `std::net`'s: `SocketAddrText` holds what is used of it.
-/
import FlowWeave.Proxy.Observation
import FlowWeave.Theory.Dialogue
import FlowWeave.Vpn.Ipv4Text
import Mathlib.Data.Nat.Digits.Defs

namespace FlowWeave.Proxy

open Theory Theory.BigEndian Dialogue List
open FlowWeave.Vpn (Ipv4Addr Ipv6Addr splitOnce)

set_option autoImplicit false

/-- The ASCII text `FWX1`. -/
def proxyMagic : List UInt8 := [0x46, 0x57, 0x58, 0x31]

def minTokenLength : Nat := 32

def maxTokenLength : Nat := 256

def maxTargetLength : Nat := 128

def statusVersion : UInt8 := 1

def statusFormat : UInt8 := 2

def statusAuthorization : UInt8 := 3

def statusTarget : UInt8 := 4

def statusUpstream : UInt8 := 5

/-! ## Addresses and their texts -/

inductive SocketAddr where
  | v4 (ip : Ipv4Addr) (port : UInt16)
  | v6 (ip : Ipv6Addr) (port : UInt16) (flowInfo scopeId : UInt32)
  deriving DecidableEq, Repr

/-- The flow information of an IPv6 address, which its text does not show. -/
def SocketAddr.flowInfo : SocketAddr → UInt32
  | .v4 _ _ => 0
  | .v6 _ _ flowInfo _ => flowInfo

/-- `to_string` and `parse` of a socket address. -/
structure SocketAddrText where
  print : SocketAddr → String
  parse : String → Option SocketAddr
  parse_print : ∀ address, address.flowInfo = 0 → parse (print address) = some address
  print_size : ∀ address,
    0 < (print address).utf8ByteSize ∧ (print address).utf8ByteSize ≤ maxTargetLength

/-- `as_bytes`. -/
def utf8Bytes (text : String) : List UInt8 := text.toByteArray.data.toList

@[simp] theorem utf8Bytes_length (text : String) : (utf8Bytes text).length = text.utf8ByteSize := by
  simp [utf8Bytes]

@[simp] theorem fromUtf8?_utf8Bytes (text : String) : fromUtf8? (utf8Bytes text) = some text := by
  exact dif_pos text.isValidUTF8

/-! ## The codec -/

structure ProxyRequest where
  token : List UInt8
  target : SocketAddr
  deriving DecidableEq, Repr

structure RequestRejection where
  status : UInt8
  message : String
  deriving DecidableEq, Repr

variable (text : SocketAddrText)

def validateTokenLength (length : Nat) : Except String Unit :=
  if ¬(minTokenLength ≤ length ∧ length ≤ maxTokenLength) then
    .error "令牌长度必须在 32 到 256 字节之间"
  else .ok ()

def encodeProxyRequest (token : List UInt8) (target : SocketAddr) : Except String (List UInt8) := do
  validateTokenLength token.length
  let target := utf8Bytes (text.print target)
  if target = [] ∨ target.length > maxTargetLength then
    .error "代理目标编码长度不合法"
  else if ¬token.length < 2 ^ 16 then .error "代理令牌过长"
  else if ¬target.length < 2 ^ 16 then .error "代理目标编码过长"
  else .ok (proxyMagic ++ toBE 2 token.length ++ toBE 2 target.length ++ token ++ target)

/-- The token length that a header declares. -/
def tokenLen (header : List UInt8) : Nat := fromBE (slice header 4 6)

def targetLen (header : List UInt8) : Nat := fromBE (slice header 6 8)

/-- Both length fields are in their ranges. -/
def lengthsValid (header : List UInt8) : Bool :=
  minTokenLength ≤ tokenLen header && tokenLen header ≤ maxTokenLength &&
    1 ≤ targetLen header && targetLen header ≤ maxTargetLength

def decodeProxyRequest (request : List UInt8) : Except RequestRejection ProxyRequest :=
  if request.length < 8 then .error ⟨statusFormat, "代理请求头不完整"⟩
  else if request.take 4 ≠ proxyMagic then .error ⟨statusVersion, "代理协议版本不受支持"⟩
  else if ¬lengthsValid request then .error ⟨statusFormat, "代理请求长度字段不合法"⟩
  else
    let expected := 8 + tokenLen request + targetLen request
    if request.length ≠ expected then .error ⟨statusFormat, "代理请求实际长度与声明不一致"⟩
    else
      match fromUtf8? (slice request (8 + tokenLen request) expected) with
      | none => .error ⟨statusFormat, "代理目标不是 UTF-8"⟩
      | some targetText =>
        match text.parse targetText with
        | none => .error ⟨statusFormat, "代理目标不是显式 IP:port"⟩
        | some target => .ok ⟨slice request 8 (8 + tokenLen request), target⟩

/-! ## Reading from a stream -/

/-- A stream in the course of being read: the calls so far, what they took and what is still
to arrive. -/
structure RecvStream where
  calls : Nat
  consumed : List UInt8
  rest : List UInt8
  deriving DecidableEq, Repr

/-- How a stream arrives: how much a call finds, and the error when nothing more comes. -/
structure Arrival where
  sizes : Nat → Nat
  ending : String

variable (arrival : Arrival)

namespace RecvStream

def new (bytes : List UInt8) : RecvStream := ⟨0, [], bytes⟩

@[simp] theorem new_consumed (bytes : List UInt8) : (new bytes).consumed = [] := rfl

@[simp] theorem new_rest (bytes : List UInt8) : (new bytes).rest = bytes := rfl

/-- The piece that a call with room for `count` bytes finds: at least one byte. -/
def piece (stream : RecvStream) (count : Nat) : List UInt8 :=
  stream.rest.take (min count (max 1 (arrival.sizes stream.calls)))

def advance (stream : RecvStream) (amount : Nat) : RecvStream :=
  ⟨stream.calls + 1, stream.consumed ++ stream.rest.take amount, stream.rest.drop amount⟩

@[simp] theorem advance_consumed (stream : RecvStream) (amount : Nat) :
    (stream.advance amount).consumed = stream.consumed ++ stream.rest.take amount := rfl

@[simp] theorem advance_rest (stream : RecvStream) (amount : Nat) :
    (stream.advance amount).rest = stream.rest.drop amount := rfl

variable {count : Nat} {stream : RecvStream}

theorem piece_length (wanted : count ≠ 0) (more : stream.rest ≠ []) :
    0 < (stream.piece arrival count).length ∧ (stream.piece arrival count).length ≤ count ∧
      (stream.piece arrival count).length ≤ stream.rest.length := by
  have positive := length_pos_iff.mpr more
  rw [piece, length_take]
  omega

theorem piece_eq_take (stream : RecvStream) (count : Nat) :
    stream.rest.take (stream.piece arrival count).length = stream.piece arrival count := by
  rw [piece, length_take, ← take_eq_take_min]

/-- `read_exact` into a buffer of `count` bytes. -/
def readExact (stream : RecvStream) (count : Nat) : Except String (List UInt8) × RecvStream :=
  if _ : count = 0 then (.ok [], stream)
  else if _ : stream.rest = [] then (.error arrival.ending, stream)
  else
    let piece := stream.piece arrival count
    let read := (stream.advance piece.length).readExact (count - piece.length)
    (read.1.map (piece ++ ·), read.2)
termination_by count
decreasing_by
  have := piece_length arrival ‹count ≠ 0› ‹stream.rest ≠ []›
  omega

/-- However the stream arrives, a read takes the bytes it asks for, or all there are. -/
theorem readExact_eq (stream : RecvStream) (count : Nat) :
    ∃ after : RecvStream,
      stream.readExact arrival count =
        (if count ≤ stream.rest.length then .ok (stream.rest.take count)
          else .error arrival.ending, after) ∧
      after.consumed = stream.consumed ++ stream.rest.take count ∧
      after.rest = stream.rest.drop count := by
  induction count using Nat.strong_induction_on generalizing stream with
  | _ count ih =>
    rw [readExact]
    by_cases wanted : count = 0
    · subst wanted
      simp
    rw [dif_neg wanted]
    by_cases more : stream.rest = []
    · rw [dif_pos more]
      have short : ¬count ≤ stream.rest.length := by rw [more, length_nil]; omega
      rw [if_neg short]
      simp [more]
    simp only [dif_neg more]
    obtain ⟨some, within, inRest⟩ := piece_length arrival wanted more
    obtain ⟨after, read, consumed, rest⟩ :=
      ih (count - (stream.piece arrival count).length) (by omega)
        (stream.advance (stream.piece arrival count).length)
    have cut : stream.rest = stream.piece arrival count ++
        stream.rest.drop (stream.piece arrival count).length := by
      conv_lhs => rw [← take_append_drop (stream.piece arrival count).length stream.rest,
        stream.piece_eq_take arrival]
    have joined : stream.rest.take count = stream.piece arrival count ++
        (stream.rest.drop (stream.piece arrival count).length).take
          (count - (stream.piece arrival count).length) := by
      conv_lhs => rw [cut, take_append, take_of_length_le within]
    rw [advance_consumed, stream.piece_eq_take arrival] at consumed
    simp only [advance_rest, length_drop] at read consumed rest
    refine ⟨after, ?_, ?_, ?_⟩
    · rw [read]
      by_cases enough : count ≤ stream.rest.length
      · rw [if_pos enough, if_pos (by omega), joined]
        rfl
      · rw [if_neg enough, if_neg (by omega)]
        rfl
    · rw [consumed, joined, append_assoc]
    · rw [rest, drop_drop]
      congr 1
      omega

theorem readExact_enough (enough : count ≤ stream.rest.length) :
    ∃ after : RecvStream,
      stream.readExact arrival count = (.ok (stream.rest.take count), after) ∧
      after.consumed = stream.consumed ++ stream.rest.take count ∧
      after.rest = stream.rest.drop count := by
  obtain ⟨after, read, moved⟩ := stream.readExact_eq arrival count
  rw [if_pos enough] at read
  exact ⟨after, read, moved⟩

theorem readExact_short (short : stream.rest.length < count) :
    ∃ after : RecvStream,
      stream.readExact arrival count = (.error arrival.ending, after) ∧
      after.consumed = stream.consumed ++ stream.rest ∧ after.rest = [] := by
  obtain ⟨after, read, consumed, rest⟩ := stream.readExact_eq arrival count
  rw [if_neg (by omega)] at read
  rw [take_of_length_le (by omega)] at consumed
  rw [drop_eq_nil_of_le (by omega)] at rest
  exact ⟨after, read, consumed, rest⟩

end RecvStream

open RecvStream

/-- `read_proxy_request`. -/
def readProxyRequest (stream : RecvStream) : Except RequestRejection ProxyRequest × RecvStream :=
  match stream.readExact arrival 8 with
  | (.error error, stream) => (.error ⟨statusFormat, "代理请求头读取失败：" ++ error⟩, stream)
  | (.ok header, stream) =>
    if header.take 4 ≠ proxyMagic then
      (.error ⟨statusVersion, "代理协议版本不受支持"⟩, stream)
    else if ¬lengthsValid header then
      (.error ⟨statusFormat, "代理请求长度字段不合法"⟩, stream)
    else
      match stream.readExact arrival (tokenLen header + targetLen header) with
      | (.error error, stream) =>
        (.error ⟨statusFormat, "代理请求正文读取失败：" ++ error⟩, stream)
      | (.ok body, stream) => (decodeProxyRequest text (header ++ body), stream)

/-- The bytes begin with a header that is accepted. -/
def headerAccepted (bytes : List UInt8) : Bool :=
  8 ≤ bytes.length && bytes.take 4 = proxyMagic && lengthsValid bytes

/-- How many bytes of a stream the reader takes, if they arrive. -/
def requestLength (bytes : List UInt8) : Nat :=
  if headerAccepted bytes then 8 + tokenLen bytes + targetLen bytes else 8

/-- A result without the text of its message. -/
def statusOf (result : Except RequestRejection ProxyRequest) : Except UInt8 ProxyRequest :=
  result.mapError RequestRejection.status

theorem slice_take {bytes : List UInt8} {first last count : Nat} (inside : last ≤ count) :
    slice (bytes.take count) first last = slice bytes first last := by
  rw [slice, slice, drop_take, take_take, Nat.min_eq_left (by omega)]

/-- What a header says does not depend on what follows it. -/
theorem header_take (bytes : List UInt8) {count : Nat} (header : 8 ≤ count) :
    (bytes.take count).take 4 = bytes.take 4 ∧ tokenLen (bytes.take count) = tokenLen bytes ∧
      targetLen (bytes.take count) = targetLen bytes ∧
      lengthsValid (bytes.take count) = lengthsValid bytes := by
  have token : tokenLen (bytes.take count) = tokenLen bytes := by
    rw [tokenLen, slice_take (by omega), tokenLen]
  have target : targetLen (bytes.take count) = targetLen bytes := by
    rw [targetLen, slice_take (by omega), targetLen]
  refine ⟨by rw [take_take, Nat.min_eq_left (by omega)], token, target, ?_⟩
  rw [lengthsValid, token, target, lengthsValid]

/-- **The reader and the decoder agree.** The reader takes the length of the request, or what
there is of it, and its answer is the decoder's for the bytes taken. -/
theorem readProxyRequest_eq (bytes : List UInt8) :
    (readProxyRequest text arrival (.new bytes)).2.consumed = bytes.take (requestLength bytes) ∧
      (readProxyRequest text arrival (.new bytes)).2.rest = bytes.drop (requestLength bytes) ∧
      statusOf (readProxyRequest text arrival (.new bytes)).1 =
        statusOf (decodeProxyRequest text (bytes.take (requestLength bytes))) := by
  obtain ⟨magicTake, tokenTake, targetTake, lengthsTake⟩ := header_take bytes (le_refl 8)
  by_cases header : 8 ≤ bytes.length
  · obtain ⟨afterHeader, read, consumed, rest⟩ :=
      readExact_enough arrival (show 8 ≤ (new bytes).rest.length from header)
    rw [new_consumed, nil_append, new_rest] at consumed
    rw [new_rest] at read rest
    simp only [readProxyRequest, read, magicTake, lengthsTake]
    have whole : ¬(bytes.take 8).length < 8 := by rw [length_take]; omega
    by_cases magic : bytes.take 4 = proxyMagic
    · rw [if_neg (not_not.mpr magic)]
      by_cases valid : lengthsValid bytes = true
      · rw [if_neg (not_not.mpr valid), tokenTake, targetTake]
        have accepted : requestLength bytes = 8 + (tokenLen bytes + targetLen bytes) := by
          simp [requestLength, headerAccepted, header, magic, valid, Nat.add_assoc]
        have left : afterHeader.rest.length = bytes.length - 8 := by rw [rest, length_drop]
        by_cases enough : tokenLen bytes + targetLen bytes ≤ bytes.length - 8
        · obtain ⟨afterBody, readBody, consumedBody, restBody⟩ :=
            readExact_enough arrival (left ▸ enough)
          rw [rest] at readBody
          rw [rest, consumed, ← take_add, ← accepted] at consumedBody
          rw [rest, drop_drop, ← accepted] at restBody
          simp only [readBody, ← take_add, ← accepted]
          exact ⟨consumedBody, restBody, trivial⟩
        · -- what is there of the request is not as long as it says
          obtain ⟨afterBody, readBody, consumedBody, restBody⟩ :=
            readExact_short arrival (left ▸ Nat.lt_of_not_le enough)
          rw [rest, consumed, take_append_drop] at consumedBody
          have all : bytes.take (requestLength bytes) = bytes :=
            take_of_length_le (by omega)
          have none : bytes.drop (requestLength bytes) = [] :=
            drop_eq_nil_of_le (by omega)
          simp only [readBody, all, none]
          refine ⟨consumedBody, restBody, ?_⟩
          rw [decodeProxyRequest, if_neg (by omega), if_neg (not_not.mpr magic),
            if_neg (not_not.mpr valid), if_pos (by omega)]
          rfl
      · have refused : requestLength bytes = 8 := by simp [requestLength, headerAccepted, valid]
        rw [if_pos valid, refused, decodeProxyRequest, if_neg whole, magicTake, lengthsTake,
          if_neg (not_not.mpr magic), if_pos valid]
        exact ⟨consumed, rest, rfl⟩
    · have refused : requestLength bytes = 8 := by simp [requestLength, headerAccepted, magic]
      rw [if_pos magic, refused, decodeProxyRequest, if_neg whole, magicTake, if_pos magic]
      exact ⟨consumed, rest, rfl⟩
  · have refused : requestLength bytes = 8 := by simp [requestLength, headerAccepted, header]
    obtain ⟨after, read, consumed, rest⟩ := readExact_short arrival
      (show (new bytes).rest.length < 8 from Nat.lt_of_not_le header)
    have all : bytes.take 8 = bytes := take_of_length_le (by omega)
    have none : bytes.drop 8 = [] := drop_eq_nil_of_le (by omega)
    simp only [readProxyRequest, read]
    rw [refused, all, none, decodeProxyRequest, if_pos (by omega)]
    exact ⟨consumed, rest, rfl⟩

/-! ## Round trip -/

/-- A request as it stands on the wire. -/
def requestBytes (token target : List UInt8) : List UInt8 :=
  proxyMagic ++ toBE 2 token.length ++ toBE 2 target.length ++ token ++ target

theorem requestBytes_length (token target : List UInt8) :
    (requestBytes token target).length = 8 + token.length + target.length := by
  simp [requestBytes, proxyMagic]
  omega

theorem requestBytes_lengths (token target rest : List UInt8) (tokenFits : token.length < 256 ^ 2)
    (targetFits : target.length < 256 ^ 2) :
    (requestBytes token target ++ rest).take 4 = proxyMagic ∧
      tokenLen (requestBytes token target ++ rest) = token.length ∧
      targetLen (requestBytes token target ++ rest) = target.length := by
  have atToken : requestBytes token target ++ rest =
      proxyMagic ++ toBE 2 token.length ++
        (toBE 2 target.length ++ token ++ target ++ rest) := by
    simp [requestBytes, append_assoc]
  have atTarget : requestBytes token target ++ rest =
      proxyMagic ++ toBE 2 token.length ++ toBE 2 target.length ++ (token ++ target ++ rest) := by
    simp [requestBytes, append_assoc]
  have magic : proxyMagic.length = 4 := rfl
  refine ⟨?_, ?_, ?_⟩
  · rw [atToken, append_assoc, take_append_of_le_length magic.ge]
    rfl
  · rw [tokenLen, atToken, slice_middle _ magic (by rw [toBE_length]), fromBE_toBE tokenFits]
  · rw [targetLen, atTarget,
      slice_middle _ (by rw [length_append, magic, toBE_length]) (by rw [toBE_length]),
      fromBE_toBE targetFits]

theorem requestBytes_slices (token target : List UInt8) :
    slice (requestBytes token target) 8 (8 + token.length) = token ∧
      slice (requestBytes token target) (8 + token.length)
        (8 + token.length + target.length) = target := by
  have header : (proxyMagic ++ toBE 2 token.length ++ toBE 2 target.length).length = 8 := by
    simp [proxyMagic]
  constructor
  · exact slice_middle target header rfl
  · rw [← append_nil (requestBytes token target)]
    exact slice_middle [] (by rw [length_append, header]) rfl

theorem encodeProxyRequest_ok {token : List UInt8} (target : SocketAddr)
    (least : minTokenLength ≤ token.length) (most : token.length ≤ maxTokenLength) :
    encodeProxyRequest text token target =
      .ok (requestBytes token (utf8Bytes (text.print target))) := by
  obtain ⟨some, short⟩ := text.print_size target
  rw [← utf8Bytes_length] at some short
  have valid : validateTokenLength token.length = .ok () := if_neg (not_not.mpr ⟨least, most⟩)
  have bounds : maxTokenLength < 2 ^ 16 ∧ maxTargetLength < 2 ^ 16 := by decide
  have present : ¬(utf8Bytes (text.print target) = [] ∨
      (utf8Bytes (text.print target)).length > maxTargetLength) := by
    rw [← length_eq_zero_iff]
    omega
  simp only [encodeProxyRequest, valid, if_neg present]
  rw [if_neg (by omega), if_neg (by omega)]
  rfl

/-- A request is decoded to what was encoded, and the reader takes nothing behind it. -/
theorem decode_requestBytes {token : List UInt8} {target : SocketAddr}
    (least : minTokenLength ≤ token.length) (most : token.length ≤ maxTokenLength)
    (plain : target.flowInfo = 0) :
    decodeProxyRequest text (requestBytes token (utf8Bytes (text.print target))) =
        .ok ⟨token, target⟩ ∧
      ∀ rest, requestLength (requestBytes token (utf8Bytes (text.print target)) ++ rest) =
        (requestBytes token (utf8Bytes (text.print target))).length := by
  obtain ⟨some, short⟩ := text.print_size target
  rw [← utf8Bytes_length] at some short
  generalize printed : utf8Bytes (text.print target) = target' at some short
  have fits : token.length < 256 ^ 2 ∧ target'.length < 256 ^ 2 := by
    have bounds : maxTokenLength < 256 ^ 2 ∧ maxTargetLength < 256 ^ 2 := by decide
    omega
  have length := requestBytes_length token target'
  have valid (rest : List UInt8) : lengthsValid (requestBytes token target' ++ rest) = true := by
    obtain ⟨-, tokenEq, targetEq⟩ := requestBytes_lengths token target' rest fits.1 fits.2
    simp only [lengthsValid, tokenEq, targetEq, Bool.and_eq_true, decide_eq_true_eq]
    exact ⟨⟨⟨least, most⟩, some⟩, short⟩
  constructor
  · have whole := valid []
    obtain ⟨magic, tokenEq, targetEq⟩ := requestBytes_lengths token target' [] fits.1 fits.2
    obtain ⟨tokenSlice, targetSlice⟩ := requestBytes_slices token target'
    rw [append_nil] at magic tokenEq targetEq whole
    simp only [decodeProxyRequest, tokenEq, targetEq, tokenSlice, targetSlice]
    rw [if_neg (by omega), if_neg (not_not.mpr magic), if_neg (not_not.mpr whole),
      if_neg (by omega), ← printed, fromUtf8?_utf8Bytes]
    simp only [text.parse_print target plain]
  · intro rest
    obtain ⟨magic, tokenEq, targetEq⟩ := requestBytes_lengths token target' rest fits.1 fits.2
    have long : 8 ≤ (requestBytes token target' ++ rest).length := by
      rw [length_append]
      omega
    have accepted : headerAccepted (requestBytes token target' ++ rest) = true := by
      simp only [headerAccepted, magic, valid rest, decide_eq_true long, decide_true, Bool.and_self]
    rw [requestLength, if_pos accepted, tokenEq, targetEq, length]

/-! ## Tokens -/

/-- `ct_eq` of byte strings: those of different lengths differ. -/
def ctEq (expected provided : List UInt8) : UInt8 := if expected = provided then 1 else 0

def tokenSetMatches (expected : List (List UInt8)) (provided : List UInt8) : Bool :=
  expected.foldl (fun matched token => matched ||| ctEq token provided) 0 = 1

theorem tokenSetMatches_iff {expected : List (List UInt8)} {provided : List UInt8} :
    tokenSetMatches expected provided = true ↔ provided ∈ expected := by
  have from_ (matched : UInt8) (bit : matched = 0 ∨ matched = 1) :
      expected.foldl (fun matched token => matched ||| ctEq token provided) matched = 1 ↔
        matched = 1 ∨ provided ∈ expected := by
    induction expected generalizing matched with
    | nil => simp
    | cons token expected ih =>
      rw [foldl_cons, mem_cons]
      by_cases same : token = provided
      · have one : matched ||| ctEq token provided = 1 := by
          rw [ctEq, if_pos same]
          rcases bit with rfl | rfl <;> decide
        rw [one, ih 1 (.inr rfl)]
        simp [same]
      · have kept : matched ||| ctEq token provided = matched := by
          rw [ctEq, if_neg same]
          rcases bit with rfl | rfl <;> decide
        rw [kept, ih matched bit]
        have other : provided ≠ token := fun equal => same equal.symm
        simp [other]
  rw [tokenSetMatches, decide_eq_true_iff, from_ 0 (.inl rfl)]
  simp

/-! ## The program of a stream -/

structure RelayBytes where
  tcpToQuic : Nat
  quicToTcp : Nat
  deriving DecidableEq, Repr

inductive StreamMetric where
  | requestTimeouts
  | upstreamErrors
  | upstreamConnectTimeouts
  deriving DecidableEq, Repr

inductive ConnectOutcome where
  | connected
  | failed
  | timedOut
  deriving DecidableEq, Repr

/-- What the program of a stream asks for. -/
inductive StreamOp where
  /-- Read the request, within its time limit. -/
  | readRequest
  | readTokens
  | sendStatus (status : UInt8)
  | count (metric : StreamMetric)
  | connect (target : SocketAddr)
  | writeOk
  | relay
  deriving DecidableEq, Repr

open StreamOp

/-- The answers: `none` for a request that did not come in time and for a token set whose lock
is poisoned, `false` for a status that could not be written. -/
abbrev StreamOp.Answer : StreamOp → Type
  | .readRequest => Option (Except RequestRejection ProxyRequest)
  | .readTokens => Option (List (List UInt8))
  | .sendStatus _ => Bool
  | .count _ => Unit
  | .connect _ => ConnectOutcome
  | .writeOk => Bool
  | .relay => Except String RelayBytes

def rejectionCode (status : UInt8) : String :=
  if status = statusVersion then "protocol_version_rejected"
  else if status = statusFormat then "request_format_rejected"
  else "request_rejected"

abbrev StreamProgram := Dialogue StreamOp Answer (Except String RelayBytes)

def askFor (op : StreamOp) : Dialogue StreamOp Answer op.Answer := request op

/-- Send a status and end with an error code. -/
def rejectWith (status : UInt8) (code : String) : StreamProgram := do
  let written ← askFor (.sendStatus status)
  pure (.error (if written then code else "status_write_failed"))

/-- The part after the upstream connection was tried. -/
def afterConnect : ConnectOutcome → StreamProgram
  | .failed => do
    askFor (.count .upstreamErrors)
    rejectWith statusUpstream "upstream_connect_failed"
  | .timedOut => do
    askFor (.count .upstreamConnectTimeouts)
    rejectWith statusUpstream "upstream_connect_timeout"
  | .connected => do
    let written ← askFor .writeOk
    if written then askFor .relay else pure (.error "status_write_failed")

/-- The part after the token set was read. -/
def afterTokens (allowedTarget : SocketAddr) (request : ProxyRequest) :
    Option (List (List UInt8)) → StreamProgram
  | none => pure (.error "token_state_unavailable")
  | some expectedTokens =>
    if ¬tokenSetMatches expectedTokens request.token then
      rejectWith statusAuthorization "authorization_rejected"
    else if request.target ≠ allowedTarget then rejectWith statusTarget "target_rejected"
    else .ask (.connect allowedTarget) afterConnect

def afterRequest (allowedTarget : SocketAddr) :
    Option (Except RequestRejection ProxyRequest) → StreamProgram
  | some (.error rejection) => rejectWith rejection.status (rejectionCode rejection.status)
  | none => do
    askFor (.count .requestTimeouts)
    rejectWith statusFormat "request_timeout"
  | some (.ok request) => .ask .readTokens (afterTokens allowedTarget request)

def handleServerStream (allowedTarget : SocketAddr) : StreamProgram :=
  .ask .readRequest (afterRequest allowedTarget)

/-! ## Who may connect -/

/-- What a stream's program deals with: the stream, and the tokens that are accepted now. -/
structure StreamWorld where
  stream : RecvStream
  tokens : Option (List (List UInt8))

/-- The request is what is read from the stream, unless the time is over before; the tokens are
those of the moment, and a reload may change them at any time. -/
def streamWorld : Partner StreamOp Answer StreamWorld where
  Does world op answer after :=
    match op, answer with
    | .readRequest, some result =>
      (result, after.stream) = readProxyRequest text arrival world.stream ∧
        after.tokens = world.tokens
    | .readTokens, tokens => tokens = world.tokens ∧ after = world
    | _, _ => True
  Drifts world after := after.stream = world.stream

/-- The stream of a world carries a request for the allowed target, with a token that was
accepted when the history looked at the set. -/
def Authorized (allowedTarget : SocketAddr) (world : StreamWorld)
    (history : List (Exchange StreamOp Answer StreamWorld)) : Prop :=
  ∃ request tokens, (readProxyRequest text arrival world.stream).1 = .ok request ∧
    (∃ looking ∈ history, looking.op = .readTokens ∧ looking.before.tokens = some tokens) ∧
    request.token ∈ tokens ∧ request.target = allowedTarget

/-- A program that does not connect. -/
def Harmless (op : StreamOp) : Prop := ∀ target, op ≠ .connect target

theorem rejectWith_harmless (status : UInt8) (code : String) :
    (rejectWith status code).Asks Harmless :=
  ⟨nofun, fun _ => trivial⟩

theorem afterConnect_harmless (outcome : ConnectOutcome) :
    (afterConnect outcome).Asks Harmless := by
  cases outcome with
  | failed => exact ⟨nofun, fun _ => rejectWith_harmless _ _⟩
  | timedOut => exact ⟨nofun, fun _ => rejectWith_harmless _ _⟩
  | connected =>
    refine ⟨nofun, fun written => ?_⟩
    cases written with
    | false => trivial
    | true => exact ⟨nofun, fun _ => trivial⟩

/-- Every connection in a history is to the allowed target, for an authorized request. -/
def ConnectsAuthorized (allowedTarget : SocketAddr) (world : StreamWorld)
    (history : List (Exchange StreamOp Answer StreamWorld)) : Prop :=
  ∀ exchange ∈ history, ∀ target, exchange.op = .connect target →
    target = allowedTarget ∧ Authorized text arrival allowedTarget world history

section Authorization

variable {text arrival} {allowedTarget : SocketAddr} {world state : StreamWorld}
  {before : List (Exchange StreamOp Answer StreamWorld)}

theorem connectsAuthorized_append
    (fine : ConnectsAuthorized text arrival allowedTarget world before)
    {later : List (Exchange StreamOp Answer StreamWorld)}
    (harmless : ∀ exchange ∈ later, Harmless exchange.op) :
    ConnectsAuthorized text arrival allowedTarget world (before ++ later) := by
  intro exchange listed target connects
  rcases mem_append.mp listed with old | new
  · obtain ⟨isAllowed, request, tokens, read, ⟨looking, earlier, looked⟩, accepted⟩ :=
      fine exchange old target connects
    exact ⟨isAllowed, request, tokens, read,
      ⟨looking, mem_append_left later earlier, looked⟩, accepted⟩
  · exact absurd connects (harmless exchange new target)

/-- A program that does not connect goes on from a history in which all is well. -/
theorem ensures_harmless {program : StreamProgram}
    (fine : ConnectsAuthorized text arrival allowedTarget world before)
    (asks : program.Asks Harmless) :
    Ensures (streamWorld text arrival)
      (fun history _ => ConnectsAuthorized text arrival allowedTarget world (before ++ history))
      (fun _ _ _ => True) program state :=
  Ensures.mono
    (Ensures.of_asks (fun _ _ _ _ => trivial) (fun _ _ _ _ _ _ _ => trivial) asks trivial)
    (fun _ _ harmless => connectsAuthorized_append fine harmless.2) fun _ _ _ _ => trivial

theorem connectsAuthorized_harmless (harmless : ∀ exchange ∈ before, Harmless exchange.op) :
    ConnectsAuthorized text arrival allowedTarget world before :=
  fun exchange listed target connects => absurd connects (harmless exchange listed target)

variable (text arrival)

theorem handleServerStream_ensures (allowedTarget : SocketAddr) (world : StreamWorld) :
    Ensures (streamWorld text arrival)
      (fun history _ => ConnectsAuthorized text arrival allowedTarget world history)
      (fun _ _ _ => True) (handleServerStream allowedTarget) world := by
  have unread : Ensures.Stable (streamWorld text arrival)
      fun now => now.stream = world.stream :=
    fun _ _ here drifts => drifts.trans here
  have anything : Ensures.Stable (streamWorld text arrival) fun _ => True :=
    fun _ _ _ _ => trivial
  refine Ensures.ask unread rfl (fun _ _ => connectsAuthorized_harmless (by simp)) ?_
  intro asked answer after still does
  have first : ∀ exchange ∈ [(⟨asked, .readRequest, answer⟩ :
      Exchange StreamOp Answer StreamWorld)], Harmless exchange.op := by
    simp [Harmless]
  match answer with
  | none =>
    exact ensures_harmless (connectsAuthorized_harmless first)
      ⟨nofun, fun _ => rejectWith_harmless _ _⟩
  | some (.error rejection) =>
    exact ensures_harmless (connectsAuthorized_harmless first) (rejectWith_harmless _ _)
  | some (.ok request) =>
    have read : (readProxyRequest text arrival world.stream).1 = .ok request := by
      rw [← still, ← does.1]
    refine Ensures.ask anything trivial (fun _ _ => connectsAuthorized_harmless first) ?_
    intro looked tokens after _ does
    obtain ⟨isSet, -⟩ := does
    have second : ∀ exchange ∈ [(⟨asked, .readRequest, some (.ok request)⟩ :
        Exchange StreamOp Answer StreamWorld), ⟨looked, .readTokens, tokens⟩],
        Harmless exchange.op := by
      simp [Harmless]
    match tokens with
    | none => exact ensures_harmless (connectsAuthorized_harmless second) trivial
    | some expected =>
      by_cases accepted : tokenSetMatches expected request.token = true
      · by_cases allowed : request.target = allowedTarget
        · rw [afterTokens, if_neg (not_not.mpr accepted), if_neg (not_not.mpr allowed)]
          refine Ensures.ask anything trivial
            (fun _ _ => connectsAuthorized_harmless second) ?_
          intro connecting outcome after _ _
          refine @ensures_harmless _ _ _ _ _ [_, _, _] _ ?_ (afterConnect_harmless outcome)
          intro exchange listed target connects
          simp only [mem_cons, not_mem_nil, or_false] at listed
          rcases listed with rfl | rfl | rfl
          · cases connects
          · cases connects
          · cases connects
            exact ⟨rfl, request, expected, read,
              ⟨⟨looked, .readTokens, some expected⟩,
                mem_cons_of_mem _ mem_cons_self, rfl, isSet.symm⟩,
              tokenSetMatches_iff.mp accepted, allowed⟩
        · rw [afterTokens, if_neg (not_not.mpr accepted), if_pos allowed]
          exact ensures_harmless (connectsAuthorized_harmless second) (rejectWith_harmless _ _)
      · rw [afterTokens, if_pos accepted]
        exact ensures_harmless (connectsAuthorized_harmless second) (rejectWith_harmless _ _)

end Authorization

theorem eq_ok_of_statusOf {result : Except RequestRejection ProxyRequest} {request : ProxyRequest}
    (status : statusOf result = .ok request) : result = .ok request := by
  cases result with
  | error rejection => cases status
  | ok other => cases status; rfl

/-- **The request is transparent and bounded.** A request is read back whole, with what follows
it left in the stream. The reader takes no more than the declared length, 8 bytes if the header
is refused, and answers as the decoder does for the bytes it took. A stream's program connects
only to the allowed target, for a request with a token of the set it looked at. -/
theorem proxy_request_exact :
    (∀ (token : List UInt8) (target : SocketAddr) (rest : List UInt8),
      minTokenLength ≤ token.length → token.length ≤ maxTokenLength → target.flowInfo = 0 →
      ∃ request stream, encodeProxyRequest text token target = .ok request ∧
        readProxyRequest text arrival (.new (request ++ rest)) = (.ok ⟨token, target⟩, stream) ∧
        stream.rest = rest) ∧
    (∀ bytes : List UInt8, ∃ result stream,
      readProxyRequest text arrival (.new bytes) = (result, stream) ∧
        stream.consumed ++ stream.rest = bytes ∧
        stream.consumed.length ≤
          (if headerAccepted bytes then 8 + tokenLen bytes + targetLen bytes else 8) ∧
        statusOf result = statusOf (decodeProxyRequest text stream.consumed)) ∧
    ∀ (allowedTarget : SocketAddr) (world last : StreamWorld)
      (history : List (Exchange StreamOp Answer StreamWorld))
      (rest : StreamProgram),
      Talks (streamWorld text arrival) (handleServerStream allowedTarget) world history
        rest last →
      ConnectsAuthorized text arrival allowedTarget world history := by
  refine ⟨?_, ?_, ?_⟩
  · intro token target rest least most plain
    obtain ⟨decoded, length⟩ := decode_requestBytes text least most plain
    have whole := length rest
    obtain ⟨-, left, status⟩ := readProxyRequest_eq text arrival
      (requestBytes token (utf8Bytes (text.print target)) ++ rest)
    rw [whole, drop_left] at left
    rw [whole, take_left, decoded] at status
    exact ⟨_, _, encodeProxyRequest_ok text target least most,
      Prod.ext (eq_ok_of_statusOf status) rfl, left⟩
  · intro bytes
    obtain ⟨consumed, left, status⟩ := readProxyRequest_eq text arrival bytes
    refine ⟨(readProxyRequest text arrival (.new bytes)).1,
      (readProxyRequest text arrival (.new bytes)).2, rfl, ?_, ?_, ?_⟩
    · rw [consumed, left, take_append_drop]
    · rw [consumed, length_take]
      exact Nat.min_le_left _ _
    · rw [status, consumed]
  · intro allowedTarget world last history rest talks
    exact ((handleServerStream_ensures text arrival allowedTarget world).sound talks).1

/-! The text of `std::net` for IPv4, and for IPv6 one character for each byte. -/

def charOfByte (byte : UInt8) : Char := Char.ofNat (0x100 + byte.toNat)

def byteOfChar (char : Char) : UInt8 := UInt8.ofNat char.toNat

theorem toNat_charOfByte (byte : UInt8) : (charOfByte byte).toNat = 0x100 + byte.toNat := by
  have valid : (0x100 + byte.toNat).isValidChar := .inl (by have := byte.toNat_lt; omega)
  rw [charOfByte, Char.ofNat, dif_pos valid]
  rfl

theorem map_byteOfChar (bytes : List UInt8) : (bytes.map charOfByte).map byteOfChar = bytes := by
  rw [map_map, map_congr_left, map_id]
  intro byte _
  rw [Function.comp_apply, byteOfChar, toNat_charOfByte]
  exact UInt8.toNat_inj.mp (by simp)

/-- The digits of `u16::from_str`. -/
def parsePort (digits : List Char) : Option UInt16 :=
  let value := Nat.ofDigitChars 10 digits 0
  if digits ≠ [] ∧ digits.all Char.isDigit ∧ value < 65536 then some (UInt16.ofNat value) else none

theorem parsePort_toDigits (port : UInt16) :
    parsePort (Nat.toDigits 10 port.toNat) = some port := by
  rw [parsePort, Nat.ofDigitChars_toDigits (by decide) (by decide), if_pos, UInt16.ofNat_toNat]
  refine ⟨Nat.toDigits_ne_nil, all_eq_true.mpr fun digit => ?_, port.toNat_lt⟩
  exact Nat.isDigit_of_mem_toDigits (by decide) (by decide)

def v6Bytes (ip : Ipv6Addr) (port : UInt16) (scopeId : UInt32) : List UInt8 :=
  ip.octets ++ u16ToBE port ++ u32ToBE scopeId

theorem v6Bytes_slices (ip : Ipv6Addr) (port : UInt16) (scopeId : UInt32) :
    slice (v6Bytes ip port scopeId) 0 16 = ip.octets ∧
      slice (v6Bytes ip port scopeId) 16 18 = u16ToBE port ∧
      slice (v6Bytes ip port scopeId) 18 22 = u32ToBE scopeId := by
  simp [v6Bytes, slice, drop_append, take_of_length_le, drop_of_length_le]

def exampleText : SocketAddrText where
  print
    | .v4 ip port => ip.text ++ ":" ++ port.toNat.repr
    | .v6 ip port _ scopeId => String.ofList ((v6Bytes ip port scopeId).map charOfByte)
  parse text :=
    match splitOnce ':' text.toList with
    | some (ip, port) => do some (.v4 (← Ipv4Addr.parse (String.ofList ip)) (← parsePort port))
    | none =>
      let bytes := text.toList.map byteOfChar
      some (.v6 (.ofOctets (slice bytes 0 16)) (u16FromBE (slice bytes 16 18)) 0
        (u32FromBE (slice bytes 18 22)))
  parse_print address plain := by
    cases address with
    | v4 ip port =>
      have split := Vpn.splitOnce_append (Nat.toDigits 10 port.toNat) fun member =>
        (ip.text_chars ':' member).2.2 rfl
      simp [split, Ipv4Addr.parse_text, parsePort_toDigits]
    | v6 ip port flowInfo scopeId =>
      have absent : ':' ∉ (v6Bytes ip port scopeId).map charOfByte := by
        intro member
        obtain ⟨byte, -, same⟩ := mem_map.mp member
        have code := congrArg Char.toNat same
        rw [toNat_charOfByte, show ':'.toNat = 58 from rfl] at code
        omega
      obtain rfl : flowInfo = 0 := plain
      simp only [splitOnce, String.toList_ofList, if_neg absent, map_byteOfChar, v6Bytes_slices,
        Ipv6Addr.ofOctets_octets, u16FromBE_toBE, u32FromBE_toBE]
  print_size address := by
    cases address with
    | v4 ip port =>
      have colon : ":".utf8ByteSize = 1 := by decide
      have digits := Json.utf8Len_le port.toNat.repr.toList
      have few := Nat.repr_length port.toNat 5 (by decide) (by have := port.toNat_lt; omega)
      have small := ip.text_size_le
      rw [← String.utf8ByteSize_ofList, String.ofList_toList, String.length_toList] at digits
      simp only [String.utf8ByteSize_append, colon, maxTargetLength]
      omega
    | v6 ip port flowInfo scopeId =>
      have length : ((v6Bytes ip port scopeId).map charOfByte).length = 22 := by simp [v6Bytes]
      have size := Json.utf8Len_le ((v6Bytes ip port scopeId).map charOfByte)
      obtain ⟨first, rest, split⟩ := exists_cons_of_length_eq_add_one length
      have pos := Char.utf8Size_pos first
      rw [length] at size
      rw [String.utf8ByteSize_ofList, maxTargetLength]
      refine ⟨?_, size.trans (by decide)⟩
      rw [split, String.utf8Len_cons]
      omega

def exampleArrival : Arrival := ⟨fun _ => 3, "stream finished early"⟩

def exampleToken : List UInt8 := replicate 32 7

/-- 127.0.0.1:80. -/
def exampleTarget : SocketAddr := .v4 ⟨0x7f000001⟩ 80

theorem proxy_request_exact_example :
    ∃ (world last : StreamWorld)
      (history : List (Exchange StreamOp Answer StreamWorld))
      (rest : StreamProgram),
      Talks (streamWorld exampleText exampleArrival) (handleServerStream exampleTarget)
        world history rest last ∧
      (∃ exchange ∈ history, exchange.op = .connect exampleTarget) ∧
      last.stream.rest = [1, 2, 3] ∧
      ConnectsAuthorized exampleText exampleArrival exampleTarget world history := by
  obtain ⟨request, stream, -, read, left⟩ := (proxy_request_exact exampleText exampleArrival).1
    exampleToken exampleTarget [1, 2, 3] (by decide) (by decide) rfl
  have accepted : tokenSetMatches [exampleToken] exampleToken = true := by decide
  have connects : afterTokens exampleTarget ⟨exampleToken, exampleTarget⟩ (some [exampleToken]) =
      .ask (.connect exampleTarget) afterConnect := by
    rw [afterTokens, if_neg (not_not.mpr accepted), if_neg (not_not.mpr rfl)]
  let before : StreamWorld := ⟨.new (request ++ [1, 2, 3]), some [exampleToken]⟩
  let after : StreamWorld := ⟨stream, some [exampleToken]⟩
  have connected : Talks (streamWorld exampleText exampleArrival)
      (.ask (.connect exampleTarget) afterConnect) after
      [⟨after, .connect exampleTarget, .connected⟩] (afterConnect .connected) after :=
    .exchange trivial (.refl _ _)
  rw [← connects] at connected
  have looked := @Talks.exchange _ _ _ _ (streamWorld exampleText exampleArrival)
    .readTokens (afterTokens exampleTarget ⟨exampleToken, exampleTarget⟩) _ (some [exampleToken])
    after _ _ _ ⟨rfl, rfl⟩ connected
  have talks := @Talks.exchange _ _ _ _ (streamWorld exampleText exampleArrival)
    .readRequest (afterRequest exampleTarget) _ (some (.ok ⟨exampleToken, exampleTarget⟩))
    before after _ _ ⟨read.symm, rfl⟩ looked
  exact ⟨before, after, _, _, talks, ⟨⟨after, .connect exampleTarget, .connected⟩, by simp, rfl⟩,
    left, (proxy_request_exact exampleText exampleArrival).2.2 _ _ _ _ _ talks⟩

end FlowWeave.Proxy
