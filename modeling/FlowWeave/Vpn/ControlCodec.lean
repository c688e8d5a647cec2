/-
# Vpn.ControlCodec — encoder and decoder of control messages are inverse

`Encodes message bytes` says what the canonical bytes of a valid message are,
without reference to either function. `encodeVpnControlMessage_iff` and
`decodeVpnControlMessage_iff` show that encoding gives exactly those bytes and that
decoding accepts exactly those bytes.

The delicate case is ACCEPT, whose four optional addresses are written as zero
bytes when their capability bit is clear: a valid ACCEPT has its addresses exactly
where the bits say (`VpnAccept.Canonical`), and the decoder refuses non-zero bytes
elsewhere.
-/
import FlowWeave.Vpn.Control

namespace FlowWeave.Vpn

open Theory.BigEndian Theory.Checks

set_option autoImplicit false

/-! ## Bodies -/

/-- The widths of the fields of a HELLO body. -/
def helloWidths : List Nat := [2, 2, 4, 2, 2]

def acceptWidths : List Nat := [2, 2, 4, 2, 2, 8, 4, 4, 16, 16]

theorem helloWidths_cut (body : List UInt8) :
    cut helloWidths body =
      [slice body 0 2, slice body 2 4, slice body 4 8, slice body 8 10, slice body 10 12] := by
  simp [cut, helloWidths, slice]

theorem acceptWidths_cut (body : List UInt8) :
    cut acceptWidths body =
      [slice body 0 2, slice body 2 4, slice body 4 8, slice body 8 10, slice body 10 12,
        slice body 12 20, slice body 20 24, slice body 24 28, slice body 28 44,
        slice body 44 60] := by
  simp [cut, acceptWidths, slice]

@[simp] theorem VpnHello.body_length (hello : VpnHello) : hello.body.length = vpnHelloBodyLen := by
  simp [body, vpnHelloBodyLen]

@[simp] theorem VpnAccept.body_length (accept : VpnAccept) :
    accept.body.length = vpnAcceptBodyLen := by
  simp [body, vpnAcceptBodyLen]

@[simp] theorem VpnReject.body_length (reject : VpnReject) :
    reject.body.length = vpnRejectBodyLen := by
  simp [body, vpnRejectBodyLen]

theorem decodeHello_iff {body : List UInt8} {hello : VpnHello} :
    decodeHello body = .ok hello ↔ hello.validate = .ok () ∧ body = hello.body := by
  constructor
  · intro decoded
    simp only [decodeHello, ite_error_eq_ok, bind_eq_ok, not_not] at decoded
    obtain ⟨length, ⟨⟩, valid, ⟨⟩⟩ := decoded
    have length : body.length = 12 := length
    have joined := flatten_cut helloWidths body (by simp [helloWidths, length])
    rw [helloWidths_cut] at joined
    refine ⟨valid, ?_⟩
    simp only [VpnHello.body]
    rw [u16ToBE_fromBE (slice_width (by omega) rfl), u16ToBE_fromBE (slice_width (by omega) rfl),
      u32ToBE_fromBE (slice_width (by omega) rfl), u16ToBE_fromBE (slice_width (by omega) rfl),
      u16ToBE_fromBE (slice_width (by omega) rfl), joined]
  · rintro ⟨valid, rfl⟩
    have parts := cut_flatten [u16ToBE hello.minWireVersion, u16ToBE hello.maxWireVersion,
      u32ToBE hello.capabilities, u16ToBE hello.maxIpPacketLen, u16ToBE hello.maxDatagramLen]
    have widths : [u16ToBE hello.minWireVersion, u16ToBE hello.maxWireVersion,
        u32ToBE hello.capabilities, u16ToBE hello.maxIpPacketLen,
        u16ToBE hello.maxDatagramLen].map List.length = helloWidths := by
      simp [helloWidths]
    rw [widths, ← VpnHello.body, helloWidths_cut] at parts
    simp only [List.cons.injEq, and_true] at parts
    obtain ⟨minimum, maximum, capabilities, packetLen, datagramLen⟩ := parts
    unfold decodeHello
    rw [if_neg (by simp)]
    simp only [minimum, maximum, capabilities, packetLen, datagramLen, u16FromBE_toBE,
      u32FromBE_toBE, valid, bind, Except.bind, pure, Except.pure]

/-! ## ACCEPT -/

/-- One family of addresses is where its capability bit says. -/
def FamilyCanonical {A : Type} (bit : Bool) (client server : Option A) : Prop :=
  client.isSome = bit ∧ server.isSome = bit

/-- The addresses of an ACCEPT are where its capability bits say. -/
def VpnAccept.Canonical (accept : VpnAccept) : Prop :=
  FamilyCanonical (accept.capabilities &&& vpnCapIpv4 ≠ 0) accept.clientIpv4 accept.serverIpv4 ∧
    FamilyCanonical (accept.capabilities &&& vpnCapIpv6 ≠ 0) accept.clientIpv6 accept.serverIpv6

/-- Everything a validated ACCEPT promises. -/
structure VpnAccept.Valid (accept : VpnAccept) : Prop where
  version : accept.selectedWireVersion ≠ 0
  generation : accept.sessionGeneration ≠ 0
  capabilities : validateCapabilities accept.capabilities = .ok ()
  sizes : validateSizes accept.maxIpPacketLen accept.maxDatagramLen = .ok ()
  canonical : accept.Canonical
  ipv4 : validTunnelPair validIpv4TunnelAddress accept.clientIpv4 accept.serverIpv4 = true
  ipv6 : validTunnelPair validIpv6TunnelAddress accept.clientIpv6 accept.serverIpv6 = true

theorem familyCanonical_iff {A : Type} {bit : Bool} {client server : Option A} :
    FamilyCanonical bit client server ↔
      bit = (client.isSome && server.isSome) ∧ client.isSome = server.isSome := by
  unfold FamilyCanonical
  cases bit <;> cases client <;> cases server <;> simp

variable {accept : VpnAccept}

/-- The source's validation is the specification above. -/
theorem VpnAccept.validate_iff : accept.validate = .ok () ↔ accept.Valid := by
  simp only [VpnAccept.validate, ite_error_eq_ok, bind_eq_ok, mapError_eq_ok, not_or, not_not]
  constructor
  · rintro ⟨header, ⟨⟩, capabilities, ⟨⟩, sizes, ⟨both4, both6, same4, same6⟩, ipv4, ipv6, -⟩
    exact ⟨header.1, header.2, capabilities, sizes, ⟨familyCanonical_iff.mpr ⟨both4, same4⟩,
      familyCanonical_iff.mpr ⟨both6, same6⟩⟩, by simpa using ipv4, by simpa using ipv6⟩
  · intro valid
    obtain ⟨both4, same4⟩ := familyCanonical_iff.mp valid.canonical.1
    obtain ⟨both6, same6⟩ := familyCanonical_iff.mp valid.canonical.2
    exact ⟨⟨valid.version, valid.generation⟩, (), valid.capabilities, (), valid.sizes,
      ⟨both4, both6, same4, same6⟩, by simp [valid.ipv4], by simp [valid.ipv6], trivial⟩

/-- Reading an optional address that was written as zero bytes when absent. -/
theorem family_roundtrip {A : Type} {bit : Prop} [Decidable bit] {client server : Option A}
    (canonical : FamilyCanonical (decide bit) client server) (unspecified : A) :
    (if bit then some (client.getD unspecified) else none) = client ∧
      (if bit then some (server.getD unspecified) else none) = server ∧
      (¬ bit → client.getD unspecified = unspecified ∧ server.getD unspecified = unspecified) := by
  unfold FamilyCanonical at canonical
  by_cases set_ : bit
  · cases client <;> cases server <;> simp_all
  · cases client <;> cases server <;> simp_all

/-- Writing an optional address that was read as the capability bit says. -/
theorem family_getD {A : Type} {bit : Prop} [Decidable bit] {address unspecified : A}
    (zero : ¬ bit → address = unspecified) :
    (if bit then some address else none).getD unspecified = address := by
  by_cases set_ : bit
  · simp [set_]
  · simp [set_, zero set_]

theorem decodeAccept_of_body (valid : accept.validate = .ok ()) :
    decodeAccept accept.body = .ok accept := by
  obtain ⟨canonical4, canonical6⟩ := (VpnAccept.validate_iff.mp valid).canonical
  obtain ⟨client4, server4, zero4⟩ := family_roundtrip canonical4 Ipv4Addr.unspecified
  obtain ⟨client6, server6, zero6⟩ := family_roundtrip canonical6 Ipv6Addr.unspecified
  set parts := [u16ToBE accept.selectedWireVersion, u16ToBE 0, u32ToBE accept.capabilities,
    u16ToBE accept.maxIpPacketLen, u16ToBE accept.maxDatagramLen, u64ToBE accept.sessionGeneration,
    (accept.clientIpv4.getD Ipv4Addr.unspecified).octets,
    (accept.serverIpv4.getD Ipv4Addr.unspecified).octets,
    (accept.clientIpv6.getD Ipv6Addr.unspecified).octets,
    (accept.serverIpv6.getD Ipv6Addr.unspecified).octets] with partsDef
  have widths : parts.map List.length = acceptWidths := by simp [partsDef, acceptWidths]
  have fields := cut_flatten parts
  have body : parts.flatten = accept.body := rfl
  rw [widths, body, acceptWidths_cut, partsDef] at fields
  simp only [List.cons.injEq, and_true] at fields
  obtain ⟨version, zero, capabilities, packetLen, datagramLen, generation, c4, s4, c6, s6⟩ := fields
  unfold decodeAccept
  rw [if_neg (by simp), if_neg (by rw [zero]; decide)]
  simp only [version, capabilities, packetLen, datagramLen, generation, c4, s4, c6, s6,
    u16FromBE_toBE, u32FromBE_toBE, u64FromBE_toBE, Ipv4Addr.ofOctets_octets,
    Ipv6Addr.ofOctets_octets, client4, server4, client6, server6]
  rw [if_neg]
  · simp [valid, bind, Except.bind, pure, Except.pure]
  · rintro (⟨clear, nonzero⟩ | ⟨clear, nonzero⟩)
    · obtain ⟨zeroClient, zeroServer⟩ := zero4 (not_not_intro clear)
      exact nonzero.elim (absurd zeroClient) (absurd zeroServer)
    · obtain ⟨zeroClient, zeroServer⟩ := zero6 (not_not_intro clear)
      exact nonzero.elim (absurd zeroClient) (absurd zeroServer)

theorem decodeAccept_body {body : List UInt8} (decoded : decodeAccept body = .ok accept) :
    accept.validate = .ok () ∧ body = accept.body := by
  simp only [decodeAccept, ite_error_eq_ok, bind_eq_ok, not_or, not_and, not_not] at decoded
  obtain ⟨length, reserved, ⟨zero4, zero6⟩, ⟨⟩, valid, ⟨⟩⟩ := decoded
  have length : body.length = 60 := length
  have joined := flatten_cut acceptWidths body (by simp [acceptWidths, length])
  rw [acceptWidths_cut, reserved] at joined
  have reservedBytes : u16ToBE 0 = [0, 0] := by decide
  refine ⟨valid, ?_⟩
  simp only [VpnAccept.body, reservedBytes, family_getD (fun clear => (zero4 (not_not.mp clear)).1),
    family_getD (fun clear => (zero4 (not_not.mp clear)).2),
    family_getD (fun clear => (zero6 (not_not.mp clear)).1),
    family_getD (fun clear => (zero6 (not_not.mp clear)).2)]
  rw [u16ToBE_fromBE (slice_width (by omega) rfl), u32ToBE_fromBE (slice_width (by omega) rfl),
    u16ToBE_fromBE (slice_width (by omega) rfl), u16ToBE_fromBE (slice_width (by omega) rfl),
    u64ToBE_fromBE (slice_width (by omega) rfl),
    Ipv4Addr.octets_ofOctets (slice_width (by omega) rfl),
    Ipv4Addr.octets_ofOctets (slice_width (by omega) rfl),
    Ipv6Addr.octets_ofOctets (slice_width (by omega) rfl),
    Ipv6Addr.octets_ofOctets (slice_width (by omega) rfl), joined]

theorem decodeAccept_iff {body : List UInt8} :
    decodeAccept body = .ok accept ↔ accept.validate = .ok () ∧ body = accept.body :=
  ⟨decodeAccept_body, fun ⟨valid, same⟩ => same ▸ decodeAccept_of_body valid⟩

/-! ## REJECT -/

theorem VpnRejectReason.tryFrom_iff {value : UInt16} {reason : VpnRejectReason} :
    tryFrom value = .ok reason ↔ value = reason.code := by
  constructor
  · intro found
    unfold tryFrom at found
    repeat' split at found
    all_goals cases found
    all_goals assumption
  · rintro rfl
    cases reason <;> rfl

theorem decodeReject_iff {body : List UInt8} {reject : VpnReject} :
    decodeReject body = .ok reject ↔ body = reject.body := by
  constructor
  · intro decoded
    simp only [decodeReject, ite_error_eq_ok, bind_eq_ok, not_not] at decoded
    obtain ⟨length, reason, found, ⟨⟩⟩ := decoded
    have length : body.length = 4 := length
    have joined := flatten_cut [2, 2] body (by simp [length])
    have pieces : cut [2, 2] body = [slice body 0 2, slice body 2 4] := by simp [cut, slice]
    rw [pieces] at joined
    simp only [VpnReject.body, ← VpnRejectReason.tryFrom_iff.mp found]
    rw [u16ToBE_fromBE (slice_width (by omega) rfl), u16ToBE_fromBE (slice_width (by omega) rfl),
      joined]
  · rintro rfl
    have parts := cut_flatten [u16ToBE reject.reason.code, u16ToBE reject.retryAfterSecs]
    rw [← VpnReject.body] at parts
    simp only [List.map_cons, List.map_nil, u16ToBE_length, cut, List.cons.injEq, and_true] at parts
    unfold decodeReject
    rw [if_neg (by simp)]
    simp only [slice, Nat.sub_zero, List.drop_zero, parts, u16FromBE_toBE,
      VpnRejectReason.tryFrom_iff.mpr rfl, bind, Except.bind, pure, Except.pure]

/-! ## Messages -/

def VpnControlMessage.validate : VpnControlMessage → Except VpnControlError Unit
  | .hello message => message.validate
  | .accept message => message.validate
  | .reject _ => .ok ()

def VpnControlMessage.messageType : VpnControlMessage → UInt8
  | .hello _ => vpnControlHello
  | .accept _ => vpnControlAccept
  | .reject _ => vpnControlReject

def VpnControlMessage.body : VpnControlMessage → List UInt8
  | .hello message => message.body
  | .accept message => message.body
  | .reject message => message.body

theorem VpnControlMessage.body_length_le (message : VpnControlMessage) :
    message.body.length ≤ 60 := by
  cases message <;> simp [body, vpnHelloBodyLen, vpnAcceptBodyLen, vpnRejectBodyLen]

/-- The canonical bytes of a valid message. -/
def Encodes (message : VpnControlMessage) (bytes : List UInt8) : Prop :=
  message.validate = .ok () ∧
    bytes = vpnControlFrame message.messageType (UInt16.ofNat message.body.length) message.body

/-- The encoder validates, then frames. -/
theorem encodeVpnControlMessage_eq (message : VpnControlMessage) :
    encodeVpnControlMessage message = message.validate.bind fun _ =>
      .ok (vpnControlFrame message.messageType (UInt16.ofNat message.body.length)
        message.body) := by
  have short := message.body_length_le
  have narrow : u16TryFrom message.body.length = some (UInt16.ofNat message.body.length) := by
    rw [u16TryFrom, if_pos (by omega)]
  cases message with
  | hello hello =>
    simp only [VpnControlMessage.body] at narrow
    simp only [encodeVpnControlMessage, VpnControlMessage.validate, bind, Except.bind]
    cases hello.validate with
    | error error => rfl
    | ok value => simp only [pure, Except.pure, narrow]; rfl
  | accept accept =>
    simp only [VpnControlMessage.body] at narrow
    simp only [encodeVpnControlMessage, VpnControlMessage.validate, bind, Except.bind]
    cases accept.validate with
    | error error => rfl
    | ok value => simp only [pure, Except.pure, narrow]; rfl
  | reject reject =>
    simp only [VpnControlMessage.body] at narrow
    simp only [encodeVpnControlMessage, bind, Except.bind, pure, Except.pure, narrow]
    rfl

variable {message : VpnControlMessage} {bytes : List UInt8}

theorem encodeVpnControlMessage_iff :
    encodeVpnControlMessage message = .ok bytes ↔ Encodes message bytes := by
  rw [encodeVpnControlMessage_eq, Encodes]
  cases message.validate with
  | error error => simp [Except.bind]
  | ok value => simp [Except.bind, eq_comm]

/-- The decoder of a body, by message type. -/
def decodeBody (messageType : UInt8) (body : List UInt8) :
    Except VpnControlError VpnControlMessage :=
  if messageType = vpnControlHello then (decodeHello body).map .hello
  else if messageType = vpnControlAccept then (decodeAccept body).map .accept
  else if messageType = vpnControlReject then (decodeReject body).map .reject
  else .error .unknownMessageType

theorem map_eq_ok_iff {ε α β : Type} {f : α → β} {result : Except ε α} {value : β} :
    result.map f = .ok value ↔ ∃ inner, result = .ok inner ∧ f inner = value := by
  cases result <;> simp [Except.map]

theorem decodeBody_iff {messageType : UInt8} {body : List UInt8} :
    decodeBody messageType body = .ok message ↔
      message.validate = .ok () ∧ messageType = message.messageType ∧ body = message.body := by
  constructor
  · intro decoded
    unfold decodeBody at decoded
    split at decoded
    · rename_i isHello
      obtain ⟨hello, found, rfl⟩ := map_eq_ok_iff.mp decoded
      obtain ⟨valid, same⟩ := decodeHello_iff.mp found
      exact ⟨valid, isHello, same⟩
    · split at decoded
      · rename_i isAccept
        obtain ⟨accept, found, rfl⟩ := map_eq_ok_iff.mp decoded
        obtain ⟨valid, same⟩ := decodeAccept_iff.mp found
        exact ⟨valid, isAccept, same⟩
      · split at decoded
        · rename_i isReject
          obtain ⟨reject, found, rfl⟩ := map_eq_ok_iff.mp decoded
          exact ⟨rfl, isReject, decodeReject_iff.mp found⟩
        · cases decoded
  · rintro ⟨valid, rfl, rfl⟩
    cases message with
    | hello hello =>
      exact map_eq_ok_iff.mpr ⟨hello, decodeHello_iff.mpr ⟨valid, rfl⟩, rfl⟩
    | accept accept =>
      exact map_eq_ok_iff.mpr ⟨accept, decodeAccept_iff.mpr ⟨valid, rfl⟩, rfl⟩
    | reject reject =>
      exact map_eq_ok_iff.mpr ⟨reject, decodeReject_iff.mpr rfl, rfl⟩

/-- The pieces of an encoded message. -/
theorem frame_cut (bytes : List UInt8) :
    cut [4, 1, 1, 2, bytes.length - 8] bytes =
      [slice bytes 0 4, slice bytes 4 5, slice bytes 5 6, slice bytes 6 8, bytes.drop 8] := by
  have rest : (bytes.drop 8).take (bytes.length - 8) = bytes.drop 8 :=
    List.take_of_length_le (by simp)
  simp [cut, slice, rest]

/-- The header: magic, version, and a length that is the length of the body. -/
theorem decodeVpnControlMessage_iff_frame :
    decodeVpnControlMessage bytes = .ok message ↔
      ∃ messageType body, body.length + vpnControlHeaderLen ≤ vpnControlMaxMessageLen ∧
        bytes = vpnControlFrame messageType (UInt16.ofNat body.length) body ∧
        decodeBody messageType body = .ok message := by
  constructor
  · intro decoded
    simp only [decodeVpnControlMessage, ite_error_eq_ok, not_lt, not_not] at decoded
    obtain ⟨long, short, magic, version, length, decoded⟩ := decoded
    simp only [vpnControlHeaderLen] at long length
    refine ⟨bytes.getD 5 0, bytes.drop 8, ?_, ?_, decoded⟩
    · simp only [List.length_drop, vpnControlHeaderLen]
      omega
    · have bodyLen : UInt16.ofNat (bytes.drop 8).length = u16FromBE (slice bytes 6 8) := by
        rw [u16FromBE, List.length_drop]
        congr 1
        omega
      have joined := flatten_cut [4, 1, 1, 2, bytes.length - 8] bytes (by simp; omega)
      rw [frame_cut, slice_one (by omega), slice_one (by omega), magic, version] at joined
      rw [vpnControlFrame, bodyLen, u16ToBE_fromBE (slice_width (by omega) rfl), joined]
  · rintro ⟨messageType, body, small, rfl, decoded⟩
    have header : vpnControlHeaderLen = 8 := rfl
    have limit : vpnControlMaxMessageLen = 256 := rfl
    have bodyLen : (UInt16.ofNat body.length).toNat = body.length :=
      UInt16.toNat_ofNat_of_lt' (by simp only [UInt16.size]; omega)
    set bytes := vpnControlFrame messageType (UInt16.ofNat body.length) body with bytesDef
    have length : bytes.length = 8 + body.length := by
      simp [bytesDef, vpnControlFrame, vpnControlMagic]
      omega
    have fields := cut_flatten [vpnControlMagic, [vpnControlFormatVersion], [messageType],
      u16ToBE (UInt16.ofNat body.length), body]
    have widths : [vpnControlMagic, [vpnControlFormatVersion], [messageType],
        u16ToBE (UInt16.ofNat body.length), body].map List.length =
        [4, 1, 1, 2, bytes.length - 8] := by
      simp [length, vpnControlMagic]
    rw [widths, ← vpnControlFrame, ← bytesDef, frame_cut, slice_one (by omega),
      slice_one (by omega)] at fields
    simp only [List.cons.injEq, and_true] at fields
    obtain ⟨magic, version, kind, lengthBytes, rest⟩ := fields
    have read : fromBE (slice bytes 6 8) = body.length := by
      rw [lengthBytes, u16ToBE, fromBE_toBE (by simpa using (UInt16.ofNat body.length).toNat_lt),
        bodyLen]
    unfold decodeVpnControlMessage
    rw [if_neg (by omega), if_neg (by omega), if_neg (not_not_intro magic),
      if_neg (not_not_intro version)]
    simp only [read, header, length, ne_eq, not_true_eq_false, if_false, kind, rest]
    exact decoded

theorem decodeVpnControlMessage_iff :
    decodeVpnControlMessage bytes = .ok message ↔ Encodes message bytes := by
  rw [decodeVpnControlMessage_iff_frame]
  constructor
  · rintro ⟨messageType, body, -, rfl, decoded⟩
    obtain ⟨valid, rfl, rfl⟩ := decodeBody_iff.mp decoded
    exact ⟨valid, rfl⟩
  · rintro ⟨valid, rfl⟩
    refine ⟨_, _, ?_, rfl, decodeBody_iff.mpr ⟨valid, rfl, rfl⟩⟩
    have short := message.body_length_le
    simp only [vpnControlHeaderLen, vpnControlMaxMessageLen]
    omega

/-- **The control codec is a bijection** between valid messages and accepted byte
strings: encoding and decoding are inverse relations, what the decoder accepts is
exactly the encodings of messages that validate, and a message has one encoding. -/
theorem controlCodec_bijective :
    (∀ message bytes, encodeVpnControlMessage message = .ok bytes ↔
        decodeVpnControlMessage bytes = .ok message) ∧
      (∀ bytes, (∃ message, decodeVpnControlMessage bytes = .ok message) ↔
        ∃ message, message.validate = .ok () ∧ encodeVpnControlMessage message = .ok bytes) ∧
      (∀ message, (∃ bytes, encodeVpnControlMessage message = .ok bytes) ↔
        message.validate = .ok ()) ∧
      ∀ message bytes bytes', decodeVpnControlMessage bytes = .ok message →
        decodeVpnControlMessage bytes' = .ok message → bytes = bytes' := by
  refine ⟨fun message bytes => ?_, fun bytes => ?_, fun message => ?_,
    fun message bytes bytes' first second => ?_⟩
  · rw [encodeVpnControlMessage_iff, decodeVpnControlMessage_iff]
  · simp only [encodeVpnControlMessage_iff, decodeVpnControlMessage_iff]
    exact ⟨fun ⟨message, encodes⟩ => ⟨message, encodes.1, encodes⟩,
      fun ⟨message, _, encodes⟩ => ⟨message, encodes⟩⟩
  · simp only [encodeVpnControlMessage_iff]
    exact ⟨fun ⟨bytes, encodes⟩ => encodes.1, fun valid => ⟨_, valid, rfl⟩⟩
  · rw [decodeVpnControlMessage_iff] at first second
    rw [first.2, second.2]

end FlowWeave.Vpn
