/-
# Vpn.Control — the `FWC1` control messages (`src/vpn_control.rs`)

HELLO, ACCEPT and REJECT, their validation and their byte forms. The encoder
validates before it writes and the decoder validates what it read.
`Vpn.ControlCodec` proves the two inverse to each other.
-/
import FlowWeave.Vpn.Packet

namespace FlowWeave.Vpn

open Theory.BigEndian

set_option autoImplicit false

/-! ## Constants -/

/-- The bytes of `FWC1`. -/
def vpnControlMagic : List UInt8 := [0x46, 0x57, 0x43, 0x31]

def vpnControlFormatVersion : UInt8 := 1

def vpnControlHeaderLen : Nat := 8

def vpnControlMaxMessageLen : Nat := 256

def vpnWireVersionV1 : UInt16 := 1

def vpnCapIpv4 : UInt32 := (1 : UInt32) <<< 0

def vpnCapIpv6 : UInt32 := (1 : UInt32) <<< 1

def vpnCapFragmentation : UInt32 := (1 : UInt32) <<< 2

def vpnCapMultipathRequired : UInt32 := (1 : UInt32) <<< 3

def vpnRequiredCapabilities : UInt32 := vpnCapFragmentation ||| vpnCapMultipathRequired

def vpnKnownCapabilities : UInt32 :=
  vpnCapIpv4 ||| vpnCapIpv6 ||| vpnCapFragmentation ||| vpnCapMultipathRequired

def vpnControlHello : UInt8 := 1

def vpnControlAccept : UInt8 := 2

def vpnControlReject : UInt8 := 3

def vpnHelloBodyLen : Nat := 12

def vpnAcceptBodyLen : Nat := 60

def vpnRejectBodyLen : Nat := 4

inductive VpnControlError where
  | messageTooShort
  | messageTooLong
  | invalidMagic
  | unsupportedFormatVersion
  | unknownMessageType
  | lengthMismatch
  | invalidHello
  | invalidAccept
  | invalidReject
  | unknownCapabilities
  | missingRequiredCapabilities
  | invalidAddress
  deriving DecidableEq, Repr

/-! ## Validation -/

def validateCapabilities (capabilities : UInt32) : Except VpnControlError Unit :=
  if capabilities &&& ~~~vpnKnownCapabilities ≠ 0 then .error .unknownCapabilities
  else if capabilities &&& vpnRequiredCapabilities ≠ vpnRequiredCapabilities ∨
      capabilities &&& (vpnCapIpv4 ||| vpnCapIpv6) = 0 then
    .error .missingRequiredCapabilities
  else .ok ()

def validateSizes (maxIpPacketLen maxDatagramLen : UInt16) : Except Unit Unit :=
  if maxIpPacketLen.toNat < vpnMinIpPacketLen ∨ maxIpPacketLen.toNat > vpnMaxIpPacketLen ∨
      maxDatagramLen.toNat < vpnMinQuicDatagramLen then
    .error ()
  else .ok ()

def validIpv4TunnelAddress (address : Ipv4Addr) : Bool :=
  !address.isUnspecified && !address.isLoopback && !address.isLinkLocal &&
    !address.isMulticast && address ≠ Ipv4Addr.broadcast

def validIpv6TunnelAddress (address : Ipv6Addr) : Bool :=
  !address.isUnspecified && !address.isLoopback && !address.isUnicastLinkLocal &&
    !address.isMulticast

structure VpnHello where
  minWireVersion : UInt16
  maxWireVersion : UInt16
  capabilities : UInt32
  maxIpPacketLen : UInt16
  maxDatagramLen : UInt16
  deriving DecidableEq, Repr

def VpnHello.validate (hello : VpnHello) : Except VpnControlError Unit := do
  if hello.minWireVersion = 0 ∨ hello.minWireVersion > hello.maxWireVersion then
    .error .invalidHello
  else
    validateCapabilities hello.capabilities
    (validateSizes hello.maxIpPacketLen hello.maxDatagramLen).mapError fun _ => .invalidHello

structure VpnAccept where
  selectedWireVersion : UInt16
  capabilities : UInt32
  maxIpPacketLen : UInt16
  maxDatagramLen : UInt16
  sessionGeneration : UInt64
  clientIpv4 : Option Ipv4Addr
  serverIpv4 : Option Ipv4Addr
  clientIpv6 : Option Ipv6Addr
  serverIpv6 : Option Ipv6Addr
  deriving DecidableEq, Repr

/-- The check of one family's pair of addresses; `false` is a refusal. -/
def validTunnelPair {A : Type} [DecidableEq A] (valid : A → Bool) : Option A → Option A → Bool
  | some client, some server => client ≠ server && valid client && valid server
  | _, _ => true

def VpnAccept.validate (accept : VpnAccept) : Except VpnControlError Unit := do
  if accept.selectedWireVersion = 0 ∨ accept.sessionGeneration = 0 then .error .invalidAccept
  else
    validateCapabilities accept.capabilities
    (validateSizes accept.maxIpPacketLen accept.maxDatagramLen).mapError fun _ => .invalidAccept
    let hasIpv4 : Bool := accept.capabilities &&& vpnCapIpv4 ≠ 0
    let hasIpv6 : Bool := accept.capabilities &&& vpnCapIpv6 ≠ 0
    if hasIpv4 ≠ (accept.clientIpv4.isSome && accept.serverIpv4.isSome) ∨
        hasIpv6 ≠ (accept.clientIpv6.isSome && accept.serverIpv6.isSome) ∨
        accept.clientIpv4.isSome ≠ accept.serverIpv4.isSome ∨
        accept.clientIpv6.isSome ≠ accept.serverIpv6.isSome then
      .error .invalidAccept
    else if !validTunnelPair validIpv4TunnelAddress accept.clientIpv4 accept.serverIpv4 then
      .error .invalidAddress
    else if !validTunnelPair validIpv6TunnelAddress accept.clientIpv6 accept.serverIpv6 then
      .error .invalidAddress
    else .ok ()

inductive VpnRejectReason where
  | unsupportedVersion
  | unauthorized
  | identityDisabled
  | addressInUse
  | resourceLimit
  | policyRejected
  | protocolViolation
  deriving DecidableEq, Repr

namespace VpnRejectReason

/-- `reason as u16`. -/
def code : VpnRejectReason → UInt16
  | unsupportedVersion => 1
  | unauthorized => 2
  | identityDisabled => 3
  | addressInUse => 4
  | resourceLimit => 5
  | policyRejected => 6
  | protocolViolation => 7

def tryFrom (value : UInt16) : Except VpnControlError VpnRejectReason :=
  if value = 1 then .ok unsupportedVersion
  else if value = 2 then .ok unauthorized
  else if value = 3 then .ok identityDisabled
  else if value = 4 then .ok addressInUse
  else if value = 5 then .ok resourceLimit
  else if value = 6 then .ok policyRejected
  else if value = 7 then .ok protocolViolation
  else .error .invalidReject

end VpnRejectReason

structure VpnReject where
  reason : VpnRejectReason
  retryAfterSecs : UInt16
  deriving DecidableEq, Repr

inductive VpnControlMessage where
  | hello (hello : VpnHello)
  | accept (accept : VpnAccept)
  | reject (reject : VpnReject)
  deriving DecidableEq, Repr

def selectVpnWireVersion (clientMin clientMax serverMin serverMax : UInt16) : Option UInt16 :=
  if clientMin = 0 ∨ serverMin = 0 ∨ clientMin > clientMax ∨ serverMin > serverMax then none
  else
    let lower := max clientMin serverMin
    let upper := min clientMax serverMax
    if lower ≤ upper then some upper else none

/-! ## Byte forms -/

def VpnHello.body (hello : VpnHello) : List UInt8 :=
  [u16ToBE hello.minWireVersion, u16ToBE hello.maxWireVersion, u32ToBE hello.capabilities,
    u16ToBE hello.maxIpPacketLen, u16ToBE hello.maxDatagramLen].flatten

def VpnAccept.body (accept : VpnAccept) : List UInt8 :=
  [u16ToBE accept.selectedWireVersion, u16ToBE 0, u32ToBE accept.capabilities,
    u16ToBE accept.maxIpPacketLen, u16ToBE accept.maxDatagramLen,
    u64ToBE accept.sessionGeneration,
    (accept.clientIpv4.getD Ipv4Addr.unspecified).octets,
    (accept.serverIpv4.getD Ipv4Addr.unspecified).octets,
    (accept.clientIpv6.getD Ipv6Addr.unspecified).octets,
    (accept.serverIpv6.getD Ipv6Addr.unspecified).octets].flatten

def VpnReject.body (reject : VpnReject) : List UInt8 :=
  [u16ToBE reject.reason.code, u16ToBE reject.retryAfterSecs].flatten

/-- Header and body of one message. -/
def vpnControlFrame (messageType : UInt8) (bodyLen : UInt16) (body : List UInt8) : List UInt8 :=
  [vpnControlMagic, [vpnControlFormatVersion], [messageType], u16ToBE bodyLen, body].flatten

def encodeVpnControlMessage (message : VpnControlMessage) :
    Except VpnControlError (List UInt8) := do
  let (messageType, body) ← match message with
    | .hello hello => do
      hello.validate
      pure (vpnControlHello, hello.body)
    | .accept accept => do
      accept.validate
      pure (vpnControlAccept, accept.body)
    | .reject reject => pure (vpnControlReject, reject.body)
  match u16TryFrom body.length with
  | none => .error .messageTooLong
  | some bodyLen => .ok (vpnControlFrame messageType bodyLen body)

def decodeHello (body : List UInt8) : Except VpnControlError VpnHello := do
  if body.length ≠ vpnHelloBodyLen then .error .invalidHello
  else
    let hello : VpnHello := {
      minWireVersion := u16FromBE (slice body 0 2)
      maxWireVersion := u16FromBE (slice body 2 4)
      capabilities := u32FromBE (slice body 4 8)
      maxIpPacketLen := u16FromBE (slice body 8 10)
      maxDatagramLen := u16FromBE (slice body 10 12) }
    hello.validate
    pure hello

def decodeAccept (body : List UInt8) : Except VpnControlError VpnAccept := do
  if body.length ≠ vpnAcceptBodyLen then .error .invalidAccept
  else if slice body 2 4 ≠ [0, 0] then .error .invalidAccept
  else
    let capabilities := u32FromBE (slice body 4 8)
    let clientIpv4 := Ipv4Addr.ofOctets (slice body 20 24)
    let serverIpv4 := Ipv4Addr.ofOctets (slice body 24 28)
    let clientIpv6 := Ipv6Addr.ofOctets (slice body 28 44)
    let serverIpv6 := Ipv6Addr.ofOctets (slice body 44 60)
    let accept : VpnAccept := {
      selectedWireVersion := u16FromBE (slice body 0 2)
      capabilities := capabilities
      maxIpPacketLen := u16FromBE (slice body 8 10)
      maxDatagramLen := u16FromBE (slice body 10 12)
      sessionGeneration := u64FromBE (slice body 12 20)
      clientIpv4 := if capabilities &&& vpnCapIpv4 ≠ 0 then some clientIpv4 else none
      serverIpv4 := if capabilities &&& vpnCapIpv4 ≠ 0 then some serverIpv4 else none
      clientIpv6 := if capabilities &&& vpnCapIpv6 ≠ 0 then some clientIpv6 else none
      serverIpv6 := if capabilities &&& vpnCapIpv6 ≠ 0 then some serverIpv6 else none }
    if (capabilities &&& vpnCapIpv4 = 0 ∧
          (clientIpv4 ≠ Ipv4Addr.unspecified ∨ serverIpv4 ≠ Ipv4Addr.unspecified)) ∨
        (capabilities &&& vpnCapIpv6 = 0 ∧
          (clientIpv6 ≠ Ipv6Addr.unspecified ∨ serverIpv6 ≠ Ipv6Addr.unspecified)) then
      .error .invalidAccept
    else
      accept.validate
      pure accept

def decodeReject (body : List UInt8) : Except VpnControlError VpnReject := do
  if body.length ≠ vpnRejectBodyLen then .error .invalidReject
  else
    let reason ← VpnRejectReason.tryFrom (u16FromBE (slice body 0 2))
    pure { reason := reason, retryAfterSecs := u16FromBE (slice body 2 4) }

def decodeVpnControlMessage (encoded : List UInt8) : Except VpnControlError VpnControlMessage :=
  if encoded.length < vpnControlHeaderLen then .error .messageTooShort
  else if encoded.length > vpnControlMaxMessageLen then .error .messageTooLong
  else if slice encoded 0 4 ≠ vpnControlMagic then .error .invalidMagic
  else if encoded.getD 4 0 ≠ vpnControlFormatVersion then .error .unsupportedFormatVersion
  else
    let bodyLen := fromBE (slice encoded 6 8)
    if vpnControlHeaderLen + bodyLen ≠ encoded.length then .error .lengthMismatch
    else
      let body := encoded.drop vpnControlHeaderLen
      if encoded.getD 5 0 = vpnControlHello then (decodeHello body).map .hello
      else if encoded.getD 5 0 = vpnControlAccept then (decodeAccept body).map .accept
      else if encoded.getD 5 0 = vpnControlReject then (decodeReject body).map .reject
      else .error .unknownMessageType

end FlowWeave.Vpn
