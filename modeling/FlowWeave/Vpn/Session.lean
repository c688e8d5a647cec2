/-
# Vpn.Session — the negotiation of a session (`src/vpn_session.rs`)

The server answers a HELLO with an ACCEPT or a REJECT. `negotiateVpnHello` is the
decision, `validateServerAccept` the check the client makes of the answer. A
server config and a negotiated session carry the checks they passed.

* `proposedAccept_valid` — what the server proposes passes its own last check, so
  that the rejection after it is never taken.
* `negotiation_agrees` — the ACCEPT survives the wire, the client takes it, and it is
  the best that both sides can do; there is a REJECT only for the four reasons.
-/
import FlowWeave.Vpn.ControlCodec
import FlowWeave.Vpn.Registry

namespace FlowWeave.Vpn

open Theory.Checks Theory.MachineInt VpnHello

set_option autoImplicit false

inductive VpnSessionError where
  | invalidHandshakeTimeout
  | alpnNotNegotiated
  | multipathNotNegotiated
  | datagramNotNegotiated
  | datagramTooSmall
  | peerIdentityUnavailable
  | streamOpenFailed
  | streamAcceptFailed
  | controlReadFailed
  | controlWriteFailed
  | controlFinishFailed
  | controlTimeout
  | invalidControl (error : VpnControlError)
  | unexpectedControlMessage
  | invalidServerResponse
  | rejected (reject : VpnReject)
  deriving DecidableEq, Repr

/-- A nonzero generation. -/
structure VpnSessionGeneration where
  value : UInt64
  nonzero : value ≠ 0
  deriving DecidableEq

/-- `VpnSessionGeneration::new`. -/
def VpnSessionGeneration.new (value : UInt64) : Option VpnSessionGeneration :=
  if nonzero : value ≠ 0 then some ⟨value, nonzero⟩ else none

/-! ## The server's config -/

/-- The HELLO that `VpnServerNegotiationConfig::new` validates. -/
def configProbe (minWireVersion maxWireVersion maxIpPacketLen maxDatagramLen : UInt16) :
    VpnHello where
  minWireVersion := minWireVersion
  maxWireVersion := maxWireVersion
  capabilities := vpnRequiredCapabilities ||| vpnCapIpv4
  maxIpPacketLen := maxIpPacketLen
  maxDatagramLen := maxDatagramLen

structure VpnServerNegotiationConfig where
  minWireVersion : UInt16
  maxWireVersion : UInt16
  maxIpPacketLen : UInt16
  maxDatagramLen : UInt16
  valid : (configProbe minWireVersion maxWireVersion maxIpPacketLen maxDatagramLen).validate =
    .ok ()

/-- What a validated HELLO promises. -/
structure VpnHello.Valid (hello : VpnHello) : Prop where
  version : hello.minWireVersion ≠ 0 ∧ hello.minWireVersion ≤ hello.maxWireVersion
  capabilities : validateCapabilities hello.capabilities = .ok ()
  sizes : validateSizes hello.maxIpPacketLen hello.maxDatagramLen = .ok ()

theorem VpnHello.validate_iff {hello : VpnHello} : hello.validate = .ok () ↔ hello.Valid := by
  simp only [validate, ite_error_eq_ok, bind_eq_ok, mapError_eq_ok, not_or, gt_iff_lt,
    UInt16.not_lt]
  exact ⟨fun ⟨version, _, capabilities, sizes⟩ => ⟨version, capabilities, sizes⟩,
    fun valid => ⟨valid.version, (), valid.capabilities, valid.sizes⟩⟩

theorem validateSizes_iff {maxIpPacketLen maxDatagramLen : UInt16} :
    validateSizes maxIpPacketLen maxDatagramLen = .ok () ↔
      vpnMinIpPacketLen ≤ maxIpPacketLen.toNat ∧ maxIpPacketLen.toNat ≤ vpnMaxIpPacketLen ∧
        vpnMinQuicDatagramLen ≤ maxDatagramLen.toNat := by
  simp only [validateSizes, ite_error_eq_ok, and_true]
  omega

namespace VpnServerNegotiationConfig

/-- `VpnServerNegotiationConfig::new`. -/
def new (minWireVersion maxWireVersion maxIpPacketLen maxDatagramLen : UInt16) :
    Except VpnControlError VpnServerNegotiationConfig :=
  if minWireVersion = 0 ∨ minWireVersion > maxWireVersion then .error .invalidAccept
  else
    match valid : (configProbe minWireVersion maxWireVersion maxIpPacketLen
        maxDatagramLen).validate with
    | .error error => .error error
    | .ok () => .ok ⟨minWireVersion, maxWireVersion, maxIpPacketLen, maxDatagramLen, valid⟩

/-- The config with its datagram size lowered to what the connection carries. -/
def lowerDatagramLen (config : VpnServerNegotiationConfig) (limit : UInt16)
    (wide : vpnMinQuicDatagramLen ≤ limit.toNat) : VpnServerNegotiationConfig where
  minWireVersion := config.minWireVersion
  maxWireVersion := config.maxWireVersion
  maxIpPacketLen := config.maxIpPacketLen
  maxDatagramLen := min config.maxDatagramLen limit
  valid := by
    have valid := validate_iff.mp config.valid
    have fits := validateSizes_iff.mp valid.sizes
    refine validate_iff.mpr ⟨valid.version, valid.capabilities, ?_⟩
    refine validateSizes_iff.mpr ⟨fits.1, fits.2.1, ?_⟩
    show _ ≤ (min config.maxDatagramLen limit).toNat
    rw [toNat_min]
    exact Nat.le_min.mpr ⟨fits.2.2, wide⟩

end VpnServerNegotiationConfig

/-- `connection_datagram_limit`, from what the connection reports. -/
def connectionDatagramLimit (maxDatagramSize : Option Nat) : Except VpnSessionError UInt16 :=
  match maxDatagramSize with
  | none => .error .datagramNotNegotiated
  | some size =>
    if size < vpnMinQuicDatagramLen then .error .datagramTooSmall
    else .ok (if size < 65536 then UInt16.ofNat size else 65535)

theorem connectionDatagramLimit_wide {maxDatagramSize : Option Nat} {limit : UInt16}
    (limited : connectionDatagramLimit maxDatagramSize = .ok limit) :
    vpnMinQuicDatagramLen ≤ limit.toNat := by
  cases maxDatagramSize with
  | none => cases limited
  | some size =>
    obtain ⟨wide, ⟨⟩⟩ := ite_error_eq_ok.mp limited
    split
    · rename_i fits
      rw [UInt16.toNat_ofNat_of_lt' fits]
      exact Nat.le_of_not_lt wide
    · decide

/-- The config a server handshake negotiates with. -/
def VpnServerNegotiationConfig.forConnection (config : VpnServerNegotiationConfig)
    (maxDatagramSize : Option Nat) : Except VpnSessionError VpnServerNegotiationConfig :=
  match limited : connectionDatagramLimit maxDatagramSize with
  | .error error => .error error
  | .ok limit => .ok (config.lowerDatagramLen limit (connectionDatagramLimit_wide limited))

/-! ## Negotiation -/

structure VpnNegotiatedSession where
  identity : VpnIdentity
  fingerprint : VpnCertificateFingerprint
  accept : VpnAccept
  valid : accept.validate = .ok ()

/-- The private `reject`. -/
def reject (reason : VpnRejectReason) : VpnReject := ⟨reason, 0⟩

def ipv4Enabled (hello : VpnHello) (identity : VpnIdentity) : Bool :=
  hello.capabilities &&& vpnCapIpv4 ≠ 0 && identity.clientIpv4.isSome

def ipv6Enabled (hello : VpnHello) (identity : VpnIdentity) : Bool :=
  hello.capabilities &&& vpnCapIpv6 ≠ 0 && identity.clientIpv6.isSome

variable {hello : VpnHello} {config : VpnServerNegotiationConfig}

theorem ipv4Enabled_iff {identity : VpnIdentity} :
    ipv4Enabled hello identity = true ↔
      hello.capabilities &&& vpnCapIpv4 ≠ 0 ∧ identity.clientIpv4.isSome := by
  simp [ipv4Enabled]

theorem ipv6Enabled_iff {identity : VpnIdentity} :
    ipv6Enabled hello identity = true ↔
      hello.capabilities &&& vpnCapIpv6 ≠ 0 ∧ identity.clientIpv6.isSome := by
  simp [ipv6Enabled]

def negotiatedCapabilities (ipv4 ipv6 : Bool) : UInt32 :=
  let capabilities := vpnRequiredCapabilities
  let capabilities := if ipv4 then capabilities ||| vpnCapIpv4 else capabilities
  if ipv6 then capabilities ||| vpnCapIpv6 else capabilities

/-- The `accept` that `negotiate_vpn_hello` builds and then validates. -/
def proposedAccept (registry : VpnIdentityRegistry) (identity : VpnIdentity) (hello : VpnHello)
    (config : VpnServerNegotiationConfig) (generation : VpnSessionGeneration)
    (selectedWireVersion : UInt16) : VpnAccept where
  selectedWireVersion := selectedWireVersion
  capabilities := negotiatedCapabilities (ipv4Enabled hello identity) (ipv6Enabled hello identity)
  maxIpPacketLen := min hello.maxIpPacketLen config.maxIpPacketLen
  maxDatagramLen := min hello.maxDatagramLen config.maxDatagramLen
  sessionGeneration := generation.value
  clientIpv4 := if ipv4Enabled hello identity then identity.clientIpv4 else none
  serverIpv4 := if ipv4Enabled hello identity then registry.serverIpv4 else none
  clientIpv6 := if ipv6Enabled hello identity then identity.clientIpv6 else none
  serverIpv6 := if ipv6Enabled hello identity then registry.serverIpv6 else none

def negotiateVpnHello (registry : VpnIdentityRegistry) (fingerprint : VpnCertificateFingerprint)
    (hello : VpnHello) (config : VpnServerNegotiationConfig) (generation : VpnSessionGeneration) :
    Except VpnReject VpnNegotiatedSession :=
  match hello.validate with
  | .error _ => .error (reject .protocolViolation)
  | .ok () =>
    match registry.authorize fingerprint with
    | .error .unknownFingerprint => .error (reject .unauthorized)
    | .error .identityDisabled => .error (reject .identityDisabled)
    | .ok identity =>
      match selectVpnWireVersion hello.minWireVersion hello.maxWireVersion
          config.minWireVersion config.maxWireVersion with
      | none => .error (reject .unsupportedVersion)
      | some selectedWireVersion =>
        if !ipv4Enabled hello identity && !ipv6Enabled hello identity then
          .error (reject .policyRejected)
        else
          let accept :=
            proposedAccept registry identity hello config generation selectedWireVersion
          match valid : accept.validate with
          | .error _ => .error (reject .policyRejected)
          | .ok () => .ok ⟨identity, fingerprint, accept, valid⟩

/-- The client's check of an ACCEPT. -/
def validateServerAccept (hello : VpnHello) (accept : VpnAccept) : Except VpnSessionError Unit :=
  match accept.validate with
  | .error _ => .error .invalidServerResponse
  | .ok () =>
    if accept.selectedWireVersion < hello.minWireVersion ∨
        accept.selectedWireVersion > hello.maxWireVersion ∨
        accept.capabilities &&& ~~~hello.capabilities ≠ 0 ∨
        accept.maxIpPacketLen > hello.maxIpPacketLen ∨
        accept.maxDatagramLen > hello.maxDatagramLen then
      .error .invalidServerResponse
    else .ok ()

/-! ## Versions and capabilities -/

/-- The wire versions that both sides speak. -/
def commonVersions (hello : VpnHello) (config : VpnServerNegotiationConfig) : Set UInt16 :=
  { version | (hello.minWireVersion ≤ version ∧ version ≤ hello.maxWireVersion) ∧
    config.minWireVersion ≤ version ∧ version ≤ config.maxWireVersion }

theorem mem_commonVersions {version : UInt16} : version ∈ commonVersions hello config ↔
      (hello.minWireVersion.toNat ≤ version.toNat ∧ version.toNat ≤ hello.maxWireVersion.toNat) ∧
        config.minWireVersion.toNat ≤ version.toNat ∧
        version.toNat ≤ config.maxWireVersion.toNat := by
  show (_ ∧ _) ∧ _ ∧ _ ↔ _
  simp only [UInt16.le_iff_toNat_le]

theorem selectVpnWireVersion_some {version : UInt16}
    (selected : selectVpnWireVersion hello.minWireVersion hello.maxWireVersion
      config.minWireVersion config.maxWireVersion = some version) :
    version ≠ 0 ∧ IsGreatest (commonVersions hello config) version := by
  simp only [selectVpnWireVersion, Option.ite_none_left_eq_some, Option.ite_none_right_eq_some,
    not_or, ← UInt16.toNat_inj, UInt16.toNat_zero, gt_iff_lt, UInt16.lt_iff_toNat_lt,
    UInt16.le_iff_toNat_le, toNat_max, toNat_min] at selected
  obtain ⟨ranges, meet, ⟨⟩⟩ := selected
  refine ⟨?_, ?_, ?_⟩
  · rw [ne_eq, ← UInt16.toNat_inj, toNat_min, UInt16.toNat_zero]
    omega
  · rw [mem_commonVersions, toNat_min]
    omega
  · intro other common
    rw [mem_commonVersions] at common
    rw [UInt16.le_iff_toNat_le, toNat_min]
    omega

theorem selectVpnWireVersion_none (helloValid : hello.Valid)
    (none_ : selectVpnWireVersion hello.minWireVersion hello.maxWireVersion
      config.minWireVersion config.maxWireVersion = none) : commonVersions hello config = ∅ := by
  obtain ⟨helloPositive, helloRange⟩ := helloValid.version
  obtain ⟨configPositive, configRange⟩ := (validate_iff.mp config.valid).version
  have ranges : ¬ (hello.minWireVersion = 0 ∨ config.minWireVersion = 0 ∨
      hello.minWireVersion > hello.maxWireVersion ∨
      config.minWireVersion > config.maxWireVersion) := by
    simp only [not_or, gt_iff_lt, UInt16.not_lt]
    exact ⟨helloPositive, configPositive, helloRange, configRange⟩
  unfold selectVpnWireVersion at none_
  rw [if_neg ranges] at none_
  dsimp only at none_
  split at none_
  · cases none_
  · rename_i apart
    rw [UInt16.le_iff_toNat_le, toNat_max, toNat_min] at apart
    apply Set.eq_empty_of_forall_notMem
    intro version common
    rw [mem_commonVersions] at common
    omega

theorem negotiatedCapabilities_flags (ipv4 ipv6 : Bool) :
    ((negotiatedCapabilities ipv4 ipv6 &&& vpnCapIpv4 ≠ 0 ↔ ipv4 = true) ∧
      (negotiatedCapabilities ipv4 ipv6 &&& vpnCapIpv6 ≠ 0 ↔ ipv6 = true)) ∧
    ((ipv4 || ipv6) = true → validateCapabilities (negotiatedCapabilities ipv4 ipv6) = .ok ()) := by
  cases ipv4 <;> cases ipv6 <;> decide

/-- The server asks for nothing that the client did not offer. -/
theorem negotiatedCapabilities_offered (valid : hello.Valid) (identity : VpnIdentity) :
    negotiatedCapabilities (ipv4Enabled hello identity) (ipv6Enabled hello identity) &&&
      ~~~hello.capabilities = 0 := by
  have required : vpnRequiredCapabilities &&& ~~~hello.capabilities = 0 := by
    have checked := valid.capabilities
    simp only [validateCapabilities, ite_error_eq_ok, not_or, not_not] at checked
    exact mask_and_not checked.2.1.1
  have offered4 : ipv4Enabled hello identity = true → vpnCapIpv4 &&& ~~~hello.capabilities = 0 := by
    intro enabled
    exact mask_and_not (mask_of_flag (i := 0) rfl (ipv4Enabled_iff.mp enabled).1)
  have offered6 : ipv6Enabled hello identity = true → vpnCapIpv6 &&& ~~~hello.capabilities = 0 := by
    intro enabled
    exact mask_and_not (mask_of_flag (i := 1) rfl (ipv6Enabled_iff.mp enabled).1)
  cases enabled4 : ipv4Enabled hello identity with
  | false =>
    cases enabled6 : ipv6Enabled hello identity with
    | false => exact required
    | true => exact or_and_not required (offered6 enabled6)
  | true =>
    cases enabled6 : ipv6Enabled hello identity with
    | false => exact or_and_not required (offered4 enabled4)
    | true => exact or_and_not (or_and_not required (offered4 enabled4)) (offered6 enabled6)

/-! ## The proposal -/

/-- One family of the proposal: both addresses if it is enabled, else none. -/
theorem proposed_family {A : Type} [DecidableEq A] {valid : A → Bool} {enabled : Bool}
    {client server : Option A} (present : enabled = true → client.isSome)
    (apart : Apart client server) (clientValid : ∀ address, client = some address → valid address)
    (serverValid : ∀ address, server = some address → valid address) :
    FamilyCanonical enabled (if enabled then client else none) (if enabled then server else none) ∧
      validTunnelPair valid (if enabled then client else none)
        (if enabled then server else none) = true := by
  cases enabled with
  | false => exact ⟨⟨rfl, rfl⟩, rfl⟩
  | true =>
    obtain ⟨address, rfl⟩ := Option.isSome_iff_exists.mp (present rfl)
    obtain ⟨own, rfl, different⟩ := apart address rfl
    refine ⟨⟨rfl, rfl⟩, ?_⟩
    simp [validTunnelPair, different, clientValid address rfl, serverValid own rfl]

theorem FamilyCanonical.of_flag {A : Type} {bit : Prop} [Decidable bit] {enabled : Bool}
    {client server : Option A} (canonical : FamilyCanonical enabled client server)
    (flag : bit ↔ enabled = true) : FamilyCanonical (decide bit) client server := by
  rwa [Bool.eq_iff_iff.mpr (decide_eq_true_iff.trans flag)]

theorem proposed_pair {A : Type} {bit : Prop} [Decidable bit] {enabled : Bool}
    (flag : bit ↔ enabled = true) (client server : Option A) :
    ((if enabled then client else none), (if enabled then server else none)) =
      if bit then (client, server) else (none, none) := by
  rw [if_congr flag rfl rfl]
  cases enabled <;> rfl

section Negotiation

variable {registry : VpnIdentityRegistry} {fingerprint : VpnCertificateFingerprint}
  {hello : VpnHello} {config : VpnServerNegotiationConfig} {generation : VpnSessionGeneration}
  {identity : VpnIdentity} {version : UInt16}

section Proposal

variable (generation : VpnSessionGeneration) (valid : hello.Valid)
  (authorized : registry.authorize fingerprint = .ok identity)
  (selected : selectVpnWireVersion hello.minWireVersion hello.maxWireVersion
    config.minWireVersion config.maxWireVersion = some version)
  (common : (ipv4Enabled hello identity || ipv6Enabled hello identity) = true)

include valid authorized selected common

/-- **The proposal passes its last check.** -/
theorem proposedAccept_valid :
    (proposedAccept registry identity hello config generation version).validate = .ok () := by
  obtain ⟨member, -, -⟩ := VpnIdentityRegistry.authorize_iff.mp authorized
  obtain ⟨apart4, apart6⟩ := registry.indexed.server identity member
  obtain ⟨server4, server6⟩ := registry.server_valid
  have policy := identity.dataPolicy.checked
  obtain ⟨canonical4, pair4⟩ := proposed_family
    (fun enabled => (ipv4Enabled_iff.mp enabled).2)
    apart4 policy.ipv4 server4
  obtain ⟨canonical6, pair6⟩ := proposed_family
    (fun enabled => (ipv6Enabled_iff.mp enabled).2)
    apart6 policy.ipv6 server6
  obtain ⟨⟨flag4, flag6⟩, capabilities⟩ :=
    negotiatedCapabilities_flags (ipv4Enabled hello identity) (ipv6Enabled hello identity)
  have configSizes := validateSizes_iff.mp (validate_iff.mp config.valid).sizes
  have helloSizes := validateSizes_iff.mp valid.sizes
  simp only [configProbe] at configSizes
  refine VpnAccept.validate_iff.mpr {
    version := (selectVpnWireVersion_some selected).1
    generation := generation.nonzero
    capabilities := capabilities common
    sizes := validateSizes_iff.mpr ?_
    canonical := ⟨canonical4.of_flag flag4, canonical6.of_flag flag6⟩
    ipv4 := pair4
    ipv6 := pair6 }
  simp only [proposedAccept, toNat_min]
  omega

/-- When a session is negotiated. -/
theorem negotiateVpnHello_succeeds :
    ∃ session, negotiateVpnHello registry fingerprint hello config generation = .ok session := by
  have passes := proposedAccept_valid generation valid authorized selected common
  refine ⟨⟨identity, fingerprint, _, passes⟩, ?_⟩
  have some_ : (!ipv4Enabled hello identity && !ipv6Enabled hello identity) = false := by
    rw [← Bool.not_or, common]
    rfl
  unfold negotiateVpnHello
  simp only [validate_iff.mpr valid, authorized, selected, some_, Bool.false_eq_true,
    if_false]
  split
  · rename_i failed
    rw [passes] at failed
    cases failed
  · rfl

end Proposal

/-- What a negotiated session is. -/
theorem negotiateVpnHello_ok {session : VpnNegotiatedSession}
    (negotiated : negotiateVpnHello registry fingerprint hello config generation = .ok session) :
    hello.Valid ∧ registry.authorize fingerprint = .ok session.identity ∧
      session.fingerprint = fingerprint ∧
      ∃ version, selectVpnWireVersion hello.minWireVersion hello.maxWireVersion
          config.minWireVersion config.maxWireVersion = some version ∧
        (ipv4Enabled hello session.identity || ipv6Enabled hello session.identity) = true ∧
        session.accept =
          proposedAccept registry session.identity hello config generation version := by
  unfold negotiateVpnHello at negotiated
  split at negotiated
  · cases negotiated
  rename_i valid
  split at negotiated
  · cases negotiated
  · cases negotiated
  rename_i identity authorized
  split at negotiated
  · cases negotiated
  rename_i version selected
  split at negotiated
  · cases negotiated
  rename_i common
  dsimp only at negotiated
  split at negotiated
  · cases negotiated
  · cases negotiated
    refine ⟨validate_iff.mp valid, authorized, rfl, version, selected, ?_, rfl⟩
    rwa [← Bool.not_or, Bool.not_eq_true', Bool.not_eq_false] at common

theorem negotiateVpnHello_error :
    (∃ rejection, negotiateVpnHello registry fingerprint hello config generation =
        .error rejection) ↔
      ∀ session, negotiateVpnHello registry fingerprint hello config generation ≠ .ok session := by
  cases negotiateVpnHello registry fingerprint hello config generation <;> simp

/-- The client takes the proposal. -/
theorem validateServerAccept_proposed (valid : hello.Valid)
    (selected : selectVpnWireVersion hello.minWireVersion hello.maxWireVersion
      config.minWireVersion config.maxWireVersion = some version)
    (passes : (proposedAccept registry identity hello config generation version).validate =
      .ok ()) :
    validateServerAccept hello (proposedAccept registry identity hello config generation version) =
      .ok () := by
  obtain ⟨-, common, -⟩ := selectVpnWireVersion_some selected
  have version_ := mem_commonVersions.mp common
  have offered := negotiatedCapabilities_offered valid identity
  unfold validateServerAccept
  rw [passes]
  refine if_neg ?_
  simp only [proposedAccept, offered, gt_iff_lt, UInt16.lt_iff_toNat_lt, toNat_min, ne_eq,
    not_true_eq_false, false_or]
  omega

end Negotiation

/-- **Negotiation agrees end to end.** A session's ACCEPT comes through the wire, the
client takes it, and it is the best both sides can do: the greatest common version,
the smaller sizes, and exactly the families that the HELLO and the identity share.
A REJECT has one of four reasons, and the last check of the proposal is none. -/
theorem negotiation_agrees (registry : VpnIdentityRegistry)
    (fingerprint : VpnCertificateFingerprint) (hello : VpnHello)
    (config : VpnServerNegotiationConfig) (generation : VpnSessionGeneration) :
    (∀ session, negotiateVpnHello registry fingerprint hello config generation = .ok session →
      (∃ bytes, encodeVpnControlMessage (.accept session.accept) = .ok bytes ∧
        decodeVpnControlMessage bytes = .ok (.accept session.accept)) ∧
      validateServerAccept hello session.accept = .ok () ∧
      IsGreatest (commonVersions hello config) session.accept.selectedWireVersion ∧
      session.accept.maxIpPacketLen = min hello.maxIpPacketLen config.maxIpPacketLen ∧
      session.accept.maxDatagramLen = min hello.maxDatagramLen config.maxDatagramLen ∧
      session.accept.sessionGeneration = generation.value ∧
      session.fingerprint = fingerprint ∧
      registry.authorize fingerprint = .ok session.identity ∧
      (session.accept.capabilities &&& vpnCapIpv4 ≠ 0 ↔
        hello.capabilities &&& vpnCapIpv4 ≠ 0 ∧ session.identity.clientIpv4.isSome) ∧
      (session.accept.capabilities &&& vpnCapIpv6 ≠ 0 ↔
        hello.capabilities &&& vpnCapIpv6 ≠ 0 ∧ session.identity.clientIpv6.isSome) ∧
      (session.accept.clientIpv4, session.accept.serverIpv4) =
        (if session.accept.capabilities &&& vpnCapIpv4 ≠ 0 then
          (session.identity.clientIpv4, registry.serverIpv4) else (none, none)) ∧
      (session.accept.clientIpv6, session.accept.serverIpv6) =
        (if session.accept.capabilities &&& vpnCapIpv6 ≠ 0 then
          (session.identity.clientIpv6, registry.serverIpv6) else (none, none))) ∧
    ((∃ rejection, negotiateVpnHello registry fingerprint hello config generation =
        .error rejection) ↔
      (∃ error, hello.validate = .error error) ∨
      (∃ error, registry.authorize fingerprint = .error error) ∨
      commonVersions hello config = ∅ ∨
      ∃ identity, registry.authorize fingerprint = .ok identity ∧
        ¬ (hello.capabilities &&& vpnCapIpv4 ≠ 0 ∧ identity.clientIpv4.isSome) ∧
        ¬ (hello.capabilities &&& vpnCapIpv6 ≠ 0 ∧ identity.clientIpv6.isSome)) ∧
    ∀ identity version, hello.validate = .ok () → registry.authorize fingerprint = .ok identity →
      selectVpnWireVersion hello.minWireVersion hello.maxWireVersion config.minWireVersion
        config.maxWireVersion = some version →
      (ipv4Enabled hello identity || ipv6Enabled hello identity) = true →
      (proposedAccept registry identity hello config generation version).validate = .ok () := by
  refine ⟨?_, ?_, fun identity version valid authorized selected common =>
    proposedAccept_valid generation (validate_iff.mp valid) authorized selected common⟩
  · rintro ⟨identity, ofPeer, accept, passes⟩ negotiated
    obtain ⟨valid, authorized, sameFingerprint, version, selected, -, same⟩ :=
      negotiateVpnHello_ok negotiated
    dsimp only at authorized sameFingerprint same ⊢
    subst same
    obtain ⟨⟨flag4, flag6⟩, -⟩ :=
      negotiatedCapabilities_flags (ipv4Enabled hello identity) (ipv6Enabled hello identity)
    obtain ⟨bytes, encodes⟩ : ∃ bytes, Encodes (.accept
      (proposedAccept registry identity hello config generation version)) bytes :=
        ⟨_, passes, rfl⟩
    exact ⟨⟨bytes, encodeVpnControlMessage_iff.mpr encodes,
      decodeVpnControlMessage_iff.mpr encodes⟩,
      validateServerAccept_proposed valid selected passes, (selectVpnWireVersion_some selected).2,
      rfl, rfl, rfl, sameFingerprint, authorized, flag4.trans ipv4Enabled_iff,
      flag6.trans ipv6Enabled_iff, proposed_pair flag4 _ _, proposed_pair flag6 _ _⟩
  · rw [negotiateVpnHello_error]
    constructor
    · intro refused
      cases validated : hello.validate with
      | error error => exact .inl ⟨error, rfl⟩
      | ok _ =>
        right
        cases authorized : registry.authorize fingerprint with
        | error error => exact .inl ⟨error, rfl⟩
        | ok identity =>
          right
          have valid := validate_iff.mp validated
          cases selected : selectVpnWireVersion hello.minWireVersion hello.maxWireVersion
              config.minWireVersion config.maxWireVersion with
          | none => exact .inl (selectVpnWireVersion_none valid selected)
          | some version =>
            right
            have nothing :
                ¬ (ipv4Enabled hello identity || ipv6Enabled hello identity) = true := by
              intro common
              obtain ⟨session, negotiated⟩ :=
                negotiateVpnHello_succeeds generation valid authorized selected common
              exact refused session negotiated
            rw [Bool.or_eq_true, not_or, ipv4Enabled_iff, ipv6Enabled_iff] at nothing
            exact ⟨identity, rfl, nothing.1, nothing.2⟩
    · intro reason session negotiated
      obtain ⟨valid, authorized, -, version, selected, common, -⟩ := negotiateVpnHello_ok negotiated
      rcases reason with ⟨error, invalid⟩ | ⟨error, unknown⟩ | disjoint_
        | ⟨identity, known, no4, no6⟩
      · rw [validate_iff.mpr valid] at invalid
        cases invalid
      · rw [authorized] at unknown
        cases unknown
      · exact (Set.eq_empty_iff_forall_notMem.mp disjoint_) version
          (selectVpnWireVersion_some selected).2.1
      · rw [authorized] at known
        cases known
        simp only [Bool.or_eq_true, ipv4Enabled_iff, ipv6Enabled_iff] at common
        exact common.elim no4 no6

/-! A registry with one identity of both families, and a client that asks for IPv4. -/

def exampleFingerprint : VpnCertificateFingerprint := ⟨Vector.replicate 32 7⟩

def exampleIdentity : VpnIdentity where
  clientId := "client-a"
  fingerprints := [exampleFingerprint]
  enabled := true
  dataPolicy := {
    clientIpv4 := some ⟨0x0a420002⟩
    clientIpv6 := some ⟨0xfd000000000000000000000000000002⟩
    allowedDestinations := [.exampleAnyV4, .V6 ⟨0⟩ 0 (by decide) rfl]
    valid := by decide }
  limits := .default
  valid := by decide

def exampleRegistry : VpnIdentityRegistry where
  serverIpv4 := some ⟨0x0a420001⟩
  serverIpv6 := some ⟨0xfd000000000000000000000000000001⟩
  identities := [exampleIdentity]
  index := ⟨AList.insert "client-a" 0 ∅, AList.insert exampleFingerprint 0 ∅, [⟨0x0a420002⟩],
    [⟨0xfd000000000000000000000000000002⟩]⟩
  built := rfl

def exampleConfig : VpnServerNegotiationConfig := ⟨1, 1, 65535, 1200, by decide⟩

def exampleHello : VpnHello := ⟨1, 1, vpnRequiredCapabilities ||| vpnCapIpv4, 1500, 1400⟩

def exampleAccept : VpnAccept where
  selectedWireVersion := 1
  capabilities := vpnRequiredCapabilities ||| vpnCapIpv4
  maxIpPacketLen := 1500
  maxDatagramLen := 1200
  sessionGeneration := 9
  clientIpv4 := some ⟨0x0a420002⟩
  serverIpv4 := some ⟨0x0a420001⟩
  clientIpv6 := none
  serverIpv6 := none

def exampleSession : VpnNegotiatedSession :=
  ⟨exampleIdentity, exampleFingerprint, exampleAccept, by decide⟩

theorem negotiation_agrees_example :
    negotiateVpnHello exampleRegistry exampleFingerprint exampleHello exampleConfig
        ⟨9, by decide⟩ = .ok exampleSession ∧
      validateServerAccept exampleHello exampleAccept = .ok () := by
  have negotiated : negotiateVpnHello exampleRegistry exampleFingerprint exampleHello exampleConfig
      ⟨9, by decide⟩ = .ok exampleSession := rfl
  exact ⟨negotiated, ((negotiation_agrees _ _ _ _ _).1 exampleSession negotiated).2.1⟩

end FlowWeave.Vpn
