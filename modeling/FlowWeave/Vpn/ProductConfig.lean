/-
# Vpn.ProductConfig — the configs of the products (`src/vpn_product_config.rs`)

The two config files after `serde_json` has read them, and the checks that make a config
of them. What `std` and the TLS crate read from a text enters through `ConfigTexts`.

* `ServerParsed`, `parseVpnServerProductConfig_ok` — what an accepted server config has;
* `ClientParsed`, `parseVpnClientProductConfig_ok` — the same for a client config.
-/
import FlowWeave.Vpn.ForwardingState
import FlowWeave.Vpn.Quota
import FlowWeave.Vpn.Session

namespace FlowWeave.Vpn

open Theory.Checks

set_option autoImplicit false

def vpnProductConfigVersion : UInt16 := 1

def vpnProductMaxExplicitPaths : Nat := 8

/-- The errors of the parsers; those of the file and of its JSON come before. -/
inductive VpnProductConfigError where
  | unsupportedConfigVersion
  | invalidListen
  | invalidServer
  | invalidServerName
  | invalidPath
  | invalidTunName
  | invalidTunMtu
  | invalidDatagramLength
  | missingAddressFamily
  | invalidTunnelAddress
  | incompleteTunnelAddressPair
  | tunnelAddressConflict
  | invalidLocalIp
  | tooManyLocalIps
  | duplicateLocalIp
  | mixedLocalIpFamily
  | invalidDestinationNetwork
  | destinationNetwork (error : VpnIdentityError)
  | duplicateDestinationNetwork
  | destinationFamilyDisabled
  | limits (error : VpnIdentityError)
  | invalidGlobalReassemblyBytes
  | invalidGlobalInflightPackets
  | globalReassemblyBelowIdentityLimit
  deriving DecidableEq, Repr

/-- What `parse`, `ServerName::try_from` and the methods of `Path` and `str` say of a
text. -/
structure ConfigTexts where
  socketAddr : String → Option (IpAddr × UInt16)
  ipAddr : String → Option IpAddr
  ipv4 : String → Option Ipv4Addr
  ipv6 : String → Option Ipv6Addr
  u8 : String → Option UInt8
  u16 : String → Option UInt16
  serverName : String → Bool
  trimmed : String → Bool
  hasFileName : String → Bool
  hasParentDir : String → Bool
  isAbsolute : String → Bool
  join : String → String → String

/-! ## The files -/

structure RawServerConfig where
  configVersion : UInt16
  listen : String
  certificateDer : String
  privateKeyDer : String
  clientCaDer : String
  identityFile : String
  tunName : String
  tunMtu : UInt16
  maxDatagramLen : UInt16
  globalReassemblyBytes : Nat
  globalInflightPackets : Nat
  forwarding : Option VpnServerForwardingConfig

structure RawClientLimits where
  maxPacketsPerSecond : UInt32
  maxBytesPerSecond : UInt64
  maxReassemblyBytes : Nat

structure RawClientConfig where
  configVersion : UInt16
  server : String
  serverName : String
  serverCaDer : String
  certificateDer : String
  privateKeyDer : String
  tunName : String
  tunMtu : UInt16
  maxDatagramLen : UInt16
  expectedClientIpv4 : Option String
  expectedServerIpv4 : Option String
  expectedClientIpv6 : Option String
  expectedServerIpv6 : Option String
  allowedDestinations : List String
  limits : RawClientLimits
  globalReassemblyBytes : Nat
  globalInflightPackets : Nat
  primaryLocalIp : Option String
  additionalLocalIps : List String

/-! ## The configs -/

structure VpnServerProductConfig where
  listen : IpAddr × UInt16
  certificateDer : String
  privateKeyDer : String
  clientCaDer : String
  identityFile : String
  tunName : String
  tunMtu : UInt16
  maxDatagramLen : UInt16
  globalReassemblyBytes : Nat
  globalInflightPackets : Nat
  forwarding : Option VpnServerForwardingConfig

structure VpnClientProductConfig where
  server : String
  serverName : String
  serverCaDer : String
  certificateDer : String
  privateKeyDer : String
  tunName : String
  tunMtu : UInt16
  maxDatagramLen : UInt16
  expectedClientIpv4 : Option Ipv4Addr
  expectedServerIpv4 : Option Ipv4Addr
  expectedClientIpv6 : Option Ipv6Addr
  expectedServerIpv6 : Option Ipv6Addr
  allowedDestinations : List VpnIpNetwork
  limits : VpnIdentityLimits
  globalReassemblyBytes : Nat
  globalInflightPackets : Nat
  primaryLocalIp : Option IpAddr
  additionalLocalIps : List IpAddr

namespace VpnClientProductConfig

def requestIpv4 (config : VpnClientProductConfig) : Bool := config.expectedClientIpv4.isSome

def requestIpv6 (config : VpnClientProductConfig) : Bool := config.expectedClientIpv6.isSome

end VpnClientProductConfig

/-! ## Checks that both configs make -/

def validateVersion (version : UInt16) : Except VpnProductConfigError Unit :=
  refuseIf (version ≠ vpnProductConfigVersion) .unsupportedConfigVersion

def checkTunName (name : String) : Except VpnProductConfigError Unit :=
  refuseIf (validateVpnTunName name = false) .invalidTunName

def validatePacketSizes (tunMtu maxDatagramLen : UInt16) : Except VpnProductConfigError Unit := do
  refuseIf (validateVpnTunMtu tunMtu = false) .invalidTunMtu
  refuseIf (maxDatagramLen.toNat < vpnMinQuicDatagramLen) .invalidDatagramLength

def validateGlobalLimits (bytes packets : Nat) : Except VpnProductConfigError Unit := do
  refuseIf (¬ (vpnMaxIpPacketLen ≤ bytes ∧ bytes ≤ vpnMaxGlobalReassemblyBytes))
    .invalidGlobalReassemblyBytes
  refuseIf (packets = 0 ∨ packets > vpnMaxGlobalInflightPackets) .invalidGlobalInflightPackets

section

variable (texts : ConfigTexts)

def resolveConfigPath (base value : String) : Except VpnProductConfigError String := do
  refuseIf (value.isEmpty ∨ texts.trimmed value = false ∨ '\x00' ∈ value.toList) .invalidPath
  refuseIf (texts.hasFileName value = false ∨ texts.hasParentDir value = true) .invalidPath
  .ok (if texts.isAbsolute value then value else texts.join base value)

def IpAddr.isMulticast : IpAddr → Bool
  | .v4 address => address.isMulticast
  | .v6 address => address.isMulticast

def IpAddr.isUnspecified : IpAddr → Bool
  | .v4 address => address.isUnspecified
  | .v6 address => address.isUnspecified

def validListenIp (address : IpAddr) : Bool :=
  !address.isMulticast && !decide (address = .v4 .broadcast)

def validRemoteIp (address : IpAddr) : Bool := !address.isUnspecified && validListenIp address

/-! ## The server's config -/

/-- `parse_vpn_server_product_config_json`, after the JSON. -/
def parseVpnServerProductConfig (raw : RawServerConfig) (base : String) :
    Except VpnProductConfigError VpnServerProductConfig := do
  validateVersion raw.configVersion
  let listen ← okOr .invalidListen ((texts.socketAddr raw.listen).filter fun address =>
    decide (address.2 ≠ 0) && validListenIp address.1)
  checkTunName raw.tunName
  validatePacketSizes raw.tunMtu raw.maxDatagramLen
  validateGlobalLimits raw.globalReassemblyBytes raw.globalInflightPackets
  let certificateDer ← resolveConfigPath texts base raw.certificateDer
  let privateKeyDer ← resolveConfigPath texts base raw.privateKeyDer
  let clientCaDer ← resolveConfigPath texts base raw.clientCaDer
  let identityFile ← resolveConfigPath texts base raw.identityFile
  .ok {
    listen, certificateDer, privateKeyDer, clientCaDer, identityFile
    tunName := raw.tunName
    tunMtu := raw.tunMtu
    maxDatagramLen := raw.maxDatagramLen
    globalReassemblyBytes := raw.globalReassemblyBytes
    globalInflightPackets := raw.globalInflightPackets
    forwarding := raw.forwarding }

/-! ## The client's config -/

/-- `rsplit_once` on the characters of a text. -/
def rsplitOnce (separator : Char) (text : List Char) : Option (List Char × List Char) :=
  if separator ∈ text then
    let back := text.reverse.takeWhile (· ≠ separator)
    some (text.take (text.length - back.length - 1), back.reverse)
  else none

/-- `split_once` on the characters of a text. -/
def splitOnce (separator : Char) (text : List Char) : Option (List Char × List Char) :=
  if separator ∈ text then
    let front := text.takeWhile (· ≠ separator)
    some (front, text.drop (front.length + 1))
  else none

example : rsplitOnce ':' "a:b:1".toList = some ("a:b".toList, "1".toList) ∧
    splitOnce '/' "a/b/1".toList = some ("a".toList, "b/1".toList) := by decide

def isAsciiWhitespace (char : Char) : Bool :=
  char = ' ' || char = '\t' || char = '\n' || char = '\x0c' || char = '\r'

def hostChar (char : Char) : Bool :=
  ('0' ≤ char && char ≤ '9') || ('A' ≤ char && char ≤ 'Z') || ('a' ≤ char && char ≤ 'z') ||
    char = '-' || char = '.'

def validateServerEndpoint (value : String) : Except VpnProductConfigError Unit := do
  refuseIf (value.isEmpty ∨ value.utf8ByteSize > 512 ∨ value.toList.any isAsciiWhitespace = true)
    .invalidServer
  match texts.socketAddr value with
  | some address => refuseIf (¬ (address.2 ≠ 0 ∧ validRemoteIp address.1 = true)) .invalidServer
  | none =>
    match rsplitOnce ':' value.toList with
    | none => .error .invalidServer
    | some (host, port) =>
      refuseIf (host = [] ∨ ':' ∈ host ∨ host.all hostChar = false ∨
        texts.serverName (String.ofList host) = false ∨
        (texts.u16 (String.ofList port)).all (· = 0) = true) .invalidServer

/-- `parse_expected_ipv4_pair` and `parse_expected_ipv6_pair`. -/
def parseExpectedPair {A : Type} [DecidableEq A] (parse : String → Option A) (valid : A → Bool) :
    Option String → Option String → Except VpnProductConfigError (Option A × Option A)
  | none, none => .ok (none, none)
  | some _, none => .error .incompleteTunnelAddressPair
  | none, some _ => .error .incompleteTunnelAddressPair
  | some client, some server => do
    let client ← okOr .invalidTunnelAddress (parse client)
    let server ← okOr .invalidTunnelAddress (parse server)
    refuseIf (valid client = false ∨ valid server = false) .invalidTunnelAddress
    refuseIf (client = server) .tunnelAddressConflict
    .ok (some client, some server)

def parseExpectedIpv4Pair :=
  parseExpectedPair texts.ipv4 validIpv4TunnelAddress

def parseExpectedIpv6Pair :=
  parseExpectedPair texts.ipv6 validIpv6TunnelAddress

def parseDestinationNetwork (value : String) : Except VpnProductConfigError VpnIpNetwork := do
  let (address, width) ← okOr .invalidDestinationNetwork
    ((splitOnce '/' value.toList).filter fun parts => !parts.2.contains '/')
  let width ← okOr .invalidDestinationNetwork (texts.u8 (String.ofList width))
  match texts.ipv4 (String.ofList address) with
  | some address => (VpnIpNetwork.v4 address width.toNat).mapError .destinationNetwork
  | none =>
    match texts.ipv6 (String.ofList address) with
    | some address => (VpnIpNetwork.v6 address width.toNat).mapError .destinationNetwork
    | none => .error .invalidDestinationNetwork

/-- The loop of `parse_destination_networks`; `unique` holds what `networks` has. -/
def parseDestinationNetworksFrom (requestIpv4 requestIpv6 : Bool) :
    List VpnIpNetwork → List String → Except VpnProductConfigError (List VpnIpNetwork)
  | networks, [] => .ok networks
  | networks, value :: values => do
    let network ← parseDestinationNetwork texts value
    refuseIf (network ∈ networks) .duplicateDestinationNetwork
    refuseIf (network.family = .ipv4 ∧ requestIpv4 = false ∨
      network.family = .ipv6 ∧ requestIpv6 = false) .destinationFamilyDisabled
    parseDestinationNetworksFrom requestIpv4 requestIpv6 (networks ++ [network]) values

def parseDestinationNetworks (values : List String) (requestIpv4 requestIpv6 : Bool) :
    Except VpnProductConfigError (List VpnIpNetwork) := do
  refuseIf (values.length > vpnMaxDestinationNetworksPerIdentity)
    (.destinationNetwork .tooManyDestinationNetworks)
  parseDestinationNetworksFrom texts requestIpv4 requestIpv6 [] values

def IpAddr.invalidLocal : IpAddr → Bool
  | .v4 address => address.isUnspecified || address.isMulticast || address.isLinkLocal ||
      decide (address = .broadcast)
  | .v6 address => address.isUnspecified || address.isMulticast || address.isUnicastLinkLocal

def parseLocalIp (value : String) : Except VpnProductConfigError IpAddr := do
  let address ← okOr .invalidLocalIp (texts.ipAddr value)
  refuseIf (address.invalidLocal = true) .invalidLocalIp
  .ok address

def parsePrimaryLocalIp : Option String → Except VpnProductConfigError (Option IpAddr)
  | none => .ok none
  | some value => some <$> parseLocalIp texts value

def parseLocalIps : List String → Except VpnProductConfigError (List IpAddr)
  | [] => .ok []
  | value :: values => do
    let address ← parseLocalIp texts value
    let addresses ← parseLocalIps values
    .ok (address :: addresses)

/-- The loop of `validate_local_ips`, with the addresses it has seen. -/
def validateLocalIpsFrom (family : Option AddressFamily) :
    List IpAddr → List IpAddr → Except VpnProductConfigError Unit
  | _, [] => .ok ()
  | unique, address :: additional => do
    refuseIf (address ∈ unique) .duplicateLocalIp
    refuseIf (family.any (· ≠ address.family) = true) .mixedLocalIpFamily
    validateLocalIpsFrom family (address :: unique) additional

def validateLocalIps (primary : Option IpAddr) (additional : List IpAddr) :
    Except VpnProductConfigError Unit := do
  refuseIf (additional.length + primary.toList.length > vpnProductMaxExplicitPaths)
    .tooManyLocalIps
  validateLocalIpsFrom ((primary.or additional.head?).map IpAddr.family) primary.toList additional

/-- `parse_vpn_client_product_config_json`, after the JSON. -/
def parseVpnClientProductConfig (raw : RawClientConfig) (base : String) :
    Except VpnProductConfigError VpnClientProductConfig := do
  validateVersion raw.configVersion
  validateServerEndpoint texts raw.server
  refuseIf (texts.serverName raw.serverName = false) .invalidServerName
  refuseIf ((texts.ipAddr raw.serverName).any (!validRemoteIp ·) = true) .invalidServerName
  let (expectedClientIpv4, expectedServerIpv4) ←
    parseExpectedIpv4Pair texts raw.expectedClientIpv4 raw.expectedServerIpv4
  let (expectedClientIpv6, expectedServerIpv6) ←
    parseExpectedIpv6Pair texts raw.expectedClientIpv6 raw.expectedServerIpv6
  refuseIf (expectedClientIpv4.isSome = false ∧ expectedClientIpv6.isSome = false)
    .missingAddressFamily
  checkTunName raw.tunName
  validatePacketSizes raw.tunMtu raw.maxDatagramLen
  validateGlobalLimits raw.globalReassemblyBytes raw.globalInflightPackets
  let allowedDestinations ← parseDestinationNetworks texts raw.allowedDestinations
    expectedClientIpv4.isSome expectedClientIpv6.isSome
  let limits ← (VpnIdentityLimits.new 1 raw.limits.maxPacketsPerSecond.toNat
    raw.limits.maxBytesPerSecond.toNat raw.limits.maxReassemblyBytes).mapError .limits
  refuseIf (raw.globalReassemblyBytes < limits.maxReassemblyBytes)
    .globalReassemblyBelowIdentityLimit
  let primaryLocalIp ← parsePrimaryLocalIp texts raw.primaryLocalIp
  let additionalLocalIps ← parseLocalIps texts raw.additionalLocalIps
  validateLocalIps primaryLocalIp additionalLocalIps
  let serverCaDer ← resolveConfigPath texts base raw.serverCaDer
  let certificateDer ← resolveConfigPath texts base raw.certificateDer
  let privateKeyDer ← resolveConfigPath texts base raw.privateKeyDer
  .ok {
    server := raw.server
    serverName := raw.serverName
    serverCaDer, certificateDer, privateKeyDer
    tunName := raw.tunName
    tunMtu := raw.tunMtu
    maxDatagramLen := raw.maxDatagramLen
    expectedClientIpv4, expectedServerIpv4, expectedClientIpv6, expectedServerIpv6
    allowedDestinations, limits
    globalReassemblyBytes := raw.globalReassemblyBytes
    globalInflightPackets := raw.globalInflightPackets
    primaryLocalIp, additionalLocalIps }

end

/-! ## What an accepted config has -/

theorem validatePacketSizes_ok {tunMtu maxDatagramLen : UInt16} {value : Unit}
    (accepted : validatePacketSizes tunMtu maxDatagramLen = .ok value) :
    validateSizes tunMtu maxDatagramLen = .ok () := by
  simp only [validatePacketSizes, bind_eq_ok, refuseIf_eq_ok, Bool.not_eq_false, not_lt] at accepted
  obtain ⟨-, mtu, wide⟩ := accepted
  simp only [validateVpnTunMtu, Bool.and_eq_true, decide_eq_true_eq] at mtu
  exact validateSizes_iff.mpr ⟨mtu.1, mtu.2, wide⟩

theorem validateGlobalLimits_ok {bytes packets : Nat} {value : Unit}
    (accepted : validateGlobalLimits bytes packets = .ok value) :
    (vpnMaxIpPacketLen ≤ bytes ∧ bytes ≤ vpnMaxGlobalReassemblyBytes) ∧
      packets ≠ 0 ∧ packets ≤ vpnMaxGlobalInflightPackets := by
  simp only [validateGlobalLimits, bind_eq_ok, refuseIf_eq_ok, not_not, not_or, gt_iff_lt,
    not_lt] at accepted
  obtain ⟨-, bytesFit, packetsFit⟩ := accepted
  exact ⟨bytesFit, packetsFit⟩

/-- The sizes and limits of an accepted config of either product. -/
structure SizesParsed (tunMtu maxDatagramLen : UInt16) (bytes packets : Nat) : Prop where
  sizes : validateSizes tunMtu maxDatagramLen = .ok ()
  bytes : vpnMaxIpPacketLen ≤ bytes ∧ bytes ≤ vpnMaxGlobalReassemblyBytes
  packets : packets ≠ 0 ∧ packets ≤ vpnMaxGlobalInflightPackets

structure ServerParsed (config : VpnServerProductConfig) : Prop where
  tunName : validateVpnTunName config.tunName = true
  sizes : SizesParsed config.tunMtu config.maxDatagramLen config.globalReassemblyBytes
    config.globalInflightPackets

theorem parseVpnServerProductConfig_ok {texts : ConfigTexts} {raw : RawServerConfig}
    {base : String} {config : VpnServerProductConfig}
    (parsed : parseVpnServerProductConfig texts raw base = .ok config) : ServerParsed config := by
  simp only [parseVpnServerProductConfig, bind_eq_ok] at parsed
  obtain ⟨-, -, listen, -, _, name, _, sizes, _, limits, _, -, _, -, _, -, _, -, same⟩ := parsed
  cases same
  obtain ⟨bytes, packets⟩ := validateGlobalLimits_ok limits
  exact ⟨by simpa [checkTunName, refuseIf_eq_ok] using name,
    validatePacketSizes_ok sizes, bytes, packets⟩

/-- An accepted pair of addresses is absent, or two different valid ones. -/
theorem parseExpectedPair_ok {A : Type} [DecidableEq A] {parse : String → Option A}
    {valid : A → Bool} {client server : Option String} {expected : Option A × Option A}
    (parsed : parseExpectedPair parse valid client server = .ok expected) :
    expected = (none, none) ∨ ∃ own peer, expected = (some own, some peer) ∧
      valid own = true ∧ valid peer = true ∧ own ≠ peer := by
  cases client with
  | none =>
    cases server with
    | none =>
      cases parsed
      exact .inl rfl
    | some server => cases parsed
  | some client =>
    cases server with
    | none => cases parsed
    | some server =>
      simp only [parseExpectedPair, bind_eq_ok, okOr_eq_ok, refuseIf_eq_ok, not_or,
        Bool.not_eq_false] at parsed
      obtain ⟨own, -, peer, -, -, ⟨ownValid, peerValid⟩, -, different, same⟩ := parsed
      cases same
      exact .inr ⟨own, peer, rfl, ownValid, peerValid, different⟩

/-- The networks that the loop adds are new ones, of the families that are there. -/
theorem parseDestinationNetworksFrom_ok {texts : ConfigTexts} {requestIpv4 requestIpv6 : Bool}
    (values : List String) :
    ∀ {networks result : List VpnIpNetwork}, networks.Nodup →
      (∀ network ∈ networks, match network.family with
        | .ipv4 => requestIpv4 = true
        | .ipv6 => requestIpv6 = true) →
      parseDestinationNetworksFrom texts requestIpv4 requestIpv6 networks values = .ok result →
      result.Nodup ∧ result.length = networks.length + values.length ∧
        ∀ network ∈ result, match network.family with
          | .ipv4 => requestIpv4 = true
          | .ipv6 => requestIpv6 = true := by
  induction values with
  | nil =>
    intro networks result distinct available parsed
    cases parsed
    exact ⟨distinct, rfl, available⟩
  | cons value values ih =>
    intro networks result distinct available parsed
    simp only [parseDestinationNetworksFrom, bind_eq_ok, refuseIf_eq_ok] at parsed
    obtain ⟨network, -, -, fresh, -, served, rest⟩ := parsed
    have more : ∀ other ∈ networks ++ [network], match other.family with
        | .ipv4 => requestIpv4 = true
        | .ipv6 => requestIpv6 = true := by
      intro other member
      rcases List.mem_append.mp member with old | new
      · exact available other old
      · obtain rfl := List.mem_singleton.mp new
        cases family : other.family <;> simpa [family] using served
    obtain ⟨resultDistinct, length, resultAvailable⟩ :=
      ih (List.nodup_append.mpr ⟨distinct, by simp, by grind⟩) more rest
    exact ⟨resultDistinct, by simp at length ⊢; omega, resultAvailable⟩

structure ClientParsed (config : VpnClientProductConfig) : Prop where
  sizes : SizesParsed config.tunMtu config.maxDatagramLen config.globalReassemblyBytes
    config.globalInflightPackets
  ipv4 : (config.expectedClientIpv4, config.expectedServerIpv4) = (none, none) ∨
    ∃ own peer, (config.expectedClientIpv4, config.expectedServerIpv4) = (some own, some peer) ∧
      validIpv4TunnelAddress own = true ∧ validIpv4TunnelAddress peer = true ∧ own ≠ peer
  ipv6 : (config.expectedClientIpv6, config.expectedServerIpv6) = (none, none) ∨
    ∃ own peer, (config.expectedClientIpv6, config.expectedServerIpv6) = (some own, some peer) ∧
      validIpv6TunnelAddress own = true ∧ validIpv6TunnelAddress peer = true ∧ own ≠ peer
  family : config.requestIpv4 = true ∨ config.requestIpv6 = true
  destinations : config.allowedDestinations.Nodup ∧
    config.allowedDestinations.length ≤ vpnMaxDestinationNetworksPerIdentity
  paths : config.additionalLocalIps.length ≤ vpnProductMaxExplicitPaths
  served : ∀ network ∈ config.allowedDestinations, match network.family with
    | .ipv4 => config.requestIpv4 = true
    | .ipv6 => config.requestIpv6 = true

theorem parseVpnClientProductConfig_ok {texts : ConfigTexts} {raw : RawClientConfig}
    {base : String} {config : VpnClientProductConfig}
    (parsed : parseVpnClientProductConfig texts raw base = .ok config) : ClientParsed config := by
  simp only [parseVpnClientProductConfig, bind_eq_ok, refuseIf_eq_ok] at parsed
  obtain ⟨-, -, -, -, -, -, -, -, ⟨client4, server4⟩, pair4, ⟨client6, server6⟩, pair6, _, family,
    -, -, _, sizes, _, limits, destinations, networks, _, -, -, -, _, -, _, -, _, paths, _, -, _, -,
    _, -, same⟩ := parsed
  cases same
  obtain ⟨bytes, packets⟩ := validateGlobalLimits_ok limits
  simp only [parseDestinationNetworks, bind_eq_ok, refuseIf_eq_ok, gt_iff_lt, not_lt] at networks
  obtain ⟨-, few, loop⟩ := networks
  obtain ⟨distinct, length, served⟩ := parseDestinationNetworksFrom_ok raw.allowedDestinations
    List.nodup_nil (by simp) loop
  simp only [validateLocalIps, bind_eq_ok, refuseIf_eq_ok, gt_iff_lt, not_lt] at paths
  have short : destinations.length ≤ vpnMaxDestinationNetworksPerIdentity := by
    simpa [length] using few
  exact {
    sizes := ⟨validatePacketSizes_ok sizes, bytes, packets⟩
    ipv4 := parseExpectedPair_ok pair4
    ipv6 := parseExpectedPair_ok pair6
    family := by
      simp only [VpnClientProductConfig.requestIpv4, VpnClientProductConfig.requestIpv6]
      simpa only [not_and_or, Bool.not_eq_false] using family
    destinations := ⟨distinct, short⟩
    paths := le_trans (Nat.le_add_right _ _) paths.choose_spec.1
    served := served }

end FlowWeave.Vpn
