/-
# Vpn.Identity — who may connect, and as whom (`src/vpn_identity.rs`)

Networks, data policies, limits and identities are values that passed their
checks: each structure has the check as a field, and its `new` is the only way to
make one. An invalid policy or a registry with two owners of one address does not
exist.

`VpnIdentityRegistry.new` builds its two indexes in one pass over the identities.
The pass is `indexIdentities`; `Vpn.Registry` proves what its success means.
-/
import FlowWeave.Vpn.Control
import FlowWeave.Vpn.Reassembler

namespace FlowWeave.Vpn

open Theory

set_option autoImplicit false

/-! ## Constants and errors -/

def vpnSha256FingerprintLen : Nat := 32

def vpnMaxIdentities : Nat := 4096

def vpnMaxClientIdLen : Nat := 64

def vpnMaxFingerprintsPerIdentity : Nat := 2

def vpnMaxDestinationNetworksPerIdentity : Nat := 256

def vpnMaxConnectionsPerIdentity : Nat := 1

def vpnMaxPacketsPerSecond : Nat := 1000000

def vpnMaxBytesPerSecond : Nat := 4 * 1024 * 1024 * 1024

inductive VpnIdentityError where
  | invalidFingerprintHex
  | invalidClientId
  | missingFingerprint
  | tooManyFingerprints
  | tooManyIdentities
  | tooManyDestinationNetworks
  | missingClientAddress
  | invalidClientAddress
  | missingServerAddress
  | invalidServerAddress
  | addressFamilyUnavailable
  | clientServerAddressConflict
  | duplicateClientId
  | duplicateFingerprint
  | duplicateClientAddress
  | duplicateDestinationNetwork
  | invalidLimits
  | invalidNetworkPrefix
  | nonCanonicalNetwork
  deriving DecidableEq, Repr

structure VpnCertificateFingerprint where
  bytes : Vector UInt8 vpnSha256FingerprintLen
  deriving DecidableEq

/-! ## Networks -/

def prefixMaskV4 (prefixLen : Nat) : BitVec 32 :=
  if prefixLen = 0 then 0 else BitVec.allOnes 32 <<< (32 - prefixLen)

def prefixMaskV6 (prefixLen : Nat) : BitVec 128 :=
  if prefixLen = 0 then 0 else BitVec.allOnes 128 <<< (128 - prefixLen)

/-- A network with no bit set past its prefix length. -/
inductive VpnIpNetwork where
  | V4 (network : Ipv4Addr) (prefixLen : Nat) (short : prefixLen ≤ 32)
      (canonical : network.bits &&& prefixMaskV4 prefixLen = network.bits)
  | V6 (network : Ipv6Addr) (prefixLen : Nat) (short : prefixLen ≤ 128)
      (canonical : network.bits &&& prefixMaskV6 prefixLen = network.bits)
  deriving DecidableEq

namespace VpnIpNetwork

/-- `VpnIpNetwork::v4`. -/
def v4 (network : Ipv4Addr) (prefixLen : Nat) : Except VpnIdentityError VpnIpNetwork :=
  if short : prefixLen ≤ 32 then
    if canonical : network.bits &&& prefixMaskV4 prefixLen = network.bits then
      .ok (.V4 network prefixLen short canonical)
    else .error .nonCanonicalNetwork
  else .error .invalidNetworkPrefix

/-- `VpnIpNetwork::v6`. -/
def v6 (network : Ipv6Addr) (prefixLen : Nat) : Except VpnIdentityError VpnIpNetwork :=
  if short : prefixLen ≤ 128 then
    if canonical : network.bits &&& prefixMaskV6 prefixLen = network.bits then
      .ok (.V6 network prefixLen short canonical)
    else .error .nonCanonicalNetwork
  else .error .invalidNetworkPrefix

def contains : VpnIpNetwork → IpAddr → Bool
  | .V4 network prefixLen _ _, .v4 address => address.bits &&& prefixMaskV4 prefixLen = network.bits
  | .V6 network prefixLen _ _, .v6 address => address.bits &&& prefixMaskV6 prefixLen = network.bits
  | _, _ => false

def family : VpnIpNetwork → AddressFamily
  | .V4 .. => .ipv4
  | .V6 .. => .ipv6

/-- The network's own address. -/
def base : VpnIpNetwork → IpAddr
  | .V4 network .. => .v4 network
  | .V6 network .. => .v6 network

/-- `0.0.0.0/0`. -/
def exampleAnyV4 : VpnIpNetwork := .V4 ⟨0⟩ 0 (by decide) rfl

theorem contains_family {network : VpnIpNetwork} {address : IpAddr}
    (inside : network.contains address = true) : address.family = network.family := by
  cases network <;> cases address <;> first | rfl | cases inside

theorem contains_base (network : VpnIpNetwork) : network.contains network.base = true := by
  cases network <;> simpa [contains, base]

@[simp] theorem base_family (network : VpnIpNetwork) : network.base.family = network.family := by
  cases network <;> rfl

end VpnIpNetwork

/-! ## Data policies -/

/-- The checks of `VpnDataPolicy::new`. -/
def validateDataPolicy (clientIpv4 : Option Ipv4Addr) (clientIpv6 : Option Ipv6Addr)
    (allowedDestinations : List VpnIpNetwork) : Except VpnIdentityError Unit :=
  if clientIpv4.isNone ∧ clientIpv6.isNone then .error .missingClientAddress
  else if (clientIpv4.any fun address => !validIpv4TunnelAddress address) ∨
      (clientIpv6.any fun address => !validIpv6TunnelAddress address) then
    .error .invalidClientAddress
  else if allowedDestinations.length > vpnMaxDestinationNetworksPerIdentity then
    .error .tooManyDestinationNetworks
  else if ¬ allowedDestinations.Nodup then .error .duplicateDestinationNetwork
  else if (allowedDestinations.any fun network =>
      match network with
      | .V4 .. => clientIpv4.isNone
      | .V6 .. => clientIpv6.isNone) then
    .error .addressFamilyUnavailable
  else .ok ()

structure VpnDataPolicy where
  clientIpv4 : Option Ipv4Addr
  clientIpv6 : Option Ipv6Addr
  allowedDestinations : List VpnIpNetwork
  valid : validateDataPolicy clientIpv4 clientIpv6 allowedDestinations = .ok ()
  deriving DecidableEq

namespace VpnDataPolicy

/-- `VpnDataPolicy::new`. -/
def new (clientIpv4 : Option Ipv4Addr) (clientIpv6 : Option Ipv6Addr)
    (allowedDestinations : List VpnIpNetwork) : Except VpnIdentityError VpnDataPolicy :=
  match valid : validateDataPolicy clientIpv4 clientIpv6 allowedDestinations with
  | .error error => .error error
  | .ok () => .ok ⟨clientIpv4, clientIpv6, allowedDestinations, valid⟩

def permitsSource (policy : VpnDataPolicy) : IpAddr → Bool
  | .v4 source => policy.clientIpv4 = some source
  | .v6 source => policy.clientIpv6 = some source

def allowsDestination (policy : VpnDataPolicy) (destination : IpAddr) : Bool :=
  policy.allowedDestinations.any fun network => network.contains destination

/-- 10.66.0.2 may send to every IPv4 address. -/
def exampleOpen : VpnDataPolicy := ⟨some ⟨0x0a420002⟩, none, [.exampleAnyV4], by decide⟩

theorem new_eq_ok {clientIpv4 : Option Ipv4Addr} {clientIpv6 : Option Ipv6Addr}
    {allowedDestinations : List VpnIpNetwork} {policy : VpnDataPolicy}
    (built : new clientIpv4 clientIpv6 allowedDestinations = .ok policy) :
    policy.clientIpv4 = clientIpv4 ∧ policy.clientIpv6 = clientIpv6 ∧
      policy.allowedDestinations = allowedDestinations := by
  unfold new at built
  split at built
  · cases built
  · cases built
    exact ⟨rfl, rfl, rfl⟩

end VpnDataPolicy

/-! ## Limits -/

/-- `VpnIdentityLimits::validate`. -/
def validateIdentityLimits (maxConnections maxPacketsPerSecond maxBytesPerSecond
    maxReassemblyBytes : Nat) : Except VpnIdentityError Unit :=
  if maxConnections = 0 ∨ maxConnections > vpnMaxConnectionsPerIdentity ∨
      maxPacketsPerSecond = 0 ∨ maxPacketsPerSecond > vpnMaxPacketsPerSecond ∨
      maxBytesPerSecond = 0 ∨ maxBytesPerSecond > vpnMaxBytesPerSecond ∨
      maxReassemblyBytes < vpnMaxIpPacketLen ∨
      maxReassemblyBytes > vpnDefaultMaxReassemblyBytes then
    .error .invalidLimits
  else .ok ()

structure VpnIdentityLimits where
  maxConnections : Nat
  maxPacketsPerSecond : Nat
  maxBytesPerSecond : Nat
  maxReassemblyBytes : Nat
  valid : validateIdentityLimits maxConnections maxPacketsPerSecond maxBytesPerSecond
    maxReassemblyBytes = .ok ()
  deriving DecidableEq

namespace VpnIdentityLimits

/-- `VpnIdentityLimits::new`. -/
def new (maxConnections maxPacketsPerSecond maxBytesPerSecond maxReassemblyBytes : Nat) :
    Except VpnIdentityError VpnIdentityLimits :=
  match valid : validateIdentityLimits maxConnections maxPacketsPerSecond maxBytesPerSecond
      maxReassemblyBytes with
  | .error error => .error error
  | .ok () =>
    .ok ⟨maxConnections, maxPacketsPerSecond, maxBytesPerSecond, maxReassemblyBytes, valid⟩

/-- `VpnIdentityLimits::default`. -/
def default : VpnIdentityLimits where
  maxConnections := 1
  maxPacketsPerSecond := 100000
  maxBytesPerSecond := 128 * 1024 * 1024
  maxReassemblyBytes := vpnDefaultMaxReassemblyBytes
  valid := by decide

theorem bounds (limits : VpnIdentityLimits) :
    (0 < limits.maxPacketsPerSecond ∧ limits.maxPacketsPerSecond ≤ vpnMaxPacketsPerSecond) ∧
      (0 < limits.maxBytesPerSecond ∧ limits.maxBytesPerSecond ≤ vpnMaxBytesPerSecond) ∧
      vpnMaxIpPacketLen ≤ limits.maxReassemblyBytes ∧
      limits.maxReassemblyBytes ≤ vpnDefaultMaxReassemblyBytes := by
  have valid := limits.valid
  unfold validateIdentityLimits at valid
  split at valid
  · cases valid
  · rename_i checked
    simp only [not_or, gt_iff_lt, not_lt] at checked
    omega

end VpnIdentityLimits

/-- One packet and one byte a second. -/
def exampleSlowLimits : VpnIdentityLimits where
  maxConnections := 1
  maxPacketsPerSecond := 1
  maxBytesPerSecond := 1
  maxReassemblyBytes := vpnDefaultMaxReassemblyBytes
  valid := by decide

/-! ## Identities -/

/-- `is_ascii_alphanumeric`, or one of `-`, `_`, `.`. -/
def clientIdByte (byte : UInt8) : Bool :=
  (0x30 ≤ byte && byte ≤ 0x39) || (0x41 ≤ byte && byte ≤ 0x5a) || (0x61 ≤ byte && byte ≤ 0x7a) ||
    byte = 0x2d || byte = 0x5f || byte = 0x2e

def validateIdentityKey (clientId : String) (fingerprints : List VpnCertificateFingerprint) :
    Except VpnIdentityError Unit :=
  let bytes := clientId.toUTF8.data.toList
  if bytes.isEmpty ∨ bytes.length > vpnMaxClientIdLen ∨ ¬ bytes.all clientIdByte then
    .error .invalidClientId
  else if fingerprints.isEmpty then .error .missingFingerprint
  else if fingerprints.length > vpnMaxFingerprintsPerIdentity then .error .tooManyFingerprints
  else if ¬ fingerprints.Nodup then .error .duplicateFingerprint
  else .ok ()

structure VpnIdentity where
  clientId : String
  fingerprints : List VpnCertificateFingerprint
  enabled : Bool
  dataPolicy : VpnDataPolicy
  limits : VpnIdentityLimits
  valid : validateIdentityKey clientId fingerprints = .ok ()
  deriving DecidableEq

namespace VpnIdentity

/-- `VpnIdentity::new`. The limits it validates again are valid by their type. -/
def new (clientId : String) (fingerprints : List VpnCertificateFingerprint) (enabled : Bool)
    (clientIpv4 : Option Ipv4Addr) (clientIpv6 : Option Ipv6Addr)
    (allowedDestinations : List VpnIpNetwork) (limits : VpnIdentityLimits) :
    Except VpnIdentityError VpnIdentity :=
  match valid : validateIdentityKey clientId fingerprints with
  | .error error => .error error
  | .ok () =>
    match VpnDataPolicy.new clientIpv4 clientIpv6 allowedDestinations with
    | .error error => .error error
    | .ok dataPolicy => .ok ⟨clientId, fingerprints, enabled, dataPolicy, limits, valid⟩

def clientIpv4 (identity : VpnIdentity) : Option Ipv4Addr := identity.dataPolicy.clientIpv4

def clientIpv6 (identity : VpnIdentity) : Option Ipv6Addr := identity.dataPolicy.clientIpv6

def hasSameSessionPolicy (identity other : VpnIdentity) : Bool :=
  identity.clientId = other.clientId && identity.enabled = other.enabled &&
    identity.dataPolicy = other.dataPolicy && identity.limits = other.limits

def validate (identity : VpnIdentity) : Except VpnIdentityError Unit := do
  validateIdentityKey identity.clientId identity.fingerprints
  validateIdentityLimits identity.limits.maxConnections identity.limits.maxPacketsPerSecond
    identity.limits.maxBytesPerSecond identity.limits.maxReassemblyBytes

end VpnIdentity

/-! ## The registry -/

inductive VpnIdentityAuthorizationError where
  | unknownFingerprint
  | identityDisabled
  deriving DecidableEq, Repr

/-- The maps and address sets that the pass over the identities fills. -/
structure RegistryIndex where
  identityByClientId : Table String Nat
  identityByFingerprint : Table VpnCertificateFingerprint Nat
  ipv4Addresses : List Ipv4Addr
  ipv6Addresses : List Ipv6Addr

def RegistryIndex.empty : RegistryIndex := ⟨∅, ∅, [], []⟩

def insertFingerprints (index : Nat) :
    List VpnCertificateFingerprint → Table VpnCertificateFingerprint Nat →
      Except VpnIdentityError (Table VpnCertificateFingerprint Nat)
  | [], table => .ok table
  | fingerprint :: rest, table =>
    if (table.lookup fingerprint).isSome then .error .duplicateFingerprint
    else insertFingerprints index rest (table.insert fingerprint index)

/-- `zip(..).is_some_and(|(client, server)| client == server)`. -/
def sameAddress {A : Type} [DecidableEq A] : Option A → Option A → Bool
  | some client, some server => client = server
  | _, _ => false

/-- One round of the pass. -/
def indexIdentity (serverIpv4 : Option Ipv4Addr) (serverIpv6 : Option Ipv6Addr)
    (identity : VpnIdentity) (position : Nat) (index : RegistryIndex) :
    Except VpnIdentityError RegistryIndex := do
  identity.validate
  if (identity.clientIpv4.isSome ∧ serverIpv4.isNone) ∨
      (identity.clientIpv6.isSome ∧ serverIpv6.isNone) then
    .error .addressFamilyUnavailable
  else if sameAddress identity.clientIpv4 serverIpv4 ∨
      sameAddress identity.clientIpv6 serverIpv6 then
    .error .clientServerAddressConflict
  else if (index.identityByClientId.lookup identity.clientId).isSome then
    .error .duplicateClientId
  else
    let identityByFingerprint ←
      insertFingerprints position identity.fingerprints index.identityByFingerprint
    if (identity.clientIpv4.any fun address => address ∈ index.ipv4Addresses) ∨
        (identity.clientIpv6.any fun address => address ∈ index.ipv6Addresses) then
      .error .duplicateClientAddress
    else .ok {
      identityByClientId := index.identityByClientId.insert identity.clientId position
      identityByFingerprint := identityByFingerprint
      ipv4Addresses := identity.clientIpv4.toList ++ index.ipv4Addresses
      ipv6Addresses := identity.clientIpv6.toList ++ index.ipv6Addresses }

def indexIdentities (serverIpv4 : Option Ipv4Addr) (serverIpv6 : Option Ipv6Addr) :
    Nat → List VpnIdentity → RegistryIndex → Except VpnIdentityError RegistryIndex
  | _, [], index => .ok index
  | position, identity :: rest, index => do
    let index ← indexIdentity serverIpv4 serverIpv6 identity position index
    indexIdentities serverIpv4 serverIpv6 (position + 1) rest index

/-- The checks of `VpnIdentityRegistry::new`, and the index they build. -/
def indexRegistry (serverIpv4 : Option Ipv4Addr) (serverIpv6 : Option Ipv6Addr)
    (identities : List VpnIdentity) : Except VpnIdentityError RegistryIndex :=
  if serverIpv4.isNone ∧ serverIpv6.isNone then .error .missingServerAddress
  else if (serverIpv4.any fun address => !validIpv4TunnelAddress address) ∨
      (serverIpv6.any fun address => !validIpv6TunnelAddress address) then
    .error .invalidServerAddress
  else if identities.length > vpnMaxIdentities then .error .tooManyIdentities
  else indexIdentities serverIpv4 serverIpv6 0 identities RegistryIndex.empty

structure VpnIdentityRegistry where
  serverIpv4 : Option Ipv4Addr
  serverIpv6 : Option Ipv6Addr
  identities : List VpnIdentity
  index : RegistryIndex
  built : indexRegistry serverIpv4 serverIpv6 identities = .ok index

namespace VpnIdentityRegistry

/-- `VpnIdentityRegistry::new`. -/
def new (serverIpv4 : Option Ipv4Addr) (serverIpv6 : Option Ipv6Addr)
    (identities : List VpnIdentity) : Except VpnIdentityError VpnIdentityRegistry :=
  match built : indexRegistry serverIpv4 serverIpv6 identities with
  | .error error => .error error
  | .ok index => .ok ⟨serverIpv4, serverIpv6, identities, index, built⟩

/-- `identity_by_client_id`; the index is in range (`Registry.Indexed`). -/
def identityByClientId (registry : VpnIdentityRegistry) (clientId : String) : Option VpnIdentity :=
  (registry.index.identityByClientId.lookup clientId).bind fun position =>
    registry.identities[position]?

def authorize (registry : VpnIdentityRegistry) (fingerprint : VpnCertificateFingerprint) :
    Except VpnIdentityAuthorizationError VpnIdentity :=
  match (registry.index.identityByFingerprint.lookup fingerprint).bind fun position =>
      registry.identities[position]? with
  | none => .error .unknownFingerprint
  | some identity => if !identity.enabled then .error .identityDisabled else .ok identity

end VpnIdentityRegistry

end FlowWeave.Vpn
