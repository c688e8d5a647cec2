/-
# Vpn.IdentityConfig — the identity file (`src/vpn_identity_config.rs`)

The identity file after `serde_json` has read it, and the checks that make a registry of it.
What `std` reads from a text enters through `ConfigTexts`.

* `indexIdentities_ok` — identities that share nothing make a registry.
-/
import FlowWeave.Vpn.ProductConfig

namespace FlowWeave.Vpn

open Theory Theory.Checks

set_option autoImplicit false

def vpnIdentityConfigVersion : UInt16 := 1

def vpnIdentityConfigMaxBytes : Nat := 1024 * 1024

/-- The errors of a file that could be read. -/
inductive VpnIdentityConfigError where
  | fileTooLarge
  | invalidJson
  | unsupportedConfigVersion
  | invalidIpv4Address
  | invalidIpv6Address
  | invalidDestinationNetwork
  | registry (error : VpnIdentityError)
  deriving DecidableEq, Repr

/-! ## The file -/

structure RawLimits where
  maxConnections : UInt16
  maxPacketsPerSecond : UInt32
  maxBytesPerSecond : UInt64
  maxReassemblyBytes : Nat

structure RawIdentity where
  clientId : String
  fingerprints : List String
  enabled : Bool
  clientIpv4 : Option String
  clientIpv6 : Option String
  allowedDestinations : List String
  limits : RawLimits

structure RawRegistry where
  configVersion : UInt16
  serverIpv4 : Option String
  serverIpv6 : Option String
  identities : List RawIdentity

/-- The documents that are read as such values. -/
def optionalText (text : Option String) : Json := text.elim .null .str

def RawLimits.document (limits : RawLimits) : Json :=
  .obj [("max_connections", .num limits.maxConnections.toNat),
    ("max_packets_per_second", .num limits.maxPacketsPerSecond.toNat),
    ("max_bytes_per_second", .num limits.maxBytesPerSecond.toNat),
    ("max_reassembly_bytes", .num limits.maxReassemblyBytes)]

def RawIdentity.document (identity : RawIdentity) : Json :=
  .obj [("client_id", .str identity.clientId),
    ("fingerprints", .arr (identity.fingerprints.map .str)), ("enabled", .bool identity.enabled),
    ("client_ipv4", optionalText identity.clientIpv4),
    ("client_ipv6", optionalText identity.clientIpv6),
    ("allowed_destinations", .arr (identity.allowedDestinations.map .str)),
    ("limits", identity.limits.document)]

def RawRegistry.document (registry : RawRegistry) : Json :=
  .obj [("config_version", .num registry.configVersion.toNat),
    ("server_ipv4", optionalText registry.serverIpv4),
    ("server_ipv6", optionalText registry.serverIpv6),
    ("identities", .arr (registry.identities.map RawIdentity.document))]

/-- A file by its size and what `serde_json` reads from it. -/
structure IdentityFile where
  size : Nat
  raw : Option RawRegistry

/-- The file that holds the text of a registry without blanks. -/
def IdentityFile.holding (raw : RawRegistry) : IdentityFile :=
  ⟨raw.document.compact.utf8ByteSize, some raw⟩

/-! ## The checks -/

def decodeHex (value : UInt8) : Except VpnIdentityError UInt8 :=
  if 0x30 ≤ value ∧ value ≤ 0x39 then .ok (value - 0x30)
  else if 0x61 ≤ value ∧ value ≤ 0x66 then .ok (value - 0x61 + 10)
  else if 0x41 ≤ value ∧ value ≤ 0x46 then .ok (value - 0x41 + 10)
  else .error .invalidFingerprintHex

/-- The bytes of pairs of digits. -/
def decodeHexPairs : List UInt8 → Except VpnIdentityError (List UInt8)
  | high :: low :: rest => do
    let high ← decodeHex high
    let low ← decodeHex low
    let bytes ← decodeHexPairs rest
    .ok ((high <<< 4 ||| low) :: bytes)
  | _ => .ok []

/-- `VpnCertificateFingerprint::parse_hex`. -/
def parseHex (value : String) : Except VpnIdentityError VpnCertificateFingerprint := do
  let digits := value.toUTF8.data.toList
  refuseIf (digits.length ≠ vpnSha256FingerprintLen * 2 ∨ digits.any (0x80 ≤ ·) = true)
    .invalidFingerprintHex
  let bytes ← decodeHexPairs digits
  -- Sixty-four digits are thirty-two bytes.
  if width : bytes.length = vpnSha256FingerprintLen then .ok ⟨⟨bytes.toArray, width⟩⟩
  else .error .invalidFingerprintHex

section

variable (texts : ConfigTexts)

def parseAddress {A : Type} (parse : String → Option A) (error : VpnIdentityConfigError) :
    Option String → Except VpnIdentityConfigError (Option A)
  | none => .ok none
  | some value => some <$> okOr error (parse value)

/-- `parse_network`, which reads a network as the product configs do. -/
def parseNetwork (value : String) : Except VpnIdentityConfigError VpnIpNetwork :=
  (parseDestinationNetwork texts value).mapError fun
    | .destinationNetwork error => .registry error
    | _ => .invalidDestinationNetwork

def parseIdentity (raw : RawIdentity) : Except VpnIdentityConfigError VpnIdentity := do
  let fingerprints ← raw.fingerprints.mapM fun value => (parseHex value).mapError .registry
  let clientIpv4 ← parseAddress texts.ipv4 .invalidIpv4Address raw.clientIpv4
  let clientIpv6 ← parseAddress texts.ipv6 .invalidIpv6Address raw.clientIpv6
  let allowedDestinations ← raw.allowedDestinations.mapM (parseNetwork texts)
  let limits ← (VpnIdentityLimits.new raw.limits.maxConnections.toNat
    raw.limits.maxPacketsPerSecond.toNat raw.limits.maxBytesPerSecond.toNat
    raw.limits.maxReassemblyBytes).mapError .registry
  (VpnIdentity.new raw.clientId fingerprints raw.enabled clientIpv4 clientIpv6
    allowedDestinations limits).mapError .registry

/-- `parse_vpn_identity_registry_json`, after the JSON. -/
def parseVpnIdentityRegistry (raw : RawRegistry) :
    Except VpnIdentityConfigError VpnIdentityRegistry := do
  refuseIf (raw.configVersion ≠ vpnIdentityConfigVersion) .unsupportedConfigVersion
  let serverIpv4 ← parseAddress texts.ipv4 .invalidIpv4Address raw.serverIpv4
  let serverIpv6 ← parseAddress texts.ipv6 .invalidIpv6Address raw.serverIpv6
  let identities ← raw.identities.mapM (parseIdentity texts)
  (VpnIdentityRegistry.new serverIpv4 serverIpv6 identities).mapError .registry

/-- `load_vpn_identity_registry`, after the file was opened. -/
def loadVpnIdentityRegistry (file : IdentityFile) :
    Except VpnIdentityConfigError VpnIdentityRegistry := do
  refuseIf (file.size > vpnIdentityConfigMaxBytes) .fileTooLarge
  let raw ← okOr .invalidJson file.raw
  parseVpnIdentityRegistry texts raw

end

/-! ## Fingerprints in hexadecimal -/

/-- The byte of a digit. -/
def hexDigitByte (value : Nat) : UInt8 :=
  if value < 10 then UInt8.ofNat (48 + value) else UInt8.ofNat (87 + value)

theorem hexDigitByte_spec {value : Nat} (small : value < 16) :
    String.utf8EncodeChar (Nat.digitChar value) = [hexDigitByte value] ∧
      decodeHex (hexDigitByte value) = .ok (UInt8.ofNat value) ∧
      clientIdByte (hexDigitByte value) = true ∧ hexDigitByte value < 0x80 := by
  have all : ∀ value < 16, String.utf8EncodeChar (Nat.digitChar value) = [hexDigitByte value] ∧
      (decodeHex (hexDigitByte value)).toOption = some (UInt8.ofNat value) ∧
      clientIdByte (hexDigitByte value) = true ∧ hexDigitByte value < 0x80 := by decide +kernel
  obtain ⟨encoded, decoded, rest⟩ := all value small
  refine ⟨encoded, ?_, rest⟩
  cases run : decodeHex (hexDigitByte value) with
  | error error => rw [run] at decoded; exact absurd decoded nofun
  | ok found => rw [run] at decoded; exact congrArg _ (Option.some.inj decoded)

/-- The bytes of a text in hexadecimal. -/
theorem hexEncode_bytes (value : List UInt8) :
    (hexEncode value).toUTF8.data.toList = value.flatMap fun byte =>
      [hexDigitByte (byte.toNat / 16), hexDigitByte (byte.toNat % 16)] := by
  have encoded : (hexEncode value).toUTF8.data.toList =
      (value.flatMap hexDigits).flatMap String.utf8EncodeChar := by
    simp [hexEncode, String.toUTF8, String.ofList, List.utf8Encode, List.data_toByteArray]
  rw [encoded, List.flatMap_assoc]
  apply List.flatMap_congr
  intro byte _
  have small := byte.toNat_lt
  simp [hexDigits, (hexDigitByte_spec (show byte.toNat / 16 < 16 by omega)).1,
    (hexDigitByte_spec (show byte.toNat % 16 < 16 by omega)).1]

theorem decodeHexPairs_hexEncode (value : List UInt8) :
    decodeHexPairs (hexEncode value).toUTF8.data.toList = .ok value := by
  rw [hexEncode_bytes]
  induction value with
  | nil => rfl
  | cons byte value ih =>
    have small := byte.toNat_lt
    have joined : UInt8.ofNat (byte.toNat / 16) <<< 4 ||| UInt8.ofNat (byte.toNat % 16) =
        byte := by
      have all : ∀ value < 256, UInt8.ofNat (value / 16) <<< 4 ||| UInt8.ofNat (value % 16) =
          UInt8.ofNat value := by decide +kernel
      rw [all byte.toNat small, UInt8.ofNat_toNat]
    rw [List.flatMap_cons, List.cons_append, List.cons_append, List.nil_append, decodeHexPairs,
      (hexDigitByte_spec (by omega)).2.1, (hexDigitByte_spec (by omega)).2.1, ih]
    simp only [bind, Except.bind, joined]

theorem hexEncode_injective : Function.Injective hexEncode := by
  intro first second same
  have decoded := decodeHexPairs_hexEncode first
  rw [same, decodeHexPairs_hexEncode] at decoded
  exact (Except.ok.inj decoded).symm

theorem hexEncode_bytes_length (value : List UInt8) :
    (hexEncode value).toUTF8.data.toList.length = value.length * 2 := by
  rw [hexEncode_bytes, List.length_flatMap]
  simp

theorem parseHex_hexEncode {value : List UInt8} (width : value.length = vpnSha256FingerprintLen) :
    parseHex (hexEncode value) = .ok ⟨⟨value.toArray, width⟩⟩ := by
  have ascii : (hexEncode value).toUTF8.data.toList.any (0x80 ≤ ·) = false := by
    rw [hexEncode_bytes, List.any_eq_false]
    intro digit member
    obtain ⟨byte, -, own⟩ := List.mem_flatMap.mp member
    have small := byte.toNat_lt
    have low {value : Nat} (small : value < 16) : ¬0x80 ≤ hexDigitByte value :=
      UInt8.not_le.mpr (hexDigitByte_spec small).2.2.2
    rcases List.mem_pair.mp own with rfl | rfl
    · simpa using low (by omega)
    · simpa using low (by omega)
  rw [parseHex, ascii, hexEncode_bytes_length, width]
  simp only [decodeHexPairs_hexEncode, refuseIf]
  simp only [bind, Except.bind]
  exact dif_pos width

/-! ## Identities that make a registry -/

theorem VpnIdentity.new_eq {clientId : String} {fingerprints : List VpnCertificateFingerprint}
    (valid : validateIdentityKey clientId fingerprints = .ok ()) (enabled : Bool)
    {clientIpv4 : Option Ipv4Addr} {clientIpv6 : Option Ipv6Addr}
    {allowedDestinations : List VpnIpNetwork}
    (policy : validateDataPolicy clientIpv4 clientIpv6 allowedDestinations = .ok ())
    (limits : VpnIdentityLimits) :
    VpnIdentity.new clientId fingerprints enabled clientIpv4 clientIpv6 allowedDestinations
        limits =
      .ok ⟨clientId, fingerprints, enabled,
        ⟨clientIpv4, clientIpv6, allowedDestinations, policy⟩, limits, valid⟩ := by
  have made : VpnDataPolicy.new clientIpv4 clientIpv6 allowedDestinations =
      .ok ⟨clientIpv4, clientIpv6, allowedDestinations, policy⟩ := by
    unfold VpnDataPolicy.new
    split
    · rename_i error refused
      rw [policy] at refused
      cases refused
    · rfl
  unfold VpnIdentity.new
  split
  · rename_i error refused
    rw [valid] at refused
    cases refused
  · rw [made]

theorem VpnIdentityRegistry.new_eq {serverIpv4 : Option Ipv4Addr} {serverIpv6 : Option Ipv6Addr}
    {identities : List VpnIdentity} {index : RegistryIndex}
    (built : indexRegistry serverIpv4 serverIpv6 identities = .ok index) :
    VpnIdentityRegistry.new serverIpv4 serverIpv6 identities =
      .ok ⟨serverIpv4, serverIpv6, identities, index, built⟩ := by
  unfold VpnIdentityRegistry.new
  split
  · rename_i error refused
    rw [built] at refused
    cases refused
  · rename_i found again
    cases Except.ok.inj (again.symm.trans built)
    rfl

/-- The steps of the parser. -/
theorem parseVpnIdentityRegistry_eq {texts : ConfigTexts} {raw : RawRegistry}
    (version : raw.configVersion = vpnIdentityConfigVersion) {serverIpv4 : Option Ipv4Addr}
    {serverIpv6 : Option Ipv6Addr} {identities : List VpnIdentity} {registry : VpnIdentityRegistry}
    (ipv4 : parseAddress texts.ipv4 .invalidIpv4Address raw.serverIpv4 = .ok serverIpv4)
    (ipv6 : parseAddress texts.ipv6 .invalidIpv6Address raw.serverIpv6 = .ok serverIpv6)
    (parsed : raw.identities.mapM (parseIdentity texts) = .ok identities)
    (made : VpnIdentityRegistry.new serverIpv4 serverIpv6 identities = .ok registry) :
    parseVpnIdentityRegistry texts raw = .ok registry := by
  rw [parseVpnIdentityRegistry, refuseIf, if_neg (not_not.mpr version), ipv4, ipv6, parsed]
  simp only [bind, Except.bind, made]
  rfl

theorem loadVpnIdentityRegistry_holding {texts : ConfigTexts} {raw : RawRegistry}
    {registry : VpnIdentityRegistry}
    (small : raw.document.compact.utf8ByteSize ≤ vpnIdentityConfigMaxBytes)
    (parsed : parseVpnIdentityRegistry texts raw = .ok registry) :
    loadVpnIdentityRegistry texts (.holding raw) = .ok registry := by
  have fits : ¬(IdentityFile.holding raw).size > vpnIdentityConfigMaxBytes := Nat.not_lt.mpr small
  rw [loadVpnIdentityRegistry, refuseIf, if_neg fits]
  exact parsed

/-- Two identities with nothing in common that the registry asks to be its own. -/
structure SharesNothing (first second : VpnIdentity) : Prop where
  clientId : first.clientId ≠ second.clientId
  fingerprints : first.fingerprints.Disjoint second.fingerprints
  addresses : AddressesApart first second

theorem insertFingerprints_ok {position : Nat} {fingerprints : List VpnCertificateFingerprint}
    {table : Table VpnCertificateFingerprint Nat} (distinct : fingerprints.Nodup)
    (fresh : ∀ fingerprint ∈ fingerprints, table.lookup fingerprint = none) :
    ∃ after, insertFingerprints position fingerprints table = .ok after := by
  induction fingerprints generalizing table with
  | nil => exact ⟨table, rfl⟩
  | cons head rest ih =>
    obtain ⟨new, distinct⟩ := List.nodup_cons.mp distinct
    rw [insertFingerprints, fresh head List.mem_cons_self]
    refine ih distinct fun fingerprint member => ?_
    have other : fingerprint ≠ head := fun same => new (same ▸ member)
    rw [AList.lookup_insert_ne other]
    exact fresh fingerprint (List.mem_cons_of_mem _ member)

section Pass

variable {serverIpv4 : Option Ipv4Addr} {serverIpv6 : Option Ipv6Addr}

theorem checks_of_apart {A : Type} [DecidableEq A] {client server : Option A}
    (apart : Apart client server) :
    ¬(client.isSome ∧ server.isNone) ∧ sameAddress client server = false := by
  cases client with
  | none => exact ⟨nofun, rfl⟩
  | some address =>
    obtain ⟨own, rfl, different⟩ := apart address rfl
    exact ⟨nofun, by simpa [sameAddress] using different⟩

/-- One round goes through for an identity that shares nothing with those before it. -/
theorem indexIdentity_ok {done : List VpnIdentity} {identity : VpnIdentity} {index : RegistryIndex}
    (indexed : Indexed serverIpv4 serverIpv6 done index)
    (new : ∀ other ∈ done, SharesNothing other identity)
    (server : Apart identity.clientIpv4 serverIpv4 ∧ Apart identity.clientIpv6 serverIpv6) :
    ∃ after, indexIdentity serverIpv4 serverIpv6 identity done.length index = .ok after := by
  have valid : identity.validate = .ok () := by
    rw [VpnIdentity.validate, identity.valid, identity.limits.valid]
    rfl
  have available := checks_of_apart server.1
  have available6 := checks_of_apart server.2
  have newId : index.identityByClientId.lookup identity.clientId = none := by
    rw [Option.eq_none_iff_forall_ne_some]
    intro position found
    obtain ⟨other, there, same⟩ := (indexed.clientIds _ _).mp found
    exact (new other (List.mem_of_getElem? there)).clientId same
  have distinct : identity.fingerprints.Nodup := by
    have valid := identity.valid
    unfold validateIdentityKey at valid
    simp only at valid
    split_ifs at valid with _ _ _ distinct
    exact distinct
  obtain ⟨table, inserted⟩ := @insertFingerprints_ok done.length identity.fingerprints
    index.identityByFingerprint distinct (by
      intro fingerprint member
      rw [Option.eq_none_iff_forall_ne_some]
      intro position found
      obtain ⟨other, there, listed⟩ := (indexed.fingerprints _ _).mp found
      exact (new other (List.mem_of_getElem? there)).fingerprints listed member)
  have new4 : (identity.clientIpv4.any fun address => address ∈ index.ipv4Addresses) = false := by
    rw [Option.any_eq_false]
    intro address own
    rw [decide_eq_false_iff_not, indexed.ipv4]
    rintro ⟨other, member, owned⟩
    exact (new other member).addresses.ipv4 address owned own
  have new6 : (identity.clientIpv6.any fun address => address ∈ index.ipv6Addresses) = false := by
    rw [Option.any_eq_false]
    intro address own
    rw [decide_eq_false_iff_not, indexed.ipv6]
    rintro ⟨other, member, owned⟩
    exact (new other member).addresses.ipv6 address owned own
  rw [indexIdentity, valid]
  simp only [bind, Except.bind]
  rw [if_neg (by tauto), if_neg (by simp [available.2, available6.2]), if_neg (by simp [newId]),
    inserted]
  simp only [new4, new6]
  exact ⟨_, rfl⟩

theorem indexIdentities_ok {done rest : List VpnIdentity} {index : RegistryIndex}
    (indexed : Indexed serverIpv4 serverIpv6 done index)
    (apart : (done ++ rest).Pairwise SharesNothing)
    (server : ∀ identity ∈ rest,
      Apart identity.clientIpv4 serverIpv4 ∧ Apart identity.clientIpv6 serverIpv6) :
    ∃ after, indexIdentities serverIpv4 serverIpv6 done.length rest index = .ok after := by
  induction rest generalizing done index with
  | nil => exact ⟨index, rfl⟩
  | cons identity rest ih =>
    have new : ∀ other ∈ done, SharesNothing other identity := fun other member =>
      (List.pairwise_append.mp apart).2.2 other member identity List.mem_cons_self
    obtain ⟨next, round⟩ := indexIdentity_ok indexed new (server identity List.mem_cons_self)
    have step := indexIdentity_indexed indexed round
    rw [List.append_cons] at apart
    obtain ⟨after, succeeds⟩ := ih step apart
      fun other member => server other (List.mem_cons_of_mem _ member)
    refine ⟨after, ?_⟩
    rw [List.length_append, List.length_singleton] at succeeds
    rw [indexIdentities, round]
    exact succeeds

end Pass

end FlowWeave.Vpn
