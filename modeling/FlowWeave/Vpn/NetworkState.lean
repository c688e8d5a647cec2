/-
# Vpn.NetworkState — what the root helpers record about the network

The plan of a tunnel interface and the journal entry the helper keeps for it: the
canonical address lists, the hexadecimal fingerprints and tokens, the interface names
and the errors.

The standard library and the hash crate enter through `Encoding`: the texts of
addresses, in plain characters, and the 32 bytes of a document's SHA-256. A state file
holds its addresses as text; the model holds them parsed.
-/
import FlowWeave.Theory.Json
import FlowWeave.Vpn.Registry

namespace FlowWeave.Vpn

open Theory

set_option autoImplicit false

/-- The errors of the network helpers. Those of a failing file, command or device carry
a stage and a status that no helper looks at. -/
inductive VpnNetworkError where
  | invalidTunName
  | invalidTunMtu
  | invalidPlan
  | stateTooLarge
  | stateInvalidJson (line column : Nat)
  | stateUnsupportedVersion
  | stateInvalid
  | serverForwardingStateInvalid
  | serverForwardingFamilyUnavailable
  deriving DecidableEq, Repr

/-! ## Texts and digests -/

/-- `std::net`'s texts of addresses, and the SHA-256 of a serialized document. -/
structure Encoding where
  ipv4 : Ipv4Addr → String
  ipv6 : Ipv6Addr → String
  digest : Json → List UInt8
  ipv4_plain : ∀ address, Json.Plain (ipv4 address)
  ipv6_plain : ∀ address, Json.Plain (ipv6 address)
  digest_length : ∀ document, (digest document).length = 32

def planFingerprintBytes : Nat := 32

def ownershipTokenBytes : Nat := 16

def hexDigits (byte : UInt8) : List Char :=
  [Nat.digitChar (byte.toNat / 16), Nat.digitChar (byte.toNat % 16)]

def hexEncode (value : List UInt8) : String := String.ofList (value.flatMap hexDigits)

def lowerHexChar (char : Char) : Bool :=
  ('0' ≤ char && char ≤ '9') || ('a' ≤ char && char ≤ 'f')

def validLowerHex (value : String) (bytes : Nat) : Bool :=
  value.utf8ByteSize = bytes * 2 && value.toList.all lowerHexChar

theorem hexDigits_spec (byte : UInt8) :
    (hexDigits byte).all lowerHexChar = true ∧ String.utf8Len (hexDigits byte) = 2 := by
  have digits : ∀ value < 16, lowerHexChar (Nat.digitChar value) = true ∧
      (Nat.digitChar value).utf8Size = 1 := by decide
  have small := byte.toNat_lt
  have high := digits (byte.toNat / 16) (by omega)
  have low := digits (byte.toNat % 16) (by omega)
  simp [hexDigits, high, low]

theorem validLowerHex_hexEncode {value : List UInt8} {bytes : Nat} (width : value.length = bytes) :
    validLowerHex (hexEncode value) bytes = true := by
  subst width
  simp only [validLowerHex, hexEncode, String.utf8ByteSize_ofList, String.toList_ofList,
    Bool.and_eq_true, decide_eq_true_eq]
  induction value with
  | nil => exact ⟨rfl, rfl⟩
  | cons byte value ih =>
    obtain ⟨digits, width⟩ := hexDigits_spec byte
    rw [List.flatMap_cons, String.utf8Len_append, List.all_append, List.length_cons, width]
    exact ⟨by omega, by rw [digits, ih.2]; rfl⟩

theorem lowerHexChar_plain {char : Char} (digit : lowerHexChar char = true) :
    Json.escapeChar char = [char] := by
  have range : 48 ≤ char.toNat := by
    simp only [lowerHexChar, Bool.or_eq_true, Bool.and_eq_true, decide_eq_true_eq, Char.le_def,
      UInt32.le_iff_toNat_le] at digit
    rcases digit with digit | letter
    · exact digit.1
    · exact le_trans (by decide) letter.1
  have apart (other : Char) (special : lowerHexChar other = false) : char ≠ other := by
    rintro rfl
    exact absurd digit (by rw [special]; decide)
  rw [Json.escapeChar, if_neg (apart _ (by decide)), if_neg (apart _ (by decide)),
    if_neg (apart _ (by decide)), if_neg (apart _ (by decide)), if_neg (apart _ (by decide)),
    if_neg (apart _ (by decide)), if_neg (apart _ (by decide)), if_neg (by omega)]

theorem hexEncode_absent {char : Char} (other : lowerHexChar char = false) (value : List UInt8) :
    char ∉ (hexEncode value).toList := by
  have hex := validLowerHex_hexEncode (rfl : value.length = value.length)
  simp only [validLowerHex, Bool.and_eq_true, List.all_eq_true] at hex
  intro listed
  exact absurd (hex.2 char listed) (by simp [other])

theorem hexEncode_spec {value : List UInt8} {bytes : Nat} (width : value.length = bytes) :
    Json.Plain (hexEncode value) ∧ (hexEncode value).utf8ByteSize = bytes * 2 := by
  have valid := validLowerHex_hexEncode width
  simp only [validLowerHex, Bool.and_eq_true, decide_eq_true_eq, List.all_eq_true] at valid
  exact ⟨fun char member => lowerHexChar_plain (valid.2 char member), valid.1⟩

/-! ## Interface names -/

def vpnTunNameMaxBytes : Nat := 15

def tunNameChar (char : Char) : Bool :=
  ('0' ≤ char && char ≤ '9') || ('A' ≤ char && char ≤ 'Z') || ('a' ≤ char && char ≤ 'z') ||
    char = '_' || char = '-' || char = '.'

/-- `validate_vpn_tun_name`. -/
def validateVpnTunName (name : String) : Bool :=
  !(name.isEmpty || decide (name.utf8ByteSize > vpnTunNameMaxBytes) || name = "." || name = ".." ||
    !name.toList.all tunNameChar)

/-! ## Canonical lists -/

section Canonical

variable {A K : Type} [DecidableEq A] [LinearOrder K] (key : A → K)

/-- `sort_unstable` and then `dedup`, which on a sorted list drops every repetition. -/
def canonical (items : List A) : List A :=
  (items.insertionSort fun first second => key first ≤ key second).dedup

variable {key}

theorem mem_canonical {items : List A} {item : A} : item ∈ canonical key items ↔ item ∈ items := by
  rw [canonical, List.mem_dedup, List.mem_insertionSort]

theorem canonical_nodup (items : List A) : (canonical key items).Nodup := List.nodup_dedup _

theorem canonical_sorted (items : List A) :
    (canonical key items).Pairwise fun first second => key first ≤ key second := by
  have total : Std.Total fun first second : A => key first ≤ key second :=
    ⟨fun first second => le_total (key first) (key second)⟩
  have trans : IsTrans A fun first second => key first ≤ key second :=
    ⟨fun _ _ _ => le_trans⟩
  exact (List.pairwise_insertionSort _ items).sublist (List.dedup_sublist _)

/-- A canonical list is canonical. -/
theorem canonical_canonical (items : List A) :
    canonical key (canonical key items) = canonical key items := by
  rw [canonical, (canonical_sorted items).insertionSort_eq, (canonical_nodup items).dedup]

omit [DecidableEq A] in
/-- With an injective key, sorting forgets the order and nothing else. -/
theorem insertionSort_eq_iff (injective : Function.Injective key) {first second : List A} :
    (first.insertionSort fun x y => key x ≤ key y) =
      (second.insertionSort fun x y => key x ≤ key y) ↔ first.Perm second := by
  have antisymm : Std.Antisymm fun x y : A => key x ≤ key y :=
    ⟨fun _ _ below above => injective (le_antisymm below above)⟩
  have total : Std.Total fun x y : A => key x ≤ key y := ⟨fun x y => le_total (key x) (key y)⟩
  have trans : IsTrans A fun x y => key x ≤ key y := ⟨fun _ _ _ => le_trans⟩
  constructor
  · intro same
    have sorted := List.perm_insertionSort (fun x y => key x ≤ key y) first
    rw [same] at sorted
    exact sorted.symm.trans (List.perm_insertionSort _ second)
  · intro permuted
    have sorted : (first.insertionSort fun x y => key x ≤ key y).Perm
        (second.insertionSort fun x y => key x ≤ key y) :=
      (List.perm_insertionSort _ first).trans
        (permuted.trans (List.perm_insertionSort _ second).symm)
    exact sorted.eq_of_pairwise' (List.pairwise_insertionSort _ first)
      (List.pairwise_insertionSort _ second)

/-- With an injective key, a canonical list is the set of its items. -/
theorem canonical_eq_iff (injective : Function.Injective key) {first second : List A} :
    canonical key first = canonical key second ↔ ∀ item, item ∈ first ↔ item ∈ second := by
  constructor
  · intro same item
    rw [← @mem_canonical A K _ _ key first, same, mem_canonical]
  · intro same
    have permuted : (canonical key first).Perm (canonical key second) :=
      (List.perm_ext_iff_of_nodup (canonical_nodup first) (canonical_nodup second)).mpr
        fun item => by rw [mem_canonical, mem_canonical, same]
    rw [← canonical_canonical first, ← canonical_canonical second, canonical,
      (insertionSort_eq_iff injective).mpr permuted, ← canonical]

/-- With an injective key, each item of a canonical list is smaller than those behind it. -/
theorem canonical_strict (injective : Function.Injective key) (items : List A) :
    (canonical key items).Pairwise fun first second => key first < key second := by
  exact ((canonical_sorted items).and (canonical_nodup items)).imp fun both =>
    lt_of_le_of_ne both.1 fun same => both.2 (injective same)

end Canonical

def Ipv4Addr.key (address : Ipv4Addr) : Nat := address.bits.toNat

def Ipv6Addr.key (address : Ipv6Addr) : Nat := address.bits.toNat

/-- The order of `std::net::IpAddr`: the IPv4 addresses come first. -/
def IpAddr.key : IpAddr → Nat
  | .v4 address => address.key
  | .v6 address => 2 ^ 32 + address.key

theorem Ipv4Addr.key_injective : Function.Injective Ipv4Addr.key := by
  rintro ⟨first⟩ ⟨second⟩ same
  exact congrArg Ipv4Addr.mk (BitVec.eq_of_toNat_eq same)

theorem Ipv6Addr.key_injective : Function.Injective Ipv6Addr.key := by
  rintro ⟨first⟩ ⟨second⟩ same
  exact congrArg Ipv6Addr.mk (BitVec.eq_of_toNat_eq same)

theorem IpAddr.key_injective : Function.Injective IpAddr.key := by
  intro first second same
  cases first with
  | v4 first =>
    have small := first.bits.isLt
    cases second with
    | v4 second => exact congrArg IpAddr.v4 (Ipv4Addr.key_injective same)
    | v6 second =>
      simp only [IpAddr.key, Ipv4Addr.key] at same
      omega
  | v6 first =>
    cases second with
    | v4 second =>
      have small := second.bits.isLt
      simp only [IpAddr.key, Ipv4Addr.key] at same
      omega
    | v6 second =>
      exact congrArg IpAddr.v6 (Ipv6Addr.key_injective (Nat.add_left_cancel same))

/-! ## The plan of an interface -/

inductive VpnNetworkRole where
  | client
  | server
  deriving DecidableEq, Repr

def VpnNetworkRole.name : VpnNetworkRole → String
  | .client => "client"
  | .server => "server"

structure VpnNetworkPlan where
  role : VpnNetworkRole
  tunName : String
  tunMtu : UInt16
  ownerUid : UInt32
  ownerGid : UInt32
  addresses : List IpAddr
  routes : List IpAddr
  fingerprint : List UInt8
  deriving DecidableEq

/-- `host_prefix`. -/
def hostPrefix (encoding : Encoding) : IpAddr → String
  | .v4 address => encoding.ipv4 address ++ "/32"
  | .v6 address => encoding.ipv6 address ++ "/128"

/-- `validate_vpn_tun_mtu`. -/
def validateVpnTunMtu (mtu : UInt16) : Bool :=
  decide (vpnMinIpPacketLen ≤ mtu.toNat) && decide (mtu.toNat ≤ vpnMaxIpPacketLen)

namespace VpnNetworkPlan

variable (encoding : Encoding)

/-- The document the fingerprint is taken of. -/
def canonicalPlan (plan : VpnNetworkPlan) : Json :=
  .obj [("plan_version", .num 1), ("role", .str plan.role.name), ("tun_name", .str plan.tunName),
    ("tun_mtu", .num plan.tunMtu.toNat), ("owner_uid", .num plan.ownerUid.toNat),
    ("owner_gid", .num plan.ownerGid.toNat),
    ("addresses", .arr ((plan.addresses.map (hostPrefix encoding)).map .str)),
    ("routes", .arr ((plan.routes.map (hostPrefix encoding)).map .str))]

/-- `VpnNetworkPlan::new`. -/
def new (role : VpnNetworkRole) (tunName : String) (tunMtu : UInt16) (ownerUid ownerGid : UInt32)
    (addresses routes : List IpAddr) : Except VpnNetworkError VpnNetworkPlan :=
  if !validateVpnTunName tunName then .error .invalidTunName
  else if !validateVpnTunMtu tunMtu then .error .invalidTunMtu
  else if ownerUid = 0 ∨ ownerGid = 0 ∨ addresses = [] then .error .invalidPlan
  else
    let addresses := canonical IpAddr.key addresses
    let routes := canonical IpAddr.key routes
    if addresses.any routes.contains then .error .invalidPlan
    else
      let plan : VpnNetworkPlan :=
        ⟨role, tunName, tunMtu, ownerUid, ownerGid, addresses, routes, []⟩
      .ok { plan with fingerprint := encoding.digest (plan.canonicalPlan encoding) }

def fingerprintHex (plan : VpnNetworkPlan) : String := hexEncode plan.fingerprint

end VpnNetworkPlan

/-! ## The state of an interface -/

def vpnNetworkStateVersion : UInt16 := 1

def vpnNetworkStateMaxBytes : Nat := 64 * 1024

inductive VpnNetworkStatePhase where
  | preparing
  | prepared
  deriving DecidableEq, Repr

def VpnNetworkStatePhase.name : VpnNetworkStatePhase → String
  | .preparing => "preparing"
  | .prepared => "prepared"

structure VpnNetworkState where
  stateVersion : UInt16
  phase : VpnNetworkStatePhase
  planFingerprint : String
  role : VpnNetworkRole
  tunName : String
  temporaryTunName : String
  ownershipToken : String
  interfaceIndex : Option UInt32
  tunMtu : UInt16
  ownerUid : UInt32
  ownerGid : UInt32
  addresses : List IpAddr
  routes : List IpAddr
  deriving DecidableEq

/-- `temporary_tun_name`: the first twelve characters of the token. -/
def temporaryTunName (token : String) : String := "fwv" ++ String.ofList (token.toList.take 12)

namespace VpnNetworkState

variable (encoding : Encoding)

/-- `new_preparing`, with the random bytes of the token. -/
def newPreparing (plan : VpnNetworkPlan) (token : List UInt8) : VpnNetworkState where
  stateVersion := vpnNetworkStateVersion
  phase := .preparing
  planFingerprint := plan.fingerprintHex
  role := plan.role
  tunName := plan.tunName
  temporaryTunName := Vpn.temporaryTunName (hexEncode token)
  ownershipToken := hexEncode token
  interfaceIndex := none
  tunMtu := plan.tunMtu
  ownerUid := plan.ownerUid
  ownerGid := plan.ownerGid
  addresses := plan.addresses
  routes := plan.routes

/-- The document of the journal file. -/
def document (state : VpnNetworkState) : Json :=
  .obj [("state_version", .num state.stateVersion.toNat), ("phase", .str state.phase.name),
    ("plan_fingerprint", .str state.planFingerprint), ("role", .str state.role.name),
    ("tun_name", .str state.tunName), ("temporary_tun_name", .str state.temporaryTunName),
    ("ownership_token", .str state.ownershipToken),
    ("interface_index", state.interfaceIndex.elim .null fun index => .num index.toNat),
    ("tun_mtu", .num state.tunMtu.toNat), ("owner_uid", .num state.ownerUid.toNat),
    ("owner_gid", .num state.ownerGid.toNat),
    ("addresses", .arr ((state.addresses.map (hostPrefix encoding)).map .str)),
    ("routes", .arr ((state.routes.map (hostPrefix encoding)).map .str))]

/-- The bytes of the journal file: the indented text and a line end. -/
def encodedLen (state : VpnNetworkState) : Nat :=
  ((state.document encoding).pretty 0).utf8ByteSize + 1

def validateShape (state : VpnNetworkState) : Except VpnNetworkError Unit :=
  if state.stateVersion ≠ vpnNetworkStateVersion then .error .stateUnsupportedVersion
  else if !validateVpnTunName state.tunName || !validateVpnTunName state.temporaryTunName ||
      !validateVpnTunMtu state.tunMtu then .error .stateInvalid
  else if state.tunName = state.temporaryTunName ∨ state.ownerUid = 0 ∨ state.ownerGid = 0 ∨
      !validLowerHex state.planFingerprint planFingerprintBytes ∨
      !validLowerHex state.ownershipToken ownershipTokenBytes ∨
      state.temporaryTunName ≠ Vpn.temporaryTunName state.ownershipToken ∨
      (state.phase = .prepared ∧ state.interfaceIndex = none) ∨
      state.interfaceIndex = some 0 then .error .stateInvalid
  else .ok ()

/-- `VpnNetworkState::plan`: the plan the state describes, if it is a consistent one. -/
def plan (state : VpnNetworkState) : Except VpnNetworkError VpnNetworkPlan := do
  state.validateShape
  let plan ← VpnNetworkPlan.new encoding state.role state.tunName state.tunMtu state.ownerUid
    state.ownerGid state.addresses state.routes
  if plan.addresses ≠ state.addresses ∨ plan.routes ≠ state.routes ∨
      plan.fingerprintHex ≠ state.planFingerprint then .error .stateInvalid
  else .ok plan

end VpnNetworkState

end FlowWeave.Vpn
