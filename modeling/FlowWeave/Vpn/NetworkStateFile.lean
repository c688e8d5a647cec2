/-
# Vpn.NetworkStateFile — the journal of an interface as its file holds it

`Vpn.NetworkState` holds the addresses of a journal entry parsed. The file holds the text of
host prefixes, and `VpnNetworkState::plan` parses them, makes a plan of them and compares its
texts with those of the file. `VpnNetworkStateFile` is that state with its texts, and its
functions can panic: `temporary_tun_name` takes a slice of the token.

* `plan_file` — on the texts of a parsed state the two models agree, errors included, and
  `plan_eq_pure_iff` — no other texts are accepted;
* `network_journal_canonical` — plans depend on the sets of addresses and routes only, an entry
  describes its plan and is read back, and what is read is sorted by address, without
  repetitions and consistent, whatever the bytes.

The texts of `std::net` and their parser, and serde's, are parameters.
-/
import FlowWeave.Theory.Panics
import FlowWeave.Vpn.NetworkJournal

namespace FlowWeave.Vpn

open Theory Theory.Checks Theory.Fallible VpnNetworkState VpnNetworkPlan

set_option autoImplicit false

/-! ## Host prefixes -/

/-- `Display` and `FromStr` of `IpAddr`: an address is read back, and its text has no slash. -/
structure AddressTexts extends Encoding where
  parse : String → Option IpAddr
  parse_ipv4 : ∀ address, parse (ipv4 address) = some (.v4 address)
  parse_ipv6 : ∀ address, parse (ipv6 address) = some (.v6 address)
  ipv4_slash : ∀ address, '/' ∉ (ipv4 address).toList
  ipv6_slash : ∀ address, '/' ∉ (ipv6 address).toList

def hostWidth : IpAddr → String
  | .v4 _ => "32"
  | .v6 _ => "128"

/-- `parse_host_prefix`. -/
def parseHostPrefix (texts : AddressTexts) (value : String) : Except VpnNetworkError IpAddr :=
  match splitOnce '/' value.toList with
  | none => .error .stateInvalid
  | some (address, width) =>
    if '/' ∈ width then .error .stateInvalid
    else
      match texts.parse (String.ofList address) with
      | none => .error .stateInvalid
      | some address =>
        if String.ofList width ≠ hostWidth address ∨
            hostPrefix texts.toEncoding address ≠ value then .error .stateInvalid
        else .ok address

/-- The texts that are accepted are those that are written. -/
theorem parseHostPrefix_eq_ok_iff {texts : AddressTexts} {value : String} {address : IpAddr} :
    parseHostPrefix texts value = .ok address ↔ value = hostPrefix texts.toEncoding address := by
  constructor
  · intro parsed
    unfold parseHostPrefix at parsed
    split at parsed
    · cases parsed
    replace parsed := (ite_error_eq_ok.mp parsed).2
    split at parsed
    · cases parsed
    · obtain ⟨same, ⟨⟩⟩ := ite_error_eq_ok.mp parsed
      rw [not_or, not_not, not_not] at same
      exact same.2.symm
  · rintro rfl
    cases address with
    | v4 address =>
      have split : splitOnce '/' (hostPrefix texts.toEncoding (.v4 address)).toList =
          some ((texts.ipv4 address).toList, ['3', '2']) := by
        rw [hostPrefix, String.toList_append]
        exact splitOnce_append ['3', '2'] (texts.ipv4_slash address)
      simp [parseHostPrefix, split, texts.parse_ipv4, hostWidth]
    | v6 address =>
      have split : splitOnce '/' (hostPrefix texts.toEncoding (.v6 address)).toList =
          some ((texts.ipv6 address).toList, ['1', '2', '8']) := by
        rw [hostPrefix, String.toList_append]
        exact splitOnce_append ['1', '2', '8'] (texts.ipv6_slash address)
      simp [parseHostPrefix, split, texts.parse_ipv6, hostWidth]

variable {addresses : List IpAddr}

theorem parseHostPrefixes_eq_ok_iff {texts : AddressTexts} {values : List String} :
    values.mapM (parseHostPrefix texts) = .ok addresses ↔
      values = addresses.map (hostPrefix texts.toEncoding) :=
  Checks.mapM_eq_ok_iff_map fun _ _ => parseHostPrefix_eq_ok_iff

/-! ## The state with its texts -/

/-- `VpnNetworkState` as it is serialized. -/
structure VpnNetworkStateFile where
  stateVersion : UInt16
  phase : VpnNetworkStatePhase
  planFingerprint : String
  role : VpnNetworkRole
  tunName : String
  temporaryTunName : String
  ownershipToken : String
  interfaceIndex : Option UInt32
  tunMtu : UInt16
  ownerUid : UInt32
  ownerGid : UInt32
  addresses : List String
  routes : List String
  deriving DecidableEq

/-- The slice of so many bytes from the start of a text; none if it would end within a character
or behind the end. -/
def sliceTo : List Char → Nat → Option (List Char)
  | _, 0 => some []
  | [], _ + 1 => none
  | char :: rest, bytes + 1 =>
    if char.utf8Size ≤ bytes + 1 then
      (sliceTo rest (bytes + 1 - char.utf8Size)).map (char :: ·)
    else none

/-- `temporary_tun_name`, with its slice. -/
def temporaryTunName? (token : String) : Option String :=
  (sliceTo token.toList 12).map fun front => "fwv" ++ String.ofList front

theorem sliceTo_lowerHex {chars : List Char} (digits : ∀ char ∈ chars, lowerHexChar char = true)
    {bytes : Nat} (inside : bytes ≤ chars.length) :
    sliceTo chars bytes = some (chars.take bytes) := by
  induction chars generalizing bytes with
  | nil =>
    have none_left : bytes = 0 := by simpa using inside
    rw [none_left, sliceTo, List.take_nil]
  | cons char chars ih =>
    cases bytes with
    | zero => rw [sliceTo, List.take_zero]
    | succ bytes =>
      have one : char.utf8Size = 1 := by
        simpa using @lowerHex_utf8Len [char] (by simpa using digits char (by simp))
      rw [sliceTo, one, if_pos (by omega), ih
        (fun other member => digits other (List.mem_cons_of_mem _ member))
        (by simpa using inside)]
      rfl

theorem temporaryTunName?_eq {token : String}
    (hex : validLowerHex token ownershipTokenBytes = true) :
    temporaryTunName? token = some (temporaryTunName token) := by
  simp only [validLowerHex, Bool.and_eq_true, decide_eq_true_eq, List.all_eq_true] at hex
  have long : token.toList.length = 32 := by
    rw [← lowerHex_utf8Len hex.2, ← String.utf8ByteSize_ofList, String.ofList_toList, hex.1]
    rfl
  rw [temporaryTunName?, sliceTo_lowerHex hex.2 (by omega)]
  rfl

namespace VpnNetworkStateFile

/-- `new_preparing`, with the random bytes of the token. -/
def newPreparing (encoding : Encoding) (plan : VpnNetworkPlan) (token : List UInt8) :
    Fallible VpnNetworkError VpnNetworkStateFile := do
  let temporary ← expect (temporaryTunName? (hexEncode token))
  pure
    { stateVersion := vpnNetworkStateVersion
      phase := .preparing
      planFingerprint := plan.fingerprintHex
      role := plan.role
      tunName := plan.tunName
      temporaryTunName := temporary
      ownershipToken := hexEncode token
      interfaceIndex := none
      tunMtu := plan.tunMtu
      ownerUid := plan.ownerUid
      ownerGid := plan.ownerGid
      addresses := plan.addresses.map (hostPrefix encoding)
      routes := plan.routes.map (hostPrefix encoding) }

def validateShape (state : VpnNetworkStateFile) : Fallible VpnNetworkError Unit := do
  ensure (state.stateVersion = vpnNetworkStateVersion) .stateUnsupportedVersion
  ensure (validateVpnTunName state.tunName = true) .stateInvalid
  ensure (validateVpnTunName state.temporaryTunName = true) .stateInvalid
  ensure (validateVpnTunMtu state.tunMtu = true) .stateInvalid
  -- one `||` in the source: the name of the token is only taken when the token is hexadecimal
  ensure (state.tunName ≠ state.temporaryTunName ∧ state.ownerUid ≠ 0 ∧ state.ownerGid ≠ 0 ∧
    validLowerHex state.planFingerprint planFingerprintBytes = true ∧
    validLowerHex state.ownershipToken ownershipTokenBytes = true) .stateInvalid
  let temporary ← expect (temporaryTunName? state.ownershipToken)
  ensure (state.temporaryTunName = temporary ∧
    ¬(state.phase = .prepared ∧ state.interfaceIndex = none) ∧ state.interfaceIndex ≠ some 0)
    .stateInvalid

/-- `VpnNetworkState::plan`. -/
def plan (texts : AddressTexts) (state : VpnNetworkStateFile) :
    Fallible VpnNetworkError VpnNetworkPlan := do
  state.validateShape
  let addresses ← call (state.addresses.mapM (parseHostPrefix texts))
  let routes ← call (state.routes.mapM (parseHostPrefix texts))
  let plan ← call (new texts.toEncoding state.role state.tunName state.tunMtu
    state.ownerUid state.ownerGid addresses routes)
  ensure (plan.addresses.map (hostPrefix texts.toEncoding) = state.addresses ∧
    plan.routes.map (hostPrefix texts.toEncoding) = state.routes ∧
    plan.fingerprintHex = state.planFingerprint) .stateInvalid
  pure plan

end VpnNetworkStateFile

/-- What serde makes of a state and of bytes: a written state is read back. -/
structure StateCodec where
  toVecPretty : VpnNetworkStateFile → List UInt8
  /-- The state, or the line and the column of the error. -/
  fromSlice : List UInt8 → Except (Nat × Nat) VpnNetworkStateFile
  reads : ∀ state, fromSlice (toVecPretty state ++ [0x0a]) = .ok state

/-- The bytes of the file: the indented text and a line end. -/
def StateCodec.write (codec : StateCodec) (state : VpnNetworkStateFile) : List UInt8 :=
  codec.toVecPretty state ++ [0x0a]

def parseVpnNetworkState (texts : AddressTexts) (codec : StateCodec) (bytes : List UInt8) :
    Fallible VpnNetworkError VpnNetworkStateFile := do
  let state ← call ((codec.fromSlice bytes).mapError fun place =>
    .stateInvalidJson place.1 place.2)
  let _ ← state.plan texts
  pure state

/-! ## The two models -/

/-- The texts of a parsed state. -/
def VpnNetworkState.file (encoding : Encoding) (state : VpnNetworkState) : VpnNetworkStateFile where
  stateVersion := state.stateVersion
  phase := state.phase
  planFingerprint := state.planFingerprint
  role := state.role
  tunName := state.tunName
  temporaryTunName := state.temporaryTunName
  ownershipToken := state.ownershipToken
  interfaceIndex := state.interfaceIndex
  tunMtu := state.tunMtu
  ownerUid := state.ownerUid
  ownerGid := state.ownerGid
  addresses := state.addresses.map (hostPrefix encoding)
  routes := state.routes.map (hostPrefix encoding)

theorem newPreparing_file (encoding : Encoding) (plan : VpnNetworkPlan) {token : List UInt8}
    (width : token.length = ownershipTokenBytes) :
    VpnNetworkStateFile.newPreparing encoding plan token =
      pure ((newPreparing plan token).file encoding) := by
  rw [VpnNetworkStateFile.newPreparing, temporaryTunName?_eq (validLowerHex_hexEncode width)]
  rfl

theorem validateShape_file (encoding : Encoding) (state : VpnNetworkState) :
    (state.file encoding).validateShape = call state.validateShape := by
  unfold VpnNetworkStateFile.validateShape validateShape
  rw [ensure_bind_ensure, ensure_bind_ensure]
  by_cases version : state.stateVersion = vpnNetworkStateVersion
  · by_cases names : (validateVpnTunName state.tunName = true ∧
        validateVpnTunName state.temporaryTunName = true) ∧ validateVpnTunMtu state.tunMtu = true
    · by_cases fields : state.tunName ≠ state.temporaryTunName ∧ state.ownerUid ≠ 0 ∧
          state.ownerGid ≠ 0 ∧ validLowerHex state.planFingerprint planFingerprintBytes = true ∧
          validLowerHex state.ownershipToken ownershipTokenBytes = true
      · obtain ⟨apart, uid, gid, fingerprint, token⟩ := fields
        simp only [file, version, names, apart, uid, gid, fingerprint, token,
          temporaryTunName?_eq token, ensure_of, expect_some, pure_bind, ne_eq, not_false_eq_true,
          not_true_eq_false, and_self, Bool.not_true, Bool.or_self, Bool.false_eq_true, false_or,
          if_false]
        exact ensure_eq_call _ (by tauto)
      · have refused := fields
        simp only [ne_eq, not_and_or, not_not, Bool.not_eq_true] at refused
        simp only [file, version, names, fields, ensure_of, pure_bind, ne_eq,
          not_true_eq_false, and_self, Bool.not_true, Bool.or_self, Bool.false_eq_true, if_false]
        rw [if_pos (by simp only [Bool.not_eq_true']; tauto)]
        rfl
    · have refused : (!validateVpnTunName state.tunName ||
          !validateVpnTunName state.temporaryTunName ||
          !validateVpnTunMtu state.tunMtu) = true := by
        simp only [not_and_or, Bool.not_eq_true] at names
        simp only [Bool.or_eq_true, Bool.not_eq_true']
        exact names
      simp only [file, version, names, refused, ensure_of, pure_bind, ne_eq,
        not_true_eq_false, if_false, if_true]
      rfl
  · simp only [file, version, ne_eq, not_false_eq_true, if_true]
    rfl

theorem parseHostPrefixes_map (texts : AddressTexts) (addresses : List IpAddr) :
    (addresses.map (hostPrefix texts.toEncoding)).mapM (parseHostPrefix texts) = .ok addresses :=
  parseHostPrefixes_eq_ok_iff.mpr rfl

theorem hostPrefix_injective (texts : AddressTexts) :
    Function.Injective (hostPrefix texts.toEncoding) := by
  intro first second same
  have parsed := parseHostPrefix_eq_ok_iff.mpr same
  rw [parseHostPrefix_eq_ok_iff.mpr rfl] at parsed
  exact Except.ok.inj parsed

/-- On the texts of a parsed state the two models agree. -/
theorem plan_file (texts : AddressTexts) (state : VpnNetworkState) :
    (state.file texts.toEncoding).plan texts = call (state.plan texts.toEncoding) := by
  have injective := (hostPrefix_injective texts).list_map
  unfold VpnNetworkStateFile.plan plan
  rw [validateShape_file]
  simp only [file, parseHostPrefixes_map, call_bind, call_ok, pure_bind,
    injective.eq_iff]
  congr 1
  funext _
  congr 1
  funext plan
  by_cases same : plan.addresses = state.addresses ∧ plan.routes = state.routes ∧
      plan.fingerprintHex = state.planFingerprint
  · rw [ensure_of _ same, if_neg (by tauto)]
    rfl
  · rw [ensure_not _ same, if_pos (by tauto)]
    rfl

variable {texts : AddressTexts} {plan : VpnNetworkPlan}

/-- Only the texts of parsed states are accepted. -/
theorem plan_eq_pure_iff {file : VpnNetworkStateFile} :
    file.plan texts = pure plan ↔
      ∃ state : VpnNetworkState, file = state.file texts.toEncoding ∧
        state.plan texts.toEncoding = .ok plan := by
  constructor
  · intro accepted
    have parts := accepted
    unfold VpnNetworkStateFile.plan at parts
    obtain ⟨_, -, parts⟩ := bind_eq_pure_iff.mp parts
    obtain ⟨addresses, parsed, parts⟩ := bind_eq_pure_iff.mp parts
    obtain ⟨routes, parsedRoutes, -⟩ := bind_eq_pure_iff.mp parts
    have own := parseHostPrefixes_eq_ok_iff.mp (call_eq_pure_iff.mp parsed)
    have ownRoutes := parseHostPrefixes_eq_ok_iff.mp (call_eq_pure_iff.mp parsedRoutes)
    let state : VpnNetworkState := ⟨file.stateVersion, file.phase, file.planFingerprint, file.role,
      file.tunName, file.temporaryTunName, file.ownershipToken, file.interfaceIndex, file.tunMtu,
      file.ownerUid, file.ownerGid, addresses, routes⟩
    have same : file = state.file texts.toEncoding := by
      cases file
      simp only at own ownRoutes
      subst own ownRoutes
      rfl
    refine ⟨state, same, ?_⟩
    rw [same, plan_file] at accepted
    exact call_eq_pure_iff.mp accepted
  · rintro ⟨state, rfl, described⟩
    rw [plan_file, described]
    rfl

/-! ## No panics -/

theorem returns_validateShape (file : VpnNetworkStateFile) : Returns file.validateShape := by
  refine (returns_ensure _ _).bind fun _ _ => ?_
  refine (returns_ensure _ _).bind fun _ _ => ?_
  refine (returns_ensure _ _).bind fun _ _ => ?_
  refine (returns_ensure _ _).bind fun _ _ => ?_
  refine (returns_ensure _ _).bind fun _ checked => ?_
  obtain ⟨-, -, -, -, hex⟩ := ensure_eq_pure_iff.mp checked
  exact (returns_expect (temporaryTunName?_eq hex)).bind fun _ _ => returns_ensure _ _

theorem returns_plan (texts : AddressTexts) (file : VpnNetworkStateFile) :
    Returns (file.plan texts) := by
  refine (returns_validateShape file).bind fun _ _ => ?_
  refine (returns_call _).bind fun _ _ => ?_
  refine (returns_call _).bind fun _ _ => ?_
  refine (returns_call _).bind fun _ _ => ?_
  exact (returns_ensure _ _).bind fun _ _ => returns_pure _

theorem returns_parseVpnNetworkState (texts : AddressTexts) (codec : StateCodec)
    (bytes : List UInt8) : Returns (parseVpnNetworkState texts codec bytes) := by
  refine (returns_call _).bind fun state _ => ?_
  exact (returns_plan texts state).bind fun _ _ => returns_pure _

/-! ## What is accepted -/

/-- A state that is consistent: its lists are the texts of addresses in increasing order, and its
fingerprint and its temporary name are those of its other fields. -/
structure VpnNetworkStateFile.Describes (encoding : Encoding) (file : VpnNetworkStateFile)
    (plan : VpnNetworkPlan) : Prop where
  made : plan.Made encoding
  fields : (file.role, file.tunName, file.tunMtu, file.ownerUid, file.ownerGid) =
    (plan.role, plan.tunName, plan.tunMtu, plan.ownerUid, plan.ownerGid)
  addresses : file.addresses = plan.addresses.map (hostPrefix encoding)
  routes : file.routes = plan.routes.map (hostPrefix encoding)
  addresses_increase : plan.addresses.Pairwise fun first second => first.key < second.key
  routes_increase : plan.routes.Pairwise fun first second => first.key < second.key
  fingerprint : file.planFingerprint = hexEncode (encoding.digest (plan.canonicalPlan encoding))
  token : validLowerHex file.ownershipToken ownershipTokenBytes = true
  temporary : file.temporaryTunName = Vpn.temporaryTunName file.ownershipToken
  apart : file.tunName ≠ file.temporaryTunName

/-- What a plan takes over as it is. -/
theorem VpnNetworkPlan.new_fields {encoding : Encoding} {role : VpnNetworkRole} {tunName : String}
    {tunMtu : UInt16} {ownerUid ownerGid : UInt32} {routes : List IpAddr}
    (made : new encoding role tunName tunMtu ownerUid ownerGid addresses routes = .ok plan) :
    (role, tunName, tunMtu, ownerUid, ownerGid) =
      (plan.role, plan.tunName, plan.tunMtu, plan.ownerUid, plan.ownerGid) := by
  simp only [new, ite_error_eq_ok] at made
  obtain ⟨-, -, -, -, ⟨⟩⟩ := made
  rfl

theorem validateShape_eq_ok {state : VpnNetworkState} (shaped : state.validateShape = .ok ()) :
    state.tunName ≠ state.temporaryTunName ∧
      validLowerHex state.ownershipToken ownershipTokenBytes = true ∧
      state.temporaryTunName = temporaryTunName state.ownershipToken := by
  simp only [validateShape, ite_error_eq_ok, not_or, not_not, Bool.not_eq_true',
    Bool.not_eq_false] at shaped
  obtain ⟨-, -, fields, -⟩ := shaped
  exact ⟨fields.1, fields.2.2.2.2.1, fields.2.2.2.2.2.1⟩

theorem describes_of_plan {encoding : Encoding} {state : VpnNetworkState}
    (described : state.plan encoding = .ok plan) :
    (state.file encoding).Describes encoding plan := by
  obtain ⟨_, shaped, described⟩ := Checks.bind_eq_ok.mp described
  obtain ⟨found, planned, same⟩ := Checks.bind_eq_ok.mp described
  obtain ⟨apart, token, temporary⟩ := validateShape_eq_ok shaped
  have made := made_of_new planned
  obtain ⟨fields, ⟨⟩⟩ := ite_error_eq_ok.mp same
  simp only [not_or, not_not] at fields
  obtain ⟨addresses, routes, fingerprint⟩ := fields
  refine ⟨made, new_fields planned, ?_, ?_, ?_, ?_, ?_, token, temporary, apart⟩
  · rw [addresses]
    rfl
  · rw [routes]
    rfl
  · rw [← made.addresses]
    exact canonical_strict IpAddr.key_injective _
  · rw [← made.routes]
    exact canonical_strict IpAddr.key_injective _
  · rw [← made.fingerprint]
    exact fingerprint.symm

theorem VpnNetworkRole.name_injective : Function.Injective VpnNetworkRole.name := by
  rintro ⟨⟩ ⟨⟩ <;> simp [VpnNetworkRole.name]

/-- The document of a plan shows all of it but the fingerprint. -/
theorem canonicalPlan_injective {first second : VpnNetworkPlan} (one : first.Made texts.toEncoding)
    (two : second.Made texts.toEncoding)
    (same : first.canonicalPlan texts.toEncoding = second.canonicalPlan texts.toEncoding) :
    first = second := by
  simp only [canonicalPlan, Json.obj.injEq, List.cons.injEq, Prod.mk.injEq,
    Json.str.injEq, Json.num.injEq, Json.arr.injEq, true_and, and_true] at same
  obtain ⟨role, tunName, tunMtu, ownerUid, ownerGid, addresses, routes⟩ := same
  have texts_injective : Function.Injective (List.map Json.str) :=
    Function.Injective.list_map fun _ _ => Json.str.inj
  have prefixes_injective := (hostPrefix_injective texts).list_map
  have one_fingerprint := one.fingerprint
  have two_fingerprint := two.fingerprint
  have roles := VpnNetworkRole.name_injective role
  cases first
  cases second
  simp only at *
  have mtus := UInt16.toNat_inj.mp tunMtu
  have uids := UInt32.toNat_inj.mp ownerUid
  have gids := UInt32.toNat_inj.mp ownerGid
  have lists := prefixes_injective (texts_injective addresses)
  have others := prefixes_injective (texts_injective routes)
  subst roles tunName mtus uids gids lists others
  rw [one_fingerprint, two_fingerprint]
  rfl

/-- Two documents with one digest. -/
def Encoding.Collision (encoding : Encoding) (first second : Json) : Prop :=
  first ≠ second ∧ encoding.digest first = encoding.digest second

/-- The fingerprint of a state is that of no other plan, unless the hash collides. -/
theorem VpnNetworkStateFile.Describes.eq_or_collision {file : VpnNetworkStateFile}
    {other : VpnNetworkPlan} (describes : file.Describes texts.toEncoding plan)
    (made : other.Made texts.toEncoding)
    (fingerprint : other.fingerprintHex = file.planFingerprint) :
    other = plan ∨ texts.toEncoding.Collision (other.canonicalPlan texts.toEncoding)
      (plan.canonicalPlan texts.toEncoding) := by
  have digests := hexEncode_injective (fingerprint.trans describes.fingerprint)
  rw [made.fingerprint] at digests
  by_cases same : other.canonicalPlan texts.toEncoding = plan.canonicalPlan texts.toEncoding
  · exact .inl (canonicalPlan_injective made describes.made same)
  · exact .inr ⟨same, digests⟩

/-- A plan depends on the sets of its addresses and routes. -/
theorem VpnNetworkPlan.new_congr (encoding : Encoding) (role : VpnNetworkRole) (tunName : String)
    (tunMtu : UInt16) (ownerUid ownerGid : UInt32) {others routes otherRoutes : List IpAddr}
    (same : ∀ address, address ∈ addresses ↔ address ∈ others)
    (sameRoutes : ∀ route, route ∈ routes ↔ route ∈ otherRoutes) :
    new encoding role tunName tunMtu ownerUid ownerGid addresses routes =
      new encoding role tunName tunMtu ownerUid ownerGid others otherRoutes := by
  have empty : addresses = [] ↔ others = [] := by
    simp only [List.eq_nil_iff_forall_not_mem, same]
  simp only [new, empty, (canonical_eq_iff IpAddr.key_injective).mpr same,
    (canonical_eq_iff IpAddr.key_injective).mpr sameRoutes]

/-- **The journal of an interface is canonical.** A plan is the same for every permutation and
repetition of its lists. The entry of an accepted plan describes it and is read back, unless the
random name is the interface's own. No bytes make the reader panic, and every state that it
accepts is consistent and has the fingerprint of no other plan, but for a collision. -/
theorem network_journal_canonical (texts : AddressTexts) (codec : StateCodec) :
    (∀ (role : VpnNetworkRole) (tunName : String) (tunMtu : UInt16) (ownerUid ownerGid : UInt32)
        (addresses others routes otherRoutes : List IpAddr),
      (∀ address, address ∈ addresses ↔ address ∈ others) →
      (∀ route, route ∈ routes ↔ route ∈ otherRoutes) →
      VpnNetworkPlan.new texts.toEncoding role tunName tunMtu ownerUid ownerGid addresses routes =
        VpnNetworkPlan.new texts.toEncoding role tunName tunMtu ownerUid ownerGid others
          otherRoutes) ∧
    (∀ (role : VpnNetworkRole) (tunName : String) (tunMtu : UInt16) (ownerUid ownerGid : UInt32)
        (addresses routes : List IpAddr) (plan : VpnNetworkPlan) (token : List UInt8),
      VpnNetworkPlan.new texts.toEncoding role tunName tunMtu ownerUid ownerGid addresses routes =
        .ok plan →
      token.length = ownershipTokenBytes → temporaryTunName (hexEncode token) ≠ plan.tunName →
      ∃ file, VpnNetworkStateFile.newPreparing texts.toEncoding plan token = pure file ∧
        file.plan texts = pure plan ∧
        parseVpnNetworkState texts codec (codec.write file) = pure file) ∧
    (∀ bytes : List UInt8, Returns (parseVpnNetworkState texts codec bytes) ∧
      ∀ file, parseVpnNetworkState texts codec bytes = pure file →
        ∃ plan, file.Describes texts.toEncoding plan ∧
          ∀ other : VpnNetworkPlan, other.Made texts.toEncoding →
            other.fingerprintHex = file.planFingerprint →
            other = plan ∨ texts.toEncoding.Collision (other.canonicalPlan texts.toEncoding)
              (plan.canonicalPlan texts.toEncoding)) := by
  refine ⟨?_, ?_, ?_⟩
  · intro role tunName tunMtu ownerUid ownerGid addresses others routes otherRoutes same sameRoutes
    exact new_congr texts.toEncoding role tunName tunMtu ownerUid ownerGid same
      sameRoutes
  · intro role tunName tunMtu ownerUid ownerGid addresses routes plan token planned width apart
    have made := made_of_new planned
    have described : ((newPreparing plan token).file texts.toEncoding).plan texts =
        pure plan := by
      rw [plan_file, Entry.plan_eq made width .preparing, if_neg apart.symm, call_ok]
    refine ⟨_, newPreparing_file texts.toEncoding plan width, described, ?_⟩
    rw [parseVpnNetworkState, StateCodec.write, codec.reads]
    exact bind_eq_pure_iff.mpr ⟨_, rfl, bind_eq_pure_iff.mpr ⟨plan, described, rfl⟩⟩
  · intro bytes
    refine ⟨returns_parseVpnNetworkState texts codec bytes, fun file read => ?_⟩
    obtain ⟨state, -, checked⟩ := bind_eq_pure_iff.mp read
    obtain ⟨plan, planned, same⟩ := bind_eq_pure_iff.mp checked
    cases pure_eq_pure_iff.mp same
    obtain ⟨state, rfl, described⟩ := plan_eq_pure_iff.mp planned
    have describes := describes_of_plan described
    exact ⟨plan, describes, fun other made fingerprint =>
      describes.eq_or_collision made fingerprint⟩

/-! ### An instance -/

def exampleAddressTexts : AddressTexts :=
  { exampleEncoding with
    parse := fun text =>
      match Ipv4Addr.parse text, decodeHexPairs text.toUTF8.data.toList with
      | some address, _ => some (.v4 address)
      | none, .ok octets => some (.v6 (.ofOctets octets))
      | none, .error _ => none
    parse_ipv4 := fun address => by simp [exampleEncoding, Ipv4Addr.parse_text]
    parse_ipv6 := fun address => by
      simp only [exampleEncoding, Ipv4Addr.parse_eq_none (hexEncode_absent rfl _),
        decodeHexPairs_hexEncode, Ipv6Addr.ofOctets_octets]
    ipv4_slash := fun address member => (address.text_chars '/' member).2.1 rfl
    ipv6_slash := fun address => hexEncode_absent rfl address.octets }

/-- The document of the file. -/
def VpnNetworkStateFile.document (state : VpnNetworkStateFile) : Json :=
  .obj [("state_version", .num state.stateVersion.toNat), ("phase", .str state.phase.name),
    ("plan_fingerprint", .str state.planFingerprint), ("role", .str state.role.name),
    ("tun_name", .str state.tunName), ("temporary_tun_name", .str state.temporaryTunName),
    ("ownership_token", .str state.ownershipToken),
    ("interface_index", state.interfaceIndex.elim .null fun index => .num index.toNat),
    ("tun_mtu", .num state.tunMtu.toNat), ("owner_uid", .num state.ownerUid.toNat),
    ("owner_gid", .num state.ownerGid.toNat), ("addresses", .arr (state.addresses.map .str)),
    ("routes", .arr (state.routes.map .str))]

theorem VpnNetworkStatePhase.name_injective : Function.Injective VpnNetworkStatePhase.name := by
  rintro ⟨⟩ ⟨⟩ <;> simp [VpnNetworkStatePhase.name]

theorem VpnNetworkStateFile.document_injective : Function.Injective document := by
  have texts_injective : Function.Injective (List.map Json.str) :=
    Function.Injective.list_map fun _ _ => Json.str.inj
  have index_injective : Function.Injective fun index : Option UInt32 =>
      index.elim Json.null fun index => .num index.toNat := by
    rintro (_ | first) (_ | second) same
    · rfl
    · cases same
    · cases same
    · exact congrArg some (UInt32.toNat_inj.mp (Json.num.inj same))
  rintro ⟨⟩ ⟨⟩ same
  simp only [document, Json.obj.injEq, List.cons.injEq, Prod.mk.injEq, Json.str.injEq,
    Json.num.injEq, Json.arr.injEq, true_and, and_true] at same
  obtain ⟨version, phase, rfl, role, rfl, rfl, rfl, index, mtu, uid, gid, addresses, routes⟩ := same
  rw [UInt16.toNat_inj.mp version, VpnNetworkStatePhase.name_injective phase,
    VpnNetworkRole.name_injective role, index_injective index, UInt16.toNat_inj.mp mtu,
    UInt32.toNat_inj.mp uid, UInt32.toNat_inj.mp gid, texts_injective addresses,
    texts_injective routes]

/-- serde's text of a state, which is read as the state that it is written for. -/
noncomputable def exampleCodec : StateCodec where
  toVecPretty state := (state.document.pretty 0).toUTF8.data.toList
  fromSlice bytes :=
    match Function.partialInv (fun state : VpnNetworkStateFile =>
      (state.document.pretty 0).toUTF8.data.toList ++ [0x0a]) bytes with
    | none => .error (1, bytes.length)
    | some state => .ok state
  reads state := by
    rw [Function.partialInv_left]
    intro first second same
    exact VpnNetworkStateFile.document_injective (Json.pretty_injective 0 (String.toByteArray_inj.mp
      (ByteArray.ext (Array.toList_inj.mp (List.append_cancel_right same)))))

/-- Addresses out of order and with one twice. -/
def exampleHosts : List IpAddr :=
  [.v4 ⟨0x0a420003⟩, .v4 ⟨0x0a420001⟩, .v4 ⟨0x0a420003⟩]

theorem network_journal_canonical_example :
    ∃ plan file, VpnNetworkPlan.new exampleAddressTexts.toEncoding .server "fw0" 1280 1000 1000
        exampleHosts [.v4 ⟨0x0a420002⟩] = .ok plan ∧
      plan.addresses = [.v4 ⟨0x0a420001⟩, .v4 ⟨0x0a420003⟩] ∧
      file.plan exampleAddressTexts = pure plan ∧
      parseVpnNetworkState exampleAddressTexts exampleCodec (exampleCodec.write file) =
        pure file := by
  obtain ⟨-, journal, -⟩ := network_journal_canonical exampleAddressTexts exampleCodec
  obtain ⟨file, -, described, read⟩ := journal .server "fw0" 1280 1000 1000 exampleHosts
    [.v4 ⟨0x0a420002⟩] _ (List.replicate 16 0) rfl rfl (by decide)
  exact ⟨_, file, rfl, by decide, described, read⟩

end FlowWeave.Vpn
