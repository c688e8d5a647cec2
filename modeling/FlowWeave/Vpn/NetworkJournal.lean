/-
# Vpn.NetworkJournal — the entries of an interface's journal and their size

Preparing an interface writes three entries about one plan (`VpnNetworkPlan.Entry`): before
the interface exists, with its index, and when it is prepared. Each describes the plan
(`VpnNetworkPlan.Entry.plan_eq`), and its file has one line for each address
(`VpnNetworkPlan.Entry.encodedLen_eq`). The file may have 64 KiB, and a registry may have
more addresses than that (`journal_too_large`): a server's entry can be written exactly when
the lines of its registry fit (`write_fits_iff`).
-/
import FlowWeave.Vpn.IdentityConfig
import FlowWeave.Vpn.IdentityReload

namespace FlowWeave.Vpn

open Theory Theory.BigEndian Theory.Checks Json VpnNetworkPlan List VpnNetworkState

set_option autoImplicit false

/-! ## Writing -/

/-- What a helper for an interface leaves behind when it ends, as far as a write changes it: the
file of the journal. -/
structure TunWorld where
  journal : Option VpnNetworkState

/-- `VpnNetworkStateLock::write` when no file operation fails: one rename puts the new file in
place. -/
def writeNetworkState (encoding : Encoding) (state : VpnNetworkState) (world : TunWorld) :
    Except VpnNetworkError Unit × TunWorld :=
  match state.plan encoding with
  | .error error => (.error error, world)
  | .ok _ =>
    if state.encodedLen encoding > vpnNetworkStateMaxBytes then (.error .stateTooLarge, world)
    else (.ok (), { world with journal := some state })

/-! ## Plans -/

namespace VpnNetworkPlan

/-- What `VpnNetworkPlan::new` makes. -/
structure Made (encoding : Encoding) (plan : VpnNetworkPlan) : Prop where
  tunName : validateVpnTunName plan.tunName = true
  tunMtu : validateVpnTunMtu plan.tunMtu = true
  ownerUid : plan.ownerUid ≠ 0
  ownerGid : plan.ownerGid ≠ 0
  present : plan.addresses ≠ []
  addresses : canonical IpAddr.key plan.addresses = plan.addresses
  routes : canonical IpAddr.key plan.routes = plan.routes
  apart : plan.addresses.any plan.routes.contains = false
  fingerprint : plan.fingerprint = encoding.digest (plan.canonicalPlan encoding)

variable {encoding : Encoding} {plan : VpnNetworkPlan}

theorem made_of_new {role : VpnNetworkRole} {tunName : String} {tunMtu : UInt16}
    {ownerUid ownerGid : UInt32} {addresses routes : List IpAddr}
    (made : new encoding role tunName tunMtu ownerUid ownerGid addresses routes = .ok plan) :
    plan.Made encoding := by
  simp only [new, ite_error_eq_ok] at made
  obtain ⟨name, mtu, owner, disjoint, ⟨⟩⟩ := made
  simp only [not_or] at owner
  refine ⟨by simpa using name, by simpa using mtu, owner.1, owner.2.1, ?_,
    canonical_canonical _, canonical_canonical _, by simpa using disjoint, rfl⟩
  intro nothing
  apply owner.2.2
  rw [eq_nil_iff_forall_not_mem] at nothing ⊢
  exact fun address member => nothing address (mem_canonical.mpr member)

/-- A plan is made again from its own fields. -/
theorem Made.new_eq (made : plan.Made encoding) :
    new encoding plan.role plan.tunName plan.tunMtu plan.ownerUid plan.ownerGid plan.addresses
      plan.routes = .ok plan := by
  have owner : ¬(plan.ownerUid = 0 ∨ plan.ownerGid = 0 ∨ plan.addresses = []) := by
    simp only [not_or]
    exact ⟨made.ownerUid, made.ownerGid, made.present⟩
  simp only [new, made.tunName, made.tunMtu, Bool.not_true, Bool.false_eq_true, if_false,
    if_neg owner, made.addresses, made.routes, made.apart]
  have digest := made.fingerprint
  cases plan
  simp only at digest
  rw [digest]
  rfl

end VpnNetworkPlan

/-! ## Entries -/

theorem tunNameChar_of_lowerHexChar {char : Char} (digit : lowerHexChar char = true) :
    tunNameChar char = true := by
  simp only [lowerHexChar, tunNameChar, Bool.or_eq_true, Bool.and_eq_true, decide_eq_true_eq]
    at digit ⊢
  rcases digit with digit | letter
  · tauto
  · have low : char ≤ 'z' := le_trans letter.2 (by decide)
    tauto

theorem tunNameChar_plain {char : Char} (valid : tunNameChar char = true) :
    escapeChar char = [char] := by
  have range : 45 ≤ char.toNat := by
    simp only [tunNameChar, Bool.or_eq_true, Bool.and_eq_true, decide_eq_true_eq, Char.le_def,
      UInt32.le_iff_toNat_le] at valid
    rcases valid with ((((digit | upper) | lower) | rfl) | rfl) | rfl
    · exact le_trans (by decide) digit.1
    · exact le_trans (by decide) upper.1
    · exact le_trans (by decide) lower.1
    all_goals decide
  have apart (other : Char) (special : tunNameChar other = false) : char ≠ other := by
    rintro rfl
    exact absurd valid (by rw [special]; decide)
  rw [escapeChar, if_neg (apart _ (by decide)), if_neg (apart _ (by decide)),
    if_neg (apart _ (by decide)), if_neg (apart _ (by decide)), if_neg (apart _ (by decide)),
    if_neg (apart _ (by decide)), if_neg (apart _ (by decide)), if_neg (by omega)]

theorem tunName_plain {name : String} (valid : validateVpnTunName name = true) : Plain name := by
  simp only [validateVpnTunName, Bool.not_eq_true', Bool.or_eq_false_iff, Bool.not_eq_false',
    all_eq_true] at valid
  exact fun char member => tunNameChar_plain (valid.2 char member)

theorem lowerHex_utf8Len {chars : List Char} (digits : ∀ char ∈ chars, lowerHexChar char = true) :
    String.utf8Len chars = chars.length := by
  induction chars with
  | nil => rfl
  | cons char chars ih =>
    have own : char.utf8Size = 1 := by
      have digit := digits char mem_cons_self
      rw [Char.utf8Size_eq_one_iff, UInt32.le_iff_toNat_le]
      simp only [lowerHexChar, Bool.or_eq_true, Bool.and_eq_true, decide_eq_true_eq, Char.le_def,
        UInt32.le_iff_toNat_le] at digit
      rcases digit with digit | letter
      · exact le_trans digit.2 (by decide)
      · exact le_trans letter.2 (by decide)
    rw [String.utf8Len_cons, length_cons, own,
      ih fun other member => digits other (mem_cons_of_mem _ member)]

/-- The name that an interface has until it is configured: fifteen characters. -/
theorem temporaryTunName_spec {token : List UInt8} (width : token.length = ownershipTokenBytes) :
    validateVpnTunName (temporaryTunName (hexEncode token)) = true ∧
      (temporaryTunName (hexEncode token)).utf8ByteSize = 15 := by
  have hex := validLowerHex_hexEncode width
  simp only [validLowerHex, Bool.and_eq_true, decide_eq_true_eq, all_eq_true] at hex
  have digits : ∀ char ∈ (hexEncode token).toList.take 12, lowerHexChar char = true :=
    fun char member => hex.2 char (mem_of_mem_take member)
  have long : (hexEncode token).toList.length = 32 := by
    rw [← lowerHex_utf8Len hex.2, ← String.utf8ByteSize_ofList, String.ofList_toList, hex.1]
    rfl
  have size : (temporaryTunName (hexEncode token)).utf8ByteSize = 15 := by
    rw [temporaryTunName, String.utf8ByteSize_append, String.utf8ByteSize_ofList,
      String.utf8ByteSize_ofList, lowerHex_utf8Len digits, length_take, long]
    rfl
  refine ⟨?_, size⟩
  have chars : (temporaryTunName (hexEncode token)).toList =
      'f' :: 'w' :: 'v' :: (hexEncode token).toList.take 12 := by
    rw [temporaryTunName, String.toList_append, String.toList_ofList, String.toList_ofList]
    rfl
  have apart (other : String) (short : other.utf8ByteSize ≠ 15) :
      temporaryTunName (hexEncode token) ≠ other := by
    intro same
    exact short (same ▸ size)
  have named : (temporaryTunName (hexEncode token)).toList.all tunNameChar = true := by
    rw [chars]
    simp only [all_cons, Bool.and_eq_true, all_eq_true]
    exact ⟨by decide, by decide, by decide,
      fun char member => tunNameChar_of_lowerHexChar (digits char member)⟩
  have present : (temporaryTunName (hexEncode token)).isEmpty = false := by
    rw [Bool.eq_false_iff, Ne, String.isEmpty_iff]
    exact apart "" (by decide)
  simp only [validateVpnTunName, present, size, named, vpnTunNameMaxBytes]
  simp [apart "." (by decide), apart ".." (by decide)]

/-- The entries that the preparation of a plan writes. -/
inductive VpnNetworkPlan.Entry (plan : VpnNetworkPlan) (token : List UInt8) :
    VpnNetworkState → Prop
  | preparing : Entry plan token (.newPreparing plan token)
  | created (index : UInt32) (positive : index ≠ 0) :
      Entry plan token { newPreparing plan token with interfaceIndex := some index }
  | prepared (index : UInt32) (positive : index ≠ 0) :
      Entry plan token { newPreparing plan token with
        phase := .prepared, interfaceIndex := some index }

namespace VpnNetworkPlan.Entry

variable {encoding : Encoding} {plan : VpnNetworkPlan} {token : List UInt8}
  {entry : VpnNetworkState}

/-- Whatever its phase, an entry has the fields of its plan. -/
theorem eq_with (written : plan.Entry token entry) :
    entry = { newPreparing plan token with
      phase := entry.phase, interfaceIndex := entry.interfaceIndex } := by
  cases written <;> rfl

theorem index_ok (written : plan.Entry token entry) :
    ¬(entry.phase = .prepared ∧ entry.interfaceIndex = none) ∧ entry.interfaceIndex ≠ some 0 := by
  cases written with
  | preparing => exact ⟨nofun, nofun⟩
  | created index positive => exact ⟨nofun, fun zero => positive (Option.some.inj zero)⟩
  | prepared index positive => exact ⟨nofun, fun zero => positive (Option.some.inj zero)⟩

/-- An entry describes its plan, unless the interface has the name of the temporary one. -/
theorem plan_eq (made : plan.Made encoding) (width : token.length = ownershipTokenBytes)
    (written : plan.Entry token entry) :
    entry.plan encoding =
      if plan.tunName = temporaryTunName (hexEncode token) then .error .stateInvalid
      else .ok plan := by
  obtain ⟨phase, index⟩ := written.index_ok
  rw [written.eq_with]
  generalize entry.phase = entryPhase at phase
  generalize entry.interfaceIndex = entryIndex at phase index
  have fingerprint : validLowerHex plan.fingerprintHex planFingerprintBytes = true :=
    validLowerHex_hexEncode (by rw [made.fingerprint, encoding.digest_length]; rfl)
  have shape : VpnNetworkState.validateShape
      { VpnNetworkState.newPreparing plan token with
        phase := entryPhase, interfaceIndex := entryIndex } =
      if plan.tunName = temporaryTunName (hexEncode token) then .error .stateInvalid
      else .ok () := by
    simp [VpnNetworkState.validateShape, VpnNetworkState.newPreparing, made.tunName, made.tunMtu,
      (temporaryTunName_spec width).1, made.ownerUid, made.ownerGid, fingerprint,
      validLowerHex_hexEncode width, phase, index]
  rw [VpnNetworkState.plan, shape]
  split
  · rfl
  · have same := made.new_eq
    change (new encoding plan.role plan.tunName plan.tunMtu plan.ownerUid
      plan.ownerGid plan.addresses plan.routes >>= fun found =>
        if found.addresses ≠ plan.addresses ∨ found.routes ≠ plan.routes ∨
            found.fingerprintHex ≠ plan.fingerprintHex then .error .stateInvalid
        else .ok found) = .ok plan
    rw [same]
    exact if_neg (by simp)

end VpnNetworkPlan.Entry

/-! ## The size of an entry -/

/-- The bytes of a number. -/
def numberBytes (value : Nat) : Nat := (Nat.repr value).utf8ByteSize

/-- The bytes of a list of addresses: each is a line of its text, the length of its
prefix, quotes, four blanks, a comma and a line end. -/
def hostListBytes (encoding : Encoding) (addresses : List IpAddr) : Nat :=
  if addresses = [] then 2
  else (addresses.map fun address => (hostPrefix encoding address).utf8ByteSize + 8).sum + 4

theorem hostPrefix_plain (encoding : Encoding) (address : IpAddr) :
    Plain (hostPrefix encoding address) := by
  cases address with
  | v4 address => exact .append (encoding.ipv4_plain address) (.of_all (by decide))
  | v6 address => exact .append (encoding.ipv6_plain address) (.of_all (by decide))

theorem hostList_size (encoding : Encoding) (addresses : List IpAddr) :
    (pretty 1 (.arr ((addresses.map (hostPrefix encoding)).map .str))).utf8ByteSize =
      hostListBytes encoding addresses := by
  cases addresses with
  | nil =>
    show "[]".utf8ByteSize = 2
    decide
  | cons address addresses =>
    have line (address : IpAddr) : (pretty 2 (.str (hostPrefix encoding address))).utf8ByteSize =
        (hostPrefix encoding address).utf8ByteSize + 2 :=
      quote_size_of_plain (hostPrefix_plain encoding address)
    rw [hostListBytes, if_neg (cons_ne_nil _ _), map_cons, map_cons,
      pretty_arr_size]
    simp only [map_cons, map_map, Function.comp_def, Nat.reduceAdd, Nat.reduceMul, line,
      Nat.add_assoc]

/-- The bytes of a journal entry about an interface with some fields. -/
def entryBytes (encoding : Encoding) (role : VpnNetworkRole) (tunName : String) (tunMtu : UInt16)
    (ownerUid ownerGid : UInt32) (addresses routes : List IpAddr) (phase : VpnNetworkStatePhase)
    (index : Option UInt32) : Nat :=
  365 + phase.name.utf8ByteSize + role.name.utf8ByteSize + tunName.utf8ByteSize +
    index.elim 4 (fun index => numberBytes index.toNat) + numberBytes tunMtu.toNat +
    numberBytes ownerUid.toNat + numberBytes ownerGid.toNat + hostListBytes encoding addresses +
    hostListBytes encoding routes

variable {encoding : Encoding} {plan : VpnNetworkPlan} {entry : VpnNetworkState}
  {token : List UInt8}

/-- The size of an entry, exactly. -/
theorem VpnNetworkPlan.Entry.encodedLen_eq (made : plan.Made encoding)
    (width : token.length = ownershipTokenBytes) (written : plan.Entry token entry) :
    entry.encodedLen encoding =
      entryBytes encoding plan.role plan.tunName plan.tunMtu plan.ownerUid plan.ownerGid
        plan.addresses plan.routes entry.phase entry.interfaceIndex := by
  rw [written.eq_with]
  generalize entry.phase = phase
  generalize entry.interfaceIndex = index
  have keys : keyBytes 6 ["state_version", "phase", "plan_fingerprint", "role", "tun_name",
      "temporary_tun_name", "ownership_token", "interface_index", "tun_mtu", "owner_uid",
      "owner_gid", "addresses", "routes"] = 238 := by decide
  have fingerprint : (quote plan.fingerprintHex).utf8ByteSize = 66 := by
    have spec := @hexEncode_spec plan.fingerprint 32 (by
      rw [made.fingerprint, encoding.digest_length])
    rw [fingerprintHex, quote_size_of_plain spec.1, spec.2]
  have tokenSize : (quote (hexEncode token)).utf8ByteSize = 34 := by
    rw [quote_size_of_plain (hexEncode_spec width).1, (hexEncode_spec width).2]
    rfl
  have temporary : (quote (temporaryTunName (hexEncode token))).utf8ByteSize = 17 := by
    have spec := temporaryTunName_spec width
    rw [quote_size_of_plain (tunName_plain spec.1), spec.2]
  have tunName : (quote plan.tunName).utf8ByteSize = plan.tunName.utf8ByteSize + 2 :=
    quote_size_of_plain (tunName_plain made.tunName)
  have phaseSize : (quote phase.name).utf8ByteSize = phase.name.utf8ByteSize + 2 := by
    cases phase <;> decide
  have roleSize : (quote plan.role.name).utf8ByteSize = plan.role.name.utf8ByteSize + 2 := by
    cases plan.role <;> decide
  have indexSize : (pretty 1 (index.elim .null fun index => .num index.toNat)).utf8ByteSize =
      index.elim 4 (fun index => numberBytes index.toNat) := by
    cases index with
    | none =>
      show "null".utf8ByteSize = 4
      decide
    | some index => rfl
  have number (value : Nat) : (pretty 1 (.num value)).utf8ByteSize = numberBytes value := rfl
  have text (value : String) : (pretty 1 (.str value)).utf8ByteSize =
      (quote value).utf8ByteSize := rfl
  have version : numberBytes vpnNetworkStateVersion.toNat = 1 := by decide
  rw [encodedLen, document, pretty_obj_size]
  simp only [newPreparing, map_cons, map_nil, sum_cons,
    sum_nil, Nat.zero_add, keys, number, text, indexSize, hostList_size, version, fingerprint,
    tokenSize, temporary, tunName, phaseSize, roleSize, entryBytes]
  omega

/-! ## The entries of a server -/

/-- Sorting does not change the size of a list without repetitions. -/
theorem hostListBytes_canonical (encoding : Encoding) {addresses : List IpAddr}
    (distinct : addresses.Nodup) :
    hostListBytes encoding (canonical IpAddr.key addresses) = hostListBytes encoding addresses := by
  have permuted : (canonical IpAddr.key addresses).Perm addresses :=
    (perm_ext_iff_of_nodup (canonical_nodup addresses) distinct).mpr fun _ => mem_canonical
  have empty : canonical IpAddr.key addresses = [] ↔ addresses = [] :=
    ⟨fun nothing => (nothing ▸ permuted).nil_eq.symm, fun nothing => by rw [nothing]; rfl⟩
  simp only [hostListBytes, empty, (permuted.map _).sum_eq]

theorem VpnIdentityRegistry.serverAddresses_nodup (registry : VpnIdentityRegistry) :
    registry.serverAddresses.Nodup := by
  unfold serverAddresses
  cases registry.serverIpv4 <;> cases registry.serverIpv6 <;> simp

theorem writeNetworkState_result (made : plan.Made encoding)
    (width : token.length = ownershipTokenBytes) (written : plan.Entry token entry)
    (world : TunWorld) :
    (writeNetworkState encoding entry world).1 =
      if plan.tunName = temporaryTunName (hexEncode token) then .error .stateInvalid
      else if entry.encodedLen encoding > vpnNetworkStateMaxBytes then .error .stateTooLarge
      else .ok () := by
  rw [writeNetworkState, written.plan_eq made width]
  split_ifs <;> rfl

/-- The size of an entry of a server, from its config and its registry. -/
theorem serverEntry_size {config : VpnServerProductConfig} {registry : VpnIdentityRegistry}
    {ownerUid ownerGid : UInt32}
    (planned : serverNetworkPlan encoding config registry ownerUid ownerGid = .ok plan)
    (width : token.length = ownershipTokenBytes) (written : plan.Entry token entry) :
    entry.encodedLen encoding =
      entryBytes encoding .server config.tunName config.tunMtu ownerUid ownerGid
        registry.serverAddresses (registry.identities.flatMap VpnIdentity.addresses)
        entry.phase entry.interfaceIndex := by
  have size := written.encodedLen_eq (made_of_new planned) width
  obtain ⟨-, addresses, routes, fields⟩ := serverNetworkPlan_eq_ok.mp planned
  have serverList := hostListBytes_canonical encoding registry.serverAddresses_nodup
  have clientList := hostListBytes_canonical encoding
    (VpnIdentityRegistry.addresses_nodup registry.indexed.distinct)
  rw [← addresses] at serverList
  rw [← routes] at clientList
  rw [size, fields]
  simp only [entryBytes, serverList, clientList]

/-- **Writing the state of a server** does not fail for its size exactly when the addresses
of the registry fit, one to a line, beside the other fields. -/
theorem write_fits_iff {config : VpnServerProductConfig} {registry : VpnIdentityRegistry}
    {ownerUid ownerGid : UInt32}
    (planned : serverNetworkPlan encoding config registry ownerUid ownerGid = .ok plan)
    (width : token.length = ownershipTokenBytes) (written : plan.Entry token entry)
    (world : TunWorld) :
    (writeNetworkState encoding entry world).1 ≠ .error .stateTooLarge ↔
      config.tunName = temporaryTunName (hexEncode token) ∨
        entryBytes encoding .server config.tunName config.tunMtu ownerUid ownerGid
          registry.serverAddresses (registry.identities.flatMap VpnIdentity.addresses)
          entry.phase entry.interfaceIndex ≤ vpnNetworkStateMaxBytes := by
  obtain ⟨-, -, -, fields⟩ := serverNetworkPlan_eq_ok.mp planned
  have name : plan.tunName = config.tunName := by rw [fields]
  rw [writeNetworkState_result (made_of_new planned) width written, name,
    ← serverEntry_size planned width written]
  split
  · rename_i same
    exact iff_of_true nofun (.inl same)
  · rename_i different
    split
    · rename_i large
      exact iff_of_false (fun holds => holds rfl) (not_or.mpr ⟨different, Nat.not_le.mpr large⟩)
    · rename_i small
      exact iff_of_true nofun (.inr (Nat.le_of_not_lt small))

/-- A world without a journal. -/
def emptyTunWorld : TunWorld := ⟨none⟩

/-- A registry of one client fits. -/
theorem write_fits_iff_example :
    ∃ plan, serverNetworkPlan exampleEncoding exampleServerConfig
      (exampleIpv4Registry exampleFingerprint) 1000 1000 = .ok plan ∧
      (writeNetworkState exampleEncoding (.newPreparing plan (replicate 16 1))
        emptyTunWorld).1 ≠ .error .stateTooLarge := by
  obtain ⟨plan, planned, -⟩ := @ok_of_toOption_map _ _ _ (serverNetworkPlan exampleEncoding
    exampleServerConfig (exampleIpv4Registry exampleFingerprint) 1000 1000) role .server
    (by decide +kernel)
  refine ⟨plan, planned, (write_fits_iff planned (by decide) .preparing emptyTunWorld).mpr
    (.inr ?_)⟩
  change entryBytes exampleEncoding .server "fwvpn0" 1400 1000 1000 [.v4 ⟨0x0a420001⟩]
    [.v4 ⟨0x0a420002⟩] .preparing none ≤ _
  decide +kernel

/-! ## A registry that does not fit -/

/-! A file of so many clients, each with an address of its own. -/

section Many

variable {count : Nat}

/-- The addresses from 192.168.100.100 on, a hundred to an octet. -/
def manyAddress (number : Fin count) : Ipv4Addr :=
  .ofOctets [192, 168, UInt8.ofNat (100 + number.val / 100), UInt8.ofNat (100 + number.val % 100)]

def manyServerAddress : Ipv4Addr := .ofOctets [192, 168, 1, 1]

def manyRawIdentity (number : Fin count) : RawIdentity where
  clientId := hexEncode (toBE 2 number)
  fingerprints := [hexEncode (toBE 32 number)]
  enabled := true
  clientIpv4 := some (manyAddress number).text
  clientIpv6 := none
  allowedDestinations := []
  limits := ⟨1, 1, 1, 65535⟩

def manyRawRegistry (count : Nat) : RawRegistry where
  configVersion := 1
  serverIpv4 := some manyServerAddress.text
  serverIpv6 := none
  identities := (finRange count).map manyRawIdentity

theorem manyAddress_octets (number : Fin count) :
    (manyAddress number).octets =
      [192, 168, UInt8.ofNat (100 + number.val / 100), UInt8.ofNat (100 + number.val % 100)] :=
  Ipv4Addr.octets_ofOctets rfl

variable (few : count ≤ vpnMaxIdentities)

include few

theorem manyAddress_injective : Function.Injective (@manyAddress count) := by
  intro first second same
  have octets := congrArg Ipv4Addr.octets same
  rw [manyAddress_octets, manyAddress_octets] at octets
  simp only [cons.injEq, and_true, true_and] at octets
  obtain ⟨high, low⟩ := octets
  have high := congrArg UInt8.toNat high
  have low := congrArg UInt8.toNat low
  have one := first.isLt.trans_le few
  have two := second.isLt.trans_le few
  simp only [UInt8.toNat_ofNat', vpnMaxIdentities] at high low one two
  exact Fin.ext (by omega)

omit few in
theorem manyAddress_valid (number : Fin count) :
    validIpv4TunnelAddress (manyAddress number) = true := by
  have apart (other : Ipv4Addr) (head : other.octets.head? ≠ some 192) :
      manyAddress number ≠ other := by
    rintro rfl
    rw [manyAddress_octets] at head
    exact head rfl
  have unspecified := apart .unspecified (by decide)
  have broadcast := apart .broadcast (by decide)
  have first : (manyAddress number).octets.getD 0 0 = 192 := by
    rw [manyAddress_octets]
    rfl
  simp only [validIpv4TunnelAddress, Ipv4Addr.isUnspecified, Ipv4Addr.isLoopback,
    Ipv4Addr.isLinkLocal, Ipv4Addr.isMulticast, first, unspecified, broadcast, ne_eq,
    not_false_eq_true]
  rfl

theorem manyAddress_size (number : Fin count) : (manyAddress number).text.utf8ByteSize = 15 := by
  have three {value : Nat} (large : 100 ≤ value) (small : value < 256) :
      (decimalDigits (UInt8.ofNat value)).length = 3 := by
    have all : ∀ value < 256, 100 ≤ value → (decimalDigits (UInt8.ofNat value)).length = 3 := by
      decide +kernel
    exact all value small large
  have bound : number.val < 4096 := number.isLt.trans_le few
  have third := @three (100 + number.val / 100) (by omega) (by omega)
  have fourth := @three (100 + number.val % 100) (by omega) (by omega)
  rw [Ipv4Addr.text_size, manyAddress_octets]
  simp only [map_cons, map_nil, sum_cons, sum_nil, third, fourth]
  rfl

omit few in
/-- The key of an identity passes its checks. -/
theorem manyKey_valid (number : Fin count) :
    validateIdentityKey (hexEncode (toBE 2 number))
      [⟨⟨(toBE 32 number).toArray, toBE_length 32 number⟩⟩] = .ok () := by
  have size : (hexEncode (toBE 2 number)).toUTF8.data.toList.length = 4 := by
    rw [hexEncode_bytes_length, toBE_length]
  have bytes : (hexEncode (toBE 2 number)).toUTF8.data.toList.all clientIdByte = true := by
    rw [hexEncode_bytes, all_eq_true]
    intro digit member
    obtain ⟨byte, -, own⟩ := mem_flatMap.mp member
    have small := byte.toNat_lt
    rcases mem_pair.mp own with rfl | rfl
    · exact (hexDigitByte_spec (by omega)).2.2.1
    · exact (hexDigitByte_spec (by omega)).2.2.1
  unfold validateIdentityKey
  have present : (hexEncode (toBE 2 number)).toUTF8.data.toList.isEmpty = false := by
    rw [isEmpty_eq_false_iff, ← length_pos_iff, size]
    decide
  simp only [present, size, bytes]
  simp [vpnMaxClientIdLen, vpnMaxFingerprintsPerIdentity]

omit few in
theorem manyPolicy_valid (number : Fin count) :
    validateDataPolicy (some (manyAddress number)) none [] = .ok () := by
  simp [validateDataPolicy, manyAddress_valid, vpnMaxDestinationNetworksPerIdentity]

def manyIdentity (number : Fin count) : VpnIdentity where
  clientId := hexEncode (toBE 2 number)
  fingerprints := [⟨⟨(toBE 32 number).toArray, toBE_length 32 number⟩⟩]
  enabled := true
  dataPolicy := ⟨some (manyAddress number), none, [], manyPolicy_valid number⟩
  limits := ⟨1, 1, 1, 65535, by decide⟩
  valid := manyKey_valid number

omit few in
theorem parseIdentity_many (number : Fin count) :
    parseIdentity exampleTexts (manyRawIdentity number) = .ok (manyIdentity number) := by
  have fingerprint := @parseHex_hexEncode (toBE 32 number) (toBE_length 32 number)
  have built := VpnIdentity.new_eq (manyKey_valid number) true (manyPolicy_valid number)
    ⟨1, 1, 1, 65535, by decide⟩
  unfold parseIdentity manyRawIdentity
  simp only [mapM_cons, mapM_nil, fingerprint, parseAddress, exampleTexts,
    Ipv4Addr.parse_text]
  exact congrArg (Except.mapError VpnIdentityConfigError.registry) built

theorem manyIdentity_sharesNothing {first second : Fin count} (different : first ≠ second) :
    SharesNothing (manyIdentity first) (manyIdentity second) := by
  have number {width : Nat} (wide : vpnMaxIdentities ≤ 256 ^ width)
      (same : toBE width first = toBE width second) : first = second := by
    have one := @fromBE_toBE width first.val (first.isLt.trans_le (few.trans wide))
    rw [same, fromBE_toBE (second.isLt.trans_le (few.trans wide))] at one
    exact Fin.ext one.symm
  refine ⟨?_, ?_, ?_, nofun⟩
  · intro same
    exact different (number (by decide) (hexEncode_injective same))
  · intro fingerprint isFirst isSecond
    have same := (mem_singleton.mp isFirst).symm.trans (mem_singleton.mp isSecond)
    injection same with same
    injection same with same
    exact different (@number 32 (by decide) (congrArg Array.toList same))
  · intro address isFirst isSecond
    have same := isFirst.trans isSecond.symm
    exact different (manyAddress_injective few (Option.some.inj same))

/-- The registry of these identities. -/
theorem manyRegistry_indexed :
    ∃ index, indexRegistry (some manyServerAddress) none
      ((finRange count).map manyIdentity) = .ok index := by
  have apart : ([] ++ (finRange count).map manyIdentity).Pairwise SharesNothing := by
    rw [nil_append, pairwise_map]
    exact (nodup_finRange count).imp fun different =>
      manyIdentity_sharesNothing few different
  obtain ⟨index, indexed⟩ := @indexIdentities_ok (some manyServerAddress) none []
    ((finRange count).map manyIdentity) .empty indexed_empty apart (by
      intro identity member
      obtain ⟨number, -, rfl⟩ := mem_map.mp member
      refine ⟨?_, nofun⟩
      intro address own
      refine ⟨manyServerAddress, rfl, ?_⟩
      have own : manyAddress number = address := Option.some.inj own
      rintro rfl
      have octets := congrArg Ipv4Addr.octets own
      rw [manyAddress_octets, manyServerAddress, Ipv4Addr.octets_ofOctets rfl] at octets
      have third := congrArg UInt8.toNat (cons.inj (cons.inj (cons.inj octets).2).2).1
      have small := number.isLt.trans_le few
      simp only [UInt8.toNat_ofNat', vpnMaxIdentities] at third small
      have one : (1 : UInt8).toNat = 1 := rfl
      omega)
  refine ⟨index, ?_⟩
  rw [indexRegistry, if_neg (by decide), if_neg (by decide), if_neg]
  · exact indexed
  · rw [length_map, length_finRange]
    exact Nat.not_lt.mpr few

/-- The file is accepted. -/
theorem parseVpnIdentityRegistry_many :
    ∃ registry, parseVpnIdentityRegistry exampleTexts (manyRawRegistry count) = .ok registry ∧
      registry.serverIpv4 = some manyServerAddress ∧ registry.serverIpv6 = none ∧
      registry.identities = (finRange count).map manyIdentity := by
  obtain ⟨index, indexed⟩ := manyRegistry_indexed few
  have identities : ∀ numbers : List (Fin count),
      (numbers.map manyRawIdentity).mapM (parseIdentity exampleTexts) =
        .ok (numbers.map manyIdentity) := by
    intro numbers
    induction numbers with
    | nil => rfl
    | cons number numbers ih =>
      rw [map_cons, mapM_cons, parseIdentity_many, ih]
      rfl
  refine ⟨⟨some manyServerAddress, none, _, index, indexed⟩, ?_, rfl, rfl, rfl⟩
  refine parseVpnIdentityRegistry_eq rfl ?_ rfl (identities _) (VpnIdentityRegistry.new_eq indexed)
  exact congrArg (fun found => some <$> Checks.okOr VpnIdentityConfigError.invalidIpv4Address found)
    (Ipv4Addr.parse_text manyServerAddress)

/-! ### The file -/

/-- One identity of the file. -/
theorem manyRawIdentity_size (number : Fin count) :
    (manyRawIdentity number).document.compact.utf8ByteSize ≤ 400 := by
  have keys : keyBytes 2 ["client_id", "fingerprints", "enabled", "client_ipv4",
      "client_ipv6", "allowed_destinations", "limits"] = 104 := by decide
  have clientId : (compact (.str (hexEncode (toBE 2 number)))).utf8ByteSize = 6 := by
    have spec := hexEncode_spec (toBE_length 2 number)
    rw [compact, quote_size_of_plain spec.1, spec.2]
  have fingerprint : (compact (.arr [.str (hexEncode (toBE 32 number))])).utf8ByteSize = 68 := by
    have spec := hexEncode_spec (toBE_length 32 number)
    rw [compact_arr_size]
    simp only [map_cons, map_nil, sum_cons, sum_nil, compact,
      quote_size_of_plain spec.1, spec.2, Nat.reduceAdd, Nat.reduceMul]
  have address : (compact (.str (manyAddress number).text)).utf8ByteSize = 17 := by
    rw [compact, quote_size_of_plain (Ipv4Addr.text_plain _), manyAddress_size few]
  have constants : (compact (.bool true)).utf8ByteSize = 4 ∧
      (compact .null).utf8ByteSize = 4 ∧ (compact (.arr [])).utf8ByteSize = 2 ∧
      (compact (RawLimits.document ⟨1, 1, 1, 65535⟩)).utf8ByteSize ≤ 120 := by
    decide +kernel
  change (compact (.obj (_ :: _))).utf8ByteSize ≤ 400
  simp only [compact_obj_size, manyRawIdentity, optionalText, Option.elim, map_cons,
    map_nil, sum_cons, sum_nil, keys, clientId, fingerprint, address, constants]
  omega

theorem manyRawRegistry_size :
    (manyRawRegistry count).document.compact.utf8ByteSize ≤ 401 * count + 200 := by
  have keys : keyBytes 2 ["config_version", "server_ipv4", "server_ipv6", "identities"] = 62 := by
    decide
  have identities : (compact (.arr (((finRange count).map manyRawIdentity).map
      RawIdentity.document))).utf8ByteSize ≤ 401 * count + 2 := by
    have bound := @compact_arr_size_le 400 (((finRange count).map manyRawIdentity).map
      RawIdentity.document) (by simpa using manyRawIdentity_size few)
    rwa [length_map, length_map, length_finRange] at bound
  have server : (compact (.str manyServerAddress.text)).utf8ByteSize ≤ 17 := by
    rw [compact, quote_size_of_plain (Ipv4Addr.text_plain _)]
    exact Nat.add_le_add_right (Ipv4Addr.text_size_le _) 2
  have constants : (compact (.num (1 : UInt16).toNat)).utf8ByteSize = 1 ∧
      (compact .null).utf8ByteSize = 4 := by decide
  change (compact (.obj (_ :: _))).utf8ByteSize ≤ _
  simp only [compact_obj_size, manyRawRegistry, optionalText, Option.elim, map_cons,
    map_nil, sum_cons, sum_nil, keys, constants]
  omega

/-- Each client costs a line of 26 bytes. -/
theorem manyHostList_size (present : 0 < count) :
    hostListBytes exampleEncoding (((finRange count).map manyIdentity).flatMap
      VpnIdentity.addresses) = 26 * count + 4 := by
  have addresses : ((finRange count).map manyIdentity).flatMap VpnIdentity.addresses =
      (finRange count).map fun number => IpAddr.v4 (manyAddress number) := by
    rw [flatMap_map, map_eq_flatMap]
    rfl
  have nonempty : (finRange count).map (fun number => IpAddr.v4 (manyAddress number)) ≠ [] := by
    rw [Ne, map_eq_nil_iff, ← length_eq_zero_iff, length_finRange]
    omega
  have line (number : Fin count) :
      (hostPrefix exampleEncoding (.v4 (manyAddress number))).utf8ByteSize + 8 = 26 := by
    have slash : "/32".utf8ByteSize = 3 := by decide
    rw [hostPrefix, String.utf8ByteSize_append, slash]
    exact congrArg (· + 3 + 8) (manyAddress_size few number)
  rw [addresses, hostListBytes, if_neg nonempty, map_map]
  simp only [Function.comp_def, line, map_const', length_finRange, sum_replicate]
  rw [Nat.mul_comm]
  rfl

end Many

/-- **A registry that is accepted and cannot be journaled**: the file is below its limit and
the state above. -/
theorem journal_too_large :
    ∃ (registry : VpnIdentityRegistry) (config : VpnServerProductConfig) (plan : VpnNetworkPlan),
      loadVpnIdentityRegistry exampleTexts (.holding (manyRawRegistry 2560)) = .ok registry ∧
      registry.identities.length = 2560 ∧
      parseVpnServerProductConfig exampleTexts exampleRawServer "" = .ok config ∧
      serverNetworkPlan exampleEncoding config registry 1000 1000 = .ok plan ∧
      (writeNetworkState exampleEncoding (.newPreparing plan (replicate 16 1))
        emptyTunWorld).1 = .error .stateTooLarge := by
  have few : 2560 ≤ vpnMaxIdentities := by decide
  obtain ⟨registry, parsed, ipv4, ipv6, identities⟩ := parseVpnIdentityRegistry_many few
  have lines := manyHostList_size few (by decide)
  have size := manyRawRegistry_size few
  have configured : (parseVpnServerProductConfig exampleTexts exampleRawServer "").toOption.map
      (fun config => (config.tunName, config.tunMtu)) = some ("fwvpn0", 1400) := by decide +kernel
  cases accepted : parseVpnServerProductConfig exampleTexts exampleRawServer "" with
  | error error => simp [accepted, Except.toOption] at configured
  | ok config =>
    rw [accepted] at configured
    obtain ⟨name, mtu⟩ := Prod.mk.inj (Option.some.inj configured)
    have checked := parseVpnServerProductConfig_ok accepted
    let routes := canonical IpAddr.key (registry.identities.flatMap VpnIdentity.addresses)
    let addresses := canonical IpAddr.key registry.serverAddresses
    let plan : VpnNetworkPlan := ⟨.server, config.tunName, config.tunMtu, 1000, 1000, addresses,
      routes, exampleEncoding.digest (canonicalPlan exampleEncoding
        ⟨.server, config.tunName, config.tunMtu, 1000, 1000, addresses, routes, []⟩)⟩
    have planned : serverNetworkPlan exampleEncoding config registry 1000 1000 = .ok plan :=
      serverNetworkPlan_eq_ok.mpr
        ⟨⟨checked.tunName, by rw [mtu]; decide, by decide, by decide⟩, rfl, rfl, rfl⟩
    refine ⟨registry, config, plan, loadVpnIdentityRegistry_holding (size.trans (by decide))
      parsed, ?_, rfl, planned, ?_⟩
    · rw [identities, length_map, length_finRange]
    · have width : (replicate 16 (1 : UInt8)).length = ownershipTokenBytes := by decide
      have large := serverEntry_size planned width .preparing
      rw [entryBytes, identities, lines] at large
      rw [writeNetworkState_result (made_of_new planned) width .preparing,
        if_neg, if_pos]
      · have limit : vpnNetworkStateMaxBytes = 65536 := rfl
        omega
      · show config.tunName ≠ _
        rw [name]
        decide

end FlowWeave.Vpn
