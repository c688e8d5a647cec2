/-
# Vpn.Registry — what a registry that could be built promises

`Indexed` is the invariant of the pass over the identities: the two indexes point
exactly at the owners of each client id and fingerprint, and no tunnel address has
two owners or is the server's. `indexIdentity_indexed` is one round,
`VpnIdentityRegistry.indexed` the whole registry. From it:

* `authorize_iff` — `authorize` answers the enabled identity that lists the
  fingerprint, and there is at most one;
* `identityByClientId_iff`, `identity_eq_of_address` — client ids and tunnel
  addresses have one owner;
* `address_ne_server` — no client has the server's address.
-/
import FlowWeave.Vpn.Identity

namespace FlowWeave.Vpn

open Theory Theory.Checks

set_option autoImplicit false

/-! ## Policies -/

namespace VpnDataPolicy

/-- Everything the checks of a policy establish. -/
structure Checked (policy : VpnDataPolicy) : Prop where
  someAddress : policy.clientIpv4.isSome ∨ policy.clientIpv6.isSome
  ipv4 : ∀ address, policy.clientIpv4 = some address → validIpv4TunnelAddress address = true
  ipv6 : ∀ address, policy.clientIpv6 = some address → validIpv6TunnelAddress address = true
  family4 : ∀ network ∈ policy.allowedDestinations, network.family = .ipv4 →
    policy.clientIpv4.isSome
  family6 : ∀ network ∈ policy.allowedDestinations, network.family = .ipv6 →
    policy.clientIpv6.isSome

theorem checked (policy : VpnDataPolicy) : policy.Checked := by
  have valid := policy.valid
  simp only [validateDataPolicy, ite_error_eq_ok, not_or, Option.any_eq_true, List.any_eq_true,
    not_exists, not_and, Bool.not_eq_true, Bool.not_eq_false'] at valid
  obtain ⟨present, addresses, -, -, families, -⟩ := valid
  refine ⟨?_, addresses.1, addresses.2, ?_, ?_⟩
  · cases first : policy.clientIpv4 <;> cases second : policy.clientIpv6 <;> simp_all
  · intro network member isV4
    have available := families network member
    cases network with
    | V4 network prefixLen short canonical => simpa using available
    | V6 => cases isV4
  · intro network member isV6
    have available := families network member
    cases network with
    | V4 => cases isV6
    | V6 network prefixLen short canonical => simpa using available

end VpnDataPolicy

/-! ## The pass over the identities -/

section Pass

variable {serverIpv4 : Option Ipv4Addr} {serverIpv6 : Option Ipv6Addr}

/-- An address that is there and not the server's. -/
def Apart {A : Type} (client server : Option A) : Prop :=
  ∀ address, client = some address → ∃ own, server = some own ∧ address ≠ own

/-- Two identities without a common tunnel address. -/
structure AddressesApart (first second : VpnIdentity) : Prop where
  ipv4 : ∀ address, first.clientIpv4 = some address → second.clientIpv4 ≠ some address
  ipv6 : ∀ address, first.clientIpv6 = some address → second.clientIpv6 ≠ some address

instance : Std.Symm AddressesApart where
  symm _ _ apart :=
    ⟨fun address owned again => apart.ipv4 address again owned,
      fun address owned again => apart.ipv6 address again owned⟩

/-- What the indexes say after the identities `done`. -/
structure Indexed (serverIpv4 : Option Ipv4Addr) (serverIpv6 : Option Ipv6Addr)
    (done : List VpnIdentity) (index : RegistryIndex) : Prop where
  clientIds : ∀ clientId position, index.identityByClientId.lookup clientId = some position ↔
    ∃ identity, done[position]? = some identity ∧ identity.clientId = clientId
  fingerprints : ∀ fingerprint position,
    index.identityByFingerprint.lookup fingerprint = some position ↔
      ∃ identity, done[position]? = some identity ∧ fingerprint ∈ identity.fingerprints
  ipv4 : ∀ address, address ∈ index.ipv4Addresses ↔
    ∃ identity ∈ done, identity.clientIpv4 = some address
  ipv6 : ∀ address, address ∈ index.ipv6Addresses ↔
    ∃ identity ∈ done, identity.clientIpv6 = some address
  distinct : done.Pairwise AddressesApart
  server : ∀ identity ∈ done, Apart identity.clientIpv4 serverIpv4 ∧
    Apart identity.clientIpv6 serverIpv6

theorem insertFingerprints_lookup {position : Nat} {fingerprints : List VpnCertificateFingerprint}
    {table after : Table VpnCertificateFingerprint Nat}
    (inserted : insertFingerprints position fingerprints table = .ok after)
    (fingerprint : VpnCertificateFingerprint) (found : Nat) :
    after.lookup fingerprint = some found ↔
      (fingerprint ∈ fingerprints ∧ found = position) ∨ table.lookup fingerprint = some found := by
  induction fingerprints generalizing table with
  | nil =>
    cases inserted
    simp
  | cons head rest ih =>
    obtain ⟨fresh, inserted⟩ := ite_error_eq_ok.mp inserted
    have absent : table.lookup head = none := by simpa using fresh
    rw [ih inserted]
    by_cases same : fingerprint = head
    · subst same
      rw [AList.lookup_insert, absent]
      simp only [List.mem_cons, true_or, true_and, reduceCtorEq, or_false, Option.some.injEq]
      constructor
      · rintro (⟨-, rfl⟩ | rfl) <;> rfl
      · rintro rfl
        exact Or.inr rfl
    · rw [AList.lookup_insert_ne same]
      simp [same]

theorem apart_of_checks {A : Type} [DecidableEq A] {client server : Option A}
    (available : client.isSome → ¬ server.isNone) (different : ¬ sameAddress client server = true) :
    Apart client server := by
  intro address present
  subst present
  cases server with
  | none => simp at available
  | some own => exact ⟨own, rfl, by simpa [sameAddress] using different⟩

/-- A lookup in a list that grew by one element. -/
theorem getElem?_append_singleton {α : Type} {xs : List α} {x y : α} {position : Nat} :
    (xs ++ [x])[position]? = some y ↔
      xs[position]? = some y ∨ (position = xs.length ∧ x = y) := by
  grind

/-- **One round of the pass.** -/
theorem indexIdentity_indexed {done : List VpnIdentity} {identity : VpnIdentity}
    {index after : RegistryIndex} (indexed : Indexed serverIpv4 serverIpv6 done index)
    (succeeds : indexIdentity serverIpv4 serverIpv6 identity done.length index = .ok after) :
    Indexed serverIpv4 serverIpv6 (done ++ [identity]) after := by
  simp only [indexIdentity, ite_error_eq_ok, bind_eq_ok, not_or, Option.any_eq_true,
    decide_eq_true_eq, not_exists, not_and] at succeeds
  obtain ⟨-, -, available, different, newId, byFingerprint, inserted, ⟨new4, new6⟩, ⟨⟩⟩ := succeeds
  have absent : index.identityByClientId.lookup identity.clientId = none := by simpa using newId
  refine ⟨?_, ?_, ?_, ?_, ?_, ?_⟩
  · intro clientId position
    simp only [getElem?_append_singleton]
    by_cases same : clientId = identity.clientId
    · subst same
      rw [AList.lookup_insert]
      constructor
      · intro here
        cases here
        exact ⟨identity, Or.inr ⟨rfl, rfl⟩, rfl⟩
      · rintro ⟨other, old | ⟨rfl, rfl⟩, sameId⟩
        · have found := (indexed.clientIds identity.clientId position).mpr ⟨other, old, sameId⟩
          rw [absent] at found
          cases found
        · rfl
    · rw [AList.lookup_insert_ne same, indexed.clientIds]
      constructor
      · rintro ⟨other, old, sameId⟩
        exact ⟨other, Or.inl old, sameId⟩
      · rintro ⟨other, old | ⟨-, rfl⟩, sameId⟩
        · exact ⟨other, old, sameId⟩
        · exact absurd sameId.symm same
  · intro fingerprint position
    simp only [getElem?_append_singleton]
    rw [insertFingerprints_lookup inserted, indexed.fingerprints]
    constructor
    · rintro (⟨listed, rfl⟩ | ⟨other, old, listed⟩)
      · exact ⟨identity, Or.inr ⟨rfl, rfl⟩, listed⟩
      · exact ⟨other, Or.inl old, listed⟩
    · rintro ⟨other, old | ⟨rfl, rfl⟩, listed⟩
      · exact Or.inr ⟨other, old, listed⟩
      · exact Or.inl ⟨listed, rfl⟩
  · intro address
    simp [indexed.ipv4, or_comm]
  · intro address
    simp [indexed.ipv6, or_comm]
  · rw [List.pairwise_append]
    refine ⟨indexed.distinct, List.pairwise_singleton _ _, ?_⟩
    intro other member last isLast
    rw [List.mem_singleton] at isLast
    subst isLast
    refine ⟨fun address owned again => ?_, fun address owned again => ?_⟩
    · exact new4 address again ((indexed.ipv4 address).mpr ⟨other, member, owned⟩)
    · exact new6 address again ((indexed.ipv6 address).mpr ⟨other, member, owned⟩)
  · intro other member
    rcases List.mem_append.mp member with old | new
    · exact indexed.server other old
    · rw [List.mem_singleton] at new
      subst new
      exact ⟨apart_of_checks available.1 different.1, apart_of_checks available.2 different.2⟩

theorem indexIdentities_indexed {done rest : List VpnIdentity} {index after : RegistryIndex}
    (indexed : Indexed serverIpv4 serverIpv6 done index)
    (succeeds : indexIdentities serverIpv4 serverIpv6 done.length rest index = .ok after) :
    Indexed serverIpv4 serverIpv6 (done ++ rest) after := by
  induction rest generalizing done index with
  | nil =>
    cases succeeds
    simpa using indexed
  | cons identity rest ih =>
    obtain ⟨next, round, succeeds⟩ := bind_eq_ok.mp succeeds
    have length : (done ++ [identity]).length = done.length + 1 := by simp
    rw [← length] at succeeds
    simpa using ih (indexIdentity_indexed indexed round) succeeds

theorem indexed_empty : Indexed serverIpv4 serverIpv6 [] RegistryIndex.empty := by
  refine ⟨?_, ?_, ?_, ?_, List.Pairwise.nil, ?_⟩ <;> simp [RegistryIndex.empty]

end Pass

/-! ## The registry -/

/-- The tunnel address of a family. -/
def VpnIdentity.clientAddress (identity : VpnIdentity) : AddressFamily → Option IpAddr
  | .ipv4 => identity.clientIpv4.map .v4
  | .ipv6 => identity.clientIpv6.map .v6

namespace VpnIdentityRegistry

/-- **A registry is indexed.** -/
theorem indexed (registry : VpnIdentityRegistry) :
    Indexed registry.serverIpv4 registry.serverIpv6 registry.identities registry.index := by
  have built := registry.built
  simp only [indexRegistry, ite_error_eq_ok] at built
  simpa using indexIdentities_indexed indexed_empty built.2.2.2

theorem server_valid (registry : VpnIdentityRegistry) :
    (∀ address, registry.serverIpv4 = some address → validIpv4TunnelAddress address = true) ∧
      ∀ address, registry.serverIpv6 = some address → validIpv6TunnelAddress address = true := by
  have built := registry.built
  simp only [indexRegistry, ite_error_eq_ok, not_or, Option.any_eq_true, not_exists, not_and,
    Bool.not_eq_true, Bool.not_eq_false'] at built
  exact built.2.1

/-- An index that points at the elements with a property finds exactly these. -/
theorem bind_getElem?_iff {α : Type} {xs : List α} {property : α → Prop} {index : Option Nat}
    {x : α}
    (points : ∀ position, index = some position ↔ ∃ x, xs[position]? = some x ∧ property x) :
    (index.bind fun position => xs[position]?) = some x ↔ x ∈ xs ∧ property x := by
  rw [Option.bind_eq_some_iff]
  constructor
  · rintro ⟨position, found, here⟩
    obtain ⟨owner, there, holds⟩ := (points position).mp found
    rw [here] at there
    cases there
    exact ⟨List.mem_of_getElem? here, holds⟩
  · rintro ⟨member, holds⟩
    obtain ⟨position, here⟩ := List.mem_iff_getElem?.mp member
    exact ⟨position, (points position).mpr ⟨x, here, holds⟩, here⟩

variable {identity : VpnIdentity} {registry : VpnIdentityRegistry} {address : IpAddr}

/-- **`authorize`** answers the enabled identity that lists the fingerprint. -/
theorem authorize_iff {fingerprint : VpnCertificateFingerprint} :
    registry.authorize fingerprint = .ok identity ↔
      identity ∈ registry.identities ∧ fingerprint ∈ identity.fingerprints ∧
        identity.enabled = true := by
  rw [← and_assoc, ← bind_getElem?_iff (registry.indexed.fingerprints fingerprint), authorize]
  cases (registry.index.identityByFingerprint.lookup fingerprint).bind fun position =>
    registry.identities[position]? with
  | none => simp
  | some owner =>
    simp only [ite_error_eq_ok, Except.ok.injEq, Option.some.injEq]
    constructor
    · rintro ⟨enabled, rfl⟩
      exact ⟨rfl, by simpa using enabled⟩
    · rintro ⟨rfl, enabled⟩
      exact ⟨by simpa using enabled, rfl⟩

theorem identityByClientId_iff {clientId : String} :
    registry.identityByClientId clientId = some identity ↔
      identity ∈ registry.identities ∧ identity.clientId = clientId :=
  bind_getElem?_iff (registry.indexed.clientIds clientId)

theorem identity_permits_v4 {address : Ipv4Addr} :
    identity.dataPolicy.permitsSource (.v4 address) = true ↔ identity.clientIpv4 = some address :=
  decide_eq_true_iff

theorem identity_permits_v6 {address : Ipv6Addr} :
    identity.dataPolicy.permitsSource (.v6 address) = true ↔ identity.clientIpv6 = some address :=
  decide_eq_true_iff

/-- A tunnel address has one owner. -/
theorem identity_eq_of_address {first second : VpnIdentity}
    (firstMember : first ∈ registry.identities) (secondMember : second ∈ registry.identities)
    (firstOwns : first.dataPolicy.permitsSource address = true)
    (secondOwns : second.dataPolicy.permitsSource address = true) : first = second := by
  by_contra different
  have apart := registry.indexed.distinct.forall firstMember secondMember different
  cases address with
  | v4 address =>
    exact apart.ipv4 address (identity_permits_v4.mp firstOwns)
      (identity_permits_v4.mp secondOwns)
  | v6 address =>
    exact apart.ipv6 address (identity_permits_v6.mp firstOwns)
      (identity_permits_v6.mp secondOwns)

/-- A client has the addresses its policy permits as a source. -/
theorem permits_iff_clientAddress :
    identity.dataPolicy.permitsSource address = true ↔
      identity.clientAddress address.family = some address := by
  cases address with
  | v4 address => simp [identity_permits_v4, VpnIdentity.clientAddress, IpAddr.family]
  | v6 address => simp [identity_permits_v6, VpnIdentity.clientAddress, IpAddr.family]

/-- An address of the server, as the family of the asked one has it. -/
def serverAddress (registry : VpnIdentityRegistry) : AddressFamily → Option IpAddr
  | .ipv4 => registry.serverIpv4.map .v4
  | .ipv6 => registry.serverIpv6.map .v6

/-- No client has the server's address. -/
theorem address_ne_server (member : identity ∈ registry.identities)
    (owns : identity.dataPolicy.permitsSource address = true) :
    registry.serverAddress address.family ≠ some address := by
  obtain ⟨apart4, apart6⟩ := registry.indexed.server identity member
  cases address with
  | v4 address =>
    obtain ⟨own, isServer, ne⟩ := apart4 address (identity_permits_v4.mp owns)
    simpa [serverAddress, IpAddr.family, isServer] using Ne.symm ne
  | v6 address =>
    obtain ⟨own, isServer, ne⟩ := apart6 address (identity_permits_v6.mp owns)
    simpa [serverAddress, IpAddr.family, isServer] using Ne.symm ne

end VpnIdentityRegistry

end FlowWeave.Vpn
