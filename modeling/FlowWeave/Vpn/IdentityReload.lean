/-
# Vpn.IdentityReload — reloading identities under a prepared network

A root helper prepares the interface and the forwarding of a server from its config and
its registry (`serverNetworkPlan`, `VpnServerForwardingPlan.new`). The server later replaces
the registry without it, and checks its own summary of a candidate first
(`reload_identities` of `src/vpn_product_runtime.rs`): the server addresses and the sorted
client addresses, and with forwarding those of the enabled clients.

* `networkContract_iff`, `forwardingContract_iff` — equal summaries are equal plans;
* `reload_keeps_plans` — whatever is reloaded, the prepared plans stay the plans of the
  current registry, and they cover every address of every active session.
-/
import FlowWeave.Theory.Sha256
import FlowWeave.Vpn.ProductBootstrap
import FlowWeave.Vpn.AddressOwnership
import FlowWeave.Vpn.CoordinatorTrace

namespace FlowWeave.Vpn

open Theory.Checks VpnServerForwardingPlan VpnIdentityRegistry VpnSessionCoordinator VpnIdentity

set_option autoImplicit false

/-! ## The summaries -/

/-- The tunnel addresses of an identity, as the summaries and the plan list them. -/
def VpnIdentity.addresses (identity : VpnIdentity) : List IpAddr :=
  (identity.clientIpv4.map IpAddr.v4).toList ++ (identity.clientIpv6.map IpAddr.v6).toList

/-- `sort_unstable` on addresses. -/
def sortAddresses (addresses : List IpAddr) : List IpAddr :=
  addresses.insertionSort fun first second => first.key ≤ second.key

def serverNetworkIdentityContract (registry : VpnIdentityRegistry) :
    Option Ipv4Addr × Option Ipv6Addr × List IpAddr :=
  (registry.serverIpv4, registry.serverIpv6,
    sortAddresses (registry.identities.flatMap addresses))

def serverForwardingIdentityContract (registry : VpnIdentityRegistry) : List IpAddr :=
  sortAddresses
    ((registry.identities.filter enabled).flatMap addresses)

/-! ## The plans -/

/-- The addresses of the server's interface. -/
def VpnIdentityRegistry.serverAddresses (registry : VpnIdentityRegistry) : List IpAddr :=
  (registry.serverIpv4.map IpAddr.v4).toList ++ (registry.serverIpv6.map IpAddr.v6).toList

section

variable (encoding : Encoding)

def serverNetworkPlan (config : VpnServerProductConfig) (registry : VpnIdentityRegistry)
    (ownerUid ownerGid : UInt32) : Except VpnNetworkError VpnNetworkPlan :=
  VpnNetworkPlan.new encoding .server config.tunName config.tunMtu ownerUid ownerGid
    registry.serverAddresses (registry.identities.flatMap addresses)

/-- The forwarding plan of an activation, if forwarding is configured. -/
def serverForwardingPlan (config : VpnServerProductConfig) (networkState : VpnNetworkState)
    (registry : VpnIdentityRegistry) : Except VpnNetworkError (Option VpnServerForwardingPlan) :=
  match config.forwarding with
  | none => .ok none
  | some forwarding =>
    (new encoding networkState forwarding registry).map some

end

/-- The clients of a forwarding plan, which become the elements of the nft sets. -/
def VpnServerForwardingPlan.HasClient (plan : VpnServerForwardingPlan) : IpAddr → Prop
  | .v4 address => address ∈ plan.clientIpv4
  | .v6 address => address ∈ plan.clientIpv6

/-! ## Reloading -/

/-- The error of the identity file carries a cause that nothing looks at. -/
inductive VpnServerIdentityReloadError where
  | identity
  | identityLimitExceedsGlobalBudget
  | networkTopologyChanged
  | forwardingIdentitySetChanged
  deriving DecidableEq, Repr

def VpnServerIdentityReloadError.isTopology : VpnServerIdentityReloadError → Bool
  | .networkTopologyChanged | .forwardingIdentitySetChanged => true
  | _ => false

/-- The checks of `reload_identities` on what the identity file holds. -/
def admitCandidate (config : VpnServerProductConfig) (current : VpnIdentityRegistry)
    (loaded : Option VpnIdentityRegistry) :
    Except VpnServerIdentityReloadError VpnIdentityRegistry := do
  let candidate ← okOr .identity loaded
  (validateServerIdentityBudget config candidate).mapError
    fun _ => .identityLimitExceedsGlobalBudget
  refuseIf (serverNetworkIdentityContract current ≠ serverNetworkIdentityContract candidate)
    .networkTopologyChanged
  refuseIf (config.forwarding.isSome = true ∧
    serverForwardingIdentityContract current ≠ serverForwardingIdentityContract candidate)
    .forwardingIdentitySetChanged
  .ok candidate

/-- `reload_identities`; `none` is a panic of the coordinator. -/
def VpnServerProductBootstrap.reloadIdentities (bootstrap : VpnServerProductBootstrap)
    (loaded : Option VpnIdentityRegistry) (now : Nat) :
    Option (Except VpnServerIdentityReloadError VpnCoordinatorReloadReport ×
      List ConnectionClose × VpnServerProductBootstrap) :=
  match admitCandidate bootstrap.config bootstrap.coordinator.state.registry loaded with
  | .error error => some (.error error, [], bootstrap)
  | .ok candidate => do
    let (report, closed, coordinator) ← bootstrap.coordinator.replaceRegistry candidate now
    some (.ok report, closed, { bootstrap with coordinator := coordinator })

def CoordinatorEvent.isReload : CoordinatorEvent → Bool
  | .reloaded .. => true
  | _ => false

/-- What a running server does: it reloads, or anything else happens at its coordinator. -/
inductive ServerRun (first : VpnServerProductBootstrap) : VpnServerProductBootstrap → Prop
  | start : ServerRun first first
  | reload {bootstrap after : VpnServerProductBootstrap} {loaded : Option VpnIdentityRegistry}
      {now : Nat} {result : Except VpnServerIdentityReloadError VpnCoordinatorReloadReport}
      {closed : List ConnectionClose} (earlier : ServerRun first bootstrap)
      (returned : bootstrap.reloadIdentities loaded now = some (result, closed, after)) :
      ServerRun first after
  | other {bootstrap : VpnServerProductBootstrap} {event : CoordinatorEvent}
      {after : VpnSessionCoordinator} (earlier : ServerRun first bootstrap)
      (step : CoordinatorStep bootstrap.coordinator event after)
      (otherwise : event.isReload = false) :
      ServerRun first { bootstrap with coordinator := after }

/-! ## Addresses of a registry -/

theorem VpnIdentity.mem_addresses {identity : VpnIdentity} {address : IpAddr} :
    address ∈ identity.addresses ↔ identity.dataPolicy.permitsSource address = true := by
  cases address with
  | v4 address =>
    rw [identity_permits_v4]
    simp [addresses]
  | v6 address =>
    rw [identity_permits_v6]
    simp [addresses]

theorem VpnIdentity.addresses_nodup (identity : VpnIdentity) : identity.addresses.Nodup := by
  unfold addresses
  cases identity.clientIpv4 <;> cases identity.clientIpv6 <;> simp

namespace VpnIdentityRegistry

/-- The addresses of some of the identities do not repeat. -/
theorem addresses_nodup {identities : List VpnIdentity}
    (distinct : identities.Pairwise AddressesApart) : (identities.flatMap addresses).Nodup := by
  refine List.nodup_flatMap.mpr ⟨fun identity _ => identity.addresses_nodup, ?_⟩
  refine distinct.imp fun {first second} apart address isFirst isSecond => ?_
  rw [mem_addresses] at isFirst isSecond
  cases address with
  | v4 address =>
    exact apart.ipv4 address (identity_permits_v4.mp isFirst) (identity_permits_v4.mp isSecond)
  | v6 address =>
    exact apart.ipv6 address (identity_permits_v6.mp isFirst) (identity_permits_v6.mp isSecond)

/-- The same addresses, sorted, are the same set: nothing repeats that `dedup` would drop. -/
theorem sortAddresses_eq_iff {first second : List VpnIdentity}
    (firstDistinct : first.Pairwise AddressesApart)
    (secondDistinct : second.Pairwise AddressesApart) :
    sortAddresses (first.flatMap addresses) =
        sortAddresses (second.flatMap addresses) ↔
      ∀ address, address ∈ first.flatMap addresses ↔
        address ∈ second.flatMap addresses :=
  (insertionSort_eq_iff IpAddr.key_injective).trans
    (List.perm_ext_iff_of_nodup (addresses_nodup firstDistinct) (addresses_nodup secondDistinct))

theorem serverAddresses_eq_iff {first second : VpnIdentityRegistry} :
    (∀ address, address ∈ first.serverAddresses ↔ address ∈ second.serverAddresses) ↔
      first.serverIpv4 = second.serverIpv4 ∧ first.serverIpv6 = second.serverIpv6 := by
  constructor
  · intro same
    have ipv4 (address : Ipv4Addr) : first.serverIpv4 = some address ↔
        second.serverIpv4 = some address := by
      simpa [serverAddresses] using same (.v4 address)
    have ipv6 (address : Ipv6Addr) : first.serverIpv6 = some address ↔
        second.serverIpv6 = some address := by
      simpa [serverAddresses] using same (.v6 address)
    exact ⟨Option.ext ipv4, Option.ext ipv6⟩
  · rintro ⟨ipv4, ipv6⟩ address
    rw [serverAddresses, serverAddresses, ipv4, ipv6]

theorem serverAddresses_ne_nil (registry : VpnIdentityRegistry) :
    registry.serverAddresses ≠ [] := by
  have built := registry.built
  obtain ⟨present, -⟩ := ite_error_eq_ok.mp built
  cases ipv4 : registry.serverIpv4 <;> cases ipv6 : registry.serverIpv6 <;>
    simp_all [serverAddresses]

/-- The server has no route to its own addresses. -/
theorem serverAddress_not_client {registry : VpnIdentityRegistry} {address : IpAddr}
    (own : address ∈ registry.serverAddresses) :
    address ∉ registry.identities.flatMap addresses := by
  intro routed
  obtain ⟨identity, member, permitted⟩ := List.mem_flatMap.mp routed
  have foreign := address_ne_server member (mem_addresses.mp permitted)
  cases address with
  | v4 address =>
    simp [serverAddresses, serverAddress, IpAddr.family] at own foreign
    exact foreign own
  | v6 address =>
    simp [serverAddresses, serverAddress, IpAddr.family] at own foreign
    exact foreign own

end VpnIdentityRegistry

/-! ## Equal summaries are equal plans -/

section Plans

variable {encoding : Encoding} {config : VpnServerProductConfig} {ownerUid ownerGid : UInt32}
  {plan : VpnNetworkPlan} {current candidate : VpnIdentityRegistry}

variable {registry : VpnIdentityRegistry}

/-- What a plan depends on: the config passes or not whatever the registry, and of the
registry the plan has the two sets of addresses. -/
theorem serverNetworkPlan_eq_ok :
    serverNetworkPlan encoding config registry ownerUid ownerGid = .ok plan ↔
      (validateVpnTunName config.tunName = true ∧ validateVpnTunMtu config.tunMtu = true ∧
        ownerUid ≠ 0 ∧ ownerGid ≠ 0) ∧
      plan.addresses = canonical IpAddr.key registry.serverAddresses ∧
      plan.routes = canonical IpAddr.key (registry.identities.flatMap addresses) ∧
      plan = ⟨.server, config.tunName, config.tunMtu, ownerUid, ownerGid, plan.addresses,
        plan.routes, encoding.digest (VpnNetworkPlan.canonicalPlan encoding
          ⟨.server, config.tunName, config.tunMtu, ownerUid, ownerGid, plan.addresses,
            plan.routes, []⟩)⟩ := by
  have apart : ((canonical IpAddr.key registry.serverAddresses).any
      (canonical IpAddr.key (registry.identities.flatMap addresses)).contains) =
      false := by
    simp only [List.any_eq_false, List.contains_iff_mem, mem_canonical]
    exact fun address own => serverAddress_not_client own
  simp only [serverNetworkPlan, VpnNetworkPlan.new, ite_error_eq_ok, apart, not_or,
    registry.serverAddresses_ne_nil, Bool.not_eq_true', Bool.not_eq_false, Bool.false_eq_true,
    not_false_eq_true, and_true, true_and, Except.ok.injEq]
  constructor
  · rintro ⟨name, mtu, owner, rfl⟩
    exact ⟨⟨name, mtu, owner⟩, rfl, rfl, rfl⟩
  · rintro ⟨⟨name, mtu, owner⟩, addresses, routes, same⟩
    refine ⟨name, mtu, owner, ?_⟩
    rw [same, addresses, routes]

/-- **The network summary is the plan.** -/
theorem networkContract_iff
    (prepared : serverNetworkPlan encoding config current ownerUid ownerGid = .ok plan) :
    serverNetworkIdentityContract current = serverNetworkIdentityContract candidate ↔
      serverNetworkPlan encoding config candidate ownerUid ownerGid = .ok plan := by
  obtain ⟨checked, addresses, routes, same⟩ := serverNetworkPlan_eq_ok.mp prepared
  have summaries : serverNetworkIdentityContract current =
      serverNetworkIdentityContract candidate ↔
      (∀ address, address ∈ current.serverAddresses ↔ address ∈ candidate.serverAddresses) ∧
        ∀ address, address ∈ current.identities.flatMap VpnIdentity.addresses ↔
          address ∈ candidate.identities.flatMap VpnIdentity.addresses := by
    rw [serverAddresses_eq_iff, ← sortAddresses_eq_iff
      current.indexed.distinct candidate.indexed.distinct]
    simp only [serverNetworkIdentityContract, Prod.mk.injEq, and_assoc]
  rw [summaries, serverNetworkPlan_eq_ok, addresses, routes,
    canonical_eq_iff IpAddr.key_injective, canonical_eq_iff IpAddr.key_injective]
  rw [addresses, routes] at same
  exact ⟨fun sets => ⟨checked, sets.1, sets.2, same⟩, fun planned => ⟨planned.2.1, planned.2.2.1⟩⟩

/-- A client list of a forwarding plan is one family of the enabled addresses. -/
theorem mem_enabled_addresses {address : IpAddr} :
    address ∈ (registry.identities.filter enabled).flatMap addresses ↔
      match address with
      | .v4 address => address ∈ (registry.identities.filter enabled).filterMap
          clientIpv4
      | .v6 address => address ∈ (registry.identities.filter enabled).filterMap
          clientIpv6 := by
  simp only [List.mem_flatMap, mem_addresses]
  cases address with
  | v4 address => simp only [List.mem_filterMap, identity_permits_v4]
  | v6 address => simp only [List.mem_filterMap, identity_permits_v6]

variable {networkState : VpnNetworkState} {forwarding : VpnServerForwardingConfig}
  {forwardingPlan : VpnServerForwardingPlan}

/-- The client lists of a forwarding plan. -/
def VpnIdentityRegistry.clientLists (registry : VpnIdentityRegistry) :
    List Ipv4Addr × List Ipv6Addr :=
  (canonical Ipv4Addr.key
      ((registry.identities.filter enabled).filterMap clientIpv4),
    canonical Ipv6Addr.key
      ((registry.identities.filter enabled).filterMap clientIpv6))

theorem VpnServerForwardingPlan.new_clients
    (made : new encoding networkState forwarding registry = .ok forwardingPlan) :
    (forwardingPlan.clientIpv4, forwardingPlan.clientIpv6) = registry.clientLists := by
  unfold new at made
  split at made
  · cases made
  · obtain ⟨-, ⟨⟩⟩ := ite_error_eq_ok.mp made
    rfl

/-- A forwarding plan reads of a registry only its two client lists. -/
theorem VpnServerForwardingPlan.new_congr {first second : VpnIdentityRegistry}
    (same : first.clientLists = second.clientLists) :
    new encoding networkState forwarding first =
      new encoding networkState forwarding second := by
  obtain ⟨ipv4, ipv6⟩ := Prod.mk.inj same
  unfold new
  simp only [ipv4, ipv6]

theorem forwardingContract_eq_iff :
    serverForwardingIdentityContract current = serverForwardingIdentityContract candidate ↔
      current.clientLists = candidate.clientLists := by
  rw [serverForwardingIdentityContract, serverForwardingIdentityContract,
    sortAddresses_eq_iff (current.indexed.distinct.filter _)
      (candidate.indexed.distinct.filter _), clientLists,
    clientLists, Prod.mk.injEq, canonical_eq_iff Ipv4Addr.key_injective,
    canonical_eq_iff Ipv6Addr.key_injective]
  simp only [mem_enabled_addresses]
  constructor
  · exact fun same => ⟨fun address => same (.v4 address), fun address => same (.v6 address)⟩
  · rintro ⟨ipv4, ipv6⟩ address
    cases address with
    | v4 address => exact ipv4 address
    | v6 address => exact ipv6 address

/-- **The forwarding summary is the plan.** -/
theorem forwardingContract_iff
    (prepared : new encoding networkState forwarding current =
      .ok forwardingPlan) :
    serverForwardingIdentityContract current = serverForwardingIdentityContract candidate ↔
      new encoding networkState forwarding candidate =
        .ok forwardingPlan := by
  rw [forwardingContract_eq_iff]
  constructor
  · intro same
    rwa [← new_congr same]
  · intro made
    exact (new_clients prepared).symm.trans
      (new_clients made)

/-- The registries have the same summaries, as far as the config needs them. -/
def SameContracts (config : VpnServerProductConfig) (current candidate : VpnIdentityRegistry) :
    Prop :=
  serverNetworkIdentityContract current = serverNetworkIdentityContract candidate ∧
    (config.forwarding.isSome = true →
      serverForwardingIdentityContract current = serverForwardingIdentityContract candidate)

theorem serverForwardingPlan_iff {planned : Option VpnServerForwardingPlan}
    (forwards : serverForwardingPlan encoding config networkState current = .ok planned) :
    (config.forwarding.isSome = true →
        serverForwardingIdentityContract current = serverForwardingIdentityContract candidate) ↔
      serverForwardingPlan encoding config networkState candidate = .ok planned := by
  unfold serverForwardingPlan at forwards ⊢
  cases configured : config.forwarding with
  | none =>
    rw [configured] at forwards
    simpa using forwards
  | some forwarding =>
    rw [configured] at forwards
    cases made : new encoding networkState forwarding current with
    | error error =>
      simp only [made, Except.map] at forwards
      cases forwards
    | ok forwardingPlan =>
      simp only [made, Except.map, Except.ok.injEq] at forwards
      subst forwards
      simp only [Option.isSome_some, forall_const, forwardingContract_iff made]
      cases new encoding networkState forwarding candidate <;>
        simp [Except.map]

/-- A candidate within the budgets is admitted or refused for its topology. -/
theorem admitCandidate_cases (budget : validateServerIdentityBudget config candidate = .ok ()) :
    (admitCandidate config current (some candidate) = .ok candidate ∧
        SameContracts config current candidate) ∨
      ((∃ error, admitCandidate config current (some candidate) = .error error ∧
          error.isTopology = true) ∧ ¬ SameContracts config current candidate) := by
  simp only [admitCandidate, okOr, budget, Except.mapError, bind, Except.bind, refuseIf]
  by_cases network : serverNetworkIdentityContract current ≠ serverNetworkIdentityContract candidate
  · rw [if_pos network]
    exact .inr ⟨⟨_, rfl, rfl⟩, fun same => network same.1⟩
  · rw [if_neg network]
    by_cases forwarding : config.forwarding.isSome = true ∧
        serverForwardingIdentityContract current ≠ serverForwardingIdentityContract candidate
    · simp only [if_pos forwarding]
      exact .inr ⟨⟨_, rfl, rfl⟩, fun same => forwarding.2 (same.2 forwarding.1)⟩
    · simp only [if_neg forwarding]
      exact .inl ⟨trivial, not_not.mp network, by tauto⟩

end Plans

/-! ## Runs -/

/-- What happens at a coordinator besides a reload leaves its registry alone. -/
theorem CoordinatorStep.registry {self after : VpnSessionCoordinator} {event : CoordinatorEvent}
    (step : CoordinatorStep self event after) (otherwise : event.isReload = false) :
    after.state.registry = self.state.registry := by
  cases step with
  | allocate =>
    rcases self.allocateGeneration_cases with ⟨_, -, same⟩ | same <;> rw [same]
  | @commit session connection now result closed _ returned =>
    cases result with
    | error error =>
      obtain ⟨rfl, -⟩ := commit_refused returned
      rfl
    | ok committed => exact (commit_run returned).1.registry
  | release returned => exact (releaseIfCurrent_run returned).2.1
  | reload returned => cases otherwise
  | closeAll returned => exact (closeAll_run returned).2.1
  | operate allowed returned => rfl
  | rehashHandle rehash => rfl
  | rehash sameActive sameQuotas => rfl

/-- A reload changes nothing, or puts an admitted candidate in the registry's place. -/
theorem reloadIdentities_spec {bootstrap after : VpnServerProductBootstrap}
    {loaded : Option VpnIdentityRegistry} {now : Nat}
    {result : Except VpnServerIdentityReloadError VpnCoordinatorReloadReport}
    {closed : List ConnectionClose}
    (returned : bootstrap.reloadIdentities loaded now = some (result, closed, after)) :
    after = bootstrap ∨ ∃ candidate report coordinator,
      admitCandidate bootstrap.config bootstrap.coordinator.state.registry loaded = .ok candidate ∧
      bootstrap.coordinator.replaceRegistry candidate now = some (report, closed, coordinator) ∧
      after = { bootstrap with coordinator := coordinator } := by
  unfold VpnServerProductBootstrap.reloadIdentities at returned
  split at returned
  · cases returned
    exact .inl rfl
  · rename_i candidate admitted
    simp only [Option.bind_eq_bind, Option.bind_eq_some_iff] at returned
    obtain ⟨⟨report, closedNow, coordinator⟩, replaced, same⟩ := returned
    cases same
    exact .inr ⟨candidate, report, coordinator, admitted, replaced, rfl⟩

/-- An admitted candidate is within the budgets. -/
theorem admitCandidate_ok {config : VpnServerProductConfig}
    {current candidate : VpnIdentityRegistry} {loaded : Option VpnIdentityRegistry}
    (admitted : admitCandidate config current loaded = .ok candidate) :
    loaded = some candidate ∧ validateServerIdentityBudget config candidate = .ok () := by
  simp only [admitCandidate, bind_eq_ok, okOr_eq_ok, mapError_eq_ok] at admitted
  obtain ⟨value, isLoaded, _, budget, -, -, -, -, same⟩ := admitted
  cases same
  exact ⟨isLoaded, budget⟩

theorem buildServerBootstrap_ok {config : VpnServerProductConfig} {registry : VpnIdentityRegistry}
    {first : VpnServerProductBootstrap} (built : buildServerBootstrap config registry = .ok first) :
    first.config = config ∧ first.coordinator.state.registry = registry ∧
      withResourceLimits registry 1 config.globalReassemblyBytes
        config.globalInflightPackets = .ok first.coordinator := by
  simp only [buildServerBootstrap, bind_eq_ok, mapError_eq_ok] at built
  obtain ⟨-, -, coordinator, isCoordinator, _, -, _, -, _, -, same⟩ := built
  cases same
  obtain ⟨globalBudget, rfl⟩ := withResourceLimits_eq_ok isCoordinator
  exact ⟨rfl, rfl, isCoordinator⟩

namespace ServerRun

variable {first bootstrap : VpnServerProductBootstrap} (run : ServerRun first bootstrap)
include run

theorem config : bootstrap.config = first.config := by
  induction run with
  | start => rfl
  | reload earlier returned ih =>
    rcases reloadIdentities_spec returned with rfl | ⟨_, _, _, -, -, rfl⟩
    · exact ih
    · exact ih
  | other earlier step otherwise ih => exact ih

theorem coordinatorRun : ∃ log, CoordinatorRun first.coordinator log bootstrap.coordinator := by
  induction run with
  | start => exact ⟨[], .start⟩
  | reload earlier returned ih =>
    obtain ⟨log, coordinatorRun⟩ := ih
    rcases reloadIdentities_spec returned with rfl | ⟨_, _, _, -, replaced, rfl⟩
    · exact ⟨log, coordinatorRun⟩
    · exact ⟨_, coordinatorRun.step (.reload replaced)⟩
  | other earlier step otherwise ih =>
    obtain ⟨log, coordinatorRun⟩ := ih
    exact ⟨_, coordinatorRun.step step⟩

/-- The registries of a run have one summary. -/
theorem contracts :
    SameContracts first.config first.coordinator.state.registry
      bootstrap.coordinator.state.registry := by
  induction run with
  | start => exact ⟨rfl, fun _ => rfl⟩
  | reload earlier returned ih =>
    rcases reloadIdentities_spec returned with rfl | ⟨candidate, _, _, admitted, replaced, rfl⟩
    · exact ih
    · obtain ⟨-, registry, -⟩ := replaceRegistry_run replaced
      obtain ⟨rfl, budget⟩ := admitCandidate_ok admitted
      rcases admitCandidate_cases budget with ⟨-, network, forwarding⟩ | ⟨⟨_, refused, -⟩, -⟩
      · rw [registry]
        rw [earlier.config] at forwarding
        exact ⟨ih.1.trans network,
          fun configured => (ih.2 configured).trans (forwarding configured)⟩
      · cases admitted.symm.trans refused
  | other earlier step otherwise ih =>
    rw [step.registry otherwise]
    exact ih

end ServerRun

/-- A reload within the budgets returns, and is refused only for its topology. -/
theorem reloadIdentities_topology_iff {bootstrap : VpnServerProductBootstrap} {commits : Nat}
    (safe : Safe bootstrap.coordinator commits) {candidate : VpnIdentityRegistry}
    (budget : validateServerIdentityBudget bootstrap.config candidate = .ok ()) (now : Nat) :
    ∃ result closed after,
      bootstrap.reloadIdentities (some candidate) now = some (result, closed, after) ∧
      ((∃ error, result = .error error ∧ error.isTopology = true) ↔
        ¬ SameContracts bootstrap.config bootstrap.coordinator.state.registry candidate) := by
  unfold VpnServerProductBootstrap.reloadIdentities
  rcases @admitCandidate_cases bootstrap.config bootstrap.coordinator.state.registry candidate
    budget with ⟨admitted, same⟩ | ⟨⟨error, refused, topology⟩, different⟩
  · obtain ⟨report, closed, after, replaced, -⟩ := safe.replaceRegistry candidate now
    simp only [admitted, replaced, Option.bind_eq_bind, Option.bind_some]
    exact ⟨_, _, _, rfl, iff_of_false nofun (not_not.mpr same)⟩
  · rw [refused]
    exact ⟨_, _, _, rfl, iff_of_true ⟨error, rfl, topology⟩ different⟩

/-- The plans of a registry have the addresses of its enabled identities. -/
theorem plans_cover {encoding : Encoding} {config : VpnServerProductConfig}
    {registry : VpnIdentityRegistry} {ownerUid ownerGid : UInt32} {plan : VpnNetworkPlan}
    (prepared : serverNetworkPlan encoding config registry ownerUid ownerGid = .ok plan)
    {networkState : VpnNetworkState} {planned : Option VpnServerForwardingPlan}
    (forwards : serverForwardingPlan encoding config networkState registry = .ok planned)
    {identity : VpnIdentity} (member : identity ∈ registry.identities)
    (enabled : identity.enabled = true) {address : IpAddr}
    (permitted : identity.dataPolicy.permitsSource address = true) :
    address ∈ plan.routes ∧
      ∀ forwardingPlan, planned = some forwardingPlan → forwardingPlan.HasClient address := by
  have listed := mem_addresses.mpr permitted
  obtain ⟨-, -, routes, -⟩ := serverNetworkPlan_eq_ok.mp prepared
  refine ⟨?_, ?_⟩
  · rw [routes, mem_canonical]
    exact List.mem_flatMap.mpr ⟨identity, member, listed⟩
  · rintro forwardingPlan rfl
    unfold serverForwardingPlan at forwards
    split at forwards
    · cases forwards
    · rename_i forwarding configured
      cases made : new encoding networkState forwarding registry with
      | error error =>
        rw [made] at forwards
        cases forwards
      | ok madePlan =>
        rw [made] at forwards
        cases forwards
        obtain ⟨ipv4, ipv6⟩ := Prod.mk.inj (new_clients made)
        have client := mem_enabled_addresses.mp (List.mem_flatMap.mpr
          ⟨identity, List.mem_filter.mpr ⟨member, enabled⟩, listed⟩)
        cases address with
        | v4 address =>
          rw [HasClient, ipv4, mem_canonical]
          exact client
        | v6 address =>
          rw [HasClient, ipv6, mem_canonical]
          exact client

/-- **Reloads keep the prepared network.** A helper has prepared the plans of a server's config
and registry. In every state that the server reaches by reloads, accepted or not, and by
anything else, the plans of the current registry are the prepared ones; a candidate within
the budgets is refused for its topology exactly when one of its plans is another; and the
addresses that the handle of an active session permits are routed to the interface and,
with forwarding, clients of the nft sets. -/
theorem reload_keeps_plans {encoding : Encoding} {config : VpnServerProductConfig}
    {registry : VpnIdentityRegistry} {first bootstrap : VpnServerProductBootstrap}
    (built : buildServerBootstrap config registry = .ok first) {ownerUid ownerGid : UInt32}
    {plan : VpnNetworkPlan}
    (prepared : serverNetworkPlan encoding config registry ownerUid ownerGid = .ok plan)
    {networkState : VpnNetworkState} {planned : Option VpnServerForwardingPlan}
    (forwards : serverForwardingPlan encoding config networkState registry = .ok planned)
    (run : ServerRun first bootstrap) :
    serverNetworkPlan encoding config bootstrap.coordinator.state.registry ownerUid ownerGid =
        .ok plan ∧
      serverForwardingPlan encoding config networkState bootstrap.coordinator.state.registry =
        .ok planned ∧
      (∀ candidate now, validateServerIdentityBudget config candidate = .ok () →
        ∃ result closed after,
          bootstrap.reloadIdentities (some candidate) now = some (result, closed, after) ∧
          ((∃ error, result = .error error ∧ error.isTopology = true) ↔
            serverNetworkPlan encoding config candidate ownerUid ownerGid ≠ .ok plan ∨
              serverForwardingPlan encoding config networkState candidate ≠ .ok planned)) ∧
      ∀ clientId entry handle address,
        bootstrap.coordinator.state.active.lookup clientId = some entry →
        bootstrap.coordinator.heap.handles[entry.dataPath]? = some handle →
        handle.inner.policy.permitsSource address = true →
          address ∈ plan.routes ∧
            ∀ forwardingPlan, planned = some forwardingPlan → forwardingPlan.HasClient address := by
  obtain ⟨rfl, rfl, coordinatorBuilt⟩ := buildServerBootstrap_ok built
  obtain ⟨network, forwarding⟩ := run.contracts
  have preparedNow := (networkContract_iff prepared).mp network
  have forwardsNow := (serverForwardingPlan_iff forwards).mp forwarding
  obtain ⟨log, coordinatorRun⟩ := run.coordinatorRun
  have safe := coordinatorRun.safe (.start coordinatorBuilt)
  refine ⟨preparedNow, forwardsNow, fun candidate now budget => ?_, ?_⟩
  · rw [← run.config] at budget
    obtain ⟨result, closed, after, returned, topology⟩ :=
      reloadIdentities_topology_iff safe budget now
    refine ⟨result, closed, after, returned, topology.trans ?_⟩
    rw [SameContracts, networkContract_iff preparedNow, run.config,
      serverForwardingPlan_iff forwardsNow, not_and_or]
  · intro clientId entry handle address listed found permitted
    obtain ⟨same, identity, isHandle, authorized, -, policy⟩ := safe.policy listed
    cases found.symm.trans isHandle
    rw [policy] at permitted
    obtain ⟨member, -, enabled⟩ := authorize_iff.mp authorized
    exact plans_cover preparedNow forwardsNow member enabled permitted

/-! The example server, with forwarding for IPv4, reloads a registry with a new certificate. -/

def exampleServerConfig : VpnServerProductConfig where
  listen := (.v4 .unspecified, 4433)
  certificateDer := "server.der"
  privateKeyDer := "server.key.der"
  clientCaDer := "ca.der"
  identityFile := "identities.json"
  tunName := "fwvpn0"
  tunMtu := 1400
  maxDatagramLen := 1200
  globalReassemblyBytes := 67108864
  globalInflightPackets := 8192
  forwarding := some ⟨true, true, false⟩

/-- The texts of `std` and serde's document. There is no IPv6 address in the examples. -/
def exampleEncoding : Encoding where
  ipv4 := Ipv4Addr.text
  ipv6 address := hexEncode address.octets
  digest document := Theory.Sha256.sha256 document.compact.toUTF8.data.toList
  ipv4_plain := Ipv4Addr.text_plain
  ipv6_plain address := (hexEncode_spec address.octets_length).1
  digest_length _ := Theory.Sha256.sha256_length _

/-- A client with an IPv4 address and a certificate. -/
def exampleIpv4Identity (fingerprint : VpnCertificateFingerprint) : VpnIdentity where
  clientId := "client-a"
  fingerprints := [fingerprint]
  enabled := true
  dataPolicy := .exampleOpen
  limits := .default
  valid := rfl

def exampleIpv4Registry (fingerprint : VpnCertificateFingerprint) : VpnIdentityRegistry where
  serverIpv4 := some ⟨0x0a420001⟩
  serverIpv6 := none
  identities := [exampleIpv4Identity fingerprint]
  index := ⟨AList.insert "client-a" 0 ∅, AList.insert fingerprint 0 ∅, [⟨0x0a420002⟩], []⟩
  built := rfl

/-- The certificate after a reload. -/
def exampleRenewed : VpnCertificateFingerprint := ⟨Vector.replicate 32 8⟩

/-- The journal entry of the interface of a plan. -/
def exampleNetworkState (plan : VpnNetworkPlan) : VpnNetworkState :=
  { VpnNetworkState.newPreparing plan (List.replicate 16 0) with
    phase := .prepared, interfaceIndex := some 7 }

theorem reload_keeps_plans_example :
    ∃ (first bootstrap : VpnServerProductBootstrap) (plan : VpnNetworkPlan)
        (planned : Option VpnServerForwardingPlan),
      buildServerBootstrap exampleServerConfig (exampleIpv4Registry exampleFingerprint) =
        .ok first ∧ ServerRun first bootstrap ∧
        bootstrap.coordinator.state.registry.identities.map (·.fingerprints) = [[exampleRenewed]] ∧
        serverNetworkPlan exampleEncoding exampleServerConfig
          bootstrap.coordinator.state.registry 1000 1000 = .ok plan ∧
        plan.routes = [.v4 ⟨0x0a420002⟩] ∧
        serverForwardingPlan exampleEncoding exampleServerConfig (exampleNetworkState plan)
          bootstrap.coordinator.state.registry = .ok planned ∧
        planned.map (·.clientIpv4) = some [⟨0x0a420002⟩] := by
  obtain ⟨first, built, reloads⟩ := @ok_of_toOption_map _ _ _
    (buildServerBootstrap exampleServerConfig (exampleIpv4Registry exampleFingerprint))
    (fun first => (first.reloadIdentities (some (exampleIpv4Registry exampleRenewed)) 0).map
      (·.2.2.coordinator.state.registry.identities.map (·.fingerprints)))
    (some [[exampleRenewed]]) (by decide +kernel)
  obtain ⟨plan, prepared, routes⟩ := @ok_of_toOption_map _ _ _
    (serverNetworkPlan exampleEncoding exampleServerConfig
      (exampleIpv4Registry exampleFingerprint) 1000 1000)
    VpnNetworkPlan.routes [.v4 ⟨0x0a420002⟩] (by decide +kernel)
  obtain ⟨planned, forwards, clients⟩ := @ok_of_toOption_map _ _ _
    (serverForwardingPlan exampleEncoding exampleServerConfig (exampleNetworkState plan)
      (exampleIpv4Registry exampleFingerprint)) (·.map (·.clientIpv4)) (some [⟨0x0a420002⟩]) rfl
  obtain ⟨⟨result, closed, after⟩, returned, replaced⟩ := Option.map_eq_some_iff.mp reloads
  have run := ServerRun.start.reload returned
  obtain ⟨planNow, plannedNow, -⟩ := reload_keeps_plans built prepared forwards run
  exact ⟨first, after, plan, planned, built, run, replaced, planNow, routes, plannedNow, clients⟩

end FlowWeave.Vpn
