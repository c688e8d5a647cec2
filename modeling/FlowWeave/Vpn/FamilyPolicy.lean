/-
# Vpn.FamilyPolicy — are the negotiated address families enforced?

The ACCEPT of a session names the families it is for. The client makes its policy from
the ACCEPT, so that a handle of the client lets through those families and no others
(`clientEnforces`). The server makes the policy of its handle from the identity, and
whatever families the identity has addresses and destinations for pass, negotiated
or not: `serverEnforces_iff` is the exact condition, and in
`negotiatedFamilies_not_enforced` a client that asked for IPv4 only is sent IPv6.
-/
import FlowWeave.Vpn.ClientDataPath
import FlowWeave.Vpn.CoordinatorTrace
import FlowWeave.Vpn.DataPathCalls

namespace FlowWeave.Vpn

open Theory.BigEndian Theory.Segments VpnSessionCoordinator VpnDataPolicy DataPathHeap
open Theory.SharedLedger (Program)

set_option autoImplicit false

/-! ## Families -/

/-- The capability bit of a family. -/
def AddressFamily.capability : AddressFamily → UInt32
  | .ipv4 => vpnCapIpv4
  | .ipv6 => vpnCapIpv6

/-- The HELLO asks for the family. -/
def VpnHello.Requests (hello : VpnHello) (family : AddressFamily) : Prop :=
  hello.capabilities &&& family.capability ≠ 0

/-- The ACCEPT is for the family. -/
def VpnAccept.Grants (accept : VpnAccept) (family : AddressFamily) : Prop :=
  accept.capabilities &&& family.capability ≠ 0

instance (hello : VpnHello) (family : AddressFamily) : Decidable (hello.Requests family) :=
  inferInstanceAs (Decidable (hello.capabilities &&& family.capability ≠ 0))

instance (accept : VpnAccept) (family : AddressFamily) : Decidable (accept.Grants family) :=
  inferInstanceAs (Decidable (accept.capabilities &&& family.capability ≠ 0))

/-- The address of a family that a policy permits as a source. -/
def VpnDataPolicy.clientAddress (policy : VpnDataPolicy) : AddressFamily → Option IpAddr
  | .ipv4 => policy.clientIpv4.map .v4
  | .ipv6 => policy.clientIpv6.map .v6

/-- `encode_ip_packet` or `ingest_datagram` on the handle would let a packet of the
family through, in one direction or the other. -/
def DataPathHeap.LetsThrough (heap : DataPathHeap) (budget : VpnGlobalReassemblyBudget)
    (dataPath : Nat) (family : AddressFamily) : Prop :=
  ∃ op operated direction packet metadata, heap.operate budget dataPath op = some operated ∧
    op.passed operated.reply = some (direction, packet) ∧
    inspectVpnIpPacket packet = .ok metadata ∧ metadata.source.family = family

/-- The handle that a commit of the session makes, at any coordinator and after any
run, lets through only families of the ACCEPT. -/
def ServerEnforces (session : VpnNegotiatedSession) : Prop :=
  ∀ {registry : VpnIdentityRegistry} {initialGeneration : UInt64}
    {globalReassemblyLimit globalInflightLimit : Nat}
    {first self after later : VpnSessionCoordinator} {log laterLog : List CoordinatorEvent}
    {connection now : Nat} {committed : VpnCommittedSession} {closed : List ConnectionClose}
    {family : AddressFamily},
    withResourceLimits registry initialGeneration globalReassemblyLimit
      globalInflightLimit = .ok first →
    CoordinatorRun first log self →
    self.commit session connection now = some (.ok committed, closed, after) →
    CoordinatorRun after laterLog later →
    later.heap.LetsThrough later.globalBudget committed.dataPath family →
    session.accept.Grants family

/-- The handle that a client builds from the ACCEPT, with any config and after any run,
lets through only families of the ACCEPT. -/
def ClientEnforces (accept : VpnAccept) : Prop :=
  ∀ {config : VpnClientDataPathConfig} {now : Nat}
    {first self after later : VpnClientDataPathFactory} {log laterLog : List ClientEvent}
    {dataPath : Nat} {family : AddressFamily},
    VpnClientDataPathFactory.newAt config now = .ok first →
    ClientRun first log self →
    self.build accept = some (.ok dataPath, after) →
    ClientRun after laterLog later →
    later.heap.LetsThrough later.globalBudget dataPath family →
    accept.Grants family

/-- A handle lets a family through only if its policy has an address and a destination
of it. -/
theorem DataPathHeap.LetsThrough.policy {heap : DataPathHeap} {budget : VpnGlobalReassemblyBudget}
    {dataPath : Nat} {family : AddressFamily} (passes : heap.LetsThrough budget dataPath family)
    {handle : VpnDataPathHandle} (found : heap.handles[dataPath]? = some handle) :
    (handle.inner.policy.clientAddress family).isSome ∧
      ∃ network ∈ handle.inner.policy.allowedDestinations, network.family = family := by
  obtain ⟨op, operated, direction, packet, metadata, ran, passed, inspected, rfl⟩ := passes
  obtain ⟨same, after, isSame, returned⟩ := operate_returns ran
  cases found.symm.trans isSame
  obtain ⟨-, checked, allowed⟩ := DataPathOp.passed_policy returned passed
  obtain ⟨again, permits, allows⟩ := validateVpnIpPacketPolicy_iff.mp allowed
  cases again.symm.trans inspected
  have oneFamily := inspectVpnIpPacket_family inspected
  obtain ⟨family4, family6⟩ := validateVpnIpPacketPolicy_family allowed
  obtain ⟨network, member, inside⟩ := List.any_eq_true.mp allows
  have remoteFamily : (metadata.remoteSide direction).family = metadata.source.family := by
    cases direction
    · exact oneFamily.symm
    · rfl
  refine ⟨?_, network, member, (VpnIpNetwork.contains_family inside).symm.trans remoteFamily⟩
  cases which : metadata.source.family with
  | ipv4 => simpa [clientAddress] using family4 which
  | ipv6 => simpa [clientAddress] using family6 which

/-! ## The client -/

/-- **A client's handle lets through only what was negotiated.** -/
theorem clientEnforces (accept : VpnAccept) : ClientEnforces accept := by
  intro config now first self after later log laterLog dataPath family _ _ built run passes
  obtain ⟨handle, found, valid, ipv4, ipv6⟩ := VpnClientDataPathFactory.build_handle built
  obtain ⟨same, isSame, inner, -⟩ := run.extends dataPath handle found
  obtain ⟨present, -⟩ := passes.policy isSame
  rw [inner] at present
  obtain ⟨canonical4, canonical6⟩ := (VpnAccept.validate_iff.mp valid).canonical
  cases family with
  | ipv4 =>
    have isSome : accept.clientIpv4.isSome = true := by
      simpa [clientAddress, ipv4] using present
    exact of_decide_eq_true (canonical4.1.symm.trans isSome)
  | ipv6 =>
    have isSome : accept.clientIpv6.isSome = true := by
      simpa [clientAddress, ipv6] using present
    exact of_decide_eq_true (canonical6.1.symm.trans isSome)

/-! ## The server: what is enough -/

variable {registry : VpnIdentityRegistry} {globalReassemblyLimit globalInflightLimit : Nat}
  {first : VpnSessionCoordinator} {session : VpnNegotiatedSession} {initialGeneration : UInt64}
  (built : withResourceLimits registry initialGeneration
    globalReassemblyLimit globalInflightLimit = .ok first)

include built in
/-- The handle of a committed session, over any later run. -/
theorem committed_handle {self after later : VpnSessionCoordinator}
    {log laterLog : List CoordinatorEvent} {connection now : Nat} {committed : VpnCommittedSession}
    {closed : List ConnectionClose} (run : CoordinatorRun first log self)
    (returned : self.commit session connection now = some (.ok committed, closed, after))
    (laterRun : CoordinatorRun after laterLog later) :
    ∃ handle, later.heap.handles[committed.dataPath]? = some handle ∧
      handle.inner = session.dataPathInner := by
  rcases (run.safe (.start built)).commit session connection now with ⟨error, refused⟩ |
    ⟨other, otherClosed, otherAfter, succeeded, safe, listed, -⟩
  · cases returned.symm.trans refused
  · cases returned.symm.trans succeeded
    obtain ⟨handle, found, inner, -⟩ := safe.linked.handle _ _ listed
    obtain ⟨same, isSame, sameInner, -⟩ := laterRun.extends _ handle found
    exact ⟨same, isSame, sameInner.trans inner⟩

/-! ## The server: what passes -/

/-- A packet of a header only, from one address to another of its family. -/
def headerPacket : IpAddr → IpAddr → List UInt8
  | .v4 source, .v4 destination =>
    [0x45, 0, 0, 20, 0, 0, 0, 0, 64, 59, 0, 0] ++ (source.octets ++ destination.octets)
  | .v6 source, .v6 destination =>
    [0x60, 0, 0, 0, 0, 0, 59, 64] ++ (source.octets ++ destination.octets)
  | _, _ => []

theorem headerPacket_inspected {source destination : IpAddr}
    (sameFamily : source.family = destination.family) :
    inspectVpnIpPacket (headerPacket source destination) = .ok ⟨source, destination⟩ ∧
      (headerPacket source destination).length ≤ 40 := by
  cases source with
  | v4 source =>
    cases destination with
    | v6 => cases sameFamily
    | v4 destination =>
      have length : (headerPacket (.v4 source) (.v4 destination)).length = 20 := by
        simp [headerPacket]
      have from_ : slice (headerPacket (.v4 source) (.v4 destination)) 12 16 =
          source.octets := by
        simp [slice, headerPacket]
      have to_ : slice (headerPacket (.v4 source) (.v4 destination)) 16 20 =
          destination.octets := by
        simp [slice, headerPacket]
      have total : fromBE (slice (headerPacket (.v4 source) (.v4 destination)) 2 4) = 20 := by
        simp [slice, headerPacket]
        rfl
      have version : (headerPacket (.v4 source) (.v4 destination)).getD 0 0 = 0x45 := rfl
      have filled : (headerPacket (.v4 source) (.v4 destination)).isEmpty = false := rfl
      refine ⟨?_, by omega⟩
      rw [inspectVpnIpPacket, filled, length, version, inspectIpv4Packet, length, version, total,
        from_, to_, Ipv4Addr.ofOctets_octets, Ipv4Addr.ofOctets_octets]
      rfl
  | v6 source =>
    cases destination with
    | v4 => cases sameFamily
    | v6 destination =>
      have length : (headerPacket (.v6 source) (.v6 destination)).length = 40 := by
        simp [headerPacket]
      have from_ : slice (headerPacket (.v6 source) (.v6 destination)) 8 24 =
          source.octets := by
        simp [slice, headerPacket]
      have to_ : slice (headerPacket (.v6 source) (.v6 destination)) 24 40 =
          destination.octets := by
        simp [slice, headerPacket]
      have payload : fromBE (slice (headerPacket (.v6 source) (.v6 destination)) 4 6) = 0 := by
        simp [slice, headerPacket]
        rfl
      have version : (headerPacket (.v6 source) (.v6 destination)).getD 0 0 = 0x60 := rfl
      have filled : (headerPacket (.v6 source) (.v6 destination)).isEmpty = false := rfl
      refine ⟨?_, by omega⟩
      rw [inspectVpnIpPacket, filled, length, version, inspectIpv6Packet, length, payload,
        from_, to_, Ipv6Addr.ofOctets_octets, Ipv6Addr.ofOctets_octets]
      rfl

/-- `encode_ip_packet` with a limiter that admits the fragments. -/
theorem encodeIpPacket_run {inner : VpnDataPathInner} {state : VpnDataPathState}
    {direction : VpnPacketDirection} {packetId : UInt32} {packet : List UInt8}
    {maxDatagramLen now : Nat} {metadata : VpnIpPacketMeta} {fragments : List (List UInt8)}
    (limits counters : LedgerCounter → Nat) {env : DataPathEnv}
    (active : state.active = true) (fits : packet.length ≤ inner.maxIpPacketLen)
    (allowed : validateVpnIpPacketPolicy inner.policy direction packet = .ok metadata)
    (encoded : encodeVpnIpFragments packetId packet maxDatagramLen = .ok fragments)
    (admits : (env.limiter.admitDatagrams env.quotaMetrics direction
      (fragments.map List.length) now).1 = .ok ()) :
    ∃ later admitted, ((DataPathOp.encodeIpPacket direction packetId packet maxDatagramLen
      now).program inner state).run limits DataPathEnv.serveMetered counters (env, []) =
        some ((.encoded (.ok fragments), state), counters, later, admitted) := by
  have narrow : ¬ packet.length > inner.maxIpPacketLen := Nat.not_lt.mpr fits
  simp only [DataPathOp.program, VpnDataPathInner.encodeIpPacket, active, allowed, encoded,
    Bool.not_true, Bool.false_eq_true, if_false, if_neg narrow, admitDatagrams, Bind.bind,
    Program.bind, Program.run, DataPathEnv.serveMetered, DataPathEnv.serve, admits]
  exact ⟨_, _, rfl⟩

/-- A short packet is one datagram. -/
theorem packetDatagrams_short (packetId : UInt32) {packet : List UInt8} {payloadCapacity : Nat}
    (filled : 0 < packet.length) (short : packet.length ≤ payloadCapacity) :
    ∃ datagram, packetDatagrams packetId packet payloadCapacity = [datagram] ∧
      datagram.length = vpnIpDatagramHeaderLen + packet.length := by
  obtain ⟨byte, rest, rfl⟩ := List.exists_cons_of_length_pos filled
  have whole : packetSegments (byte :: rest) payloadCapacity = [(0, byte :: rest)] := by
    simp [packetSegments, chunks, chunksFuel, List.take_of_length_le short,
      List.drop_of_length_le short, chunksFuel_nil]
  refine ⟨_, by rw [packetDatagrams, whole, List.map_singleton], ?_⟩
  simp [vpnIpDatagram, vpnIpDatagramMagic, vpnIpDatagramHeaderLen]
  omega

include built in
theorem first_empty :
    first.state.registry = registry ∧ first.state.identityQuotas = ∅ ∧ first.heap = .empty := by
  obtain ⟨globalBudget, rfl⟩ := withResourceLimits_eq_ok built
  exact ⟨rfl, rfl, rfl⟩

include built in
/-- At a new coordinator that authorises it, a session is committed, and its handle is
active with a full limiter. -/
theorem first_commit {identity : VpnIdentity}
    (permitted : commitIdentity first.state.registry session = .ok identity)
    (connection now : Nat) :
    ∃ committed closed after handle limiter,
      first.commit session connection now = some (.ok committed, closed, after) ∧
        after.heap.handles[committed.dataPath]? = some handle ∧
        handle.inner = session.dataPathInner ∧ handle.state.active = true ∧
        after.heap.rateLimiters[handle.rateLimiter]? = some limiter ∧ limiter.Full := by
  have safe := Safe.start built
  rcases safe.commit session connection now with ⟨error, refused⟩ |
    ⟨committed, closed, after, succeeded, afterSafe, listed, isActive⟩
  · obtain ⟨-, failed⟩ := commit_refused refused
    cases failed.symm.trans permitted
  obtain ⟨handle, found, inner, quota⟩ := afterSafe.linked.handle _ _ listed
  obtain ⟨same, isSame, active⟩ := isActive
  cases isSame.symm.trans found
  refine ⟨committed, closed, after, handle, ?_⟩
  obtain ⟨-, _, heap, made, mid, later, -, isEntry, -, -, switchOff, reconfigures, switchOn⟩ :=
    commit_run succeeded
  have empty := (first_empty built).2
  rcases quotaEntry_run first.globalBudget isEntry with
    ⟨present, -⟩ | ⟨-, isNew, quotas, makes⟩
  · rw [empty.1] at present
    cases present
  have place : handle.rateLimiter = 0 := by
    rw [quotas, AList.lookup_insert, isNew, empty.2] at quota
    exact (Option.some.inj quota).symm
  have limiters : after.heap.rateLimiters =
      [(IdentityRateState.new session.identity.limits now).reconfigure session.identity.limits
        now] := by
    rw [switchOn.rateLimiters, reconfigures, reconfigure, switchOff.rateLimiters,
      isNew]
    cases makes
    simp only [newHandle, newLimiter, empty.2]
    rfl
  refine ⟨_, succeeded, found, inner, active, by rw [limiters, place]; rfl, ?_⟩
  exact (IdentityRateState.new_full session.identity.limits now).reconfigure now

/-- A policy has an address of the family of each of its destinations. -/
theorem VpnDataPolicy.address_of_destination {policy : VpnDataPolicy} {network : VpnIpNetwork}
    (member : network ∈ policy.allowedDestinations) :
    ∃ address, policy.clientAddress network.family = some address ∧
      address.family = network.family ∧ policy.permitsSource address = true := by
  cases family : network.family with
  | ipv4 =>
    obtain ⟨address, present⟩ :=
      Option.isSome_iff_exists.mp (policy.checked.family4 network member family)
    exact ⟨.v4 address, by simp [clientAddress, present], rfl, by simp [permitsSource, present]⟩
  | ipv6 =>
    obtain ⟨address, present⟩ :=
      Option.isSome_iff_exists.mp (policy.checked.family6 network member family)
    exact ⟨.v6 address, by simp [clientAddress, present], rfl, by simp [permitsSource, present]⟩

/-- A handle with a full limiter lets through every family that its policy has a
destination of: a header from the destination to the client's address passes. -/
theorem DataPathHeap.letsThrough_destination {heap : DataPathHeap}
    (budget : VpnGlobalReassemblyBudget) {dataPath : Nat} {handle : VpnDataPathHandle}
    {limiter : IdentityRateState} (found : heap.handles[dataPath]? = some handle)
    (active : handle.state.active = true) (wide : vpnMinIpPacketLen ≤ handle.inner.maxIpPacketLen)
    (isLimiter : heap.rateLimiters[handle.rateLimiter]? = some limiter) (full : limiter.Full)
    {network : VpnIpNetwork} (member : network ∈ handle.inner.policy.allowedDestinations) :
    heap.LetsThrough budget dataPath network.family := by
  obtain ⟨address, -, sameFamily, permits⟩ := address_of_destination member
  obtain ⟨inspected, short⟩ := headerPacket_inspected
    (network.base_family.trans sameFamily.symm)
  generalize headerPacket network.base address = packet at inspected short
  obtain ⟨filled, -⟩ := inspectVpnIpPacket_bounds inspected
  have allowed : validateVpnIpPacketPolicy handle.inner.policy .downlink packet =
      .ok ⟨network.base, address⟩ :=
    validateVpnIpPacketPolicy_iff.mpr ⟨inspected, permits,
      List.any_eq_true.mpr ⟨network, member, network.contains_base⟩⟩
  have encoded := encodeVpnIpFragments_eq 0 inspected (le_refl vpnMinQuicDatagramLen)
  obtain ⟨datagram, single, length⟩ := packetDatagrams_short 0 filled (le_trans short
    (show 40 ≤ vpnMinQuicDatagramLen - vpnIpDatagramHeaderLen by decide))
  rw [single] at encoded
  have fits : packet.length ≤ handle.inner.maxIpPacketLen :=
    le_trans short (le_trans (by decide) wide)
  let services : DataPathEnv := ⟨limiter, heap.quotaMetrics, heap.dataMetrics⟩
  have admits : (services.limiter.admitDatagrams services.quotaMetrics .downlink
      [datagram.length] 0).1 = .ok () := by
    refine full.admits _ _ ?_ ?_ _
    · rw [length]
      exact Nat.add_pos_left (by decide) _
    · rw [length]
      exact le_trans (Nat.add_le_add_left short _) (by decide)
  obtain ⟨env, admitted, runs⟩ :=
    encodeIpPacket_run budget.limits heap.counters active fits allowed encoded admits
  obtain ⟨operated, ran, replied⟩ := operate_of_run found isLimiter runs
  exact ⟨_, operated, .downlink, packet, _, ran, by rw [replied]; rfl, inspected,
    network.base_family⟩

/-! ## When the families are enforced -/

section Negotiated

variable {registry : VpnIdentityRegistry} {fingerprint : VpnCertificateFingerprint}
  {hello : VpnHello} {config : VpnServerNegotiationConfig} {generation : VpnSessionGeneration}
  {session : VpnNegotiatedSession}
  (negotiated : negotiateVpnHello registry fingerprint hello config generation = .ok session)

include negotiated

/-- What an ACCEPT is for: the families that the HELLO asks for and the identity has. -/
theorem grants_iff (family : AddressFamily) :
    session.accept.Grants family ↔
      hello.Requests family ∧ (session.identity.dataPolicy.clientAddress family).isSome := by
  obtain ⟨-, -, -, version, -, -, isProposed⟩ := negotiateVpnHello_ok negotiated
  obtain ⟨⟨flag4, flag6⟩, -⟩ := negotiatedCapabilities_flags
    (ipv4Enabled hello session.identity) (ipv6Enabled hello session.identity)
  unfold VpnAccept.Grants
  rw [isProposed]
  cases family with
  | ipv4 =>
    refine flag4.trans (ipv4Enabled_iff.trans (and_congr Iff.rfl ?_))
    simp [clientAddress, VpnIdentity.clientIpv4]
  | ipv6 =>
    refine flag6.trans (ipv6Enabled_iff.trans (and_congr Iff.rfl ?_))
    simp [clientAddress, VpnIdentity.clientIpv6]

/-- A session may be committed where it was negotiated. -/
theorem commitIdentity_negotiated : commitIdentity registry session = .ok session.identity := by
  obtain ⟨-, authorized, rfl, -⟩ := negotiateVpnHello_ok negotiated
  have same : session.identity.hasSameSessionPolicy session.identity = true :=
    VpnIdentity.hasSameSessionPolicy_iff.mpr ⟨rfl, rfl, rfl, rfl⟩
  simp [commitIdentity, authorized, same]

/-- **The server enforces the families of a session exactly if** the client asked for
every family that its identity has a destination of. -/
theorem serverEnforces_iff :
    ServerEnforces session ↔ ∀ network ∈ session.identity.dataPolicy.allowedDestinations,
      hello.Requests network.family := by
  constructor
  · intro enforces network member
    obtain ⟨first, built⟩ : ∃ first, withResourceLimits registry 1
        vpnMaxIpPacketLen 1 = .ok first := ⟨_, rfl⟩
    have permitted := commitIdentity_negotiated negotiated
    rw [← (first_empty built).1] at permitted
    obtain ⟨committed, closed, after, handle, limiter, returned, found, inner,
      active, isLimiter, full⟩ := first_commit built permitted 0 0
    have sizes := validateSizes_iff.mp (VpnAccept.validate_iff.mp session.valid).sizes
    have wide : vpnMinIpPacketLen ≤ handle.inner.maxIpPacketLen := by
      rw [inner]
      exact sizes.1
    rw [show session.identity.dataPolicy = handle.inner.policy by rw [inner]; rfl] at member
    have passes :=
      letsThrough_destination after.globalBudget found active wide isLimiter full member
    exact ((grants_iff negotiated _).mp (enforces built .start returned .start passes)).1
  · intro requested _ _ _ _ first self after later log laterLog connection now committed closed
      family built run returned laterRun passes
    obtain ⟨handle, found, inner⟩ := committed_handle built run returned laterRun
    obtain ⟨present, network, member, rfl⟩ := passes.policy found
    rw [inner] at present member
    exact (grants_iff negotiated _).mpr ⟨requested network member, present⟩

end Negotiated

/-- **When negotiated families are enforced on both ends.** For every negotiated session:
the server's handle and the client's handle let through only families of the ACCEPT if
and only if the HELLO asks for the family of every destination that the identity is
allowed. -/
theorem negotiatedFamilies_enforced_iff {registry : VpnIdentityRegistry}
    {fingerprint : VpnCertificateFingerprint} {hello : VpnHello}
    {config : VpnServerNegotiationConfig} {generation : VpnSessionGeneration}
    {session : VpnNegotiatedSession} {identity : VpnIdentity}
    (authorized : registry.authorize fingerprint = .ok identity)
    (negotiated : negotiateVpnHello registry fingerprint hello config generation = .ok session) :
    (ServerEnforces session ∧ ClientEnforces session.accept) ↔
      ∀ network ∈ identity.dataPolicy.allowedDestinations, hello.Requests network.family := by
  have same : session.identity = identity := by
    obtain ⟨-, isSession, -⟩ := negotiateVpnHello_ok negotiated
    exact Except.ok.inj (isSession.symm.trans authorized)
  rw [← same, ← serverEnforces_iff negotiated]
  exact ⟨And.left, fun enforces => ⟨enforces, clientEnforces session.accept⟩⟩

/-! The example identity has addresses and destinations of both families. A client that
asks for both is served as negotiated; one that asks for IPv4 only is sent IPv6. -/

def exampleDualHello : VpnHello :=
  ⟨1, 1, vpnRequiredCapabilities ||| vpnCapIpv4 ||| vpnCapIpv6, 1500, 1400⟩

theorem negotiatedFamilies_enforced_iff_example :
    ∃ session, negotiateVpnHello exampleRegistry exampleFingerprint exampleDualHello exampleConfig
        ⟨9, by decide⟩ = .ok session ∧
      ServerEnforces session ∧ ClientEnforces session.accept := by
  have authorized : exampleRegistry.authorize exampleFingerprint = .ok exampleIdentity := rfl
  obtain ⟨session, negotiated⟩ : ∃ session, negotiateVpnHello exampleRegistry exampleFingerprint
      exampleDualHello exampleConfig ⟨9, by decide⟩ = .ok session := ⟨_, rfl⟩
  exact ⟨session, negotiated, (negotiatedFamilies_enforced_iff authorized negotiated).mpr
    (by decide)⟩

def exampleIpv6Packet : List UInt8 :=
  headerPacket (.v6 ⟨0x20010db8000000000000000000000001⟩)
    (.v6 ⟨0xfd000000000000000000000000000002⟩)

def exampleDownlink : DataPathOp := .encodeIpPacket .downlink 1 exampleIpv6Packet 1200 200

theorem negotiatedFamilies_not_enforced :
    negotiateVpnHello exampleRegistry exampleFingerprint exampleHello exampleConfig
        ⟨9, by decide⟩ = .ok exampleSession ∧
      ¬ exampleHello.Requests .ipv6 ∧ ¬ exampleSession.accept.Grants .ipv6 ∧
      ¬ (ServerEnforces exampleSession ∧ ClientEnforces exampleSession.accept) := by
  refine ⟨rfl, by decide, by decide, fun enforced => ?_⟩
  -- the session is committed, and IPv6 is sent to the client
  have evaluated : ((exampleCoordinator.commit exampleSession 5 100).bind fun returned =>
      (returned.2.2.heap.operate returned.2.2.globalBudget 0 exampleDownlink).map fun operated =>
        (returned.1.toOption.map (·.dataPath), exampleDownlink.passed operated.reply)) =
        some (some 0, some (.downlink, exampleIpv6Packet)) := by
    decide +kernel
  obtain ⟨⟨result, closed, after⟩, returned, operates⟩ := Option.bind_eq_some_iff.mp evaluated
  obtain ⟨operated, ran, outcome⟩ := Option.map_eq_some_iff.mp operates
  obtain ⟨isCommitted, passed⟩ := Prod.mk.inj outcome
  cases result with
  | error error => cases isCommitted
  | ok committed =>
    have here : committed.dataPath = 0 := Option.some.inj isCommitted
    have inspected : inspectVpnIpPacket exampleIpv6Packet =
        .ok ⟨.v6 ⟨0x20010db8000000000000000000000001⟩,
          .v6 ⟨0xfd000000000000000000000000000002⟩⟩ := by decide +kernel
    have passes : after.heap.LetsThrough after.globalBudget committed.dataPath .ipv6 := by
      rw [here]
      exact ⟨_, operated, .downlink, exampleIpv6Packet, _, ran, passed, inspected, rfl⟩
    exact absurd (enforced.1 exampleCoordinator_built .start returned .start passes) (by decide)

end FlowWeave.Vpn
