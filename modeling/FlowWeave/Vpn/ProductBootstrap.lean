/-
# Vpn.ProductBootstrap — from the two configs to a connection

What `src/vpn_product_runtime.rs` makes of an accepted config, with the runtime and
bridge configs of `src/vpn_datagram_runtime.rs` and `src/vpn_packet_bridge.rs`: the
bootstraps, and the steps a client takes with an ACCEPT. Credentials and TLS are left out.

Six validators look at the same few numbers and addresses on their way. `compatible_connect`
says that the parsers are the strictest of them: two accepted configs that agree on the
addresses are refused nowhere after.
-/
import FlowWeave.Vpn.Ipv4Text
import FlowWeave.Vpn.ClientDataPath
import FlowWeave.Vpn.CoordinatorSafety

namespace FlowWeave.Vpn

open Theory.Checks Theory.MachineInt VpnClientDataPathFactory VpnClientProductConfig
open VpnServerNegotiationConfig

set_option autoImplicit false

/-! ## The datagram runtime -/

def vpnDefaultPacketQueuePackets : Nat := 1024

def vpnDefaultPacketQueueBytes : Nat := 8 * 1024 * 1024

def vpnMaxPacketQueuePackets : Nat := 65536

def vpnMaxPacketQueueBytes : Nat := 1024 * 1024 * 1024

def vpnDefaultReassemblyTick : Nat := 250 * 1000000

def vpnMaxReassemblyTick : Nat := 3 * 1000000000

inductive VpnDatagramRole where
  | server
  | client
  deriving DecidableEq, Repr

inductive VpnDatagramRuntimeConfigError where
  | invalidDatagramLength
  | invalidQueuePacketLimit
  | invalidQueueByteLimit
  | invalidReassemblyTick
  deriving DecidableEq, Repr

structure VpnDatagramRuntimeConfig where
  role : VpnDatagramRole
  maxDatagramLen : Nat
  inboundQueuePackets : Nat
  inboundQueueBytes : Nat
  outboundQueuePackets : Nat
  outboundQueueBytes : Nat
  reassemblyTick : Nat
  deriving DecidableEq, Repr

namespace VpnDatagramRuntimeConfig

def validate (config : VpnDatagramRuntimeConfig) : Except VpnDatagramRuntimeConfigError Unit := do
  refuseIf (¬ (vpnMinQuicDatagramLen ≤ config.maxDatagramLen ∧ config.maxDatagramLen ≤ 65535))
    .invalidDatagramLength
  refuseIf (config.inboundQueuePackets = 0 ∨
      config.inboundQueuePackets > vpnMaxPacketQueuePackets ∨
      config.outboundQueuePackets = 0 ∨ config.outboundQueuePackets > vpnMaxPacketQueuePackets)
    .invalidQueuePacketLimit
  refuseIf (¬ (vpnMaxIpPacketLen ≤ config.inboundQueueBytes ∧
      config.inboundQueueBytes ≤ vpnMaxPacketQueueBytes) ∨
      ¬ (vpnMaxIpPacketLen ≤ config.outboundQueueBytes ∧
        config.outboundQueueBytes ≤ vpnMaxPacketQueueBytes)) .invalidQueueByteLimit
  refuseIf (config.reassemblyTick = 0 ∨ config.reassemblyTick > vpnMaxReassemblyTick)
    .invalidReassemblyTick

/-- `VpnDatagramRuntimeConfig::new`. -/
def new (role : VpnDatagramRole) (maxDatagramLen : Nat) :
    Except VpnDatagramRuntimeConfigError VpnDatagramRuntimeConfig := do
  let config : VpnDatagramRuntimeConfig := {
    role, maxDatagramLen
    inboundQueuePackets := vpnDefaultPacketQueuePackets
    inboundQueueBytes := vpnDefaultPacketQueueBytes
    outboundQueuePackets := vpnDefaultPacketQueuePackets
    outboundQueueBytes := vpnDefaultPacketQueueBytes
    reassemblyTick := vpnDefaultReassemblyTick }
  config.validate
  .ok config

def fromAccept (role : VpnDatagramRole) (accept : VpnAccept) :
    Except VpnDatagramRuntimeConfigError VpnDatagramRuntimeConfig :=
  new role accept.maxDatagramLen.toNat

/-- The default queues pass, so that only the datagram length can be refused. -/
theorem new_succeeds (role : VpnDatagramRole) {maxDatagramLen : UInt16}
    (wide : vpnMinQuicDatagramLen ≤ maxDatagramLen.toNat) :
    ∃ config, new role maxDatagramLen.toNat = .ok config := by
  have short : maxDatagramLen.toNat ≤ 65535 := Nat.le_of_lt_succ maxDatagramLen.toNat_lt
  refine ⟨_, bind_eq_ok.mpr ⟨(), ?_, rfl⟩⟩
  simp only [validate, bind_eq_ok, refuseIf_eq_ok, not_not, exists_const]
  exact ⟨⟨wide, short⟩, by decide⟩

end VpnDatagramRuntimeConfig

open VpnDatagramRuntimeConfig

/-! ## The packet bridge and the client's pump -/

inductive VpnPacketBridgeConfigError where
  | invalidPacketLength
  deriving DecidableEq, Repr

structure VpnPacketBridgeConfig where
  maxPacketLen : Nat
  deriving DecidableEq, Repr

open VpnPacketBridgeConfig

/-- `VpnPacketBridgeConfig::new`. -/
def VpnPacketBridgeConfig.new (maxPacketLen : Nat) :
    Except VpnPacketBridgeConfigError VpnPacketBridgeConfig := do
  refuseIf (¬ (vpnMinIpPacketLen ≤ maxPacketLen ∧ maxPacketLen ≤ vpnMaxIpPacketLen))
    .invalidPacketLength
  .ok ⟨maxPacketLen⟩

theorem VpnPacketBridgeConfig.new_succeeds {maxPacketLen : Nat}
    (fits : vpnMinIpPacketLen ≤ maxPacketLen ∧ maxPacketLen ≤ vpnMaxIpPacketLen) :
    new maxPacketLen = .ok ⟨maxPacketLen⟩ :=
  bind_eq_ok.mpr ⟨(), refuseIf_eq_ok.mpr (not_not.mpr fits), rfl⟩

inductive VpnClientPacketPumpAttachError where
  | invalidPacketLength
  | alreadyAttached
  | generationExhausted
  deriving DecidableEq, Repr

/-- The control block of a pump: how long a packet may be, and who is attached. -/
structure VpnClientPacketPumpControl where
  maxPacketLen : Nat
  nextGeneration : UInt64
  activeGeneration : Option UInt64
  deriving DecidableEq, Repr

namespace VpnClientPacketPumpControl

/-- `VpnClientPacketPumpControl::new`. -/
def new (maxPacketLen : Nat) : VpnClientPacketPumpControl := ⟨maxPacketLen, 1, none⟩

/-- `attach`: the generation of the attachment. -/
def attach (control : VpnClientPacketPumpControl) (maxPacketLen : Nat) :
    Except VpnClientPacketPumpAttachError (UInt64 × VpnClientPacketPumpControl) := do
  refuseIf (¬ (vpnMinIpPacketLen ≤ maxPacketLen ∧ maxPacketLen ≤ control.maxPacketLen))
    .invalidPacketLength
  refuseIf (control.activeGeneration.isSome = true) .alreadyAttached
  refuseIf (control.nextGeneration.toNat = u64Max) .generationExhausted
  .ok (control.nextGeneration, { control with
    nextGeneration := control.nextGeneration + 1
    activeGeneration := some control.nextGeneration })

def detach (control : VpnClientPacketPumpControl) (generation : UInt64) :
    VpnClientPacketPumpControl :=
  if control.activeGeneration = some generation then { control with activeGeneration := none }
  else control

end VpnClientPacketPumpControl

/-- `start_vpn_client_packet_pump`. -/
def startVpnClientPacketPump (config : VpnPacketBridgeConfig) :
    Except VpnPacketBridgeConfigError VpnClientPacketPumpControl := do
  let _ ← new config.maxPacketLen
  .ok (.new config.maxPacketLen)

/-- What attachments make of a pump. -/
inductive PumpRun (first : VpnClientPacketPumpControl) : VpnClientPacketPumpControl → Prop
  | start : PumpRun first first
  | attach {control after : VpnClientPacketPumpControl} {maxPacketLen : Nat} {generation : UInt64}
      (earlier : PumpRun first control)
      (attached : control.attach maxPacketLen = .ok (generation, after)) : PumpRun first after
  | detach {control : VpnClientPacketPumpControl} (earlier : PumpRun first control)
      (generation : UInt64) : PumpRun first (control.detach generation)

theorem PumpRun.maxPacketLen {first control : VpnClientPacketPumpControl}
    (run : PumpRun first control) : control.maxPacketLen = first.maxPacketLen := by
  induction run with
  | start => rfl
  | attach earlier attached ih =>
    simp only [VpnClientPacketPumpControl.attach, bind_eq_ok] at attached
    obtain ⟨-, -, -, -, -, -, same⟩ := attached
    cases same
    exact ih
  | detach earlier generation ih =>
    unfold VpnClientPacketPumpControl.detach
    split
    · exact ih
    · exact ih

/-! ## Bootstraps -/

inductive VpnProductBootstrapError where
  | identityLimitExceedsGlobalBudget
  | transportConfiguration
  | negotiation (error : VpnControlError)
  | coordinator (error : VpnManagedSessionError)
  | clientDataPath (error : VpnClientDataPathConfigError)
  | datagram (error : VpnDatagramRuntimeConfigError)
  | packetBridge (error : VpnPacketBridgeConfigError)
  deriving DecidableEq, Repr

structure VpnServerProductBootstrap where
  config : VpnServerProductConfig
  coordinator : VpnSessionCoordinator
  negotiation : VpnServerNegotiationConfig
  datagram : VpnDatagramRuntimeConfig
  packetBridge : VpnPacketBridgeConfig

def validateServerIdentityBudget (config : VpnServerProductConfig)
    (registry : VpnIdentityRegistry) : Except VpnProductBootstrapError Unit :=
  refuseIf (∃ identity ∈ registry.identities,
    identity.limits.maxReassemblyBytes > config.globalReassemblyBytes)
    .identityLimitExceedsGlobalBudget

/-- `build_server_bootstrap`, with the registry of the identity file. -/
def buildServerBootstrap (config : VpnServerProductConfig) (registry : VpnIdentityRegistry) :
    Except VpnProductBootstrapError VpnServerProductBootstrap := do
  validateServerIdentityBudget config registry
  let coordinator ← (VpnSessionCoordinator.withResourceLimits registry 1
    config.globalReassemblyBytes config.globalInflightPackets).mapError .coordinator
  let negotiation ← (new vpnWireVersionV1 vpnWireVersionV1
    config.tunMtu config.maxDatagramLen).mapError .negotiation
  let datagram ← (new .server
    config.maxDatagramLen.toNat).mapError .datagram
  let packetBridge ← (new config.tunMtu.toNat).mapError .packetBridge
  .ok ⟨config, coordinator, negotiation, datagram, packetBridge⟩

structure VpnClientProductBootstrap where
  config : VpnClientProductConfig
  transientPaths : UInt32
  hello : VpnHello
  dataPathFactory : VpnClientDataPathFactory
  datagram : VpnDatagramRuntimeConfig
  packetBridge : VpnPacketBridgeConfig

/-- `client_transient_path_count`, for the transport. -/
def clientTransientPathCount (hasPrimary : Bool) (additionalCount : Nat) :
    Except VpnProductBootstrapError UInt32 := do
  let count := additionalCount + 1 + (hasPrimary && additionalCount ≠ 0).toNat +
    (hasPrimary || additionalCount ≠ 0).toNat
  refuseIf (count ≥ 2 ^ 32) .transportConfiguration
  .ok (UInt32.ofNat count)

/-- The HELLO of `build_client_bootstrap`. -/
def VpnClientProductConfig.hello (config : VpnClientProductConfig) : VpnHello where
  minWireVersion := vpnWireVersionV1
  maxWireVersion := vpnWireVersionV1
  capabilities := negotiatedCapabilities config.requestIpv4 config.requestIpv6
  maxIpPacketLen := config.tunMtu
  maxDatagramLen := config.maxDatagramLen

/-- `build_client_bootstrap`. -/
def buildClientBootstrap (config : VpnClientProductConfig) (now : Nat) :
    Except VpnProductBootstrapError VpnClientProductBootstrap := do
  let transientPaths ← clientTransientPathCount config.primaryLocalIp.isSome
    config.additionalLocalIps.length
  config.hello.validate.mapError .negotiation
  let clientDataPath ← ((VpnClientDataPathConfig.new config.allowedDestinations
    config.limits).withGlobalReassemblyLimits config.globalReassemblyBytes
      config.globalInflightPackets).mapError .clientDataPath
  let dataPathFactory ← (newAt clientDataPath now).mapError .clientDataPath
  let datagram ← (new .client
    config.maxDatagramLen.toNat).mapError .datagram
  let packetBridge ← (new config.tunMtu.toNat).mapError .packetBridge
  .ok ⟨config, transientPaths, config.hello, dataPathFactory, datagram, packetBridge⟩

/-! ## A client's connection -/

/-- The HELLO that `vpn_client_control_handshake` sends over a connection. -/
def VpnHello.forConnection (hello : VpnHello) (maxDatagramSize : Option Nat) :
    Except VpnSessionError VpnHello := do
  let limit ← connectionDatagramLimit maxDatagramSize
  .ok { hello with maxDatagramLen := min hello.maxDatagramLen limit }

def clientAcceptAddressesMatch (config : VpnClientProductConfig) (accept : VpnAccept) : Bool :=
  accept.clientIpv4 = config.expectedClientIpv4 && accept.serverIpv4 = config.expectedServerIpv4 &&
    accept.clientIpv6 = config.expectedClientIpv6 && accept.serverIpv6 = config.expectedServerIpv6

/-! ## The validators agree -/

theorem VpnServerNegotiationConfig.new_succeeds {maxIpPacketLen maxDatagramLen : UInt16}
    (sizes : validateSizes maxIpPacketLen maxDatagramLen = .ok ()) :
    ∃ config, new vpnWireVersionV1 vpnWireVersionV1 maxIpPacketLen
        maxDatagramLen = .ok config ∧ config.minWireVersion = vpnWireVersionV1 ∧
      config.maxWireVersion = vpnWireVersionV1 := by
  have valid : (configProbe vpnWireVersionV1 vpnWireVersionV1 maxIpPacketLen
      maxDatagramLen).validate = .ok () :=
    VpnHello.validate_iff.mpr
      ⟨(by decide : vpnWireVersionV1 ≠ 0 ∧ vpnWireVersionV1 ≤ vpnWireVersionV1),
        (by decide : validateCapabilities (vpnRequiredCapabilities ||| vpnCapIpv4) = .ok ()), sizes⟩
  refine ⟨⟨_, _, _, _, valid⟩, ?_, rfl, rfl⟩
  unfold new
  rw [if_neg (by decide)]
  split
  · rename_i failed
    rw [valid] at failed
    cases failed
  · rfl

/-- The budgets that the parsers accept are the ones the ledgers accept. -/
theorem SizesParsed.budget {tunMtu maxDatagramLen : UInt16} {bytes packets : Nat}
    (parsed : SizesParsed tunMtu maxDatagramLen bytes packets) :
    ∃ budget, VpnGlobalReassemblyBudget.new bytes packets = some budget := by
  unfold VpnGlobalReassemblyBudget.new
  exact ⟨_, dif_pos ⟨parsed.bytes, parsed.packets⟩⟩

theorem clientTransientPathCount_succeeds {hasPrimary : Bool} {additionalCount : Nat}
    (few : additionalCount ≤ vpnProductMaxExplicitPaths) :
    ∃ count, clientTransientPathCount hasPrimary additionalCount = .ok count := by
  refine ⟨_, bind_eq_ok.mpr ⟨(), refuseIf_eq_ok.mpr ?_, rfl⟩⟩
  have one (bit : Bool) : bit.toNat ≤ 1 := Bool.toNat_le bit
  have replaced := one (hasPrimary && additionalCount ≠ 0)
  have explicit := one (hasPrimary || additionalCount ≠ 0)
  simp only [vpnProductMaxExplicitPaths] at few
  omega

namespace ClientParsed

variable {config : VpnClientProductConfig} (parsed : ClientParsed config)
include parsed

theorem hello_valid : config.hello.Valid := by
  obtain ⟨-, capabilities⟩ := negotiatedCapabilities_flags config.requestIpv4 config.requestIpv6
  exact ⟨(by decide : vpnWireVersionV1 ≠ 0 ∧ vpnWireVersionV1 ≤ vpnWireVersionV1),
    capabilities (by simpa using parsed.family), parsed.sizes.sizes⟩

/-- An accepted client config has a bootstrap. -/
theorem bootstrap (now : Nat) :
    ∃ client dataPath, buildClientBootstrap config now = .ok client ∧
      client.hello = config.hello ∧ client.packetBridge = ⟨config.tunMtu.toNat⟩ ∧
      newAt dataPath now = .ok client.dataPathFactory ∧
      dataPath.allowedDestinations = config.allowedDestinations := by
  obtain ⟨paths, transient⟩ := @clientTransientPathCount_succeeds config.primaryLocalIp.isSome _
    parsed.paths
  obtain ⟨least, most, wide⟩ := validateSizes_iff.mp parsed.sizes.sizes
  obtain ⟨datagram, isDatagram⟩ := new_succeeds .client wide
  obtain ⟨budget, isBudget⟩ := parsed.sizes.budget
  let dataPath : VpnClientDataPathConfig :=
    ⟨config.allowedDestinations, config.limits, config.globalReassemblyBytes,
      config.globalInflightPackets⟩
  have validated : dataPath.validate = .ok () := by
    unfold VpnClientDataPathConfig.validate
    rw [if_neg (not_not.mpr parsed.sizes.bytes), if_neg]
    have packets := parsed.sizes.packets
    simp only [dataPath, not_or, gt_iff_lt, not_lt]
    exact packets
  have limited : (VpnClientDataPathConfig.new config.allowedDestinations
      config.limits).withGlobalReassemblyLimits config.globalReassemblyBytes
        config.globalInflightPackets = .ok dataPath :=
    bind_eq_ok.mpr ⟨(), validated, rfl⟩
  have factory : newAt dataPath now =
      .ok ⟨dataPath, budget, DataPathHeap.empty.newLimiter config.limits now⟩ := by
    refine bind_eq_ok.mpr ⟨(), validated, ?_⟩
    simp only [dataPath, isBudget]
  refine ⟨⟨config, paths, config.hello, _, datagram, ⟨config.tunMtu.toNat⟩⟩, dataPath, ?_, rfl, rfl,
    factory, rfl⟩
  simp only [buildClientBootstrap, bind_eq_ok, mapError_eq_ok]
  exact ⟨paths, transient, (), VpnHello.validate_iff.mpr parsed.hello_valid, dataPath, limited, _,
    factory, datagram, isDatagram, _, new_succeeds ⟨least, most⟩, rfl⟩

/-- The client's policy passes for the addresses it expects. -/
theorem policy :
    ∃ policy, VpnDataPolicy.new config.expectedClientIpv4 config.expectedClientIpv6
      config.allowedDestinations = .ok policy := by
  have valid : validateDataPolicy config.expectedClientIpv4 config.expectedClientIpv6
      config.allowedDestinations = .ok () := by
    have ipv4 : ∀ address, config.expectedClientIpv4 = some address →
        validIpv4TunnelAddress address = true := by
      intro address expected
      rcases parsed.ipv4 with absent | ⟨own, peer, pair, valid, -⟩ <;> grind
    have ipv6 : ∀ address, config.expectedClientIpv6 = some address →
        validIpv6TunnelAddress address = true := by
      intro address expected
      rcases parsed.ipv6 with absent | ⟨own, peer, pair, valid, -⟩ <;> grind
    have family := parsed.family
    simp only [requestIpv4, requestIpv6] at family
    simp only [validateDataPolicy, ite_error_eq_ok, Option.any_eq_true, List.any_eq_true, not_or,
      not_exists, not_and, not_not, Bool.not_eq_true, Bool.not_eq_false', and_true]
    refine ⟨fun none4 => ?_, ⟨ipv4, ipv6⟩, Nat.not_lt.mpr parsed.destinations.2,
      parsed.destinations.1, fun network member => ?_⟩
    · rw [Option.isNone_iff_eq_none] at none4
      simpa [none4, Option.isSome_iff_ne_none] using family
    · have served := parsed.served network member
      cases network <;>
        simpa [VpnIpNetwork.family, requestIpv4,
          requestIpv6, Option.isSome_iff_ne_none] using served
  refine ⟨⟨_, _, _, valid⟩, ?_⟩
  unfold VpnDataPolicy.new
  split
  · rename_i failed
    rw [valid] at failed
    cases failed
  · rfl

end ClientParsed

theorem connectionDatagramLimit_succeeds {size : Nat} (wide : vpnMinQuicDatagramLen ≤ size) :
    ∃ limit, connectionDatagramLimit (some size) = .ok limit := by
  unfold connectionDatagramLimit
  exact ⟨_, if_neg (Nat.not_lt.mpr wide)⟩

theorem VpnHello.Valid.forConnection {hello : VpnHello} (valid : hello.Valid) {size : Nat}
    (wide : vpnMinQuicDatagramLen ≤ size) :
    ∃ limit, hello.forConnection (some size) =
        .ok { hello with maxDatagramLen := min hello.maxDatagramLen limit } ∧
      ({ hello with maxDatagramLen := min hello.maxDatagramLen limit } : VpnHello).Valid := by
  obtain ⟨limit, limited⟩ := connectionDatagramLimit_succeeds wide
  refine ⟨limit, bind_eq_ok.mpr ⟨limit, limited, rfl⟩, valid.version, valid.capabilities, ?_⟩
  obtain ⟨least, most, long⟩ := validateSizes_iff.mp valid.sizes
  refine validateSizes_iff.mpr ⟨least, most, ?_⟩
  rw [toNat_min]
  exact Nat.le_min.mpr ⟨long, connectionDatagramLimit_wide limited⟩

theorem VpnServerNegotiationConfig.forConnection_succeeds (config : VpnServerNegotiationConfig)
    {size : Nat} (wide : vpnMinQuicDatagramLen ≤ size) :
    ∃ lowered, config.forConnection (some size) = .ok lowered ∧
      lowered.minWireVersion = config.minWireVersion ∧
      lowered.maxWireVersion = config.maxWireVersion := by
  obtain ⟨limit, limited⟩ := connectionDatagramLimit_succeeds wide
  unfold forConnection
  split
  · rename_i failed
    rw [limited] at failed
    cases failed
  · exact ⟨_, rfl, rfl, rfl⟩

theorem VpnClientDataPathFactory.newAt_config {config : VpnClientDataPathConfig} {now : Nat}
    {factory : VpnClientDataPathFactory} (made : newAt config now = .ok factory) :
    factory.config = config := by
  obtain ⟨-, -, made⟩ := bind_eq_ok.mp made
  split at made
  · split at made <;> cases made
  · cases made
    rfl

theorem ClientRun.config {first self : VpnClientDataPathFactory} {log : List ClientEvent}
    (run : ClientRun first log self) : self.config = first.config := by
  induction run with
  | start => rfl
  | step earlier next ih =>
    cases next with
    | build returned =>
      rw [← ih]
      unfold build at returned
      split at returned
      · cases returned
        rfl
      · simp only [Option.bind_eq_bind, Option.bind_eq_some_iff] at returned
        obtain ⟨heap, -, same⟩ := returned
        cases same
        rfl
    | operate allowed returned => exact ih
    | rehash rehash => exact ih

/-- A client's factory has a handle for an ACCEPT whose policy passes. -/
theorem VpnClientDataPathFactory.build_succeeds {factory : VpnClientDataPathFactory}
    (good : factory.Good) {accept : VpnAccept} (valid : accept.validate = .ok ())
    {policy : VpnDataPolicy} (isPolicy : VpnDataPolicy.new accept.clientIpv4 accept.clientIpv6
      factory.config.allowedDestinations = .ok policy) :
    ∃ dataPath after, factory.build accept = some (.ok dataPath, after) := by
  obtain ⟨least, most, -⟩ := validateSizes_iff.mp (VpnAccept.validate_iff.mp valid).sizes
  obtain ⟨inner, state, built⟩ := VpnDataPathState.newPolicyInactive_succeeds policy
    factory.config.limits accept.sessionGeneration ⟨least, most⟩
  have made : factory.inactiveHandle accept = .ok ⟨inner, state, 0⟩ := by
    unfold inactiveHandle
    simp only [valid, isPolicy, built]
  obtain ⟨result, after, runs, -⟩ := good.build accept
  cases result with
  | ok dataPath => exact ⟨dataPath, after, runs⟩
  | error error =>
    unfold build at runs
    simp only [made, Option.bind_eq_bind, Option.bind_eq_some_iff] at runs
    obtain ⟨heap, -, same⟩ := runs
    cases same

/-! ## Connecting -/

/-- The registry has the client of a config under its fingerprint: enabled, with exactly the
addresses that the config expects, and with the server addresses of those families. -/
structure Serves (registry : VpnIdentityRegistry) (fingerprint : VpnCertificateFingerprint)
    (identity : VpnIdentity) (config : VpnClientProductConfig) : Prop where
  authorized : registry.authorize fingerprint = .ok identity
  clientIpv4 : identity.clientIpv4 = config.expectedClientIpv4
  clientIpv6 : identity.clientIpv6 = config.expectedClientIpv6
  serverIpv4 : config.requestIpv4 = true → registry.serverIpv4 = config.expectedServerIpv4
  serverIpv6 : config.requestIpv6 = true → registry.serverIpv6 = config.expectedServerIpv6

section Serving

variable {registry : VpnIdentityRegistry} {fingerprint : VpnCertificateFingerprint}
  {identity : VpnIdentity} {config : VpnClientProductConfig}

variable {hello : VpnHello}

/-- The families of the session are the ones the client asks for. -/
theorem Serves.enabled (serves : Serves registry fingerprint identity config)
    (offers : hello.capabilities = config.hello.capabilities) :
    ipv4Enabled hello identity = config.requestIpv4 ∧
      ipv6Enabled hello identity = config.requestIpv6 := by
  obtain ⟨⟨flag4, flag6⟩, -⟩ :=
    negotiatedCapabilities_flags config.requestIpv4 config.requestIpv6
  refine ⟨Bool.eq_iff_iff.mpr (ipv4Enabled_iff.trans ?_),
    Bool.eq_iff_iff.mpr (ipv6Enabled_iff.trans ?_)⟩
  · rw [offers, serves.clientIpv4]
    exact ⟨fun both => both.2, fun requested => ⟨flag4.mpr requested, requested⟩⟩
  · rw [offers, serves.clientIpv6]
    exact ⟨fun both => both.2, fun requested => ⟨flag6.mpr requested, requested⟩⟩

/-- One family: both sides have the expected addresses, or none. -/
theorem served_family {A : Type} {client server expected : Option A}
    {valid : A → A → Prop} (pair : (client, expected) = (none, none) ∨
      ∃ own peer, (client, expected) = (some own, some peer) ∧ valid own peer)
    (same : client.isSome = true → server = expected) :
    (if client.isSome = true then client else none) = client ∧
      (if client.isSome = true then server else none) = expected := by
  rcases pair with pair | ⟨own, peer, pair, -⟩ <;>
    (obtain ⟨rfl, rfl⟩ := Prod.mk.inj pair; simp_all)

/-- A session that such a registry negotiates has the expected addresses. -/
theorem Serves.addresses (serves : Serves registry fingerprint identity config)
    (parsed : ClientParsed config) (offers : hello.capabilities = config.hello.capabilities)
    (negotiation : VpnServerNegotiationConfig) (generation : VpnSessionGeneration)
    (version : UInt16) :
    clientAcceptAddressesMatch config
      (proposedAccept registry identity hello negotiation generation version) = true := by
  obtain ⟨enabled4, enabled6⟩ := serves.enabled offers
  have ipv4 := served_family parsed.ipv4 serves.serverIpv4
  have ipv6 := served_family parsed.ipv6 serves.serverIpv6
  simp only [clientAcceptAddressesMatch, proposedAccept, enabled4, enabled6, serves.clientIpv4,
    serves.clientIpv6, requestIpv4, requestIpv6,
    ipv4, ipv6, decide_true, Bool.and_self]

/-- Such a registry accepts the HELLO of the config, and the client its answer. -/
theorem Serves.negotiates (serves : Serves registry fingerprint identity config)
    (parsed : ClientParsed config) (valid : hello.Valid)
    (offers : hello.capabilities = config.hello.capabilities)
    {negotiation : VpnServerNegotiationConfig} {version : UInt16}
    (selected : selectVpnWireVersion hello.minWireVersion hello.maxWireVersion
      negotiation.minWireVersion negotiation.maxWireVersion = some version)
    (generation : VpnSessionGeneration) :
    ∃ session, negotiateVpnHello registry fingerprint hello negotiation generation = .ok session ∧
      validateServerAccept hello session.accept = .ok () ∧
      clientAcceptAddressesMatch config session.accept = true ∧
      session.accept.maxIpPacketLen.toNat ≤ hello.maxIpPacketLen.toNat := by
  obtain ⟨enabled4, enabled6⟩ := serves.enabled offers
  have common : (ipv4Enabled hello identity || ipv6Enabled hello identity) = true := by
    rw [enabled4, enabled6]
    simpa using parsed.family
  obtain ⟨session, negotiated⟩ :=
    negotiateVpnHello_succeeds generation valid serves.authorized selected common
  obtain ⟨-, authorized, -, version', selected', -, proposed⟩ := negotiateVpnHello_ok negotiated
  cases Except.ok.inj (serves.authorized.symm.trans authorized)
  have passes := session.valid
  refine ⟨session, negotiated, ?_, ?_, ?_⟩
  · rw [proposed] at passes ⊢
    exact validateServerAccept_proposed valid selected' passes
  · rw [proposed]
    exact serves.addresses parsed offers negotiation generation version'
  · rw [proposed]
    simp only [proposedAccept, toNat_min]
    exact Nat.min_le_left _ _

end Serving

/-- A pump takes every packet length of its range, however often it was attached before. -/
theorem PumpRun.attach_succeeds {most : Nat} {control : VpnClientPacketPumpControl}
    (run : PumpRun (.new most) control) {maxPacketLen : Nat}
    (fits : vpnMinIpPacketLen ≤ maxPacketLen ∧ maxPacketLen ≤ most) :
    control.attach maxPacketLen ≠ .error .invalidPacketLength ∧
      (control.activeGeneration = none → control.nextGeneration.toNat ≠ u64Max →
        ∃ attached, control.attach maxPacketLen = .ok attached) := by
  have inRange : ¬ ¬ (vpnMinIpPacketLen ≤ maxPacketLen ∧ maxPacketLen ≤ control.maxPacketLen) := by
    rw [not_not, run.maxPacketLen]
    exact fits
  refine ⟨?_, fun idle more => ?_⟩
  · simp only [VpnClientPacketPumpControl.attach, refuseIf, if_neg inRange]
    split_ifs <;> (intro refused; cases refused)
  · simp only [VpnClientPacketPumpControl.attach, bind_eq_ok, refuseIf_eq_ok]
    exact ⟨_, (), inRange, (), by simp [idle], (), more, rfl⟩

theorem ServerParsed.coordinator {config : VpnServerProductConfig} (parsed : ServerParsed config)
    (registry : VpnIdentityRegistry) :
    ∃ coordinator, VpnSessionCoordinator.withResourceLimits registry 1
      config.globalReassemblyBytes config.globalInflightPackets = .ok coordinator := by
  obtain ⟨budget, isBudget⟩ := parsed.sizes.budget
  unfold VpnSessionCoordinator.withResourceLimits
  rw [if_neg (by decide), isBudget]
  exact ⟨_, rfl⟩

/-- **Compatible configs connect.** For a client config and a server config that the parsers
accept and a registry that serves the client: the client's bootstrap is built; the server's
configs are accepted, so that only an identity over the global budget can stop its bootstrap;
over a connection with large enough datagrams the HELLO is accepted, and everything the
client and the server make of the ACCEPT is accepted too, whatever the factory and the pump
have been used for before. -/
theorem compatible_connect {texts : ConfigTexts} {rawClient : RawClientConfig}
    {rawServer : RawServerConfig} {clientBase serverBase : String}
    {clientConfig : VpnClientProductConfig} {serverConfig : VpnServerProductConfig}
    (clientParsed : parseVpnClientProductConfig texts rawClient clientBase = .ok clientConfig)
    (serverParsed : parseVpnServerProductConfig texts rawServer serverBase = .ok serverConfig)
    {registry : VpnIdentityRegistry} {fingerprint : VpnCertificateFingerprint}
    {identity : VpnIdentity} (serves : Serves registry fingerprint identity clientConfig)
    {clientSize serverSize : Nat} (clientWide : vpnMinQuicDatagramLen ≤ clientSize)
    (serverWide : vpnMinQuicDatagramLen ≤ serverSize) (now : Nat)
    (generation : VpnSessionGeneration) :
    ∃ client negotiation datagram packetBridge,
      buildClientBootstrap clientConfig now = .ok client ∧
      VpnServerNegotiationConfig.new vpnWireVersionV1 vpnWireVersionV1 serverConfig.tunMtu
        serverConfig.maxDatagramLen = .ok negotiation ∧
      VpnDatagramRuntimeConfig.new .server serverConfig.maxDatagramLen.toNat = .ok datagram ∧
      VpnPacketBridgeConfig.new serverConfig.tunMtu.toNat = .ok packetBridge ∧
      (validateServerIdentityBudget serverConfig registry = .ok () →
        ∃ coordinator, buildServerBootstrap serverConfig registry =
          .ok ⟨serverConfig, coordinator, negotiation, datagram, packetBridge⟩) ∧
      ∃ hello config session,
        client.hello.forConnection (some clientSize) = .ok hello ∧
        negotiation.forConnection (some serverSize) = .ok config ∧
        negotiateVpnHello registry fingerprint hello config generation = .ok session ∧
        validateServerAccept hello session.accept = .ok () ∧
        clientAcceptAddressesMatch clientConfig session.accept = true ∧
        (∀ log factory, ClientRun client.dataPathFactory log factory →
          ∃ dataPath after, factory.build session.accept = some (.ok dataPath, after)) ∧
        (∀ role, ∃ runtime, VpnDatagramRuntimeConfig.fromAccept role session.accept = .ok runtime) ∧
        (∃ bridge, VpnPacketBridgeConfig.new session.accept.maxIpPacketLen.toNat = .ok bridge) ∧
        ∃ pump, startVpnClientPacketPump client.packetBridge = .ok pump ∧
          ∀ control, PumpRun pump control →
            control.attach session.accept.maxIpPacketLen.toNat ≠ .error .invalidPacketLength ∧
            (control.activeGeneration = none → control.nextGeneration.toNat ≠ u64Max →
              ∃ attached, control.attach session.accept.maxIpPacketLen.toNat = .ok attached) := by
  have clientFacts := parseVpnClientProductConfig_ok clientParsed
  have serverFacts := parseVpnServerProductConfig_ok serverParsed
  obtain ⟨client, dataPathConfig, isClient, isHello, isBridge, isFactory, destinations⟩ :=
    clientFacts.bootstrap now
  obtain ⟨serverLeast, serverMost, serverLong⟩ := validateSizes_iff.mp serverFacts.sizes.sizes
  obtain ⟨negotiation, isNegotiation, least, most⟩ :=
    new_succeeds serverFacts.sizes.sizes
  obtain ⟨datagram, isDatagram⟩ := new_succeeds .server serverLong
  have serverBridge := new_succeeds ⟨serverLeast, serverMost⟩
  obtain ⟨coordinator, isCoordinator⟩ := serverFacts.coordinator registry
  refine ⟨client, negotiation, datagram, _, isClient, isNegotiation, isDatagram, serverBridge,
    fun withinBudget => ⟨coordinator, ?_⟩, ?_⟩
  · simp only [buildServerBootstrap, bind_eq_ok, mapError_eq_ok]
    exact ⟨(), withinBudget, coordinator, isCoordinator, negotiation, isNegotiation, datagram,
      isDatagram, _, serverBridge, rfl⟩
  · obtain ⟨limit, sent, valid⟩ := clientFacts.hello_valid.forConnection clientWide
    obtain ⟨config, isConfig, least', most'⟩ := negotiation.forConnection_succeeds serverWide
    have selected : selectVpnWireVersion vpnWireVersionV1 vpnWireVersionV1 config.minWireVersion
        config.maxWireVersion = some vpnWireVersionV1 := by
      rw [least', most', least, most]
      decide
    obtain ⟨session, negotiated, taken, matched, short⟩ :=
      serves.negotiates clientFacts valid rfl selected generation
    obtain ⟨acceptLeast, acceptMost, acceptLong⟩ :=
      validateSizes_iff.mp (VpnAccept.validate_iff.mp session.valid).sizes
    have expected := matched
    simp only [clientAcceptAddressesMatch, Bool.and_eq_true, decide_eq_true_eq] at expected
    obtain ⟨clientLeast, clientMost, -⟩ := validateSizes_iff.mp clientFacts.sizes.sizes
    refine ⟨_, config, session, isHello ▸ sent, isConfig, negotiated, taken, matched, ?_, ?_, ?_,
      .new clientConfig.tunMtu.toNat, ?_, ?_⟩
    · intro log factory run
      obtain ⟨policy, isPolicy⟩ := clientFacts.policy
      have good := run.good (newAt_good isFactory)
      rw [← destinations, ← newAt_config isFactory, ← run.config,
        ← expected.1.1.1, ← expected.1.2] at isPolicy
      exact build_succeeds good session.valid isPolicy
    · exact fun role => new_succeeds role acceptLong
    · exact ⟨_, new_succeeds ⟨acceptLeast, acceptMost⟩⟩
    · rw [isBridge]
      exact bind_eq_ok.mpr ⟨_, new_succeeds ⟨clientLeast, clientMost⟩, rfl⟩
    · exact fun control run => run.attach_succeeds ⟨acceptLeast, short⟩

/-! A client of the example registry and its server. -/

def exampleTexts : ConfigTexts where
  socketAddr text := if text = "0.0.0.0:4433" then some (.v4 .unspecified, 4433) else none
  ipAddr _ := none
  ipv4 := Ipv4Addr.parse
  ipv6 text :=
    if text = "fd00::2" then some ⟨0xfd000000000000000000000000000002⟩
    else if text = "fd00::1" then some ⟨0xfd000000000000000000000000000001⟩
    else none
  u8 text := if text = "0" then some 0 else none
  u16 text := if text = "4433" then some 4433 else none
  serverName _ := true
  trimmed _ := true
  hasFileName _ := true
  hasParentDir _ := false
  isAbsolute _ := false
  join base value := base ++ "/" ++ value

def exampleRawClient : RawClientConfig where
  configVersion := 1
  server := "vpn.example:4433"
  serverName := "vpn.example"
  serverCaDer := "ca.der"
  certificateDer := "client.der"
  privateKeyDer := "client.key.der"
  tunName := "fwvpn0"
  tunMtu := 1500
  maxDatagramLen := 1400
  expectedClientIpv4 := some "10.66.0.2"
  expectedServerIpv4 := some "10.66.0.1"
  expectedClientIpv6 := some "fd00::2"
  expectedServerIpv6 := some "fd00::1"
  allowedDestinations := ["0.0.0.0/0"]
  limits := ⟨100000, 134217728, 8388608⟩
  globalReassemblyBytes := 67108864
  globalInflightPackets := 8192
  primaryLocalIp := none
  additionalLocalIps := []

def exampleRawServer : RawServerConfig where
  configVersion := 1
  listen := "0.0.0.0:4433"
  certificateDer := "server.der"
  privateKeyDer := "server.key.der"
  clientCaDer := "ca.der"
  identityFile := "identities.json"
  tunName := "fwvpn0"
  tunMtu := 1400
  maxDatagramLen := 1200
  globalReassemblyBytes := 67108864
  globalInflightPackets := 8192
  forwarding := none

theorem exampleRawClient_served :
    ∃ config, parseVpnClientProductConfig exampleTexts exampleRawClient "" = .ok config ∧
      Serves exampleRegistry exampleFingerprint exampleIdentity config := by
  obtain ⟨config, parsed, seen⟩ := @ok_of_toOption_map _ _ _
    (parseVpnClientProductConfig exampleTexts exampleRawClient "")
    (fun config => ((config.expectedClientIpv4, config.expectedClientIpv6),
      (config.expectedServerIpv4, config.expectedServerIpv6)))
    ((exampleIdentity.clientIpv4, exampleIdentity.clientIpv6),
      (exampleRegistry.serverIpv4, exampleRegistry.serverIpv6)) (by decide +kernel)
  simp only [Prod.mk.injEq] at seen
  obtain ⟨⟨client4, client6⟩, server4, server6⟩ := seen
  exact ⟨config, parsed, rfl, client4.symm, client6.symm, fun _ => server4.symm,
    fun _ => server6.symm⟩

theorem compatible_connect_example :
    ∃ (config : VpnClientProductConfig) (serverConfig : VpnServerProductConfig)
        (client : VpnClientProductBootstrap) (server : VpnServerProductBootstrap)
        (session : VpnNegotiatedSession),
      parseVpnClientProductConfig exampleTexts exampleRawClient "" = .ok config ∧
        parseVpnServerProductConfig exampleTexts exampleRawServer "" = .ok serverConfig ∧
        buildClientBootstrap config 0 = .ok client ∧
        buildServerBootstrap serverConfig exampleRegistry = .ok server ∧
        clientAcceptAddressesMatch config session.accept = true := by
  obtain ⟨config, parsed, serves⟩ := exampleRawClient_served
  obtain ⟨serverConfig, serverParsed, limit⟩ := @ok_of_toOption_map _ _ _
    (parseVpnServerProductConfig exampleTexts exampleRawServer "")
    VpnServerProductConfig.globalReassemblyBytes 67108864 (by decide +kernel)
  have withinBudget : validateServerIdentityBudget serverConfig exampleRegistry = .ok () := by
    rw [validateServerIdentityBudget, limit]
    decide +kernel
  obtain ⟨client, _, _, _, isClient, -, -, -, builds, _, _, session, -, -, -, -, matched, -⟩ :=
    @compatible_connect exampleTexts _ _ "" "" _ _ parsed serverParsed _ _ _ serves 1300
      1200 (by decide) (by decide) 0 ⟨1, by decide⟩
  obtain ⟨_, isServer⟩ := builds withinBudget
  exact ⟨config, serverConfig, client, _, session, parsed, serverParsed, isClient, isServer,
    matched⟩

/-- The parser accepts a global limit that is below the limit of the identity, and the bootstrap
refuses it. -/
theorem identity_over_budget_refused :
    (∃ config, parseVpnClientProductConfig exampleTexts exampleRawClient "" = .ok config ∧
      Serves exampleRegistry exampleFingerprint exampleIdentity config) ∧
    ∃ serverConfig, parseVpnServerProductConfig exampleTexts
        { exampleRawServer with globalReassemblyBytes := 65535 } "" = .ok serverConfig ∧
      buildServerBootstrap serverConfig exampleRegistry =
        .error .identityLimitExceedsGlobalBudget := by
  obtain ⟨serverConfig, parsed, limit⟩ := @ok_of_toOption_map _ _ _
    (parseVpnServerProductConfig exampleTexts
      { exampleRawServer with globalReassemblyBytes := 65535 } "")
    VpnServerProductConfig.globalReassemblyBytes 65535 (by decide +kernel)
  refine ⟨exampleRawClient_served, serverConfig, parsed, ?_⟩
  rw [buildServerBootstrap, validateServerIdentityBudget, limit]
  rfl

end FlowWeave.Vpn
