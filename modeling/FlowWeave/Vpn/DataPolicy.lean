/-
# Vpn.DataPolicy — the policy check of one IP packet (`src/vpn_data_policy.rs`)

An uplink packet must come from the client's tunnel address and go to an allowed
destination; a downlink packet the other way round.
`validateVpnIpPacketPolicy_iff` is that in one statement, with `clientSide` and
`remoteSide` for the two ends.
-/
import FlowWeave.Vpn.Quota

namespace FlowWeave.Vpn

open Theory.MachineInt

set_option autoImplicit false

inductive VpnDataPolicyError where
  | packet (error : VpnPacketError)
  | uplinkSourceSpoofed
  | destinationPolicyRejected
  | downlinkDestinationMismatch
  deriving DecidableEq, Repr

structure VpnDataPolicyMetrics where
  forwardedUplinkPackets : Nat
  forwardedUplinkBytes : Nat
  forwardedDownlinkPackets : Nat
  forwardedDownlinkBytes : Nat
  malformedPacketRejections : Nat
  uplinkSourceSpoofRejections : Nat
  destinationPolicyRejections : Nat
  downlinkDestinationRejections : Nat
  deriving DecidableEq, Repr

namespace VpnDataPolicyMetrics

/-- `VpnDataPolicyMetrics::default`. -/
def default : VpnDataPolicyMetrics := ⟨0, 0, 0, 0, 0, 0, 0, 0⟩

def recordMalformedPacket (metrics : VpnDataPolicyMetrics) : VpnDataPolicyMetrics :=
  { metrics with
    malformedPacketRejections := saturatingAdd u64Max metrics.malformedPacketRejections 1 }

def record (metrics : VpnDataPolicyMetrics) (direction : VpnPacketDirection) (packetLen : Nat)
    (result : Except VpnDataPolicyError VpnIpPacketMeta) : VpnDataPolicyMetrics :=
  match result, direction with
  | .ok _, .uplink =>
    { metrics with
      forwardedUplinkPackets := saturatingAdd u64Max metrics.forwardedUplinkPackets 1
      forwardedUplinkBytes := saturatingAdd u64Max metrics.forwardedUplinkBytes packetLen }
  | .ok _, .downlink =>
    { metrics with
      forwardedDownlinkPackets := saturatingAdd u64Max metrics.forwardedDownlinkPackets 1
      forwardedDownlinkBytes := saturatingAdd u64Max metrics.forwardedDownlinkBytes packetLen }
  | .error (.packet _), _ => metrics.recordMalformedPacket
  | .error .uplinkSourceSpoofed, _ =>
    { metrics with
      uplinkSourceSpoofRejections :=
        saturatingAdd u64Max metrics.uplinkSourceSpoofRejections 1 }
  | .error .destinationPolicyRejected, _ =>
    { metrics with
      destinationPolicyRejections :=
        saturatingAdd u64Max metrics.destinationPolicyRejections 1 }
  | .error .downlinkDestinationMismatch, _ =>
    { metrics with
      downlinkDestinationRejections :=
        saturatingAdd u64Max metrics.downlinkDestinationRejections 1 }

end VpnDataPolicyMetrics

def validateVpnIpPacketPolicy (policy : VpnDataPolicy) (direction : VpnPacketDirection)
    (packet : List UInt8) : Except VpnDataPolicyError VpnIpPacketMeta :=
  match inspectVpnIpPacket packet with
  | .error error => .error (.packet error)
  | .ok metadata =>
    match direction with
    | .uplink =>
      if !policy.permitsSource metadata.source then .error .uplinkSourceSpoofed
      else if !policy.allowsDestination metadata.destination then
        .error .destinationPolicyRejected
      else .ok metadata
    | .downlink =>
      if !policy.permitsSource metadata.destination then .error .downlinkDestinationMismatch
      else if !policy.allowsDestination metadata.source then .error .destinationPolicyRejected
      else .ok metadata

namespace VpnIpPacketMeta

/-- The end of a packet that must be the client's own address. -/
def clientSide (metadata : VpnIpPacketMeta) : VpnPacketDirection → IpAddr
  | .uplink => metadata.source
  | .downlink => metadata.destination

/-- The end of a packet that must be an allowed destination. -/
def remoteSide (metadata : VpnIpPacketMeta) : VpnPacketDirection → IpAddr
  | .uplink => metadata.destination
  | .downlink => metadata.source

end VpnIpPacketMeta

theorem validateVpnIpPacketPolicy_iff {policy : VpnDataPolicy} {direction : VpnPacketDirection}
    {packet : List UInt8} {metadata : VpnIpPacketMeta} :
    validateVpnIpPacketPolicy policy direction packet = .ok metadata ↔
      inspectVpnIpPacket packet = .ok metadata ∧
        policy.permitsSource (metadata.clientSide direction) = true ∧
        policy.allowsDestination (metadata.remoteSide direction) = true := by
  unfold validateVpnIpPacketPolicy
  cases inspected : inspectVpnIpPacket packet with
  | error error => simp
  | ok found =>
    cases direction with
    | uplink =>
      cases permits : policy.permitsSource found.source <;>
        cases allows : policy.allowsDestination found.destination <;>
        simp [VpnIpPacketMeta.clientSide, VpnIpPacketMeta.remoteSide] <;> grind
    | downlink =>
      cases permits : policy.permitsSource found.destination <;>
        cases allows : policy.allowsDestination found.source <;>
        simp [VpnIpPacketMeta.clientSide, VpnIpPacketMeta.remoteSide] <;> grind

/-- A policy lets a packet through only in a family it has an address of. -/
theorem validateVpnIpPacketPolicy_family {policy : VpnDataPolicy}
    {direction : VpnPacketDirection} {packet : List UInt8} {metadata : VpnIpPacketMeta}
    (allowed : validateVpnIpPacketPolicy policy direction packet = .ok metadata) :
    (metadata.source.family = .ipv4 → policy.clientIpv4.isSome) ∧
      (metadata.source.family = .ipv6 → policy.clientIpv6.isSome) := by
  obtain ⟨inspected, permits, -⟩ := validateVpnIpPacketPolicy_iff.mp allowed
  have oneFamily := inspectVpnIpPacket_family inspected
  have clientFamily : (metadata.clientSide direction).family = metadata.source.family := by
    cases direction
    · rfl
    · exact oneFamily.symm
  rw [← clientFamily]
  generalize metadata.clientSide direction = address at permits
  cases address with
  | v4 address =>
    have owned : policy.clientIpv4 = some address := decide_eq_true_iff.mp permits
    simp [owned, IpAddr.family]
  | v6 address =>
    have owned : policy.clientIpv6 = some address := decide_eq_true_iff.mp permits
    simp [owned, IpAddr.family]

end FlowWeave.Vpn
