/-
# Vpn.ForwardingState — the forwarding plan of a server

What a server wants of the kernel's forwarding: the interface, whether the two sysctls are
managed, which families are masqueraded, and the addresses of the enabled clients in canonical
order. The plan's fingerprint is a digest over all of it.
-/
import FlowWeave.Vpn.NetworkState

namespace FlowWeave.Vpn

set_option autoImplicit false

structure VpnServerForwardingConfig where
  manageSysctls : Bool
  ipv4Masquerade : Bool
  ipv6Masquerade : Bool
  deriving DecidableEq, Repr

structure VpnServerForwardingPlan where
  networkPlanFingerprint : String
  tunName : String
  interfaceIndex : UInt32
  manageSysctls : Bool
  ipv4Masquerade : Bool
  ipv6Masquerade : Bool
  clientIpv4 : List Ipv4Addr
  clientIpv6 : List Ipv6Addr
  fingerprint : String
  deriving DecidableEq

section

variable (encoding : Encoding)

/-- `compute_forwarding_plan_fingerprint`. -/
def computeForwardingPlanFingerprint (networkPlanFingerprint tunName : String)
    (interfaceIndex : UInt32) (manageSysctls ipv4Masquerade ipv6Masquerade : Bool)
    (clientIpv4 : List Ipv4Addr) (clientIpv6 : List Ipv6Addr) : String :=
  hexEncode (encoding.digest (.obj [("plan_version", .num 1),
    ("network_plan_fingerprint", .str networkPlanFingerprint), ("tun_name", .str tunName),
    ("interface_index", .num interfaceIndex.toNat), ("manage_sysctls", .bool manageSysctls),
    ("ipv4_masquerade", .bool ipv4Masquerade), ("ipv6_masquerade", .bool ipv6Masquerade),
    ("client_ipv4", .arr ((clientIpv4.map encoding.ipv4).map .str)),
    ("client_ipv6", .arr ((clientIpv6.map encoding.ipv6).map .str))]))

namespace VpnServerForwardingPlan

/-- `VpnServerForwardingPlan::new`. -/
def new (networkState : VpnNetworkState) (config : VpnServerForwardingConfig)
    (registry : VpnIdentityRegistry) : Except VpnNetworkError VpnServerForwardingPlan :=
  match networkState.interfaceIndex.filter (· ≠ 0) with
  | none => .error .serverForwardingStateInvalid
  | some interfaceIndex =>
    let enabled := registry.identities.filter VpnIdentity.enabled
    let clientIpv4 := canonical Ipv4Addr.key (enabled.filterMap VpnIdentity.clientIpv4)
    let clientIpv6 := canonical Ipv6Addr.key (enabled.filterMap VpnIdentity.clientIpv6)
    if config.ipv4Masquerade && clientIpv4.isEmpty ||
        config.ipv6Masquerade && clientIpv6.isEmpty then
      .error .serverForwardingFamilyUnavailable
    else
      .ok {
        networkPlanFingerprint := networkState.planFingerprint
        tunName := networkState.tunName
        interfaceIndex
        manageSysctls := config.manageSysctls
        ipv4Masquerade := config.ipv4Masquerade
        ipv6Masquerade := config.ipv6Masquerade
        clientIpv4
        clientIpv6
        fingerprint := computeForwardingPlanFingerprint encoding networkState.planFingerprint
          networkState.tunName interfaceIndex config.manageSysctls config.ipv4Masquerade
          config.ipv6Masquerade clientIpv4 clientIpv6 }

end VpnServerForwardingPlan

end

end FlowWeave.Vpn
