/-
# Vpn.NetworkSets — destination networks as sets of addresses (`src/vpn_identity.rs`)

A network stands for the addresses that it contains: those of its family whose first bits are the
network's (`contains_iff`). As a network has no bit set past its prefix, two networks with the same
addresses are the same value, so the duplicate check of `VpnDataPolicy::new` finds exactly the
destinations that say the same thing (`networks_are_address_sets`).
-/
import Mathlib.Data.Set.Lattice
import Mathlib.Order.CompletePartialOrder
import FlowWeave.Theory.Prefixes
import FlowWeave.Vpn.Identity

namespace FlowWeave.Vpn

open Theory.Prefixes

set_option autoImplicit false

def AddressFamily.width : AddressFamily → Nat
  | .ipv4 => 32
  | .ipv6 => 128

/-- The bits of an address, the most significant one first. -/
def IpAddr.bit : IpAddr → Nat → Bool
  | .v4 address, i => address.bits.getMsbD i
  | .v6 address, i => address.bits.getMsbD i

namespace VpnIpNetwork

def prefixLen : VpnIpNetwork → Nat
  | .V4 _ prefixLen _ _ | .V6 _ prefixLen _ _ => prefixLen

/-- What a network is for. -/
def addresses (network : VpnIpNetwork) : Set IpAddr := {address | network.contains address = true}

theorem prefixLen_le (network : VpnIpNetwork) : network.prefixLen ≤ network.family.width := by
  cases network <;> assumption

/-- Every network is one that `v4` or `v6` built. -/
theorem built (network : VpnIpNetwork) :
    (∃ address prefixLen, v4 address prefixLen = .ok network) ∨
      ∃ address prefixLen, v6 address prefixLen = .ok network := by
  cases network with
  | V4 address prefixLen short canonical =>
    exact .inl ⟨address, prefixLen, by rw [v4, dif_pos short, dif_pos canonical]⟩
  | V6 address prefixLen short canonical =>
    exact .inr ⟨address, prefixLen, by rw [v6, dif_pos short, dif_pos canonical]⟩

theorem contains_iff (network : VpnIpNetwork) (address : IpAddr) :
    network.contains address = true ↔ address.family = network.family ∧
      ∀ i < network.prefixLen, address.bit i = network.base.bit i := by
  cases network with
  | V4 base prefixLen short canonical =>
    cases address with
    | v4 address =>
      exact decide_eq_true_iff.trans ((and_mask_eq_iff short canonical).trans
        (and_iff_right rfl).symm)
    | v6 => exact iff_of_false nofun nofun
  | V6 base prefixLen short canonical =>
    cases address with
    | v4 => exact iff_of_false nofun nofun
    | v6 address =>
      exact decide_eq_true_iff.trans ((and_mask_eq_iff short canonical).trans
        (and_iff_right rfl).symm)

theorem eq_of_addresses_eq {first second : VpnIpNetwork}
    (same : first.addresses = second.addresses) : first = second := by
  have agree (address : IpAddr) : first.contains address = true ↔ second.contains address = true :=
    Set.ext_iff.mp same address
  have family := contains_family ((agree first.base).mp first.contains_base)
  rw [base_family] at family
  cases first with
  | V4 base prefixLen short canonical =>
    cases second with
    | V4 base' prefixLen' short' canonical' =>
      obtain ⟨rfl, bits⟩ := agree_unique short short' canonical canonical' fun word => by
        rw [← and_mask_eq_iff short canonical, ← and_mask_eq_iff short' canonical']
        exact decide_eq_true_iff.symm.trans ((agree (.v4 ⟨word⟩)).trans decide_eq_true_iff)
      cases base
      cases base'
      cases bits
      rfl
    | V6 => cases family
  | V6 base prefixLen short canonical =>
    cases second with
    | V4 => cases family
    | V6 base' prefixLen' short' canonical' =>
      obtain ⟨rfl, bits⟩ := agree_unique short short' canonical canonical' fun word => by
        rw [← and_mask_eq_iff short canonical, ← and_mask_eq_iff short' canonical']
        exact decide_eq_true_iff.symm.trans ((agree (.v6 ⟨word⟩)).trans decide_eq_true_iff)
      cases base
      cases base'
      cases bits
      rfl

theorem addresses_inj {first second : VpnIpNetwork} :
    first.addresses = second.addresses ↔ first = second :=
  ⟨eq_of_addresses_eq, congrArg addresses⟩

/-- A network that shares an address with one of no longer prefix lies in it. -/
theorem subset_of_shared {first second : VpnIpNetwork} {shared : IpAddr}
    (inFirst : shared ∈ first.addresses) (inSecond : shared ∈ second.addresses)
    (le : first.prefixLen ≤ second.prefixLen) : second.addresses ⊆ first.addresses := by
  intro address inside
  obtain ⟨firstFamily, firstBits⟩ := (contains_iff first shared).mp inFirst
  obtain ⟨secondFamily, secondBits⟩ := (contains_iff second shared).mp inSecond
  obtain ⟨family, bits⟩ := (contains_iff second address).mp inside
  refine (contains_iff first address).mpr
    ⟨family.trans (secondFamily.symm.trans firstFamily), fun i short => ?_⟩
  have early := Nat.lt_of_lt_of_le short le
  exact (bits i early).trans ((secondBits i early).symm.trans (firstBits i short))

theorem disjoint_or_nested (first second : VpnIpNetwork) :
    Disjoint first.addresses second.addresses ∨ first.addresses ⊆ second.addresses ∨
      second.addresses ⊆ first.addresses := by
  by_cases meet : Disjoint first.addresses second.addresses
  · exact .inl meet
  · obtain ⟨shared, inFirst, inSecond⟩ := Set.not_disjoint_iff.mp meet
    rcases Nat.le_total first.prefixLen second.prefixLen with le | le
    · exact .inr (.inr (subset_of_shared inFirst inSecond le))
    · exact .inr (.inl (subset_of_shared inSecond inFirst le))

end VpnIpNetwork

/-- The duplicate check comes after those of the client's addresses and of the number. -/
theorem VpnDataPolicy.new_eq_duplicate_iff (clientIpv4 : Option Ipv4Addr)
    (clientIpv6 : Option Ipv6Addr) (allowedDestinations : List VpnIpNetwork) :
    new clientIpv4 clientIpv6 allowedDestinations = .error .duplicateDestinationNetwork ↔
      validateDataPolicy clientIpv4 clientIpv6 [] = .ok () ∧
        allowedDestinations.length ≤ vpnMaxDestinationNetworksPerIdentity ∧
        ¬allowedDestinations.Nodup := by
  have checked : new clientIpv4 clientIpv6 allowedDestinations =
      .error .duplicateDestinationNetwork ↔
        validateDataPolicy clientIpv4 clientIpv6 allowedDestinations =
          .error .duplicateDestinationNetwork := by
    unfold new
    split <;> simp_all
  rw [checked, validateDataPolicy, validateDataPolicy]
  by_cases missing : clientIpv4.isNone ∧ clientIpv6.isNone
  · simp [missing]
  · rw [if_neg missing, if_neg missing]
    split
    · simp
    · by_cases many : allowedDestinations.length > vpnMaxDestinationNetworksPerIdentity
      · simp [many]
      · by_cases nodup : allowedDestinations.Nodup
        · simp only [many, nodup, not_true_eq_false, if_false]
          split <;> simp
        · simp [nodup, vpnMaxDestinationNetworksPerIdentity]

/-- **Destination networks are sets of addresses.** A network contains the addresses of its family
that begin with its bits; the masks of all accepted prefix lengths are computed without overflow;
networks with the same addresses are equal, others are disjoint or nested; and a policy is refused
for a duplicate exactly if two of its destinations have the same addresses. -/
theorem networks_are_address_sets :
    (∀ (network : VpnIpNetwork) (address : IpAddr), network.contains address = true ↔
      address.family = network.family ∧
        ∀ i < network.prefixLen, address.bit i = network.base.bit i) ∧
    ((∀ prefixLen ≤ 32, checkedMask 32 prefixLen = some (prefixMaskV4 prefixLen)) ∧
      ∀ prefixLen ≤ 128, checkedMask 128 prefixLen = some (prefixMaskV6 prefixLen)) ∧
    (∀ network : VpnIpNetwork, network.prefixLen ≤ network.family.width ∧
      ((∃ address prefixLen, VpnIpNetwork.v4 address prefixLen = .ok network) ∨
        ∃ address prefixLen, VpnIpNetwork.v6 address prefixLen = .ok network)) ∧
    (∀ first second : VpnIpNetwork,
      (first = second ↔ first.addresses = second.addresses) ∧
      (Disjoint first.addresses second.addresses ∨ first.addresses ⊆ second.addresses ∨
        second.addresses ⊆ first.addresses)) ∧
    ∀ (clientIpv4 : Option Ipv4Addr) (clientIpv6 : Option Ipv6Addr)
      (allowedDestinations : List VpnIpNetwork),
      VpnDataPolicy.new clientIpv4 clientIpv6 allowedDestinations =
          .error .duplicateDestinationNetwork ↔
        validateDataPolicy clientIpv4 clientIpv6 [] = .ok () ∧
          allowedDestinations.length ≤ vpnMaxDestinationNetworksPerIdentity ∧
          ¬(allowedDestinations.map VpnIpNetwork.addresses).Nodup := by
  refine ⟨VpnIpNetwork.contains_iff,
    ⟨fun _ short => checkedMask_eq short, fun _ short => checkedMask_eq short⟩,
    fun network => ⟨network.prefixLen_le, network.built⟩,
    fun first second => ⟨VpnIpNetwork.addresses_inj.symm, first.disjoint_or_nested second⟩,
    fun clientIpv4 clientIpv6 allowedDestinations => ?_⟩
  rw [VpnDataPolicy.new_eq_duplicate_iff, List.nodup_map_iff]
  exact fun first second same => VpnIpNetwork.addresses_inj.mp same

/-- `10.0.0.0/8`. -/
def exampleNetwork : VpnIpNetwork := .V4 ⟨0x0a000000⟩ 8 (by decide) (by decide)

theorem networks_are_address_sets_example :
    exampleNetwork.contains (.v4 ⟨0x0a010203⟩) = true ∧
      (∀ i < 8, (IpAddr.v4 ⟨0x0a010203⟩).bit i = exampleNetwork.base.bit i) ∧
      checkedMask 32 32 = some (prefixMaskV4 32) := by
  obtain ⟨contains, ⟨maskV4, -⟩, -⟩ := networks_are_address_sets
  have inside : exampleNetwork.contains (.v4 ⟨0x0a010203⟩) = true := by decide
  exact ⟨inside, ((contains exampleNetwork _).mp inside).2, maskV4 32 le_rfl⟩

end FlowWeave.Vpn
