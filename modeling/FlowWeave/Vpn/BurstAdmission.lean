/-
# Vpn.BurstAdmission — one packet as a burst at the rate limiter

The datagrams of a packet are admitted together or not at all. A full limiter has a
second's worth of packets, and a second's worth of bytes or the largest datagram,
whichever is more. So a packet in more datagrams than that is never admitted, however
long the client waits.

* `burst_admitted_iff`: which packets a full limiter admits;
* `burst_refused_when_full`: one that it never admits.
-/
import FlowWeave.Vpn.Quota

namespace FlowWeave.Vpn

open Theory.MachineInt

set_option autoImplicit false

namespace IdentityRateState

variable {state : IdentityRateState}

theorem totalLength_of_le {datagramLengths : List Nat} (small : datagramLengths.sum ≤ usizeMax) :
    totalLength datagramLengths = some datagramLengths.sum := by
  suffices general : ∀ start, start + datagramLengths.sum ≤ usizeMax →
      datagramLengths.foldlM (checkedAdd usizeMax) start = some (start + datagramLengths.sum) by
    have total := general 0 (by omega)
    rwa [Nat.zero_add] at total
  clear small
  induction datagramLengths with
  | nil => exact fun start _ => rfl
  | cons length rest ih =>
    intro start small
    rw [List.sum_cons] at small ⊢
    rw [List.foldlM_cons, checkedAdd_eq_some (by omega), Option.bind_eq_bind, Option.bind_some,
      ih _ (by omega), Nat.add_assoc]

/-- Below the scale of `u128` the order of two products is that of the amounts. -/
theorem scaled_le_iff {amount capacity : Nat} (small : capacity * tokenScale ≤ u128Max) :
    saturatingMul u128Max amount tokenScale ≤ saturatingMul u128Max capacity tokenScale ∧
        amount * tokenScale ≤ u128Max ↔ amount ≤ capacity := by
  have order : amount * tokenScale ≤ capacity * tokenScale ↔ amount ≤ capacity :=
    Nat.mul_le_mul_right_iff (by decide)
  unfold saturatingMul
  omega

/-- A full limiter admits datagrams of a legal size when there are no more than a second's
worth of packets, and of bytes no more than that or the largest datagram. -/
theorem Full.admits_iff (full : state.Full) (metrics : VpnQuotaMetrics)
    (direction : VpnPacketDirection) {datagramLengths : List Nat} (some_ : datagramLengths ≠ [])
    (legal : ∀ length ∈ datagramLengths, 0 < length ∧ length ≤ vpnMaxIpDatagramLen)
    (small : datagramLengths.sum ≤ usizeMax) (now : Nat) :
    (state.admitDatagrams metrics direction datagramLengths now).1 = .ok () ↔
      datagramLengths.length ≤ state.limits.maxPacketsPerSecond ∧
        datagramLengths.sum ≤ max state.limits.maxBytesPerSecond vpnMaxIpDatagramLen := by
  have refilled := full.refill now
  have limits := refill_limits state now
  obtain ⟨⟨-, packetRate⟩, ⟨-, byteRate⟩, -⟩ := state.limits.bounds
  have counted : datagramLengths.length ≤ datagramLengths.sum :=
    List.length_le_sum_of_one_le _ fun length member => (legal length member).1
  have scaled : ∀ {amount : Nat}, amount ≤ usizeMax → amount * tokenScale ≤ u128Max :=
    fun small => le_trans (Nat.mul_le_mul_right _ small) (by decide)
  have packets : packetCost datagramLengths ≤ (state.refill now).packetTokens ↔
      datagramLengths.length ≤ state.limits.maxPacketsPerSecond := by
    rw [refilled.packets, limits, ← scaled_le_iff (scaled (le_trans packetRate (by decide)))]
    exact (and_iff_left (scaled (le_trans counted small))).symm
  have bytes : byteCost datagramLengths.sum ≤ (state.refill now).byteTokens ↔
      datagramLengths.sum ≤ max state.limits.maxBytesPerSecond vpnMaxIpDatagramLen := by
    have wide : max state.limits.maxBytesPerSecond vpnMaxIpDatagramLen ≤ usizeMax :=
      max_le (le_trans byteRate (by decide)) (by decide)
    rw [refilled.bytes, limits, ← scaled_le_iff (scaled wide)]
    exact (and_iff_left (scaled small)).symm
  have valid : ¬(datagramLengths.isEmpty ∨
      datagramLengths.any (fun length => length = 0 || length > vpnMaxIpDatagramLen)) := by
    simp only [List.isEmpty_iff, List.any_eq_true, Bool.or_eq_true, decide_eq_true_eq, not_or,
      not_exists, not_and]
    exact ⟨some_, fun length member => by have := legal length member; omega⟩
  rw [← packets, ← bytes]
  by_cases morePackets : (state.refill now).packetTokens < packetCost datagramLengths
  · simp only [admitDatagrams, if_neg valid, totalLength_of_le small, if_pos morePackets,
      reduceCtorEq, false_iff, not_and]
    intro fits
    exact absurd morePackets (Nat.not_lt.mpr fits)
  · by_cases moreBytes : (state.refill now).byteTokens < byteCost datagramLengths.sum
    · simp only [admitDatagrams, if_neg valid, totalLength_of_le small, if_neg morePackets,
        if_pos moreBytes, reduceCtorEq, false_iff, not_and]
      exact fun _ => Nat.not_le.mpr moreBytes
    · simp only [admitDatagrams, if_neg valid, totalLength_of_le small, if_neg morePackets,
        if_neg moreBytes, true_iff]
      exact ⟨Nat.not_lt.mp morePackets, Nat.not_lt.mp moreBytes⟩

end IdentityRateState

/-- **Which packets a full limiter admits.** The packet goes in as many datagrams as it
takes, each with its header; all of them have to fit into the two buckets. -/
theorem burst_admitted_iff {state : IdentityRateState} (full : state.Full)
    {packet : List UInt8} {metadata : VpnIpPacketMeta}
    (accepted : inspectVpnIpPacket packet = .ok metadata) {maxDatagramLen : Nat}
    (legal : vpnMinQuicDatagramLen ≤ maxDatagramLen) (packetId : UInt32) (metrics : VpnQuotaMetrics)
    (direction : VpnPacketDirection) (now : Nat) :
    ∃ fragments, encodeVpnIpFragments packetId packet maxDatagramLen = .ok fragments ∧
      ((state.admitDatagrams metrics direction (fragments.map List.length) now).1 = .ok () ↔
        divCeil packet.length (maxDatagramLen - vpnIpDatagramHeaderLen) ≤
            state.limits.maxPacketsPerSecond ∧
          packet.length + vpnIpDatagramHeaderLen *
              divCeil packet.length (maxDatagramLen - vpnIpDatagramHeaderLen) ≤
            max state.limits.maxBytesPerSecond vpnMaxIpDatagramLen) := by
  have legal' : 1036 ≤ maxDatagramLen := legal
  have wide : 1024 ≤ maxDatagramLen - vpnIpDatagramHeaderLen := by
    simp only [vpnIpDatagramHeaderLen]
    omega
  obtain ⟨filled, short⟩ := inspectVpnIpPacket_bounds accepted
  obtain ⟨count, bytes, each⟩ := packetDatagrams_lengths packetId packet
    (show 0 < maxDatagramLen - vpnIpDatagramHeaderLen by omega)
  have few := packetSegments_length_le short wide
  refine ⟨_, encodeVpnIpFragments_eq packetId accepted legal, ?_⟩
  rw [← bytes, ← count, ← List.length_map List.length]
  simp only [vpnMaxIpPacketLen] at short
  have segments :
      (packetDatagrams packetId packet (maxDatagramLen - vpnIpDatagramHeaderLen)).length ≤ 64 := by
    rw [packetDatagrams, List.length_map]
    exact few
  apply full.admits_iff metrics direction
  · intro none_
    rw [List.map_eq_nil_iff] at none_
    rw [none_, List.map_nil, List.sum_nil] at bytes
    omega
  · intro length member
    obtain ⟨datagram, isDatagram, rfl⟩ := List.mem_map.mp member
    have := each datagram isDatagram
    simp only [vpnIpDatagramHeaderLen, vpnMaxIpDatagramLen, vpnMaxIpPacketLen] at this ⊢
    omega
  · rw [bytes, ← count]
    refine le_trans (Nat.add_le_add short (Nat.mul_le_mul_left _ segments)) ?_
    decide

/-- A packet of 1025 bytes, one more than fits into the smallest legal datagram. -/
def exampleLongPacket : List UInt8 :=
  [0x45, 0, 4, 1, 0, 0, 0, 0, 64, 17, 0, 0, 10, 66, 0, 2, 8, 8, 8, 8] ++ List.replicate 1005 0

theorem exampleLongPacket_accepted :
    inspectVpnIpPacket exampleLongPacket =
      .ok ⟨.v4 (Ipv4Addr.ofOctets [10, 66, 0, 2]), .v4 (Ipv4Addr.ofOctets [8, 8, 8, 8])⟩ := by
  decide +kernel

/-- The packet is accepted, its datagram size is legal and the limiter is full, and yet it
is refused. -/
theorem burst_refused_when_full :
    ∃ fragments, encodeVpnIpFragments 7 exampleLongPacket vpnMinQuicDatagramLen = .ok fragments ∧
      (IdentityRateState.new exampleSlowLimits 0).Full ∧
      ((IdentityRateState.new exampleSlowLimits 0).admitDatagrams .default .uplink
        (fragments.map List.length) 0).1 ≠ .ok () := by
  refine ⟨_, encodeVpnIpFragments_eq 7 exampleLongPacket_accepted le_rfl,
    IdentityRateState.new_full _ _, ?_⟩
  decide +kernel

theorem burst_admitted_iff_example :
    ∃ fragments, encodeVpnIpFragments 7 exampleLongPacket vpnMinQuicDatagramLen = .ok fragments ∧
      (((IdentityRateState.new .default 0).admitDatagrams .default .uplink
          (fragments.map List.length) 0).1 = .ok () ↔
        divCeil exampleLongPacket.length (vpnMinQuicDatagramLen - vpnIpDatagramHeaderLen) ≤ 100000 ∧
          exampleLongPacket.length + vpnIpDatagramHeaderLen *
              divCeil exampleLongPacket.length (vpnMinQuicDatagramLen - vpnIpDatagramHeaderLen) ≤
            max (128 * 1024 * 1024) vpnMaxIpDatagramLen) :=
  burst_admitted_iff (IdentityRateState.new_full .default 0) exampleLongPacket_accepted le_rfl 7
    .default .uplink 0

end FlowWeave.Vpn
