/-
# Vpn.Quota — the per-identity rate limiter and the quota metrics
(`src/vpn_quota.rs`)

An identity has one limiter, shared by all its sessions. It keeps two token counts
at a scale of `10 ^ 9` tokens for each packet and byte, so that one nanosecond is
worth exactly the rate in tokens, and refills them by the time that has passed.

`Admission` lists everything a call can do: a refused call refills at most, an
admitted one also spends the cost of its datagrams. A limiter that is `Full` admits
any one datagram.
-/
import FlowWeave.Vpn.Identity

namespace FlowWeave.Vpn

open Theory.MachineInt

set_option autoImplicit false

/-! ## Directions and refusals -/

inductive VpnPacketDirection where
  | uplink
  | downlink
  deriving DecidableEq, Repr

inductive VpnQuotaRejection where
  | invalidDatagramSize
  | packetRateExceeded
  | byteRateExceeded
  | identityReassemblyLimit
  | globalReassemblyLimit
  | identityInflightLimit
  | globalInflightLimit
  deriving DecidableEq, Repr

/-- The rejections of the rate limiter; the others are of the reassembly limits. -/
def VpnQuotaRejection.isRate : VpnQuotaRejection → Bool
  | .invalidDatagramSize => true
  | .packetRateExceeded => true
  | .byteRateExceeded => true
  | _ => false

def vpnMaxGlobalReassemblyBytes : Nat := 1024 * 1024 * 1024

def vpnMaxGlobalInflightPackets : Nat := 65536

/-! ## Metrics -/

/-- The counters of `VpnQuotaMetricCounters` other than the two that are the
shared reassembly ledger. -/
structure VpnQuotaMetrics where
  admittedUplinkDatagrams : Nat
  admittedUplinkBytes : Nat
  admittedDownlinkDatagrams : Nat
  admittedDownlinkBytes : Nat
  staleGenerationRejections : Nat
  invalidDatagramRejections : Nat
  packetRateRejections : Nat
  byteRateRejections : Nat
  identityReassemblyRejections : Nat
  globalReassemblyRejections : Nat
  identityInflightRejections : Nat
  globalInflightRejections : Nat
  peakReassemblyBytes : Nat
  peakReassemblyPackets : Nat
  deriving DecidableEq, Repr

namespace VpnQuotaMetrics

/-- `VpnQuotaMetrics::default`. -/
def default : VpnQuotaMetrics := ⟨0, 0, 0, 0, 0, 0, 0, 0, 0, 0, 0, 0, 0, 0⟩

/-- `increment` on an `AtomicU64`. -/
def increment (counter : Nat) : Nat := saturatingAdd u64Max counter 1

def recordAdmitted (metrics : VpnQuotaMetrics) (direction : VpnPacketDirection)
    (datagramCount datagramBytes : Nat) : VpnQuotaMetrics :=
  match direction with
  | .uplink =>
    { metrics with
      admittedUplinkDatagrams :=
        saturatingAdd u64Max metrics.admittedUplinkDatagrams datagramCount
      admittedUplinkBytes := saturatingAdd u64Max metrics.admittedUplinkBytes datagramBytes }
  | .downlink =>
    { metrics with
      admittedDownlinkDatagrams :=
        saturatingAdd u64Max metrics.admittedDownlinkDatagrams datagramCount
      admittedDownlinkBytes := saturatingAdd u64Max metrics.admittedDownlinkBytes datagramBytes }

def recordStaleGeneration (metrics : VpnQuotaMetrics) : VpnQuotaMetrics :=
  { metrics with staleGenerationRejections := increment metrics.staleGenerationRejections }

def recordInvalidDatagram (metrics : VpnQuotaMetrics) : VpnQuotaMetrics :=
  { metrics with invalidDatagramRejections := increment metrics.invalidDatagramRejections }

def recordPacketRateRejection (metrics : VpnQuotaMetrics) : VpnQuotaMetrics :=
  { metrics with packetRateRejections := increment metrics.packetRateRejections }

def recordByteRateRejection (metrics : VpnQuotaMetrics) : VpnQuotaMetrics :=
  { metrics with byteRateRejections := increment metrics.byteRateRejections }

def recordIdentityReassemblyRejection (metrics : VpnQuotaMetrics) : VpnQuotaMetrics :=
  { metrics with identityReassemblyRejections := increment metrics.identityReassemblyRejections }

def recordGlobalReassemblyRejection (metrics : VpnQuotaMetrics) : VpnQuotaMetrics :=
  { metrics with globalReassemblyRejections := increment metrics.globalReassemblyRejections }

def recordIdentityInflightRejection (metrics : VpnQuotaMetrics) : VpnQuotaMetrics :=
  { metrics with identityInflightRejections := increment metrics.identityInflightRejections }

def recordGlobalInflightRejection (metrics : VpnQuotaMetrics) : VpnQuotaMetrics :=
  { metrics with globalInflightRejections := increment metrics.globalInflightRejections }

def updateReassemblyPeaks (metrics : VpnQuotaMetrics) (bytes packets : Nat) : VpnQuotaMetrics :=
  { metrics with
    peakReassemblyBytes := max metrics.peakReassemblyBytes bytes
    peakReassemblyPackets := max metrics.peakReassemblyPackets packets }

end VpnQuotaMetrics

/-! ## The limiter -/

def tokenScale : Nat := 1000000000

def packetCapacity (limits : VpnIdentityLimits) : Nat :=
  saturatingMul u128Max limits.maxPacketsPerSecond tokenScale

def byteCapacity (limits : VpnIdentityLimits) : Nat :=
  saturatingMul u128Max (max limits.maxBytesPerSecond vpnMaxIpDatagramLen) tokenScale

structure IdentityRateState where
  limits : VpnIdentityLimits
  packetTokens : Nat
  byteTokens : Nat
  lastRefill : Nat

namespace IdentityRateState

/-- `IdentityRateState::new`. -/
def new (limits : VpnIdentityLimits) (now : Nat) : IdentityRateState where
  limits := limits
  packetTokens := packetCapacity limits
  byteTokens := byteCapacity limits
  lastRefill := now

/-- Nothing happens when `now` lies before the last refill. -/
def refill (state : IdentityRateState) (now : Nat) : IdentityRateState :=
  if now < state.lastRefill then state
  else
    let elapsedNanos := now - state.lastRefill
    { limits := state.limits
      packetTokens := min
        (saturatingAdd u128Max state.packetTokens
          (saturatingMul u128Max elapsedNanos state.limits.maxPacketsPerSecond))
        (packetCapacity state.limits)
      byteTokens := min
        (saturatingAdd u128Max state.byteTokens
          (saturatingMul u128Max elapsedNanos state.limits.maxBytesPerSecond))
        (byteCapacity state.limits)
      lastRefill := now }

def reconfigure (state : IdentityRateState) (limits : VpnIdentityLimits) (now : Nat) :
    IdentityRateState :=
  let refilled := state.refill now
  { limits := limits
    packetTokens := min refilled.packetTokens (packetCapacity limits)
    byteTokens := min refilled.byteTokens (byteCapacity limits)
    lastRefill := refilled.lastRefill }

/-- `try_fold` with `checked_add` over the lengths. -/
def totalLength (datagramLengths : List Nat) : Option Nat :=
  datagramLengths.foldlM (checkedAdd usizeMax) 0

def packetCost (datagramLengths : List Nat) : Nat :=
  saturatingMul u128Max datagramLengths.length tokenScale

def byteCost (datagramBytes : Nat) : Nat := saturatingMul u128Max datagramBytes tokenScale

/-- `VpnIdentityRateLimiter::admit_datagrams`. -/
def admitDatagrams (state : IdentityRateState) (metrics : VpnQuotaMetrics)
    (direction : VpnPacketDirection) (datagramLengths : List Nat) (now : Nat) :
    Except VpnQuotaRejection Unit × IdentityRateState × VpnQuotaMetrics :=
  if datagramLengths.isEmpty ∨
      datagramLengths.any (fun length => length = 0 || length > vpnMaxIpDatagramLen) then
    (.error .invalidDatagramSize, state, metrics.recordInvalidDatagram)
  else
    match totalLength datagramLengths with
    | none => (.error .invalidDatagramSize, state, metrics.recordInvalidDatagram)
    | some datagramBytes =>
      let state := state.refill now
      if state.packetTokens < packetCost datagramLengths then
        (.error .packetRateExceeded, state, metrics.recordPacketRateRejection)
      else if state.byteTokens < byteCost datagramBytes then
        (.error .byteRateExceeded, state, metrics.recordByteRateRejection)
      else
        (.ok (),
          { state with
            packetTokens := state.packetTokens - packetCost datagramLengths
            byteTokens := state.byteTokens - byteCost datagramBytes },
          metrics.recordAdmitted direction datagramLengths.length datagramBytes)

/-- The state after paying for datagrams. -/
def pay (state : IdentityRateState) (datagramLengths : List Nat) : IdentityRateState :=
  { state with
    packetTokens := state.packetTokens - packetCost datagramLengths
    byteTokens := state.byteTokens - byteCost datagramLengths.sum }

/-- The fields after a payment. With the state taken apart, so that the kernel compares the
field and not the two states, whose tokens it would count down. -/
theorem pay_fields (state : IdentityRateState) (datagramLengths : List Nat) :
    (state.pay datagramLengths).limits = state.limits ∧
      (state.pay datagramLengths).lastRefill = state.lastRefill ∧
      (state.pay datagramLengths).packetTokens =
        state.packetTokens - packetCost datagramLengths ∧
      (state.pay datagramLengths).byteTokens =
        state.byteTokens - byteCost datagramLengths.sum := by
  cases state
  exact ⟨rfl, rfl, rfl, rfl⟩

@[simp] theorem refill_limits (state : IdentityRateState) (now : Nat) :
    (state.refill now).limits = state.limits := by
  unfold refill
  split <;> rfl

theorem totalLength_eq {datagramLengths : List Nat} {datagramBytes : Nat}
    (summed : totalLength datagramLengths = some datagramBytes) :
    datagramBytes = datagramLengths.sum ∧ datagramBytes ≤ usizeMax := by
  suffices general : ∀ start ≤ usizeMax, datagramLengths.foldlM (checkedAdd usizeMax) start =
      some datagramBytes → datagramBytes = start + datagramLengths.sum ∧ datagramBytes ≤ usizeMax by
    simpa using general 0 (Nat.zero_le _) summed
  clear summed
  induction datagramLengths with
  | nil =>
    intro start fits summed
    cases summed
    exact ⟨rfl, fits⟩
  | cons length rest ih =>
    intro start fits summed
    simp only [List.foldlM_cons, Option.bind_eq_bind, Option.bind_eq_some_iff] at summed
    obtain ⟨next, added, summed⟩ := summed
    obtain ⟨rfl, small⟩ := checkedAdd_some_iff.mp added
    obtain ⟨total, inside⟩ := ih _ small summed
    exact ⟨by rw [total, List.sum_cons]; omega, inside⟩

/-- What an admission can do: a refused call leaves the state or refills it, an
admitted one refills it and pays for the datagrams. -/
inductive Admission (state : IdentityRateState) (datagramLengths : List Nat) (now : Nat) :
    Except VpnQuotaRejection Unit → IdentityRateState → Prop
  | invalid {rejection : VpnQuotaRejection} (rate : rejection.isRate = true) :
      Admission state datagramLengths now (.error rejection) state
  | exceeded {rejection : VpnQuotaRejection} (rate : rejection.isRate = true) :
      Admission state datagramLengths now (.error rejection) (state.refill now)
  | admitted (counted : datagramLengths.length ≤ datagramLengths.sum)
      (small : datagramLengths.sum ≤ usizeMax)
      (packets : packetCost datagramLengths ≤ (state.refill now).packetTokens)
      (bytes : byteCost datagramLengths.sum ≤ (state.refill now).byteTokens) :
      Admission state datagramLengths now (.ok ()) ((state.refill now).pay datagramLengths)

theorem admitDatagrams_admission (state : IdentityRateState) (metrics : VpnQuotaMetrics)
    (direction : VpnPacketDirection) (datagramLengths : List Nat) (now : Nat) :
    Admission state datagramLengths now
      (state.admitDatagrams metrics direction datagramLengths now).1
      (state.admitDatagrams metrics direction datagramLengths now).2.1 := by
  unfold admitDatagrams
  by_cases invalid : datagramLengths.isEmpty ∨
      datagramLengths.any (fun length => length = 0 || length > vpnMaxIpDatagramLen)
  · rw [if_pos invalid]
    exact .invalid rfl
  · rw [if_neg invalid]
    cases summed : totalLength datagramLengths with
    | none => exact .invalid rfl
    | some datagramBytes =>
      obtain ⟨rfl, small⟩ := totalLength_eq summed
      have counted : datagramLengths.length ≤ datagramLengths.sum := by
        -- no length is zero
        apply List.length_le_sum_of_one_le
        intro length member
        simp only [not_or, List.any_eq_true, not_exists, not_and, Bool.or_eq_true,
          decide_eq_true_eq] at invalid
        have := invalid.2 length member
        omega
      dsimp only
      by_cases packets : (state.refill now).packetTokens < packetCost datagramLengths
      · rw [if_pos packets]
        exact .exceeded rfl
      · rw [if_neg packets]
        by_cases bytes : (state.refill now).byteTokens < byteCost datagramLengths.sum
        · rw [if_pos bytes]
          exact .exceeded rfl
        · rw [if_neg bytes]
          show Admission state datagramLengths now (.ok ()) ((state.refill now).pay datagramLengths)
          have enoughPackets := Nat.le_of_not_lt packets
          have enoughBytes := Nat.le_of_not_lt bytes
          exact .admitted counted small enoughPackets enoughBytes

/-- An answer of the rate limiter. -/
def RateAnswer (answer : Except VpnQuotaRejection Unit) : Prop :=
  ∀ rejection, answer = .error rejection → rejection.isRate = true

variable {state : IdentityRateState}

theorem Admission.rateAnswer {after : IdentityRateState} {datagramLengths : List Nat} {now : Nat}
    {answer : Except VpnQuotaRejection Unit}
    (admission : Admission state datagramLengths now answer after) : RateAnswer answer := by
  intro rejection isError
  cases admission with
  | invalid rate =>
    cases isError
    exact rate
  | exceeded rate =>
    cases isError
    exact rate
  | admitted counted small packets bytes => cases isError

/-! ## A full limiter -/

/-- Both token counts are at their capacities. -/
structure Full (state : IdentityRateState) : Prop where
  packets : state.packetTokens = packetCapacity state.limits
  bytes : state.byteTokens = byteCapacity state.limits

theorem new_full (limits : VpnIdentityLimits) (now : Nat) : (new limits now).Full := ⟨rfl, rfl⟩

theorem Full.refill (full : state.Full) (now : Nat) : (state.refill now).Full := by
  have small : ∀ capacity gain, capacity ≤ u128Max →
      min (saturatingAdd u128Max capacity gain) capacity = capacity := by
    intro capacity gain fits
    unfold saturatingAdd
    omega
  unfold IdentityRateState.refill
  split
  · exact full
  · refine ⟨?_, ?_⟩
    · dsimp only
      rw [full.packets]
      exact small (packetCapacity state.limits) _ (Nat.min_le_right _ _)
    · dsimp only
      rw [full.bytes]
      exact small (byteCapacity state.limits) _ (Nat.min_le_right _ _)

theorem Full.reconfigure (full : state.Full) (now : Nat) :
    (state.reconfigure state.limits now).Full := by
  have refilled := full.refill now
  have limits := refill_limits state now
  refine ⟨?_, ?_⟩
  · simp only [IdentityRateState.reconfigure, refilled.packets, limits, Nat.min_self]
  · simp only [IdentityRateState.reconfigure, refilled.bytes, limits, Nat.min_self]

/-- A full limiter admits any one datagram. -/
theorem Full.admits (full : state.Full) (metrics : VpnQuotaMetrics)
    (direction : VpnPacketDirection) {length : Nat} (positive : 0 < length)
    (small : length ≤ vpnMaxIpDatagramLen) (now : Nat) :
    (state.admitDatagrams metrics direction [length] now).1 = .ok () := by
  have refilled := full.refill now
  have limits := refill_limits state now
  obtain ⟨⟨somePackets, -⟩, -⟩ := state.limits.bounds
  have valid : ¬ (([length] : List Nat).isEmpty ∨
      ([length] : List Nat).any (fun length => length = 0 || length > vpnMaxIpDatagramLen)) := by
    simp
    omega
  have total : totalLength [length] = some length := by
    have fits : length ≤ usizeMax := le_trans small (by decide)
    simp [totalLength, checkedAdd, fits]
  have packets : ¬ (state.refill now).packetTokens < packetCost [length] := by
    rw [refilled.packets, limits]
    simp only [packetCapacity, packetCost, saturatingMul, List.length_singleton]
    have := Nat.mul_le_mul_right tokenScale somePackets
    omega
  have bytes : ¬ (state.refill now).byteTokens < byteCost length := by
    rw [refilled.bytes, limits]
    simp only [byteCapacity, byteCost, saturatingMul]
    have wide : length ≤ max state.limits.maxBytesPerSecond vpnMaxIpDatagramLen :=
      le_trans small (Nat.le_max_right _ _)
    have := Nat.mul_le_mul_right tokenScale wide
    omega
  simp only [admitDatagrams, if_neg valid, total, if_neg packets, if_neg bytes]

end IdentityRateState

end FlowWeave.Vpn
