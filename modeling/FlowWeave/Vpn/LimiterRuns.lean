/-
# Vpn.LimiterRuns — sequences of calls to one rate limiter

A rejected call changes at most the time of the last refill, and two refills one after
the other are one (`refill_refill`). So a limiter that has rejected some calls and one
that never got them cannot be told apart later on (`SameFrom`).

* `rejected_leaves_no_trace`: deleting rejected calls leaves every other answer, no
  bucket overflows its capacity, and no saturating operation saturates.
-/
import FlowWeave.Vpn.Quota

namespace FlowWeave.Vpn

open Theory.MachineInt

set_option autoImplicit false

/-! ## Calls -/

/-- `VpnIdentityRateLimiter`, with the metrics it counts into. -/
structure VpnIdentityRateLimiter where
  state : IdentityRateState
  metrics : VpnQuotaMetrics

inductive LimiterCall where
  | admitDatagrams (direction : VpnPacketDirection) (datagramLengths : List Nat) (now : Nat)
  | reconfigure (limits : VpnIdentityLimits) (now : Nat)

def LimiterCall.now : LimiterCall → Nat
  | .admitDatagrams _ _ now => now
  | .reconfigure _ now => now

namespace VpnIdentityRateLimiter

/-- `VpnIdentityRateLimiter::new`. -/
def new (limits : VpnIdentityLimits) (now : Nat) (metrics : VpnQuotaMetrics) :
    VpnIdentityRateLimiter := ⟨.new limits now, metrics⟩

/-- A call and its answer; `reconfigure` has none, and is never rejected. -/
def call (limiter : VpnIdentityRateLimiter) :
    LimiterCall → Except VpnQuotaRejection Unit × VpnIdentityRateLimiter
  | .admitDatagrams direction datagramLengths now =>
    let (answer, state, metrics) :=
      limiter.state.admitDatagrams limiter.metrics direction datagramLengths now
    (answer, ⟨state, metrics⟩)
  | .reconfigure limits now => (.ok (), ⟨limiter.state.reconfigure limits now, limiter.metrics⟩)

def answers (limiter : VpnIdentityRateLimiter) :
    List LimiterCall → List (Except VpnQuotaRejection Unit)
  | [] => []
  | call :: calls => (limiter.call call).1 :: (limiter.call call).2.answers calls

def afterCalls (limiter : VpnIdentityRateLimiter) (calls : List LimiterCall) :
    VpnIdentityRateLimiter :=
  calls.foldl (fun limiter call => (limiter.call call).2) limiter

/-- `kept` comes from `calls` by deleting some that the limiter rejects, and `answers`
are what the others are answered when none is deleted. -/
inductive Thinned : VpnIdentityRateLimiter → List LimiterCall → List LimiterCall →
    List (Except VpnQuotaRejection Unit) → Prop where
  | nil {limiter : VpnIdentityRateLimiter} : Thinned limiter [] [] []
  | keep {limiter : VpnIdentityRateLimiter} {call : LimiterCall} {calls kept : List LimiterCall}
      {answers : List (Except VpnQuotaRejection Unit)}
      (rest : Thinned (limiter.call call).2 calls kept answers) :
      Thinned limiter (call :: calls) (call :: kept) ((limiter.call call).1 :: answers)
  | delete {limiter : VpnIdentityRateLimiter} {call : LimiterCall} {calls kept : List LimiterCall}
      {answers : List (Except VpnQuotaRejection Unit)} {rejection : VpnQuotaRejection}
      (rejected : (limiter.call call).1 = .error rejection)
      (rest : Thinned (limiter.call call).2 calls kept answers) :
      Thinned limiter (call :: calls) kept answers

end VpnIdentityRateLimiter

/-! ## Refills -/

namespace IdentityRateState

variable {state early late : IdentityRateState} {now later : Nat}

theorem packetCapacity_le (limits : VpnIdentityLimits) : packetCapacity limits ≤ u128Max :=
  Nat.min_le_right _ _

theorem byteCapacity_le (limits : VpnIdentityLimits) : byteCapacity limits ≤ u128Max :=
  Nat.min_le_right _ _

/-- Below the capacity the saturating operations are the exact ones. -/
theorem gain_eq {tokens elapsed rate capacity : Nat} (small : capacity ≤ u128Max) :
    min (saturatingAdd u128Max tokens (saturatingMul u128Max elapsed rate)) capacity =
      min (tokens + elapsed * rate) capacity := by
  unfold saturatingAdd saturatingMul
  omega

/-- A bucket that is filled twice. -/
theorem gain_gain {tokens first second rate capacity : Nat} :
    min (min (tokens + first * rate) capacity + second * rate) capacity =
      min (tokens + (first + second) * rate) capacity := by
  rw [Nat.add_mul]
  omega

theorem refill_eq (order : state.lastRefill ≤ now) :
    state.refill now = {
      limits := state.limits
      packetTokens := min
        (state.packetTokens + (now - state.lastRefill) * state.limits.maxPacketsPerSecond)
        (packetCapacity state.limits)
      byteTokens := min
        (state.byteTokens + (now - state.lastRefill) * state.limits.maxBytesPerSecond)
        (byteCapacity state.limits)
      lastRefill := now } := by
  rw [refill, if_neg (Nat.not_lt.mpr order)]
  simp only [gain_eq (packetCapacity_le _), gain_eq (byteCapacity_le _)]

theorem refill_of_lt (order : now < state.lastRefill) : state.refill now = state := if_pos order

/-- Two refills are one. -/
theorem refill_refill (state : IdentityRateState) (order : now ≤ later) :
    (state.refill now).refill later = state.refill later := by
  rcases Nat.lt_or_ge now state.lastRefill with before | after
  · rw [refill_of_lt before]
  · have elapsed : now - state.lastRefill + (later - now) = later - state.lastRefill := by omega
    rw [refill_eq after, refill_eq (le_trans after order)]
    rw [refill_eq (by exact order)]
    simp only [gain_gain, elapsed]

/-- From `since` on the two states are refilled alike. -/
def SameFrom (since : Nat) (early late : IdentityRateState) : Prop :=
  ∀ now, since ≤ now → early.refill now = late.refill now

theorem SameFrom.refl (since : Nat) (state : IdentityRateState) : SameFrom since state state :=
  fun _ _ => rfl

/-- Whether a call is rejected, and what it leaves, depends on the refilled state only. -/
theorem admitDatagrams_congr {metrics other : VpnQuotaMetrics} {direction : VpnPacketDirection}
    {datagramLengths : List Nat} (same : early.refill now = late.refill now) :
    (early.admitDatagrams metrics direction datagramLengths now).1 =
        (late.admitDatagrams other direction datagramLengths now).1 ∧
      ((early.admitDatagrams metrics direction datagramLengths now).2.1 =
          (late.admitDatagrams other direction datagramLengths now).2.1 ∨
        (early.admitDatagrams metrics direction datagramLengths now).2.1 = early ∧
          (late.admitDatagrams other direction datagramLengths now).2.1 = late) := by
  by_cases invalid : datagramLengths.isEmpty ∨
      datagramLengths.any (fun length => length = 0 || length > vpnMaxIpDatagramLen)
  · simp only [admitDatagrams, if_pos invalid, and_self, or_true]
  · cases summed : totalLength datagramLengths with
    | none => simp only [admitDatagrams, if_neg invalid, summed, and_self, or_true]
    | some datagramBytes =>
      by_cases packets : (late.refill now).packetTokens < packetCost datagramLengths
      · simp only [admitDatagrams, if_neg invalid, summed, same, if_pos packets, true_or, and_self]
      · by_cases bytes : (late.refill now).byteTokens < byteCost datagramBytes
        · simp only [admitDatagrams, if_neg invalid, summed, same, if_neg packets, if_pos bytes,
            true_or, and_self]
        · simp only [admitDatagrams, if_neg invalid, summed, same, if_neg packets, if_neg bytes,
            true_or, and_self]

end IdentityRateState

/-! ## Deleting rejected calls -/

namespace VpnIdentityRateLimiter

open IdentityRateState

variable {early late limiter : VpnIdentityRateLimiter}

/-- A call to two limiters that are refilled alike. -/
theorem call_same {call : LimiterCall} (same : SameFrom call.now early.state late.state) :
    (early.call call).1 = (late.call call).1 ∧
      SameFrom call.now (early.call call).2.state (late.call call).2.state := by
  cases call with
  | admitDatagrams direction datagramLengths now =>
    obtain ⟨answer, left⟩ :=
      @admitDatagrams_congr _ _ _ early.metrics late.metrics direction datagramLengths
        (same now le_rfl)
    refine ⟨answer, ?_⟩
    rcases left with equal | ⟨first, second⟩
    · intro later _
      exact congrArg (·.refill later) equal
    · intro later order
      simp only [call, first, second]
      exact same later order
  | reconfigure limits now =>
    refine ⟨rfl, fun later _ => ?_⟩
    simp only [call, IdentityRateState.reconfigure, same now le_rfl]

/-- A rejected call does no more than refill. -/
theorem call_rejected {call : LimiterCall} {rejection : VpnQuotaRejection}
    (rejected : (limiter.call call).1 = .error rejection) :
    SameFrom call.now limiter.state (limiter.call call).2.state := by
  cases call with
  | admitDatagrams direction datagramLengths now =>
    have admission :=
      admitDatagrams_admission limiter.state limiter.metrics direction datagramLengths now
    have answer : (limiter.state.admitDatagrams limiter.metrics direction datagramLengths now).1 =
      .error rejection := rejected
    rw [answer] at admission
    intro later order
    change _ = IdentityRateState.refill
      (limiter.state.admitDatagrams limiter.metrics direction datagramLengths now).2.1 later
    generalize (limiter.state.admitDatagrams limiter.metrics direction datagramLengths now).2.1 =
      after at admission
    cases admission with
    | invalid rate => rfl
    | exceeded rate => exact (refill_refill limiter.state order).symm
  | reconfigure limits now => cases rejected

/-- The limiter that got fewer calls answers those like the other one. -/
theorem Thinned.answers_eq {calls kept : List LimiterCall}
    {answers : List (Except VpnQuotaRejection Unit)} (thinned : Thinned late calls kept answers)
    (ordered : calls.Pairwise fun first second => first.now ≤ second.now) {since : Nat}
    (same : SameFrom since early.state late.state) (sinceStart : ∀ call ∈ calls, since ≤ call.now) :
    early.answers kept = answers := by
  induction thinned generalizing early since with
  | nil => rfl
  | @keep limiter call calls kept answers rest ih =>
    obtain ⟨before, ordered⟩ := List.pairwise_cons.mp ordered
    have sameHere : SameFrom call.now early.state limiter.state := fun now order =>
      same now (le_trans (sinceStart call List.mem_cons_self) order)
    obtain ⟨answer, after⟩ := call_same sameHere
    rw [VpnIdentityRateLimiter.answers, answer, ih ordered after before]
  | @delete limiter call calls kept answers rejection rejected rest ih =>
    obtain ⟨before, ordered⟩ := List.pairwise_cons.mp ordered
    have caughtUp : SameFrom call.now early.state (limiter.call call).2.state := by
      intro now order
      rw [same now (le_trans (sinceStart call List.mem_cons_self) order),
        call_rejected rejected now order]
    exact ih ordered caughtUp before

end VpnIdentityRateLimiter

/-! ## Capacities -/

namespace IdentityRateState

variable {state : IdentityRateState}

/-- Neither bucket holds more than its capacity. -/
structure InCapacity (state : IdentityRateState) : Prop where
  packets : state.packetTokens ≤ packetCapacity state.limits
  bytes : state.byteTokens ≤ byteCapacity state.limits

theorem new_inCapacity (limits : VpnIdentityLimits) (now : Nat) : (new limits now).InCapacity :=
  ⟨le_rfl, le_rfl⟩

theorem InCapacity.refill (inside : state.InCapacity) (now : Nat) :
    (state.refill now).InCapacity := by
  rcases Nat.lt_or_ge now state.lastRefill with before | after
  · rw [refill_of_lt before]
    exact inside
  · rw [refill_eq after]
    exact ⟨Nat.min_le_right _ _, Nat.min_le_right _ _⟩

theorem reconfigure_inCapacity (state : IdentityRateState) (limits : VpnIdentityLimits)
    (now : Nat) :
    (state.reconfigure limits now).InCapacity :=
  ⟨Nat.min_le_right _ _, Nat.min_le_right _ _⟩

theorem InCapacity.pay (inside : state.InCapacity) (datagramLengths : List Nat) :
    (state.pay datagramLengths).InCapacity := by
  obtain ⟨limits, -, packets, bytes⟩ := pay_fields state datagramLengths
  constructor
  · rw [packets, limits]
    exact le_trans (Nat.sub_le _ _) inside.packets
  · rw [bytes, limits]
    exact le_trans (Nat.sub_le _ _) inside.bytes

theorem InCapacity.admission {datagramLengths : List Nat} {now : Nat}
    {answer : Except VpnQuotaRejection Unit} {after : IdentityRateState} (inside : state.InCapacity)
    (admission : Admission state datagramLengths now answer after) : after.InCapacity := by
  cases admission with
  | invalid rate => exact inside
  | exceeded rate => exact inside.refill now
  | admitted counted small packets bytes => exact (inside.refill now).pay datagramLengths

/-- The nanoseconds of the longest `Duration`. -/
def durationMaxNanos : Nat := (2 ^ 64 - 1) * 1000000000 + 999999999

/-- Lengths that pass the size checks of `admit_datagrams`. -/
structure Sized (datagramLengths : List Nat) : Prop where
  each : ∀ length ∈ datagramLengths, 0 < length ∧ length ≤ vpnMaxIpDatagramLen
  total : datagramLengths.sum ≤ usizeMax

/-- The exact result of every saturating operation of a call fits `u128`: of the two
capacities, of the two costs, and of the gain and the sum of the two refills. -/
structure Unsaturated (state : IdentityRateState) (datagramLengths : List Nat) (elapsed : Nat) :
    Prop where
  packetCapacity : state.limits.maxPacketsPerSecond * tokenScale ≤ u128Max
  byteCapacity : max state.limits.maxBytesPerSecond vpnMaxIpDatagramLen * tokenScale ≤ u128Max
  packetCost : datagramLengths.length * tokenScale ≤ u128Max
  byteCost : datagramLengths.sum * tokenScale ≤ u128Max
  packetGain : elapsed * state.limits.maxPacketsPerSecond ≤ u128Max
  byteGain : elapsed * state.limits.maxBytesPerSecond ≤ u128Max
  packetSum : state.packetTokens + elapsed * state.limits.maxPacketsPerSecond ≤ u128Max
  byteSum : state.byteTokens + elapsed * state.limits.maxBytesPerSecond ≤ u128Max

theorem InCapacity.unsaturated (inside : state.InCapacity) {datagramLengths : List Nat}
    (sized : Sized datagramLengths) {elapsed : Nat} (short : elapsed ≤ durationMaxNanos) :
    state.Unsaturated datagramLengths elapsed := by
  obtain ⟨⟨-, packetRate⟩, ⟨-, byteRate⟩, -⟩ := state.limits.bounds
  have counted : datagramLengths.length ≤ datagramLengths.sum :=
    List.length_le_sum_of_one_le _ fun length member => (sized.each length member).1
  have total := sized.total
  have scaled : ∀ {amount : Nat}, amount ≤ usizeMax → amount * tokenScale ≤ u128Max :=
    fun small => le_trans (Nat.mul_le_mul_right _ small) (by decide)
  have wide : max state.limits.maxBytesPerSecond vpnMaxIpDatagramLen ≤ vpnMaxBytesPerSecond :=
    max_le byteRate (by decide)
  have packetGain : elapsed * state.limits.maxPacketsPerSecond ≤
      durationMaxNanos * vpnMaxPacketsPerSecond := Nat.mul_le_mul short packetRate
  have byteGain : elapsed * state.limits.maxBytesPerSecond ≤
      durationMaxNanos * vpnMaxBytesPerSecond := Nat.mul_le_mul short byteRate
  have packets : state.packetTokens ≤ vpnMaxPacketsPerSecond * tokenScale :=
    le_trans inside.packets (le_trans (Nat.min_le_left _ _) (Nat.mul_le_mul_right _ packetRate))
  have bytes : state.byteTokens ≤ vpnMaxBytesPerSecond * tokenScale :=
    le_trans inside.bytes (le_trans (Nat.min_le_left _ _) (Nat.mul_le_mul_right _ wide))
  have packetRoom :
      vpnMaxPacketsPerSecond * tokenScale + durationMaxNanos * vpnMaxPacketsPerSecond ≤
      u128Max := by decide
  have byteRoom : vpnMaxBytesPerSecond * tokenScale + durationMaxNanos * vpnMaxBytesPerSecond ≤
      u128Max := by decide
  exact {
    packetCapacity := scaled (le_trans packetRate (by decide))
    byteCapacity := scaled (le_trans wide (by decide))
    packetCost := scaled (le_trans counted total)
    byteCost := scaled total
    packetGain := by omega
    byteGain := by omega
    packetSum := by omega
    byteSum := by omega }

end IdentityRateState

/-! ## Whole runs -/

namespace VpnIdentityRateLimiter

open IdentityRateState

theorem call_inCapacity {limiter : VpnIdentityRateLimiter} (inside : limiter.state.InCapacity)
    (call : LimiterCall) : (limiter.call call).2.state.InCapacity := by
  cases call with
  | admitDatagrams direction datagramLengths now =>
    exact inside.admission
      (admitDatagrams_admission limiter.state limiter.metrics direction datagramLengths now)
  | reconfigure limits now => exact reconfigure_inCapacity limiter.state limits now

theorem afterCalls_inCapacity {limiter : VpnIdentityRateLimiter} (inside : limiter.state.InCapacity)
    (calls : List LimiterCall) : (limiter.afterCalls calls).state.InCapacity := by
  induction calls generalizing limiter with
  | nil => exact inside
  | cons call calls ih => exact ih (call_inCapacity inside call)

/-- **A rejected admission leaves no trace.** Whichever rejected calls are deleted from a
run in the order of time, every remaining call is answered as before; after the run no
bucket holds more than its capacity, and in the next call nothing saturates, however much
time has passed. -/
theorem rejected_leaves_no_trace (limits : VpnIdentityLimits) (start : Nat)
    (metrics : VpnQuotaMetrics) (calls : List LimiterCall)
    (ordered : calls.Pairwise fun first second => first.now ≤ second.now) :
    (∀ kept answers, Thinned (new limits start metrics) calls kept answers →
      (new limits start metrics).answers kept = answers) ∧
    ((new limits start metrics).afterCalls calls).state.InCapacity ∧
    ∀ datagramLengths elapsed, Sized datagramLengths → elapsed ≤ durationMaxNanos →
      ((new limits start metrics).afterCalls calls).state.Unsaturated datagramLengths elapsed := by
  have first : (new limits start metrics).state.InCapacity := new_inCapacity limits start
  have inside := afterCalls_inCapacity first calls
  refine ⟨fun kept answers thinned => ?_, inside, fun datagramLengths elapsed sized short => ?_⟩
  · exact thinned.answers_eq ordered (SameFrom.refl 0 _) fun call _ => Nat.zero_le _
  · exact inside.unsaturated sized short

/-- The second and the third call are rejected. -/
def exampleCalls : List LimiterCall :=
  [.admitDatagrams .uplink [100] 0, .admitDatagrams .uplink [100] 0, .admitDatagrams .uplink [] 5,
    .reconfigure .default 10, .admitDatagrams .downlink [60] 2000000000]

theorem rejected_leaves_no_trace_example :
    (new exampleSlowLimits 0 .default).answers [.admitDatagrams .uplink [100] 0,
      .reconfigure .default 10, .admitDatagrams .downlink [60] 2000000000] =
        [.ok (), .ok (), .ok ()] ∧
    ((new exampleSlowLimits 0 .default).afterCalls exampleCalls).state.InCapacity ∧
    ((new exampleSlowLimits 0 .default).afterCalls exampleCalls).state.Unsaturated [100]
      durationMaxNanos := by
  have ordered : exampleCalls.Pairwise fun first second => first.now ≤ second.now := by
    decide
  obtain ⟨deleted, inside, unsaturated⟩ :=
    rejected_leaves_no_trace exampleSlowLimits 0 .default exampleCalls ordered
  refine ⟨deleted _ _ ?_, inside, unsaturated _ _ ⟨by decide, by decide⟩ le_rfl⟩
  refine .keep (@Thinned.delete _ _ _ _ _ .packetRateExceeded rfl ?_)
  refine @Thinned.delete _ _ _ _ _ .invalidDatagramSize rfl ?_
  exact .keep (.keep .nil)

end VpnIdentityRateLimiter

end FlowWeave.Vpn
