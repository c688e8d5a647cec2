/-
# Proxy.RatePacer — the pacer of the public soak's uploads (`src/proxy_soak.rs`)

The workers of a soak share a pacer behind a mutex. A caller takes the lock, reads the clock,
is scheduled at `next_send` or now, whichever is later, moves `next_send` on by the time that
its bytes take at the configured rate, and gives the lock back; then it waits until its scheduled
time. The steps of all callers interleave, time passes between any two of them, and a caller may
be dropped where it awaits.

The lock makes the scheduled times of the grants `Spaced` by the durations of their bytes
(`pacer_sound`), and a duration is the exact one unless it does not fit in 64 bits
(`durationForRate_eq`). This bounds the rate in every window: `pacer_bounds_rate`.
-/
import FlowWeave.Theory.MachineInt
import FlowWeave.Theory.Spacing
import FlowWeave.Theory.Threads
import Mathlib.Algebra.Order.Floor.Div

namespace FlowWeave.Proxy

open Theory.MachineInt Theory.Spacing Theory.Threads

set_option autoImplicit false

/-- Times and durations are nanoseconds. (The constant factors stand first: a product whose
second factor is a large numeral is one that Lean would try to unfold.) -/
def durationForRate (bytes bitsPerSecond : Nat) : Nat :=
  let numerator := saturatingMul u128Max 1000000000 (saturatingMul u128Max 8 bytes)
  let denominator := max bitsPerSecond 1
  let nanos := saturatingAdd u128Max numerator (denominator - 1) / denominator
  min nanos u64Max

/-- The time that some bytes take at a rate, rounded up. -/
def spacing (rate bytes : Nat) : Nat := (1000000000 * (8 * bytes)) ⌈/⌉ rate

theorem durationForRate_eq {bytes rate : Nat} (bytesFit : bytes ≤ usizeMax) (positive : 0 < rate)
    (rateFits : rate ≤ u64Max) : durationForRate bytes rate = min (spacing rate bytes) u64Max := by
  rw [usizeMax] at bytesFit
  rw [u64Max] at rateFits
  have first : saturatingMul u128Max 8 bytes = 8 * bytes :=
    min_eq_left (show 8 * bytes ≤ 2 ^ 128 - 1 by omega)
  have second : saturatingMul u128Max 1000000000 (8 * bytes) = 1000000000 * (8 * bytes) :=
    min_eq_left (show 1000000000 * (8 * bytes) ≤ 2 ^ 128 - 1 by omega)
  have sum : saturatingAdd u128Max (1000000000 * (8 * bytes)) (rate - 1) =
      1000000000 * (8 * bytes) + (rate - 1) :=
    saturatingAdd_eq (show 1000000000 * (8 * bytes) + (rate - 1) ≤ 2 ^ 128 - 1 by omega)
  rw [durationForRate, first, second, Nat.max_eq_left positive, sum, spacing,
    Nat.ceilDiv_eq_add_pred_div, Nat.add_sub_assoc positive]

/-! ## The pacer and its callers -/

structure Grant where
  bytes : Nat
  scheduled : Nat
  deriving DecidableEq, Repr

/-- The clock, `PublicRatePacer::next_send` and the mutex around it. Beside them what has
happened: the grants in their order, and the callers that went on, with the time. -/
structure Pacer where
  now : Nat
  nextSend : Nat
  locked : Bool
  grants : List Grant
  proceeded : List (Grant × Nat)
  deriving DecidableEq, Repr

/-- `PublicRatePacer::new`. -/
def Pacer.new (now : Nat) : Pacer := ⟨now, now, false, [], []⟩

/-- Where a caller of `wait_for_bytes` is. -/
inductive Caller where
  | idle
  | locking (bytes : Nat)
  | reading (bytes : Nat)
  | scheduling (bytes now : Nat)
  | storing (bytes scheduled : Nat)
  | granted (grant : Grant)
  | sleeping (grant : Grant)
  deriving DecidableEq, Repr

/-- The atomic steps. `instantMax` is the last time that an `Instant` can hold. -/
inductive PacerStep (instantMax rate : Nat) (pacer : Pacer) : Caller → Pacer → Caller → Prop
  | tick {caller : Caller} (later : Nat) : pacer.now ≤ later →
      PacerStep instantMax rate pacer caller { pacer with now := later } caller
  | call (bytes : Nat) : bytes ≤ usizeMax →
      PacerStep instantMax rate pacer .idle pacer (.locking bytes)
  | lock {bytes : Nat} : pacer.locked = false →
      PacerStep instantMax rate pacer (.locking bytes) { pacer with locked := true }
        (.reading bytes)
  | read {bytes : Nat} :
      PacerStep instantMax rate pacer (.reading bytes) pacer (.scheduling bytes pacer.now)
  | schedule {bytes now : Nat} :
      PacerStep instantMax rate pacer (.scheduling bytes now) pacer
        (.storing bytes (max pacer.nextSend now))
  | store {bytes scheduled : Nat} :
      PacerStep instantMax rate pacer (.storing bytes scheduled)
        { pacer with
          nextSend := (checkedAdd instantMax scheduled (durationForRate bytes rate)).getD scheduled
          locked := false
          grants := pacer.grants ++ [⟨bytes, scheduled⟩] }
        (.granted ⟨bytes, scheduled⟩)
  | sleep {grant : Grant} : grant.scheduled > pacer.now →
      PacerStep instantMax rate pacer (.granted grant) pacer (.sleeping grant)
  | pass {grant : Grant} : ¬grant.scheduled > pacer.now →
      PacerStep instantMax rate pacer (.granted grant)
        { pacer with proceeded := pacer.proceeded ++ [(grant, pacer.now)] } .idle
  -- `sleep_until` is ready when its deadline has been reached
  | wake {grant : Grant} : grant.scheduled ≤ pacer.now →
      PacerStep instantMax rate pacer (.sleeping grant)
        { pacer with proceeded := pacer.proceeded ++ [(grant, pacer.now)] } .idle
  | giveUpLock {bytes : Nat} :
      PacerStep instantMax rate pacer (.locking bytes) pacer .idle
  | giveUpSleep {grant : Grant} :
      PacerStep instantMax rate pacer (.sleeping grant) pacer .idle

def pacerStart {ι : Type} (started : Nat) : Config ι Pacer Caller := ⟨.new started, fun _ => .idle⟩

/-! ## Invariant -/

/-- Whether a caller has the lock. -/
def Caller.own : Caller → Nat
  | .reading _ | .scheduling _ _ | .storing _ _ => 1
  | _ => 0

/-- No grant has overflowed `Instant`. -/
def InTime (instantMax rate : Nat) (grants : List Grant) : Prop :=
  ∀ grant ∈ grants, grant.scheduled + durationForRate grant.bytes rate ≤ instantMax

instance (instantMax rate : Nat) (grants : List Grant) :
    Decidable (InTime instantMax rate grants) :=
  inferInstanceAs (Decidable (∀ grant ∈ grants, _))

/-- At most one caller has the lock, and the grants keep their distance. -/
structure PacerSound (instantMax rate : Nat) (pacer : Pacer) (holders : Nat) : Prop where
  holders : holders = if pacer.locked then 1 else 0
  spaced : InTime instantMax rate pacer.grants →
    Spaced Grant.scheduled (fun grant => durationForRate grant.bytes rate) pacer.grants
  before : InTime instantMax rate pacer.grants →
    ∀ grant ∈ pacer.grants, grant.scheduled + durationForRate grant.bytes rate ≤ pacer.nextSend
  sizes : ∀ grant ∈ pacer.grants, grant.bytes ≤ usizeMax
  proceeded : ∀ grant time, (grant, time) ∈ pacer.proceeded →
    grant ∈ pacer.grants ∧ grant.scheduled ≤ time

def Caller.Fits (pacer : Pacer) : Caller → Prop
  | .idle => True
  | .locking bytes | .reading bytes | .scheduling bytes _ => bytes ≤ usizeMax
  | .storing bytes scheduled => bytes ≤ usizeMax ∧ pacer.nextSend ≤ scheduled
  | .granted grant | .sleeping grant => grant ∈ pacer.grants

section Steps

variable {instantMax rate : Nat} {pacer pacer' : Pacer} {caller caller' other : Caller}
variable {rest : Nat}

theorem InTime.of_append {grants more : List Grant}
    (inTime : InTime instantMax rate (grants ++ more)) : InTime instantMax rate grants :=
  fun grant member => inTime grant (List.mem_append_left more member)

/-- The owner of the lock is the only one. -/
theorem holder_alone {locked : Bool} (holders : 1 + rest = if locked then 1 else 0) : rest = 0 := by
  cases locked
  · rw [if_neg Bool.false_ne_true] at holders
    omega
  · rw [if_pos rfl] at holders
    omega

theorem PacerSound.proceed {holders : Nat} (sound : PacerSound instantMax rate pacer holders)
    {grant : Grant} (granted : grant ∈ pacer.grants) (reached : grant.scheduled ≤ pacer.now) :
    PacerSound instantMax rate
      { pacer with proceeded := pacer.proceeded ++ [(grant, pacer.now)] } holders :=
  { sound with
    proceeded := by
      intro other time member
      rcases List.mem_append.mp member with earlier | last
      · exact sound.proceeded other time earlier
      · cases List.mem_singleton.mp last
        exact ⟨granted, reached⟩ }

/-- The store of the caller with the lock: its grant comes after the gaps of all others. -/
theorem PacerSound.store {bytes scheduled : Nat}
    (sound : PacerSound instantMax rate pacer (1 + rest)) (size : bytes ≤ usizeMax)
    (after : pacer.nextSend ≤ scheduled) :
    PacerSound instantMax rate
      { pacer with
        nextSend := (checkedAdd instantMax scheduled (durationForRate bytes rate)).getD scheduled
        locked := false
        grants := pacer.grants ++ [⟨bytes, scheduled⟩] } rest := by
  obtain ⟨holders, spaced, before, sizes, proceeded⟩ := sound
  have alone : rest = 0 := holder_alone holders
  refine ⟨alone, ?_, ?_, ?_, ?_⟩
  · intro inTime
    exact (spaced inTime.of_append).append fun grant member =>
      (before inTime.of_append grant member).trans after
  · intro inTime grant member
    have fits := inTime ⟨bytes, scheduled⟩ (by simp)
    simp only [checkedAdd_eq_some fits, Option.getD_some]
    rcases List.mem_append.mp member with earlier | last
    · have := before inTime.of_append grant earlier
      omega
    · rw [List.mem_singleton.mp last]
  · intro grant member
    rcases List.mem_append.mp member with earlier | last
    · exact sizes grant earlier
    · rw [List.mem_singleton.mp last]
      exact size
  · intro grant time member
    obtain ⟨granted, reached⟩ := proceeded grant time member
    exact ⟨List.mem_append_left _ granted, reached⟩

theorem PacerStep.sound (step : PacerStep instantMax rate pacer caller pacer' caller')
    (sound : PacerSound instantMax rate pacer (caller.own + rest)) (fits : caller.Fits pacer) :
    PacerSound instantMax rate pacer' (caller'.own + rest) ∧ caller'.Fits pacer' := by
  cases step with
  | tick later passes =>
    refine ⟨{ sound with }, ?_⟩
    cases caller <;> exact fits
  | call bytes size => exact ⟨sound, size⟩
  | lock free =>
    refine ⟨{ sound with holders := ?_ }, fits⟩
    have holders := sound.holders
    simp only [free, Caller.own] at holders ⊢
    simpa using holders
  | read => exact ⟨sound, fits⟩
  | schedule => exact ⟨sound, fits, Nat.le_max_left _ _⟩
  | store =>
    have stored := sound.store fits.1 fits.2
    exact ⟨(Nat.zero_add rest).symm ▸ stored, List.mem_append_right _ (List.mem_singleton_self _)⟩
  | sleep => exact ⟨sound, fits⟩
  | pass reached => exact ⟨sound.proceed fits (Nat.not_lt.mp reached), trivial⟩
  | wake reached => exact ⟨sound.proceed fits reached, trivial⟩
  | giveUpLock | giveUpSleep => exact ⟨sound, trivial⟩

/-- A caller that is about to store has the lock, so that nobody else stores. -/
theorem PacerStep.spares (step : PacerStep instantMax rate pacer caller pacer' caller')
    (sound : PacerSound instantMax rate pacer (caller.own + (other.own + rest)))
    (fits : other.Fits pacer) : other.Fits pacer' := by
  have holders := sound.holders
  cases step with
  | store =>
    cases other with
    | storing =>
      have alone : 1 + rest = 0 := holder_alone holders
      omega
    | granted | sleeping => exact List.mem_append_left _ fits
    | _ => exact fits
  | _ => cases other <;> exact fits

end Steps

theorem pacer_sound {ι : Type} [Fintype ι] [DecidableEq ι] {instantMax rate started : Nat}
    {config : Config ι Pacer Caller}
    (reaches : Reaches (PacerStep instantMax rate) (pacerStart started) config) :
    Sound Caller.own (PacerSound instantMax rate) Caller.Fits config := by
  have start : Sound Caller.own (PacerSound instantMax rate) Caller.Fits
      (pacerStart started : Config ι Pacer Caller) := by
    refine ⟨⟨?_, fun _ => List.Pairwise.nil, nofun, nofun, nofun⟩, fun _ => trivial⟩
    simp [pacerStart, Pacer.new, Caller.own]
  exact start.reaches (fun _ _ _ _ _ sound fits step => step.sound sound fits)
    (fun _ _ _ _ _ _ sound _ fits step => step.spares sound fits) reaches

/-! ## The rate -/

/-- The grants whose scheduled times are in a window. -/
def windowGrants (grants : List Grant) (start length : Nat) : List Grant :=
  grants.filter fun grant => start ≤ grant.scheduled ∧ grant.scheduled ≤ start + length

theorem le_mul_spacing {rate : Nat} (positive : 0 < rate) (grants : List Grant) :
    8 * 1000000000 * (grants.map Grant.bytes).sum ≤
      rate * (grants.map fun grant => spacing rate grant.bytes).sum := by
  induction grants with
  | nil => simp
  | cons grant rest ih =>
    have one : 1000000000 * (8 * grant.bytes) ≤ rate * spacing rate grant.bytes :=
      (ceilDiv_le_iff_le_mul positive).mp le_rfl
    rw [List.map_cons, List.map_cons, List.sum_cons, List.sum_cons, Nat.mul_add, Nat.mul_add]
    omega

/-- **The pacer bounds the rate in every window.** -/
theorem pacer_bounds_rate {ι : Type} [Fintype ι] [DecidableEq ι] {instantMax rate started : Nat}
    (positive : 0 < rate) (rateFits : rate ≤ u64Max) {config : Config ι Pacer Caller}
    (reaches : Reaches (PacerStep instantMax rate) (pacerStart started) config)
    (inTime : InTime instantMax rate config.shared.grants)
    (unsaturated : ∀ grant ∈ config.shared.grants, spacing rate grant.bytes ≤ u64Max) :
    (config.shared.grants.Pairwise fun first second => first.scheduled ≤ second.scheduled) ∧
    (∀ i j (_ : i < j) (_ : j < config.shared.grants.length),
      (config.shared.grants[i]).scheduled +
          (((config.shared.grants.take j).drop i).map fun grant => spacing rate grant.bytes).sum ≤
        (config.shared.grants[j]).scheduled) ∧
    (∀ start length, ((windowGrants config.shared.grants start length).map Grant.bytes).sum ≤
      rate * length / (8 * 1000000000) +
        ((windowGrants config.shared.grants start length).map Grant.bytes).getLastD 0) ∧
    ∀ grant time, (grant, time) ∈ config.shared.proceeded →
      grant ∈ config.shared.grants ∧ grant.scheduled ≤ time := by
  have sound := (pacer_sound reaches).inv
  set grants := config.shared.grants
  have gaps : ∀ grant ∈ grants, durationForRate grant.bytes rate = spacing rate grant.bytes := by
    intro grant member
    rw [durationForRate_eq (sound.sizes grant member) positive rateFits,
      min_eq_left (unsaturated grant member)]
  have spaced : Spaced Grant.scheduled (fun grant => spacing rate grant.bytes) grants := by
    refine (sound.spaced inTime).imp_of_mem fun {first second} isFirst _ apart => ?_
    simp only [gaps first isFirst] at apart
    exact apart
  refine ⟨spaced.ordered, fun i j ordered inside => spaced.between ordered inside, ?_,
    sound.proceeded⟩
  intro start length
  set window := windowGrants grants start length with windowDef
  rcases window.eq_nil_or_concat' with empty | ⟨earlier, last, split⟩
  · simp [empty]
  · have inside : ∀ grant ∈ window,
        start ≤ grant.scheduled ∧ grant.scheduled ≤ start + length := by
      intro grant member
      simpa using (List.mem_filter.mp member).2
    have windowSpaced : Spaced Grant.scheduled (fun grant => spacing rate grant.bytes) window :=
      spaced.sublist List.filter_sublist
    have free := windowSpaced.sum_dropLast_le (by rw [split]; simp)
      (fun grant member => (inside grant member).1) (fun grant member => (inside grant member).2)
    have covered := le_mul_spacing positive earlier
    rw [split, List.dropLast_concat] at free
    have bound : rate * (earlier.map fun grant => spacing rate grant.bytes).sum ≤ rate * length :=
      Nat.mul_le_mul_left rate (by omega)
    have bytes : (earlier.map Grant.bytes).sum ≤ rate * length / (8 * 1000000000) := by
      rw [Nat.le_div_iff_mul_le (by decide), Nat.mul_comm]
      exact covered.trans bound
    rw [split, List.map_append, List.sum_append, List.map_singleton, List.sum_singleton,
      List.getLastD_concat]
    omega

/-! ## Runs of a caller on its own -/

/-- The pacer after a grant. -/
def Pacer.grant (pacer : Pacer) (instantMax rate bytes : Nat) : Pacer :=
  let scheduled := max pacer.nextSend pacer.now
  { pacer with
    nextSend := (checkedAdd instantMax scheduled (durationForRate bytes rate)).getD scheduled
    locked := false
    grants := pacer.grants ++ [⟨bytes, scheduled⟩] }

theorem reaches_grant {instantMax rate : Nat} {pacer after : Pacer} (free : pacer.locked = false)
    {bytes : Nat} (size : bytes ≤ usizeMax) (grants : pacer.grant instantMax rate bytes = after) :
    Reaches (PacerStep instantMax rate) (Config.alone pacer .idle)
      (Config.alone after (.granted ⟨bytes, max pacer.nextSend pacer.now⟩)) := by
  subst grants
  refine .head (moves_alone (.call bytes size)) ?_
  refine .head (moves_alone (.lock free)) ?_
  refine .head (moves_alone .read) ?_
  exact .head (moves_alone .schedule) (.single (moves_alone .store))

/-- A time that no run comes to. -/
def exampleInstantMax : Nat := 10 ^ 27

/-- A gigabyte per second: a byte takes a nanosecond. -/
def exampleRate : Nat := 8000000000

/-- The pacer after two grants. The second caller slept until its time had come. -/
def examplePaced : Pacer where
  now := 3
  nextSend := 5
  locked := false
  grants := [⟨3, 0⟩, ⟨2, 3⟩]
  proceeded := [(⟨3, 0⟩, 0), (⟨2, 3⟩, 3)]

theorem examplePaced_reached : Reaches (PacerStep exampleInstantMax exampleRate)
    (Config.alone (.new 0) .idle) (Config.alone examplePaced .idle) := by
  have grants : Reaches (PacerStep exampleInstantMax exampleRate) (Config.alone (.new 0) .idle)
      (Config.alone ⟨0, 3, false, [⟨3, 0⟩], []⟩ (.granted ⟨3, 0⟩)) :=
    reaches_grant rfl (by decide) (by decide +kernel)
  have grantsAgain : Reaches (PacerStep exampleInstantMax exampleRate)
      (Config.alone ⟨0, 3, false, [⟨3, 0⟩], [(⟨3, 0⟩, 0)]⟩ .idle)
      (Config.alone ⟨0, 5, false, [⟨3, 0⟩, ⟨2, 3⟩], [(⟨3, 0⟩, 0)]⟩ (.granted ⟨2, 3⟩)) :=
    reaches_grant rfl (by decide) (by decide +kernel)
  refine (grants.tail (moves_alone (.pass (by decide)))).trans (grantsAgain.trans ?_)
  refine .head (moves_alone (.sleep (by decide))) ?_
  refine .head (moves_alone (.tick 3 (by decide))) ?_
  exact .single (moves_alone (.wake (by decide)))

theorem pacer_bounds_rate_example :
    InTime exampleInstantMax exampleRate examplePaced.grants ∧
      (∀ grant ∈ examplePaced.grants, spacing exampleRate grant.bytes ≤ u64Max) ∧
      0 + (spacing exampleRate 3 + 0) ≤ 3 ∧ spacing exampleRate 3 = 3 := by
  have inTime : InTime exampleInstantMax exampleRate examplePaced.grants := by decide +kernel
  have unsaturated : ∀ grant ∈ examplePaced.grants, spacing exampleRate grant.bytes ≤ u64Max := by
    decide +kernel
  have bounds := pacer_bounds_rate (by decide) (by decide) examplePaced_reached inTime unsaturated
  exact ⟨inTime, unsaturated, bounds.2.1 0 1 (by decide) (by decide), by decide +kernel⟩

/-- A chunk of four gibibytes at one bit per second takes longer than a `u64` has nanoseconds, and
the next caller is scheduled too early. -/
theorem saturated_spacing_too_short :
    ∃ config : Config Unit Pacer Caller,
      Reaches (PacerStep exampleInstantMax 1) (pacerStart 0) config ∧
      InTime exampleInstantMax 1 config.shared.grants ∧
      config.shared.grants = [⟨2 ^ 32, 0⟩, ⟨1, u64Max⟩] ∧ u64Max < 0 + spacing 1 (2 ^ 32) := by
  have first : (Pacer.new 0).grant exampleInstantMax 1 (2 ^ 32) =
      ⟨0, u64Max, false, [⟨2 ^ 32, 0⟩], []⟩ := by decide +kernel
  have grants := (reaches_grant rfl (by decide) first).tail (moves_alone (.pass (by decide)))
  refine ⟨_, grants.trans (reaches_grant rfl (show 1 ≤ usizeMax by decide) rfl), ?_, ?_, ?_⟩
  all_goals decide +kernel

end FlowWeave.Proxy
