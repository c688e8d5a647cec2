/-
# Vpn.DataPathCalls — what a data path asks of its services

Besides the metrics, a data path calls only the rate limiter, and it does so with the
time that its caller gave it. `DataPathOp.program_calls` says this for every operation;
`operate_limiter` is the rule that follows for invariants of a limiter.
-/
import FlowWeave.Vpn.HeapTrace

namespace FlowWeave.Vpn

open Theory.SharedLedger (Program)
open Theory.SharedLedger.Program (Calls)

set_option autoImplicit false

variable {P : DataPathCall → Prop}

/-! ## The counters only -/

theorem subtract_calls (counter : LedgerCounter) (amount : Nat) :
    (subtract counter amount).Calls P := by
  unfold subtract
  split <;> exact trivial

theorem release_calls (bytes packets : Nat) : (release bytes packets).Calls P :=
  (subtract_calls _ _).seq fun _ => subtract_calls _ _

theorem reconcile_calls (reservation : VpnGlobalReassemblyReservation)
    (accountedBytes accountedPackets actualBytes actualPackets : Nat) :
    (reservation.reconcile accountedBytes accountedPackets actualBytes actualPackets).Calls P := by
  have drop : (reservation.drop accountedBytes accountedPackets).Calls P :=
    (release_calls _ _).seq fun _ => trivial
  unfold VpnGlobalReassemblyReservation.reconcile
  split
  · exact drop
  split
  · exact drop
  split
  · exact drop
  · refine (release_calls _ _).seq fun _ => ?_
    exact (release_calls 0 0).seq fun _ => trivial

theorem releaseAllAccounted_calls (state : VpnDataPathState) :
    (releaseAllAccounted state).Calls P :=
  (release_calls _ _).seq fun _ => trivial

theorem reconcileShrink_calls (state : VpnDataPathState) : (reconcileShrink state).Calls P := by
  unfold reconcileShrink
  dsimp only
  split
  · exact trivial
  · exact (release_calls _ _).seq fun _ => trivial

theorem reconcileShrinkElseFail_calls {α : Type} (state : VpnDataPathState)
    {rest : VpnDataPathState → DataPathM (Except VpnDataPathError α × VpnDataPathState)}
    (continues : ∀ state, (rest state).Calls P) : (reconcileShrinkElseFail state rest).Calls P := by
  refine (reconcileShrink_calls state).seq fun shrunk => ?_
  cases shrunk with
  | none => exact (releaseAllAccounted_calls _).seq fun _ => trivial
  | some state => exact continues state

/-! ## The metrics and the limiter -/

section Metrics

variable (records : ∀ event, P (.record event))

include records

theorem record_calls (event : MetricEvent) : (record event).Calls P :=
  ⟨records event, fun _ => trivial⟩

theorem tryReserve_calls (bytes packets : Nat) : (tryReserve bytes packets).Calls P := by
  intro total
  cases total with
  | none => exact (record_calls records _).seq fun _ => trivial
  | some currentBytes =>
    intro total
    cases total with
    | none =>
      exact (subtract_calls _ _).seq fun _ => (record_calls records _).seq fun _ => trivial
    | some currentPackets => exact (record_calls records _).seq fun _ => trivial

namespace VpnDataPathInner

variable (inner : VpnDataPathInner) (direction : VpnPacketDirection) (now : Nat)

theorem makeIdentityRoom_calls (packetId : UInt32) (existingPacket : Bool)
    (additionalBytes additionalPackets fuel : Nat) :
    ∀ state : VpnDataPathState, (inner.makeIdentityRoom direction packetId existingPacket
      additionalBytes additionalPackets fuel state).Calls P := by
  induction fuel with
  | zero => exact fun _ => trivial
  | succ fuel ih =>
    intro state
    unfold makeIdentityRoom
    dsimp only
    split
    · exact trivial
    · split
      · exact ih _
      · split <;> exact (record_calls records _).seq fun _ => trivial

theorem ingestReserved_calls (datagram : List UInt8) (fragment : VpnFragment)
    (additionalBytes : Nat) (state : VpnDataPathState) :
    (inner.ingestReserved direction now datagram fragment additionalBytes state).Calls P := by
  refine (inner.makeIdentityRoom_calls records direction _ _ _ _ _ _).seq fun room => ?_
  obtain ⟨result, state⟩ := room
  cases result with
  | error rejection => exact trivial
  | ok _ =>
    refine reconcileShrinkElseFail_calls state fun state => ?_
    refine (tryReserve_calls records _ _).seq fun reserved => ?_
    cases reserved with
    | error rejection => exact trivial
    | ok reservation =>
      refine (reconcile_calls reservation _ _ _ _).seq fun accounted => ?_
      cases accounted with
      | none => exact (releaseAllAccounted_calls _).seq fun _ => trivial
      | some amounts => exact trivial

theorem ingestFragment_calls (datagram : List UInt8) (fragment : VpnFragment)
    (state : VpnDataPathState) :
    (inner.ingestFragment direction now datagram fragment state).Calls P := by
  unfold ingestFragment
  split
  · exact reconcileShrinkElseFail_calls _ fun _ => trivial
  · split
    · exact reconcileShrinkElseFail_calls _ fun _ => trivial
    · exact inner.ingestReserved_calls records direction now _ _ _ _
    · exact reconcileShrinkElseFail_calls _ fun _ => trivial

variable (admits : ∀ lengths, P (.admitDatagrams direction lengths now))

include admits

theorem ingestLocked_calls (datagram : List UInt8) (state : VpnDataPathState) :
    (inner.ingestLocked direction now datagram state).Calls P := by
  unfold ingestLocked
  split
  · exact (record_calls records _).seq fun _ => trivial
  · refine Calls.seq ⟨admits _, fun _ => trivial⟩ fun answer => ?_
    cases answer with
    | error rejection => exact trivial
    | ok _ =>
      refine reconcileShrinkElseFail_calls _ fun state => ?_
      split
      · exact reconcileShrinkElseFail_calls _ fun _ => trivial
      · exact inner.ingestFragment_calls records direction now _ _ _

theorem ingestDatagram_calls (datagram : List UInt8) (state : VpnDataPathState) :
    (inner.ingestDatagram direction datagram now state).Calls P := by
  have deliver_calls : ∀ result, (inner.deliver direction result).Calls P := by
    intro result
    unfold deliver
    split
    · refine (record_calls records _).seq fun _ => ?_
      split <;> exact trivial
    · exact trivial
    · split
      · exact (record_calls records _).seq fun _ => trivial
      · exact trivial
  refine (inner.ingestLocked_calls records direction now admits _ _).seq fun outcome => ?_
  obtain ⟨result, state⟩ := outcome
  cases result with
  | error error => exact trivial
  | ok reassembled => exact (deliver_calls reassembled).seq fun _ => trivial

theorem encodeIpPacket_calls (packetId : UInt32) (packet : List UInt8) (maxDatagramLen : Nat)
    (state : VpnDataPathState) :
    (inner.encodeIpPacket direction packetId packet maxDatagramLen now state).Calls P := by
  unfold encodeIpPacket
  split
  · exact (record_calls records _).seq fun _ => trivial
  split
  · exact trivial
  split
  · exact (record_calls records _).seq fun _ => trivial
  split
  · exact trivial
  · refine Calls.seq ⟨admits _, fun _ => trivial⟩ fun answer => ?_
    cases answer with
    | error rejection => exact trivial
    | ok _ => exact (record_calls records _).seq fun _ => trivial

end VpnDataPathInner

end Metrics

/-! ## Operations -/

/-- The time at which an operation may ask the limiter. -/
def DataPathOp.admitsAt : DataPathOp → Option Nat
  | .ingestDatagram _ _ now => some now
  | .encodeIpPacket _ _ _ _ now => some now
  | _ => none

/-- The calls of an operation: to the metrics, and to the limiter at its own time. -/
def DataPathOp.MayCall (op : DataPathOp) : DataPathCall → Prop
  | .admitDatagrams _ _ now => op.admitsAt = some now
  | .record _ => True

/-- **An operation asks the limiter with its own time, if at all.** -/
theorem DataPathOp.program_calls (op : DataPathOp) (inner : VpnDataPathInner)
    (state : VpnDataPathState) : (op.program inner state).Calls op.MayCall := by
  cases op with
  | ingestDatagram direction datagram now =>
    exact (inner.ingestDatagram_calls (fun _ => trivial) direction now (fun _ => rfl) _ _).seq
      fun _ => trivial
  | encodeIpPacket direction packetId packet maxDatagramLen now =>
    exact (inner.encodeIpPacket_calls (fun _ => trivial) direction now (fun _ => rfl) _ _ _ _).seq
      fun _ => trivial
  | expireReassembly now =>
    refine Calls.seq ?_ fun _ => trivial
    refine (reconcileShrink_calls _).seq fun shrunk => ?_
    cases shrunk with
    | none => exact (releaseAllAccounted_calls _).seq fun _ => trivial
    | some state => exact trivial
  | activate => exact trivial
  | deactivate => exact (releaseAllAccounted_calls _).seq fun _ => trivial

theorem DataPathEnv.record_limiter (env : DataPathEnv) (event : MetricEvent) :
    (env.record event).limiter = env.limiter := by
  cases event <;> rfl

variable {dataPath : Nat} {op : DataPathOp} {budget : VpnGlobalReassemblyBudget}

/-- The rule for a limiter under an operation: what holds of it and of the lengths
admitted so far, and is kept by every admission at the operation's time, holds
afterwards. -/
theorem DataPathHeap.operate_limiter {heap : DataPathHeap} {operated : Operated}
    {handle : VpnDataPathHandle} {limiter : IdentityRateState}
    {Q : IdentityRateState → List Nat → Prop}
    (ran : heap.operate budget dataPath op = some operated)
    (found : heap.handles[dataPath]? = some handle)
    (isLimiter : heap.rateLimiters[handle.rateLimiter]? = some limiter) (start : Q limiter [])
    (refused : ∀ {state after admitted lengths now rejection}, op.admitsAt = some now →
      IdentityRateState.Admission state lengths now (.error rejection) after →
      Q state admitted → Q after admitted)
    (granted : ∀ {state after admitted lengths now}, op.admitsAt = some now →
      IdentityRateState.Admission state lengths now (.ok ()) after →
      Q state admitted → Q after (admitted ++ lengths)) :
    ∃ later, operated.heap.rateLimiters = heap.rateLimiters.set handle.rateLimiter later ∧
      Q later operated.admitted := by
  obtain ⟨same, state, first, later, isSame, -, isFirst, changed, counters, env, runs, rfl⟩ :=
    operate_changes ran
  cases found.symm.trans isSame
  cases isLimiter.symm.trans isFirst
  refine ⟨env.limiter, changed, ?_⟩
  refine (op.program_calls handle.inner handle.state).run
    (Q := fun metered => Q metered.1.limiter metered.2) ?_ start runs
  rintro call ⟨services, admitted⟩ permitted holds
  cases call with
  | record event =>
    show Q (services.record event).limiter (admitted ++ [])
    rw [DataPathEnv.record_limiter, List.append_nil]
    exact holds
  | admitDatagrams direction lengths now =>
    have answered : ∀ {answer after}
        (admission : services.limiter.Admission lengths now answer after),
        Q after (admitted ++ admittedBy (.admitDatagrams direction lengths now)
          ⟨answer, admission.rateAnswer⟩) := by
      intro answer after admission
      cases answer with
      | error rejection =>
        show Q after (admitted ++ [])
        rw [List.append_nil]
        exact refused permitted admission holds
      | ok value => exact granted permitted admission holds
    exact answered (services.limiter.admitDatagrams_admission services.quotaMetrics direction
      lengths now)

/-- An operation that does not ask the limiter leaves it alone. -/
theorem DataPathHeap.operate_silent {heap : DataPathHeap} {operated : Operated}
    (ran : heap.operate budget dataPath op = some operated) (silent : op.admitsAt = none) :
    operated.heap.rateLimiters = heap.rateLimiters ∧ operated.admitted = [] := by
  obtain ⟨handle, state, limiter, -, found, -, isLimiter, -⟩ := operate_changes ran
  obtain ⟨later, changed, rfl, nothing⟩ := operate_limiter
    (Q := fun state admitted => state = limiter ∧ admitted = []) ran found isLimiter ⟨rfl, rfl⟩
    (fun asks => by rw [silent] at asks; cases asks)
    (fun asks => by rw [silent] at asks; cases asks)
  have inside := (List.getElem?_eq_some_iff.mp isLimiter)
  refine ⟨?_, nothing⟩
  rw [changed, ← inside.2, List.set_getElem_self]

theorem HeapEvent.Switches.silent {admitted : List Nat}
    (switches : (HeapEvent.operated dataPath op admitted).Switches) : op.admitsAt = none := by
  rcases switches with rfl | rfl <;> rfl

/-- Switching handles on and off leaves the limiters alone. -/
theorem DataPathHeap.SwitchesTo.rateLimiters {before after : DataPathHeap}
    (switching : before.SwitchesTo budget after) : after.rateLimiters = before.rateLimiters := by
  obtain ⟨events, run, switches⟩ := switching
  induction run with
  | done heap => rfl
  | next step rest ih =>
    obtain ⟨first, others⟩ := List.forall_mem_cons.mp switches
    rw [ih others]
    cases step with
    | operate returned => exact (DataPathHeap.operate_silent returned first.silent).1
    | newLimiter => exact first.elim
    | newHandle => exact first.elim
    | reconfigure => exact first.elim
    | rehash => exact first.elim

end FlowWeave.Vpn
