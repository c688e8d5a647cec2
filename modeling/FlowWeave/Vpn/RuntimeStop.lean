/-
# Vpn.RuntimeStop — a stop reaches every task of a runtime

What happens eventually to the tasks of `Vpn.RuntimeControl`. A run is fair when a task that is
`Ready` goes on. A task is ready unless it waits: for an event, for a join whose loop has not ended,
or in `cancelled` with a future that no call of `notify_waiters` has woken. The first tick of the
inbound loop's interval is due at once. Nothing is assumed of the events of the loops.

Ranks of the local states carry the argument. After a stop the task that swapped the flag notifies
(`eventually_notified`); then no wait is blocked and each loop runs down to its exit
(`eventually_exit`); then the supervisor has both exits to join (`eventually_ended`).
`stop_reaches_every_task` puts this together, for a stop by whoever calls it.
-/
import FlowWeave.Vpn.RuntimeControl

namespace FlowWeave.Vpn

open Theory.Threads RuntimeThread CancelledWait

set_option autoImplicit false

/-! ## Ranks -/

/-- The steps to the end of a wait, or to an event. -/
def CancelledWait.rank : CancelledWait → Nat
  | enter => 2
  | created _ => 1
  | awaiting _ => 4

def LoopState.rank : LoopState → Nat
  | starting | working _ => 3
  | waiting _ wait => wait.rank
  | finished _ => 0

def SupervisorState.rank : SupervisorState → Nat
  | joinFirst => 7
  | stop _ _ .swap => 6
  | stop _ _ .notify => 5
  | joinSecond _ _ => 4
  | unbindRuntime _ _ => 3
  | deactivate _ _ => 2
  | readFlag _ _ => 1
  | reported _ => 0

namespace RuntimeThread

/-- Who goes on without an event from outside. A wait does when it is not blocked, and a join when
there is an exit. -/
def Ready (shared : RuntimeShared) : RuntimeThread → Prop
  | caller .idle | loop (.finished _) | supervisor (.reported _) => False
  | caller (.cancelled wait) | loop (.waiting _ wait) => (wait.next? shared).isSome = true
  | supervisor .joinFirst => ∃ finished, (shared.exits finished).isSome = true
  | supervisor (.joinSecond _ finished) => (shared.exits finished.other).isSome = true
  | _ => True

def waitRank (thread : RuntimeThread) : Nat := thread.wait?.elim 0 rank

def loopRank : RuntimeThread → Nat
  | loop state => state.rank
  | _ => 0

def supervisorRank : RuntimeThread → Nat
  | supervisor state => state.rank
  | _ => 0

end RuntimeThread

/-- A stop that is known to all. -/
structure RuntimeShared.Notified (shared : RuntimeShared) : Prop where
  stopping : shared.stopping = true
  notified : 0 < shared.notifications

theorem RuntimeShared.Notified.later {before after : RuntimeShared} (later : before.Later after)
    (stopped : before.Notified) : after.Notified :=
  ⟨later.stopping stopped.stopping, stopped.notified.trans_le later.notifications⟩

section Ranks

variable {shared shared' : RuntimeShared} {thread thread' : RuntimeThread}

theorem RuntimeThread.wait?_cases {wait : CancelledWait} (waits : thread.wait? = some wait) :
    thread = .caller (.cancelled wait) ∨ ∃ point, thread = .loop (.waiting point wait) := by
  rcases thread with (_ | _ | _ | _) | (_ | _ | _ | _) | _ <;> cases waits
  · exact .inl rfl
  · exact .inr ⟨_, rfl⟩

variable {call : StopCall}

theorem RuntimeThread.stopCall?_cases (calls : thread.stopCall? = some call) :
    thread = .caller (.stop call) ∨
      ∃ first finished, thread = .supervisor (.stop first finished call) := by
  rcases thread with (_ | _ | _ | _) | _ | (_ | _ | _ | _ | _ | _ | _) <;> cases calls
  · exact .inl rfl
  · exact .inr ⟨_, _, rfl⟩

theorem RuntimeThread.Fits.wait {wait : CancelledWait} (fits : thread.Fits shared)
    (waits : thread.wait? = some wait) : wait.Fits shared := by
  obtain rfl | ⟨point, rfl⟩ := wait?_cases waits <;> exact fits

theorem CancelledWait.next?_isSome {wait : CancelledWait} (fits : wait.Fits shared)
    (notified : 0 < shared.notifications) : (wait.next? shared).isSome = true := by
  cases wait with
  | enter => rfl
  | created seen =>
    simp only [next?]
    split <;> rfl
  | awaiting seen =>
    have unseen : seen = 0 := fits
    simp [next?, unseen, notified]

theorem CancelledWait.rank_next? {wait left : CancelledWait} (stopping : shared.stopping = true)
    (next : wait.next? shared = some (some left)) : left.rank < wait.rank := by
  cases wait with
  | enter =>
    simp only [next?, Option.some.injEq] at next
    simp [← next, rank]
  | created seen => simp [next?, stopping] at next
  | awaiting seen =>
    simp only [next?, Option.ite_none_right_eq_some, Option.some.injEq] at next
    simp [← next.2, rank]

theorem waitRank_falls (stopping : shared.stopping = true) (waits : thread.waitRank ≠ 0)
    (step : RuntimeStep shared thread shared' thread') : thread'.waitRank < thread.waitRank := by
  cases step with
  | supervisor => exact absurd rfl waits
  | caller step =>
    cases step with
    | waitStep wait left next =>
      cases left with
      | none => exact Nat.pos_of_ne_zero waits
      | some left => exact rank_next? stopping next
    | dropWait => exact Nat.pos_of_ne_zero waits
    | _ => exact absurd rfl waits
  | loop step =>
    cases step with
    | waitStep point wait left next => exact rank_next? stopping next
    | stopped | event | panic => exact Nat.pos_of_ne_zero waits
    | _ => exact absurd rfl waits

theorem loopRank_falls (stopping : shared.stopping = true) (runs : thread.loopRank ≠ 0)
    (step : RuntimeStep shared thread shared' thread') : thread'.loopRank < thread.loopRank := by
  cases step with
  | supervisor | caller => exact absurd rfl runs
  | loop step =>
    cases step with
    | waitStep point wait left next => exact rank_next? stopping next
    | stopped | exit | panic => exact Nat.pos_of_ne_zero runs
    | event | goOn | firstTick =>
      simp [loopRank, LoopState.rank, rank]

theorem supervisorRank_falls (runs : thread.supervisorRank ≠ 0)
    (step : RuntimeStep shared thread shared' thread') :
    thread'.supervisorRank < thread.supervisorRank := by
  cases step with
  | loop | caller => exact absurd rfl runs
  | supervisor step =>
    cases step with
    | stopStep first ended call =>
      cases call with
      | swap =>
        simp only [StopCall.step]
        split <;> simp [supervisorRank, SupervisorState.rank]
      | notify => simp [StopCall.step, supervisorRank, SupervisorState.rank]
    | _ => simp [supervisorRank, SupervisorState.rank]

theorem waitRank_ready (notified : 0 < shared.notifications) (fits : thread.Fits shared)
    (waits : thread.waitRank ≠ 0) : thread.Ready shared := by
  rw [waitRank] at waits
  cases isWait : thread.wait? with
  | none => exact absurd (by rw [isWait]; rfl) waits
  | some wait =>
    have goesOn := next?_isSome (fits.wait isWait) notified
    obtain rfl | ⟨point, rfl⟩ := wait?_cases isWait <;> exact goesOn

theorem loopRank_ready (notified : 0 < shared.notifications) (fits : thread.Fits shared)
    (runs : thread.loopRank ≠ 0) : thread.Ready shared := by
  cases thread with
  | caller | supervisor => exact absurd rfl runs
  | loop state =>
    cases state with
    | waiting point wait => exact next?_isSome fits notified
    | finished => exact absurd rfl runs
    | starting | working => trivial

theorem supervisorRank_ready (ended : ∀ loop, (shared.exits loop).isSome = true)
    (runs : thread.supervisorRank ≠ 0) : thread.Ready shared := by
  cases thread with
  | caller | loop => exact absurd rfl runs
  | supervisor state =>
    cases state with
    | joinFirst => exact ⟨.inbound, ended .inbound⟩
    | joinSecond first finished => exact ended finished.other
    | reported => exact absurd rfl runs
    | _ => trivial

theorem ready_of_stopCall (calls : thread.stopCall? = some call) : thread.Ready shared := by
  obtain rfl | ⟨first, finished, rfl⟩ := stopCall?_cases calls <;> trivial

theorem RuntimeStep.of_stopCall (calls : thread.stopCall? = some call)
    (step : RuntimeStep shared thread shared' thread') : shared' = (call.step shared).1 := by
  obtain rfl | ⟨first, finished, rfl⟩ := stopCall?_cases calls
  · obtain ⟨⟨⟩⟩ := step
    rfl
  · obtain _ | _ | ⟨⟨⟩⟩ := step
    rfl

theorem call_of_own_fst (has : thread.own.1 ≠ 0) : thread.stopCall? = some .notify := by
  rw [own] at has
  rcases call : thread.stopCall? with _ | _ | _
  · exact absurd (by rw [call]; rfl) has
  · exact absurd (by rw [call]; rfl) has
  · rfl

theorem call_of_own_snd (has : thread.own.2 ≠ 0) : thread.stopCall? = some .swap := by
  rw [own] at has
  rcases call : thread.stopCall? with _ | _ | _
  · exact absurd (by rw [call]; rfl) has
  · rfl
  · exact absurd (by rw [call]; rfl) has

theorem joinRank_ready {ended : RuntimeLoop} (has : (shared.exits ended).isSome = true)
    (runs : thread.supervisorRank - 5 ≠ 0) : thread.Ready shared := by
  cases thread with
  | caller | loop => exact absurd rfl runs
  | supervisor state =>
    cases state with
    | joinFirst => exact ⟨ended, has⟩
    | stop => trivial
    | _ => exact absurd rfl runs

theorem stopping_of_supervisor {state : SupervisorState}
    (fits : (supervisor state).Fits shared)
    (low : (supervisor state).supervisorRank - 5 = 0) : shared.stopping = true := by
  cases state with
  | joinFirst => cases low
  | stop first finished call =>
    cases call with
    | swap => cases low
    | notify => exact fits
  | joinSecond | unbindRuntime => exact fits
  | deactivate | readFlag | reported => exact fits.1

theorem RuntimeStep.reports {stopReason : VpnDatagramRuntimeStopReason}
    (step : RuntimeStep shared thread shared' (.supervisor (.reported stopReason)))
    (requested : shared.shutdownRequested = true) : stopReason = .shutdownRequested := by
  cases step with
  | supervisor step =>
    generalize last : SupervisorState.reported stopReason = state at step
    cases step with
    | report first second =>
      rw [if_pos requested] at last
      exact SupervisorState.reported.inj last
    | stopStep first finished call =>
      cases left : (call.step shared).2 <;> rw [left] at last <;> cases last
    | _ => cases last

end Ranks

/-! ## Fair runs -/

section FairRuns

variable {κ : Type} [DecidableEq κ]
variable {run : Nat → Config (RuntimeTask κ) RuntimeShared RuntimeThread} {n : Nat}

/-- What grows lasts, and so does being a state of the runtime. -/
theorem reaches_lasts {holds : RuntimeShared → Prop}
    (grows : ∀ {before after : RuntimeShared}, before.Later after → holds before → holds after)
    (before after : Config (RuntimeTask κ) RuntimeShared RuntimeThread)
    (now : Reaches RuntimeStep (runtimeStart κ) before ∧ holds before.shared)
    (moves : Moves RuntimeStep before after) :
    Reaches RuntimeStep (runtimeStart κ) after ∧ holds after.shared :=
  ⟨now.1.tail moves, grows (later_of_reaches (.single moves)) now.2⟩

/-- Once a shutdown is requested, the report that is still to come says so. -/
theorem reported_shutdownRequested
    {config after : Config (RuntimeTask κ) RuntimeShared RuntimeThread}
    (requested : config.shared.shutdownRequested = true)
    (unread : ∀ stopReason, config.locals .supervisor ≠ .supervisor (.reported stopReason))
    (reaches : Reaches RuntimeStep config after) (stopReason : VpnDatagramRuntimeStopReason)
    (reported : after.locals .supervisor = .supervisor (.reported stopReason)) :
    stopReason = .shutdownRequested := by
  induction reaches with
  | refl => exact absurd reported (unread stopReason)
  | @tail before after reaches moves ih =>
    obtain ⟨task, step⟩ := moves
    by_cases same : task = .supervisor
    · subst same
      have stepped := step.stepped
      rw [reported] at stepped
      exact stepped.reports ((later_of_reaches reaches).shutdownRequested requested)
    · rw [step.locals_ne (Ne.symm same)] at reported
      exact ih reported

/-- A runtime that has come to its end, with its report. -/
structure RuntimeEnded (config : Config (RuntimeTask κ) RuntimeShared RuntimeThread) : Prop where
  exits : ∀ loop, (config.shared.exits loop).isSome = true
  unbound : config.shared.bound = false
  inactive : config.shared.active = false
  reported : ∃ stopReason, config.locals .supervisor = .supervisor (.reported stopReason)

variable [Fintype κ]

/-- When the notification is out, no wait is blocked. -/
theorem waits_go_on {config : Config (RuntimeTask κ) RuntimeShared RuntimeThread}
    (reaches : Reaches RuntimeStep (runtimeStart κ) config)
    (stopping : config.shared.stopping = true)
    (sent : ∀ task, (config.locals task).stopCall? ≠ some .notify) (task : RuntimeTask κ)
    {wait : CancelledWait} (waits : (config.locals task).wait? = some wait) :
    (wait.next? config.shared).isSome = true := by
  have sound := runtime_sound reaches
  have once := sound.inv.once
  have none (task : RuntimeTask κ) : (config.locals task).own.1 = 0 := by
    by_contra has
    exact sent task (call_of_own_fst has)
  rw [stopping, if_pos rfl, Prod.fst_sum, Finset.sum_eq_zero fun task _ => none task] at once
  exact next?_isSome ((sound.fits task).wait waits) (by omega)

variable (fair : FairRun RuntimeStep Ready run)
  (here : Reaches RuntimeStep (runtimeStart κ) (run n))
include fair here

omit [Fintype κ] in
/-- A `stop` that was begun takes its next step. -/
theorem eventually_stopStep {task : RuntimeTask κ} {call : StopCall}
    (calls : ((run n).locals task).stopCall? = some call) :
    ∃ m ≥ n, (run (m + 1)).shared = (call.step (run m).shared).1 := by
  obtain ⟨m, later, -, same, step⟩ := fair.eventually_steps
    (@reaches_lasts κ _ (fun _ => True) fun _ => id)
    (fun _ _ _ => ready_of_stopCall calls) ⟨here, trivial⟩ rfl
  exact ⟨m, later, step.stepped.of_stopCall (same ▸ calls)⟩

theorem eventually_notified (stopping : (run n).shared.stopping = true) :
    ∃ m ≥ n, (run m).shared.Notified := by
  by_cases notified : 0 < (run n).shared.notifications
  · exact ⟨n, le_rfl, stopping, notified⟩
  · -- the notification is still with a task
    have once := (runtime_sound here).inv.once
    rw [stopping, if_pos rfl, Prod.fst_sum] at once
    obtain ⟨task, -, has⟩ := Finset.exists_ne_zero_of_sum_ne_zero
      (by omega : ∑ task, ((run n).locals task).own.1 ≠ 0)
    obtain ⟨m, later, sent⟩ := eventually_stopStep fair here (call_of_own_fst has)
    refine ⟨m + 1, by omega, (later_of_reaches (fair.reaches (by omega))).stopping stopping, ?_⟩
    rw [sent]
    exact Nat.succ_pos _

theorem eventually_stopping_of_requested (requested : (run n).shared.shutdownRequested = true) :
    ∃ m ≥ n, (run m).shared.stopping = true := by
  rcases (runtime_sound here).inv.requested requested with stopping | swaps
  · exact ⟨n, le_rfl, stopping⟩
  · rw [Prod.snd_sum] at swaps
    obtain ⟨task, -, has⟩ := Finset.exists_ne_zero_of_sum_ne_zero swaps.ne'
    obtain ⟨m, later, swapped⟩ := eventually_stopStep fair here (call_of_own_snd has)
    refine ⟨m + 1, by omega, ?_⟩
    rw [swapped]
    rfl

/-- Progress of one task while a property of the shared state lasts. -/
theorem eventually_rank_zero {holds : RuntimeShared → Prop}
    (grows : ∀ {before after : RuntimeShared}, before.Later after → holds before → holds after)
    (now : holds (run n).shared) (task : RuntimeTask κ) (rank : RuntimeThread → Nat)
    (ready : ∀ {shared thread}, holds shared → thread.Fits shared → rank thread ≠ 0 →
      thread.Ready shared)
    (falls : ∀ {shared thread shared' thread'}, holds shared → rank thread ≠ 0 →
      RuntimeStep shared thread shared' thread' → rank thread' < rank thread) :
    ∃ m ≥ n, rank ((run m).locals task) = 0 := by
  obtain ⟨m, later, -, zero⟩ := fair.eventually_zero task rank (reaches_lasts grows)
    (fun config now high => ready now.2 ((runtime_sound now.1).fits task) high)
    (fun config _ _ now high step => falls now.2 high step) ⟨here, now⟩
  exact ⟨m, later, zero⟩

/-- The supervisor joins the loop that has ended, and swaps the flag. -/
theorem eventually_stopping_of_exit {loop : RuntimeLoop}
    (ended : ((run n).shared.exits loop).isSome = true) :
    ∃ m ≥ n, (run m).shared.stopping = true := by
  obtain ⟨m, later, low⟩ := @eventually_rank_zero κ _ run n _ fair here
    (fun shared => (shared.exits loop).isSome = true) (fun later => later.exits loop) ended
    .supervisor (fun thread => thread.supervisorRank - 5) (fun has _ => joinRank_ready has)
    (fun _ high step => by
      have falls := supervisorRank_falls (by omega) step
      omega)
  have there := here.trans (fair.reaches later)
  have fits := (runtime_sound there).fits .supervisor
  obtain ⟨state, is⟩ := supervisor_of_reaches there
  rw [is] at low fits
  exact ⟨m, later, stopping_of_supervisor fits low⟩

theorem eventually_exit (stopped : (run n).shared.Notified) (loop : RuntimeLoop) :
    ∃ m ≥ n, ((run m).shared.exits loop).isSome = true := by
  obtain ⟨m, later, low⟩ := eventually_rank_zero fair here RuntimeShared.Notified.later stopped
    (.loop loop) loopRank (fun stopped => loopRank_ready stopped.notified)
    (fun stopped => loopRank_falls stopped.stopping)
  have there := here.trans (fair.reaches later)
  have fits := (runtime_sound there).fits (.loop loop)
  obtain ⟨state, is, rfl⟩ := loop_of_reaches there loop
  rw [is] at low fits
  cases state with
  | finished ended => exact ⟨m, later, fits⟩
  | starting | working => cases low
  | waiting point wait => cases wait <;> cases low

theorem eventually_ended_of_exits (ended : ∀ loop, ((run n).shared.exits loop).isSome = true) :
    ∃ m ≥ n, RuntimeEnded (run m) := by
  obtain ⟨m, later, low⟩ := eventually_rank_zero fair here
    (fun later ended loop => later.exits loop (ended loop)) ended .supervisor
    supervisorRank (fun ended _ => supervisorRank_ready ended)
    (fun _ => supervisorRank_falls)
  have there := here.trans (fair.reaches later)
  have fits := (runtime_sound there).fits .supervisor
  obtain ⟨state, is⟩ := supervisor_of_reaches there
  rw [is] at low fits
  cases state with
  | reported stopReason =>
    exact ⟨m, later, fun loop => (later_of_reaches (fair.reaches later)).exits loop (ended loop),
      fits.2.1, fits.2.2, stopReason, is⟩
  | stop first finished call => cases call <;> cases low
  | _ => cases low

/-- A stop ends the runtime: both loops exit, and then the supervisor goes through. -/
theorem eventually_ended (stopping : (run n).shared.stopping = true) :
    ∃ m ≥ n, RuntimeEnded (run m) := by
  have there {m : Nat} (later : n ≤ m) : Reaches RuntimeStep (runtimeStart κ) (run m) :=
    here.trans (fair.reaches later)
  obtain ⟨first, fromStop, stopped⟩ := eventually_notified fair here stopping
  obtain ⟨second, fromFirst, inbound⟩ := eventually_exit fair (there fromStop) stopped .inbound
  have still := RuntimeShared.Notified.later (later_of_reaches (fair.reaches fromFirst)) stopped
  obtain ⟨third, fromSecond, outbound⟩ :=
    eventually_exit fair (there (fromStop.trans fromFirst)) still .outbound
  have stays := later_of_reaches (fair.reaches fromSecond)
  obtain ⟨last, fromThird, ended⟩ := eventually_ended_of_exits fair
    (there (fromStop.trans (fromFirst.trans fromSecond))) fun loop => by
      cases loop with
      | inbound => exact stays.exits .inbound inbound
      | outbound => exact outbound
  exact ⟨last, fromStop.trans (fromFirst.trans (fromSecond.trans fromThird)), ended⟩

/-- Nobody stays in `cancelled` after a stop. -/
theorem eventually_not_waiting (stopping : (run n).shared.stopping = true) (task : RuntimeTask κ) :
    ∃ m ≥ n, ((run m).locals task).wait? = none := by
  obtain ⟨first, fromStop, stopped⟩ := eventually_notified fair here stopping
  obtain ⟨m, later, low⟩ := eventually_rank_zero fair (here.trans (fair.reaches fromStop))
    RuntimeShared.Notified.later stopped task waitRank
    (fun stopped => waitRank_ready stopped.notified)
    (fun stopped => waitRank_falls stopped.stopping)
  refine ⟨m, fromStop.trans later, ?_⟩
  rcases waits : ((run m).locals task).wait? with _ | wait
  · rfl
  · rw [waitRank, waits] at low
    cases wait <;> cases low

end FairRuns

/-- **A stop reaches every task.** For any number of callers: once the notification is out no wait
is blocked; in every fair run each task leaves `cancelled` after a stop, and the exit of a loop or a
request for shutdown ends both loops and the supervisor, which lets go of the data path; and a
request before the supervisor reads the flag is what it reports. -/
theorem stop_reaches_every_task (κ : Type) [DecidableEq κ] [Fintype κ] :
    (∀ config, Reaches RuntimeStep (runtimeStart κ) config → config.shared.stopping = true →
      (∀ task, (config.locals task).stopCall? ≠ some .notify) →
      ∀ task wait, (config.locals task).wait? = some wait →
        (wait.next? config.shared).isSome = true) ∧
    (∀ run, FairRun RuntimeStep RuntimeThread.Ready run → run 0 = runtimeStart κ → ∀ n,
      ((run n).shared.stopping = true → ∀ task, ∃ m ≥ n, ((run m).locals task).wait? = none) ∧
      ((∃ loop, ((run n).shared.exits loop).isSome = true) ∨
        (run n).shared.shutdownRequested = true → ∃ m ≥ n, RuntimeEnded (run m))) ∧
    (∀ config after, Reaches RuntimeStep (runtimeStart κ) config →
      config.shared.shutdownRequested = true →
      (∀ stopReason, config.locals .supervisor ≠ .supervisor (.reported stopReason)) →
      Reaches RuntimeStep config after →
      ∀ stopReason, after.locals .supervisor = .supervisor (.reported stopReason) →
        stopReason = .shutdownRequested) := by
  refine ⟨fun config reaches stopping sent task wait waits =>
    waits_go_on reaches stopping sent task waits, fun run fair starts n => ?_,
    fun config after _ requested unread reaches =>
      reported_shutdownRequested requested unread reaches⟩
  have here : Reaches RuntimeStep (runtimeStart κ) (run n) := starts ▸ fair.reaches (Nat.zero_le n)
  refine ⟨eventually_not_waiting fair here, fun begun => ?_⟩
  have stops : ∃ m ≥ n, (run m).shared.stopping = true := by
    rcases begun with ⟨loop, ended⟩ | requested
    · exact eventually_stopping_of_exit fair here ended
    · exact eventually_stopping_of_requested fair here requested
  obtain ⟨first, fromStart, stopping⟩ := stops
  obtain ⟨last, later, ended⟩ :=
    eventually_ended fair (here.trans (fair.reaches fromStart)) stopping
  exact ⟨last, fromStart.trans later, ended⟩

/-- The outbound loop awaits, a shutdown is requested, the notification wakes the loop, the inbound
loop finds the flag, and the supervisor reports. -/
theorem exampleRuntime_runs :
    ∃ notified, Reaches RuntimeStep (runtimeStart Unit) notified ∧
      notified.shared.stopping = true ∧ notified.shared.shutdownRequested = true ∧
      notified.locals .supervisor = .supervisor .joinFirst ∧
      (∀ task, (notified.locals task).stopCall? ≠ some .notify) ∧
      (notified.locals (.loop .outbound)).wait? = some (.awaiting 0) ∧
      ∃ last, Reaches RuntimeStep notified last ∧
        (∀ task, ¬(last.locals task).Ready last.shared) ∧
        last.locals .supervisor = .supervisor (.reported .shutdownRequested) := by
  refine exists_reaches_step (.loop .outbound)
    (.loop (.waitStep .receive .enter (.created 0) rfl)) ?_
  refine exists_reaches_step (.loop .outbound)
    (.loop (.waitStep .receive (.created 0) (.awaiting 0) rfl)) ?_
  refine exists_reaches_step (.caller ()) (.caller .requestShutdown) ?_
  refine exists_reaches_step (.caller ()) (.caller .storeRequest) ?_
  refine exists_reaches_step (.caller ()) (.caller (.stopStep .swap)) ?_
  refine exists_reaches_step (.caller ()) (.caller (.stopStep .notify)) ?_
  refine ⟨_, .refl, rfl, rfl, rfl, ?_, rfl, ?_⟩
  · rintro ((_ | _) | _ | _) <;> exact nofun
  refine exists_reaches_step (.loop .outbound)
    (.loop (.waitStep .receive (.awaiting 0) .enter rfl)) ?_
  refine exists_reaches_step (.loop .outbound)
    (.loop (.waitStep .receive .enter (.created 1) rfl)) ?_
  refine exists_reaches_step (.loop .outbound) (.loop (.stopped .receive (.created 1) rfl)) ?_
  refine exists_reaches_step (.loop .inbound) (.loop .firstTick) ?_
  refine exists_reaches_step (.loop .inbound)
    (.loop (.waitStep .inbound .enter (.created 1) rfl)) ?_
  refine exists_reaches_step (.loop .inbound) (.loop (.stopped .inbound (.created 1) rfl)) ?_
  refine exists_reaches_step .supervisor (.supervisor (.joinFirst .outbound .stopped rfl)) ?_
  refine exists_reaches_step .supervisor (.supervisor (.stopStep .stopped .outbound .swap)) ?_
  refine exists_reaches_step .supervisor
    (.supervisor (.joinSecond .stopped .stopped .outbound rfl)) ?_
  refine exists_reaches_step .supervisor (.supervisor (.unbindRuntime .stopped .stopped)) ?_
  refine exists_reaches_step .supervisor (.supervisor (.deactivate .stopped .stopped)) ?_
  refine exists_reaches_step .supervisor (.supervisor (.report .stopped .stopped)) ?_
  refine ⟨_, .refl, ?_, rfl⟩
  rintro ((_ | _) | _ | _) <;> exact id

theorem stop_reaches_every_task_example :
    ∃ run, FairRun RuntimeStep RuntimeThread.Ready run ∧ run 0 = runtimeStart Unit ∧
      ∃ n, (run n).shared.stopping = true ∧ (run n).shared.shutdownRequested = true ∧
        ((run n).locals (.loop .outbound)).wait? = some (.awaiting 0) ∧
        ((awaiting 0).next? (run n).shared).isSome = true ∧
        (∃ m ≥ n, ((run m).locals (.loop .outbound)).wait? = none) ∧
        (∃ m ≥ n, RuntimeEnded (run m)) ∧
        ∃ last, Reaches RuntimeStep (run n) last ∧
          ∃ stopReason, last.locals .supervisor = .supervisor (.reported stopReason) ∧
            stopReason = .shutdownRequested := by
  obtain ⟨blocked, ends, reports⟩ := stop_reaches_every_task Unit
  obtain ⟨notified, reaches, stopping, requested, joins, sent, waits, last, runs, idle, reported⟩ :=
    exampleRuntime_runs
  obtain ⟨rest, restFair, begins, -⟩ := (FairRun.of_idle idle).after runs
  obtain ⟨run, fair, starts, n, there⟩ := restFair.after (begins ▸ reaches)
  rw [begins] at there
  have progress := ends run fair starts n
  have unread (stopReason : VpnDatagramRuntimeStopReason) :
      notified.locals .supervisor ≠ .supervisor (.reported stopReason) := by
    rw [joins]
    exact nofun
  refine ⟨run, fair, starts, n, ?_⟩
  rw [there] at progress ⊢
  exact ⟨stopping, requested, waits, blocked notified reaches stopping sent _ _ waits,
    progress.1 stopping _, progress.2 (.inr requested), last, runs, _, reported,
    reports notified last reaches requested unread runs _ reported⟩

end FlowWeave.Vpn
