/-
# Proxy.ClientEvents — the client's accept loop and the events of its runs

The client has one connection, which its loop starts and finishes itself, and a stream task for
each accepted TCP connection. `ClientRun.step` is the loop with its tasks, as `ServerRun.step` is
for the server: the two end in the same way, but a client also reports the loss of its
connection, and it leaves its loop without a report when it cannot accept a TCP connection or
the token's lock is poisoned (`ClientLoop.exited`).

`ClientRun.Told` says what the log has to say about connection and streams, and
`ClientRun.Reported` how it ends.
-/
import FlowWeave.Proxy.StreamEvents
import FlowWeave.Theory.ActionRuns

namespace FlowWeave.Proxy

open Theory.Lifecycles Theory.ActionRuns

set_option autoImplicit false

inductive ClientLoop where
  | accepting
  /-- The connection was lost: the streams are aborted and joined. -/
  | aborting
  /-- The connection's end is emitted, the last snapshot comes next. -/
  | aborted
  | reportingFailure
  | draining
  | forced
  /-- The streams are joined, the connection's end comes next. -/
  | closing (forced : Bool)
  | finishing (forced : Bool)
  | reporting (forced : Bool)
  /-- The loop returned `Ok`. -/
  | complete (forced : Bool)
  /-- The loop returned `Err` after its report. -/
  | failed (error : String)
  /-- The loop returned `Err` by a `?`. -/
  | exited (error : String)
  deriving DecidableEq, Repr

namespace ClientLoop

/-- The stream tasks have been aborted, one by one or with their set. -/
def abortsStreams : ClientLoop → Bool
  | aborting | forced | exited _ => true
  | _ => false

/-- The stream tasks were joined. -/
def isJoined : ClientLoop → Bool
  | accepting | aborting | draining | forced | exited _ => false
  | _ => true

/-- The connection's end was emitted. -/
def isFinished : ClientLoop → Bool
  | aborted | reportingFailure | finishing _ | reporting _ | complete _ | failed _ => true
  | _ => false

/-- Until the drain timeout, and after a drain in time. -/
def isGraceful : ClientLoop → Bool
  | accepting | draining => true
  | closing late | finishing late | reporting late | complete late => !late
  | _ => false

/-- What the loop has returned: `Ok` or `Err`. -/
def result? : ClientLoop → Option Bool
  | complete _ => some true
  | failed _ | exited _ => some false
  | _ => none

end ClientLoop

structure ClientRun where
  shutdown : Bool
  loop : ClientLoop
  /-- `stable_id` of the connection. -/
  connectionId : UInt64
  streams : List StreamState
  /-- The streams that panicked and were not joined yet. -/
  panics : Nat
  log : List ProxyEvent
  deriving DecidableEq, Repr

inductive ClientAction where
  | signal
  | tick (metrics : ProxyMetricsSnapshot)
  | pathChanged (change : PathChange)
  | pathLagged (lostEvents : UInt64)
  | reportPanic
  | accept
  | reject
  /-- `listener.accept()` gives an error. -/
  | acceptFailed (error : String)
  /-- The lock of the token is poisoned when a stream is to be spawned. -/
  | tokenLockPoisoned
  | connectionClosed
  /-- The aborted streams are joined. -/
  | abortedDrained
  | stop (drainTimeoutMs : UInt64)
  | drained
  | expired
  | forcedDrained
  | finishConnection
  | emitMetrics (metrics : ProxyMetricsSnapshot)
  | complete (drainMs : UInt64)
  | fail
  | stream (stream : Nat) (action : StreamAction)
  deriving DecidableEq, Repr

namespace ClientRun

/-- The loop begins by announcing its connection. -/
def start (connectionId : UInt64) : ClientRun :=
  ⟨false, .accepting, connectionId, [], 0, [.connectionStarted 0 connectionId]⟩

def emit (run : ClientRun) (event : ProxyEvent) : ClientRun :=
  { run with log := run.log ++ [event] }

def step (run : ClientRun) : ClientAction → Option ClientRun
  | .signal => some { run with shutdown := true }
  | .tick metrics =>
    if run.loop = .accepting then some (run.emit (.metricsSnapshot metrics)) else none
  | .pathChanged change =>
    if run.loop = .accepting then some (run.emit (.pathChanged run.connectionId change)) else none
  | .pathLagged lostEvents =>
    if run.loop = .accepting then
      some (run.emit (.pathEventsLagged run.connectionId lostEvents))
    else none
  | .reportPanic =>
    if run.loop = .accepting ∧ run.panics ≠ 0 then
      some { run.emit (.streamTaskFailed run.connectionId) with panics := run.panics - 1 }
    else none
  | .accept =>
    if run.loop = .accepting then some { run with streams := run.streams ++ [.spawned] } else none
  | .reject =>
    if run.loop = .accepting then some (run.emit (.streamRejected run.connectionId)) else none
  | .acceptFailed error =>
    if run.loop = .accepting then some { run with loop := .exited error } else none
  | .tokenLockPoisoned =>
    if run.loop = .accepting then some { run with loop := .exited "客户端令牌状态锁已损坏" }
    else none
  | .connectionClosed =>
    if run.loop = .accepting then some { run with loop := .aborting } else none
  | .abortedDrained =>
    if run.loop = .aborting ∧ allJoined run.streams = true then
      some { run.emit (.connectionFinished 0 run.connectionId "transport_closed") with
        loop := .aborted }
    else none
  | .stop drainTimeoutMs =>
    if run.loop = .accepting ∧ run.shutdown = true then
      some { run.emit (.shutdownStarted drainTimeoutMs) with loop := .draining }
    else none
  | .drained =>
    if run.loop = .draining ∧ allJoined run.streams = true then
      some { run with loop := .closing false }
    else none
  | .expired =>
    if run.loop = .draining ∧ allJoined run.streams = false then
      some { run.emit .shutdownForced with loop := .forced }
    else none
  | .forcedDrained =>
    if run.loop = .forced ∧ allJoined run.streams = true then
      some { run with loop := .closing true }
    else none
  | .finishConnection =>
    match run.loop with
    | .closing forced =>
      some { run.emit (.connectionFinished 0 run.connectionId
          (if forced then "shutdown_forced" else "shutdown")) with
        loop := .finishing forced }
    | _ => none
  | .emitMetrics metrics =>
    match run.loop with
    | .aborted => some { run.emit (.metricsSnapshot metrics) with loop := .reportingFailure }
    | .finishing forced =>
      some { run.emit (.metricsSnapshot metrics) with loop := .reporting forced }
    | _ => none
  | .complete drainMs =>
    match run.loop with
    | .reporting forced =>
      some { run.emit (.shutdownComplete forced drainMs) with loop := .complete forced }
    | _ => none
  | .fail =>
    if run.loop = .reportingFailure then
      some { run.emit (.runtimeFailed "server_connection_closed") with
        loop := .failed "到服务端的 FlowWeave 连接已关闭" }
    else none
  | .stream stream action =>
    (stepStream run.loop.abortsStreams run.streams stream action).map fun streams =>
      { run with
        streams
        panics := run.panics + if action = .panic then 1 else 0
        log := run.log ++ action.events 0 stream run.connectionId }

variable {run next : ClientRun} {action : ClientAction}

theorem step_stream {stream : Nat} {inner : StreamAction}
    (stepped : run.step (.stream stream inner) = some next) :
    ∃ streams, stepStream run.loop.abortsStreams run.streams stream inner = some streams ∧
      next = { run with
        streams
        panics := run.panics + if inner = .panic then 1 else 0
        log := run.log ++ inner.events 0 stream run.connectionId } := by
  simp only [step, Option.map_eq_some_iff] at stepped
  obtain ⟨streams, moved, rfl⟩ := stepped
  exact ⟨streams, moved, rfl⟩

/-! ## What the log says -/

/-- What the state says about the connection. -/
def connectionMarks (run : ClientRun) : List (Mark UInt64) :=
  if run.loop.isFinished then [.opened run.connectionId, .closed run.connectionId]
  else [.opened run.connectionId]

/-- What the log says about the connection and each stream is what the state says. -/
structure Told (run : ClientRun) : Prop where
  connection : marksOf connectionMark 0 run.log = run.connectionMarks
  others : ∀ number ≠ 0, marksOf connectionMark number run.log = []
  streams : ∀ stream,
    marksOf streamMark (0, stream) run.log = marksAt run.connectionId run.streams stream
  otherStreams : ∀ number ≠ 0, ∀ stream, marksOf streamMark (number, stream) run.log = []
  joined : run.loop.isJoined = true → allJoined run.streams = true

theorem start_told (connectionId : UInt64) : (start connectionId).Told := by
  refine ⟨rfl, fun number other => ?_, fun stream => rfl, fun number other stream => rfl, nofun⟩
  simp [start, marksOf, markOf, connectionMark, other.symm]

/-- A step that says nothing about connection and streams. -/
theorem Told.quiet (told : run.Told) {events : List ProxyEvent}
    (log : next.log = run.log ++ events)
    (unmarked : ∀ event ∈ events, connectionMark event = none ∧ streamMark event = none)
    (sameId : next.connectionId = run.connectionId)
    (sameEnd : next.loop.isFinished = run.loop.isFinished)
    (streams : marksAt run.connectionId next.streams = marksAt run.connectionId run.streams)
    (joined : next.loop.isJoined = true → allJoined next.streams = true) : next.Told := by
  have noConnection (number : Nat) : marksOf connectionMark number events = [] :=
    marksOf_unmarked _ fun event listed => (unmarked event listed).1
  have noStream (thing : Nat × Nat) : marksOf streamMark thing events = [] :=
    marksOf_unmarked _ fun event listed => (unmarked event listed).2
  refine ⟨?_, fun number other => ?_, fun stream => ?_, fun number other stream => ?_, joined⟩
  · rw [log, marksOf_append, noConnection, List.append_nil, told.connection, connectionMarks,
      connectionMarks, sameEnd, sameId]
  · rw [log, marksOf_append, noConnection, List.append_nil, told.others number other]
  · rw [log, marksOf_append, noStream, List.append_nil, told.streams, sameId, streams]
  · rw [log, marksOf_append, noStream, List.append_nil, told.otherStreams number other]

/-- The end of the connection. -/
theorem Told.finish (told : run.Told) {reason : String}
    (log : next.log = run.log ++ [.connectionFinished 0 run.connectionId reason])
    (sameId : next.connectionId = run.connectionId) (sameStreams : next.streams = run.streams)
    (going : run.loop.isFinished = false) (ended : next.loop.isFinished = true)
    (joined : allJoined run.streams = true) : next.Told := by
  refine ⟨?_, fun number other => ?_, fun stream => ?_, fun number other stream => ?_, fun _ => ?_⟩
  · rw [log, marksOf_append, told.connection, connectionMarks, connectionMarks, going, ended,
      sameId]
    simp [marksOf, markOf, connectionMark]
  · rw [log, marksOf_append, told.others number other]
    simp [marksOf, markOf, connectionMark, other.symm]
  · rw [log, marksOf_append, told.streams, sameId, sameStreams]
    simp [marksOf, markOf, streamMark]
  · rw [log, marksOf_append, told.otherStreams number other]
    simp [marksOf, markOf, streamMark]
  · rw [sameStreams]
    exact joined

theorem Told.step (told : run.Told) (stepped : run.step action = some next) : next.Told := by
  cases action with
  | signal =>
    cases stepped
    exact ⟨told.connection, told.others, told.streams, told.otherStreams, told.joined⟩
  | stream stream inner =>
    obtain ⟨streams, moved, rfl⟩ := step_stream stepped
    have unmarked (number : Nat) : marksOf connectionMark number
        (inner.events 0 stream run.connectionId) = [] := by
      apply marksOf_unmarked
      cases inner <;> simp [StreamAction.events, connectionMark]
    refine ⟨?_, fun number other => ?_, fun index => ?_, fun number other index => ?_, ?_⟩
    · rw [marksOf_append, unmarked, List.append_nil, told.connection]
      rfl
    · rw [marksOf_append, unmarked, List.append_nil, told.others number other]
    · rw [marksOf_append, told.streams, stepStream_marks 0 _ moved]
    · rw [marksOf_append, told.otherStreams number other,
        inner.events_other _ (by simp [other.symm]), List.append_nil]
    · intro joined
      rw [stepStream_joined (told.joined joined)] at moved
      cases moved
  | accept =>
    obtain ⟨accepting, rfl⟩ := of_guarded stepped
    exact @Told.quiet run _ told [] (List.append_nil _).symm (by simp) rfl rfl
      (funext (marksAt_append_spawned _ _)) (by simp [accepting, ClientLoop.isJoined])
  | abortedDrained =>
    obtain ⟨⟨aborting, joined⟩, rfl⟩ := of_guarded stepped
    exact told.finish rfl rfl rfl (by rw [aborting]; rfl) rfl joined
  | finishConnection =>
    simp only [step] at stepped
    split at stepped
    · rename_i forced closing
      cases stepped
      exact told.finish rfl rfl rfl (by rw [closing]; rfl) rfl
        (told.joined (by rw [closing]; rfl))
    · cases stepped
  | emitMetrics metrics =>
    simp only [step] at stepped
    split at stepped
    · rename_i aborted
      cases stepped
      exact @Told.quiet run _ told [_] rfl (by simp [connectionMark, streamMark]) rfl
        (by rw [aborted]; rfl) rfl fun _ => told.joined (by rw [aborted]; rfl)
    · rename_i forced finishing
      cases stepped
      exact @Told.quiet run _ told [_] rfl (by simp [connectionMark, streamMark]) rfl
        (by rw [finishing]; rfl) rfl fun _ => told.joined (by rw [finishing]; rfl)
    · cases stepped
  | complete drainMs =>
    simp only [step] at stepped
    split at stepped
    · rename_i forced reporting
      cases stepped
      exact @Told.quiet run _ told [_] rfl (by simp [connectionMark, streamMark]) rfl
        (by rw [reporting]; rfl) rfl fun _ => told.joined (by rw [reporting]; rfl)
    · cases stepped
  | fail =>
    obtain ⟨reporting, rfl⟩ := of_guarded stepped
    exact @Told.quiet run _ told [_] rfl (by simp [connectionMark, streamMark]) rfl
      (by rw [reporting]; rfl) rfl fun _ => told.joined (by rw [reporting]; rfl)
  | _ =>
    obtain ⟨guard, rfl⟩ := of_guarded stepped
    first
    | exact @Told.quiet run _ told [_] rfl (by simp [connectionMark, streamMark]) rfl
        (by simp [emit, guard, ClientLoop.isFinished]) rfl
        (by simp [emit, guard, ClientLoop.isJoined])
    | exact @Told.quiet run _ told [] (List.append_nil _).symm (by simp) rfl
        (by simp [guard, ClientLoop.isFinished]) rfl (by simp [guard, ClientLoop.isJoined])

/-! ## How a run ends -/

/-- How the log ends, from where the loop is. -/
def Reported (run : ClientRun) : Prop :=
  match run.loop with
  | .reporting _ | .reportingFailure =>
    ∃ before metrics, run.log = before ++ [.metricsSnapshot metrics] ∧
      ∀ event ∈ before, event.isTerminal = false
  | .complete _ => ReportsEnd true run.log
  | .failed _ => ReportsEnd false run.log
  | _ => ∀ event ∈ run.log, event.isTerminal = false

theorem start_reported (connectionId : UInt64) : (start connectionId).Reported := by
  simp [Reported, start, ProxyEvent.isTerminal]

theorem Reported.step (reported : run.Reported) (told : run.Told)
    (stepped : run.step action = some next) : next.Reported := by
  cases action with
  | signal =>
    cases stepped
    exact reported
  | stream stream inner =>
    obtain ⟨streams, moved, rfl⟩ := step_stream stepped
    have going : run.loop.isJoined = false := by
      rw [Bool.eq_false_iff]
      intro joined
      rw [stepStream_joined (told.joined joined)] at moved
      cases moved
    have more : ∀ event ∈ inner.events 0 stream run.connectionId, event.isTerminal = false := by
      cases inner <;> simp [StreamAction.events, ProxyEvent.isTerminal]
    unfold Reported at reported ⊢
    cases loop : run.loop with
    | accepting | aborting | draining | forced | exited =>
      simp only [loop] at reported ⊢
      exact notTerminal_append reported more
    | _ =>
      rw [loop] at going
      cases going
  | finishConnection =>
    simp only [step] at stepped
    split at stepped
    · rename_i forced closing
      cases stepped
      simp only [Reported, closing] at reported ⊢
      exact notTerminal_append reported (by simp [ProxyEvent.isTerminal])
    · cases stepped
  | emitMetrics metrics =>
    simp only [step] at stepped
    split at stepped
    · rename_i aborted
      cases stepped
      simp only [Reported, aborted] at reported ⊢
      exact ⟨run.log, metrics, rfl, reported⟩
    · rename_i forced finishing
      cases stepped
      simp only [Reported, finishing] at reported ⊢
      exact ⟨run.log, metrics, rfl, reported⟩
    · cases stepped
  | complete drainMs =>
    simp only [step] at stepped
    split at stepped
    · rename_i forced reporting
      cases stepped
      simp only [Reported, reporting] at reported ⊢
      obtain ⟨before, metrics, ends, quiet⟩ := reported
      exact ⟨before, metrics, .shutdownComplete forced drainMs, by simp [emit, ends], rfl, quiet⟩
    · cases stepped
  | fail =>
    obtain ⟨reporting, rfl⟩ := of_guarded stepped
    simp only [Reported, reporting] at reported ⊢
    obtain ⟨before, metrics, ends, quiet⟩ := reported
    exact ⟨before, metrics, .runtimeFailed "server_connection_closed", by simp [emit, ends], rfl,
      quiet⟩
  | _ =>
    obtain ⟨guard, rfl⟩ := of_guarded stepped
    simp only [Reported, emit, guard] at reported ⊢
    first
    | exact reported
    | exact notTerminal_append reported (by simp [ProxyEvent.isTerminal])

theorem Reported.countP_terminal (reported : run.Reported) :
    run.log.countP ProxyEvent.isTerminal ≤ 1 := by
  unfold Reported at reported
  split at reported
  case h_1 | h_2 =>
    obtain ⟨before, metrics, ends, quiet⟩ := reported
    rw [ends, countP_terminal_of_quiet
      (notTerminal_append quiet (by simp [ProxyEvent.isTerminal]))]
    exact Nat.zero_le 1
  case h_3 | h_4 => exact reported.countP_terminal.le
  case h_5 =>
    rw [countP_terminal_of_quiet reported]
    exact Nat.zero_le 1

theorem reached {connectionId : UInt64} {actions : List ClientAction} {last : ClientRun}
    (ran : runAll step (start connectionId) actions = some last) : last.Told ∧ last.Reported :=
  @runAll_invariant _ _ step _ _ _ (fun run => run.Told ∧ run.Reported)
    (fun _ _ _ holds stepped => ⟨holds.1.step stepped, holds.2.step holds.1 stepped⟩) ran
    ⟨start_told connectionId, start_reported connectionId⟩

end ClientRun

/-- The two ways out of the loop that report nothing. -/
def ClientAction.exits : ClientAction → Bool
  | .acceptFailed _ | .tokenLockPoisoned => true
  | _ => false

namespace ClientRun

variable {run next : ClientRun} {action : ClientAction}

theorem exited_step (stepped : run.step action = some next) :
    (∃ error, next.loop = .exited error) ↔
      (∃ error, run.loop = .exited error) ∨ action.exits = true := by
  cases action with
  | signal =>
    cases stepped
    simp [ClientAction.exits]
  | stream stream inner =>
    obtain ⟨streams, -, rfl⟩ := step_stream stepped
    simp [ClientAction.exits]
  | emitMetrics metrics =>
    simp only [step] at stepped
    split at stepped <;> cases stepped <;> simp_all [ClientAction.exits]
  | finishConnection =>
    simp only [step] at stepped
    split at stepped <;> cases stepped
    simp_all [ClientAction.exits]
  | complete drainMs =>
    simp only [step] at stepped
    split at stepped <;> cases stepped
    simp_all [ClientAction.exits]
  | _ =>
    obtain ⟨guard, rfl⟩ := of_guarded stepped
    simp [emit, guard, ClientAction.exits]

/-- The client reports its end exactly when no action made it leave the loop. -/
theorem reportsEnd_iff {connectionId : UInt64} {actions : List ClientAction} {last : ClientRun}
    {ok : Bool} (ran : runAll step (start connectionId) actions = some last)
    (returned : last.loop.result? = some ok) :
    ReportsEnd ok last.log ↔ ∀ action ∈ actions, action.exits = false := by
  have left : (∃ error, last.loop = .exited error) ↔ ∃ action ∈ actions, action.exits = true := by
    rw [runAll_happened_iff (fun _ _ _ stepped => exited_step stepped) ran]
    simp [start]
  have stays :
      (∀ action ∈ actions, action.exits = false) ↔ ¬∃ error, last.loop = .exited error := by
    rw [left]
    simp
  have reported := (reached ran).2
  rw [stays]
  cases loop : last.loop with
  | complete forced =>
    rw [loop] at returned
    cases returned
    simp only [Reported, loop] at reported
    exact ⟨fun _ => by simp, fun _ => reported⟩
  | failed error =>
    rw [loop] at returned
    cases returned
    simp only [Reported, loop] at reported
    exact ⟨fun _ => by simp, fun _ => reported⟩
  | exited error =>
    simp only [Reported, loop] at reported
    exact ⟨fun ends => absurd ends (not_reportsEnd reported),
      fun stays => absurd ⟨error, rfl⟩ stays⟩
  | _ =>
    rw [loop] at returned
    cases returned

/-! ## Runs that close every lifecycle -/

/-- Until the drain timeout the client drops no stream that does not panic. -/
theorem undropped_step (undropped : run.loop.isGraceful = true → .dropped true ∉ run.streams)
    (fine : ∀ stream, action ≠ .stream stream .panic) (stepped : run.step action = some next) :
    next.loop.isGraceful = true → .dropped true ∉ next.streams := by
  cases action with
  | signal =>
    cases stepped
    exact undropped
  | stream stream inner =>
    obtain ⟨streams, moved, rfl⟩ := step_stream stepped
    intro graceful
    obtain ⟨state, next, found, turned, rfl⟩ := stepStream_eq_some.mp moved
    have keeps (other : .dropped true ≠ next) : .dropped true ∉ run.streams.set stream next :=
      fun member => (List.mem_or_eq_of_mem_set member).elim (undropped graceful) other
    have kept : run.loop.abortsStreams = false := by
      cases loop : run.loop <;> first | rfl | (rw [loop] at graceful; cases graceful)
    rcases StreamState.step_cases turned with ⟨-, -, rfl, -⟩ | ⟨reason, -, -, rfl⟩ |
      ⟨-, -, rfl, -⟩ | ⟨-, -, -, aborts⟩ | ⟨-, rfl, -⟩
    · exact keeps (by decide)
    · exact keeps (by decide)
    · exact keeps (by decide)
    · rw [kept] at aborts
      cases aborts
    · exact absurd rfl (fine stream)
  | accept =>
    obtain ⟨-, rfl⟩ := of_guarded stepped
    intro graceful
    simpa using undropped graceful
  | emitMetrics metrics =>
    simp only [step] at stepped
    split at stepped <;> cases stepped <;> simp_all [ClientLoop.isGraceful, emit]
  | finishConnection =>
    simp only [step] at stepped
    split at stepped <;> cases stepped
    simp_all [ClientLoop.isGraceful, emit]
  | complete drainMs =>
    simp only [step] at stepped
    split at stepped <;> cases stepped
    simp_all [ClientLoop.isGraceful, emit]
  | _ =>
    obtain ⟨guard, rfl⟩ := of_guarded stepped
    simp_all [ClientLoop.isGraceful, emit]

/-- **Client.** A run without panics that ends unforced has closed what it opened. -/
theorem paired_of_no_panic {connectionId : UInt64} {actions : List ClientAction}
    {last : ClientRun} (ran : runAll step (start connectionId) actions = some last)
    (fine : ∀ stream, .stream stream .panic ∉ actions) (complete : last.loop = .complete false) :
    Paired connectionMark last.log ∧ Paired streamMark last.log := by
  have told := (reached ran).1
  have along : Along step (fun _ action => ∀ stream, action ≠ .stream stream .panic)
      (start connectionId) actions :=
    along_of_forall fun action listed stream panics => fine stream (panics ▸ listed)
  have undropped := runAll_along (fun _ _ _ holds calm stepped => undropped_step holds calm stepped)
    ran along (fun _ => nofun) (by rw [complete]; rfl)
  have joined := told.joined (by rw [complete]; rfl)
  constructor
  · intro number
    by_cases own : number = 0
    · subst own
      refine .inr ⟨last.connectionId, ?_⟩
      rw [told.connection, connectionMarks, complete]
      rfl
    · exact .inl (told.others number own)
  · rintro ⟨number, stream⟩
    by_cases own : number = 0
    · subst own
      rw [told.streams]
      exact (marksAt_ended _ joined undropped stream).imp id fun both => ⟨_, both⟩
    · exact .inl (told.otherStreams number own stream)

end ClientRun

end FlowWeave.Proxy
