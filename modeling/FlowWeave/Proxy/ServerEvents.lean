/-
# Proxy.ServerEvents — the server's accept loop and the events of its runs

The server's loop, its connection tasks and their stream tasks as one transition system:
`ServerRun.step` says what an action does, if it can be done, and what is emitted. The actions
are those of the runtime and of the peers, in any order. A task keeps its number when it is
gone, so the join sets need not be modelled: everything is joined when no task is live. The
selects look for the shutdown first, but it can be signalled between this look and the branch
that is then taken, so no branch asks that it was not.

What the log says about a task is an exact function of its state (`ServerRun.Told`), in every
run. The state of the loop in turn says how its own part of the log ends (`ServerRun.Reported`).
`Proxy.Shutdown` follows the gauges of the same loop.
-/
import FlowWeave.Proxy.StreamEvents
import FlowWeave.Theory.ActionRuns

namespace FlowWeave.Proxy

open Theory.Lifecycles Theory.ActionRuns

set_option autoImplicit false

/-! ## Connection tasks -/

inductive ConnectionPhase where
  | spawned
  | handshaking
  | serving
  /-- Shutdown: the streams are joined. -/
  | draining
  /-- No stream can be accepted any more: the streams are aborted and joined. -/
  | aborting (reason : String)
  | finished
  /-- The task returned before the connection started. -/
  | failed
  /-- The task was aborted or panicked; had the connection started? -/
  | dropped (started : Bool)
  deriving DecidableEq, Repr

namespace ConnectionPhase

def isLive : ConnectionPhase → Bool
  | spawned | handshaking | serving | draining | aborting _ => true
  | _ => false

def isStarted : ConnectionPhase → Bool
  | serving | draining | aborting _ => true
  | _ => false

/-- The stream tasks have been aborted, one by one or with their set. -/
def abortsStreams : ConnectionPhase → Bool
  | aborting _ | dropped _ => true
  | _ => false

/-- What the events of the task have said about the connection. -/
def marks (connectionId : UInt64) : ConnectionPhase → List (Mark UInt64)
  | spawned | handshaking | failed | dropped false => []
  | serving | draining | aborting _ | dropped true => [.opened connectionId]
  | finished => [.opened connectionId, .closed connectionId]

end ConnectionPhase

open ConnectionPhase

structure ConnectionEntry where
  phase : ConnectionPhase
  /-- `stable_id`, once the connection is established. -/
  connectionId : UInt64
  /-- The loop has aborted the task. -/
  cancelled : Bool
  streams : List StreamState
  /-- The streams that panicked and were not joined yet. -/
  panics : Nat
  deriving DecidableEq, Repr

inductive ConnectionAction where
  | poll
  /-- The handshake failed or timed out, shutdown came first, or there is no multipath. -/
  | fail (reason : String)
  | establish (connectionId : UInt64)
  | acceptBi
  | pathChanged (change : PathChange)
  | pathLagged (lostEvents : UInt64)
  /-- The join of a stream task gives an error. -/
  | reportPanic
  | drain
  /-- `accept_bi` failed: `peer_closed` or `stream_accept_failed`. -/
  | close (reason : String)
  | finish
  /-- The abort of the task takes effect. -/
  | cancel
  | panic
  | stream (stream : Nat) (action : StreamAction)
  deriving DecidableEq, Repr

namespace ConnectionEntry

def new : ConnectionEntry := ⟨.spawned, 0, false, [], 0⟩

/-- How a connection that is being wound up reports its end. -/
def finishReason : ConnectionPhase → Option String
  | .draining => some "shutdown"
  | .aborting reason => some reason
  | _ => none

/-- One step of connection task `number` or of one of its streams, and the events. -/
def step (number : Nat) (shutdown : Bool) (entry : ConnectionEntry) :
    ConnectionAction → Option (ConnectionEntry × List ProxyEvent)
  | .poll =>
    if entry.phase = .spawned ∧ entry.cancelled = false then
      some ({ entry with phase := .handshaking }, [])
    else none
  | .fail reason =>
    if entry.phase = .handshaking then
      some ({ entry with phase := .failed }, [.connectionFailed reason])
    else none
  | .establish connectionId =>
    if entry.phase = .handshaking then
      some ({ entry with phase := .serving, connectionId },
        [.connectionStarted number connectionId])
    else none
  | .acceptBi =>
    if entry.phase = .serving then
      some ({ entry with streams := entry.streams ++ [.spawned] }, [])
    else none
  | .pathChanged change =>
    if entry.phase = .serving then some (entry, [.pathChanged entry.connectionId change])
    else none
  | .pathLagged lostEvents =>
    if entry.phase = .serving then some (entry, [.pathEventsLagged entry.connectionId lostEvents])
    else none
  | .reportPanic =>
    if entry.phase = .serving ∧ entry.panics ≠ 0 then
      some ({ entry with panics := entry.panics - 1 }, [.streamTaskFailed entry.connectionId])
    else none
  | .drain =>
    if entry.phase = .serving ∧ shutdown = true then some ({ entry with phase := .draining }, [])
    else none
  | .close reason =>
    if entry.phase = .serving then some ({ entry with phase := .aborting reason }, []) else none
  | .finish =>
    match finishReason entry.phase with
    | none => none
    | some reason =>
      if allJoined entry.streams then
        some ({ entry with phase := .finished },
          [.connectionFinished number entry.connectionId reason])
      else none
  | .cancel =>
    if entry.cancelled = true ∧ entry.phase.isLive = true then
      some ({ entry with phase := .dropped entry.phase.isStarted }, [])
    else none
  | .panic =>
    if entry.phase.isLive = true ∧ entry.phase ≠ .spawned then
      some ({ entry with phase := .dropped entry.phase.isStarted }, [])
    else none
  | .stream stream action =>
    (stepStream entry.phase.abortsStreams entry.streams stream action).map fun streams =>
      ({ entry with
          streams
          panics := entry.panics + if action = .panic then 1 else 0 },
        action.events number stream entry.connectionId)

/-- A task has streams only while it serves, and has none left when it returns. -/
structure Sound (entry : ConnectionEntry) : Prop where
  early : entry.phase = .spawned ∨ entry.phase = .handshaking → entry.streams = []
  late : entry.phase = .finished ∨ entry.phase = .failed → allJoined entry.streams = true

def connectionMarks (entry : ConnectionEntry) : List (Mark UInt64) :=
  entry.phase.marks entry.connectionId

def streamMarks (entry : ConnectionEntry) (stream : Nat) : List (Mark UInt64) :=
  marksAt entry.connectionId entry.streams stream

end ConnectionEntry

/-- The events that the server's loop emits itself. -/
def ProxyEvent.byServerLoop : ProxyEvent → Bool
  | .connectionRejected | .connectionTaskFailed | .metricsSnapshot _ | .shutdownStarted _
  | .shutdownForced | .shutdownComplete _ _ | .runtimeFailed _ => true
  | _ => false

namespace ConnectionEntry

/-- What a step of a connection task means for the log. -/
structure Tells (number : Nat) (entry after : ConnectionEntry) (events : List ProxyEvent) :
    Prop where
  connection : after.connectionMarks = entry.connectionMarks ++ marksOf connectionMark number events
  others : ∀ other ≠ number, marksOf connectionMark other events = []
  streams : ∀ stream, after.streamMarks stream =
    entry.streamMarks stream ++ marksOf streamMark (number, stream) events
  otherStreams : ∀ other ≠ number, ∀ stream, marksOf streamMark (other, stream) events = []
  byTask : ∀ event ∈ events, event.byServerLoop = false

variable {number : Nat} {shutdown : Bool} {entry after : ConnectionEntry}
  {action : ConnectionAction} {events : List ProxyEvent}

theorem step_finish (stepped : entry.step number shutdown .finish = some (after, events)) :
    ∃ reason, finishReason entry.phase = some reason ∧ allJoined entry.streams = true ∧
      after = { entry with phase := .finished } ∧
      events = [.connectionFinished number entry.connectionId reason] := by
  simp only [step] at stepped
  split at stepped
  · cases stepped
  · rename_i reason winding
    simp only [Option.ite_none_right_eq_some, Option.some.injEq, Prod.mk.injEq] at stepped
    obtain ⟨joined, rfl, rfl⟩ := stepped
    exact ⟨reason, winding, joined, rfl, rfl⟩

theorem step_stream {stream : Nat} {streamAction : StreamAction}
    (stepped : entry.step number shutdown (.stream stream streamAction) = some (after, events)) :
    ∃ streams, stepStream entry.phase.abortsStreams entry.streams stream streamAction =
        some streams ∧
      after = { entry with
        streams, panics := entry.panics + if streamAction = .panic then 1 else 0 } ∧
      events = streamAction.events number stream entry.connectionId := by
  simp only [step, Option.map_eq_some_iff, Prod.mk.injEq] at stepped
  obtain ⟨streams, moved, rfl, rfl⟩ := stepped
  exact ⟨streams, moved, rfl, rfl⟩

theorem isStarted_of_finishReason {phase : ConnectionPhase} {reason : String}
    (winding : finishReason phase = some reason) : phase.isStarted = true := by
  cases phase <;> simp_all [finishReason, isStarted]

theorem Sound.step (sound : entry.Sound)
    (stepped : entry.step number shutdown action = some (after, events)) : after.Sound := by
  obtain ⟨early, late⟩ := sound
  cases action with
  | finish =>
    obtain ⟨reason, -, joined, rfl, -⟩ := step_finish stepped
    exact ⟨by simp, fun _ => joined⟩
  | stream stream action =>
    obtain ⟨streams, moved, rfl, -⟩ := step_stream stepped
    constructor
    · intro phase
      rw [early phase] at moved
      rw [stepStream_joined rfl] at moved
      cases moved
    · intro phase
      rw [stepStream_joined (late phase)] at moved
      cases moved
  | _ =>
    obtain ⟨guard, ⟨⟩⟩ := of_guarded stepped
    constructor <;> simp_all

/-- A task that is dropped leaves what it has said. -/
theorem marks_dropped {phase : ConnectionPhase} (connectionId : UInt64)
    (live : phase.isLive = true) :
    (dropped phase.isStarted).marks connectionId = phase.marks connectionId := by
  cases phase <;> first | rfl | cases live

theorem Tells.of_unmarked (connection : after.connectionMarks = entry.connectionMarks)
    (streams : after.streamMarks = entry.streamMarks)
    (unmarked : ∀ event ∈ events,
      connectionMark event = none ∧ streamMark event = none ∧ event.byServerLoop = false) :
    Tells number entry after events := by
  have noConnection (other : Nat) : marksOf connectionMark other events = [] :=
    marksOf_unmarked _ fun event listed => (unmarked event listed).1
  have noStream (other : Nat × Nat) : marksOf streamMark other events = [] :=
    marksOf_unmarked _ fun event listed => (unmarked event listed).2.1
  exact ⟨by rw [noConnection, List.append_nil, connection], fun other _ => noConnection other,
    fun stream => by rw [noStream, List.append_nil, streams], fun other _ stream => noStream _,
    fun event listed => (unmarked event listed).2.2⟩

theorem Sound.tells (sound : entry.Sound)
    (stepped : entry.step number shutdown action = some (after, events)) :
    Tells number entry after events := by
  cases action with
  | finish =>
    obtain ⟨reason, winding, joined, rfl, rfl⟩ := step_finish stepped
    have opened : entry.connectionMarks = [.opened entry.connectionId] := by
      unfold connectionMarks
      cases phase : entry.phase <;> simp_all [finishReason, marks]
    refine ⟨?_, ?_, ?_, ?_, ?_⟩
    · rw [opened]
      simp [connectionMarks, marks, marksOf, markOf, connectionMark]
    · intro other apart
      simp [marksOf, markOf, connectionMark, apart.symm]
    · intro stream
      simp [streamMarks, marksOf, markOf, streamMark]
    · intro other _ stream
      simp [marksOf, markOf, streamMark]
    · exact List.forall_mem_singleton.mpr rfl
  | stream stream action =>
    obtain ⟨streams, moved, rfl, rfl⟩ := step_stream stepped
    have unmarked (other : Nat) : marksOf connectionMark other
        (action.events number stream entry.connectionId) = [] := by
      apply marksOf_unmarked
      cases action <;> simp [StreamAction.events, connectionMark]
    refine ⟨?_, fun other _ => unmarked other, stepStream_marks number _ moved, ?_, ?_⟩
    · rw [unmarked, List.append_nil]
      rfl
    · intro other apart index
      exact action.events_other _ (by simp [apart.symm])
    · cases action
      all_goals first | exact List.forall_mem_nil _ | exact List.forall_mem_singleton.mpr rfl
  | establish connectionId =>
    obtain ⟨phase, ⟨⟩⟩ := of_guarded stepped
    have empty := sound.early (.inr phase)
    refine ⟨?_, ?_, ?_, ?_, ?_⟩
    · simp [connectionMarks, marks, phase, marksOf, markOf, connectionMark]
    · intro other apart
      simp [marksOf, markOf, connectionMark, apart.symm]
    · intro stream
      simp [streamMarks, marksAt, empty, marksOf, markOf, streamMark]
    · intro other _ stream
      simp [marksOf, markOf, streamMark]
    · exact List.forall_mem_singleton.mpr rfl
  | acceptBi =>
    obtain ⟨guard, ⟨⟩⟩ := of_guarded stepped
    exact .of_unmarked rfl (funext (marksAt_append_spawned _ _)) (by simp)
  | cancel =>
    obtain ⟨⟨-, live⟩, ⟨⟩⟩ := of_guarded stepped
    exact .of_unmarked (marks_dropped _ live) rfl (by simp)
  | panic =>
    obtain ⟨⟨live, -⟩, ⟨⟩⟩ := of_guarded stepped
    exact .of_unmarked (marks_dropped _ live) rfl (by simp)
  | _ =>
    obtain ⟨guard, ⟨⟩⟩ := of_guarded stepped
    refine .of_unmarked ?_ rfl ?_
    · simp [connectionMarks, marks, guard]
    · first
      | exact List.forall_mem_nil _
      | exact List.forall_mem_singleton.mpr ⟨rfl, rfl, rfl⟩

end ConnectionEntry

/-! ## The loop -/

inductive ServerLoop where
  | accepting
  | draining
  | forced
  /-- All connection tasks are joined; the last snapshot comes next. -/
  | closing (forced : Bool)
  | reporting (forced : Bool)
  /-- The loop returned `Ok`. -/
  | complete (forced : Bool)
  /-- The loop returned `Err`. -/
  | failed (error : String)
  deriving DecidableEq, Repr

structure ServerRun where
  shutdown : Bool
  loop : ServerLoop
  connections : List ConnectionEntry
  /-- The connection tasks that panicked and were not joined yet. -/
  panics : Nat
  log : List ProxyEvent
  deriving DecidableEq, Repr

inductive ServerAction where
  | signal
  | tick (metrics : ProxyMetricsSnapshot)
  | accept
  | reject
  /-- `endpoint.accept()` gives `None`. -/
  | endpointClosed
  | reportPanic
  | stop (drainTimeoutMs : UInt64)
  | drained
  | expired
  | forcedDrained
  | emitMetrics (metrics : ProxyMetricsSnapshot)
  | complete (drainMs : UInt64)
  | connection (number : Nat) (action : ConnectionAction)
  deriving DecidableEq, Repr

namespace ServerRun

def start : ServerRun := ⟨false, .accepting, [], 0, []⟩

def emit (run : ServerRun) (event : ProxyEvent) : ServerRun :=
  { run with log := run.log ++ [event] }

/-- Every connection task can be joined. -/
def isDrained (run : ServerRun) : Bool := run.connections.all fun entry => !entry.phase.isLive

/-- `abort_all`, or the drop of the join set. -/
def abortAll (run : ServerRun) : ServerRun :=
  { run with connections := run.connections.map fun entry => { entry with cancelled := true } }

def step (run : ServerRun) : ServerAction → Option ServerRun
  | .signal => some { run with shutdown := true }
  | .tick metrics =>
    if run.loop = .accepting then some (run.emit (.metricsSnapshot metrics)) else none
  | .accept =>
    if run.loop = .accepting then some { run with connections := run.connections ++ [.new] }
    else none
  | .reject =>
    if run.loop = .accepting then some (run.emit .connectionRejected) else none
  | .endpointClosed =>
    if run.loop = .accepting then
      some { run.abortAll with loop := .failed "服务端 Endpoint 已停止监听" }
    else none
  | .reportPanic =>
    if run.loop = .accepting ∧ run.panics ≠ 0 then
      some { run.emit .connectionTaskFailed with panics := run.panics - 1 }
    else none
  | .stop drainTimeoutMs =>
    if run.loop = .accepting ∧ run.shutdown = true then
      some { run.emit (.shutdownStarted drainTimeoutMs) with loop := .draining }
    else none
  | .drained =>
    if run.loop = .draining ∧ run.isDrained = true then some { run with loop := .closing false }
    else none
  | .expired =>
    if run.loop = .draining ∧ run.isDrained = false then
      some { (run.emit .shutdownForced).abortAll with loop := .forced }
    else none
  | .forcedDrained =>
    if run.loop = .forced ∧ run.isDrained = true then some { run with loop := .closing true }
    else none
  | .emitMetrics metrics =>
    match run.loop with
    | .closing forced => some { run.emit (.metricsSnapshot metrics) with loop := .reporting forced }
    | _ => none
  | .complete drainMs =>
    match run.loop with
    | .reporting forced =>
      some { run.emit (.shutdownComplete forced drainMs) with loop := .complete forced }
    | _ => none
  | .connection number action => do
    let entry ← run.connections[number]?
    let (after, events) ← entry.step number run.shutdown action
    pure { run with
      connections := run.connections.set number after
      panics := run.panics + if action = .panic then 1 else 0
      log := run.log ++ events }

/-! ## What the log says -/

variable {run next : ServerRun} {action : ServerAction}

theorem step_connection {number : Nat} {action : ConnectionAction}
    (stepped : run.step (.connection number action) = some next) :
    ∃ entry after events, run.connections[number]? = some entry ∧
      entry.step number run.shutdown action = some (after, events) ∧
      next = { run with
        connections := run.connections.set number after
        panics := run.panics + if action = .panic then 1 else 0
        log := run.log ++ events } := by
  simp only [step, Option.bind_eq_bind, Option.bind_eq_some_iff, Option.pure_def,
    Option.some.injEq, Prod.exists] at stepped
  obtain ⟨entry, found, after, events, moved, rfl⟩ := stepped
  exact ⟨entry, after, events, found, moved, rfl⟩

theorem step_emitMetrics {metrics : ProxyMetricsSnapshot}
    (stepped : run.step (.emitMetrics metrics) = some next) :
    ∃ forced, run.loop = .closing forced ∧
      next = { run.emit (.metricsSnapshot metrics) with loop := .reporting forced } := by
  simp only [step] at stepped
  split at stepped <;> cases stepped
  exact ⟨_, ‹_›, rfl⟩

theorem step_complete {drainMs : UInt64} (stepped : run.step (.complete drainMs) = some next) :
    ∃ forced, run.loop = .reporting forced ∧
      next = { run.emit (.shutdownComplete forced drainMs) with loop := .complete forced } := by
  simp only [step] at stepped
  split at stepped <;> cases stepped
  exact ⟨_, ‹_›, rfl⟩

/-- What a step of the loop itself changes: the connection tasks are the same, or some are
aborted, or a new one is spawned, and it emits only events of its own. -/
theorem step_loop (stepped : run.step action = some next)
    (own : ∀ number inner, action ≠ .connection number inner) :
    (next.connections = run.connections ∨
        (action = .endpointClosed ∨ action = .expired) ∧
          next.connections = run.abortAll.connections ∨
        next.connections = run.connections ++ [.new]) ∧
      ∃ events, next.log = run.log ++ events ∧ ∀ event ∈ events, event.byServerLoop = true := by
  have quiet : ∃ events, run.log = run.log ++ events ∧
      ∀ event ∈ events, event.byServerLoop = true := ⟨[], by simp, by simp⟩
  have emits {event : ProxyEvent} (byLoop : event.byServerLoop = true) :
      ∃ events, run.log ++ [event] = run.log ++ events ∧
        ∀ event ∈ events, event.byServerLoop = true :=
    ⟨[event], rfl, by simpa using byLoop⟩
  cases action with
  | connection number inner => exact absurd rfl (own number inner)
  | signal =>
    cases stepped
    exact ⟨.inl rfl, quiet⟩
  | emitMetrics metrics =>
    obtain ⟨_, -, rfl⟩ := step_emitMetrics stepped
    exact ⟨.inl rfl, emits rfl⟩
  | complete drainMs =>
    obtain ⟨_, -, rfl⟩ := step_complete stepped
    exact ⟨.inl rfl, emits rfl⟩
  | accept =>
    obtain ⟨-, rfl⟩ := of_guarded stepped
    exact ⟨.inr (.inr rfl), quiet⟩
  | endpointClosed =>
    obtain ⟨-, rfl⟩ := of_guarded stepped
    exact ⟨.inr (.inl ⟨.inl rfl, rfl⟩), quiet⟩
  | expired =>
    obtain ⟨-, rfl⟩ := of_guarded stepped
    exact ⟨.inr (.inl ⟨.inr rfl, rfl⟩), emits rfl⟩
  | _ =>
    obtain ⟨-, rfl⟩ := of_guarded stepped
    first
    | exact ⟨.inl rfl, emits rfl⟩
    | exact ⟨.inl rfl, quiet⟩

/-- What the state says about a connection; nothing about a number that is not used. -/
def connectionMarks (run : ServerRun) (number : Nat) : List (Mark UInt64) :=
  (run.connections[number]?.map ConnectionEntry.connectionMarks).getD []

def streamMarks (run : ServerRun) (number stream : Nat) : List (Mark UInt64) :=
  (run.connections[number]?.map fun entry => entry.streamMarks stream).getD []

/-- What the log says about each task is what the task's state says. -/
structure Told (run : ServerRun) : Prop where
  connections : ∀ number, marksOf connectionMark number run.log = run.connectionMarks number
  streams : ∀ number stream,
    marksOf streamMark (number, stream) run.log = run.streamMarks number stream
  sound : ∀ entry ∈ run.connections, entry.Sound

theorem start_told : start.Told := ⟨fun _ => rfl, fun _ _ => rfl, nofun⟩

theorem unmarked_of_byServerLoop {event : ProxyEvent} (byLoop : event.byServerLoop = true) :
    connectionMark event = none ∧ streamMark event = none := by
  cases event <;> first | exact ⟨rfl, rfl⟩ | cases byLoop

/-- The loop's own events say nothing about a task. -/
theorem Told.replace (told : run.Told) {events : List ProxyEvent}
    (log : next.log = run.log ++ events) (own : ∀ event ∈ events, event.byServerLoop = true)
    (connections : ∀ number, next.connectionMarks number = run.connectionMarks number)
    (streams : ∀ number stream, next.streamMarks number stream = run.streamMarks number stream)
    (sound : ∀ entry ∈ next.connections, entry.Sound) : next.Told := by
  refine ⟨fun number => ?_, fun number stream => ?_, sound⟩
  · rw [log, marksOf_append, told.connections, connections,
      marksOf_unmarked _ fun event listed => (unmarked_of_byServerLoop (own event listed)).1,
      List.append_nil]
  · rw [log, marksOf_append, told.streams, streams,
      marksOf_unmarked _ fun event listed => (unmarked_of_byServerLoop (own event listed)).2,
      List.append_nil]

theorem Told.step (told : run.Told) (stepped : run.step action = some next) : next.Told := by
  by_cases own : ∀ number inner, action ≠ .connection number inner
  · obtain ⟨connections, events, log, byLoop⟩ := step_loop stepped own
    -- a view that is empty at a new task, and that an abort does not change
    have kept {look : ConnectionEntry → List (Mark UInt64)} (new : look .new = [])
        (abort : ∀ entry, look { entry with cancelled := true } = look entry) (number : Nat) :
        (next.connections[number]?.map look).getD [] =
          (run.connections[number]?.map look).getD [] := by
      rcases connections with same | ⟨-, same⟩ | same <;> rw [same]
      · rw [abortAll, List.getElem?_map, Option.map_map, show look ∘ _ = look from funext abort]
      · rcases Nat.lt_trichotomy number run.connections.length with before | rfl | behind
        · rw [List.getElem?_append_left before]
        · simp [new]
        · rw [List.getElem?_eq_none (by simp; omega), List.getElem?_eq_none (by omega)]
    refine told.replace log byLoop (kept rfl fun _ => rfl)
      (fun number stream => kept rfl (fun _ => rfl) number) fun entry listed => ?_
    rcases connections with same | ⟨-, same⟩ | same <;> rw [same] at listed
    · exact told.sound entry listed
    · obtain ⟨old, isOld, rfl⟩ := List.mem_map.mp listed
      exact ⟨(told.sound old isOld).early, (told.sound old isOld).late⟩
    · rcases List.mem_append.mp listed with old | new
      · exact told.sound entry old
      · rw [List.mem_singleton.mp new]
        exact ⟨fun _ => rfl, fun _ => rfl⟩
  · push Not at own
    obtain ⟨number, inner, rfl⟩ := own
    obtain ⟨entry, after, events, found, moved, rfl⟩ := step_connection stepped
    have sound := told.sound entry (List.mem_of_getElem? found)
    have inside := (List.getElem?_eq_some_iff.mp found).1
    have tells := sound.tells moved
    refine ⟨fun other => ?_, fun other stream => ?_, fun other listed => ?_⟩
    · simp only [marksOf_append]
      rw [told.connections]
      unfold connectionMarks
      by_cases same : number = other
      · subst same
        rw [List.getElem?_set_self inside, found]
        exact tells.connection.symm
      · rw [List.getElem?_set_ne same, tells.others other (Ne.symm same), List.append_nil]
    · simp only [marksOf_append]
      rw [told.streams]
      unfold streamMarks
      by_cases same : number = other
      · subst same
        rw [List.getElem?_set_self inside, found]
        exact (tells.streams stream).symm
      · rw [List.getElem?_set_ne same, tells.otherStreams other (Ne.symm same), List.append_nil]
    · rcases List.mem_or_eq_of_mem_set listed with old | rfl
      · exact told.sound other old
      · exact sound.step moved

/-! ## How a run ends -/

/-- The events of the loop itself. -/
def ownLog (run : ServerRun) : List ProxyEvent := run.log.filter ProxyEvent.byServerLoop

/-- How the loop's own part of the log ends, from where the loop is. -/
def Reported (run : ServerRun) : Prop :=
  match run.loop with
  | .reporting _ => ∃ before metrics, run.ownLog = before ++ [.metricsSnapshot metrics] ∧
      ∀ event ∈ before, event.isTerminal = false
  | .complete _ => ReportsEnd true run.ownLog
  | _ => ∀ event ∈ run.ownLog, event.isTerminal = false

theorem ownLog_emit {event : ProxyEvent} (log : next.log = run.log ++ [event])
    (byLoop : event.byServerLoop = true) : next.ownLog = run.ownLog ++ [event] := by
  rw [ownLog, log, List.filter_append, List.filter_cons_of_pos byLoop, List.filter_nil, ownLog]

/-- An event that is not terminal goes on a log without terminal events. -/
theorem Reported.emit (quiet : ∀ event ∈ run.ownLog, event.isTerminal = false)
    {event : ProxyEvent} (log : next.log = run.log ++ [event])
    (byLoop : event.byServerLoop = true) (more : event.isTerminal = false) :
    ∀ event ∈ next.ownLog, event.isTerminal = false := by
  rw [ownLog_emit log byLoop]
  exact notTerminal_append quiet (by simpa using more)

theorem start_reported : start.Reported := nofun

theorem Reported.step (reported : run.Reported) (told : run.Told)
    (stepped : run.step action = some next) : next.Reported := by
  cases action with
  | signal =>
    cases stepped
    exact reported
  | connection number inner =>
    obtain ⟨entry, after, events, found, moved, rfl⟩ := step_connection stepped
    have tells := (told.sound entry (List.mem_of_getElem? found)).tells moved
    have same : (run.log ++ events).filter ProxyEvent.byServerLoop = run.ownLog := by
      have none : events.filter ProxyEvent.byServerLoop = [] := by
        simpa using tells.byTask
      rw [List.filter_append, none, List.append_nil, ownLog]
    unfold Reported ownLog at *
    simp only [same]
    exact reported
  | emitMetrics metrics =>
    obtain ⟨forced, closing, rfl⟩ := step_emitMetrics stepped
    simp only [Reported, closing] at reported ⊢
    exact ⟨run.ownLog, metrics, ownLog_emit rfl rfl, reported⟩
  | complete drainMs =>
    obtain ⟨forced, reporting, rfl⟩ := step_complete stepped
    simp only [Reported, reporting] at reported ⊢
    obtain ⟨before, metrics, ends, quiet⟩ := reported
    refine ⟨before, metrics, .shutdownComplete forced drainMs, ?_, rfl, quiet⟩
    have appended := @ownLog_emit run (run.emit (.shutdownComplete forced drainMs)) _ rfl rfl
    rw [ends, List.append_assoc] at appended
    exact appended
  | _ =>
    obtain ⟨guard, rfl⟩ := of_guarded stepped
    simp only [Reported, ServerRun.emit, abortAll, guard] at reported ⊢
    first
    | exact reported
    | exact Reported.emit reported rfl rfl rfl

/-- Only the loop emits terminal events, and never two. -/
theorem Reported.countP_terminal (reported : run.Reported) :
    run.log.countP ProxyEvent.isTerminal ≤ 1 := by
  have own : run.log.countP ProxyEvent.isTerminal = run.ownLog.countP ProxyEvent.isTerminal := by
    rw [ownLog, List.countP_filter]
    refine List.countP_congr fun event _ => ?_
    cases event <;> exact Iff.rfl
  rw [own]
  unfold Reported at reported
  split at reported
  case h_1 =>
    obtain ⟨before, metrics, ends, quiet⟩ := reported
    rw [ends, countP_terminal_of_quiet
      (notTerminal_append quiet (by simp [ProxyEvent.isTerminal]))]
    exact Nat.zero_le 1
  case h_2 => exact reported.countP_terminal.le
  case h_3 =>
    rw [countP_terminal_of_quiet reported]
    exact Nat.zero_le 1

/-- The loop fails when the endpoint is closed, and for no other reason. -/
theorem failed_step (stepped : run.step action = some next) :
    (∃ error, next.loop = .failed error) ↔
      (∃ error, run.loop = .failed error) ∨ action = .endpointClosed := by
  cases action with
  | signal =>
    cases stepped
    simp
  | connection number inner =>
    obtain ⟨entry, after, events, -, -, rfl⟩ := step_connection stepped
    simp
  | emitMetrics metrics =>
    obtain ⟨_, closing, rfl⟩ := step_emitMetrics stepped
    simp [closing]
  | complete drainMs =>
    obtain ⟨_, reporting, rfl⟩ := step_complete stepped
    simp [reporting]
  | _ =>
    obtain ⟨guard, rfl⟩ := of_guarded stepped
    simp [emit, guard]

end ServerRun

/-- What the loop has returned: `Ok` or `Err`. -/
def ServerLoop.result? : ServerLoop → Option Bool
  | .complete _ => some true
  | .failed _ => some false
  | _ => none

namespace ServerRun

theorem reached {actions : List ServerAction} {last : ServerRun}
    (ran : runAll step start actions = some last) : last.Told ∧ last.Reported :=
  @runAll_invariant _ _ step _ _ _ (fun run => run.Told ∧ run.Reported)
    (fun _ _ _ holds stepped => ⟨holds.1.step stepped, holds.2.step holds.1 stepped⟩) ran
    ⟨start_told, start_reported⟩

/-- The loop reports its end exactly when the endpoint was not closed under it. -/
theorem reportsEnd_iff {actions : List ServerAction} {last : ServerRun} {ok : Bool}
    (ran : runAll step start actions = some last) (returned : last.loop.result? = some ok) :
    ReportsEnd ok last.ownLog ↔ .endpointClosed ∉ actions := by
  have closed : (∃ error, last.loop = .failed error) ↔ .endpointClosed ∈ actions := by
    rw [runAll_happened_iff (fun _ _ _ stepped => failed_step stepped) ran]
    simp [start]
  have reported := (reached ran).2
  cases loop : last.loop with
  | complete forced =>
    rw [loop] at returned
    cases returned
    simp only [Reported, loop] at reported
    rw [← closed, loop]
    exact ⟨fun _ => by simp, fun _ => reported⟩
  | failed error =>
    simp only [Reported, loop] at reported
    exact ⟨fun ends => absurd ends (not_reportsEnd reported),
      fun open_ => absurd (closed.mp ⟨error, loop⟩) open_⟩
  | _ =>
    rw [loop] at returned
    cases returned

end ServerRun

/-! ## Runs that close every lifecycle -/

/-- A task that was not aborted and whose streams all ran to their end. -/
structure ConnectionEntry.Calm (entry : ConnectionEntry) : Prop where
  kept : entry.cancelled = false
  returns : ∀ started, entry.phase ≠ .dropped started
  streams : .dropped true ∉ entry.streams
  /-- When the streams are aborted, none is running. -/
  aborting : entry.phase.abortsStreams = true → .running ∉ entry.streams

/-- A step with a panic. -/
def ConnectionAction.panics : ConnectionAction → Bool
  | .panic | .stream _ .panic => true
  | _ => false

namespace ConnectionEntry

variable {number : Nat} {shutdown : Bool} {entry after : ConnectionEntry}
  {action : ConnectionAction} {events : List ProxyEvent}

/-- A task that has returned or was dropped stays as it is. -/
theorem step_gone (gone : entry.phase.isLive = false)
    (stepped : entry.step number shutdown action = some (after, events)) :
    after.phase = entry.phase := by
  cases action with
  | finish =>
    obtain ⟨reason, winding, -⟩ := step_finish stepped
    have started := isStarted_of_finishReason winding
    cases phase : entry.phase <;> simp_all [isLive, isStarted]
  | stream stream inner =>
    obtain ⟨others, -, rfl, -⟩ := step_stream stepped
    rfl
  | _ =>
    simp only [ConnectionEntry.step, Option.ite_none_right_eq_some] at stepped
    obtain ⟨guard, -⟩ := stepped
    simp_all [isLive]

theorem Calm.step (calm : entry.Calm)
    (stepped : entry.step number shutdown action = some (after, events))
    (fine : action.panics = false)
    (quiet : ∀ reason, action = .close reason → .running ∉ entry.streams) : after.Calm := by
  obtain ⟨kept, returns, streams, aborting⟩ := calm
  cases action with
  | finish =>
    obtain ⟨reason, -, -, rfl, -⟩ := step_finish stepped
    exact ⟨kept, by simp, streams, by simp [abortsStreams]⟩
  | stream stream inner =>
    obtain ⟨others, moved, rfl, -⟩ := step_stream stepped
    obtain ⟨state, next, found, turned, rfl⟩ := stepStream_eq_some.mp moved
    have listed := List.mem_of_getElem? found
    have kind {state : StreamState} (other : state ≠ next) (absent : state ∉ entry.streams) :
        state ∉ entry.streams.set stream next := fun member =>
      (List.mem_or_eq_of_mem_set member).elim absent other
    rcases StreamState.step_cases turned with ⟨-, -, rfl, open_⟩ | ⟨reason, -, -, rfl⟩ |
      ⟨-, -, rfl, aborts⟩ | ⟨rfl, -, -, aborts⟩ | ⟨-, rfl, -⟩
    · exact ⟨kept, returns, kind (by decide) streams, fun aborts => by simp_all⟩
    · exact ⟨kept, returns, kind (by decide) streams, fun aborts =>
        kind (by decide) (aborting aborts)⟩
    · exact ⟨kept, returns, kind (by decide) streams, fun _ =>
        kind (by decide) (aborting aborts)⟩
    · exact absurd listed (aborting aborts)
    · cases fine
  | close reason =>
    obtain ⟨-, ⟨⟩⟩ := of_guarded stepped
    exact ⟨kept, by simp, streams, fun _ => quiet reason rfl⟩
  | cancel =>
    simp only [ConnectionEntry.step, Option.ite_none_right_eq_some] at stepped
    rw [kept] at stepped
    cases stepped.1.1
  | panic => cases fine
  | acceptBi =>
    obtain ⟨serving, ⟨⟩⟩ := of_guarded stepped
    refine ⟨kept, returns, by simpa using streams, ?_⟩
    simp [serving, abortsStreams]
  | _ =>
    obtain ⟨guard, ⟨⟩⟩ := of_guarded stepped
    exact ⟨kept, by simp [guard], streams, by simp [guard, abortsStreams]⟩

end ConnectionEntry

namespace ServerLoop

/-- Until the drain timeout, and after a drain in time. -/
def isGraceful : ServerLoop → Bool
  | accepting | draining => true
  | closing late | reporting late | complete late => !late
  | _ => false

/-- After all connection tasks are joined. -/
def isJoined : ServerLoop → Bool
  | closing _ | reporting _ | complete _ => true
  | _ => false

end ServerLoop

namespace ServerRun

variable {run next : ServerRun} {action : ServerAction}

/-- No task panics, and no connection ends for its peer's sake while one of its streams is
running. -/
def Undisturbed (run : ServerRun) : ServerAction → Prop
  | .connection number inner => inner.panics = false ∧
      ∀ reason, inner = .close reason → ∀ entry, run.connections[number]? = some entry →
        .running ∉ entry.streams
  | _ => True

/-- From the last join on, no connection task is live. -/
def Joined (run : ServerRun) : Prop := run.loop.isJoined = true → run.isDrained = true

theorem Joined.step (joined : run.Joined) (stepped : run.step action = some next) :
    next.Joined := by
  cases action with
  | signal =>
    cases stepped
    exact joined
  | connection number inner =>
    obtain ⟨entry, after, events, found, moved, rfl⟩ := step_connection stepped
    intro loop
    have drained := joined loop
    rw [isDrained, List.all_eq_true] at drained ⊢
    intro other member
    rcases List.mem_or_eq_of_mem_set member with old | rfl
    · exact drained other old
    · have gone := drained entry (List.mem_of_getElem? found)
      rwa [ConnectionEntry.step_gone (by simpa using gone) moved]
  | emitMetrics metrics =>
    obtain ⟨_, closing, rfl⟩ := step_emitMetrics stepped
    exact fun _ => joined (by rw [closing]; rfl)
  | complete drainMs =>
    obtain ⟨_, reporting, rfl⟩ := step_complete stepped
    exact fun _ => joined (by rw [reporting]; rfl)
  | _ =>
    obtain ⟨guard, rfl⟩ := of_guarded stepped
    simp_all [Joined, ServerLoop.isJoined, emit, isDrained]

def Graceful (run : ServerRun) : Prop :=
  run.loop.isGraceful = true → ∀ entry ∈ run.connections, entry.Calm

theorem Graceful.step (graceful : run.Graceful) (undisturbed : run.Undisturbed action)
    (stepped : run.step action = some next) : next.Graceful := by
  cases action with
  | signal =>
    cases stepped
    exact graceful
  | connection number inner =>
    obtain ⟨entry, after, events, found, moved, rfl⟩ := step_connection stepped
    intro loop other member
    rcases List.mem_or_eq_of_mem_set member with old | rfl
    · exact graceful loop other old
    · exact (graceful loop entry (List.mem_of_getElem? found)).step moved undisturbed.1
        fun reason closes => undisturbed.2 reason closes entry found
  | emitMetrics metrics =>
    obtain ⟨_, closing, rfl⟩ := step_emitMetrics stepped
    exact fun loop => graceful (by rw [closing]; exact loop)
  | complete drainMs =>
    obtain ⟨_, reporting, rfl⟩ := step_complete stepped
    exact fun loop => graceful (by rw [reporting]; exact loop)
  | accept =>
    obtain ⟨accepting, rfl⟩ := of_guarded stepped
    intro loop entry member
    rcases List.mem_append.mp member with old | new
    · exact graceful loop entry old
    · rw [List.mem_singleton.mp new]
      exact ⟨rfl, nofun, nofun, nofun⟩
  | _ =>
    obtain ⟨guard, rfl⟩ := of_guarded stepped
    simp_all [Graceful, ServerLoop.isGraceful, emit]

theorem joined_of_ran {actions : List ServerAction} {last : ServerRun}
    (ran : runAll step start actions = some last) : last.Joined :=
  runAll_invariant (fun _ _ _ holds stepped => Joined.step holds stepped) ran nofun

/-- What is left of a task when an undisturbed run is over. -/
theorem ended_marks {entry : ConnectionEntry} (sound : entry.Sound) (calm : entry.Calm)
    (gone : entry.phase.isLive = false) :
    (entry.connectionMarks = [] ∨ entry.connectionMarks =
        [.opened entry.connectionId, .closed entry.connectionId]) ∧
      ∀ stream, entry.streamMarks stream = [] ∨ entry.streamMarks stream =
        [.opened entry.connectionId, .closed entry.connectionId] := by
  have returned : entry.phase = .finished ∨ entry.phase = .failed := by
    cases phase : entry.phase with
    | finished => exact .inl rfl
    | failed => exact .inr rfl
    | dropped started => exact absurd phase (calm.returns started)
    | _ => rw [phase] at gone; cases gone
  constructor
  · rcases returned with phase | phase
    · exact .inr (by rw [ConnectionEntry.connectionMarks, phase]; rfl)
    · exact .inl (by rw [ConnectionEntry.connectionMarks, phase]; rfl)
  · intro stream
    exact marksAt_ended _ (sound.late returned) calm.streams stream

/-- **Server.** An undisturbed run that ends unforced has closed what it opened. -/
theorem paired_of_undisturbed {actions : List ServerAction} {last : ServerRun}
    (ran : runAll step start actions = some last)
    (undisturbed : Along step Undisturbed start actions) (complete : last.loop = .complete false) :
    Paired connectionMark last.log ∧ Paired streamMark last.log := by
  have told := (reached ran).1
  have graceful : last.Graceful :=
    runAll_along (fun _ _ _ holds calm stepped => Graceful.step holds calm stepped) ran undisturbed
      fun _ => nofun
  have drained := joined_of_ran ran (by rw [complete]; rfl)
  have ended {number : Nat} {entry : ConnectionEntry}
      (found : last.connections[number]? = some entry) :=
    have listed := List.mem_of_getElem? found
    ended_marks (told.sound entry listed) (graceful (by rw [complete]; rfl) entry listed)
      (by simpa using List.all_eq_true.mp drained entry listed)
  constructor
  · intro number
    rw [told.connections, connectionMarks]
    cases found : last.connections[number]? with
    | none => exact .inl rfl
    | some entry => exact (ended found).1.imp id fun both => ⟨_, both⟩
  · rintro ⟨number, stream⟩
    rw [told.streams, streamMarks]
    cases found : last.connections[number]? with
    | none => exact .inl rfl
    | some entry => exact ((ended found).2 stream).imp id fun both => ⟨_, both⟩

end ServerRun

end FlowWeave.Proxy
