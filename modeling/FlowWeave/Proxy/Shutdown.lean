/-
# Proxy.Shutdown — the gauges of a proxy server that shuts down (`src/proxy.rs`)

Guards in the frames of the connection tasks and of their stream tasks count the gauges up and
down. `ProxyServer` is the server of `Proxy.ServerEvents` with these counters: its steps are the
steps of `ServerRun`, a slot is asked for before a connection is accepted, and a snapshot shows
the counters of its moment. When the frame of a connection's task is dropped, because the task
was aborted after the drain timeout or has panicked, its join set asks for the abort of the
streams and waits for none.

* `snapshot_idle_iff` — the last snapshot shows idle gauges exactly when every stream that was
  running when its connection's frame was dropped is scheduled again before;
* `snapshot_busy` — a forced shutdown that reports an active stream, and one that is not forced,
  after a panic.
-/
import FlowWeave.Proxy.ServerEvents

namespace FlowWeave.Proxy

open Theory.ActionRuns

set_option autoImplicit false

/-! ## Metrics -/

/-- The counters that the accept loop and its tasks move. -/
structure ProxyMetrics where
  activeConnections : Nat
  totalConnections : Nat
  connectionRejects : Nat
  activeStreams : Nat
  totalStreams : Nat
  gracefulShutdowns : Nat
  forcedShutdowns : Nat
  deriving DecidableEq, Repr

namespace ProxyMetrics

def default : ProxyMetrics := ⟨0, 0, 0, 0, 0, 0, 0⟩

def startConnection (metrics : ProxyMetrics) : ProxyMetrics :=
  { metrics with
    totalConnections := metrics.totalConnections + 1
    activeConnections := metrics.activeConnections + 1 }

def startStream (metrics : ProxyMetrics) : ProxyMetrics :=
  { metrics with
    totalStreams := metrics.totalStreams + 1
    activeStreams := metrics.activeStreams + 1 }

/-- The drop of a connection's `ActiveMetricGuard`. -/
def endConnection (metrics : ProxyMetrics) : ProxyMetrics :=
  { metrics with activeConnections := metrics.activeConnections - 1 }

/-- The drop of a stream's `ActiveMetricGuard`. -/
def endStream (metrics : ProxyMetrics) : ProxyMetrics :=
  { metrics with activeStreams := metrics.activeStreams - 1 }

def rejectConnection (metrics : ProxyMetrics) : ProxyMetrics :=
  { metrics with connectionRejects := metrics.connectionRejects + 1 }

def countShutdown (metrics : ProxyMetrics) (graceful : Bool) : ProxyMetrics :=
  if graceful then { metrics with gracefulShutdowns := metrics.gracefulShutdowns + 1 }
  else { metrics with forcedShutdowns := metrics.forcedShutdowns + 1 }

/-- `snapshot`. Its other counters are those of the single streams. -/
def shows (metrics : ProxyMetrics) (snapshot : ProxyMetricsSnapshot) : Bool :=
  metrics = ⟨snapshot.activeConnections, snapshot.totalConnections, snapshot.connectionRejects,
    snapshot.activeStreams, snapshot.totalStreams, snapshot.gracefulShutdowns,
    snapshot.forcedShutdowns⟩

end ProxyMetrics

/-- What the guards of a connection's task and of its streams do to the gauges in a step. A task
that is cancelled before its first poll has no guard. -/
def ConnectionEntry.effect (entry : ConnectionEntry) :
    ConnectionAction → ProxyMetrics → ProxyMetrics
  | .poll => .startConnection
  | .fail _ | .finish | .panic => .endConnection
  | .cancel => if entry.phase = .spawned then id else .endConnection
  | .stream _ .start => .startStream
  | .stream _ (.finish _) | .stream _ .panic => .endStream
  | .stream stream .cancel =>
    if entry.streams[stream]? = some .running then .endStream else id
  | _ => id

/-! ## The server -/

structure ProxyServer where
  maxServerConnections : Nat
  metrics : ProxyMetrics
  run : ServerRun
  deriving DecidableEq

namespace ProxyServer

def start (maxServerConnections : Nat) : ProxyServer := ⟨maxServerConnections, .default, .start⟩

/-- `try_acquire_owned` finds a slot; a slot is held as long as a connection's future. -/
def hasSlot (server : ProxyServer) : Bool :=
  server.run.connections.countP (·.phase.isLive) < server.maxServerConnections

/-- What an action asks of the slots and of the counters. -/
def allows (server : ProxyServer) : ServerAction → Bool
  | .accept => server.hasSlot
  | .reject => !server.hasSlot
  | .tick snapshot | .emitMetrics snapshot => server.metrics.shows snapshot
  | _ => true

/-- What it does to the counters. -/
def effect (server : ProxyServer) : ServerAction → ProxyMetrics → ProxyMetrics
  | .reject => .rejectConnection
  | .drained => (·.countShutdown true)
  | .expired => (·.countShutdown false)
  | .connection number action =>
    server.run.connections[number]?.elim id fun entry => entry.effect action
  | _ => id

def step (server : ProxyServer) (action : ServerAction) : Option ProxyServer :=
  if server.allows action then
    (server.run.step action).map fun run =>
      { server with metrics := server.effect action server.metrics, run }
  else none

variable {server next last : ProxyServer} {action : ServerAction} {actions : List ServerAction}

theorem step_eq_some :
    server.step action = some next ↔ server.allows action = true ∧ ∃ run,
      server.run.step action = some run ∧
        next = { server with metrics := server.effect action server.metrics, run } := by
  simp only [step, Option.ite_none_right_eq_some, Option.map_eq_some_iff, @eq_comm _ next]

/-- The runs are runs of the loop. -/
theorem runAll_run (ran : runAll step server actions = some last) :
    runAll ServerRun.step server.run actions = some last.run := by
  induction actions generalizing server with
  | nil =>
    cases ran
    rfl
  | cons action rest ih =>
    obtain ⟨next, stepped, later⟩ := Option.bind_eq_some_iff.mp ran
    obtain ⟨-, run, moved, rfl⟩ := step_eq_some.mp stepped
    exact Option.bind_eq_some_iff.mpr ⟨run, moved, ih later⟩

end ProxyServer

/-! ## The gauges count the guards -/

def StreamState.guards : StreamState → Nat
  | running => 1
  | _ => 0

/-- The guard of a connection's task is there from the first poll on. -/
def ConnectionPhase.guards : ConnectionPhase → Nat
  | handshaking | serving | draining | aborting _ => 1
  | _ => 0

def ConnectionEntry.guards (entry : ConnectionEntry) : Nat := entry.phase.guards

def ConnectionEntry.streamGuards (entry : ConnectionEntry) : Nat :=
  (entry.streams.map StreamState.guards).sum

/-- A sum of which one item is replaced. -/
theorem sum_map_set {A : Type} (amount : A → Nat) {items : List A} {index : Nat} {item : A}
    (found : items[index]? = some item) (other : A) :
    ((items.set index other).map amount).sum + amount item =
      (items.map amount).sum + amount other := by
  induction items generalizing index with
  | nil => cases found
  | cons head rest ih =>
    cases index with
    | zero =>
      cases found
      simp only [List.set_cons_zero, List.map_cons, List.sum_cons]
      omega
    | succ index =>
      have others := @ih index found
      simp only [List.set_cons_succ, List.map_cons, List.sum_cons]
      omega

theorem le_sum_map {A : Type} (amount : A → Nat) {items : List A} {item : A}
    (listed : item ∈ items) : amount item ≤ (items.map amount).sum :=
  List.single_le_sum (fun _ _ => Nat.zero_le _) _ (List.mem_map_of_mem listed)

namespace ConnectionEntry

variable {number : Nat} {shutdown : Bool} {entry after : ConnectionEntry}
  {action : ConnectionAction} {events : List ProxyEvent} {metrics : ProxyMetrics}

/-- A step moves the gauges by as much as the guards. -/
theorem step_guards (stepped : entry.step number shutdown action = some (after, events))
    (some_connection : entry.guards ≤ metrics.activeConnections)
    (some_streams : entry.streamGuards ≤ metrics.activeStreams) :
    (entry.effect action metrics).activeConnections + entry.guards =
        metrics.activeConnections + after.guards ∧
      (entry.effect action metrics).activeStreams + entry.streamGuards =
        metrics.activeStreams + after.streamGuards := by
  unfold guards streamGuards at *
  cases action with
  | finish =>
    obtain ⟨reason, winding, -, rfl, -⟩ := step_finish stepped
    have started : entry.phase.guards = 1 := by
      cases phase : entry.phase <;> simp_all [finishReason, ConnectionPhase.guards]
    refine ⟨?_, rfl⟩
    simp only [effect, ProxyMetrics.endConnection, ConnectionPhase.guards] at *
    omega
  | stream stream inner =>
    obtain ⟨streams, moved, rfl, -⟩ := step_stream stepped
    obtain ⟨state, next, found, turned, rfl⟩ := stepStream_eq_some.mp moved
    have sums := sum_map_set StreamState.guards found next
    have own := le_sum_map StreamState.guards (List.mem_of_getElem? found)
    rcases StreamState.step_cases turned with ⟨rfl, rfl, rfl, -⟩ | ⟨reason, rfl, rfl, rfl⟩ |
      ⟨rfl, rfl, rfl, -⟩ | ⟨rfl, rfl, rfl, -⟩ | ⟨rfl, rfl, rfl⟩
    all_goals
      refine ⟨by simp [effect, found] <;> rfl, ?_⟩
      simp [effect, found, ProxyMetrics.startStream, ProxyMetrics.endStream, StreamState.guards]
        at sums own ⊢
      omega
  | cancel =>
    obtain ⟨⟨-, live⟩, ⟨⟩⟩ := of_guarded stepped
    cases phase : entry.phase
    all_goals
      simp_all [effect, ConnectionPhase.isLive, ConnectionPhase.guards, ProxyMetrics.endConnection]
  | panic =>
    obtain ⟨⟨live, polled⟩, ⟨⟩⟩ := of_guarded stepped
    cases phase : entry.phase
    all_goals
      simp_all [effect, ConnectionPhase.isLive, ConnectionPhase.guards, ProxyMetrics.endConnection]
  | fail reason =>
    obtain ⟨handshaking, ⟨⟩⟩ := of_guarded stepped
    rw [handshaking] at some_connection ⊢
    exact ⟨Nat.sub_add_cancel some_connection, rfl⟩
  | _ =>
    obtain ⟨guard, ⟨⟩⟩ := of_guarded stepped
    simp [effect, guard, ConnectionPhase.guards, StreamState.guards, ProxyMetrics.startConnection]

end ConnectionEntry

namespace ProxyServer

variable {server next last : ProxyServer} {action : ServerAction} {actions : List ServerAction}

/-- The gauges of a server are the guards that are alive. -/
structure Counted (server : ProxyServer) : Prop where
  connections : server.metrics.activeConnections =
    (server.run.connections.map ConnectionEntry.guards).sum
  streams : server.metrics.activeStreams =
    (server.run.connections.map ConnectionEntry.streamGuards).sum

theorem Counted.step (counted : server.Counted) (stepped : server.step action = some next) :
    next.Counted := by
  obtain ⟨connections, streams⟩ := counted
  obtain ⟨-, run, moved, rfl⟩ := step_eq_some.mp stepped
  by_cases own : ∀ number inner, action ≠ .connection number inner
  · have same : (server.effect action server.metrics).activeConnections =
          server.metrics.activeConnections ∧
        (server.effect action server.metrics).activeStreams = server.metrics.activeStreams := by
      cases action with
      | connection number inner => exact absurd rfl (own number inner)
      | _ => exact ⟨rfl, rfl⟩
    have tasks := (ServerRun.step_loop moved own).1
    constructor
    · rw [same.1, connections]
      rcases tasks with kept | ⟨-, aborted⟩ | spawned
      · rw [kept]
      · simp only [aborted, ServerRun.abortAll, List.map_map]
        rfl
      · simp [spawned, ConnectionEntry.guards, ConnectionEntry.new, ConnectionPhase.guards]
    · rw [same.2, streams]
      rcases tasks with kept | ⟨-, aborted⟩ | spawned
      · rw [kept]
      · simp only [aborted, ServerRun.abortAll, List.map_map]
        rfl
      · simp [spawned, ConnectionEntry.streamGuards, ConnectionEntry.new]
  · push Not at own
    obtain ⟨number, inner, rfl⟩ := own
    obtain ⟨entry, after, events, found, turned, rfl⟩ := ServerRun.step_connection moved
    have listed := List.mem_of_getElem? found
    have own := le_sum_map ConnectionEntry.guards listed
    have ownStreams := le_sum_map ConnectionEntry.streamGuards listed
    have guards := sum_map_set ConnectionEntry.guards found after
    have streamGuards := sum_map_set ConnectionEntry.streamGuards found after
    rw [← connections] at own guards
    rw [← streams] at ownStreams streamGuards
    obtain ⟨movedConnections, movedStreams⟩ := ConnectionEntry.step_guards turned own ownStreams
    constructor <;> simp only [effect, found, Option.elim_some] <;> omega

end ProxyServer

/-! ## Streams without their connection -/

namespace ConnectionEntry

variable {number stream : Nat} {shutdown : Bool} {entry after : ConnectionEntry}
  {action : ConnectionAction} {events : List ProxyEvent}

/-- A stream is running, and the frame of its connection is gone. -/
def Stranded (stream : Nat) (entry : ConnectionEntry) : Prop :=
  (∃ started, entry.phase = .dropped started) ∧ entry.streams[stream]? = some .running

/-- A stream is stranded when the frame is dropped, until it is scheduled. -/
theorem step_stranded (stepped : entry.step number shutdown action = some (after, events)) :
    after.Stranded stream ↔
      (action = .cancel ∨ action = .panic) ∧ entry.streams[stream]? = some .running ∨
        entry.Stranded stream ∧ ∀ inner, action ≠ .stream stream inner := by
  cases action with
  | finish =>
    obtain ⟨reason, winding, -, rfl, -⟩ := step_finish stepped
    cases phase : entry.phase <;> simp_all [Stranded, finishReason]
  | stream other inner =>
    obtain ⟨streams, moved, rfl, -⟩ := step_stream stepped
    obtain ⟨state, next, found, turned, rfl⟩ := stepStream_eq_some.mp moved
    by_cases same : other = stream
    · subst same
      have inside := (List.getElem?_eq_some_iff.mp found).1
      have settled : (∃ started, entry.phase = .dropped started) → next ≠ .running := by
        rintro ⟨started, dropped⟩ rfl
        rcases StreamState.step_cases turned with ⟨-, -, -, open_⟩ | ⟨-, -, -, gone⟩ |
          ⟨-, -, gone, -⟩ | ⟨-, -, gone, -⟩ | ⟨-, -, gone⟩
        · rw [dropped] at open_
          cases open_
        all_goals cases gone
      simpa only [Stranded, List.getElem?_set_self inside, Option.some.injEq, reduceCtorEq, or_self,
        false_and, false_or, not_and, ne_eq, not_forall, not_not, exists_eq', and_false, iff_false,
        ConnectionAction.stream.injEq, true_and, forall_eq', imp_false, not_true] using settled
    · simp [Stranded, List.getElem?_set_ne same, same]
  | cancel =>
    obtain ⟨-, ⟨⟩⟩ := of_guarded stepped
    simp [Stranded]
  | panic =>
    obtain ⟨-, ⟨⟩⟩ := of_guarded stepped
    simp [Stranded]
  | _ =>
    obtain ⟨guard, ⟨⟩⟩ := of_guarded stepped
    simp [Stranded, guard]

end ConnectionEntry

namespace ServerRun

variable {run next : ServerRun} {action : ServerAction} {number stream : Nat}

def Stranded (number stream : Nat) (run : ServerRun) : Prop :=
  ∃ entry, run.connections[number]? = some entry ∧ entry.Stranded stream

/-- The frame of a connection is dropped, by an abort or a panic, while a stream is running. -/
def Strands (number stream : Nat) (run : ServerRun) (action : ServerAction) : Prop :=
  (action = .connection number .cancel ∨ action = .connection number .panic) ∧
    ∃ entry, run.connections[number]? = some entry ∧ entry.streams[stream]? = some .running

end ServerRun

/-- The task of a stream is scheduled: it goes on, and ends, or its abort takes effect. -/
def ServerAction.Schedules (number stream : Nat) (action : ServerAction) : Prop :=
  ∃ inner, action = .connection number (.stream stream inner)

namespace ServerRun

variable {run next : ServerRun} {action : ServerAction} {number stream : Nat}

theorem step_stranded (stepped : run.step action = some next) :
    next.Stranded number stream ↔ run.Strands number stream action ∨
      run.Stranded number stream ∧ ¬action.Schedules number stream := by
  by_cases own : ∀ number inner, action ≠ .connection number inner
  · have noStrand : ¬run.Strands number stream action := by
      rintro ⟨cancelled | panicked, -⟩
      · exact own _ _ cancelled
      · exact own _ _ panicked
    have noSchedule : ¬action.Schedules number stream := fun ⟨inner, scheduled⟩ =>
      own _ _ scheduled
    simp only [noStrand, noSchedule, not_false_eq_true, and_true, false_or]
    unfold Stranded
    rcases (step_loop stepped own).1 with kept | ⟨-, aborted⟩ | spawned
    · rw [kept]
    · simp [aborted, abortAll, ConnectionEntry.Stranded]
    · rw [spawned]
      rcases Nat.lt_or_ge number run.connections.length with before | behind
      · rw [List.getElem?_append_left before]
      · rw [List.getElem?_append_right behind, List.getElem?_eq_none behind]
        rcases Nat.eq_zero_or_pos (number - run.connections.length) with zero | more
        · simp [zero, ConnectionEntry.Stranded, ConnectionEntry.new]
        · simp [List.getElem?_eq_none (show [ConnectionEntry.new].length ≤ _ from more)]
  · push Not at own
    obtain ⟨other, inner, rfl⟩ := own
    obtain ⟨entry, after, events, found, moved, rfl⟩ := step_connection stepped
    by_cases same : other = number
    · subst same
      have inside := (List.getElem?_eq_some_iff.mp found).1
      simp only [Stranded, Strands, found, List.getElem?_set_self inside]
      simp [ServerAction.Schedules, ConnectionEntry.step_stranded moved]
    · simp [Stranded, Strands, ServerAction.Schedules, List.getElem?_set_ne same, same]

/-- What is left of a connection that can be joined: its streams too can be joined, or some are
stranded. -/
theorem running_of_drained (told : run.Told) (drained : run.isDrained = true) :
    (run.connections.map ConnectionEntry.guards).sum = 0 ∧
      ((run.connections.map ConnectionEntry.streamGuards).sum = 0 ↔
        ∀ number stream, ¬run.Stranded number stream) := by
  have gone : ∀ entry ∈ run.connections, entry.phase.isLive = false := by
    simpa [isDrained] using drained
  have streams (entry : ConnectionEntry) :
      entry.streamGuards = 0 ↔ ∀ stream : Nat, entry.streams[stream]? ≠ some .running := by
    simp only [ConnectionEntry.streamGuards, List.sum_eq_zero_iff, List.forall_mem_map, ne_eq,
      ← List.mem_iff_getElem?, ← not_exists]
    refine ⟨fun none listed => absurd (none _ listed) (by decide), fun none state listed => ?_⟩
    cases state with
    | running => exact absurd listed none
    | _ => rfl
  constructor
  · refine List.sum_eq_zero (List.forall_mem_map.mpr fun entry listed => ?_)
    have ended := gone entry listed
    unfold ConnectionEntry.guards
    generalize entry.phase = phase at ended
    cases phase <;> first | rfl | cases ended
  · simp only [List.sum_eq_zero_iff, List.forall_mem_map, streams]
    constructor
    · rintro idle number stream ⟨entry, found, -, running⟩
      exact idle entry (List.mem_of_getElem? found) stream running
    · intro none entry listed stream running
      obtain ⟨number, found⟩ := List.mem_iff_getElem?.mp listed
      refine none number stream ⟨entry, found, ?_, running⟩
      have phase := gone entry listed
      have late := (told.sound entry listed).late
      have joined (all : allJoined entry.streams = true) : False := by
        have ended := List.all_eq_true.mp all _ (List.mem_of_getElem? running)
        cases ended
      cases same : entry.phase with
      | dropped started => exact ⟨started, rfl⟩
      | finished => exact (joined (late (.inl same))).elim
      | failed => exact (joined (late (.inr same))).elim
      | _ => rw [same] at phase; cases phase

end ServerRun

namespace ProxyServer

variable {server next last : ProxyServer} {action : ServerAction} {actions : List ServerAction}
  {maxServerConnections : Nat}

theorem counted_of_ran (ran : runAll step (.start maxServerConnections) actions = some last) :
    last.Counted :=
  runAll_invariant (fun _ _ _ holds stepped => Counted.step holds stepped) ran ⟨rfl, rfl⟩

/-- A stream is stranded at the end unless it was scheduled again. -/
theorem stranded_iff (ran : runAll step (.start maxServerConnections) actions = some last)
    (number stream : Nat) :
    ¬last.run.Stranded number stream ↔
      AllSettled step (fun server => server.run.Strands number stream)
        (ServerAction.Schedules number stream) (.start maxServerConnections) actions := by
  have settled := @runAll_settled_iff _ _ step _ _ _
    (fun server => server.run.Stranded number stream)
    (fun server => server.run.Strands number stream) (ServerAction.Schedules number stream)
    (fun server action next stepped => by
      obtain ⟨-, run, moved, rfl⟩ := step_eq_some.mp stepped
      exact ServerRun.step_stranded moved) ran
  rw [settled, and_iff_right]
  rintro ⟨entry, found, -⟩
  cases found

end ProxyServer

/-! ## The last snapshot -/

/-- A task that was neither aborted nor has panicked. -/
def ConnectionEntry.Kept (entry : ConnectionEntry) : Prop :=
  entry.cancelled = false ∧ ∀ started, entry.phase ≠ .dropped started

theorem ConnectionEntry.Kept.step {number : Nat} {shutdown : Bool}
    {entry after : ConnectionEntry} {action : ConnectionAction} {events : List ProxyEvent}
    (kept : entry.Kept) (fine : action ≠ .panic)
    (stepped : entry.step number shutdown action = some (after, events)) : after.Kept := by
  cases action with
  | finish =>
    obtain ⟨reason, -, -, rfl, -⟩ := step_finish stepped
    exact ⟨kept.1, nofun⟩
  | stream stream inner =>
    obtain ⟨streams, -, rfl, -⟩ := step_stream stepped
    exact kept
  | panic => exact absurd rfl fine
  | cancel =>
    obtain ⟨⟨cancelled, -⟩, -⟩ := of_guarded stepped
    cases kept.1.symm.trans cancelled
  | _ =>
    obtain ⟨guard, ⟨⟩⟩ := of_guarded stepped
    exact ⟨kept.1, by simp [guard]⟩

/-- Until the drain timeout nothing is aborted. -/
theorem ServerRun.step_kept {run next : ServerRun} {action : ServerAction}
    (kept : ∀ entry ∈ run.connections, entry.Kept)
    (early : action ≠ .endpointClosed ∧ action ≠ .expired)
    (fine : ∀ number, action ≠ .connection number .panic)
    (stepped : run.step action = some next) : ∀ entry ∈ next.connections, entry.Kept := by
  by_cases own : ∀ number inner, action ≠ .connection number inner
  · rcases (step_loop stepped own).1 with same | ⟨closed | expired, -⟩ | spawned
    · rwa [same]
    · exact absurd closed early.1
    · exact absurd expired early.2
    · rw [spawned]
      exact List.forall_mem_append.mpr ⟨kept, List.forall_mem_singleton.mpr ⟨rfl, nofun⟩⟩
  · push Not at own
    obtain ⟨number, inner, rfl⟩ := own
    obtain ⟨entry, after, events, found, moved, rfl⟩ := step_connection stepped
    intro other listed
    rcases List.mem_or_eq_of_mem_set listed with old | rfl
    · exact kept other old
    · exact (kept entry (List.mem_of_getElem? found)).step (fun same => fine number (by rw [same]))
        moved

open ProxyServer (start step) in
/-- **When a finished server reports idle gauges.** In every run that comes to the last snapshot,
no connection is active. No stream is, exactly when every stream that was running when its
connection's frame was dropped is scheduled again before the snapshot. If the shutdown is not
forced and no connection's task panics, no frame is dropped like that. -/
theorem snapshot_idle_iff {maxServerConnections : Nat} {actions : List ServerAction}
    {snapshot : ProxyMetricsSnapshot} {last : ProxyServer}
    (ran : runAll step (start maxServerConnections) (actions ++ [.emitMetrics snapshot]) =
      some last) :
    (snapshot.activeConnections = 0 ∧ snapshot.activeStreams = 0 ↔
        ∀ number stream, AllSettled step (fun server => server.run.Strands number stream)
          (ServerAction.Schedules number stream) (start maxServerConnections) actions) ∧
      snapshot.activeConnections = 0 ∧
      (.expired ∉ actions → (∀ number, .connection number .panic ∉ actions) →
        snapshot.activeStreams = 0) := by
  obtain ⟨server, ran, stepped⟩ := runAll_concat ran
  obtain ⟨shown, run, moved, -⟩ := ProxyServer.step_eq_some.mp stepped
  have shown := of_decide_eq_true shown
  have runs := ProxyServer.runAll_run ran
  obtain ⟨forced, closing⟩ : ∃ forced, server.run.loop = .closing forced := by
    simp only [ServerRun.step] at moved
    split at moved
    · exact ⟨_, by assumption⟩
    · cases moved
  have told := (ServerRun.reached runs).1
  have drained := ServerRun.joined_of_ran runs (by rw [closing]; rfl)
  obtain ⟨noConnection, streams⟩ := ServerRun.running_of_drained told drained
  obtain ⟨connectionGauge, streamGauge⟩ := ProxyServer.counted_of_ran ran
  rw [noConnection, shown] at connectionGauge
  rw [shown] at streamGauge
  simp only at connectionGauge streamGauge
  rw [← streamGauge] at streams
  refine ⟨?_, connectionGauge, fun early fine => ?_⟩
  · rw [and_iff_right connectionGauge, streams]
    exact forall₂_congr (ProxyServer.stranded_iff ran)
  · rw [streams]
    have closed : .endpointClosed ∉ actions := fun listed => by
      have failed := (runAll_happened_iff (fun _ _ _ stepped => ServerRun.failed_step stepped)
        runs).mpr (.inr ⟨_, listed, rfl⟩)
      simp [closing] at failed
    have along : Along ServerRun.step (fun _ action => (action ≠ .endpointClosed ∧
        action ≠ .expired) ∧ ∀ number, action ≠ .connection number .panic) .start actions :=
      along_of_forall fun action listed => ⟨⟨fun same => closed (same ▸ listed),
        fun same => early (same ▸ listed)⟩, fun number same => fine number (same ▸ listed)⟩
    have kept : ∀ entry ∈ server.run.connections, entry.Kept :=
      runAll_along (fun _ _ _ holds allowed stepped =>
        ServerRun.step_kept holds allowed.1 allowed.2 stepped) runs along (List.forall_mem_nil _)
    rintro number stream ⟨entry, found, ⟨started, dropped⟩, -⟩
    exact (kept entry (List.mem_of_getElem? found)).2 started dropped

/-! A server with one connection that has one stream when the drain times out. -/

/-- The timeout aborts the connection's task, which is scheduled. -/
def exampleForced : List ServerAction :=
  [.accept, .connection 0 .poll, .connection 0 (.establish 7), .connection 0 .acceptBi,
    .connection 0 (.stream 0 .start), .signal, .stop 3000, .connection 0 .drain, .expired,
    .connection 0 .cancel]

def exampleIdle : ProxyMetricsSnapshot := ⟨0, 1, 0, 0, 1, 0, 0, 0, 0, 0, 0, 0, 0, 0, 0, 1⟩

/-- The stream is scheduled before the snapshot, and the gauges are idle. -/
theorem snapshot_idle_iff_example :
    ∃ last, runAll ProxyServer.step (.start 1) (exampleForced ++
        [.connection 0 (.stream 0 .cancel), .forcedDrained] ++ [.emitMetrics exampleIdle]) =
          some last ∧
      ∀ number stream, AllSettled ProxyServer.step
        (fun server => server.run.Strands number stream) (ServerAction.Schedules number stream)
        (.start 1) (exampleForced ++ [.connection 0 (.stream 0 .cancel), .forcedDrained]) := by
  obtain ⟨last, ran⟩ := Option.isSome_iff_exists.mp (show (runAll ProxyServer.step (.start 1)
    (exampleForced ++ [.connection 0 (.stream 0 .cancel), .forcedDrained] ++
      [.emitMetrics exampleIdle])).isSome = true by decide +kernel)
  exact ⟨last, ran, (snapshot_idle_iff ran).1.mp ⟨rfl, rfl⟩⟩

/-- The last snapshot of a forced shutdown, with a stream that is still active; and that of a
shutdown in time, after the task of a connection has panicked. -/
theorem snapshot_busy :
    (∃ last, runAll ProxyServer.step (.start 1) (exampleForced ++
        [.forcedDrained, .emitMetrics { exampleIdle with activeStreams := 1 }]) = some last ∧
      last.run.loop = .reporting true) ∧
    ∃ last, runAll ProxyServer.step (.start 1) (exampleForced.take 8 ++
        [.connection 0 .panic, .drained, .emitMetrics { exampleIdle with
          activeStreams := 1, gracefulShutdowns := 1, forcedShutdowns := 0 }]) = some last ∧
      last.run.loop = .reporting false :=
  ⟨⟨_, rfl, rfl⟩, _, rfl, rfl⟩

end FlowWeave.Proxy
