/-
# Proxy.RunEvents — what whole runs of the proxy report

The two results about the event log of server and client.

* How a run ends: an accept loop that returns has reported its end unless it left by a `?`, and
  these exits are named: the endpoint is closed under the server, or the client cannot accept a
  TCP connection or read its token (`accept_loops_report_end`). For the server these are the
  events that the loop emits itself: after a forced shutdown a stream task that nobody waits for
  can still have its last word.
* Whether lifecycles are closed: when no task panics and the shutdown is not forced, a client
  closes them all, and a server closes all but those of streams that are running when their
  connection ends for its peer's sake, since these are aborted (`unforced_runs_close_lifecycles`).
-/
import FlowWeave.Proxy.ServerEvents
import FlowWeave.Proxy.ClientEvents

namespace FlowWeave.Proxy

open Theory Theory.Lifecycles Theory.ActionRuns ServerRun

set_option autoImplicit false

/-! ## How a run ends -/

/-- **Endings.** No run has two terminal events, and a loop that returns ends its events with a
snapshot and the terminal event of its result exactly when it did not leave by a `?`. -/
theorem accept_loops_report_end (serverActions : List ServerAction) (server : ServerRun)
    (connectionId : UInt64) (clientActions : List ClientAction) (client : ClientRun) :
    (runAll ServerRun.step .start serverActions = some server →
      server.log.countP ProxyEvent.isTerminal ≤ 1 ∧
      ∀ ok, server.loop.result? = some ok →
        (ReportsEnd ok server.ownLog ↔ .endpointClosed ∉ serverActions)) ∧
    (runAll ClientRun.step (.start connectionId) clientActions = some client →
      client.log.countP ProxyEvent.isTerminal ≤ 1 ∧
      ∀ ok, client.loop.result? = some ok →
        (ReportsEnd ok client.log ↔ ∀ action ∈ clientActions, action.exits = false)) := by
  constructor
  · intro ran
    exact ⟨(reached ran).2.countP_terminal, fun ok returned =>
      reportsEnd_iff ran returned⟩
  · intro ran
    exact ⟨(ClientRun.reached ran).2.countP_terminal, fun ok returned =>
      ClientRun.reportsEnd_iff ran returned⟩

def exampleMetrics : ProxyMetricsSnapshot := ⟨0, 1, 0, 0, 1, 0, 0, 0, 0, 0, 0, 0, 3, 5, 1, 0⟩

/-- A connection with one stream, and a shutdown. -/
def exampleServerActions : List ServerAction :=
  [.accept, .connection 0 .poll, .connection 0 (.establish 7), .connection 0 .acceptBi,
    .connection 0 (.stream 0 .start), .connection 0 (.stream 0 (.finish "completed")), .signal,
    .stop 3000, .connection 0 .drain, .connection 0 .finish, .drained, .emitMetrics exampleMetrics,
    .complete 12]

def exampleServerLast : ServerRun :=
  ⟨true, .complete false, [⟨.finished, 7, false, [.finished], 0⟩], 0,
    [.connectionStarted 0 7, .streamStarted 0 0 7, .streamFinished 0 0 7 "completed",
      .shutdownStarted 3000, .connectionFinished 0 7 "shutdown", .metricsSnapshot exampleMetrics,
      .shutdownComplete false 12]⟩

theorem exampleServer_ran :
    runAll step .start exampleServerActions = some exampleServerLast := by decide +kernel

/-- A client that loses its connection while a stream runs. -/
def exampleClientActions : List ClientAction :=
  [.accept, .stream 0 .start, .connectionClosed, .stream 0 .cancel, .abortedDrained,
    .emitMetrics exampleMetrics, .fail]

def exampleClientLast : ClientRun :=
  ⟨false, .failed "到服务端的 FlowWeave 连接已关闭", 7, [.dropped true], 0,
    [.connectionStarted 0 7, .streamStarted 0 0 7, .connectionFinished 0 7 "transport_closed",
      .metricsSnapshot exampleMetrics, .runtimeFailed "server_connection_closed"]⟩

theorem exampleClient_ran :
    runAll ClientRun.step (.start 7) exampleClientActions = some exampleClientLast := by
  decide +kernel

theorem accept_loops_report_end_example :
    ReportsEnd true exampleServerLast.ownLog ∧ ReportsEnd false exampleClientLast.log := by
  obtain ⟨server, client⟩ := accept_loops_report_end exampleServerActions exampleServerLast 7
    exampleClientActions exampleClientLast
  exact ⟨((server exampleServer_ran).2 true rfl).mpr (by decide),
    ((client exampleClient_ran).2 false rfl).mpr (by decide)⟩

/-- A client that cannot accept a TCP connection any more returns the error and reports nothing;
nor does a server whose endpoint is closed. -/
theorem accept_loops_exit_unreported :
    (∃ (last : ClientRun), runAll ClientRun.step (.start 7)
        [.acceptFailed "Too many open files (os error 24)"] = some last ∧
      last.loop.result? = some false ∧ last.log = [.connectionStarted 0 7] ∧
      ¬ReportsEnd false last.log) ∧
    (∃ (last : ServerRun), runAll ServerRun.step .start [.endpointClosed] = some last ∧
      last.loop.result? = some false ∧ last.log = [] ∧ ¬ReportsEnd false last.ownLog) := by
  constructor
  · refine ⟨_, rfl, rfl, rfl, not_reportsEnd ?_⟩
    simp [ClientRun.start, ProxyEvent.isTerminal]
  · exact ⟨_, rfl, rfl, rfl, not_reportsEnd (List.forall_mem_nil _)⟩

/-! ## Closed lifecycles -/

/-- All lifecycles of a log are closed, and an observer that reads its records after others
without connections and streams finds nothing open. -/
structure LifecyclesClosed (role : ProxyRole) (log : List ProxyEvent) : Prop where
  connections : Paired connectionMark log
  streams : Paired streamMark log
  connectionFinishes : ∀ before connection connectionId after,
    log = before ++ .connectionStarted connection connectionId :: after →
      marksOf connectionMark connection after = [.closed connectionId]
  streamFinishes : ∀ before connection stream connectionId after,
    log = before ++ .streamStarted connection stream connectionId :: after →
      marksOf streamMark (connection, stream) after = [.closed connectionId]
  observed : ∀ (seen : ProxyObservation) (lines : List Json), RecordsOf role log lines →
    (seen.role role).connections = .empty → (seen.role role).streams = .empty →
      ∃ observation, lines.foldl ProxyObservation.ingestValue seen = observation ∧
        (observation.role role).connections.Settled ∧ (observation.role role).streams.Settled ∧
        ∀ required policy,
          role.name ++ "." ++ "connection_lifecycle_open" ∉
            evaluateRole role.name (observation.role role) required policy ∧
          role.name ++ "." ++ "stream_lifecycle_open" ∉
            evaluateRole role.name (observation.role role) required policy

theorem lifecyclesClosed_of_paired (role : ProxyRole) {log : List ProxyEvent}
    (connections : Paired connectionMark log) (streams : Paired streamMark log) :
    LifecyclesClosed role log where
  connections := connections
  streams := streams
  connectionFinishes _ _ _ _ split := (connections.closed_later split rfl).2
  streamFinishes _ _ _ _ _ split := (streams.closed_later split rfl).2
  observed seen lines records noConnection noStream := by
    obtain ⟨settled, settledStreams⟩ :=
      observed_settled records noConnection noStream connections streams
    exact ⟨_, rfl, settled, settledStreams, fun required policy =>
      evaluateRole_settled role.name required policy settled settledStreams⟩

/-- **Lifecycles.** An unforced run closes every lifecycle, of the server if no task panics and
no connection ends for its peer's sake while one of its streams is running, and of the client if
no stream panics. -/
theorem unforced_runs_close_lifecycles (serverActions : List ServerAction) (server : ServerRun)
    (connectionId : UInt64) (clientActions : List ClientAction) (client : ClientRun) :
    (runAll ServerRun.step .start serverActions = some server →
      Along ServerRun.step ServerRun.Undisturbed .start serverActions →
      server.loop = .complete false → LifecyclesClosed .server server.log) ∧
    (runAll ClientRun.step (.start connectionId) clientActions = some client →
      (∀ stream, .stream stream .panic ∉ clientActions) →
      client.loop = .complete false → LifecyclesClosed .client client.log) := by
  constructor
  · intro ran undisturbed complete
    obtain ⟨connections, streams⟩ := paired_of_undisturbed ran undisturbed complete
    exact lifecyclesClosed_of_paired .server connections streams
  · intro ran fine complete
    obtain ⟨connections, streams⟩ := ClientRun.paired_of_no_panic ran fine complete
    exact lifecyclesClosed_of_paired .client connections streams

/-- A client with one stream, and a shutdown. -/
def exampleDrainActions : List ClientAction :=
  [.accept, .stream 0 .start, .signal, .stop 3000, .stream 0 (.finish "completed"), .drained,
    .finishConnection, .emitMetrics exampleMetrics, .complete 12]

def exampleDrainLast : ClientRun :=
  ⟨true, .complete false, 7, [.finished], 0,
    [.connectionStarted 0 7, .streamStarted 0 0 7, .shutdownStarted 3000,
      .streamFinished 0 0 7 "completed", .connectionFinished 0 7 "shutdown",
      .metricsSnapshot exampleMetrics, .shutdownComplete false 12]⟩

theorem exampleDrain_ran :
    runAll ClientRun.step (.start 7) exampleDrainActions = some exampleDrainLast := by
  decide +kernel

theorem unforced_runs_close_lifecycles_example :
    LifecyclesClosed .server exampleServerLast.log ∧
      LifecyclesClosed .client exampleDrainLast.log := by
  obtain ⟨server, client⟩ := unforced_runs_close_lifecycles exampleServerActions
    exampleServerLast 7 exampleDrainActions exampleDrainLast
  exact ⟨server exampleServer_ran
      (by simp [exampleServerActions, Along, Undisturbed, ConnectionAction.panics]) rfl,
    client exampleDrain_ran (by simp [exampleDrainActions]) rfl⟩

/-- The peer closes the connection while its stream is relayed; a shutdown comes later. -/
def examplePeerCloseActions : List ServerAction :=
  [.accept, .connection 0 .poll, .connection 0 (.establish 7), .connection 0 .acceptBi,
    .connection 0 (.stream 0 .start), .connection 0 (.close "peer_closed"),
    .connection 0 (.stream 0 .cancel), .connection 0 .finish, .signal, .stop 3000, .drained,
    .emitMetrics exampleMetrics, .complete 0]

def examplePeerCloseLast : ServerRun :=
  ⟨true, .complete false, [⟨.finished, 7, false, [.dropped true], 0⟩], 0,
    [.connectionStarted 0 7, .streamStarted 0 0 7, .connectionFinished 0 7 "peer_closed",
      .shutdownStarted 3000, .metricsSnapshot exampleMetrics, .shutdownComplete false 0]⟩

/-- The aborted stream task never says that its stream has finished, and the observer reports
the open lifecycle of a run without panics that was not forced. -/
theorem peer_close_leaves_stream_open :
    runAll ServerRun.step .start examplePeerCloseActions = some examplePeerCloseLast ∧
      (∀ number inner, .connection number inner ∈ examplePeerCloseActions → inner.panics = false) ∧
      examplePeerCloseLast.loop = .complete false ∧
      ¬Paired streamMark examplePeerCloseLast.log ∧
      ∃ lines, RecordsOf .server examplePeerCloseLast.log lines ∧
        balanceOf (lines.foldl ProxyObservation.ingestValue {}).server.streamBalance 7 = 1 ∧
        "server.stream_lifecycle_open" ∈
          (lines.foldl ProxyObservation.ingestValue {}).evaluate .strictBoth := by
  refine ⟨by decide +kernel, ?_, rfl, ?_, examplePeerCloseLast.log.map fun event =>
    .obj (event.record .server 0), ?_, ?_, ?_⟩
  · intro number inner listed
    simp only [examplePeerCloseActions, List.mem_cons, reduceCtorEq, ServerAction.connection.injEq,
      List.not_mem_nil, or_false, false_or] at listed
    rcases listed with ⟨-, rfl⟩ | ⟨-, rfl⟩ | ⟨-, rfl⟩ | ⟨-, rfl⟩ | ⟨-, rfl⟩ | ⟨-, rfl⟩ | ⟨-, rfl⟩
    all_goals rfl
  · intro paired
    have marks : marksOf streamMark (0, 0) examplePeerCloseLast.log = [.opened 7] := by
      decide +kernel
    rcases paired (0, 0) with nothing | ⟨label, both⟩
    · rw [marks] at nothing
      cases nothing
    · rw [marks] at both
      cases both
  · exact List.forall₂_map_right_iff.mpr (List.forall₂_same.mpr fun event _ => ⟨0, rfl⟩)
  · decide +kernel
  · exact List.mem_append_right _ (evaluateRole_open "server" _ rfl (by decide +kernel))

end FlowWeave.Proxy
