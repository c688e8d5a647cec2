/-
# Proxy.EventLog — the events of the accept loops, and how the observer sees them

`ProxyEvent` is what the accept loops and their tasks emit, and `ProxyEvent.record` the record
that is written for it. Two kinds of things are opened and closed in a log: connections and
streams (`connectionMark`, `streamMark`). The numbers of tasks tell the things apart; the records
do not show them, they show the id of the connection.

The observer only moves two counters and a balance at these events (`ingestValue_views`). So a
log in which every lifecycle is `Paired` leaves both balances at zero, and a policy that asks for
closed lifecycles finds nothing (`observed_settled`, `evaluateRole_settled`).
-/
import FlowWeave.Proxy.Observation
import FlowWeave.Theory.Lifecycles

namespace FlowWeave.Proxy

open Theory Theory.Lifecycles

set_option autoImplicit false

/-! ## Events and records -/

/-- The changes of a path that are reported. -/
inductive PathChange where
  | established
  | abandoned
  | discarded
  | remoteStatus
  | observedAddress
  | unknown
  deriving DecidableEq, Repr

def PathChange.name : PathChange → String
  | .established => "established"
  | .abandoned => "abandoned"
  | .discarded => "discarded"
  | .remoteStatus => "remote_status"
  | .observedAddress => "observed_address"
  | .unknown => "unknown"

/-- The events of the accept loops and of the tasks they spawn. A task is known by its number,
a stream by that of its connection and its own. -/
inductive ProxyEvent where
  | connectionStarted (connection : Nat) (connectionId : UInt64)
  | connectionFinished (connection : Nat) (connectionId : UInt64) (reason : String)
  | connectionFailed (reason : String)
  | connectionRejected
  | connectionTaskFailed
  | streamStarted (connection stream : Nat) (connectionId : UInt64)
  | streamFinished (connection stream : Nat) (connectionId : UInt64) (reason : String)
  | streamRejected (connectionId : UInt64)
  | streamTaskFailed (connectionId : UInt64)
  | pathChanged (connectionId : UInt64) (change : PathChange)
  | pathEventsLagged (connectionId lostEvents : UInt64)
  | metricsSnapshot (metrics : ProxyMetricsSnapshot)
  | shutdownStarted (drainTimeoutMs : UInt64)
  | shutdownForced
  | shutdownComplete (forced : Bool) (drainMs : UInt64)
  | runtimeFailed (reason : String)
  deriving DecidableEq, Repr

namespace ProxyEvent

def name : ProxyEvent → String
  | connectionStarted .. => "connection_started"
  | connectionFinished .. => "connection_finished"
  | connectionFailed .. => "connection_failed"
  | connectionRejected => "connection_rejected"
  | connectionTaskFailed => "connection_task_failed"
  | streamStarted .. => "stream_started"
  | streamFinished .. => "stream_finished"
  | streamRejected .. => "stream_rejected"
  | streamTaskFailed .. => "stream_task_failed"
  | pathChanged .. => "path_changed"
  | pathEventsLagged .. => "path_events_lagged"
  | metricsSnapshot .. => "metrics_snapshot"
  | shutdownStarted .. => "shutdown_started"
  | shutdownForced => "shutdown_forced"
  | shutdownComplete .. => "shutdown_complete"
  | runtimeFailed .. => "runtime_failed"

def level : ProxyEvent → String
  | connectionFinished _ _ reason =>
    if reason = "stream_accept_failed" then "warn"
    else if reason = "transport_closed" then "error"
    else "info"
  | connectionFailed reason => if reason = "shutdown" then "info" else "warn"
  | streamFinished _ _ _ reason => if reason = "completed" then "info" else "warn"
  | pathChanged _ change => if change = .abandoned then "warn" else "info"
  | connectionRejected | streamRejected .. | pathEventsLagged .. | shutdownForced => "warn"
  | connectionTaskFailed | streamTaskFailed .. | runtimeFailed .. => "error"
  | _ => "info"

/-- `metrics_snapshot_json`. -/
def metricsFields (metrics : ProxyMetricsSnapshot) : Record :=
  [("active_connections", .num metrics.activeConnections),
    ("total_connections", .num metrics.totalConnections),
    ("connection_rejects", .num metrics.connectionRejects),
    ("active_streams", .num metrics.activeStreams),
    ("total_streams", .num metrics.totalStreams),
    ("stream_rejects", .num metrics.streamRejects),
    ("dns_timeouts", .num metrics.dnsTimeouts),
    ("handshake_timeouts", .num metrics.handshakeTimeouts),
    ("request_timeouts", .num metrics.requestTimeouts),
    ("stream_open_timeouts", .num metrics.streamOpenTimeouts),
    ("upstream_connect_timeouts", .num metrics.upstreamConnectTimeouts),
    ("upstream_errors", .num metrics.upstreamErrors),
    ("upload_bytes", .num metrics.uploadBytes),
    ("download_bytes", .num metrics.downloadBytes),
    ("graceful_shutdowns", .num metrics.gracefulShutdowns),
    ("forced_shutdowns", .num metrics.forcedShutdowns)]

/-- The fields that an event adds to its record, those no reader looks at left out. -/
def fields : ProxyEvent → Record
  | connectionStarted _ connectionId => [("connection_id", .num connectionId.toNat)]
  | connectionFinished _ connectionId reason =>
    [("connection_id", .num connectionId.toNat), ("reason", .str reason)]
  | connectionFailed reason => [("reason", .str reason)]
  | connectionRejected => [("reason", .str "connection_limit")]
  | connectionTaskFailed => [("reason", .str "task_panic")]
  | streamStarted _ _ connectionId => [("connection_id", .num connectionId.toNat)]
  | streamFinished _ _ connectionId reason =>
    [("connection_id", .num connectionId.toNat), ("reason", .str reason)]
  | streamRejected connectionId =>
    [("connection_id", .num connectionId.toNat), ("reason", .str "client_stream_limit")]
  | streamTaskFailed connectionId =>
    [("connection_id", .num connectionId.toNat), ("reason", .str "task_panic")]
  | pathChanged connectionId change =>
    [("connection_id", .num connectionId.toNat), ("change", .str change.name)]
  | pathEventsLagged connectionId lostEvents =>
    [("connection_id", .num connectionId.toNat), ("lost_events", .num lostEvents.toNat)]
  | metricsSnapshot metrics => metricsFields metrics
  | shutdownStarted drainTimeoutMs => [("drain_timeout_ms", .num drainTimeoutMs.toNat)]
  | shutdownForced => [("reason", .str "drain_timeout")]
  | shutdownComplete forced drainMs =>
    [("forced", .bool forced), ("drain_ms", .num drainMs.toNat)]
  | runtimeFailed reason => [("reason", .str reason)]

/-- `ProxyEventLog::emit`: the record of an event at a time. -/
def record (role : ProxyRole) (time : UInt64) (event : ProxyEvent) : Record :=
  ("schema", .str proxyEventSchema) :: ("ts_unix_ms", .num time.toNat) ::
    ("level", .str event.level) :: ("role", .str role.name) :: ("event", .str event.name) ::
    event.fields

end ProxyEvent

open ProxyEvent

/-! ## How a log ends -/

def ProxyEvent.isTerminal : ProxyEvent → Bool
  | .shutdownComplete _ _ | .runtimeFailed _ => true
  | _ => false

/-- The last event of a run that returns `Ok`, or `Err`. -/
def ProxyEvent.reports (ok : Bool) : ProxyEvent → Bool
  | .shutdownComplete _ _ => ok
  | .runtimeFailed _ => !ok
  | _ => false

/-- The log ends with a snapshot of the metrics and the terminal event of the result, and there
is no other terminal event. -/
def ReportsEnd (ok : Bool) (log : List ProxyEvent) : Prop :=
  ∃ before metrics last, log = before ++ [.metricsSnapshot metrics, last] ∧
    last.reports ok = true ∧ ∀ event ∈ before, event.isTerminal = false

variable {ok : Bool} {log : List ProxyEvent}

theorem isTerminal_of_reports {event : ProxyEvent} (reports : event.reports ok = true) :
    event.isTerminal = true := by
  cases event <;> first | rfl | cases reports

/-- A log without a terminal event does not report an end. -/
theorem not_reportsEnd (none : ∀ event ∈ log, event.isTerminal = false) : ¬ReportsEnd ok log := by
  rintro ⟨before, metrics, last, rfl, reports, -⟩
  have terminal := isTerminal_of_reports reports
  rw [none last (by simp)] at terminal
  cases terminal

theorem countP_terminal_of_quiet (quiet : ∀ event ∈ log, event.isTerminal = false) :
    log.countP isTerminal = 0 :=
  List.countP_eq_zero.mpr (by simpa using quiet)

theorem ReportsEnd.countP_terminal (ends : ReportsEnd ok log) : log.countP isTerminal = 1 := by
  obtain ⟨before, metrics, last, rfl, reports, quiet⟩ := ends
  have snapshot : (metricsSnapshot metrics).isTerminal = false := rfl
  rw [List.countP_append, countP_terminal_of_quiet quiet]
  simp [snapshot, isTerminal_of_reports reports]

/-- Events that are not terminal keep a log without terminal events. -/
theorem notTerminal_append {events : List ProxyEvent}
    (quiet : ∀ event ∈ log, event.isTerminal = false)
    (more : ∀ event ∈ events, event.isTerminal = false) :
    ∀ event ∈ log ++ events, event.isTerminal = false := by
  intro event listed
  exact (List.mem_append.mp listed).elim (quiet event) (more event)

/-! ## What is opened and closed -/

def connectionMark : ProxyEvent → Option (Nat × Mark UInt64)
  | .connectionStarted connection connectionId => some (connection, .opened connectionId)
  | .connectionFinished connection connectionId _ => some (connection, .closed connectionId)
  | _ => none

def streamMark : ProxyEvent → Option ((Nat × Nat) × Mark UInt64)
  | .streamStarted connection stream connectionId =>
    some ((connection, stream), .opened connectionId)
  | .streamFinished connection stream connectionId _ =>
    some ((connection, stream), .closed connectionId)
  | _ => none

/-! ## What the observer makes of it -/

/-- What an observation holds about one kind of lifecycle. -/
structure LifecycleView where
  started : Nat
  finished : Nat
  balance : Table Nat Int
  deriving DecidableEq

namespace LifecycleView

def empty : LifecycleView := ⟨0, 0, ∅⟩

/-- A view in which nothing is open. -/
def Settled (view : LifecycleView) : Prop :=
  view.started = view.finished ∧ hasNonzeroBalance view.balance = false

variable {K : Type}

/-- What an event does to a view. -/
def apply (view : LifecycleView) : Option (K × Mark UInt64) → LifecycleView
  | none => view
  | some (_, .opened label) =>
    { view with
      started := view.started + 1
      balance := adjustBalance view.balance label.toNat 1 }
  | some (_, .closed label) =>
    { view with
      finished := view.finished + 1
      balance := adjustBalance view.balance label.toNat (-1) }

end LifecycleView

def ProxyRoleObservation.connections (role : ProxyRoleObservation) : LifecycleView :=
  ⟨role.connectionsStarted, role.connectionsFinished, role.connectionBalance⟩

def ProxyRoleObservation.streams (role : ProxyRoleObservation) : LifecycleView :=
  ⟨role.streamsStarted, role.streamsFinished, role.streamBalance⟩

theorem level_known (event : ProxyEvent) :
    some event.level ∈ [some "info", some "warn", some "error"] := by
  have ifWarn (warned : Prop) [Decidable warned] : some (if warned then "info" else "warn") ∈
      [some "info", some "warn", some "error"] := by
    split <;> simp
  cases event with
  | connectionFinished connection connectionId reason =>
    show some (if reason = _ then _ else if reason = _ then _ else _) ∈ _
    split
    · simp
    · split <;> simp
  | connectionFailed => exact ifWarn _
  | streamFinished => exact ifWarn _
  | pathChanged connectionId change =>
    show some (if change = _ then _ else _) ∈ _
    split <;> simp
  | connectionRejected | streamRejected | pathEventsLagged | shutdownForced =>
    exact .tail _ (.head _)
  | connectionTaskFailed | streamTaskFailed | runtimeFailed => exact .tail _ (.tail _ (.head _))
  | _ => exact .head _

@[simp] theorem asU64?_word (word : UInt64) : (Json.num word.toNat).asU64? = some word.toNat :=
  if_pos word.toNat_lt

section Record

variable (role : ProxyRole) (time : UInt64) (event : ProxyEvent)

theorem record_schema : Record.str? (event.record role time) "schema" = some proxyEventSchema := rfl

theorem record_time : Record.u64? (event.record role time) "ts_unix_ms" = some time.toNat :=
  asU64?_word time

theorem record_level : Record.str? (event.record role time) "level" = some event.level := rfl

theorem record_role : Record.str? (event.record role time) "role" = some role.name := rfl

theorem record_event : Record.str? (event.record role time) "event" = some event.name := rfl

end Record

/-- A record of a role is an event of that role. -/
theorem ingestValue_record (observation : ProxyObservation) (role : ProxyRole) (time : UInt64)
    (event : ProxyEvent) :
    (observation.ingestValue (.obj (event.record role time))).role role =
      (ingestRoleEvent (observation.role role) event.name (event.record role time)).getD
        (observation.role role) := by
  have known : ¬(Record.u64? (event.record role time) "ts_unix_ms" = none ∨
      Record.str? (event.record role time) "level" ∉ [some "info", some "warn", some "error"]) := by
    rw [record_time, record_level, not_or, not_not]
    exact ⟨nofun, level_known event⟩
  have named : (some role.name).bind ProxyRole.ofName? = some role := by cases role <;> rfl
  simp only [ProxyObservation.ingestValue, Json.asObject?, record_schema, ne_eq,
    not_true_eq_false, if_false, if_neg known, record_role, named, record_event]
  cases ingestRoleEvent (observation.role role) event.name (event.record role time) with
  | none => cases role <;> rfl
  | some after => cases role <;> rfl

/-- An event that starts or ends no lifecycle of a kind leaves what is held about it. -/
theorem ingestRoleEvent_views (before : ProxyRoleObservation) (event : String) (record : Record) :
    (event ≠ "connection_started" → event ≠ "connection_finished" →
      ((ingestRoleEvent before event record).getD before).connections = before.connections) ∧
    (event ≠ "stream_started" → event ≠ "stream_finished" →
      ((ingestRoleEvent before event record).getD before).streams = before.streams) := by
  cases taken : ingestRoleEvent before event record with
  | none => exact ⟨fun _ _ => rfl, fun _ _ => rfl⟩
  | some after =>
    unfold ingestRoleEvent at taken
    split at taken
    all_goals
      simp only [Option.bind_eq_bind, Option.bind_eq_some_iff, Option.pure_def,
        Option.some.injEq] at taken
      first
      | obtain ⟨_, _, rfl⟩ := taken
      | obtain ⟨_, _, _, _, rfl⟩ := taken
      constructor
      all_goals
        intro notStarted notFinished
        first
        | rfl
        | exact absurd rfl notStarted
        | exact absurd rfl notFinished

theorem ingestValue_views (observation : ProxyObservation) (role : ProxyRole) (time : UInt64)
    (event : ProxyEvent) :
    ((observation.ingestValue (.obj (event.record role time))).role role).connections =
        (observation.role role).connections.apply (connectionMark event) ∧
      ((observation.ingestValue (.obj (event.record role time))).role role).streams =
        (observation.role role).streams.apply (streamMark event) := by
  rw [ingestValue_record]
  generalize observation.role role = before
  obtain ⟨connections, streams⟩ :=
    ingestRoleEvent_views before event.name (event.record role time)
  cases event with
  | connectionStarted connection connectionId =>
    have id : Record.u64? ((connectionStarted connection connectionId).record role time)
        "connection_id" = some connectionId.toNat := asU64?_word connectionId
    refine ⟨?_, streams (by simp [name]) (by simp [name])⟩
    simp only [name, ingestRoleEvent, id]
    rfl
  | connectionFinished connection connectionId reason =>
    have id : Record.u64? ((connectionFinished connection connectionId reason).record role time)
        "connection_id" = some connectionId.toNat := asU64?_word connectionId
    have why : Record.str? ((connectionFinished connection connectionId reason).record role time)
        "reason" = some reason := rfl
    refine ⟨?_, streams (by simp [name]) (by simp [name])⟩
    simp only [name, ingestRoleEvent, id, why]
    rfl
  | streamStarted connection stream connectionId =>
    have id : Record.u64? ((streamStarted connection stream connectionId).record role time)
        "connection_id" = some connectionId.toNat := asU64?_word connectionId
    refine ⟨connections (by simp [name]) (by simp [name]), ?_⟩
    simp only [name, ingestRoleEvent, id]
    rfl
  | streamFinished connection stream connectionId reason =>
    have id : Record.u64? ((streamFinished connection stream connectionId reason).record role time)
        "connection_id" = some connectionId.toNat := asU64?_word connectionId
    have why : Record.str? ((streamFinished connection stream connectionId reason).record role time)
        "reason" = some reason := rfl
    refine ⟨connections (by simp [name]) (by simp [name]), ?_⟩
    simp only [name, ingestRoleEvent, id, why]
    rfl
  | _ =>
    simp only [name] at connections streams
    exact ⟨connections (by simp) (by simp), streams (by simp) (by simp)⟩

/-! ## A log with all lifecycles closed -/

/-- The records of a log, each at some time. -/
def RecordsOf (role : ProxyRole) (log : List ProxyEvent) (lines : List Json) : Prop :=
  List.Forall₂ (fun event line => ∃ time, line = .obj (event.record role time)) log lines

variable {log : List ProxyEvent}

theorem observed_views {role : ProxyRole} {lines : List Json} (records : RecordsOf role log lines)
    (observation : ProxyObservation) :
    ((lines.foldl ProxyObservation.ingestValue observation).role role).connections =
        log.foldl (fun view event => view.apply (connectionMark event))
          (observation.role role).connections ∧
      ((lines.foldl ProxyObservation.ingestValue observation).role role).streams =
        log.foldl (fun view event => view.apply (streamMark event))
          (observation.role role).streams := by
  induction records generalizing observation with
  | nil => exact ⟨rfl, rfl⟩
  | cons isRecord _ ih =>
    obtain ⟨time, rfl⟩ := isRecord
    obtain ⟨connections, streams⟩ := ingestValue_views observation role time _
    rw [List.foldl_cons, List.foldl_cons, List.foldl_cons, ← connections, ← streams]
    exact ih _

section Fold

variable {K : Type} (mark : ProxyEvent → Option (K × Mark UInt64))

/-- A view counts what is opened and closed, and balances it for each label. -/
theorem foldl_apply (log : List ProxyEvent) (view : LifecycleView) :
    (log.foldl (fun view event => view.apply (mark event)) view).started =
        view.started + (openedIn mark log).length ∧
      (log.foldl (fun view event => view.apply (mark event)) view).finished =
        view.finished + (closedIn mark log).length ∧
      ∀ key, balanceOf (log.foldl (fun view event => view.apply (mark event)) view).balance key =
        balanceOf view.balance key +
          ((openedIn mark log).countP fun thing => thing.2.toNat = key) -
          ((closedIn mark log).countP fun thing => thing.2.toNat = key) := by
  induction log generalizing view with
  | nil => exact ⟨rfl, rfl, fun key => by simp [openedIn, closedIn]⟩
  | cons event log ih =>
    obtain ⟨started, finished, balance⟩ := ih (view.apply (mark event))
    rw [List.foldl_cons, started, finished]
    simp only [balance, openedIn, closedIn, List.filterMap_cons, openedBy, closedBy]
    rcases mark event with _ | ⟨thing, label | label⟩
    · exact ⟨rfl, rfl, fun key => rfl⟩
    · refine ⟨?_, rfl, fun key => ?_⟩
      · simp only [LifecycleView.apply, List.length_cons]
        omega
      · simp only [LifecycleView.apply, balanceOf_adjustBalance, List.countP_cons,
          decide_eq_true_eq]
        split_ifs <;> push_cast <;> omega
    · refine ⟨rfl, ?_, fun key => ?_⟩
      · simp only [LifecycleView.apply, List.length_cons]
        omega
      · simp only [LifecycleView.apply, balanceOf_adjustBalance, List.countP_cons,
          decide_eq_true_eq]
        split_ifs <;> push_cast <;> omega

end Fold

theorem settled_of_paired {K : Type} [DecidableEq K]
    {mark : ProxyEvent → Option (K × Mark UInt64)} (paired : Paired mark log) :
    (log.foldl (fun view event => view.apply (mark event)) LifecycleView.empty).Settled := by
  obtain ⟨started, finished, balance⟩ := foldl_apply mark log .empty
  have same := paired.perm
  constructor
  · rw [started, finished, same.length_eq]
    rfl
  · rw [Bool.eq_false_iff, Ne, hasNonzeroBalance_iff]
    rintro ⟨key, nonzero⟩
    apply nonzero
    rw [balance, same.countP_eq]
    simp [LifecycleView.empty, balanceOf]

/-- An observer that reads the records of a log with closed lifecycles finds nothing open. -/
theorem observed_settled {role : ProxyRole} {lines : List Json} {seen : ProxyObservation}
    (records : RecordsOf role log lines) (noConnection : (seen.role role).connections = .empty)
    (noStream : (seen.role role).streams = .empty) (connections : Paired connectionMark log)
    (streams : Paired streamMark log) :
    ((lines.foldl ProxyObservation.ingestValue seen).role role).connections.Settled ∧
      ((lines.foldl ProxyObservation.ingestValue seen).role role).streams.Settled := by
  obtain ⟨connectionView, streamView⟩ := observed_views records seen
  rw [connectionView, streamView, noConnection, noStream]
  exact ⟨settled_of_paired connections, settled_of_paired streams⟩

theorem mem_violationIf {found : Prop} [Decidable found] {name kind violation : String} :
    violation ∈ violationIf found name kind ↔ found ∧ violation = name ++ "." ++ kind := by
  unfold violationIf
  split <;> simp_all

/-- Nothing is said about lifecycles when both kinds are settled. -/
theorem evaluateRole_settled {role : ProxyRoleObservation} (name : String) (required : Bool)
    (policy : ProxyHealthPolicy) (connections : role.connections.Settled)
    (streams : role.streams.Settled) :
    name ++ "." ++ "connection_lifecycle_open" ∉ evaluateRole name role required policy ∧
      name ++ "." ++ "stream_lifecycle_open" ∉ evaluateRole name role required policy := by
  have noConnection : ¬(role.connectionsStarted ≠ role.connectionsFinished ∨
      hasNonzeroBalance role.connectionBalance = true) := by
    rw [not_or, not_not, Bool.not_eq_true]
    exact connections
  have noStream : ¬(role.streamsStarted ≠ role.streamsFinished ∨
      hasNonzeroBalance role.streamBalance = true) := by
    rw [not_or, not_not, Bool.not_eq_true]
    exact streams
  unfold evaluateRole
  by_cases observed : decide (role ≠ {}) = false
  · simp only [if_pos observed, mem_violationIf, String.append_right_inj, String.reduceEq,
      and_false, not_false_eq_true, and_self]
  · simp only [if_neg observed]
    cases role.latestMetrics with
    | none =>
      simp only [List.mem_append, List.mem_ite_nil_right, mem_violationIf, noConnection, noStream,
        String.append_right_inj, String.reduceEq, List.mem_singleton, and_false, false_and,
        or_self, not_false_eq_true, and_self]
    | some metrics =>
      simp only [List.mem_append, List.mem_ite_nil_right, mem_violationIf, noConnection, noStream,
        String.append_right_inj, String.reduceEq, and_false, false_and, or_self,
        not_false_eq_true, and_self]

/-- A policy that asks for closed lifecycles finds an open stream. -/
theorem evaluateRole_open {role : ProxyRoleObservation} (name : String) (required : Bool)
    {policy : ProxyHealthPolicy} (strict : policy.requireClosedLifecycles = true)
    (unsettled : role.streamsStarted ≠ role.streamsFinished) :
    name ++ "." ++ "stream_lifecycle_open" ∈ evaluateRole name role required policy := by
  have observed : ¬decide (role ≠ {}) = false := by
    rw [decide_eq_false_iff_not, not_not]
    rintro rfl
    exact unsettled rfl
  unfold evaluateRole
  simp only [if_neg observed, if_pos strict]
  cases role.latestMetrics with
  | none => simp only [List.mem_append, mem_violationIf, unsettled, ne_eq, not_false_eq_true,
      true_or, true_and, or_true]
  | some metrics => simp only [List.mem_append, mem_violationIf, unsettled, ne_eq,
      not_false_eq_true, true_or, true_and, or_true]

end FlowWeave.Proxy
