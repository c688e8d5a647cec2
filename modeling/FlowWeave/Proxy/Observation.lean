/-
# Proxy.Observation — what the observer counts and when it reports a healthy run

The observer reads the events that a proxy's client and server write, one record to a
line, and keeps counters for each role (`ProxyObservation.ingestLine`). Two of its tables
are balances: a connection or a stream that starts adds one under the connection's id and
one that finishes takes one away (`adjustBalance`). `ProxyObservation.evaluate` compares the
counters with a policy and names what it finds wrong.

Parsing a text as JSON is a parameter. The counters are naturals. A record is the list of
its fields with no key twice; a number that is no `u64` stands as `null`, since the observer
only ever asks whether a number is one.

`balanceOf_adjustBalance` says what one event does to a balance, with zero for a key that the
table does not hold, and `hasNonzeroBalance_iff` that a table is clear exactly when every
balance is zero.
-/
import Mathlib.Data.List.DropRight
import FlowWeave.Theory.Json
import FlowWeave.Theory.MachineInt
import FlowWeave.Theory.Table

namespace FlowWeave.Proxy

set_option autoImplicit false

open Theory Theory.MachineInt

def proxyEventSchema : String := "flowweave.runtime.v1"

def maxProxyEventLineBytes : Nat := 64 * 1024

structure ProxyMetricsSnapshot where
  activeConnections : Nat
  totalConnections : Nat
  connectionRejects : Nat
  activeStreams : Nat
  totalStreams : Nat
  streamRejects : Nat
  dnsTimeouts : Nat
  handshakeTimeouts : Nat
  requestTimeouts : Nat
  streamOpenTimeouts : Nat
  upstreamConnectTimeouts : Nat
  upstreamErrors : Nat
  uploadBytes : Nat
  downloadBytes : Nat
  gracefulShutdowns : Nat
  forcedShutdowns : Nat
  deriving DecidableEq, Repr

/-! ## Balances -/

/-- What the table says about a key, with zero for one it does not hold. -/
def balanceOf (balances : Table Nat Int) (key : Nat) : Int := (balances.lookup key).getD 0

/-- `balances.entry(key).or_default()` moved by `delta`; an entry that comes to zero is
removed. -/
def adjustBalance (balances : Table Nat Int) (key : Nat) (delta : Int) : Table Nat Int :=
  if balanceOf balances key + delta = 0 then balances.erase key
  else balances.insert key (balanceOf balances key + delta)

def hasNonzeroBalance (balances : Table Nat Int) : Bool :=
  balances.entries.any fun entry => entry.2 ≠ 0

theorem balanceOf_adjustBalance (balances : Table Nat Int) (key other : Nat) (delta : Int) :
    balanceOf (adjustBalance balances key delta) other =
      balanceOf balances other + if other = key then delta else 0 := by
  unfold adjustBalance
  by_cases same : other = key
  · subst same
    rw [if_pos rfl]
    split_ifs with cleared
    · rw [balanceOf, AList.lookup_erase, Option.getD_none, cleared]
    · rw [balanceOf, AList.lookup_insert, Option.getD_some]
  · rw [if_neg same, add_zero]
    split_ifs with cleared
    · rw [balanceOf, AList.lookup_erase_ne same, balanceOf]
    · rw [balanceOf, AList.lookup_insert_ne same, balanceOf]

/-- A table is clear exactly when no key has a balance. -/
theorem hasNonzeroBalance_iff {balances : Table Nat Int} :
    hasNonzeroBalance balances = true ↔ ∃ key, balanceOf balances key ≠ 0 := by
  simp only [hasNonzeroBalance, List.any_eq_true, decide_eq_true_eq]
  constructor
  · rintro ⟨⟨key, balance⟩, listed, nonzero⟩
    refine ⟨key, ?_⟩
    rwa [balanceOf, Table.lookup_eq_some_iff.mpr listed]
  · rintro ⟨key, nonzero⟩
    unfold balanceOf at nonzero
    cases found : balances.lookup key with
    | none => simp [found] at nonzero
    | some balance =>
      rw [found] at nonzero
      exact ⟨⟨key, balance⟩, Table.lookup_eq_some_iff.mp found, nonzero⟩

/-! ## The counters of a role -/

structure ProxyRoleObservation where
  runtimeStarted : Nat := 0
  startupFailed : Nat := 0
  runtimeFailed : Nat := 0
  credentialReloads : Nat := 0
  credentialReloadFailures : Nat := 0
  connectionFailures : Nat := 0
  streamFailures : Nat := 0
  timeoutEvents : Nat := 0
  upstreamErrorEvents : Nat := 0
  connectionsStarted : Nat := 0
  connectionsFinished : Nat := 0
  streamsStarted : Nat := 0
  streamsFinished : Nat := 0
  connectionRejects : Nat := 0
  streamRejects : Nat := 0
  pathChanges : Nat := 0
  metricsSnapshots : Nat := 0
  shutdownStarted : Nat := 0
  shutdownForced : Nat := 0
  shutdownComplete : Nat := 0
  forcedShutdownCompletions : Nat := 0
  taskFailures : Nat := 0
  pathEventLagReports : Nat := 0
  unknownEvents : Nat := 0
  latestMetrics : Option ProxyMetricsSnapshot := none
  connectionBalance : Table Nat Int := ∅
  streamBalance : Table Nat Int := ∅
  deriving DecidableEq

/-- The fields of a record. -/
abbrev Record := List (String × Json)

namespace Record

def str? (record : Record) (key : String) : Option String := (record.lookup key).bind Json.asStr?

def u64? (record : Record) (key : String) : Option Nat := (record.lookup key).bind Json.asU64?

def bool? (record : Record) (key : String) : Option Bool := (record.lookup key).bind Json.asBool?

def hasString (record : Record) (key : String) : Bool := (record.str? key).isSome

def hasU64 (record : Record) (key : String) : Bool := (record.u64? key).isSome

end Record

def isTimeoutReason (reason : String) : Bool :=
  reason ∈ ["dns_timeout", "handshake_timeout", "handshake_confirmation_timeout",
    "request_timeout", "request_negotiation_timeout", "stream_open_timeout",
    "upstream_connect_timeout"]

def isUpstreamErrorReason (reason : String) : Bool :=
  reason ∈ ["upstream_connect_failed", "upstream_connect_timeout", "server_rejected_upstream"]

def parseMetrics (record : Record) : Option ProxyMetricsSnapshot := do
  pure {
    activeConnections := ← record.u64? "active_connections"
    totalConnections := ← record.u64? "total_connections"
    connectionRejects := ← record.u64? "connection_rejects"
    activeStreams := ← record.u64? "active_streams"
    totalStreams := ← record.u64? "total_streams"
    streamRejects := ← record.u64? "stream_rejects"
    dnsTimeouts := ← record.u64? "dns_timeouts"
    handshakeTimeouts := ← record.u64? "handshake_timeouts"
    requestTimeouts := ← record.u64? "request_timeouts"
    streamOpenTimeouts := ← record.u64? "stream_open_timeouts"
    upstreamConnectTimeouts := ← record.u64? "upstream_connect_timeouts"
    upstreamErrors := ← record.u64? "upstream_errors"
    uploadBytes := ← record.u64? "upload_bytes"
    downloadBytes := ← record.u64? "download_bytes"
    gracefulShutdowns := ← record.u64? "graceful_shutdowns"
    forcedShutdowns := ← record.u64? "forced_shutdowns" }

/-- One event of a role. The source returns `false` before it has changed anything when the
record lacks a field that the event must have; that is `none`. -/
def ingestRoleEvent (role : ProxyRoleObservation) (event : String) (record : Record) :
    Option ProxyRoleObservation :=
  match event with
  | "runtime_started" => do
    guard (record.hasString "listen" && record.hasString "transport")
    pure { role with runtimeStarted := role.runtimeStarted + 1 }
  | "startup_failed" => do
    let reason ← record.str? "reason"
    pure { role with
      startupFailed := role.startupFailed + 1
      timeoutEvents := role.timeoutEvents + (isTimeoutReason reason).toNat }
  | "runtime_failed" => do
    guard (record.hasString "reason")
    pure { role with runtimeFailed := role.runtimeFailed + 1 }
  | "credentials_reloaded" => do
    guard (record.str? "kind" = some "token" ∧
      (record.u64? "accepted_token_count" = some 1 ∨
        record.u64? "accepted_token_count" = some 2))
    pure { role with credentialReloads := role.credentialReloads + 1 }
  | "credentials_reload_failed" => do
    guard (record.str? "kind" = some "token" ∧
      record.str? "reason" = some "token_reload_failed")
    pure { role with credentialReloadFailures := role.credentialReloadFailures + 1 }
  | "connection_started" => do
    let connectionId ← record.u64? "connection_id"
    pure { role with
      connectionsStarted := role.connectionsStarted + 1
      connectionBalance := adjustBalance role.connectionBalance connectionId 1 }
  | "connection_finished" => do
    let reason ← record.str? "reason"
    let connectionId ← record.u64? "connection_id"
    pure { role with
      connectionsFinished := role.connectionsFinished + 1
      connectionBalance := adjustBalance role.connectionBalance connectionId (-1)
      connectionFailures := role.connectionFailures +
        (decide (reason ∉ ["shutdown", "shutdown_forced", "peer_closed"])).toNat }
  | "stream_started" => do
    let connectionId ← record.u64? "connection_id"
    pure { role with
      streamsStarted := role.streamsStarted + 1
      streamBalance := adjustBalance role.streamBalance connectionId 1 }
  | "stream_finished" => do
    let reason ← record.str? "reason"
    let connectionId ← record.u64? "connection_id"
    pure { role with
      streamsFinished := role.streamsFinished + 1
      streamBalance := adjustBalance role.streamBalance connectionId (-1)
      streamFailures := role.streamFailures + (reason != "completed").toNat
      timeoutEvents := role.timeoutEvents + (isTimeoutReason reason).toNat
      upstreamErrorEvents := role.upstreamErrorEvents + (isUpstreamErrorReason reason).toNat }
  | "connection_rejected" => do
    guard (record.hasString "reason")
    pure { role with connectionRejects := role.connectionRejects + 1 }
  | "stream_rejected" => do
    guard (record.hasString "reason")
    pure { role with streamRejects := role.streamRejects + 1 }
  | "path_changed" => do
    guard (record.hasU64 "connection_id" && record.hasString "change")
    pure { role with pathChanges := role.pathChanges + 1 }
  | "metrics_snapshot" => do
    let metrics ← parseMetrics record
    pure { role with
      metricsSnapshots := role.metricsSnapshots + 1
      latestMetrics := some metrics }
  | "shutdown_started" => do
    guard (record.hasU64 "drain_timeout_ms")
    pure { role with shutdownStarted := role.shutdownStarted + 1 }
  | "shutdown_forced" => do
    guard (record.hasString "reason")
    pure { role with shutdownForced := role.shutdownForced + 1 }
  | "shutdown_complete" => do
    let forced ← record.bool? "forced"
    guard (record.hasU64 "drain_ms")
    pure { role with
      shutdownComplete := role.shutdownComplete + 1
      forcedShutdownCompletions := role.forcedShutdownCompletions + forced.toNat }
  | "connection_task_failed" | "stream_task_failed" => do
    guard (record.hasString "reason")
    pure { role with taskFailures := role.taskFailures + 1 }
  | "path_events_lagged" => do
    guard (record.hasU64 "connection_id" && record.hasU64 "lost_events")
    pure { role with pathEventLagReports := role.pathEventLagReports + 1 }
  | "connection_failed" => do
    let reason ← record.str? "reason"
    pure { role with
      connectionFailures := role.connectionFailures + (reason != "shutdown").toNat
      timeoutEvents := role.timeoutEvents + (isTimeoutReason reason).toNat }
  | _ => some { role with unknownEvents := role.unknownEvents + 1 }

/-! ## Lines -/

structure ProxyObservation where
  lines : Nat := 0
  emptyLines : Nat := 0
  validEvents : Nat := 0
  malformedLines : Nat := 0
  oversizedLines : Nat := 0
  schemaMismatches : Nat := 0
  invalidEvents : Nat := 0
  client : ProxyRoleObservation := {}
  server : ProxyRoleObservation := {}
  deriving DecidableEq

inductive ProxyRole where
  | client
  | server
  deriving DecidableEq, Repr

def ProxyRole.name : ProxyRole → String
  | .client => "client"
  | .server => "server"

def ProxyRole.ofName? : String → Option ProxyRole
  | "client" => some .client
  | "server" => some .server
  | _ => none

namespace ProxyObservation

def role (observation : ProxyObservation) : ProxyRole → ProxyRoleObservation
  | .client => observation.client
  | .server => observation.server

def setRole (observation : ProxyObservation) (after : ProxyRoleObservation) :
    ProxyRole → ProxyObservation
  | .client => { observation with client := after }
  | .server => { observation with server := after }

def countInvalid (observation : ProxyObservation) : ProxyObservation :=
  { observation with invalidEvents := observation.invalidEvents + 1 }

/-- The part of `ingest_line` after the text is parsed. -/
def ingestValue (observation : ProxyObservation) (value : Json) : ProxyObservation :=
  match value.asObject? with
  | none => observation.countInvalid
  | some record =>
    match Record.str? record "schema" with
    | none => observation.countInvalid
    | some schema =>
      if schema ≠ proxyEventSchema then
        { observation with schemaMismatches := observation.schemaMismatches + 1 }
      else if Record.u64? record "ts_unix_ms" = none ∨
          Record.str? record "level" ∉ [some "info", some "warn", some "error"] then
        observation.countInvalid
      else
        match (Record.str? record "role").bind ProxyRole.ofName? with
        | none => observation.countInvalid
        | some role =>
          match Record.str? record "event" with
          | none => observation.countInvalid
          | some event =>
            let valid := { observation with validEvents := observation.validEvents + 1 }
            match ingestRoleEvent (observation.role role) event record with
            | none => valid.countInvalid
            | some after => valid.setRole after role

end ProxyObservation

/-- `std::str::from_utf8`. -/
def fromUtf8? (bytes : List UInt8) : Option String := String.fromUTF8? ⟨bytes.toArray⟩

/-- The characters with the Unicode property `White_Space`. -/
def isWhiteSpace (char : Char) : Bool :=
  let code := char.toNat
  (0x09 ≤ code && code ≤ 0x0d) || code == 0x20 || code == 0x85 || code == 0xa0 ||
    code == 0x1680 || (0x2000 ≤ code && code ≤ 0x200a) || code == 0x2028 || code == 0x2029 ||
    code == 0x202f || code == 0x205f || code == 0x3000

def trim (text : String) : String :=
  String.ofList ((text.toList.dropWhile isWhiteSpace).rdropWhile isWhiteSpace)

/-- `ingest_line`, with `parse` for `serde_json::from_str`. -/
def ProxyObservation.ingestLine (parse : String → Option Json) (observation : ProxyObservation)
    (line : String) : ProxyObservation :=
  let counted := { observation with lines := observation.lines + 1 }
  if line.utf8ByteSize > maxProxyEventLineBytes then
    { counted with oversizedLines := counted.oversizedLines + 1 }
  else
    let line := trim line
    if line.isEmpty then { counted with emptyLines := counted.emptyLines + 1 }
    else
      match parse line with
      | none => { counted with malformedLines := counted.malformedLines + 1 }
      | some value => counted.ingestValue value

/-! ## Health -/

structure ProxyHealthPolicy where
  requireClient : Bool
  requireServer : Bool
  requireCleanShutdown : Bool
  requireFinalInactive : Bool
  requireClosedLifecycles : Bool
  maxRejections : Nat
  maxTimeouts : Nat
  maxUpstreamErrors : Nat
  maxForcedShutdowns : Nat
  maxRuntimeFailures : Nat
  deriving DecidableEq, Repr

def ProxyHealthPolicy.strictBoth : ProxyHealthPolicy :=
  ⟨true, true, true, true, true, 0, 0, 0, 0, 0⟩

def saturatingSum (values : List Nat) : Nat := values.foldl (saturatingAdd u64Max) 0

/-- `violations.push(..)` under a condition. -/
def violationIf (found : Prop) [Decidable found] (name violation : String) : List String :=
  if found then [name ++ "." ++ violation] else []

def evaluateRole (name : String) (role : ProxyRoleObservation) (required : Bool)
    (policy : ProxyHealthPolicy) : List String :=
  let observed := decide (role ≠ {})
  let missing := violationIf ((required || observed) = true ∧ role.runtimeStarted = 0) name
    "missing_runtime"
  if observed = false then missing
  else
    let runtimeFailures := saturatingSum [role.startupFailed, role.runtimeFailed,
      role.credentialReloadFailures, role.taskFailures, role.pathEventLagReports,
      role.connectionFailures, role.streamFailures]
    let lifecycles :=
      if policy.requireClosedLifecycles then
        violationIf (role.connectionsStarted ≠ role.connectionsFinished ∨
            hasNonzeroBalance role.connectionBalance = true) name "connection_lifecycle_open" ++
          violationIf (role.streamsStarted ≠ role.streamsFinished ∨
            hasNonzeroBalance role.streamBalance = true) name "stream_lifecycle_open"
      else []
    let shutdowns :=
      if policy.requireCleanShutdown then
        violationIf (role.shutdownComplete ≠ role.runtimeStarted) name "shutdown_lifecycle_open" ++
          violationIf (role.shutdownStarted ≠ role.shutdownComplete) name
            "shutdown_sequence_invalid"
      else []
    let events := missing ++
      violationIf (policy.maxRuntimeFailures < runtimeFailures) name "runtime_failures_exceeded" ++
      lifecycles ++ shutdowns
    let eventRejections := saturatingAdd u64Max role.connectionRejects role.streamRejects
    let eventForced := max role.shutdownForced role.forcedShutdownCompletions
    match role.latestMetrics with
    | none =>
      events ++ violationIf (policy.maxRejections < eventRejections) name "rejections_exceeded" ++
        [name ++ "." ++ "missing_metrics"]
    | some metrics =>
      let rejections := max eventRejections
        (saturatingAdd u64Max metrics.connectionRejects metrics.streamRejects)
      let inactive :=
        if policy.requireFinalInactive then
          violationIf (metrics.activeConnections ≠ 0) name "active_connections_nonzero" ++
            violationIf (metrics.activeStreams ≠ 0) name "active_streams_nonzero"
        else []
      let shutdownMetrics :=
        violationIf (policy.requireCleanShutdown = true ∧
          saturatingAdd u64Max metrics.gracefulShutdowns metrics.forcedShutdowns ≠ 1) name
          "shutdown_metrics_invalid"
      let timeouts := max role.timeoutEvents (saturatingSum [metrics.dnsTimeouts,
        metrics.handshakeTimeouts, metrics.requestTimeouts, metrics.streamOpenTimeouts,
        metrics.upstreamConnectTimeouts])
      events ++ violationIf (policy.maxRejections < rejections) name "rejections_exceeded" ++
        inactive ++ shutdownMetrics ++
        violationIf (policy.maxForcedShutdowns < max eventForced metrics.forcedShutdowns) name
          "forced_shutdowns_exceeded" ++
        violationIf (policy.maxTimeouts < timeouts) name "timeouts_exceeded" ++
        violationIf (policy.maxUpstreamErrors <
          max role.upstreamErrorEvents metrics.upstreamErrors) name "upstream_errors_exceeded"

/-- The violations of a report; the run is healthy when there is none. -/
def ProxyObservation.evaluate (observation : ProxyObservation) (policy : ProxyHealthPolicy) :
    List String :=
  (if observation.validEvents = 0 then ["no_valid_events"] else []) ++
    (if observation.malformedLines ≠ 0 then ["malformed_jsonl"] else []) ++
    (if observation.oversizedLines ≠ 0 then ["oversized_jsonl_line"] else []) ++
    (if observation.schemaMismatches ≠ 0 then ["schema_mismatch"] else []) ++
    (if observation.invalidEvents ≠ 0 then ["invalid_event"] else []) ++
    evaluateRole "client" observation.client policy.requireClient policy ++
    evaluateRole "server" observation.server policy.requireServer policy

end FlowWeave.Proxy
