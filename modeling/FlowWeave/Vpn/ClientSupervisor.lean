/-
# Vpn.ClientSupervisor — connecting, waiting and connecting again (`src/vpn_product_process.rs`)

`run_vpn_client_product_process` as a machine that is moved by what its selects see: signals,
reload requests, timers, events of the network and results of connection attempts. It has two
loops, one until the first connection and one after each loss of it; both attempt, and after a
failure both wait as `wait_for_client_retry` says. An event happens when it has been dealt with: a
reload request when it is answered, a failed attempt when its result is there.

A server that rejects a client may ask it to stay away for some seconds. Timers and events of
the network keep to that (`reconnectSchedule_minimum`). A reload does not: whatever it finds,
the wait is over (`waiting_reload_starts`). So the retry-after is kept in a run exactly when no
reload that leaves the credentials as they are comes before it is over (`retryAfter_kept_iff`).
-/
import FlowWeave.Vpn.DatagramRuntime
import FlowWeave.Vpn.NetworkEvent
import FlowWeave.Vpn.ProductEndpoint

namespace FlowWeave.Vpn

open Theory.MachineInt

set_option autoImplicit false

/-! ## Errors of an attempt -/

/-- Times are milliseconds of one monotonic clock. -/
def millisPerSecond : Nat := 1000

/-- The REJECT of a server, if that is what ended an attempt. -/
def VpnProductEndpointError.reject : VpnProductEndpointError → Option VpnReject
  | .productConnection (.clientSession (.rejected reject)) => some reject
  | _ => none

def endpointRetryAfter (error : VpnProductEndpointError) : Nat :=
  match error.reject with
  | some reject => reject.retryAfterSecs.toNat * millisPerSecond
  | none => 0

def clientSessionStartErrorIsRetryable : VpnSessionError → Bool
  | .streamOpenFailed => true
  | .streamAcceptFailed => true
  | .controlReadFailed => true
  | .controlWriteFailed => true
  | .controlFinishFailed => true
  | .controlTimeout => true
  | .rejected reject => reject.reason ≠ .unsupportedVersion && reject.reason ≠ .protocolViolation
  | _ => false

def clientConnectErrorIsRetryable : VpnProductEndpointError → Bool
  | .clientBind kind => kind ∈ [.addrInUse, .addrNotAvailable, .connectionAborted,
      .hostUnreachable, .interrupted, .networkDown, .networkUnreachable, .timedOut, .wouldBlock]
  | .dnsLookup kind => kind ∉ [.invalidInput, .invalidData, .permissionDenied, .unsupported]
  | .dnsTimeout => true
  | .noCompatibleServerAddress => true
  | .connectTimeout => true
  | .handshakeConfirmationFailed => true
  | .handshakeConfirmationTimeout => true
  | .pathOpenTimeout => true
  | .connectFailed error => error ∈ [.transportUnavailable, .peerClosed, .reset, .timedOut]
  | .pathOpen error => error ∈ [.remoteCidsExhausted, .validationFailed]
  | .productConnection (.clientSession error) => clientSessionStartErrorIsRetryable error
  | _ => false

/-- Why the packet bridge of a connection stopped. The kinds of device errors are not looked at. -/
inductive VpnPacketBridgeStopReason where
  | shutdownRequested
  | datagramRuntime (reason : VpnDatagramRuntimeStopReason)
  | deviceClosed
  | deviceReadFailed
  | deviceWriteFailed
  | workerFailed
  deriving DecidableEq, Repr

def clientConnectionIsRetryable : VpnPacketBridgeStopReason → Bool
  | .datagramRuntime reason => reason ∈ [.connectionClosed, .connectionFailed, .dataPathStale,
      .datagramSendFailed, .packetIdExhausted]
  | _ => false

def clientConnectionStoppedCleanly (endpointDrained : Bool) (reason : VpnPacketBridgeStopReason) :
    Bool :=
  endpointDrained && reason = .shutdownRequested

/-! ## Delays -/

def vpnClientActiveNetworkEventCoalesceDelay : Nat := 5 * millisPerSecond

def vpnClientReconnectInitialDelayMs : Nat := 250

def vpnClientReconnectMaxDelayMs : Nat := 30000

structure VpnClientReconnectBackoff where
  step : UInt32
  deriving DecidableEq, Repr

structure VpnClientRetrySchedule where
  timerDelay : Nat
  networkEventDelay : Nat
  deriving DecidableEq, Repr

def reconnectDelayFromSample (step : UInt32) (sample : UInt64) : Nat :=
  let multiplier := 2 ^ min step.toNat 31
  let base := min (saturatingMul u64Max vpnClientReconnectInitialDelayMs multiplier)
    vpnClientReconnectMaxDelayMs
  let jitterSpan := max (base / 4) 1
  let jitter := sample.toNat % (saturatingAdd u64Max jitterSpan 1)
  if base = vpnClientReconnectMaxDelayMs then base - jitter
  else min (saturatingAdd u64Max base jitter) vpnClientReconnectMaxDelayMs

def reconnectSchedule (randomizedDelay minimum : Nat) : VpnClientRetrySchedule where
  timerDelay := max randomizedDelay minimum
  networkEventDelay := max vpnClientReconnectInitialDelayMs minimum

def VpnClientReconnectBackoff.nextSchedule (backoff : VpnClientReconnectBackoff) (minimum : Nat)
    (sample : UInt64) : VpnClientRetrySchedule × VpnClientReconnectBackoff :=
  (reconnectSchedule (reconnectDelayFromSample backoff.step sample) minimum,
    ⟨UInt32.ofNat (saturatingAdd (2 ^ 32 - 1) backoff.step.toNat 1)⟩)

/-- Both ways out of a wait that no reload ends keep to the minimum. -/
theorem reconnectSchedule_minimum (randomizedDelay minimum : Nat) :
    minimum ≤ (reconnectSchedule randomizedDelay minimum).timerDelay ∧
      minimum ≤ (reconnectSchedule randomizedDelay minimum).networkEventDelay :=
  ⟨le_max_right _ _, le_max_right _ _⟩

/-! ## Reloading -/

inductive ClientCredentialReloadOutcome where
  | rejected
  | unchanged
  | changed
  deriving DecidableEq, Repr

section Supervisor

variable {Revision : Type} [DecidableEq Revision]

/-- `reload_client_credentials`, with the revision of what could be loaded. -/
def reloadClientCredentials (current : Revision) :
    Option Revision → ClientCredentialReloadOutcome × Revision
  | none => (.rejected, current)
  | some candidate => if candidate ≠ current then (.changed, candidate) else (.unchanged, current)

/-- `handle_client_reload_request`: a request that is not the expected one loads nothing. -/
def handleClientReloadRequest (current : Revision) (wellFormed : Bool)
    (candidate : Option Revision) : ClientCredentialReloadOutcome × Revision :=
  if wellFormed then reloadClientCredentials current candidate else (.rejected, current)

/-! ## The machine -/

inductive ConnectLoop where
  | startup
  | reconnect
  deriving DecidableEq, Repr

/-- Where the process is: in `wait_for_client_retry`, in a connection attempt, in the select of an
established connection, closing a connection for new credentials, or at its end. -/
inductive ClientPoint where
  | waiting (loop : ConnectLoop) (schedule : VpnClientRetrySchedule) (since : Nat)
  | connecting (loop : ConnectLoop)
  | active
  | closing
  | stopped
  deriving DecidableEq, Repr

structure ClientSupervisor (Revision : Type) where
  point : ClientPoint
  credentialRevision : Revision
  credentialActivationPending : Bool
  backoff : VpnClientReconnectBackoff
  networkEventMonitor : Bool
  lastNetworkPathRebind : Option Nat
  deriving DecidableEq

/-- What the process sees. A reload comes with the revision that it can load, a result of an
attempt with whether the packet pump has finished by then, an event of the network with whether a
rebind of the paths would succeed. `processFailed` is any error that ends the process by itself. -/
inductive SupervisorEvent (Revision : Type) where
  | hangup (candidate : Option Revision)
  | stopSignal
  | reloadRequest (wellFormed : Bool) (candidate : Option Revision)
  | pumpStopped
  | timer
  | networkEvent (event : VpnNetworkRecoveryEvent) (rebound : Bool)
  | networkMonitorFailed
  | connected (pumpFinished : Bool)
  | connectFailed (error : VpnProductEndpointError) (pumpFinished : Bool)
  | connectionStopped (reason : VpnPacketBridgeStopReason)
  | connectionClosed (endpointDrained : Bool) (reason : VpnPacketBridgeStopReason)
  | processFailed
  deriving DecidableEq

namespace ClientSupervisor

variable (supervisor : ClientSupervisor Revision) (now : Nat) (sample : UInt64)

/-- The process once its packet pump runs: it makes its first attempt. -/
def start (revision : Revision) (networkEventMonitor : Bool) : ClientSupervisor Revision where
  point := .connecting .startup
  credentialRevision := revision
  credentialActivationPending := false
  backoff := ⟨0⟩
  networkEventMonitor := networkEventMonitor
  lastNetworkPathRebind := none

def attempt (loop : ConnectLoop) : ClientSupervisor Revision :=
  { supervisor with point := .connecting loop }

def stop : ClientSupervisor Revision := { supervisor with point := .stopped }

/-- The wait before another attempt begins. -/
def beginWait (loop : ConnectLoop) (minimum : Nat) : ClientSupervisor Revision :=
  let (schedule, backoff) := supervisor.backoff.nextSchedule minimum sample
  { supervisor with point := .waiting loop schedule now, backoff }

/-- What a reload finds, if the event is one. -/
def reloaded : SupervisorEvent Revision → Option (ClientCredentialReloadOutcome × Revision)
  | .hangup candidate => some (reloadClientCredentials supervisor.credentialRevision candidate)
  | .reloadRequest wellFormed candidate =>
    some (handleClientReloadRequest supervisor.credentialRevision wellFormed candidate)
  | _ => none

/-- A reload takes effect. Changed credentials wait for the next connection. -/
def reload (result : ClientCredentialReloadOutcome × Revision) : ClientSupervisor Revision :=
  { supervisor with
    credentialRevision := result.2
    credentialActivationPending :=
      supervisor.credentialActivationPending || result.1 = .changed }

/-- An event during `wait_for_client_retry`. A reload of any outcome ends the wait. -/
def stepWaiting (loop : ConnectLoop) (schedule : VpnClientRetrySchedule) (since : Nat)
    (event : SupervisorEvent Revision) : Option (ClientSupervisor Revision) :=
  match event with
  | .hangup candidate =>
    some ((supervisor.reload
      (reloadClientCredentials supervisor.credentialRevision candidate)).attempt loop)
  | .reloadRequest wellFormed candidate =>
    some ((supervisor.reload
      (handleClientReloadRequest supervisor.credentialRevision wellFormed candidate)).attempt
        loop)
  | .timer => if since + schedule.timerDelay ≤ now then some (supervisor.attempt loop) else none
  | .networkEvent _ _ =>
    if supervisor.networkEventMonitor ∧ since + schedule.networkEventDelay ≤ now then
      some (supervisor.attempt loop)
    else none
  -- The select is entered again with the same timer, and without a monitor.
  | .networkMonitorFailed =>
    if supervisor.networkEventMonitor ∧ since + schedule.networkEventDelay ≤ now then
      some { supervisor with networkEventMonitor := false }
    else none
  | .stopSignal | .pumpStopped | .processFailed => some supervisor.stop
  | _ => none

/-- An event during an attempt. A reload gives the attempt up for another one. -/
def stepConnecting (loop : ConnectLoop) (event : SupervisorEvent Revision) :
    Option (ClientSupervisor Revision) :=
  match event with
  | .hangup candidate =>
    some ((supervisor.reload
      (reloadClientCredentials supervisor.credentialRevision candidate)).attempt loop)
  | .reloadRequest wellFormed candidate =>
    some ((supervisor.reload
      (handleClientReloadRequest supervisor.credentialRevision wellFormed candidate)).attempt
        loop)
  | .connected pumpFinished =>
    if pumpFinished then some supervisor.stop
    else some { supervisor with
      point := .active
      credentialActivationPending := false
      lastNetworkPathRebind := none }
  | .connectFailed error pumpFinished =>
    if !supervisor.credentialActivationPending && !clientConnectErrorIsRetryable error then
      some supervisor.stop
    else if loop = .reconnect && pumpFinished then some supervisor.stop
    else some (supervisor.beginWait now sample loop (endpointRetryAfter error))
  | .stopSignal | .processFailed => some supervisor.stop
  | _ => none

/-- The connection is given up for changed credentials only. -/
def closeIfChanged (result : ClientCredentialReloadOutcome × Revision) :
    ClientSupervisor Revision :=
  if result.1 = .changed then { supervisor.reload result with point := .closing }
  else supervisor.reload result

/-- An event of the network during a connection: its paths are bound again, unless a route came
or that has just been done. -/
def observeNetworkEvent (event : VpnNetworkRecoveryEvent) (rebound : Bool) :
    ClientSupervisor Revision :=
  let coalesced := supervisor.lastNetworkPathRebind.any
    fun last => now - last < vpnClientActiveNetworkEventCoalesceDelay
  if event = .routeAdded || coalesced || !rebound then supervisor
  else { supervisor with lastNetworkPathRebind := some now }

/-- An event of an established connection. -/
def stepActive (event : SupervisorEvent Revision) : Option (ClientSupervisor Revision) :=
  match event with
  | .hangup candidate =>
    some (supervisor.closeIfChanged
      (reloadClientCredentials supervisor.credentialRevision candidate))
  | .reloadRequest wellFormed candidate =>
    some (supervisor.closeIfChanged
      (handleClientReloadRequest supervisor.credentialRevision wellFormed candidate))
  | .connectionStopped reason =>
    if clientConnectionIsRetryable reason then
      some (ClientSupervisor.beginWait { supervisor with backoff := ⟨0⟩ } now sample .reconnect 0)
    else some supervisor.stop
  | .networkEvent event rebound =>
    if supervisor.networkEventMonitor then some (supervisor.observeNetworkEvent now event rebound)
    else none
  | .networkMonitorFailed =>
    if supervisor.networkEventMonitor then some { supervisor with networkEventMonitor := false }
    else none
  | .stopSignal | .pumpStopped | .processFailed => some supervisor.stop
  | _ => none

/-- The end of a connection that is given up: the next attempt does not wait. -/
def stepClosing (event : SupervisorEvent Revision) : Option (ClientSupervisor Revision) :=
  match event with
  | .connectionClosed endpointDrained reason =>
    if clientConnectionStoppedCleanly endpointDrained reason then
      some (ClientSupervisor.attempt { supervisor with backoff := ⟨0⟩ } .reconnect)
    else some supervisor.stop
  | _ => none

/-- One event, if the process can see it where it is. -/
def step (event : SupervisorEvent Revision) : Option (ClientSupervisor Revision) :=
  match supervisor.point with
  | .waiting loop schedule since => supervisor.stepWaiting now loop schedule since event
  | .connecting loop => supervisor.stepConnecting now sample loop event
  | .active => supervisor.stepActive now sample event
  | .closing => supervisor.stepClosing event
  | .stopped => none

end ClientSupervisor

/-! ## Runs -/

structure SupervisorTransition (Revision : Type) where
  now : Nat
  sample : UInt64
  event : SupervisorEvent Revision
  before : ClientSupervisor Revision
  after : ClientSupervisor Revision

namespace SupervisorTransition

variable (transition : SupervisorTransition Revision)

/-- The transition is one of the process. -/
def Legal : Prop :=
  transition.before.step transition.now transition.sample transition.event = some transition.after

/-- A connection attempt starts: nothing but its start leads to an attempt. -/
def Starts : Prop := ∃ loop, transition.after.point = .connecting loop

/-- An attempt ends with a REJECT, and the server asks to wait that long. -/
def rejectedFor : Option Nat :=
  match transition.event with
  | .connectFailed error _ =>
    error.reject.map fun reject => reject.retryAfterSecs.toNat * millisPerSecond
  | _ => none

/-- A reload that finds other credentials. -/
def Changes : Prop :=
  ∃ revision, transition.before.reloaded transition.event = some (.changed, revision)

/-- A reload that finds the same credentials, or none that can be used. -/
def ReloadsInVain : Prop :=
  ∃ outcome revision, transition.before.reloaded transition.event = some (outcome, revision) ∧
    outcome ≠ .changed

end SupervisorTransition

/-- The process from `supervisor` on: what it sees from time `now`, and where that leads. -/
inductive SupervisorRun :
    ClientSupervisor Revision → Nat → List (SupervisorTransition Revision) → Prop
  | nil (supervisor : ClientSupervisor Revision) (now : Nat) : SupervisorRun supervisor now []
  | cons {now : Nat} {transition : SupervisorTransition Revision}
      {rest : List (SupervisorTransition Revision)} :
      now ≤ transition.now → transition.Legal →
      SupervisorRun transition.after transition.now rest →
      SupervisorRun transition.before now (transition :: rest)

/-- `next` comes after a REJECT that asked for `delay`, and no attempt started between them. -/
structure FollowsReject (trace : List (SupervisorTransition Revision))
    (failure : SupervisorTransition Revision) (delay : Nat)
    (between : List (SupervisorTransition Revision)) (next : SupervisorTransition Revision) :
    Prop where
  split : ∃ earlier later, trace = earlier ++ failure :: (between ++ next :: later)
  rejected : failure.rejectedFor = some delay
  idle : ∀ transition ∈ between, ¬ transition.Starts

/-- The next attempt after a REJECT keeps to the retry-after, unless a reload up to it has changed
the credentials. -/
def KeepsRetryAfter (trace : List (SupervisorTransition Revision)) : Prop :=
  ∀ failure delay between next, FollowsReject trace failure delay between next → next.Starts →
    (∀ transition ∈ between ++ [next], ¬ transition.Changes) → failure.now + delay ≤ next.now

/-- No reload that changes nothing is made after a REJECT before its retry-after is over. -/
def VainReloadsAreLate (trace : List (SupervisorTransition Revision)) : Prop :=
  ∀ failure delay between next, FollowsReject trace failure delay between next →
    next.ReloadsInVain → failure.now + delay ≤ next.now

/-! ## A wait -/

/-- The supervisor waits since `since`, and only a reload can end that before `delay` is over. -/
def ClientSupervisor.Awaits (since delay : Nat) (supervisor : ClientSupervisor Revision) : Prop :=
  ∃ loop schedule, supervisor.point = .waiting loop schedule since ∧
    delay ≤ schedule.timerDelay ∧ delay ≤ schedule.networkEventDelay

namespace ClientSupervisor

variable {supervisor after : ClientSupervisor Revision} {now : Nat} {sample : UInt64}

omit [DecidableEq Revision] in
theorem beginWait_awaits (loop : ConnectLoop) (minimum : Nat) :
    (supervisor.beginWait now sample loop minimum).Awaits now minimum :=
  ⟨loop, _, rfl, reconnectSchedule_minimum _ minimum⟩

/-- A failed attempt ends the process, or begins a wait with what the error asks for. -/
theorem step_connectFailed {error : VpnProductEndpointError} {pumpFinished : Bool}
    (stepped : supervisor.step now sample (.connectFailed error pumpFinished) = some after) :
    after.point = .stopped ∨ after.Awaits now (endpointRetryAfter error) := by
  unfold step at stepped
  split at stepped
  case h_2 loop _ =>
    simp only [stepConnecting] at stepped
    split_ifs at stepped
    · exact Or.inl (by rw [← Option.some.inj stepped]; rfl)
    · exact Or.inl (by rw [← Option.some.inj stepped]; rfl)
    · exact Or.inr (by rw [← Option.some.inj stepped]; exact beginWait_awaits loop _)
  all_goals cases stepped

/-- **A reload ends every wait**, whatever it finds. -/
theorem waiting_reload_starts {loop : ConnectLoop} {schedule : VpnClientRetrySchedule} {since : Nat}
    (waiting : supervisor.point = .waiting loop schedule since) {event : SupervisorEvent Revision}
    {result : ClientCredentialReloadOutcome × Revision}
    (reloaded : supervisor.reloaded event = some result) :
    supervisor.step now sample event = some ((supervisor.reload result).attempt loop) := by
  unfold step
  rw [waiting]
  cases event <;> cases reloaded <;> rfl

/-- What else can happen to a wait: a timer or an event of the network ends it when its time is
over, the process ends, or the wait goes on. -/
theorem waiting_step {since delay : Nat} (awaits : supervisor.Awaits since delay)
    {event : SupervisorEvent Revision} (other : supervisor.reloaded event = none)
    (stepped : supervisor.step now sample event = some after) :
    (since + delay ≤ now ∧ ∃ loop, after.point = .connecting loop) ∨
      after.point = .stopped ∨ after.Awaits since delay := by
  obtain ⟨loop, schedule, waiting, timer, network⟩ := awaits
  unfold step at stepped
  rw [waiting] at stepped
  cases event with
  | hangup | reloadRequest => cases other
  | connected | connectFailed | connectionStopped | connectionClosed => cases stepped
  | stopSignal | pumpStopped | processFailed =>
    exact .inr (.inl (by rw [← Option.some.inj stepped]; rfl))
  | timer =>
    simp only [stepWaiting] at stepped
    split_ifs at stepped with ended
    exact .inl ⟨by omega, loop, by rw [← Option.some.inj stepped]; rfl⟩
  | networkEvent =>
    simp only [stepWaiting] at stepped
    split_ifs at stepped with ended
    exact .inl ⟨by omega, loop, by rw [← Option.some.inj stepped]; rfl⟩
  | networkMonitorFailed =>
    simp only [stepWaiting] at stepped
    split_ifs at stepped with ended
    refine .inr (.inr ⟨loop, schedule, ?_, timer, network⟩)
    rw [← Option.some.inj stepped]
    exact waiting

theorem stopped_steps_not (stopped : supervisor.point = .stopped)
    (event : SupervisorEvent Revision) : supervisor.step now sample event = none := by
  unfold step
  rw [stopped]

end ClientSupervisor

omit [DecidableEq Revision] in
theorem SupervisorTransition.rejectedFor_some {transition : SupervisorTransition Revision}
    {delay : Nat} (rejected : transition.rejectedFor = some delay) :
    ∃ error pumpFinished, transition.event = .connectFailed error pumpFinished ∧
      endpointRetryAfter error = delay := by
  obtain ⟨now, sample, event, before, after⟩ := transition
  cases event with
  | connectFailed error pumpFinished =>
    refine ⟨error, pumpFinished, rfl, ?_⟩
    obtain ⟨reject, isReject, rfl⟩ := Option.map_eq_some_iff.mp rejected
    simp [endpointRetryAfter, isReject]
  | _ => cases rejected

theorem SupervisorTransition.Legal.starts_of_reload {transition : SupervisorTransition Revision}
    (legal : transition.Legal) {since delay : Nat}
    (awaits : transition.before.Awaits since delay)
    {result : ClientCredentialReloadOutcome × Revision}
    (reloaded : transition.before.reloaded transition.event = some result) : transition.Starts := by
  obtain ⟨loop, schedule, waiting, -⟩ := awaits
  have after := legal.symm.trans (ClientSupervisor.waiting_reload_starts waiting reloaded)
  exact ⟨loop, by rw [Option.some.inj after]; rfl⟩

/-! ## Whole runs -/

namespace SupervisorRun

variable {supervisor : ClientSupervisor Revision} {now : Nat}
variable {trace between later : List (SupervisorTransition Revision)}
variable {failure next : SupervisorTransition Revision} {since delay : Nat}

/-- A run from one of its steps on. -/
theorem drop {earlier : List (SupervisorTransition Revision)}
    (run : SupervisorRun supervisor now (earlier ++ next :: later)) :
    next.Legal ∧ SupervisorRun next.after next.now later := by
  induction earlier generalizing supervisor now with
  | nil => cases run with | cons _ legal rest => exact ⟨legal, rest⟩
  | cons first earlier ih => cases run with | cons _ _ rest => exact ih rest

/-- A process at its end takes no further step. -/
theorem not_stopped (run : SupervisorRun supervisor now (between ++ next :: later)) :
    supervisor.point ≠ .stopped := by
  intro stopped
  cases between <;> cases run <;>
    simp [SupervisorTransition.Legal, ClientSupervisor.stopped_steps_not stopped] at *

/-- As long as no attempt starts, a wait goes on, and there is no reload. -/
theorem still_awaits (run : SupervisorRun supervisor now (between ++ next :: later))
    (awaits : supervisor.Awaits since delay) (idle : ∀ transition ∈ between, ¬ transition.Starts) :
    next.before.Awaits since delay ∧
      ∀ transition ∈ between, transition.before.reloaded transition.event = none := by
  induction between generalizing supervisor now with
  | nil => cases run with | cons _ _ _ => exact ⟨awaits, by simp⟩
  | cons first between ih =>
    cases run with
    | cons _ legal rest =>
      have notStarted := idle first (by simp)
      have noReload : first.before.reloaded first.event = none := by
        by_contra reload
        obtain ⟨result, reloaded⟩ := Option.ne_none_iff_exists'.mp reload
        exact notStarted (legal.starts_of_reload awaits reloaded)
      obtain ⟨-, started⟩ | stopped | stillAwaits :=
        ClientSupervisor.waiting_step awaits noReload legal
      · exact absurd started notStarted
      · exact absurd stopped rest.not_stopped
      · obtain ⟨waits, others⟩ :=
          ih rest stillAwaits fun transition isMem => idle transition (by simp [isMem])
        exact ⟨waits, by simpa [noReload] using others⟩

/-- From a REJECT to the next attempt the process waits, as the server asked. -/
theorem awaits_of_reject (run : SupervisorRun supervisor now trace)
    (follows : FollowsReject trace failure delay between next) :
    next.Legal ∧ next.before.Awaits failure.now delay ∧
      ∀ transition ∈ between, transition.before.reloaded transition.event = none := by
  obtain ⟨⟨earlier, later, rfl⟩, rejected, idle⟩ := follows
  obtain ⟨legal, rest⟩ := run.drop
  obtain ⟨error, pumpFinished, failed, rfl⟩ := SupervisorTransition.rejectedFor_some rejected
  rw [SupervisorTransition.Legal, failed] at legal
  have awaits := (ClientSupervisor.step_connectFailed legal).resolve_left rest.not_stopped
  exact ⟨rest.drop.1, rest.still_awaits awaits idle⟩

end SupervisorRun

/-- **When a retry-after is kept.** In every run of the client, from its start on, the attempt
after a REJECT comes no earlier than the server asked for unless a reload has changed the
credentials, exactly if no reload that changes nothing comes earlier than that. -/
theorem retryAfter_kept_iff {revision : Revision} {networkEventMonitor : Bool} {now : Nat}
    {trace : List (SupervisorTransition Revision)}
    (run : SupervisorRun (.start revision networkEventMonitor) now trace) :
    KeepsRetryAfter trace ↔ VainReloadsAreLate trace := by
  constructor
  · intro keeps failure delay between next follows inVain
    obtain ⟨legal, awaits, noReload⟩ := run.awaits_of_reject follows
    obtain ⟨outcome, found, reloaded, notChanged⟩ := inVain
    refine keeps failure delay between next follows (legal.starts_of_reload awaits reloaded) ?_
    rintro transition isMem ⟨changed, changes⟩
    rcases List.mem_append.mp isMem with isBetween | isNext
    · rw [noReload transition isBetween] at changes
      cases changes
    · rw [List.mem_singleton.mp isNext, reloaded] at changes
      exact notChanged (congrArg Prod.fst (Option.some.inj changes))
  · intro late failure delay between next follows starts unchanged
    obtain ⟨legal, awaits, -⟩ := run.awaits_of_reject follows
    cases reloaded : next.before.reloaded next.event with
    | none =>
      obtain ⟨ended, -⟩ | stopped | stillAwaits :=
        ClientSupervisor.waiting_step awaits reloaded legal
      · exact ended
      · obtain ⟨loop, connecting⟩ := starts
        rw [stopped] at connecting
        cases connecting
      · obtain ⟨loop, connecting⟩ := starts
        obtain ⟨_, _, waiting, -⟩ := stillAwaits
        rw [waiting] at connecting
        cases connecting
    | some result =>
      refine late failure delay between next follows ⟨result.1, result.2, reloaded, ?_⟩
      intro changed
      exact unchanged next (by simp) ⟨result.2, by rw [reloaded, ← changed]⟩

end Supervisor

/-- The first attempt is rejected at once, and the server asks for five minutes. -/
def exampleRejection : SupervisorTransition Nat where
  now := 0
  sample := 0
  event := .connectFailed
    (.productConnection (.clientSession (.rejected ⟨.resourceLimit, 300⟩))) false
  before := .start 7 true
  after := (ClientSupervisor.start 7 true).beginWait 0 0 .startup 300000

/-- The operator sends a SIGHUP, and the credentials are still the same. -/
def exampleHangup (now : Nat) : SupervisorTransition Nat where
  now := now
  sample := 0
  event := .hangup (some 7)
  before := exampleRejection.after
  after := (exampleRejection.after.reload (.unchanged, 7)).attempt .startup

theorem exampleHangup_run (now : Nat) :
    SupervisorRun (.start 7 true) 0 [exampleRejection, exampleHangup now] := by
  have rejected : exampleRejection.Legal := rfl
  have reloaded : (exampleHangup now).Legal := rfl
  exact .cons (le_refl 0) rejected (.cons (Nat.zero_le now) reloaded (.nil _ _))

theorem exampleHangup_follows (now : Nat) :
    FollowsReject [exampleRejection, exampleHangup now] exampleRejection 300000 []
      (exampleHangup now) :=
  ⟨⟨[], [], rfl⟩, rfl, by simp⟩

/-- The retry-after is kept if the SIGHUP comes after the five minutes. -/
theorem retryAfter_kept_iff_example : KeepsRetryAfter [exampleRejection, exampleHangup 300000] := by
  refine (retryAfter_kept_iff (exampleHangup_run 300000)).mpr ?_
  rintro failure delay between next ⟨⟨earlier, later, split⟩, rejected, -⟩ -
  have lengths := congrArg List.length split
  simp only [List.length_cons, List.length_append, List.length_nil] at lengths
  obtain rfl : earlier = [] := List.eq_nil_of_length_eq_zero (by omega)
  obtain rfl : between = [] := List.eq_nil_of_length_eq_zero (by omega)
  obtain ⟨rfl, rfl, rfl⟩ :
      failure = exampleRejection ∧ next = exampleHangup 300000 ∧ later = [] := by
    simpa [eq_comm] using split
  rw [← Option.some.inj rejected]
  decide

/-- A SIGHUP that changes nothing, ten seconds after the REJECT: the next attempt starts. -/
theorem retryAfter_not_kept :
    SupervisorRun (.start 7 true) 0 [exampleRejection, exampleHangup 10000] ∧
      ¬ KeepsRetryAfter [exampleRejection, exampleHangup 10000] := by
  refine ⟨exampleHangup_run 10000, fun keeps => ?_⟩
  have late := keeps _ _ _ _ (exampleHangup_follows 10000) ⟨.startup, rfl⟩ ?_
  · exact absurd late (by decide)
  · rintro transition isMem ⟨revision, changes⟩
    rw [List.mem_singleton.mp isMem] at changes
    have unchanged : (exampleHangup 10000).before.reloaded (exampleHangup 10000).event =
        some (.unchanged, 7) := rfl
    cases unchanged.symm.trans changes

end FlowWeave.Vpn
