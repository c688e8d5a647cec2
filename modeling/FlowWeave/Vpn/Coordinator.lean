/-
# Vpn.Coordinator — the sessions of a server (`src/vpn_active_session.rs`)

The coordinator keeps at most one active session for each client, revokes sessions
when the registry is replaced, and keeps one rate limiter for each client.

Data path handles and limiters are shared: the active map, the caller of `commit`
and the session's runtime all hold the same handle. They live on a `DataPathHeap`
and are referred to by position. The coordinator's operations hold its lock for
their whole duration and are functions of its state here. `none` is a panic: one of
the `expect`s, or a `subtract` below zero. `Vpn.CoordinatorSafety` shows that it does
not happen.
-/
import FlowWeave.Vpn.DataPathRun
import FlowWeave.Vpn.Session

namespace FlowWeave.Vpn

open Theory Theory.MachineInt

set_option autoImplicit false

/-! ## Handles and limiters -/

/-- A `VpnDataPathInner` with its state and the place of its limiter. -/
structure VpnDataPathHandle where
  inner : VpnDataPathInner
  state : VpnDataPathState
  rateLimiter : Nat

/-- Everything that the handles of one server share. -/
structure DataPathHeap where
  handles : List VpnDataPathHandle
  rateLimiters : List IdentityRateState
  counters : LedgerCounter → Nat
  quotaMetrics : VpnQuotaMetrics
  dataMetrics : VpnDataPolicyMetrics

/-- The lengths of the datagrams that a call admitted. -/
def admittedBy : (call : DataPathCall) → call.Answer → List Nat
  | .admitDatagrams _ datagramLengths _, ⟨.ok (), _⟩ => datagramLengths
  | .admitDatagrams .., ⟨.error _, _⟩ => []
  | .record _, _ => []

/-- `serve`, with a record of the lengths of all datagrams it has admitted. -/
def DataPathEnv.serveMetered (call : DataPathCall) (metered : DataPathEnv × List Nat) :
    call.Answer × (DataPathEnv × List Nat) :=
  let (answer, env) := DataPathEnv.serve call metered.1
  (answer, env, metered.2 ++ admittedBy call answer)

/-- What an operation of a handle does. -/
structure Operated where
  reply : DataPathReply
  /-- The lengths of the datagrams that the limiter admitted. -/
  admitted : List Nat
  heap : DataPathHeap

namespace DataPathHeap

def empty : DataPathHeap := ⟨[], [], 0, .default, .default⟩

/-- One operation of one handle, without a step of another in between. -/
def operate (heap : DataPathHeap) (budget : VpnGlobalReassemblyBudget) (dataPath : Nat)
    (op : DataPathOp) : Option Operated := do
  let handle ← heap.handles[dataPath]?
  let limiter ← heap.rateLimiters[handle.rateLimiter]?
  let ((reply, state), counters, env, admitted) ← (op.program handle.inner handle.state).run
    budget.limits DataPathEnv.serveMetered heap.counters
    (⟨limiter, heap.quotaMetrics, heap.dataMetrics⟩, [])
  some {
    reply := reply
    admitted := admitted
    heap := {
      handles := heap.handles.set dataPath { handle with state := state }
      rateLimiters := heap.rateLimiters.set handle.rateLimiter env.limiter
      counters := counters
      quotaMetrics := env.quotaMetrics
      dataMetrics := env.policyMetrics } }

def deactivate (heap : DataPathHeap) (budget : VpnGlobalReassemblyBudget) (dataPath : Nat) :
    Option DataPathHeap :=
  (heap.operate budget dataPath .deactivate).map (·.heap)

def activate (heap : DataPathHeap) (budget : VpnGlobalReassemblyBudget) (dataPath : Nat) :
    Option DataPathHeap :=
  (heap.operate budget dataPath .activate).map (·.heap)

/-- `VpnIdentityRateLimiter::new`, at the next free place. -/
def newLimiter (heap : DataPathHeap) (limits : VpnIdentityLimits) (now : Nat) : DataPathHeap :=
  { heap with rateLimiters := heap.rateLimiters ++ [.new limits now] }

/-- `VpnIdentityRateLimiter::reconfigure`. -/
def reconfigure (heap : DataPathHeap) (rateLimiter : Nat) (limits : VpnIdentityLimits)
    (now : Nat) : DataPathHeap :=
  { heap with
    rateLimiters := heap.rateLimiters.modify rateLimiter (·.reconfigure limits now) }

/-- A handle at the next free place. -/
def newHandle (heap : DataPathHeap) (handle : VpnDataPathHandle) : DataPathHeap :=
  { heap with handles := heap.handles ++ [handle] }

end DataPathHeap

/-! ## State -/

inductive VpnSessionCommitError where
  | identityRevoked
  | policyChanged
  deriving DecidableEq, Repr

inductive VpnManagedSessionError where
  | generationExhausted
  | invalidResourceLimits
  | control (error : VpnSessionError)
  | commit (error : VpnSessionCommitError)
  deriving DecidableEq, Repr

structure VpnSessionCoordinatorMetrics where
  activeSessions : Nat
  totalCommitted : Nat
  replacements : Nat
  commitRejections : Nat
  identityRevocations : Nat
  policyChangeCloses : Nat
  normalReleases : Nat
  shutdownCloses : Nat
  deriving DecidableEq, Repr

/-- `VpnSessionCoordinatorMetrics::default`. -/
def VpnSessionCoordinatorMetrics.default : VpnSessionCoordinatorMetrics :=
  ⟨0, 0, 0, 0, 0, 0, 0, 0⟩

/-- A connection and a handle are known by their ids. -/
structure ActiveVpnSession where
  session : VpnNegotiatedSession
  connection : Nat
  dataPath : Nat

structure CoordinatorState where
  registry : VpnIdentityRegistry
  active : Table String ActiveVpnSession
  metrics : VpnSessionCoordinatorMetrics
  identityQuotas : Table String Nat

structure VpnSessionCoordinator where
  state : CoordinatorState
  nextGeneration : UInt64
  globalBudget : VpnGlobalReassemblyBudget
  heap : DataPathHeap

/-- `if let Some(replaced) = &replaced`, the handle of the replaced session is
deactivated. -/
def DataPathHeap.deactivateReplaced (heap : DataPathHeap) (budget : VpnGlobalReassemblyBudget) :
    Option ActiveVpnSession → Option DataPathHeap
  | none => some heap
  | some replaced => heap.deactivate budget replaced.dataPath

/-- `connection.close(code, reason)`. -/
structure ConnectionClose where
  connection : Nat
  code : Nat
  reason : String
  deriving DecidableEq, Repr

def sessionReplaced (connection : Nat) : ConnectionClose := ⟨connection, 0x100, "session_replaced"⟩

def commitRejected (connection : Nat) : ConnectionClose :=
  ⟨connection, 0x103, "session_commit_rejected"⟩

def serverShutdown (connection : Nat) : ConnectionClose := ⟨connection, 0x104, "server_shutdown"⟩

inductive CloseReason where
  | identityRevoked
  | policyChanged
  deriving DecidableEq, Repr

def CloseReason.close (connection : Nat) : CloseReason → ConnectionClose
  | identityRevoked => ⟨connection, 0x101, "identity_revoked"⟩
  | policyChanged => ⟨connection, 0x102, "policy_changed"⟩

structure VpnSessionCommitReport where
  sessionGeneration : UInt64
  replacedGeneration : Option UInt64
  deriving DecidableEq, Repr

structure VpnCommittedSession where
  report : VpnSessionCommitReport
  dataPath : Nat

structure VpnIdentityReloadReport where
  previousIdentityCount : Nat
  identityCount : Nat
  previousFingerprintCount : Nat
  fingerprintCount : Nat
  deriving DecidableEq, Repr

structure VpnSessionReconcileReport where
  kept : Nat
  identityRevoked : Nat
  policyChanged : Nat
  deriving DecidableEq, Repr

structure VpnCoordinatorReloadReport where
  identities : VpnIdentityReloadReport
  sessions : VpnSessionReconcileReport
  deriving DecidableEq, Repr

/-! ## Decisions -/

def VpnIdentityRegistry.fingerprintCount (registry : VpnIdentityRegistry) : Nat :=
  registry.index.identityByFingerprint.size

/-- The identity that a commit is for, or why it is refused. -/
def commitIdentity (registry : VpnIdentityRegistry) (session : VpnNegotiatedSession) :
    Except VpnSessionCommitError VpnIdentity :=
  match registry.authorize session.fingerprint with
  | .ok identity =>
    if identity.clientId = session.identity.clientId &&
        session.identity.hasSameSessionPolicy identity then .ok identity
    else if identity.clientId = session.identity.clientId then .error .policyChanged
    else .error .identityRevoked
  | .error .unknownFingerprint => .error .identityRevoked
  | .error .identityDisabled => .error .identityRevoked

inductive ReconcileDecision where
  | keep
  | identityRevoked
  | policyChanged
  deriving DecidableEq, Repr

def reconcileDecision (registry : VpnIdentityRegistry) (clientId : String)
    (active : ActiveVpnSession) : ReconcileDecision :=
  match registry.authorize active.session.fingerprint with
  | .ok identity =>
    if identity.clientId = clientId &&
        active.session.identity.hasSameSessionPolicy identity then .keep
    else if identity.clientId = clientId then .policyChanged
    else .identityRevoked
  | .error _ => .identityRevoked

/-! ## The loop of a reload -/

/-- What the loop over the decisions changes. -/
structure Reconciliation where
  active : Table String ActiveVpnSession
  metrics : VpnSessionCoordinatorMetrics
  heap : DataPathHeap
  sessions : VpnSessionReconcileReport
  closed : List ConnectionClose

namespace Reconciliation

def countKept (self : Reconciliation) : Reconciliation :=
  { self with sessions := { self.sessions with kept := self.sessions.kept + 1 } }

def countClosed (self : Reconciliation) : CloseReason → Reconciliation
  | .identityRevoked =>
    { self with
      sessions := { self.sessions with identityRevoked := self.sessions.identityRevoked + 1 }
      metrics := { self.metrics with
        identityRevocations := saturatingAdd u64Max self.metrics.identityRevocations 1 } }
  | .policyChanged =>
    { self with
      sessions := { self.sessions with policyChanged := self.sessions.policyChanged + 1 }
      metrics := { self.metrics with
        policyChangeCloses := saturatingAdd u64Max self.metrics.policyChangeCloses 1 } }

def close (budget : VpnGlobalReassemblyBudget) (clientId : String) (reason : CloseReason)
    (self : Reconciliation) : Option Reconciliation := do
  let active ← self.active.lookup clientId
  let heap ← self.heap.deactivate budget active.dataPath
  some ({ self with
    active := self.active.erase clientId
    heap := heap
    closed := self.closed ++ [reason.close active.connection] }.countClosed reason)

/-- One round of the loop. -/
def decide (budget : VpnGlobalReassemblyBudget) (self : Reconciliation) :
    String × ReconcileDecision → Option Reconciliation
  | (_, .keep) => some self.countKept
  | (clientId, .identityRevoked) => self.close budget clientId .identityRevoked
  | (clientId, .policyChanged) => self.close budget clientId .policyChanged

end Reconciliation

/-- The enabled identity of a client id. -/
def VpnIdentityRegistry.enabledIdentity (registry : VpnIdentityRegistry) (clientId : String) :
    Option VpnIdentity :=
  (registry.identityByClientId clientId).filter (·.enabled)

/-- The closure of `identity_quotas.retain`, as it acts on the limiters. -/
def reconfigureQuota (registry : VpnIdentityRegistry) (now : Nat) (heap : DataPathHeap)
    (quota : Sigma fun _ : String => Nat) : DataPathHeap :=
  match registry.enabledIdentity quota.1 with
  | none => heap
  | some identity => heap.reconfigure quota.2 identity.limits now

/-! ## Operations -/

namespace VpnSessionCoordinator

def withResourceLimits (registry : VpnIdentityRegistry) (initialGeneration : UInt64)
    (globalReassemblyLimit globalInflightLimit : Nat) :
    Except VpnManagedSessionError VpnSessionCoordinator :=
  if initialGeneration = 0 then .error .generationExhausted
  else
    match VpnGlobalReassemblyBudget.new globalReassemblyLimit globalInflightLimit with
    | none => .error .invalidResourceLimits
    | some globalBudget => .ok {
        state := {
          registry := registry
          active := ∅
          metrics := .default
          identityQuotas := ∅ }
        nextGeneration := initialGeneration
        globalBudget := globalBudget
        heap := .empty }

/-- A new coordinator has nothing but its registry and its limits. -/
theorem withResourceLimits_eq_ok {registry : VpnIdentityRegistry} {initialGeneration : UInt64}
    {globalReassemblyLimit globalInflightLimit : Nat} {self : VpnSessionCoordinator}
    (built : withResourceLimits registry initialGeneration globalReassemblyLimit
      globalInflightLimit = .ok self) :
    ∃ globalBudget,
      self = ⟨⟨registry, ∅, .default, ∅⟩, initialGeneration, globalBudget, .empty⟩ := by
  obtain ⟨-, built⟩ := Theory.Checks.ite_error_eq_ok.mp built
  split at built
  · cases built
  · exact ⟨_, (Except.ok.inj built).symm⟩

/-- The addition wraps: after the last generation comes zero, and then no more. -/
def allocateGeneration (self : VpnSessionCoordinator) :
    Except VpnManagedSessionError VpnSessionGeneration × VpnSessionCoordinator :=
  if self.nextGeneration ≠ 0 then
    let generation := self.nextGeneration
    let after := { self with nextGeneration := generation + 1 }
    match VpnSessionGeneration.new generation with
    | none => (.error .generationExhausted, after)
    | some generation => (.ok generation, after)
  else (.error .generationExhausted, self)

theorem allocateGeneration_cases (self : VpnSessionCoordinator) :
    (∃ generation, generation.value = self.nextGeneration ∧ self.allocateGeneration =
        (.ok generation, { self with nextGeneration := self.nextGeneration + 1 })) ∨
      self.allocateGeneration = (.error .generationExhausted, self) := by
  unfold allocateGeneration
  by_cases left : self.nextGeneration ≠ 0
  · simp only [if_pos left, VpnSessionGeneration.new, dif_pos left]
    exact .inl ⟨_, rfl, rfl⟩
  · exact .inr (if_neg left)

def isCurrent (self : VpnSessionCoordinator) (clientId : String) (sessionGeneration : UInt64) :
    Bool :=
  (self.state.active.lookup clientId).any fun active =>
    active.session.accept.sessionGeneration = sessionGeneration

def releaseIfCurrent (self : VpnSessionCoordinator) (clientId : String)
    (sessionGeneration : UInt64) : Option (Bool × VpnSessionCoordinator) :=
  if !self.isCurrent clientId sessionGeneration then some (false, self)
  else do
    let active ← self.state.active.lookup clientId
    let heap ← self.heap.deactivate self.globalBudget active.dataPath
    let remaining : Table String ActiveVpnSession := self.state.active.erase clientId
    some (true, { self with
      heap := heap
      state := { self.state with
        active := remaining
        metrics := { self.state.metrics with
          normalReleases := saturatingAdd u64Max self.state.metrics.normalReleases 1
          activeSessions := remaining.size } } })

def replaceRegistry (self : VpnSessionCoordinator) (registry : VpnIdentityRegistry) (now : Nat) :
    Option (VpnCoordinatorReloadReport × List ConnectionClose × VpnSessionCoordinator) := do
  let identities : VpnIdentityReloadReport := {
    previousIdentityCount := self.state.registry.identities.length
    identityCount := registry.identities.length
    previousFingerprintCount := self.state.registry.fingerprintCount
    fingerprintCount := registry.fingerprintCount }
  let decisions := self.state.active.entries.map fun entry =>
    (entry.1, reconcileDecision registry entry.1 entry.2)
  let done ← decisions.foldlM (Reconciliation.decide self.globalBudget)
    ⟨self.state.active, self.state.metrics, self.heap, ⟨0, 0, 0⟩, []⟩
  some (⟨identities, done.sessions⟩, done.closed, { self with
    heap := self.state.identityQuotas.entries.foldl (reconfigureQuota registry now) done.heap
    state := {
      registry := registry
      active := done.active
      metrics := { done.metrics with activeSessions := done.active.size }
      identityQuotas := self.state.identityQuotas.retain fun clientId _ =>
        (registry.enabledIdentity clientId).isSome } })

def closeAll (self : VpnSessionCoordinator) :
    Option (Nat × List ConnectionClose × VpnSessionCoordinator) := do
  let active := self.state.active.entries.map (·.2)
  let heap ← active.foldlM
    (fun heap session => heap.deactivate self.globalBudget session.dataPath) self.heap
  some (active.length, active.map fun session => serverShutdown session.connection, { self with
    heap := heap
    state := { self.state with
      active := ∅
      metrics := { self.state.metrics with
        shutdownCloses :=
          saturatingAdd u64Max self.state.metrics.shutdownCloses (min active.length u64Max)
        activeSessions := 0 }
      identityQuotas := ∅ } })

/-- `identity_quotas.entry(client_id).or_insert_with(..)`: the place of the limiter,
the quotas and the heap. -/
def quotaEntry (self : VpnSessionCoordinator) (clientId : String) (limits : VpnIdentityLimits)
    (now : Nat) : Nat × Table String Nat × DataPathHeap :=
  match self.state.identityQuotas.lookup clientId with
  | some rateLimiter => (rateLimiter, self.state.identityQuotas, self.heap)
  | none =>
    let rateLimiter := self.heap.rateLimiters.length
    (rateLimiter, self.state.identityQuotas.insert clientId rateLimiter,
      self.heap.newLimiter limits now)

/-- A commit that is refused. -/
def rejectCommit (self : VpnSessionCoordinator) : VpnSessionCoordinator :=
  { self with
    state := { self.state with
      metrics := { self.state.metrics with
        commitRejections := saturatingAdd u64Max self.state.metrics.commitRejections 1 } } }

/-- `commit_with_handle_at`. -/
def commit (self : VpnSessionCoordinator) (session : VpnNegotiatedSession)
    (connection now : Nat) :
    Option (Except VpnSessionCommitError VpnCommittedSession × List ConnectionClose ×
      VpnSessionCoordinator) :=
  let clientId := session.identity.clientId
  let limits := session.identity.limits
  match commitIdentity self.state.registry session with
  | .error error => some (.error error, [commitRejected connection], self.rejectCommit)
  | .ok identity => do
    let (rateLimiter, identityQuotas, heap) := self.quotaEntry clientId limits now
    let (inner, inactive) ← (newInactive identity session.accept.maxIpPacketLen.toNat
      session.accept.sessionGeneration).toOption
    let dataPath := heap.handles.length
    let heap := heap.newHandle ⟨inner, inactive, rateLimiter⟩
    let replaced := self.state.active.lookup clientId
    let active : Table String ActiveVpnSession :=
      self.state.active.insert clientId ⟨session, connection, dataPath⟩
    let heap ← heap.deactivateReplaced self.globalBudget replaced
    let heap ← (heap.reconfigure rateLimiter limits now).activate self.globalBudget dataPath
    let metrics := self.state.metrics
    let report : VpnSessionCommitReport := {
      sessionGeneration := session.accept.sessionGeneration
      replacedGeneration := replaced.map (·.session.accept.sessionGeneration) }
    some (.ok ⟨report, dataPath⟩, replaced.toList.map fun replaced =>
        sessionReplaced replaced.connection, { self with
      heap := heap
      state := { self.state with
        active := active
        metrics := { metrics with
          totalCommitted := saturatingAdd u64Max metrics.totalCommitted 1
          replacements := if replaced.isSome then saturatingAdd u64Max metrics.replacements 1
            else metrics.replacements
          activeSessions := active.size }
        identityQuotas := identityQuotas } })

end VpnSessionCoordinator

end FlowWeave.Vpn
