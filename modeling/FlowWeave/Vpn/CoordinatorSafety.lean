/-
# Vpn.CoordinatorSafety — what holds in every state of the coordinator

A run of the coordinator is any sequence of its operations and of the operations
that the sessions' runtimes make on their handles. `Safe` is its invariant:

* every active session is one that the current registry would still commit;
* a handle is active only while it is the one of an active session, and has that
  session's policy and its client's limiter;
* the metrics count what happened.

Each operation has one lemma that says that it runs through and stays `Safe`;
`coordinator_safe` is the result about runs.
-/
import FlowWeave.Vpn.CoordinatorHeap

namespace FlowWeave.Vpn

open Theory Theory.MachineInt DataPathHeap VpnSessionCoordinator
open DataPathHeap (Frame)

set_option autoImplicit false

/-! ## Authorisation -/

variable {identity : VpnIdentity}

theorem VpnIdentity.hasSameSessionPolicy_iff {other : VpnIdentity} :
    identity.hasSameSessionPolicy other = true ↔
      identity.clientId = other.clientId ∧ identity.enabled = other.enabled ∧
        identity.dataPolicy = other.dataPolicy ∧ identity.limits = other.limits := by
  simp [hasSameSessionPolicy, and_assoc]

/-- A session that the registry would still commit under a client id. -/
def StillAuthorized (registry : VpnIdentityRegistry) (clientId : String)
    (session : VpnNegotiatedSession) : Prop :=
  ∃ identity, registry.authorize session.fingerprint = .ok identity ∧
    identity.clientId = clientId ∧ session.identity.hasSameSessionPolicy identity = true

variable {session : VpnNegotiatedSession} {registry : VpnIdentityRegistry}

theorem commitIdentity_ok (permitted : commitIdentity registry session = .ok identity) :
    registry.authorize session.fingerprint = .ok identity ∧
      identity.clientId = session.identity.clientId ∧
      session.identity.hasSameSessionPolicy identity = true := by
  unfold commitIdentity at permitted
  split at permitted
  · rename_i found authorized
    split at permitted
    · rename_i same
      cases permitted
      rw [Bool.and_eq_true, decide_eq_true_eq] at same
      exact ⟨authorized, same⟩
    · split at permitted <;> cases permitted
  · cases permitted
  · cases permitted

theorem reconcileDecision_keep {clientId : String} {active : ActiveVpnSession} :
    reconcileDecision registry clientId active = .keep ↔
      StillAuthorized registry clientId active.session := by
  unfold reconcileDecision StillAuthorized
  cases registry.authorize active.session.fingerprint with
  | error error => simp
  | ok identity =>
    by_cases same : identity.clientId = clientId
    · by_cases policy : active.session.identity.hasSameSessionPolicy identity = true
      · simp [same, policy]
      · simp [same, policy]
    · simp [same]

/-- The client of an authorised session keeps its limiter. -/
theorem StillAuthorized.enabledIdentity {clientId : String}
    (authorized : StillAuthorized registry clientId session) :
    (registry.enabledIdentity clientId).isSome = true := by
  obtain ⟨identity, found, same, -⟩ := authorized
  obtain ⟨member, -, enabled⟩ := VpnIdentityRegistry.authorize_iff.mp found
  have named := VpnIdentityRegistry.identityByClientId_iff.mpr ⟨member, same⟩
  rw [VpnIdentityRegistry.enabledIdentity, named, Option.filter_some, if_pos enabled]
  rfl

/-! ## Handles of active sessions -/

/-- The immutable part of the handle that a session gets. -/
def VpnNegotiatedSession.dataPathInner (session : VpnNegotiatedSession) : VpnDataPathInner where
  policy := session.identity.dataPolicy
  maxIpPacketLen := session.accept.maxIpPacketLen.toNat
  maxReassemblyBytes := session.identity.limits.maxReassemblyBytes
  sessionGeneration := session.accept.sessionGeneration

/-- The handles of the active sessions, and no others, may be active. -/
structure Linked (active : Table String ActiveVpnSession) (identityQuotas : Table String Nat)
    (heap : DataPathHeap) : Prop where
  good : heap.Good
  handle : ∀ clientId entry, active.lookup clientId = some entry →
    ∃ handle, heap.handles[entry.dataPath]? = some handle ∧
      handle.inner = entry.session.dataPathInner ∧
      identityQuotas.lookup clientId = some handle.rateLimiter
  current : ∀ place, heap.ActiveAt place →
    ∃ clientId entry, active.lookup clientId = some entry ∧ entry.dataPath = place
  quota : ∀ clientId rateLimiter, identityQuotas.lookup clientId = some rateLimiter →
    rateLimiter < heap.rateLimiters.length

namespace Linked

variable {active : Table String ActiveVpnSession} {identityQuotas : Table String Nat}
  {heap after : DataPathHeap}

theorem frame (linked : Linked active identityQuotas heap) (good : after.Good)
    (frame : Frame heap after) (current : ∀ place, after.ActiveAt place →
      ∃ clientId entry, active.lookup clientId = some entry ∧ entry.dataPath = place) :
    Linked active identityQuotas after where
  good := good
  current := current
  handle := by
    intro clientId entry listed
    obtain ⟨handle, found, inner, quota⟩ := linked.handle clientId entry listed
    obtain ⟨later, isLater, sameInner, sameLimiter⟩ := frame.handle found
    exact ⟨later, isLater, sameInner.trans inner, by rw [sameLimiter, quota]⟩
  quota := fun clientId rateLimiter listed => by
    rw [frame.rateLimiters]
    exact linked.quota clientId rateLimiter listed

variable (linked : Linked active identityQuotas heap) (budget : VpnGlobalReassemblyBudget)
  {clientId : String} {entry : ActiveVpnSession}

include linked

/-- A session is removed and its handle deactivated. -/
theorem close (listed : active.lookup clientId = some entry) :
    ∃ after, heap.deactivate budget entry.dataPath = some after ∧ Frame heap after ∧
      Linked (active.erase clientId) identityQuotas after := by
  obtain ⟨handle, found, -⟩ := linked.handle clientId entry listed
  obtain ⟨after, runs, good, frame, activity⟩ :=
    deactivate_spec linked.good budget found
  have linkedAfter := linked.frame good frame fun place isActive =>
    linked.current place ((activity place).mp isActive).2
  refine ⟨after, runs, frame, good, ?_, ?_, linkedAfter.quota⟩
  · intro other remaining isListed
    exact linkedAfter.handle other remaining (Table.lookup_erase_eq_some.mp isListed).2
  · intro place isActive
    obtain ⟨notIt, before⟩ := (activity place).mp isActive
    obtain ⟨other, remaining, isListed, here⟩ := linked.current place before
    have different : other ≠ clientId := by
      rintro rfl
      cases listed.symm.trans isListed
      exact notIt here.symm
    exact ⟨other, remaining, Table.lookup_erase_eq_some.mpr ⟨different, isListed⟩, here⟩

/-- The handle of a new session takes the place of the one before. -/
theorem replace (entry : ActiveVpnSession) {handle : VpnDataPathHandle}
    (found : heap.handles[entry.dataPath]? = some handle)
    (inner : handle.inner = entry.session.dataPathInner)
    (quota : identityQuotas.lookup clientId = some handle.rateLimiter) :
    ∃ after, heap.deactivateReplaced budget (active.lookup clientId) = some after ∧
      Frame heap after ∧ Linked (active.insert clientId entry) identityQuotas after := by
  have closed : ∃ after, heap.deactivateReplaced budget (active.lookup clientId) = some after ∧
      Frame heap after ∧ Linked (active.erase clientId) identityQuotas after := by
    cases listed : active.lookup clientId with
    | none =>
      refine ⟨heap, rfl, .refl heap, ?_⟩
      rw [Table.erase_of_lookup_none listed]
      exact linked
    | some replaced => exact linked.close budget listed
  obtain ⟨after, runs, frame, without⟩ := closed
  obtain ⟨later, isLater, sameInner, sameLimiter⟩ := frame.handle found
  refine ⟨after, runs, frame, without.good, ?_, ?_, without.quota⟩
  · intro other remaining listed
    by_cases here : other = clientId
    · subst here
      rw [AList.lookup_insert] at listed
      cases listed
      exact ⟨later, isLater, sameInner.trans inner, by rw [sameLimiter, quota]⟩
    · rw [AList.lookup_insert_ne here] at listed
      exact without.handle other remaining (Table.lookup_erase_eq_some.mpr ⟨here, listed⟩)
  · intro place isActive
    obtain ⟨other, remaining, listed, here⟩ := without.current place isActive
    obtain ⟨different, before⟩ := Table.lookup_erase_eq_some.mp listed
    exact ⟨other, remaining, by rw [AList.lookup_insert_ne different, before], here⟩

theorem activate (listed : active.lookup clientId = some entry) :
    ∃ after, heap.activate budget entry.dataPath = some after ∧
      Linked active identityQuotas after ∧ after.ActiveAt entry.dataPath := by
  obtain ⟨handle, found, -⟩ := linked.handle clientId entry listed
  obtain ⟨after, runs, good, frame, activity⟩ :=
    activate_spec linked.good budget found
  refine ⟨after, runs, linked.frame good frame fun place isActive => ?_,
    (activity _).mpr (.inl rfl)⟩
  rcases (activity place).mp isActive with rfl | before
  · exact ⟨clientId, entry, listed, rfl⟩
  · exact linked.current place before

end Linked

/-! ## Metrics -/

/-- The counters after `commits` commits, `size` of whose sessions are still active:
each is the number of what it counts, clipped at the largest `u64`. -/
def Tallied (metrics : VpnSessionCoordinatorMetrics) (commits size : Nat) : Prop :=
  ∃ replaced released revoked changed shutdown,
    commits = size + replaced + released + revoked + changed + shutdown ∧
      metrics.totalCommitted = min commits u64Max ∧
      metrics.replacements = min replaced u64Max ∧
      metrics.normalReleases = min released u64Max ∧
      metrics.identityRevocations = min revoked u64Max ∧
      metrics.policyChangeCloses = min changed u64Max ∧
      metrics.shutdownCloses = min shutdown u64Max

/-- A counter that counts on. -/
theorem saturatingAdd_min (count more : Nat) :
    saturatingAdd u64Max (min count u64Max) more = min (count + more) u64Max := by
  unfold saturatingAdd
  omega

variable {commits : Nat}

/-- Nothing is clipped as long as the commits can be counted. -/
theorem Tallied.balance {metrics : VpnSessionCoordinatorMetrics} {size : Nat}
    (tallied : Tallied metrics commits size) (countable : commits ≤ u64Max) :
    metrics.totalCommitted = size + metrics.replacements + metrics.normalReleases +
      metrics.identityRevocations + metrics.policyChangeCloses + metrics.shutdownCloses := by
  obtain ⟨replaced, released, revoked, changed, shutdown, sum, total, one, two,
    three, four, five⟩ := tallied
  rw [total, one, two, three, four, five]
  omega

/-! ## The invariant -/

structure Safe (coordinator : VpnSessionCoordinator) (commits : Nat) : Prop where
  linked : Linked coordinator.state.active coordinator.state.identityQuotas coordinator.heap
  authorized : ∀ clientId entry, coordinator.state.active.lookup clientId = some entry →
    StillAuthorized coordinator.state.registry clientId entry.session
  counted : coordinator.state.metrics.activeSessions = coordinator.state.active.size
  tallied : Tallied coordinator.state.metrics commits coordinator.state.active.size

namespace Safe

variable {self : VpnSessionCoordinator} {commits : Nat}

theorem start {registry : VpnIdentityRegistry} {initialGeneration : UInt64}
    {globalReassemblyLimit globalInflightLimit : Nat}
    (built : withResourceLimits registry initialGeneration
      globalReassemblyLimit globalInflightLimit = .ok self) : Safe self 0 := by
  obtain ⟨globalBudget, rfl⟩ := withResourceLimits_eq_ok built
  exact {
    linked := {
      good := empty_good
      handle := fun _ _ listed => nomatch listed
      current := fun _ ⟨_, found, _⟩ => nomatch found
      quota := fun _ _ listed => nomatch listed }
    authorized := fun _ _ listed => nomatch listed
    counted := rfl
    tallied := ⟨0, 0, 0, 0, 0, rfl, rfl, rfl, rfl, rfl, rfl, rfl⟩ }

variable (safe : Safe self commits)

include safe

/-- The heap changes, and no handle gets active. -/
theorem frame {after : DataPathHeap} (good : after.Good) (frame : Frame self.heap after)
    (mono : ∀ place, after.ActiveAt place → self.heap.ActiveAt place) :
    Safe { self with heap := after } commits :=
  { safe with linked := safe.linked.frame good frame fun place isActive =>
      safe.linked.current place (mono place isActive) }

theorem rejectCommit : Safe self.rejectCommit commits :=
  { safe with tallied := safe.tallied }

theorem allocateGeneration : Safe self.allocateGeneration.2 commits := by
  rcases self.allocateGeneration_cases with ⟨_, -, same⟩ | same <;> rw [same]
  · exact { safe with tallied := safe.tallied }
  · exact safe

/-- **`release_if_current`.** -/
theorem releaseIfCurrent (clientId : String) (sessionGeneration : UInt64) :
    ∃ released after, self.releaseIfCurrent clientId sessionGeneration = some (released, after) ∧
      Safe after commits := by
  unfold VpnSessionCoordinator.releaseIfCurrent
  split
  · exact ⟨false, self, rfl, safe⟩
  · rename_i current
    rw [Bool.not_eq_true', Bool.not_eq_false, VpnSessionCoordinator.isCurrent,
      Option.any_eq_true] at current
    obtain ⟨entry, listed, -⟩ := current
    obtain ⟨heap, runs, -, linked⟩ := safe.linked.close self.globalBudget listed
    simp only [listed, runs, Option.bind_eq_bind, Option.bind_some]
    refine ⟨true, _, rfl, ?_⟩
    have size := Table.size_erase listed
    refine { linked := linked, authorized := ?_, counted := rfl, tallied := ?_ }
    · exact fun other remaining isListed =>
        safe.authorized other remaining (Table.lookup_erase_eq_some.mp isListed).2
    · obtain ⟨replaced, released, revoked, changed, shutdown, sum, total, one, two, rest⟩ :=
        safe.tallied
      refine ⟨replaced, released + 1, revoked, changed, shutdown, ?_, total, one, ?_, rest⟩
      · dsimp only
        omega
      · rw [← saturatingAdd_min, ← two]

/-- **`close_all`.** -/
theorem closeAll :
    ∃ count closed after, self.closeAll = some (count, closed, after) ∧ Safe after commits := by
  have present : ∀ session ∈ self.state.active.entries.map (·.2),
      ∃ handle, self.heap.handles[session.dataPath]? = some handle := by
    intro session member
    obtain ⟨⟨clientId, entry⟩, isEntry, rfl⟩ := List.mem_map.mp member
    obtain ⟨handle, found, -⟩ :=
      safe.linked.handle clientId entry (Table.lookup_eq_some_iff.mpr isEntry)
    exact ⟨handle, found⟩
  obtain ⟨heap, runs, good, -, activity⟩ :=
    deactivateAll_spec self.globalBudget _ safe.linked.good present
  simp only [VpnSessionCoordinator.closeAll, runs, Option.bind_eq_bind, Option.bind_some]
  refine ⟨_, _, _, rfl, ?_⟩
  refine { linked := ?_, authorized := fun _ _ listed => (nomatch listed), counted := rfl,
           tallied := ?_ }
  · refine { good := good, handle := fun _ _ listed => (nomatch listed), current := ?_,
             quota := fun _ _ listed => (nomatch listed) }
    intro place isActive
    obtain ⟨before, others⟩ := activity place isActive
    obtain ⟨clientId, entry, listed, here⟩ := safe.linked.current place before
    exact absurd here (others entry (List.mem_map_of_mem (Table.lookup_eq_some_iff.mp listed)))
  · obtain ⟨replaced, released, revoked, changed, shutdown, sum, total, one, two,
      three, four, five⟩ := safe.tallied
    have size : (self.state.active.entries.map (·.2)).length = self.state.active.size :=
      List.length_map _
    refine ⟨replaced, released, revoked, changed, shutdown + self.state.active.size, ?_, total, one,
      two, three, four, ?_⟩
    · simp only [Table.size_empty]
      omega
    · simp only [size, saturatingAdd, five]
      omega

end Safe

/-! ## Reload -/

/-- The loop of a reload with these decisions to go: every session that is still
there is authorised or is yet to be decided on. -/
structure Reconciles (registry : VpnIdentityRegistry) (identityQuotas : Table String Nat)
    (commits : Nat) (pending : List (String × ReconcileDecision)) (state : Reconciliation) :
    Prop where
  linked : Linked state.active identityQuotas state.heap
  tallied : Tallied state.metrics commits state.active.size
  decided : ∀ decision ∈ pending, ∃ entry, state.active.lookup decision.1 = some entry ∧
    decision.2 = reconcileDecision registry decision.1 entry
  distinct : (pending.map (·.1)).Nodup
  rest : ∀ clientId entry, state.active.lookup clientId = some entry →
    StillAuthorized registry clientId entry.session ∨ ∃ decision ∈ pending, decision.1 = clientId

namespace Reconciles

variable {registry : VpnIdentityRegistry} {identityQuotas : Table String Nat} {commits : Nat}
  {pending : List (String × ReconcileDecision)} {state : Reconciliation} {clientId : String}
  {decision : ReconcileDecision}

theorem keep (reconciles : Reconciles registry identityQuotas commits
    ((clientId, .keep) :: pending) state) :
    Reconciles registry identityQuotas commits pending state.countKept where
  linked := reconciles.linked
  tallied := reconciles.tallied
  decided := fun decision member =>
    reconciles.decided decision (List.mem_cons_of_mem _ member)
  distinct := (List.nodup_cons.mp reconciles.distinct).2
  rest := by
    intro other entry listed
    rcases reconciles.rest other entry listed with authorized | ⟨decision, member, same⟩
    · exact .inl authorized
    · rcases List.mem_cons.mp member with rfl | later
      · obtain ⟨found, isFound, keeps⟩ := reconciles.decided _ List.mem_cons_self
        subst same
        cases isFound.symm.trans listed
        exact .inl (reconcileDecision_keep.mp keeps.symm)
      · exact .inr ⟨decision, later, same⟩

theorem close (reconciles : Reconciles registry identityQuotas commits
    ((clientId, decision) :: pending) state) (budget : VpnGlobalReassemblyBudget)
    (reason : CloseReason) :
    ∃ after, state.close budget clientId reason = some after ∧
      Reconciles registry identityQuotas commits pending after := by
  obtain ⟨entry, listed, -⟩ := reconciles.decided _ List.mem_cons_self
  dsimp only at listed
  obtain ⟨heap, runs, -, linked⟩ := reconciles.linked.close budget listed
  have size := Table.size_erase listed
  simp only [Reconciliation.close, listed, runs, Option.bind_eq_bind, Option.bind_some]
  refine ⟨_, rfl, ?_⟩
  obtain ⟨notPending, distinct⟩ := List.nodup_cons.mp reconciles.distinct
  have decided : ∀ decision ∈ pending, ∃ entry,
      (state.active.erase clientId).lookup decision.1 = some entry ∧
        decision.2 = reconcileDecision registry decision.1 entry := by
    intro other member
    obtain ⟨found, isFound, is⟩ := reconciles.decided other (List.mem_cons_of_mem _ member)
    have different : other.1 ≠ clientId := by
      rintro rfl
      exact notPending (List.mem_map.mpr ⟨other, member, rfl⟩)
    exact ⟨found, Table.lookup_erase_eq_some.mpr ⟨different, isFound⟩, is⟩
  have rest : ∀ other entry, (state.active.erase clientId).lookup other = some entry →
      StillAuthorized registry other entry.session ∨ ∃ decision ∈ pending, decision.1 = other := by
    intro other entry isListed
    obtain ⟨different, before⟩ := Table.lookup_erase_eq_some.mp isListed
    rcases reconciles.rest other entry before with authorized | ⟨decision, member, same⟩
    · exact .inl authorized
    · rcases List.mem_cons.mp member with rfl | later
      · exact absurd same.symm different
      · exact .inr ⟨decision, later, same⟩
  obtain ⟨replaced, released, revoked, changed, shutdown, sum, total, one, two,
    three, four, five⟩ := reconciles.tallied
  cases reason with
  | identityRevoked =>
    refine { linked := linked, tallied := ?_, decided := decided, distinct := distinct,
             rest := rest }
    refine ⟨replaced, released, revoked + 1, changed, shutdown, ?_, total, one, two, ?_, four, five⟩
    · simp only [Reconciliation.countClosed]
      omega
    · rw [← saturatingAdd_min, ← three]
      rfl
  | policyChanged =>
    refine { linked := linked, tallied := ?_, decided := decided, distinct := distinct,
             rest := rest }
    refine ⟨replaced, released, revoked, changed + 1, shutdown, ?_, total, one, two, three, ?_,
      five⟩
    · simp only [Reconciliation.countClosed]
      omega
    · rw [← saturatingAdd_min, ← four]
      rfl

/-- The whole loop. -/
theorem loop (budget : VpnGlobalReassemblyBudget) :
    ∀ (pending : List (String × ReconcileDecision)) {state : Reconciliation},
      Reconciles registry identityQuotas commits pending state →
      ∃ after, pending.foldlM (Reconciliation.decide budget) state = some after ∧
        Reconciles registry identityQuotas commits [] after := by
  intro pending
  induction pending with
  | nil => exact fun reconciles => ⟨_, rfl, reconciles⟩
  | cons decision pending ih =>
    intro state reconciles
    obtain ⟨clientId, decision⟩ := decision
    have round : ∃ mid, Reconciliation.decide budget state (clientId, decision) = some mid ∧
        Reconciles registry identityQuotas commits pending mid := by
      cases decision with
      | keep => exact ⟨_, rfl, reconciles.keep⟩
      | identityRevoked => exact reconciles.close budget .identityRevoked
      | policyChanged => exact reconciles.close budget .policyChanged
    obtain ⟨mid, first, midReconciles⟩ := round
    obtain ⟨after, ran, afterReconciles⟩ := ih midReconciles
    exact ⟨after, by rw [List.foldlM_cons, first]; exact ran, afterReconciles⟩

end Reconciles

namespace Safe

variable {self : VpnSessionCoordinator} {commits : Nat} (safe : Safe self commits)

include safe

/-- **`replace_registry`.** -/
theorem replaceRegistry (registry : VpnIdentityRegistry) (now : Nat) :
    ∃ report closed after, self.replaceRegistry registry now = some (report, closed, after) ∧
      Safe after commits := by
  have first : Reconciles registry self.state.identityQuotas commits
      (self.state.active.entries.map fun entry =>
        (entry.1, reconcileDecision registry entry.1 entry.2))
      ⟨self.state.active, self.state.metrics, self.heap, ⟨0, 0, 0⟩, []⟩ := {
    linked := safe.linked
    tallied := safe.tallied
    decided := by
      intro decision member
      obtain ⟨entry, isEntry, rfl⟩ := List.mem_map.mp member
      exact ⟨entry.2, Table.lookup_eq_some_iff.mpr isEntry, rfl⟩
    distinct := by
      rw [List.map_map]
      exact self.state.active.nodupKeys
    rest := by
      intro clientId entry listed
      exact .inr ⟨_, List.mem_map_of_mem (Table.lookup_eq_some_iff.mp listed), rfl⟩ }
  obtain ⟨done, ran, reconciled⟩ := Reconciles.loop self.globalBudget _ first
  simp only [VpnSessionCoordinator.replaceRegistry, ran, Option.bind_eq_bind, Option.bind_some]
  refine ⟨_, _, _, rfl, ?_⟩
  have authorized : ∀ clientId entry, done.active.lookup clientId = some entry →
      StillAuthorized registry clientId entry.session := by
    intro clientId entry listed
    rcases reconciled.rest clientId entry listed with authorized | ⟨decision, member, -⟩
    · exact authorized
    · cases member
  obtain ⟨good, handles, rateLimiters⟩ := reconfigureQuotas_spec registry now
    self.state.identityQuotas.entries reconciled.linked.good
  refine { linked := ?_, authorized := authorized, counted := rfl, tallied := reconciled.tallied }
  refine { good := good, handle := ?_, current := ?_, quota := ?_ }
  · intro clientId entry listed
    obtain ⟨handle, found, inner, quota⟩ := reconciled.linked.handle clientId entry listed
    refine ⟨handle, by rw [handles]; exact found, inner, ?_⟩
    exact Table.lookup_retain_eq_some.mpr
      ⟨quota, (authorized clientId entry listed).enabledIdentity⟩
  · rintro place ⟨handle, found, active⟩
    rw [handles] at found
    exact reconciled.linked.current place ⟨handle, found, active⟩
  · intro clientId rateLimiter listed
    rw [rateLimiters]
    exact reconciled.linked.quota clientId rateLimiter (Table.lookup_retain_eq_some.mp listed).1

/-! ## Commit -/

/-- The limiter of a client is there, or is made. -/
theorem quotaEntry (clientId : String) (limits : VpnIdentityLimits) (now : Nat) :
    ∃ rateLimiter identityQuotas heap,
      self.quotaEntry clientId limits now = (rateLimiter, identityQuotas, heap) ∧
        identityQuotas.lookup clientId = some rateLimiter ∧ heap.handles = self.heap.handles ∧
        Linked self.state.active identityQuotas heap := by
  unfold VpnSessionCoordinator.quotaEntry
  cases found : self.state.identityQuotas.lookup clientId with
  | some rateLimiter => exact ⟨_, _, _, rfl, found, rfl, safe.linked⟩
  | none =>
    refine ⟨_, _, _, rfl, AList.lookup_insert _, rfl, ?_⟩
    refine { good := newLimiter_good safe.linked.good limits now,
             handle := ?_, current := safe.linked.current, quota := ?_ }
    · intro other entry listed
      obtain ⟨handle, isHandle, inner, quota⟩ := safe.linked.handle other entry listed
      have different : other ≠ clientId := by
        rintro rfl
        rw [found] at quota
        cases quota
      exact ⟨handle, isHandle, inner, by rw [AList.lookup_insert_ne different, quota]⟩
    · intro other rateLimiter listed
      simp only [newLimiter, List.length_append, List.length_singleton]
      by_cases here : other = clientId
      · subst here
        rw [AList.lookup_insert] at listed
        cases listed
        omega
      · rw [AList.lookup_insert_ne here] at listed
        have := safe.linked.quota other rateLimiter listed
        omega

end Safe

variable {self : VpnSessionCoordinator}

/-- What a permitted commit does to the quotas and the heap, step by step. -/
theorem Safe.establish (safe : Safe self commits)
    (permitted : commitIdentity self.state.registry session = .ok identity) (connection now : Nat) :
    ∃ rateLimiter identityQuotas heap inner inactive mid after,
      self.quotaEntry session.identity.clientId session.identity.limits now =
        (rateLimiter, identityQuotas, heap) ∧
      newInactive identity session.accept.maxIpPacketLen.toNat session.accept.sessionGeneration =
        .ok (inner, inactive) ∧
      (heap.newHandle ⟨inner, inactive, rateLimiter⟩).deactivateReplaced self.globalBudget
        (self.state.active.lookup session.identity.clientId) = some mid ∧
      (mid.reconfigure rateLimiter session.identity.limits now).activate self.globalBudget
        heap.handles.length = some after ∧
      Linked (self.state.active.insert session.identity.clientId
        ⟨session, connection, heap.handles.length⟩) identityQuotas after ∧
      after.ActiveAt heap.handles.length := by
  obtain ⟨-, -, samePolicy⟩ := commitIdentity_ok permitted
  obtain ⟨-, -, policy, limits⟩ := VpnIdentity.hasSameSessionPolicy_iff.mp samePolicy
  obtain ⟨rateLimiter, identityQuotas, heap, isEntry, quota, -, linked⟩ :=
    safe.quotaEntry session.identity.clientId session.identity.limits now
  have sizes := validateSizes_iff.mp (VpnAccept.validate_iff.mp session.valid).sizes
  obtain ⟨inner, inactive, built⟩ := VpnDataPathState.newPolicyInactive_succeeds
    identity.dataPolicy identity.limits session.accept.sessionGeneration ⟨sizes.1, sizes.2.1⟩
  obtain ⟨books, isInactive, isInner⟩ := VpnDataPathState.newPolicyInactive_good built
  have newLinked : Linked self.state.active identityQuotas
      (heap.newHandle ⟨inner, inactive, rateLimiter⟩) := {
    good := newHandle_good linked.good books isInactive (linked.quota _ _ quota)
    handle := by
      intro clientId entry listed
      obtain ⟨handle, found, rest⟩ := linked.handle clientId entry listed
      exact ⟨handle, newHandle_old found, rest⟩
    current := fun place isActive =>
      linked.current place (newHandle_active isInactive isActive)
    quota := linked.quota }
  have innerOf : inner = session.dataPathInner := by
    rw [isInner, VpnNegotiatedSession.dataPathInner, policy, limits]
  obtain ⟨mid, replaces, -, midLinked⟩ := newLinked.replace self.globalBudget
    ⟨session, connection, heap.handles.length⟩
    (newHandle_new ⟨inner, inactive, rateLimiter⟩) innerOf quota
  have reconfigured := midLinked.frame
    (reconfigure_good midLinked.good rateLimiter session.identity.limits now)
    (reconfigure_frame mid rateLimiter session.identity.limits now)
    midLinked.current
  obtain ⟨after, activates, afterLinked, isActive⟩ :=
    reconfigured.activate self.globalBudget (AList.lookup_insert _)
  exact ⟨rateLimiter, identityQuotas, heap, inner, inactive, mid, after, isEntry, built, replaces,
    activates, afterLinked, isActive⟩

/-- A commit counts itself, and the session that it replaces. -/
theorem Tallied.commit {metrics : VpnSessionCoordinatorMetrics}
    {active : Table String ActiveVpnSession} (tallied : Tallied metrics commits active.size)
    (clientId : String) (entry : ActiveVpnSession) (activeSessions : Nat) :
    Tallied { metrics with
        totalCommitted := saturatingAdd u64Max metrics.totalCommitted 1
        replacements := if (active.lookup clientId).isSome then
          saturatingAdd u64Max metrics.replacements 1 else metrics.replacements
        activeSessions := activeSessions }
      (commits + 1) (Table.size (active.insert clientId entry)) := by
  obtain ⟨replaced, released, revoked, changed, shutdown, sum, total, one, rest⟩ := tallied
  have counts : saturatingAdd u64Max metrics.totalCommitted 1 = min (commits + 1) u64Max := by
    rw [total, saturatingAdd_min]
  cases listed : active.lookup clientId with
  | none =>
    have size := Table.size_insert active clientId entry
    have absent := Table.erase_of_lookup_none listed
    rw [absent] at size
    exact ⟨replaced, released, revoked, changed, shutdown, by omega, counts, one, rest⟩
  | some old =>
    have size := Table.size_insert active clientId entry
    have before := Table.size_erase listed
    refine ⟨replaced + 1, released, revoked, changed, shutdown, by omega, counts, ?_, rest⟩
    rw [← saturatingAdd_min, ← one]
    rfl

/-- **`commit`** is refused and leaves all but one counter, or succeeds. -/
theorem Safe.commit (safe : Safe self commits) (session : VpnNegotiatedSession)
    (connection now : Nat) :
    (∃ error, self.commit session connection now =
        some (.error error, [commitRejected connection], self.rejectCommit)) ∨
      ∃ committed closed after,
        self.commit session connection now = some (.ok committed, closed, after) ∧
        Safe after (commits + 1) ∧
        after.state.active.lookup session.identity.clientId =
          some ⟨session, connection, committed.dataPath⟩ ∧
        after.heap.ActiveAt committed.dataPath := by
  unfold VpnSessionCoordinator.commit
  cases permitted : commitIdentity self.state.registry session with
  | error error => exact .inl ⟨error, rfl⟩
  | ok identity =>
    right
    obtain ⟨rateLimiter, identityQuotas, heap, inner, inactive, mid, after, isEntry, built,
      replaces, activates, linked, isActive⟩ := safe.establish permitted connection now
    simp only [isEntry, built, Except.toOption, Option.bind_eq_bind, Option.bind_some, replaces,
      activates]
    refine ⟨_, _, _, rfl, ?_, AList.lookup_insert _, isActive⟩
    refine { linked := linked, authorized := ?_, counted := rfl,
             tallied := safe.tallied.commit _ _ _ }
    intro other remaining listed
    dsimp only at listed
    by_cases here : other = session.identity.clientId
    · subst here
      rw [AList.lookup_insert] at listed
      cases listed
      exact ⟨identity, commitIdentity_ok permitted⟩
    · rw [AList.lookup_insert_ne here] at listed
      exact safe.authorized other remaining listed

/-! ## Runs -/

/-- What happens at a coordinator, with its outcome. -/
inductive CoordinatorEvent where
  | allocated (result : Except VpnManagedSessionError VpnSessionGeneration)
  | committed (session : VpnNegotiatedSession) (now : Nat)
      (result : Except VpnSessionCommitError VpnCommittedSession)
  | released (clientId : String) (sessionGeneration : UInt64) (result : Bool)
  | reloaded (registry : VpnIdentityRegistry) (now : Nat) (report : VpnCoordinatorReloadReport)
  | closedAll (count : Nat)
  | operated (dataPath : Nat) (op : DataPathOp) (reply : DataPathReply) (admitted : List Nat)
  | rehashed

def CoordinatorEvent.isCommit : CoordinatorEvent → Bool
  | .committed _ _ (.ok _) => true
  | _ => false

/-- One operation of the coordinator or of a runtime. A runtime may do to its handle
all but `activate`. -/
inductive CoordinatorStep (self : VpnSessionCoordinator) :
    CoordinatorEvent → VpnSessionCoordinator → Prop
  | allocate : CoordinatorStep self (.allocated self.allocateGeneration.1) self.allocateGeneration.2
  | commit {session : VpnNegotiatedSession} {connection now : Nat}
      {result : Except VpnSessionCommitError VpnCommittedSession} {closed : List ConnectionClose}
      {after : VpnSessionCoordinator}
      (returned : self.commit session connection now = some (result, closed, after)) :
      CoordinatorStep self (.committed session now result) after
  | release {clientId : String} {sessionGeneration : UInt64} {result : Bool}
      {after : VpnSessionCoordinator}
      (returned : self.releaseIfCurrent clientId sessionGeneration = some (result, after)) :
      CoordinatorStep self (.released clientId sessionGeneration result) after
  | reload {registry : VpnIdentityRegistry} {now : Nat} {report : VpnCoordinatorReloadReport}
      {closed : List ConnectionClose} {after : VpnSessionCoordinator}
      (returned : self.replaceRegistry registry now = some (report, closed, after)) :
      CoordinatorStep self (.reloaded registry now report) after
  | closeAll {count : Nat} {closed : List ConnectionClose} {after : VpnSessionCoordinator}
      (returned : self.closeAll = some (count, closed, after)) :
      CoordinatorStep self (.closedAll count) after
  | operate {dataPath : Nat} {op : DataPathOp} {operated : Operated} (allowed : op ≠ .activate)
      (returned : self.heap.operate self.globalBudget dataPath op = some operated) :
      CoordinatorStep self (.operated dataPath op operated.reply operated.admitted)
        { self with heap := operated.heap }
  | rehashHandle {heap : DataPathHeap} (rehash : self.heap.Rehash heap) :
      CoordinatorStep self .rehashed { self with heap := heap }
  | rehash {active : Table String ActiveVpnSession} {identityQuotas : Table String Nat}
      (sameActive : self.state.active.Rehash active)
      (sameQuotas : self.state.identityQuotas.Rehash identityQuotas) :
      CoordinatorStep self .rehashed
        { self with state := { self.state with
          active := active, identityQuotas := identityQuotas } }

/-- A sequence of steps with what happened, newest first. -/
inductive CoordinatorRun (first : VpnSessionCoordinator) :
    List CoordinatorEvent → VpnSessionCoordinator → Prop
  | start : CoordinatorRun first [] first
  | step {log : List CoordinatorEvent} {self after : VpnSessionCoordinator}
      {event : CoordinatorEvent} (earlier : CoordinatorRun first log self)
      (next : CoordinatorStep self event after) : CoordinatorRun first (event :: log) after

theorem DataPathOp.activeAfter_false {op : DataPathOp} (allowed : op ≠ .activate) :
    op.activeAfter false = false := by
  cases op with
  | activate => exact absurd rfl allowed
  | _ => rfl

theorem Safe.rehash (safe : Safe self commits) {active : Table String ActiveVpnSession}
    {identityQuotas : Table String Nat} (sameActive : self.state.active.Rehash active)
    (sameQuotas : self.state.identityQuotas.Rehash identityQuotas) :
    Safe { self with state := { self.state with
      active := active, identityQuotas := identityQuotas } } commits where
  linked := {
    good := safe.linked.good
    handle := by
      intro clientId entry listed
      rw [← sameActive.lookup_eq] at listed
      rw [← sameQuotas.lookup_eq]
      exact safe.linked.handle clientId entry listed
    current := by
      intro place isActive
      obtain ⟨clientId, entry, listed, here⟩ := safe.linked.current place isActive
      exact ⟨clientId, entry, by rw [← sameActive.lookup_eq, listed], here⟩
    quota := by
      intro clientId rateLimiter listed
      rw [← sameQuotas.lookup_eq] at listed
      exact safe.linked.quota clientId rateLimiter listed }
  authorized := by
    intro clientId entry listed
    rw [← sameActive.lookup_eq] at listed
    exact safe.authorized clientId entry listed
  counted := safe.counted.trans sameActive.size_eq
  tallied := by
    have tallied := safe.tallied
    rw [sameActive.size_eq] at tallied
    exact tallied

/-- **One step** keeps the invariant. -/
theorem Safe.step {after : VpnSessionCoordinator} {log : List CoordinatorEvent}
    {event : CoordinatorEvent} (safe : Safe self (log.countP (·.isCommit)))
    (step : CoordinatorStep self event after) :
    Safe after ((event :: log).countP (·.isCommit)) := by
  cases step with
  | allocate => exact safe.allocateGeneration
  | @commit session connection now result closed _ returned =>
    rcases safe.commit session connection now with ⟨error, refused⟩ |
      ⟨committed, others, later, succeeded, laterSafe, -⟩
    · cases returned.symm.trans refused
      exact safe.rejectCommit
    · cases returned.symm.trans succeeded
      rw [List.countP_cons_of_pos rfl]
      exact laterSafe
  | release returned =>
    obtain ⟨released, later, runs, laterSafe⟩ := safe.releaseIfCurrent _ _
    cases returned.symm.trans runs
    exact laterSafe
  | reload returned =>
    obtain ⟨report, closed, later, runs, laterSafe⟩ := safe.replaceRegistry _ _
    cases returned.symm.trans runs
    exact laterSafe
  | closeAll returned =>
    obtain ⟨count, closed, later, runs, laterSafe⟩ := safe.closeAll
    cases returned.symm.trans runs
    exact laterSafe
  | operate allowed returned =>
    obtain ⟨good, frame, activity⟩ := operate_frame safe.linked.good returned
    refine safe.frame good frame fun place isActive => ?_
    rcases activity place isActive with before | ⟨-, activated⟩
    · exact before
    · rw [DataPathOp.activeAfter_false allowed] at activated
      cases activated
  | rehashHandle rehash =>
    obtain ⟨good, frame, activity⟩ := rehash.spec safe.linked.good
    exact safe.frame good frame activity
  | rehash sameActive sameQuotas => exact safe.rehash sameActive sameQuotas

theorem CoordinatorRun.safe {first : VpnSessionCoordinator} {log : List CoordinatorEvent}
    (safe : Safe first 0) (run : CoordinatorRun first log self) :
    Safe self (log.countP (·.isCommit)) := by
  induction run with
  | start => exact safe
  | step earlier next ih => exact ih.step next

/-- **The coordinator is safe over whole runs.** In every state that it reaches:
an active session is authorised by the current registry, with its policy and limits;
only the handle of an active session is active; the metrics add up as long as the
commits can be counted; an active client has a limiter and its handle uses it; a
refused commit changes one counter; and no operation fails half way. -/
theorem coordinator_safe {registry : VpnIdentityRegistry} {initialGeneration : UInt64}
    {globalReassemblyLimit globalInflightLimit : Nat} {first self : VpnSessionCoordinator}
    {log : List CoordinatorEvent}
    (built : withResourceLimits registry initialGeneration
      globalReassemblyLimit globalInflightLimit = .ok first)
    (run : CoordinatorRun first log self) :
    (∀ clientId entry, self.state.active.lookup clientId = some entry →
      ∃ identity, self.state.registry.authorize entry.session.fingerprint = .ok identity ∧
        identity.enabled = true ∧ identity.clientId = clientId ∧
        identity.dataPolicy = entry.session.identity.dataPolicy ∧
        identity.limits = entry.session.identity.limits) ∧
    (∀ dataPath, self.heap.ActiveAt dataPath →
      ∃ clientId entry, self.state.active.lookup clientId = some entry ∧
        entry.dataPath = dataPath) ∧
    self.state.metrics.activeSessions = self.state.active.size ∧
    (log.countP (·.isCommit) ≤ u64Max →
      self.state.metrics.totalCommitted = self.state.metrics.activeSessions +
        self.state.metrics.replacements + self.state.metrics.normalReleases +
        self.state.metrics.identityRevocations + self.state.metrics.policyChangeCloses +
        self.state.metrics.shutdownCloses) ∧
    (∀ clientId entry, self.state.active.lookup clientId = some entry →
      ∃ handle, self.heap.handles[entry.dataPath]? = some handle ∧
        self.state.identityQuotas.lookup clientId = some handle.rateLimiter) ∧
    (∀ session connection now error closed after,
      self.commit session connection now = some (.error error, closed, after) →
        after = { self with state := { self.state with metrics := { self.state.metrics with
          commitRejections := saturatingAdd u64Max self.state.metrics.commitRejections 1 } } }) ∧
    (∀ session connection now, self.commit session connection now ≠ none) ∧
    (∀ clientId sessionGeneration, self.releaseIfCurrent clientId sessionGeneration ≠ none) ∧
    (∀ registry now, self.replaceRegistry registry now ≠ none) ∧ self.closeAll ≠ none := by
  have safe := run.safe (.start built)
  refine ⟨?_, safe.linked.current, safe.counted, ?_, ?_, ?_, ?_, ?_, ?_, ?_⟩
  · intro clientId entry listed
    obtain ⟨identity, authorized, sameClient, samePolicy⟩ := safe.authorized clientId entry listed
    obtain ⟨-, -, policy, limits⟩ := VpnIdentity.hasSameSessionPolicy_iff.mp samePolicy
    exact ⟨identity, authorized, (VpnIdentityRegistry.authorize_iff.mp authorized).2.2, sameClient,
      policy.symm, limits.symm⟩
  · intro countable
    rw [safe.counted]
    exact safe.tallied.balance countable
  · intro clientId entry listed
    obtain ⟨handle, found, -, quota⟩ := safe.linked.handle clientId entry listed
    exact ⟨handle, found, quota⟩
  · intro session connection now error closed after returned
    rcases safe.commit session connection now with ⟨_, refused⟩ | ⟨_, _, _, succeeded, -⟩
    · cases returned.symm.trans refused
      rfl
    · cases returned.symm.trans succeeded
  · intro session connection now panics
    rcases safe.commit session connection now with ⟨_, refused⟩ | ⟨_, _, _, succeeded, -⟩
    · cases panics.symm.trans refused
    · cases panics.symm.trans succeeded
  · intro clientId sessionGeneration panics
    obtain ⟨_, _, runs, -⟩ := safe.releaseIfCurrent clientId sessionGeneration
    cases panics.symm.trans runs
  · intro registry now panics
    obtain ⟨_, _, _, runs, -⟩ := safe.replaceRegistry registry now
    cases panics.symm.trans runs
  · intro panics
    obtain ⟨_, _, _, runs, -⟩ := safe.closeAll
    cases panics.symm.trans runs

/-! The example session is committed, and its client gets a second certificate. -/

def exampleCoordinator : VpnSessionCoordinator where
  state := ⟨exampleRegistry, ∅, .default, ∅⟩
  nextGeneration := 1
  globalBudget := exampleBudget
  heap := .empty

theorem exampleCoordinator_built :
    withResourceLimits exampleRegistry 1 65535 1024 =
      .ok exampleCoordinator := rfl

def exampleRotated : VpnIdentityRegistry where
  serverIpv4 := exampleRegistry.serverIpv4
  serverIpv6 := exampleRegistry.serverIpv6
  identities := [{ exampleIdentity with
    fingerprints := [exampleFingerprint, ⟨Vector.replicate 32 8⟩], valid := by decide }]
  index := { exampleRegistry.index with
    identityByFingerprint :=
      exampleRegistry.index.identityByFingerprint.insert ⟨Vector.replicate 32 8⟩ 0 }
  built := rfl

def exampleReloaded : Option VpnSessionCoordinator :=
  (exampleCoordinator.commit exampleSession 5 100).bind fun committed =>
    (committed.2.2.replaceRegistry exampleRotated 150).map (·.2.2)

theorem exampleReloaded_run (made : exampleReloaded = some self) :
    ∃ log, CoordinatorRun exampleCoordinator log self := by
  obtain ⟨⟨_, _, committed⟩, commits, made⟩ := Option.bind_eq_some_iff.mp made
  obtain ⟨⟨_, _, reloaded⟩, reloads, rfl⟩ := Option.map_eq_some_iff.mp made
  exact ⟨_, (CoordinatorRun.start.step (.commit commits)).step (.reload reloads)⟩

theorem coordinator_safe_example :
    ∃ self, exampleReloaded = some self ∧ self.state.registry.fingerprintCount = 2 ∧
      self.state.active.size = 1 ∧ self.state.metrics.activeSessions = 1 := by
  have evaluated : exampleReloaded.map (fun self =>
      (self.state.registry.fingerprintCount, self.state.active.size)) = some (2, 1) := by
    decide +kernel
  obtain ⟨self, made, counts⟩ := Option.map_eq_some_iff.mp evaluated
  obtain ⟨fingerprints, size⟩ := Prod.mk.inj counts
  obtain ⟨log, run⟩ := exampleReloaded_run made
  exact ⟨self, made, fingerprints, size,
    (coordinator_safe exampleCoordinator_built run).2.2.1.trans size⟩

end FlowWeave.Vpn
