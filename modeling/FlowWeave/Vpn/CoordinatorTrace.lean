/-
# Vpn.CoordinatorTrace — what the coordinator does on its heap

Each operation of the coordinator has a lemma that says which `HeapRun` it is.
`CoordinatorRun.extends` is the first consequence: a handle keeps its place, its policy
and its limiter over every run.
-/
import FlowWeave.Vpn.CoordinatorSafety
import FlowWeave.Vpn.HeapTrace

namespace FlowWeave.Vpn

open Theory VpnSessionCoordinator DataPathHeap

set_option autoImplicit false

namespace DataPathHeap

variable {heap after : DataPathHeap} {budget : VpnGlobalReassemblyBudget}

theorem deactivateReplaced_switches {replaced : Option ActiveVpnSession}
    (ran : heap.deactivateReplaced budget replaced = some after) :
    heap.SwitchesTo budget after := by
  cases replaced with
  | none =>
    cases ran
    exact .refl heap
  | some replaced => exact deactivate_switches ran

/-- The limiters that a reload reconfigures, with the limits of their clients. -/
theorem reconfigureQuotas_run (registry : VpnIdentityRegistry) (now : Nat)
    (quotas : List (Sigma fun _ : String => Nat)) :
    ∀ heap : DataPathHeap, ∃ events,
      HeapRun budget heap events (quotas.foldl (reconfigureQuota registry now) heap) ∧
      ∀ event ∈ events, ∃ quota ∈ quotas, ∃ identity,
        registry.enabledIdentity quota.1 = some identity ∧
          event = .reconfigured quota.2 identity.limits now := by
  induction quotas with
  | nil => exact fun heap => ⟨[], .done heap, by simp⟩
  | cons quota quotas ih =>
    intro heap
    rw [List.foldl_cons]
    cases found : registry.enabledIdentity quota.1 with
    | none =>
      rw [show reconfigureQuota registry now heap quota = heap by rw [reconfigureQuota, found]]
      obtain ⟨events, run, reconfigures⟩ := ih heap
      exact ⟨events, run, by grind⟩
    | some identity =>
      rw [show reconfigureQuota registry now heap quota =
        heap.reconfigure quota.2 identity.limits now by rw [reconfigureQuota, found]]
      obtain ⟨events, run, reconfigures⟩ := ih (heap.reconfigure quota.2 identity.limits now)
      exact ⟨_, .next (.reconfigure quota.2 identity.limits now) run, by grind⟩

end DataPathHeap

/-- Sessions go, and their handles are switched off. -/
structure Reconciliation.Drops (budget : VpnGlobalReassemblyBudget)
    (before after : Reconciliation) : Prop where
  active : ∀ clientId entry, after.active.lookup clientId = some entry →
    before.active.lookup clientId = some entry
  heap : before.heap.SwitchesTo budget after.heap

/-- The loop of a reload only removes sessions. -/
theorem Reconciliation.decide_drops {budget : VpnGlobalReassemblyBudget}
    {self after : Reconciliation} (decisions : List (String × ReconcileDecision))
    (ran : decisions.foldlM (Reconciliation.decide budget) self = some after) :
    Drops budget self after := by
  refine Checks.foldlM_keeps (Drops budget) (fun _ => ⟨fun _ _ listed => listed, .refl _⟩)
    (fun first second => ⟨fun clientId entry listed =>
      first.active clientId entry (second.active clientId entry listed),
      first.heap.trans second.heap⟩) ?_ decisions ran
  intro state decision later decides
  have closes : ∀ {clientId reason}, state.close budget clientId reason = some later →
      Drops budget state later := by
    intro clientId reason returned
    simp only [Reconciliation.close, Option.bind_eq_bind, Option.bind_eq_some_iff] at returned
    obtain ⟨active, -, heap, deactivates, same⟩ := returned
    cases same
    refine ⟨fun _ _ listed => ?_, ?_⟩
    · cases reason <;> exact (Table.lookup_erase_eq_some.mp listed).2
    · cases reason <;> exact deactivate_switches deactivates
  obtain ⟨clientId, decision⟩ := decision
  cases decision with
  | keep =>
    cases decides
    exact ⟨fun _ _ listed => listed, .refl _⟩
  | identityRevoked => exact closes decides
  | policyChanged => exact closes decides

namespace VpnSessionCoordinator

/-- No session and no generation more. -/
structure Drops (before after : VpnSessionCoordinator) : Prop where
  globalBudget : after.globalBudget = before.globalBudget
  nextGeneration : after.nextGeneration = before.nextGeneration
  active : ∀ clientId entry, after.state.active.lookup clientId = some entry →
    before.state.active.lookup clientId = some entry

variable {self after : VpnSessionCoordinator}

theorem releaseIfCurrent_run {clientId : String} {sessionGeneration : UInt64} {released : Bool}
    (returned : self.releaseIfCurrent clientId sessionGeneration = some (released, after)) :
    Drops self after ∧ after.state.registry = self.state.registry ∧
      after.state.identityQuotas = self.state.identityQuotas ∧
      self.heap.SwitchesTo self.globalBudget after.heap := by
  unfold releaseIfCurrent at returned
  split at returned
  · cases returned
    exact ⟨⟨rfl, rfl, fun _ _ listed => listed⟩, rfl, rfl, .refl _⟩
  · simp only [Option.bind_eq_bind, Option.bind_eq_some_iff] at returned
    obtain ⟨active, -, heap, deactivates, same⟩ := returned
    cases same
    exact ⟨⟨rfl, rfl, fun _ _ listed => (Table.lookup_erase_eq_some.mp listed).2⟩, rfl, rfl,
      deactivate_switches deactivates⟩

variable {closed : List ConnectionClose} {now : Nat}

theorem closeAll_run {count : Nat} (returned : self.closeAll = some (count, closed, after)) :
    Drops self after ∧ after.state.registry = self.state.registry ∧
      self.heap.SwitchesTo self.globalBudget after.heap := by
  simp only [closeAll, Option.bind_eq_bind, Option.bind_eq_some_iff] at returned
  obtain ⟨heap, deactivates, same⟩ := returned
  cases same
  refine ⟨⟨rfl, rfl, fun clientId entry found => ?_⟩, rfl, Checks.foldlM_keeps (SwitchesTo _)
    .refl .trans deactivate_switches _ deactivates⟩
  cases found

theorem replaceRegistry_run {registry : VpnIdentityRegistry} {report : VpnCoordinatorReloadReport}
    (returned : self.replaceRegistry registry now = some (report, closed, after)) :
    Drops self after ∧ after.state.registry = registry ∧
      after.state.identityQuotas = self.state.identityQuotas.retain
        (fun clientId _ => (registry.enabledIdentity clientId).isSome) ∧
      ∃ events, HeapRun self.globalBudget self.heap events after.heap ∧
        ∀ event ∈ events, event.Switches ∨ ∃ clientId rateLimiter identity,
          self.state.identityQuotas.lookup clientId = some rateLimiter ∧
            registry.enabledIdentity clientId = some identity ∧
            event = .reconfigured rateLimiter identity.limits now := by
  simp only [replaceRegistry, Option.bind_eq_bind, Option.bind_eq_some_iff] at returned
  obtain ⟨done, decides, same⟩ := returned
  cases same
  obtain ⟨sub, events, run, switching⟩ := Reconciliation.decide_drops _ decides
  obtain ⟨more, runMore, reconfigures⟩ := reconfigureQuotas_run registry now
    self.state.identityQuotas.entries done.heap
  refine ⟨⟨rfl, rfl, sub⟩, rfl, rfl, events ++ more, run.append runMore, fun event member => ?_⟩
  rcases List.mem_append.mp member with first | second
  · exact .inl (switching event first)
  · obtain ⟨quota, listed, identity, enabled, is⟩ := reconfigures event second
    exact .inr ⟨quota.1, quota.2, identity, Table.lookup_eq_some_iff.mpr listed, enabled, is⟩

/-- What a commit leaves besides its heap and its limiter. -/
structure Commits (before : VpnSessionCoordinator) (session : VpnNegotiatedSession)
    (connection : Nat) (committed : VpnCommittedSession) (after : VpnSessionCoordinator) :
    Prop where
  globalBudget : after.globalBudget = before.globalBudget
  nextGeneration : after.nextGeneration = before.nextGeneration
  registry : after.state.registry = before.state.registry
  active : after.state.active = before.state.active.insert session.identity.clientId
    ⟨session, connection, committed.dataPath⟩
  report : committed.report = ⟨session.accept.sessionGeneration,
    (before.state.active.lookup session.identity.clientId).map
      (·.session.accept.sessionGeneration)⟩

/-- A commit that succeeds makes the client's limiter if there is none, makes the handle,
switches the replaced one off, reconfigures the limiter and switches the handle on. -/
theorem commit_run {session : VpnNegotiatedSession} {connection : Nat}
    {committed : VpnCommittedSession}
    (returned : self.commit session connection now = some (.ok committed, closed, after)) :
    Commits self session connection committed after ∧ ∃ identity heap handle mid later,
      commitIdentity self.state.registry session = .ok identity ∧
      self.quotaEntry session.identity.clientId session.identity.limits now =
        (handle.rateLimiter, after.state.identityQuotas, heap) ∧
      newInactive identity session.accept.maxIpPacketLen.toNat session.accept.sessionGeneration =
        .ok (handle.inner, handle.state) ∧
      committed.dataPath = heap.handles.length ∧
      (heap.newHandle handle).SwitchesTo self.globalBudget mid ∧
      later = mid.reconfigure handle.rateLimiter session.identity.limits now ∧
      later.SwitchesTo self.globalBudget after.heap := by
  unfold commit at returned
  dsimp only at returned
  split at returned
  · cases returned
  · rename_i identity permitted
    obtain ⟨⟨rateLimiter, identityQuotas, heap⟩, isEntry⟩ :
        ∃ entry, self.quotaEntry session.identity.clientId session.identity.limits now = entry :=
      ⟨_, rfl⟩
    simp only [isEntry, Option.bind_eq_bind, Option.bind_eq_some_iff] at returned
    obtain ⟨⟨inner, inactive⟩, built, mid, replaces, later, activates, same⟩ := returned
    cases same
    rw [← Option.map_id_apply (x := Except.toOption _)] at built
    obtain ⟨_, isNew, rfl⟩ := Checks.ok_of_toOption_map built
    exact ⟨⟨rfl, rfl, rfl, rfl, rfl⟩, identity, heap, ⟨inner, inactive, rateLimiter⟩, mid, _,
      permitted, isEntry, isNew, rfl, deactivateReplaced_switches replaces, rfl,
      activate_switches activates⟩

theorem commit_refused {session : VpnNegotiatedSession} {connection : Nat}
    {error : VpnSessionCommitError}
    (returned : self.commit session connection now = some (.error error, closed, after)) :
    after = self.rejectCommit ∧ commitIdentity self.state.registry session = .error error := by
  unfold commit at returned
  dsimp only at returned
  split at returned
  · rename_i refused
    cases returned
    exact ⟨rfl, refused⟩
  · simp only [Option.bind_eq_bind, Option.bind_eq_some_iff] at returned
    obtain ⟨_, _, _, _, _, _, same⟩ := returned
    cases same

theorem quotaEntry_run (budget : VpnGlobalReassemblyBudget) {clientId : String}
    {limits : VpnIdentityLimits} {rateLimiter : Nat} {identityQuotas : Table String Nat}
    {heap : DataPathHeap}
    (isEntry : self.quotaEntry clientId limits now = (rateLimiter, identityQuotas, heap)) :
    (self.state.identityQuotas.lookup clientId = some rateLimiter ∧
        identityQuotas = self.state.identityQuotas ∧ heap = self.heap) ∨
      (self.state.identityQuotas.lookup clientId = none ∧
        rateLimiter = self.heap.rateLimiters.length ∧
        identityQuotas = self.state.identityQuotas.insert clientId rateLimiter ∧
        HeapStep budget self.heap (.limiterMade limits now) heap) := by
  unfold quotaEntry at isEntry
  split at isEntry
  · rename_i found
    cases isEntry
    exact .inl ⟨found, rfl, rfl⟩
  · rename_i absent
    cases isEntry
    exact .inr ⟨absent, rfl, rfl, .newLimiter limits now⟩

end VpnSessionCoordinator

/-! ## Runs -/

theorem CoordinatorStep.extends {self after : VpnSessionCoordinator} {event : CoordinatorEvent}
    (step : CoordinatorStep self event after) :
    self.heap.Extends after.heap ∧ after.globalBudget = self.globalBudget := by
  cases step with
  | allocate =>
    rcases self.allocateGeneration_cases with ⟨_, -, same⟩ | same <;>
      exact same ▸ ⟨.refl _, rfl⟩
  | @commit session connection now result closed _ returned =>
    cases result with
    | error error =>
      obtain ⟨rfl, -⟩ := commit_refused returned
      exact ⟨.refl _, rfl⟩
    | ok committed =>
      obtain ⟨left, _, heap, handle, mid, _, -, isEntry, -, -, switchOff, rfl, switchOn⟩ :=
        commit_run returned
      have made : self.heap.Extends heap := by
        rcases quotaEntry_run self.globalBudget isEntry with
          ⟨-, -, rfl⟩ | ⟨-, -, -, makes⟩
        · exact .refl _
        · exact makes.extends
      have old := made.trans (.newHandle handle)
      -- the handles of `mid` stay when the limiter is reconfigured
      exact ⟨(old.trans switchOff.extends).trans switchOn.extends, left.globalBudget⟩
  | release returned =>
    obtain ⟨drops, -, -, switches⟩ := releaseIfCurrent_run returned
    exact ⟨switches.extends, drops.globalBudget⟩
  | reload returned =>
    obtain ⟨drops, -, -, events, run, -⟩ := replaceRegistry_run returned
    exact ⟨run.extends, drops.globalBudget⟩
  | closeAll returned =>
    obtain ⟨drops, -, switches⟩ := closeAll_run returned
    exact ⟨switches.extends, drops.globalBudget⟩
  | operate allowed returned => exact ⟨(HeapStep.operate returned).extends, rfl⟩
  | rehashHandle rehash =>
    have step : HeapStep self.globalBudget self.heap .rehashed _ := .rehash rehash
    exact ⟨step.extends, rfl⟩
  | rehash sameActive sameQuotas => exact ⟨.refl _, rfl⟩

/-- **Handles stay** over whole runs. -/
theorem CoordinatorRun.extends {first self : VpnSessionCoordinator} {log : List CoordinatorEvent}
    (run : CoordinatorRun first log self) : first.heap.Extends self.heap := by
  induction run with
  | start => exact .refl _
  | step earlier next ih => exact ih.trans next.extends.1

end FlowWeave.Vpn
