/-
# Vpn.Handshakes — concurrent handshakes and the generations of their sessions

A handshake of the server (`vpn_server_managed_control_handshake`) allocates a generation,
takes a snapshot of the registry, negotiates, and commits; the runtime of a committed
session releases it with its own client id and generation. Between any two of these steps
other handshakes, releases, reloads, `close_all` and the data paths may take theirs.
`HandshakeSystem` is a coordinator with its handshakes, in the order of their allocations.

`Ordered` is the invariant: generations grow in that order and stay below the next one, and
every active session is one that a handshake has committed under its own generation.

* `release_only_own` — a release ends the session of its own handshake or does nothing, and
  does nothing once that session is gone;
* `commit_supersedes_iff` — a commit has a greater generation than the session it replaces
  exactly when that one's handshake allocated first;
* `commit_goes_back` — the other order happens;
* `ended_session_silent` — the handle of a session that is gone stays closed.
-/
import FlowWeave.Vpn.CoordinatorTrace

namespace FlowWeave.Vpn

open Theory Theory.MachineInt VpnSessionCoordinator

set_option autoImplicit false

/-! ## Handshakes -/

inductive HandshakePhase where
  | allocated
  | snapshot (registry : VpnIdentityRegistry)
  | negotiated (session : VpnNegotiatedSession)
  /-- Committed; the session's runtime has the handle. -/
  | active (session : VpnNegotiatedSession) (dataPath : Nat)
  | ended

def HandshakePhase.isActive : HandshakePhase → Bool
  | .active _ _ => true
  | _ => false

structure Handshake where
  generation : VpnSessionGeneration
  phase : HandshakePhase

structure HandshakeSystem where
  coordinator : VpnSessionCoordinator
  /-- In the order in which they allocated their generations. -/
  handshakes : List Handshake

/-- What happens at the coordinator besides handshakes and releases. -/
def CoordinatorEvent.foreign : CoordinatorEvent → Bool
  | .reloaded .. | .closedAll _ | .operated .. | .rehashed => true
  | _ => false

namespace HandshakeSystem

/-- A handshake gets to its next phase. -/
def advance (self : HandshakeSystem) (i : Nat) (generation : VpnSessionGeneration)
    (phase : HandshakePhase) : HandshakeSystem :=
  { self with handshakes := self.handshakes.set i ⟨generation, phase⟩ }

inductive Step (self : HandshakeSystem) : HandshakeSystem → Prop
  | allocate {generation : VpnSessionGeneration}
      (returned : self.coordinator.allocateGeneration.1 = .ok generation) :
      Step self ⟨self.coordinator.allocateGeneration.2,
        self.handshakes ++ [⟨generation, .allocated⟩]⟩
  | exhausted {error : VpnManagedSessionError}
      (returned : self.coordinator.allocateGeneration.1 = .error error) :
      Step self { self with coordinator := self.coordinator.allocateGeneration.2 }
  | snapshot {i : Nat} {generation : VpnSessionGeneration}
      (found : self.handshakes[i]? = some ⟨generation, .allocated⟩) :
      Step self (self.advance i generation (.snapshot self.coordinator.state.registry))
  | negotiate {i : Nat} {generation : VpnSessionGeneration} {registry : VpnIdentityRegistry}
      {fingerprint : VpnCertificateFingerprint} {hello : VpnHello}
      {config : VpnServerNegotiationConfig} {session : VpnNegotiatedSession}
      (found : self.handshakes[i]? = some ⟨generation, .snapshot registry⟩)
      (negotiated : negotiateVpnHello registry fingerprint hello config generation = .ok session) :
      Step self (self.advance i generation (.negotiated session))
  /-- A rejected hello, an error of the connection or a timeout. -/
  | fail {i : Nat} {generation : VpnSessionGeneration} {phase : HandshakePhase}
      (found : self.handshakes[i]? = some ⟨generation, phase⟩)
      (pending : phase.isActive = false) :
      Step self (self.advance i generation .ended)
  | commit {i : Nat} {generation : VpnSessionGeneration} {session : VpnNegotiatedSession}
      {connection now : Nat} {committed : VpnCommittedSession} {closed : List ConnectionClose}
      {after : VpnSessionCoordinator}
      (found : self.handshakes[i]? = some ⟨generation, .negotiated session⟩)
      (returned : self.coordinator.commit session connection now =
        some (.ok committed, closed, after)) :
      Step self ({ self with coordinator := after }.advance i generation
        (.active session committed.dataPath))
  | refuse {i : Nat} {generation : VpnSessionGeneration} {session : VpnNegotiatedSession}
      {connection now : Nat} {error : VpnSessionCommitError} {closed : List ConnectionClose}
      {after : VpnSessionCoordinator}
      (found : self.handshakes[i]? = some ⟨generation, .negotiated session⟩)
      (returned : self.coordinator.commit session connection now =
        some (.error error, closed, after)) :
      Step self ({ self with coordinator := after }.advance i generation .ended)
  | release {i : Nat} {generation : VpnSessionGeneration} {session : VpnNegotiatedSession}
      {dataPath : Nat} {released : Bool} {after : VpnSessionCoordinator}
      (found : self.handshakes[i]? = some ⟨generation, .active session dataPath⟩)
      (returned : self.coordinator.releaseIfCurrent session.identity.clientId
        session.accept.sessionGeneration = some (released, after)) :
      Step self { self with coordinator := after }
  | other {event : CoordinatorEvent} {after : VpnSessionCoordinator}
      (step : CoordinatorStep self.coordinator event after) (foreign : event.foreign = true) :
      Step self { self with coordinator := after }

inductive Run (first : HandshakeSystem) : HandshakeSystem → Prop
  | start : Run first first
  | step {self after : HandshakeSystem} (earlier : Run first self) (next : Step self after) :
      Run first after

end HandshakeSystem

/-! ## What the coordinator's operations keep -/

variable {self : VpnSessionCoordinator}

theorem CoordinatorStep.drops {after : VpnSessionCoordinator} {event : CoordinatorEvent}
    (step : CoordinatorStep self event after) (foreign : event.foreign = true) :
    Drops self after := by
  cases step with
  | allocate => cases foreign
  | commit returned => cases foreign
  | release returned => cases foreign
  | reload returned => exact (replaceRegistry_run returned).1
  | closeAll returned => exact (closeAll_run returned).1
  | operate allowed returned => exact ⟨rfl, rfl, fun _ _ listed => listed⟩
  | rehashHandle rehash => exact ⟨rfl, rfl, fun _ _ listed => listed⟩
  | rehash sameActive sameQuotas =>
    exact ⟨rfl, rfl, fun clientId _ listed => (sameActive.lookup_eq clientId).trans listed⟩

/-! ## The invariant -/

/-- What an allocation returns and leaves. -/
theorem VpnSessionCoordinator.allocateGeneration_ok {generation : VpnSessionGeneration}
    (returned : self.allocateGeneration.1 = .ok generation) :
    generation.value = self.nextGeneration ∧
      self.allocateGeneration.2 = { self with nextGeneration := self.nextGeneration + 1 } := by
  rcases self.allocateGeneration_cases with ⟨next, isNext, same⟩ | same <;> rw [same] at returned ⊢
  · cases returned
    exact ⟨isNext, rfl⟩
  · cases returned

theorem VpnSessionCoordinator.allocateGeneration_error {error : VpnManagedSessionError}
    (returned : self.allocateGeneration.1 = .error error) : self.allocateGeneration.2 = self := by
  rcases self.allocateGeneration_cases with ⟨_, -, same⟩ | same <;> rw [same] at returned ⊢
  cases returned

/-- The session of a handshake that has come so far. -/
def HandshakePhase.session? : HandshakePhase → Option VpnNegotiatedSession
  | .negotiated session => some session
  | .active session _ => some session
  | _ => none

namespace HandshakeSystem

def generations (self : HandshakeSystem) : List UInt64 :=
  self.handshakes.map (·.generation.value)

/-- The invariant of concurrent handshakes. -/
structure Ordered (system : HandshakeSystem) : Prop where
  increasing : system.generations.Pairwise (· < ·)
  next : system.coordinator.nextGeneration = 0 ∨
    ∀ generation ∈ system.generations, generation < system.coordinator.nextGeneration
  sessions : ∀ (i : Nat) handshake session, system.handshakes[i]? = some handshake →
    handshake.phase.session? = some session →
      session.accept.sessionGeneration = handshake.generation.value
  owned : ∀ clientId entry, system.coordinator.state.active.lookup clientId = some entry →
    entry.session.identity.clientId = clientId ∧
      ∃ (i : Nat) (generation : VpnSessionGeneration), system.handshakes[i]? =
        some ⟨generation, .active entry.session entry.dataPath⟩

section Advance

variable {self : HandshakeSystem} {i : Nat} {generation : VpnSessionGeneration}
  {phase : HandshakePhase} (found : self.handshakes[i]? = some ⟨generation, phase⟩)

include found

theorem advance_generations (next : HandshakePhase) :
    (self.advance i generation next).generations = self.generations := by
  obtain ⟨inside, here⟩ := List.getElem?_eq_some_iff.mp found
  have bound : i < (self.handshakes.map (·.generation.value)).length := by simpa using inside
  have same : (self.handshakes.map (·.generation.value))[i] = generation.value := by
    rw [List.getElem_map, here]
  rw [generations, advance, List.map_set, ← same, List.set_getElem_self]
  rfl

theorem advance_same (next : HandshakePhase) :
    (self.advance i generation next).handshakes[i]? = some ⟨generation, next⟩ := by
  obtain ⟨inside, -⟩ := List.getElem?_eq_some_iff.mp found
  exact List.getElem?_set_self inside

/-- A handshake that advances is not one that had an active session. -/
theorem advance_active (pending : phase.isActive = false) (next : HandshakePhase) {j : Nat}
    {other : VpnSessionGeneration}
    {session : VpnNegotiatedSession} {dataPath : Nat}
    (active : self.handshakes[j]? = some ⟨other, .active session dataPath⟩) :
    (self.advance i generation next).handshakes[j]? = some ⟨other, .active session dataPath⟩ := by
  have different : i ≠ j := by
    rintro rfl
    cases found.symm.trans active
    cases pending
  rw [advance, List.getElem?_set_ne different]
  exact active

end Advance

namespace Ordered

variable {self : HandshakeSystem} (ordered : self.Ordered)

include ordered

variable {generation : VpnSessionGeneration}

/-- A handshake goes on, and no session is added. -/
theorem advance {i : Nat} {phase next : HandshakePhase}
    (found : self.handshakes[i]? = some ⟨generation, phase⟩) (pending : phase.isActive = false)
    (sameGeneration : ∀ session, next.session? = some session →
      session.accept.sessionGeneration = generation.value) :
    (self.advance i generation next).Ordered where
  increasing := by
    rw [advance_generations found]
    exact ordered.increasing
  next := by
    rw [advance_generations found]
    exact ordered.next
  sessions := by
    intro j handshake session isHandshake hasSession
    by_cases same : i = j
    · subst same
      rw [advance_same found] at isHandshake
      cases isHandshake
      exact sameGeneration session hasSession
    · rw [HandshakeSystem.advance, List.getElem?_set_ne same] at isHandshake
      exact ordered.sessions j handshake session isHandshake hasSession
  owned := by
    intro clientId entry listed
    obtain ⟨sameClient, j, other, active⟩ := ordered.owned clientId entry listed
    exact ⟨sameClient, j, other, advance_active found pending next active⟩

/-- The coordinator drops sessions. -/
theorem drops {after : VpnSessionCoordinator}
    (drops : Drops self.coordinator after) : Ordered { self with coordinator := after } where
  increasing := ordered.increasing
  next := by
    rw [drops.nextGeneration]
    exact ordered.next
  sessions := ordered.sessions
  owned := fun clientId entry listed => ordered.owned clientId entry (drops.active _ _ listed)

theorem allocate (returned : self.coordinator.allocateGeneration.1 = .ok generation) :
    Ordered ⟨self.coordinator.allocateGeneration.2,
      self.handshakes ++ [⟨generation, .allocated⟩]⟩ := by
  obtain ⟨isNext, after⟩ := allocateGeneration_ok returned
  have below : ∀ earlier ∈ self.generations, earlier < generation.value := by
    intro earlier member
    rcases ordered.next with exhausted | below
    · exact absurd (isNext.trans exhausted) generation.nonzero
    · rw [isNext]
      exact below earlier member
  have extended : (⟨self.coordinator.allocateGeneration.2,
      self.handshakes ++ [⟨generation, .allocated⟩]⟩ : HandshakeSystem).generations =
        self.generations ++ [generation.value] := by
    simp [generations]
  refine ⟨?_, ?_, ?_, ?_⟩
  · rw [extended, List.pairwise_append]
    refine ⟨ordered.increasing, List.pairwise_singleton _ _, ?_⟩
    intro earlier member last isLast
    rw [List.mem_singleton.mp isLast]
    exact below earlier member
  · rw [extended, after]
    by_cases wraps : self.coordinator.nextGeneration + 1 = 0
    · exact Or.inl wraps
    · refine Or.inr fun earlier member => ?_
      have step : generation.value < self.coordinator.nextGeneration + 1 := by
        rw [isNext]
        grind
      rcases List.mem_append.mp member with old | last
      · exact UInt64.lt_trans (below earlier old) step
      · rw [List.mem_singleton.mp last]
        exact step
  · intro j handshake session isHandshake hasSession
    rw [List.getElem?_append] at isHandshake
    split at isHandshake
    · exact ordered.sessions j handshake session isHandshake hasSession
    · rw [List.mem_singleton.mp (List.mem_of_getElem? isHandshake)] at hasSession
      cases hasSession
  · rw [after]
    intro clientId entry listed
    obtain ⟨sameClient, j, other, active⟩ := ordered.owned clientId entry listed
    obtain ⟨inside, -⟩ := List.getElem?_eq_some_iff.mp active
    exact ⟨sameClient, j, other, (List.getElem?_append_left inside).trans active⟩

theorem commit {i : Nat} {session : VpnNegotiatedSession} {connection now : Nat}
    {committed : VpnCommittedSession} {closed : List ConnectionClose}
    {after : VpnSessionCoordinator}
    (found : self.handshakes[i]? = some ⟨generation, .negotiated session⟩)
    (returned : self.coordinator.commit session connection now =
      some (.ok committed, closed, after)) :
    Ordered ({ self with coordinator := after }.advance i generation
      (.active session committed.dataPath)) := by
  have left := (commit_run returned).1
  have advanced : Ordered (self.advance i generation (.active session committed.dataPath)) :=
    ordered.advance found rfl fun other isSession => by
      cases isSession
      exact ordered.sessions i _ session found rfl
  refine ⟨advanced.increasing, ?_, advanced.sessions, ?_⟩
  · have next := advanced.next
    change after.nextGeneration = 0 ∨ ∀ earlier ∈ _, earlier < after.nextGeneration
    rwa [left.nextGeneration]
  · intro clientId entry listed
    change after.state.active.lookup clientId = some entry at listed
    rw [left.active] at listed
    by_cases same : clientId = session.identity.clientId
    · subst same
      rw [AList.lookup_insert] at listed
      cases listed
      exact ⟨rfl, i, generation, advance_same found _⟩
    · rw [AList.lookup_insert_ne same] at listed
      exact advanced.owned clientId entry listed

theorem step {after : HandshakeSystem} (next : Step self after) : after.Ordered := by
  cases next with
  | allocate returned => exact ordered.allocate returned
  | exhausted returned =>
    rw [allocateGeneration_error returned]
    exact ordered
  | snapshot found => exact ordered.advance found rfl fun _ isSession => by cases isSession
  | negotiate found negotiated =>
    refine ordered.advance found rfl fun session isSession => ?_
    cases isSession
    obtain ⟨-, -, -, version, -, -, accept⟩ := negotiateVpnHello_ok negotiated
    rw [accept]
    rfl
  | fail found pending =>
    exact ordered.advance found pending fun _ isSession => by cases isSession
  | commit found returned => exact ordered.commit found returned
  | refuse found returned =>
    obtain ⟨rfl, -⟩ := commit_refused returned
    have dropped := @Ordered.drops self ordered self.coordinator.rejectCommit
      ⟨rfl, rfl, fun _ _ listed => listed⟩
    exact dropped.advance found rfl fun _ isSession => by cases isSession
  | release found returned =>
    exact ordered.drops (releaseIfCurrent_run returned).1
  | other step foreign => exact ordered.drops (step.drops foreign)

end Ordered

/-- A new coordinator without handshakes. -/
theorem Ordered.start {registry : VpnIdentityRegistry} {initialGeneration : UInt64}
    {globalReassemblyLimit globalInflightLimit : Nat} {first : VpnSessionCoordinator}
    (built : withResourceLimits registry initialGeneration
      globalReassemblyLimit globalInflightLimit = .ok first) : Ordered ⟨first, []⟩ where
  increasing := List.Pairwise.nil
  next := Or.inr fun _ member => by cases member
  sessions := fun _ _ _ isHandshake => by cases isHandshake
  owned := by
    obtain ⟨globalBudget, rfl⟩ := withResourceLimits_eq_ok built
    intro clientId entry listed
    cases listed

theorem Run.ordered {first self : HandshakeSystem} (ordered : first.Ordered) (run : Run first self)
    : self.Ordered := by
  induction run with
  | start => exact ordered
  | step earlier next ih => exact ih.step next

/-- The coordinator of a run takes steps of its own. -/
theorem Run.coordinator {first self : HandshakeSystem} (run : Run first self) :
    ∃ log, CoordinatorRun first.coordinator log self.coordinator := by
  induction run with
  | start => exact ⟨[], .start⟩
  | step earlier next ih =>
    obtain ⟨log, run⟩ := ih
    cases next with
    | allocate returned => exact ⟨_, run.step .allocate⟩
    | exhausted returned => exact ⟨_, run.step .allocate⟩
    | snapshot found => exact ⟨log, run⟩
    | negotiate found negotiated => exact ⟨log, run⟩
    | fail found pending => exact ⟨log, run⟩
    | commit found returned => exact ⟨_, run.step (.commit returned)⟩
    | refuse found returned => exact ⟨_, run.step (.commit returned)⟩
    | release found returned => exact ⟨_, run.step (.release returned)⟩
    | other step foreign => exact ⟨_, run.step step⟩

/-! ## Releases -/

/-- The session that a handshake has committed is the active one of its client. -/
def Current (self : HandshakeSystem) (session : VpnNegotiatedSession) (dataPath : Nat) : Prop :=
  ∃ entry, self.coordinator.state.active.lookup session.identity.clientId = some entry ∧
    entry.session = session ∧ entry.dataPath = dataPath

section Unique

variable {self : HandshakeSystem} (ordered : self.Ordered) {i j : Nat}
  {generation other : VpnSessionGeneration} {phase phase' : HandshakePhase}
  (first : self.handshakes[i]? = some ⟨generation, phase⟩)
  (second : self.handshakes[j]? = some ⟨other, phase'⟩)

include ordered first second

/-- Generations are in the order of the handshakes. -/
theorem Ordered.lt_iff : generation.value < other.value ↔ i < j := by
  obtain ⟨insideI, hereI⟩ := List.getElem?_eq_some_iff.mp first
  obtain ⟨insideJ, hereJ⟩ := List.getElem?_eq_some_iff.mp second
  have increasing := List.pairwise_iff_getElem.mp ordered.increasing
  simp only [generations, List.length_map, List.getElem_map] at increasing
  constructor
  · intro less
    by_contra notLess
    rcases Nat.lt_or_eq_of_le (Nat.le_of_not_lt notLess) with after | same
    · have greater := increasing j i insideJ insideI after
      rw [hereI, hereJ] at greater
      exact UInt64.lt_asymm greater less
    · subst same
      cases first.symm.trans second
      exact UInt64.lt_irrefl _ less
  · intro less
    have smaller := increasing i j insideI insideJ less
    rwa [hereI, hereJ] at smaller

/-- One generation, one handshake. -/
theorem Ordered.unique (same : generation.value = other.value) : i = j := by
  have forward := ordered.lt_iff first second
  have backward := ordered.lt_iff second first
  rw [same] at forward backward
  have irrefl := UInt64.lt_irrefl other.value
  have := mt forward.mpr irrefl
  have := mt backward.mpr irrefl
  omega

end Unique

variable {session : VpnNegotiatedSession} {dataPath i : Nat} {self : HandshakeSystem}
  {generation : VpnSessionGeneration} (ordered : self.Ordered)
  (found : self.handshakes[i]? = some ⟨generation, .active session dataPath⟩)

include ordered found

/-- A generation is current exactly when the session of its own handshake is. -/
theorem Ordered.isCurrent_iff :
    self.coordinator.isCurrent session.identity.clientId session.accept.sessionGeneration = true ↔
      self.Current session dataPath := by
  rw [isCurrent, Option.any_eq_true]
  constructor
  · rintro ⟨entry, listed, same⟩
    obtain ⟨-, j, other, owner⟩ := ordered.owned _ entry listed
    have mine := ordered.sessions i _ session found rfl
    have theirs := ordered.sessions j _ entry.session owner rfl
    have sameIndex := ordered.unique found owner
      (mine.symm.trans ((decide_eq_true_eq.mp same).symm.trans theirs))
    subst sameIndex
    cases found.symm.trans owner
    exact ⟨entry, listed, rfl, rfl⟩
  · rintro ⟨entry, listed, rfl, -⟩
    exact ⟨entry, listed, by simp⟩

/-- Once it is not current any more, the session of a handshake stays so. -/
theorem Ordered.gone_step {after : HandshakeSystem} (next : Step self after)
    (gone : ¬ self.Current session dataPath) :
    after.handshakes[i]? = some ⟨generation, .active session dataPath⟩ ∧
      ¬ after.Current session dataPath := by
  have dropped : ∀ {coordinator}, Drops self.coordinator coordinator →
      ¬ Current ⟨coordinator, self.handshakes⟩ session dataPath := by
    rintro coordinator drops ⟨entry, listed, same⟩
    exact gone ⟨entry, drops.active _ _ listed, same⟩
  cases next with
  | allocate returned =>
    obtain ⟨inside, -⟩ := List.getElem?_eq_some_iff.mp found
    refine ⟨(List.getElem?_append_left inside).trans found, ?_⟩
    rw [(allocateGeneration_ok returned).2]
    exact gone
  | exhausted returned =>
    rw [allocateGeneration_error returned]
    exact ⟨found, gone⟩
  | snapshot pending => exact ⟨advance_active pending rfl _ found, gone⟩
  | negotiate pending negotiated => exact ⟨advance_active pending rfl _ found, gone⟩
  | fail pending inactive => exact ⟨advance_active pending inactive _ found, gone⟩
  | @commit j other committedSession connection now committed closed coordinator pending returned =>
    refine ⟨advance_active pending rfl _ found, ?_⟩
    rintro ⟨entry, listed, sameSession, samePath⟩
    change coordinator.state.active.lookup _ = some entry at listed
    rw [(commit_run returned).1.active] at listed
    by_cases sameClient : session.identity.clientId = committedSession.identity.clientId
    · -- the same session would be one handshake in two phases
      rw [sameClient, AList.lookup_insert] at listed
      cases listed
      have mine := ordered.sessions i _ session found rfl
      have theirs := ordered.sessions j _ committedSession pending rfl
      rw [← sameSession] at mine
      have sameIndex := ordered.unique found pending (mine.symm.trans theirs)
      subst sameIndex
      cases found.symm.trans pending
    · rw [AList.lookup_insert_ne sameClient] at listed
      exact gone ⟨entry, listed, sameSession, samePath⟩
  | refuse pending returned =>
    obtain ⟨rfl, -⟩ := commit_refused returned
    exact ⟨advance_active pending rfl _ found, gone⟩
  | release other returned =>
    exact ⟨found, dropped (releaseIfCurrent_run returned).1⟩
  | other step foreign => exact ⟨found, dropped (step.drops foreign)⟩

theorem Ordered.gone_run {later : HandshakeSystem} (run : Run self later)
    (gone : ¬ self.Current session dataPath) :
    later.handshakes[i]? = some ⟨generation, .active session dataPath⟩ ∧
      ¬ later.Current session dataPath := by
  induction run with
  | start => exact ⟨found, gone⟩
  | step earlier next ih => exact (earlier.ordered ordered).gone_step ih.1 next ih.2

/-- A release of a session that is not current. -/
theorem Ordered.release_gone (gone : ¬ self.Current session dataPath) :
    self.coordinator.releaseIfCurrent session.identity.clientId session.accept.sessionGeneration =
      some (false, self.coordinator) := by
  rw [← ordered.isCurrent_iff found, Bool.not_eq_true] at gone
  rw [releaseIfCurrent, gone]
  rfl

/-- A release of the session that is current. -/
theorem Ordered.release_current {commits : Nat} (safe : Safe self.coordinator commits)
    (current : self.Current session dataPath) :
    ∃ after, self.coordinator.releaseIfCurrent session.identity.clientId
        session.accept.sessionGeneration = some (true, after) ∧
      after.state.active = self.coordinator.state.active.erase session.identity.clientId ∧
      ∀ place, after.heap.ActiveAt place ↔
        place ≠ dataPath ∧ self.coordinator.heap.ActiveAt place := by
  have isCurrent := (ordered.isCurrent_iff found).mpr current
  obtain ⟨entry, listed, -, rfl⟩ := current
  obtain ⟨handle, isHandle, -⟩ := safe.linked.handle _ entry listed
  obtain ⟨heap, runs, -, -, activity⟩ :=
    DataPathHeap.deactivate_spec safe.linked.good self.coordinator.globalBudget isHandle
  simp only [releaseIfCurrent, isCurrent, Bool.not_true, Bool.false_eq_true,
    if_false, listed, runs, Option.bind_eq_bind, Option.bind_some]
  exact ⟨_, rfl, rfl, activity⟩

end HandshakeSystem

open HandshakeSystem (Run Current)

/-- **A release never ends another session.** In every run the allocated generations are
increasing and non-zero, and after the last one there are no more. So the release of a
handshake's session ends that session, if it is still the current one, and nothing else;
once it is not current, no release of it ever changes anything. -/
theorem release_only_own {registry : VpnIdentityRegistry} {initialGeneration : UInt64}
    {globalReassemblyLimit globalInflightLimit : Nat} {first : VpnSessionCoordinator}
    (built : withResourceLimits registry initialGeneration
      globalReassemblyLimit globalInflightLimit = .ok first) {system : HandshakeSystem}
    (run : Run ⟨first, []⟩ system) :
    system.generations.Pairwise (· < ·) ∧
      (∀ generation ∈ system.generations, generation ≠ 0) ∧
      (UInt64.ofNat u64Max ∈ system.generations →
        system.coordinator.allocateGeneration = (.error .generationExhausted, system.coordinator)) ∧
      ∀ (i : Nat) generation session dataPath,
        system.handshakes[i]? = some ⟨generation, .active session dataPath⟩ →
        (∃ released after, system.coordinator.releaseIfCurrent session.identity.clientId
            session.accept.sessionGeneration = some (released, after) ∧
          (released = true ↔ system.Current session dataPath) ∧
          (released = true → after.state.active =
              system.coordinator.state.active.erase session.identity.clientId ∧
            ∀ place, after.heap.ActiveAt place ↔
              place ≠ dataPath ∧ system.coordinator.heap.ActiveAt place) ∧
          (released = false → after = system.coordinator)) ∧
        (¬ system.Current session dataPath → ∀ later, Run system later →
          later.coordinator.releaseIfCurrent session.identity.clientId
            session.accept.sessionGeneration = some (false, later.coordinator)) := by
  have ordered := run.ordered (.start built)
  obtain ⟨log, coordinatorRun⟩ := run.coordinator
  have safe := coordinatorRun.safe (.start built)
  refine ⟨ordered.increasing, ?_, ?_, ?_⟩
  · intro generation member
    obtain ⟨handshake, -, rfl⟩ := List.mem_map.mp member
    exact handshake.generation.nonzero
  · intro last
    rcases ordered.next with exhausted | below
    · rw [allocateGeneration, if_neg (by simp [exhausted])]
    · have above := UInt64.lt_iff_toNat_lt.mp (below _ last)
      have bound := system.coordinator.nextGeneration.toNat_lt
      rw [show (UInt64.ofNat u64Max).toNat = u64Max from rfl] at above
      simp only [u64Max] at above
      omega
  · intro i generation session dataPath found
    refine ⟨?_, fun gone later more => ?_⟩
    · by_cases current : system.Current session dataPath
      · obtain ⟨after, returned, effect⟩ := ordered.release_current found safe current
        exact ⟨true, after, returned, ⟨fun _ => current, fun _ => rfl⟩, fun _ => effect, nofun⟩
      · exact ⟨false, _, ordered.release_gone found current, ⟨nofun, fun is => absurd is current⟩,
          nofun, fun _ => rfl⟩
    · obtain ⟨still, notCurrent⟩ := ordered.gone_run found more gone
      exact (more.ordered ordered).release_gone still notCurrent

/-- **When a commit supersedes.** The generation that a commit reports is greater than the
one it replaces exactly when the handshake of the replaced session allocated before. -/
theorem commit_supersedes_iff {registry : VpnIdentityRegistry} {initialGeneration : UInt64}
    {globalReassemblyLimit globalInflightLimit : Nat} {first : VpnSessionCoordinator}
    (built : withResourceLimits registry initialGeneration
      globalReassemblyLimit globalInflightLimit = .ok first) {system : HandshakeSystem}
    (run : Run ⟨first, []⟩ system) {j : Nat} {generation : VpnSessionGeneration}
    {session : VpnNegotiatedSession}
    (found : system.handshakes[j]? = some ⟨generation, .negotiated session⟩)
    {connection now : Nat} {committed : VpnCommittedSession} {closed : List ConnectionClose}
    {after : VpnSessionCoordinator}
    (returned : system.coordinator.commit session connection now =
      some (.ok committed, closed, after)) {entry : ActiveVpnSession}
    (listed : system.coordinator.state.active.lookup session.identity.clientId = some entry) :
    ∃ (i : Nat) (other : VpnSessionGeneration) (replaced : UInt64),
      system.handshakes[i]? = some ⟨other, .active entry.session entry.dataPath⟩ ∧
        committed.report.replacedGeneration = some replaced ∧
        (replaced < committed.report.sessionGeneration ↔ i < j) := by
  have ordered := run.ordered (.start built)
  obtain ⟨-, i, other, owner⟩ := ordered.owned _ entry listed
  have report := (commit_run returned).1.report
  refine ⟨i, other, entry.session.accept.sessionGeneration, owner, ?_, ?_⟩
  · rw [report, listed]
    rfl
  · have mine : session.accept.sessionGeneration = generation.value :=
      ordered.sessions j _ session found rfl
    have theirs : entry.session.accept.sessionGeneration = other.value :=
      ordered.sessions i _ entry.session owner rfl
    rw [report, mine, theirs]
    exact ordered.lt_iff owner found

/-! ## Ended sessions -/

open VpnSessionCoordinator in
/-- A session that is listed was listed before, or its handle is new. -/
theorem CoordinatorStep.listed {after : VpnSessionCoordinator} {event : CoordinatorEvent}
    {clientId : String} {entry : ActiveVpnSession} (step : CoordinatorStep self event after)
    (isListed : after.state.active.lookup clientId = some entry) :
    self.state.active.lookup clientId = some entry ∨ entry.dataPath = self.heap.handles.length := by
  by_cases foreign : event.foreign = true
  · exact .inl ((step.drops foreign).active _ _ isListed)
  cases step with
  | allocate =>
    cases returned : self.allocateGeneration.1 with
    | ok => exact .inl (by rwa [(allocateGeneration_ok returned).2] at isListed)
    | error => exact .inl (by rwa [allocateGeneration_error returned] at isListed)
  | @commit session connection now result closed _ returned =>
    cases result with
    | error error =>
      obtain ⟨rfl, -⟩ := commit_refused returned
      exact .inl isListed
    | ok committed =>
      obtain ⟨left, _, heap, _, _, _, -, isEntry, -, place, -⟩ := commit_run returned
      rw [left.active] at isListed
      by_cases own : clientId = session.identity.clientId
      · rw [own, AList.lookup_insert] at isListed
        cases isListed
        rcases quotaEntry_run self.globalBudget isEntry with ⟨-, -, rfl⟩ | ⟨-, -, -, ⟨⟩⟩ <;>
          exact .inr place
      · rw [AList.lookup_insert_ne own] at isListed
        exact .inl isListed
  | release returned => exact .inl ((releaseIfCurrent_run returned).1.active _ _ isListed)
  | _ => exact absurd rfl foreign

/-- **An ended session stays silent**: a handle that no active session has any more never lets a
packet through again, whatever the coordinator and the runtimes do. -/
theorem ended_session_silent {registry : VpnIdentityRegistry} {initialGeneration : UInt64}
    {bytes packets dataPath : Nat} {first later : VpnSessionCoordinator}
    (built : withResourceLimits registry initialGeneration bytes packets =
      .ok first) {log laterLog : List CoordinatorEvent} (run : CoordinatorRun first log self)
    (made : dataPath < self.heap.handles.length)
    (ended : ∀ clientId entry, self.state.active.lookup clientId = some entry →
      entry.dataPath ≠ dataPath) (more : CoordinatorRun self laterLog later) {op : DataPathOp}
    {operated : Operated}
    (ran : later.heap.operate later.globalBudget dataPath op = some operated) :
    op.passed operated.reply = none := by
  obtain ⟨whole, wholeRun, unlisted⟩ : ∃ whole, CoordinatorRun first whole later ∧
      ∀ clientId entry, later.state.active.lookup clientId = some entry →
        entry.dataPath ≠ dataPath := by
    clear ran
    induction more with
    | start => exact ⟨log, run, ended⟩
    | step earlier next ih =>
      obtain ⟨whole, wholeRun, unlisted⟩ := ih
      obtain ⟨handle, found, -⟩ := earlier.extends dataPath _ (List.getElem?_eq_getElem made)
      have inside := (List.getElem?_eq_some_iff.mp found).1
      refine ⟨_, wholeRun.step next, fun clientId entry isListed => ?_⟩
      rcases next.listed isListed with before | new
      · exact unlisted clientId entry before
      · omega
  rw [Option.eq_none_iff_forall_ne_some]
  intro packet passed
  obtain ⟨handle, _, found, returned⟩ := DataPathHeap.operate_returns ran
  have active := (DataPathOp.passed_policy returned passed).1
  obtain ⟨clientId, entry, isListed, here⟩ :=
    (wholeRun.safe (.start built)).linked.current dataPath ⟨handle, found, active⟩
  exact unlisted clientId entry isListed here

/-- A session is closed, and its client has a new one. -/
theorem ended_session_silent_example :
    ∃ later : VpnSessionCoordinator, later.heap.handles.length = 2 ∧ ∀ op operated,
      later.heap.operate later.globalBudget 0 op = some operated →
        op.passed operated.reply = none := by
  have evaluated : ((exampleCoordinator.commit exampleSession 5 100).bind fun returned =>
      returned.2.2.closeAll.bind fun closes =>
        (closes.2.2.commit exampleSession 6 200).map fun later =>
          (closes.2.2.heap.handles.length, later.2.2.heap.handles.length)) = some (1, 2) := by
    decide +kernel
  obtain ⟨⟨_, _, mid⟩, commits, rest⟩ := Option.bind_eq_some_iff.mp evaluated
  obtain ⟨⟨_, _, after⟩, closes, rest⟩ := Option.bind_eq_some_iff.mp rest
  obtain ⟨⟨_, _, later⟩, again, sizes⟩ := Option.map_eq_some_iff.mp rest
  obtain ⟨one, two⟩ := Prod.mk.inj sizes
  have run := (CoordinatorRun.start.step (.commit commits)).step (.closeAll closes)
  have more := CoordinatorRun.start.step (.commit again)
  have ended : ∀ clientId entry, after.state.active.lookup clientId = some entry →
      entry.dataPath ≠ 0 := by
    obtain ⟨heap, -, same⟩ := Option.bind_eq_some_iff.mp closes
    cases same
    exact nofun
  exact ⟨later, two, fun op operated ran => ended_session_silent exampleCoordinator_built run
    (Nat.lt_of_lt_of_eq Nat.one_pos one.symm) ended more ran⟩

/-! Two handshakes of the example client, which commit in either order. -/

def exampleHandshake : Fin 2 → VpnSessionGeneration × VpnNegotiatedSession
  | 0 => (⟨1, by decide⟩, ⟨exampleIdentity, exampleFingerprint,
      { exampleAccept with sessionGeneration := 1 }, by decide⟩)
  | 1 => (⟨2, by decide⟩, ⟨exampleIdentity, exampleFingerprint,
      { exampleAccept with sessionGeneration := 2 }, by decide⟩)

/-- Both have negotiated. -/
def exampleNegotiated : HandshakeSystem where
  coordinator := { exampleCoordinator with nextGeneration := 3 }
  handshakes := (List.finRange 2).map fun i =>
    ⟨(exampleHandshake i).1, .negotiated (exampleHandshake i).2⟩

theorem exampleNegotiated_run : Run ⟨exampleCoordinator, []⟩ exampleNegotiated := by
  have allocate : Run ⟨exampleCoordinator, []⟩ ⟨{ exampleCoordinator with nextGeneration := 2 },
      [⟨⟨1, by decide⟩, .allocated⟩]⟩ := Run.start.step (.allocate rfl)
  have allocated : Run ⟨exampleCoordinator, []⟩ ⟨{ exampleCoordinator with nextGeneration := 3 },
      [⟨⟨1, by decide⟩, .allocated⟩, ⟨⟨2, by decide⟩, .allocated⟩]⟩ :=
    allocate.step (.allocate rfl)
  have snapshots := (allocated.step (.snapshot (i := 0) rfl)).step (.snapshot (i := 1) rfl)
  have negotiated := snapshots.step (.negotiate (i := 0) rfl
    (rfl : negotiateVpnHello exampleRegistry exampleFingerprint exampleHello exampleConfig _ =
      .ok (exampleHandshake 0).2))
  exact negotiated.step (.negotiate (i := 1) rfl
    (rfl : negotiateVpnHello exampleRegistry exampleFingerprint exampleHello exampleConfig _ =
      .ok (exampleHandshake 1).2))

/-- One handshake has committed, and the other one can. -/
theorem exampleCommitted_run (early : Fin 2) :
    ∃ (system : HandshakeSystem) (committed : VpnCommittedSession)
        (closed : List ConnectionClose) (after : VpnSessionCoordinator),
      Run ⟨exampleCoordinator, []⟩ system ∧ system.generations = [1, 2] ∧
      system.handshakes[early.rev.val]? =
        some ⟨(exampleHandshake early.rev).1, .negotiated (exampleHandshake early.rev).2⟩ ∧
      system.coordinator.commit (exampleHandshake early.rev).2 6 101 =
        some (.ok committed, closed, after) ∧
      committed.report = ⟨(exampleHandshake early.rev).1.value,
        some (exampleHandshake early).1.value⟩ ∧
      (system.coordinator.state.active.lookup "client-a").isSome = true := by
  have evaluated : ∀ early : Fin 2,
      ((exampleNegotiated.coordinator.commit (exampleHandshake early).2 5 100).bind fun returned =>
        returned.1.toOption.map fun _ =>
          ((returned.2.2.commit (exampleHandshake early.rev).2 6 101).bind fun later =>
            later.1.toOption.map (·.report),
            (returned.2.2.state.active.lookup "client-a").isSome)) =
        some (some ⟨(exampleHandshake early.rev).1.value, some (exampleHandshake early).1.value⟩,
          true) := by decide +kernel
  obtain ⟨⟨result, _, mid⟩, commits, counts⟩ := Option.bind_eq_some_iff.mp (evaluated early)
  obtain ⟨first, rfl, counts⟩ := Checks.ok_of_toOption_map counts
  obtain ⟨later, listed⟩ := Prod.mk.inj counts
  obtain ⟨⟨last, closed, after⟩, returned, report⟩ := Option.bind_eq_some_iff.mp later
  obtain ⟨committed, rfl, reported⟩ := Checks.ok_of_toOption_map report
  have apart : ∀ i : Fin 2, i.val ≠ i.rev.val := by decide
  have found : ∀ i : Fin 2, exampleNegotiated.handshakes[i.val]? =
      some ⟨(exampleHandshake i).1, .negotiated (exampleHandshake i).2⟩
    | 0 => rfl
    | 1 => rfl
  refine ⟨_, committed, closed, after, exampleNegotiated_run.step (.commit (found early) commits),
    ?_, ?_, returned, reported, listed⟩
  · apply HandshakeSystem.advance_generations
    exact found early
  · rw [← found early.rev]
    exact List.getElem?_set_ne (apart early)

theorem release_only_own_example :
    ∃ system : HandshakeSystem, Run ⟨exampleCoordinator, []⟩ system ∧
      system.generations = [1, 2] ∧ system.generations.Pairwise (· < ·) := by
  obtain ⟨system, -, -, -, run, generations, -⟩ := exampleCommitted_run 1
  exact ⟨system, run, generations, (release_only_own exampleCoordinator_built run).1⟩

/-- What the handshake that commits last finds, when `early` has committed before. -/
def ExampleSupersedes (early : Fin 2) : Prop :=
  ∃ (system : HandshakeSystem) (i : Nat) (other : VpnSessionGeneration) (entry : ActiveVpnSession),
    Run ⟨exampleCoordinator, []⟩ system ∧
      system.handshakes[i]? = some ⟨other, .active entry.session entry.dataPath⟩ ∧
      ((exampleHandshake early).1.value < (exampleHandshake early.rev).1.value ↔ i < early.rev.val)

theorem commit_supersedes_iff_example : ExampleSupersedes 0 ∧ ExampleSupersedes 1 := by
  have client : ∀ i : Fin 2, (exampleHandshake i).2.identity.clientId = "client-a" := by decide
  have both (early : Fin 2) : ExampleSupersedes early := by
    obtain ⟨system, committed, closed, after, run, -, found, returned, report, listed⟩ :=
      exampleCommitted_run early
    obtain ⟨entry, isEntry⟩ := Option.isSome_iff_exists.mp listed
    obtain ⟨i, other, replaced, owner, isReplaced, order⟩ := commit_supersedes_iff
      exampleCoordinator_built run found returned (client early.rev ▸ isEntry)
    rw [report] at isReplaced order
    cases isReplaced
    exact ⟨system, i, other, entry, run, owner, order⟩
  exact ⟨both 0, both 1⟩

/-- The handshake that allocated first commits last, and its session replaces the newer
one. -/
theorem commit_goes_back :
    ∃ (system : HandshakeSystem) (committed : VpnCommittedSession)
        (closed : List ConnectionClose) (after : VpnSessionCoordinator),
      Run ⟨exampleCoordinator, []⟩ system ∧
        system.handshakes[0]? = some ⟨⟨1, by decide⟩, .negotiated (exampleHandshake 0).2⟩ ∧
        system.coordinator.commit (exampleHandshake 0).2 6 101 =
          some (.ok committed, closed, after) ∧
        committed.report = ⟨1, some 2⟩ := by
  obtain ⟨system, committed, closed, after, run, -, found, returned, report, -⟩ :=
    exampleCommitted_run 1
  exact ⟨system, committed, closed, after, run, found, returned, report⟩

end FlowWeave.Vpn
