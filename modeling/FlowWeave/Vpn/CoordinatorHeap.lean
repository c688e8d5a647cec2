/-
# Vpn.CoordinatorHeap — the handles of a server under the coordinator's hands

`DataPathHeap.Good`: every handle is in the invariant of `Vpn.DataPathInvariant`, has
a limiter, and the shared counters are the sum of what the handles account for. From
a good heap every operation of a handle runs through (`operate_spec`), and the heap
stays good. A `Frame` says what operations leave alone: the immutable parts of the
handles and the number of limiters. Which handles are active changes only as
`activate` and `deactivate` say.
-/
import FlowWeave.Vpn.Coordinator

namespace FlowWeave.Vpn

open Theory.SharedLedger

set_option autoImplicit false

/-- The sum over a list with one element replaced. -/
theorem sum_map_set {α : Type} {cells : List α} {place : Nat} {old : α} (weight : α → Nat)
    (found : cells[place]? = some old) (new : α) :
    ((cells.set place new).map weight).sum + weight old = (cells.map weight).sum + weight new := by
  induction cells generalizing place with
  | nil => cases found
  | cons cell rest ih =>
    cases place with
    | zero =>
      cases found
      simp only [List.set_cons_zero, List.map_cons, List.sum_cons]
      omega
    | succ place =>
      have sums := ih (show rest[place]? = some old by simpa using found)
      simp only [List.set_cons_succ, List.map_cons, List.sum_cons]
      omega

namespace DataPathHeap

structure Good (heap : DataPathHeap) : Prop where
  books : ∀ handle ∈ heap.handles, VpnDataPathState.Good handle.inner handle.state
  limiter : ∀ handle ∈ heap.handles, handle.rateLimiter < heap.rateLimiters.length
  ledger : ∀ counter, heap.counters counter =
    (heap.handles.map fun handle => handle.state.owned counter).sum

/-- The handle at a place is active. -/
def ActiveAt (heap : DataPathHeap) (dataPath : Nat) : Prop :=
  ∃ handle, heap.handles[dataPath]? = some handle ∧ handle.state.active = true

/-- The same handles with the same limiters, in whatever state. -/
structure Frame (before after : DataPathHeap) : Prop where
  handles : after.handles.map (fun handle => (handle.inner, handle.rateLimiter)) =
    before.handles.map fun handle => (handle.inner, handle.rateLimiter)
  rateLimiters : after.rateLimiters.length = before.rateLimiters.length

namespace Frame

variable {before mid after : DataPathHeap}

theorem refl (heap : DataPathHeap) : Frame heap heap := ⟨rfl, rfl⟩

theorem trans (first : Frame before mid) (second : Frame mid after) : Frame before after :=
  ⟨second.handles.trans first.handles, second.rateLimiters.trans first.rateLimiters⟩

theorem handle (frame : Frame before after) {dataPath : Nat} {handle : VpnDataPathHandle}
    (found : before.handles[dataPath]? = some handle) :
    ∃ later, after.handles[dataPath]? = some later ∧ later.inner = handle.inner ∧
      later.rateLimiter = handle.rateLimiter := by
  have same := congrArg (fun cells => cells[dataPath]?) frame.handles
  simp only [List.getElem?_map, found, Option.map_some, Option.map_eq_some_iff] at same
  obtain ⟨later, isLater, parts⟩ := same
  exact ⟨later, isLater, congrArg Prod.fst parts, congrArg Prod.snd parts⟩

end Frame

theorem empty_good : Good empty where
  books := fun _ member => by cases member
  limiter := fun _ member => by cases member
  ledger := fun _ => rfl

variable {heap : DataPathHeap}

variable {dataPath : Nat}

/-- The handle of one place replaced by one that accounts for what it holds. -/
theorem Good.set (good : heap.Good) {handle : VpnDataPathHandle}
    (found : heap.handles[dataPath]? = some handle) {state : VpnDataPathState}
    (books : VpnDataPathState.Good handle.inner state) {counters : LedgerCounter → Nat}
    (moved : ∀ counter, counters counter + handle.state.owned counter =
      heap.counters counter + state.owned counter) {rateLimiters : List IdentityRateState}
    (sameLength : rateLimiters.length = heap.rateLimiters.length) (quotaMetrics : VpnQuotaMetrics)
    (dataMetrics : VpnDataPolicyMetrics) :
    Good ⟨heap.handles.set dataPath { handle with state := state }, rateLimiters, counters,
      quotaMetrics, dataMetrics⟩ where
  books := by
    intro other member
    rcases List.mem_or_eq_of_mem_set member with old | rfl
    · exact good.books other old
    · exact books
  limiter := by
    intro other member
    rw [sameLength]
    rcases List.mem_or_eq_of_mem_set member with old | rfl
    · exact good.limiter other old
    · exact good.limiter handle (List.mem_of_getElem? found)
  ledger := by
    intro counter
    have sums := sum_map_set (fun handle => handle.state.owned counter) found
      { handle with state := state }
    have before := good.ledger counter
    have change := moved counter
    dsimp only at sums ⊢
    omega

/-- **An operation of a handle runs through** and leaves a good heap. -/
theorem operate_spec (good : heap.Good) (budget : VpnGlobalReassemblyBudget)
    {handle : VpnDataPathHandle} (found : heap.handles[dataPath]? = some handle) (op : DataPathOp) :
    ∃ operated state, heap.operate budget dataPath op = some operated ∧ operated.heap.Good ∧
      operated.heap.handles = heap.handles.set dataPath { handle with state := state } ∧
      operated.heap.rateLimiters.length = heap.rateLimiters.length ∧
      state.active = op.activeAfter handle.state.active := by
  have member := List.mem_of_getElem? found
  have inRange := good.limiter handle member
  have limiter := List.getElem?_eq_getElem inRange
  have covered : ∀ counter, handle.state.owned counter ≤ heap.counters counter := by
    intro counter
    rw [good.ledger counter]
    exact List.single_le_sum (fun _ _ => Nat.zero_le _) _
      (List.mem_map_of_mem (f := fun handle => handle.state.owned counter) member)
  obtain ⟨⟨reply, state⟩, counters, ⟨env, admitted⟩, held, ran, promised, -, change⟩ :=
    (op.program_wp (good.books handle member)).run covered budget.limits DataPathEnv.serveMetered
      (⟨heap.rateLimiters[handle.rateLimiter], heap.quotaMetrics, heap.dataMetrics⟩, [])
  obtain ⟨books, rfl, active, -⟩ := promised
  have runs : heap.operate budget dataPath op = some ⟨reply, admitted,
      ⟨heap.handles.set dataPath { handle with state := state },
        heap.rateLimiters.set handle.rateLimiter env.limiter, counters, env.quotaMetrics,
        env.policyMetrics⟩⟩ := by
    simp only [operate, found, limiter, ran, Option.bind_eq_bind, Option.bind_some]
  exact ⟨_, state, runs, good.set found books change List.length_set _ _, rfl, List.length_set,
    active⟩

/-- The handle behind a place, and what its operation returned. -/
theorem operate_returns {budget : VpnGlobalReassemblyBudget} {op : DataPathOp} {operated : Operated}
    (ran : heap.operate budget dataPath op = some operated) :
    ∃ handle after, heap.handles[dataPath]? = some handle ∧
      (op.program handle.inner handle.state).Returns (operated.reply, after) := by
  simp only [operate, Option.bind_eq_bind, Option.bind_eq_some_iff] at ran
  obtain ⟨handle, found, limiter, -, ⟨⟨reply, after⟩, counters, env, admitted⟩, runs, same⟩ := ran
  cases same
  exact ⟨handle, after, found, Program.run_returns runs⟩

/-! ## Which handles are active -/

section Set

variable {after : DataPathHeap} {dataPath : Nat} {handle : VpnDataPathHandle}
  {state : VpnDataPathState}

theorem Frame.of_set (found : heap.handles[dataPath]? = some handle)
    (handles : after.handles = heap.handles.set dataPath { handle with state := state })
    (rateLimiters : after.rateLimiters.length = heap.rateLimiters.length) : Frame heap after where
  handles := by
    rw [handles, List.map_set]
    apply List.ext_getElem?
    intro place
    rw [List.getElem?_set]
    split
    · rename_i here
      subst here
      have inside := (List.getElem?_eq_some_iff.mp found).1
      rw [List.length_map, if_pos inside, List.getElem?_map, found]
      rfl
    · rfl
  rateLimiters := rateLimiters

theorem activeAt_of_set (found : heap.handles[dataPath]? = some handle)
    (handles : after.handles = heap.handles.set dataPath { handle with state := state })
    (place : Nat) :
    after.ActiveAt place ↔
      (place = dataPath ∧ state.active = true) ∨ (place ≠ dataPath ∧ heap.ActiveAt place) := by
  have inside := (List.getElem?_eq_some_iff.mp found).1
  unfold ActiveAt
  rw [handles]
  by_cases here : place = dataPath
  · subst here
    simp [inside]
  · simp [Ne.symm here, here]

end Set

variable {dataPath : Nat} {handle : VpnDataPathHandle}

/-- An operation that a caller of `commit` can make leaves no handle active that was
not. -/
theorem operate_frame (good : heap.Good) {budget : VpnGlobalReassemblyBudget} {op : DataPathOp}
    {operated : Operated} (ran : heap.operate budget dataPath op = some operated) :
    operated.heap.Good ∧ Frame heap operated.heap ∧
      ∀ place, operated.heap.ActiveAt place →
        heap.ActiveAt place ∨ (place = dataPath ∧ op.activeAfter false = true) := by
  obtain ⟨handle, -, found, -⟩ := operate_returns ran
  obtain ⟨other, state, runs, afterGood, handles, rateLimiters, active⟩ :=
    operate_spec good budget found op
  cases ran.symm.trans runs
  refine ⟨afterGood, .of_set found handles rateLimiters, fun place isActive => ?_⟩
  rcases (activeAt_of_set found handles place).mp isActive with ⟨rfl, now⟩ | ⟨-, before⟩
  · cases before : handle.state.active with
    | true => exact .inl ⟨handle, found, before⟩
    | false => exact .inr ⟨rfl, by rwa [active, before] at now⟩
  · exact .inl before

theorem deactivate_spec (good : heap.Good) (budget : VpnGlobalReassemblyBudget)
    (found : heap.handles[dataPath]? = some handle) :
    ∃ after, heap.deactivate budget dataPath = some after ∧ after.Good ∧ Frame heap after ∧
      ∀ place, after.ActiveAt place ↔ place ≠ dataPath ∧ heap.ActiveAt place := by
  obtain ⟨operated, state, runs, afterGood, handles, rateLimiters, inactive⟩ :=
    operate_spec good budget found .deactivate
  refine ⟨operated.heap, ?_, afterGood, .of_set found handles rateLimiters, fun place => ?_⟩
  · rw [deactivate, runs]
    rfl
  · have off : state.active = false := inactive
    rw [activeAt_of_set found handles place, off]
    simp

theorem activate_spec (good : heap.Good) (budget : VpnGlobalReassemblyBudget)
    (found : heap.handles[dataPath]? = some handle) :
    ∃ after, heap.activate budget dataPath = some after ∧ after.Good ∧ Frame heap after ∧
      ∀ place, after.ActiveAt place ↔ place = dataPath ∨ heap.ActiveAt place := by
  obtain ⟨operated, state, runs, afterGood, handles, rateLimiters, active⟩ :=
    operate_spec good budget found .activate
  refine ⟨operated.heap, ?_, afterGood, .of_set found handles rateLimiters, fun place => ?_⟩
  · rw [activate, runs]
    rfl
  · have on : state.active = true := active
    rw [activeAt_of_set found handles place, on]
    tauto

/-- All handles of a list of sessions are deactivated. -/
theorem deactivateAll_spec (budget : VpnGlobalReassemblyBudget) (sessions : List ActiveVpnSession) :
    ∀ {heap : DataPathHeap}, heap.Good →
      (∀ session ∈ sessions, ∃ handle, heap.handles[session.dataPath]? = some handle) →
      ∃ after, sessions.foldlM (fun heap session => heap.deactivate budget session.dataPath) heap =
          some after ∧ after.Good ∧ Frame heap after ∧
        ∀ place, after.ActiveAt place →
          heap.ActiveAt place ∧ ∀ session ∈ sessions, session.dataPath ≠ place := by
  induction sessions with
  | nil => exact fun good _ => ⟨_, rfl, good, .refl _, fun _ isActive => ⟨isActive, by simp⟩⟩
  | cons session rest ih =>
    intro heap good present
    obtain ⟨handle, found⟩ := present session List.mem_cons_self
    obtain ⟨mid, runs, midGood, frame, midActive⟩ := deactivate_spec good budget found
    obtain ⟨after, ran, afterGood, afterFrame, afterActive⟩ := ih midGood (by
      intro other member
      obtain ⟨handle, found⟩ := present other (List.mem_cons_of_mem _ member)
      obtain ⟨later, isLater, -⟩ := frame.handle found
      exact ⟨later, isLater⟩)
    refine ⟨after, ?_, afterGood, frame.trans afterFrame, fun place isActive => ?_⟩
    · rw [List.foldlM_cons, runs]
      exact ran
    · obtain ⟨inMid, others⟩ := afterActive place isActive
      obtain ⟨different, before⟩ := (midActive place).mp inMid
      exact ⟨before, List.forall_mem_cons.mpr ⟨different.symm, others⟩⟩

/-! ## New handles and limiters -/

theorem newLimiter_good (good : heap.Good) (limits : VpnIdentityLimits) (now : Nat) :
    (heap.newLimiter limits now).Good where
  books := good.books
  limiter := fun handle member => by
    have inRange := good.limiter handle member
    simp only [newLimiter, List.length_append, List.length_singleton]
    omega
  ledger := good.ledger

/-- A new handle is inactive and accounts for nothing. -/
theorem newHandle_good (good : heap.Good) (books : VpnDataPathState.Good handle.inner handle.state)
    (inactive : handle.state.active = false)
    (inRange : handle.rateLimiter < heap.rateLimiters.length) : (heap.newHandle handle).Good where
  books := by
    intro other member
    rcases List.mem_append.mp member with old | new
    · exact good.books other old
    · cases List.mem_singleton.mp new
      exact books
  limiter := by
    intro other member
    rcases List.mem_append.mp member with old | new
    · exact good.limiter other old
    · cases List.mem_singleton.mp new
      exact inRange
  ledger := by
    intro counter
    obtain ⟨noBytes, noPackets⟩ := books.inactive inactive
    have nothing : handle.state.owned counter = 0 := by
      rw [VpnDataPathState.owned, noBytes, noPackets, amounts_zero]
      rfl
    have before := good.ledger counter
    simp only [newHandle, List.map_append, List.sum_append, List.map_cons, List.map_nil,
      List.sum_cons, List.sum_nil, nothing]
    omega

theorem newHandle_old {old : VpnDataPathHandle} (found : heap.handles[dataPath]? = some old) :
    (heap.newHandle handle).handles[dataPath]? = some old := by
  have inside := (List.getElem?_eq_some_iff.mp found).1
  rw [newHandle, List.getElem?_append_left inside, found]

theorem newHandle_new (handle : VpnDataPathHandle) :
    (heap.newHandle handle).handles[heap.handles.length]? = some handle := by
  simp [newHandle]

theorem newHandle_active (inactive : handle.state.active = false) {place : Nat}
    (isActive : (heap.newHandle handle).ActiveAt place) : heap.ActiveAt place := by
  obtain ⟨other, found, active⟩ := isActive
  rcases getElem?_append_singleton.mp found with old | ⟨-, rfl⟩
  · exact ⟨other, old, active⟩
  · rw [inactive] at active
    cases active

theorem reconfigure_frame (heap : DataPathHeap) (rateLimiter : Nat) (limits : VpnIdentityLimits)
    (now : Nat) : Frame heap (heap.reconfigure rateLimiter limits now) :=
  ⟨rfl, List.length_modify _ _ _⟩

theorem reconfigure_good (good : heap.Good) (rateLimiter : Nat) (limits : VpnIdentityLimits)
    (now : Nat) : (heap.reconfigure rateLimiter limits now).Good where
  books := good.books
  limiter := fun handle member => by
    rw [(reconfigure_frame heap rateLimiter limits now).rateLimiters]
    exact good.limiter handle member
  ledger := good.ledger

/-- The limiters that a reload keeps are reconfigured; no handle changes. -/
theorem reconfigureQuotas_spec (registry : VpnIdentityRegistry) (now : Nat)
    (quotas : List (Sigma fun _ : String => Nat)) :
    ∀ {heap : DataPathHeap}, heap.Good →
      (quotas.foldl (reconfigureQuota registry now) heap).Good ∧
        (quotas.foldl (reconfigureQuota registry now) heap).handles = heap.handles ∧
        (quotas.foldl (reconfigureQuota registry now) heap).rateLimiters.length =
          heap.rateLimiters.length := by
  induction quotas with
  | nil => exact fun good => ⟨good, rfl, rfl⟩
  | cons quota rest ih =>
    intro heap good
    rw [List.foldl_cons]
    cases found : registry.enabledIdentity quota.1 with
    | none =>
      have unchanged : reconfigureQuota registry now heap quota = heap := by
        rw [reconfigureQuota, found]
      rw [unchanged]
      exact ih good
    | some identity =>
      have changed : reconfigureQuota registry now heap quota =
          heap.reconfigure quota.2 identity.limits now := by
        rw [reconfigureQuota, found]
      rw [changed]
      obtain ⟨restGood, handles, rateLimiters⟩ := ih (reconfigure_good good _ _ _)
      exact ⟨restGood, handles, rateLimiters.trans (reconfigure_frame _ _ _ _).rateLimiters⟩

/-! ## Hash tables change their order -/

/-- The reassemblers of one handle with their tables in another order. -/
inductive Rehash (before : DataPathHeap) : DataPathHeap → Prop
  | handle {dataPath : Nat} {handle : VpnDataPathHandle} {state : VpnDataPathState}
      (found : before.handles[dataPath]? = some handle) (rehash : handle.state.Rehash state) :
      Rehash before
        { before with handles := before.handles.set dataPath { handle with state := state } }

theorem Rehash.spec (good : heap.Good) {after : DataPathHeap} (rehash : heap.Rehash after) :
    after.Good ∧ Frame heap after ∧ ∀ place, after.ActiveAt place → heap.ActiveAt place := by
  cases rehash with
  | @handle dataPath handle state found rehash =>
    have books := rehash.good (good.books handle (List.mem_of_getElem? found))
    refine ⟨good.set found books ?_ rfl _ _, .of_set found rfl rfl, fun place isActive => ?_⟩
    · intro counter
      rw [rehash.owned_eq]
    · rcases (activeAt_of_set found rfl place).mp isActive with ⟨rfl, now⟩ | ⟨-, before⟩
      · exact ⟨handle, found, by rw [← rehash.active]; exact now⟩
      · exact before

end DataPathHeap

end FlowWeave.Vpn
