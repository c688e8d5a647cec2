/-
# Vpn.RateBound — a client's rate limit holds over all its sessions

A client has one limiter. It outlives the sessions: a reconnect, a second certificate,
a replaced session or a reload find the same limiter with the tokens that are left.
`rateLimit_bound`: whatever happens, what all handles of a client were admitted since its
limiter was made is at most one full bucket and the rate times the time that has passed.

The bound is `Theory.TokenBucket.Budget` for the packets and for the bytes of a limiter
(`IdentityRateState.Within`). A `DataPathHeap` that `Meters` a client has its limiter
within the bound and its handles, and no others, on that limiter; every `HeapStep` keeps
that, and so does every step of the coordinator that leaves the client's limits alone.
-/
import FlowWeave.Theory.TokenBucket
import FlowWeave.Vpn.CoordinatorTrace
import FlowWeave.Vpn.DataPathCalls

namespace FlowWeave.Vpn

open Theory Theory.MachineInt VpnSessionCoordinator CoordinatorEvent
open Theory.TokenBucket (Budget)

set_option autoImplicit false

/-! ## One limiter -/

/-- A limiter made at `since` that has admitted datagrams of these lengths. -/
structure IdentityRateState.Within (state : IdentityRateState) (limits : VpnIdentityLimits)
    (since until_ : Nat) (admitted : List Nat) : Prop where
  sameLimits : state.limits = limits
  last : state.lastRefill ≤ until_
  packets : Budget limits.maxPacketsPerSecond (packetCapacity limits) since
    (admitted.length * tokenScale) state.packetTokens state.lastRefill
  bytes : Budget limits.maxBytesPerSecond (byteCapacity limits) since
    (admitted.sum * tokenScale) state.byteTokens state.lastRefill

namespace IdentityRateState

variable {state after : IdentityRateState} {limits : VpnIdentityLimits} {since until_ now : Nat}
  {admitted lengths : List Nat}

theorem new_within (limits : VpnIdentityLimits) (before : since ≤ until_) :
    (new limits since).Within limits since until_ [] where
  sameLimits := rfl
  last := before
  packets := by
    rw [List.length_nil, Nat.zero_mul]
    exact .start le_rfl
  bytes := by
    rw [List.sum_nil, Nat.zero_mul]
    exact .start le_rfl

/-- What a refill gains, whatever saturates. -/
theorem gain_le (tokens elapsed rate capacity : Nat) :
    min (saturatingAdd u128Max tokens (saturatingMul u128Max elapsed rate)) capacity ≤
      tokens + rate * elapsed := by
  have product := Nat.mul_comm elapsed rate
  unfold saturatingAdd saturatingMul
  omega

/-- No cost saturates: a sum of lengths fits 64 bits, and the scale fits 30. -/
theorem cost_eq {amount : Nat} (small : amount ≤ usizeMax) :
    saturatingMul u128Max amount tokenScale = amount * tokenScale := by
  have fits : amount * tokenScale ≤ u128Max :=
    le_trans (Nat.mul_le_mul_right _ small) (by decide)
  unfold saturatingMul
  omega

variable (within : state.Within limits since until_ admitted)

include within

theorem Within.refill (now_le : now ≤ until_) :
    (state.refill now).Within limits since until_ admitted := by
  unfold IdentityRateState.refill
  split
  · exact within
  · rename_i later
    have order := Nat.le_of_not_lt later
    exact {
      sameLimits := within.sameLimits
      last := now_le
      packets := within.packets.refill order (by rw [within.sameLimits]; exact gain_le _ _ _ _)
      bytes := within.bytes.refill order (by rw [within.sameLimits]; exact gain_le _ _ _ _) }

/-- Reconfiguring with the same limits is a refill. -/
theorem Within.reconfigure (now_le : now ≤ until_) :
    (state.reconfigure limits now).Within limits since until_ admitted :=
  have refilled := within.refill now_le
  { sameLimits := rfl
    last := refilled.last
    packets := refilled.packets.lower (Nat.min_le_left _ _)
    bytes := refilled.bytes.lower (Nat.min_le_left _ _) }

theorem Within.refused (now_le : now ≤ until_) {rejection : VpnQuotaRejection}
    (admission : state.Admission lengths now (.error rejection) after) :
    after.Within limits since until_ admitted := by
  cases admission with
  | invalid => exact within
  | exceeded => exact within.refill now_le

theorem Within.granted (now_le : now ≤ until_)
    (admission : state.Admission lengths now (.ok ()) after) :
    after.Within limits since until_ (admitted ++ lengths) := by
  cases admission with
  | admitted counted small packets bytes =>
    have refilled := within.refill now_le
    have packetsCost : packetCost lengths = lengths.length * tokenScale :=
      cost_eq (le_trans counted small)
    have bytesCost : byteCost lengths.sum = lengths.sum * tokenScale := cost_eq small
    obtain ⟨sameLimits, sameLast, packetsLeft, bytesLeft⟩ := pay_fields (state.refill now) lengths
    constructor
    · rw [sameLimits, refilled.sameLimits]
    · rw [sameLast]
      exact refilled.last
    · rw [List.length_append, Nat.add_mul, ← packetsCost, packetsLeft, sameLast]
      exact refilled.packets.spend packets
    · rw [List.sum_append, Nat.add_mul, ← bytesCost, bytesLeft, sameLast]
      exact refilled.bytes.spend bytes

/-- **The bound**, in exact arithmetic: times are nanoseconds, rates are per second. -/
theorem Within.bound (before : since ≤ until_) :
    (admitted.length : ℚ) ≤ limits.maxPacketsPerSecond +
        limits.maxPacketsPerSecond * ((until_ - since : ℚ) / 1000000000) ∧
      (admitted.sum : ℚ) ≤ max limits.maxBytesPerSecond vpnMaxIpDatagramLen +
        limits.maxBytesPerSecond * ((until_ - since : ℚ) / 1000000000) := by
  have exact_ : ∀ {amount rate capacity : Nat},
      amount * tokenScale ≤ capacity * tokenScale + rate * (until_ - since) →
      (amount : ℚ) ≤ capacity + rate * ((until_ - since : ℚ) / 1000000000) := by
    intro amount rate capacity scaled
    have cast : ((amount * tokenScale : Nat) : ℚ) ≤
        ((capacity * tokenScale + rate * (until_ - since) : Nat) : ℚ) := Nat.cast_le.mpr scaled
    push_cast [Nat.cast_sub before, tokenScale] at cast
    linarith
  have packets := within.packets.spent_le within.last
  have bytes := within.bytes.spent_le within.last
  have packetsFull : packetCapacity limits ≤ limits.maxPacketsPerSecond * tokenScale :=
    Nat.min_le_left _ _
  have bytesFull : byteCapacity limits ≤
      max limits.maxBytesPerSecond vpnMaxIpDatagramLen * tokenScale := Nat.min_le_left _ _
  exact ⟨exact_ (by omega), exact_ (by omega)⟩

end IdentityRateState

/-! ## The heap -/

/-- A limiter within its bound, and the handles that use it. -/
structure DataPathHeap.Meters (heap : DataPathHeap) (rateLimiter : Nat) (dataPaths : List Nat)
    (limits : VpnIdentityLimits) (since until_ : Nat) (admitted : List Nat) : Prop where
  limiter : ∃ state, heap.rateLimiters[rateLimiter]? = some state ∧
    state.Within limits since until_ admitted
  users : ∀ (dataPath : Nat) (handle : VpnDataPathHandle), heap.handles[dataPath]? = some handle →
    (handle.rateLimiter = rateLimiter ↔ dataPath ∈ dataPaths)
  present : ∀ dataPath ∈ dataPaths, dataPath < heap.handles.length

/-- What an event admits to the handles of a list. -/
def HeapEvent.admittedOn (dataPaths : List Nat) : HeapEvent → List Nat
  | .operated dataPath _ admitted => if dataPath ∈ dataPaths then admitted else []
  | _ => []

/-- The event leaves the limits of the limiter and its users, and no time is later than
`until_`. -/
def HeapEvent.Respects (rateLimiter : Nat) (dataPaths : List Nat) (limits : VpnIdentityLimits)
    (until_ : Nat) : HeapEvent → Prop
  | .operated dataPath op _ => dataPath ∈ dataPaths → ∀ now, op.admitsAt = some now → now ≤ until_
  | .handleMade handle => handle.rateLimiter ≠ rateLimiter
  | .reconfigured other new now => other = rateLimiter → new = limits ∧ now ≤ until_
  | .limiterMade .. => True
  | .rehashed => True

namespace DataPathHeap

variable {heap after : DataPathHeap} {rateLimiter : Nat} {dataPaths : List Nat}
  {limits : VpnIdentityLimits} {since until_ : Nat} {admitted : List Nat}
  (meters : heap.Meters rateLimiter dataPaths limits since until_ admitted)

include meters

/-- The state of one handle is replaced. -/
theorem Meters.set_handle {dataPath : Nat} {handle : VpnDataPathHandle} {state : VpnDataPathState}
    (found : heap.handles[dataPath]? = some handle)
    (handles : after.handles = heap.handles.set dataPath { handle with state := state }) :
    (∀ (place : Nat) (other : VpnDataPathHandle), after.handles[place]? = some other →
      (other.rateLimiter = rateLimiter ↔ place ∈ dataPaths)) ∧
      ∀ place ∈ dataPaths, place < after.handles.length := by
  rw [handles]
  refine ⟨fun place other isOther => ?_, fun place member => ?_⟩
  · by_cases here : dataPath = place
    · subst here
      rw [List.getElem?_set_self (List.getElem?_eq_some_iff.mp found).1] at isOther
      cases isOther
      exact meters.users dataPath handle found
    · rw [List.getElem?_set_ne here] at isOther
      exact meters.users place other isOther
  · rw [List.length_set]
    exact meters.present place member

theorem Meters.operate {budget : VpnGlobalReassemblyBudget} {dataPath : Nat} {op : DataPathOp}
    {operated : Operated}
    (ran : heap.operate budget dataPath op = some operated)
    (intime : dataPath ∈ dataPaths → ∀ now, op.admitsAt = some now → now ≤ until_) :
    operated.heap.Meters rateLimiter dataPaths limits since until_
      (admitted ++ if dataPath ∈ dataPaths then operated.admitted else []) := by
  obtain ⟨handle, state, limiter, later, found, handles, isLimiter, changed, -⟩ :=
    operate_changes ran
  obtain ⟨users, present⟩ := meters.set_handle found handles
  refine ⟨?_, users, present⟩
  obtain ⟨metered, isMetered, within⟩ := meters.limiter
  have inside := (List.getElem?_eq_some_iff.mp isMetered).1
  by_cases own : dataPath ∈ dataPaths
  · rw [if_pos own]
    have place := (meters.users dataPath handle found).mpr own
    rw [place] at isLimiter
    cases isLimiter.symm.trans isMetered
    obtain ⟨last, isLast, bounded⟩ := operate_limiter
      (Q := fun state new => state.Within limits since until_ (admitted ++ new)) ran found
      (by rw [place]; exact isMetered) (by rw [List.append_nil]; exact within)
      (fun asks admission kept => kept.refused (intime own _ asks) admission)
      (fun asks admission kept => by
        rw [← List.append_assoc]
        exact kept.granted (intime own _ asks) admission)
    exact ⟨last, by rw [isLast, place, List.getElem?_set_self inside], bounded⟩
  · -- a handle of another client works on another limiter
    rw [if_neg own, List.append_nil]
    have other : handle.rateLimiter ≠ rateLimiter :=
      fun same => own ((meters.users dataPath handle found).mp same)
    exact ⟨metered, by rw [changed, List.getElem?_set_ne other, isMetered], within⟩

theorem Meters.reconfigure {other now : Nat} {new : VpnIdentityLimits}
    (own : other = rateLimiter → new = limits ∧ now ≤ until_) :
    (heap.reconfigure other new now).Meters rateLimiter dataPaths limits since until_ admitted := by
  refine ⟨?_, meters.users, meters.present⟩
  obtain ⟨metered, isMetered, within⟩ := meters.limiter
  by_cases same : other = rateLimiter
  · obtain ⟨rfl, intime⟩ := own same
    refine ⟨metered.reconfigure new now, ?_, within.reconfigure intime⟩
    rw [DataPathHeap.reconfigure, same, List.getElem?_modify_eq, isMetered]
    rfl
  · refine ⟨metered, ?_, within⟩
    rw [DataPathHeap.reconfigure, List.getElem?_modify_ne _ _ same]
    exact isMetered

theorem Meters.newLimiter (new : VpnIdentityLimits) (now : Nat) :
    (heap.newLimiter new now).Meters rateLimiter dataPaths limits since until_ admitted := by
  obtain ⟨metered, isMetered, within⟩ := meters.limiter
  have inside := (List.getElem?_eq_some_iff.mp isMetered).1
  refine ⟨⟨metered, ?_, within⟩, meters.users, meters.present⟩
  rw [DataPathHeap.newLimiter, List.getElem?_append_left inside, isMetered]

/-- A new handle uses the limiter or not. -/
theorem Meters.newHandle (handle : VpnDataPathHandle) :
    (heap.newHandle handle).Meters rateLimiter
      (if handle.rateLimiter = rateLimiter then heap.handles.length :: dataPaths else dataPaths)
      limits since until_ admitted := by
  have fresh : heap.handles.length ∉ dataPaths :=
    fun member => Nat.lt_irrefl _ (meters.present _ member)
  refine ⟨meters.limiter, fun place other isOther => ?_, fun place member => ?_⟩
  · rcases getElem?_append_singleton.mp isOther with old | ⟨here, same⟩
    · have inside := (List.getElem?_eq_some_iff.mp old).1
      rw [meters.users place other old]
      split
      · rw [List.mem_cons]
        exact ⟨.inr, fun member => member.resolve_left (Nat.ne_of_lt inside)⟩
      · rfl
    · subst here same
      split
      · rename_i own
        simp [own]
      · rename_i foreign
        exact ⟨fun own => absurd own foreign, fun member => absurd member fresh⟩
  · simp only [DataPathHeap.newHandle, List.length_append, List.length_singleton]
    split at member
    · rcases List.mem_cons.mp member with rfl | old
      · omega
      · have := meters.present place old
        omega
    · have := meters.present place member
      omega

end DataPathHeap

section Steps

variable {budget : VpnGlobalReassemblyBudget} {before after : DataPathHeap} {rateLimiter : Nat}
  {dataPaths : List Nat} {limits : VpnIdentityLimits} {since until_ : Nat} {admitted : List Nat}

/-- **One action** keeps the bound. -/
theorem HeapStep.meters {event : HeapEvent}
    (meters : before.Meters rateLimiter dataPaths limits since until_ admitted)
    (step : HeapStep budget before event after)
    (respects : event.Respects rateLimiter dataPaths limits until_) :
    after.Meters rateLimiter dataPaths limits since until_
      (admitted ++ event.admittedOn dataPaths) := by
  cases step with
  | operate returned => exact meters.operate returned respects
  | newLimiter new now =>
    show (before.newLimiter new now).Meters _ _ _ _ _ (admitted ++ [])
    rw [List.append_nil]
    exact meters.newLimiter new now
  | newHandle handle =>
    show (before.newHandle handle).Meters _ _ _ _ _ (admitted ++ [])
    rw [List.append_nil]
    have kept := meters.newHandle handle
    rwa [if_neg respects] at kept
  | reconfigure other new now =>
    show (before.reconfigure other new now).Meters _ _ _ _ _ (admitted ++ [])
    rw [List.append_nil]
    exact meters.reconfigure respects
  | rehash rehash =>
    show after.Meters _ _ _ _ _ (admitted ++ [])
    rw [List.append_nil]
    cases rehash with
    | handle found =>
      exact ⟨meters.limiter, (meters.set_handle found rfl).1, (meters.set_handle found rfl).2⟩

theorem HeapEvent.Switches.respects {event : HeapEvent} (switches : event.Switches) :
    event.Respects rateLimiter dataPaths limits until_ := by
  cases event with
  | operated dataPath op new =>
    intro _ now asks
    rw [HeapEvent.Switches.silent switches] at asks
    cases asks
  | limiterMade => exact trivial
  | handleMade => exact switches.elim
  | reconfigured => exact switches.elim
  | rehashed => exact trivial

/-- Actions that respect the limiter and admit nothing. -/
theorem HeapRun.meters {events : List HeapEvent}
    (meters : before.Meters rateLimiter dataPaths limits since until_ admitted)
    (run : HeapRun budget before events after)
    (respects : ∀ event ∈ events, event.Respects rateLimiter dataPaths limits until_)
    (silent : ∀ event ∈ events, ∀ dataPath op new, event = .operated dataPath op new →
      op.admitsAt = none) : after.Meters rateLimiter dataPaths limits since until_ admitted := by
  induction run with
  | done heap => exact meters
  | @next _ mid _ event events step rest ih =>
    obtain ⟨first, others⟩ := List.forall_mem_cons.mp respects
    obtain ⟨quiet, quietOthers⟩ := List.forall_mem_cons.mp silent
    have kept := step.meters meters first
    have nothing : event.admittedOn dataPaths = [] := by
      cases step with
      | operate returned =>
        have := (DataPathHeap.operate_silent returned (quiet _ _ _ rfl)).2
        simp [HeapEvent.admittedOn, this]
      | _ => rfl
    rw [nothing, List.append_nil] at kept
    exact ih kept others quietOthers

/-- Switching handles keeps the bound. -/
theorem DataPathHeap.SwitchesTo.meters (switching : before.SwitchesTo budget after)
    (meters : before.Meters rateLimiter dataPaths limits since until_ admitted) :
    after.Meters rateLimiter dataPaths limits since until_ admitted := by
  obtain ⟨events, run, switches⟩ := switching
  refine run.meters meters (fun event member => (switches event member).respects) ?_
  rintro event member dataPath op new rfl
  exact (switches _ member).silent

end Steps

/-! ## The client in a log -/

/-- The time and the handle of a commit of the client that succeeded. -/
def CoordinatorEvent.commitOf (clientId : String) : CoordinatorEvent → Option (Nat × Nat)
  | .committed session now (.ok opened) =>
    if session.identity.clientId = clientId then some (now, opened.dataPath) else none
  | _ => none

/-- What an event admits to the handles of a list. -/
def CoordinatorEvent.admittedOn (dataPaths : List Nat) : CoordinatorEvent → List Nat
  | .operated dataPath _ _ admitted => if dataPath ∈ dataPaths then admitted else []
  | _ => []

/-- All handles that the client was given. -/
def dataPathsOf (clientId : String) (log : List CoordinatorEvent) : List Nat :=
  (log.filterMap (·.commitOf clientId)).map (·.2)

/-- The time of the client's first commit, at which its limiter is made. -/
def limiterMadeAt (clientId : String) (log : List CoordinatorEvent) : Option Nat :=
  (log.filterMap (·.commitOf clientId)).getLast?.map (·.1)

/-- The lengths of all datagrams that the client's handles were admitted, oldest
first. -/
def admittedOf (clientId : String) : List CoordinatorEvent → List Nat
  | [] => []
  | event :: earlier =>
    admittedOf clientId earlier ++ event.admittedOn (dataPathsOf clientId earlier)

/-- The client is registered and enabled, with these limits. -/
def RegisteredWith (registry : VpnIdentityRegistry) (clientId : String)
    (limits : VpnIdentityLimits) : Prop :=
  ∃ identity, registry.enabledIdentity clientId = some identity ∧ identity.limits = limits

/-- The event leaves the client registered with its limits, is no `close_all`, and uses no
time later than `until_`: not for a commit of the client, not for a reload, and not for an
operation on one of the client's handles. -/
def CoordinatorEvent.Steady (clientId : String) (limits : VpnIdentityLimits) (until_ : Nat)
    (dataPaths : List Nat) : CoordinatorEvent → Prop
  | .committed session now _ => session.identity.clientId = clientId → now ≤ until_
  | .reloaded registry now _ => RegisteredWith registry clientId limits ∧ now ≤ until_
  | .closedAll _ => False
  | .operated dataPath op _ _ => dataPath ∈ dataPaths → ∀ now, op.admitsAt = some now → now ≤ until_
  | _ => True

theorem CoordinatorEvent.Steady.mono {clientId : String} {limits : VpnIdentityLimits} {until_ : Nat}
    {fewer more : List Nat} {event : CoordinatorEvent} (subset : ∀ place ∈ fewer, place ∈ more)
    (steady : event.Steady clientId limits until_ more) :
    event.Steady clientId limits until_ fewer := by
  cases event with
  | operated dataPath op reply admitted => exact fun member => steady (subset dataPath member)
  | _ => exact steady

/-! ## The invariant of a run -/

/-- The client's account: nothing yet, or a limiter of its own within the bound. -/
structure Metered (clientId : String) (limits : VpnIdentityLimits) (until_ : Nat)
    (log : List CoordinatorEvent) (coordinator : VpnSessionCoordinator) : Prop where
  registered : RegisteredWith coordinator.state.registry clientId limits
  distinct : ∀ first second rateLimiter,
    coordinator.state.identityQuotas.lookup first = some rateLimiter →
    coordinator.state.identityQuotas.lookup second = some rateLimiter → first = second
  account : (log.filterMap (·.commitOf clientId) = [] ∧ admittedOf clientId log = [] ∧
      coordinator.state.identityQuotas.lookup clientId = none) ∨
    ∃ since rateLimiter, limiterMadeAt clientId log = some since ∧
      coordinator.state.identityQuotas.lookup clientId = some rateLimiter ∧
      coordinator.heap.Meters rateLimiter (dataPathsOf clientId log) limits since until_
        (admittedOf clientId log)

section Metering

variable {clientId : String} {limits : VpnIdentityLimits} {until_ : Nat}
  {log : List CoordinatorEvent} {self after : VpnSessionCoordinator} {event : CoordinatorEvent}

variable {now commits : Nat} {heap : DataPathHeap} {session : VpnNegotiatedSession}
  {closed : List ConnectionClose}

/-- The steps of a commit after its limiter is there. -/
theorem commit_meters {mid later last : DataPathHeap} {budget : VpnGlobalReassemblyBudget}
    {handle : VpnDataPathHandle} {new : VpnIdentityLimits} {rateLimiter since : Nat}
    {dataPaths admitted : List Nat}
    (meters : heap.Meters rateLimiter dataPaths limits since until_ admitted)
    (switchOff : (heap.newHandle handle).SwitchesTo budget mid)
    (reconfigures : later = mid.reconfigure handle.rateLimiter new now)
    (switchOn : later.SwitchesTo budget last)
    (own : handle.rateLimiter = rateLimiter → new = limits ∧ now ≤ until_) :
    last.Meters rateLimiter
      (if handle.rateLimiter = rateLimiter then heap.handles.length :: dataPaths else dataPaths)
      limits since until_ admitted := by
  have made := meters.newHandle handle
  have step : HeapStep budget mid _ _ := .reconfigure handle.rateLimiter new now
  have reconfigured := step.meters (switchOff.meters made) own
  rw [HeapEvent.admittedOn, List.append_nil, ← reconfigures] at reconfigured
  · exact switchOn.meters reconfigured
  · intro _ _ _ same
    cases same

/-- A commit under a registered client id has the registered limits. -/
theorem RegisteredWith.commitIdentity {registry : VpnIdentityRegistry} {identity : VpnIdentity}
    (registered : RegisteredWith registry session.identity.clientId limits)
    (permitted : commitIdentity registry session = .ok identity) :
    session.identity.limits = limits := by
  obtain ⟨listed, isListed, isLimits⟩ := registered
  obtain ⟨authorized, sameClient, samePolicy⟩ := commitIdentity_ok permitted
  obtain ⟨member, -, -⟩ := VpnIdentityRegistry.authorize_iff.mp authorized
  have named := VpnIdentityRegistry.identityByClientId_iff.mpr ⟨member, sameClient⟩
  rw [VpnIdentityRegistry.enabledIdentity, named] at isListed
  obtain ⟨same, -⟩ := Option.filter_eq_some_iff.mp isListed
  cases same
  rw [(VpnIdentity.hasSameSessionPolicy_iff.mp samePolicy).2.2.2, isLimits]

/-- A limiter that nobody uses yet. -/
theorem DataPathHeap.Good.newLimiter_meters (good : heap.Good) (intime : now ≤ until_) :
    (heap.newLimiter limits now).Meters heap.rateLimiters.length [] limits now until_ [] where
  limiter := ⟨.new limits now, by simp [DataPathHeap.newLimiter],
    IdentityRateState.new_within limits intime⟩
  users := by
    intro dataPath handle found
    have older := good.limiter handle (List.mem_of_getElem? found)
    simp only [List.not_mem_nil, iff_false]
    omega
  present := by simp

section Kept

variable (metered : Metered clientId limits until_ log self)

include metered

/-- An event that gives the client no handle. -/
theorem Metered.quiet (noCommit : event.commitOf clientId = none)
    (registered : RegisteredWith after.state.registry clientId limits)
    (distinct : ∀ first second rateLimiter,
      after.state.identityQuotas.lookup first = some rateLimiter →
      after.state.identityQuotas.lookup second = some rateLimiter → first = second)
    (sameQuota : after.state.identityQuotas.lookup clientId =
      self.state.identityQuotas.lookup clientId)
    (kept : ∀ {since rateLimiter admitted},
      self.state.identityQuotas.lookup clientId = some rateLimiter →
      self.heap.Meters rateLimiter (dataPathsOf clientId log) limits since until_ admitted →
      after.heap.Meters rateLimiter (dataPathsOf clientId log) limits since until_
        (admitted ++ event.admittedOn (dataPathsOf clientId log))) :
    Metered clientId limits until_ (event :: log) after where
  registered := registered
  distinct := distinct
  account := by
    have sameCommits : (event :: log).filterMap (·.commitOf clientId) =
        log.filterMap (·.commitOf clientId) := List.filterMap_cons_none noCommit
    rcases metered.account with ⟨none_, nothing, absent⟩ | ⟨since, rateLimiter, made, quota, meters⟩
    · left
      refine ⟨sameCommits.trans none_, ?_, sameQuota.trans absent⟩
      have noPaths : dataPathsOf clientId log = [] := by rw [dataPathsOf, none_, List.map_nil]
      rw [admittedOf, nothing, noPaths]
      cases event <;> simp [admittedOn]
    · right
      refine ⟨since, rateLimiter, ?_, sameQuota.trans quota, ?_⟩
      · rw [limiterMadeAt, sameCommits]
        exact made
      · rw [dataPathsOf, sameCommits]
        exact kept quota meters

/-- Clients still have limiters of their own after the limiter of one is looked up. -/
theorem Metered.quotaEntry_distinct (safe : Safe self commits) {other : String}
    {new : VpnIdentityLimits} {rateLimiter : Nat}
    {identityQuotas : Table String Nat}
    (isEntry : self.quotaEntry other new now = (rateLimiter, identityQuotas, heap)) :
    identityQuotas.lookup other = some rateLimiter ∧
      ∀ first second place, identityQuotas.lookup first = some place →
        identityQuotas.lookup second = some place → first = second := by
  rcases quotaEntry_run self.globalBudget isEntry with
    ⟨found, rfl, -⟩ | ⟨-, isNew, rfl, -⟩
  · exact ⟨found, metered.distinct⟩
  · refine ⟨AList.lookup_insert _, fun first second place isFirst isSecond => ?_⟩
    have older : ∀ client, self.state.identityQuotas.lookup client ≠ some rateLimiter := by
      intro client listed
      have := safe.linked.quota client rateLimiter listed
      omega
    by_cases one : first = other
    · subst one
      rw [AList.lookup_insert] at isFirst
      cases isFirst
      by_contra differ
      rw [AList.lookup_insert_ne (Ne.symm differ)] at isSecond
      exact older second isSecond
    · rw [AList.lookup_insert_ne one] at isFirst
      by_cases two : second = other
      · subst two
        rw [AList.lookup_insert] at isSecond
        cases isSecond
        exact absurd isFirst (older first)
      · rw [AList.lookup_insert_ne two] at isSecond
        exact metered.distinct first second place isFirst isSecond

/-- A commit of the client: its handle joins the account. -/
theorem Metered.commit_own (safe : Safe self commits) {connection : Nat}
    {opened : VpnCommittedSession}
    (returned : self.commit session connection now = some (.ok opened, closed, after))
    (own : session.identity.clientId = clientId) (intime : now ≤ until_) :
    Metered clientId limits until_ (.committed session now (.ok opened) :: log) after := by
  subst own
  obtain ⟨left, identity, heap, handle, mid, later, permitted, isEntry, -, place, switchOff,
    reconfigures, switchOn⟩ := commit_run returned
  have sameLimits := metered.registered.commitIdentity permitted
  obtain ⟨found, distinct⟩ := metered.quotaEntry_distinct safe isEntry
  have commits_ : (committed session now (.ok opened) :: log).filterMap
      (·.commitOf session.identity.clientId) =
        (now, heap.handles.length) :: log.filterMap (·.commitOf session.identity.clientId) := by
    rw [List.filterMap_cons_some (b := (now, heap.handles.length))]
    rw [commitOf, if_pos rfl, place]
  have admits : admittedOf session.identity.clientId
      (committed session now (.ok opened) :: log) =
        admittedOf session.identity.clientId log := List.append_nil _
  have settle : ∀ {since},
      heap.Meters handle.rateLimiter (dataPathsOf session.identity.clientId log) limits since until_
        (admittedOf session.identity.clientId log) →
      after.heap.Meters handle.rateLimiter (dataPathsOf session.identity.clientId
        (.committed session now (.ok opened) :: log)) limits since until_
        (admittedOf session.identity.clientId log) := by
    intro since meters
    have settled := commit_meters meters switchOff reconfigures switchOn
      fun _ => ⟨sameLimits, intime⟩
    rw [if_pos rfl] at settled
    rw [dataPathsOf, commits_, List.map_cons]
    exact settled
  refine ⟨left.registry ▸ metered.registered, distinct, .inr ?_⟩
  rw [admits, limiterMadeAt, commits_]
  rcases metered.account with ⟨none_, nothing, absent⟩ | ⟨since, older, made, quota, meters⟩
  · -- the limiter is made by this commit
    rcases quotaEntry_run self.globalBudget isEntry with
      ⟨present, -, -⟩ | ⟨-, isNew, -, makes⟩
    · cases absent.symm.trans present
    · refine ⟨now, handle.rateLimiter, by rw [none_]; rfl, found, settle ?_⟩
      cases makes
      rw [isNew, sameLimits, nothing, dataPathsOf, none_]
      exact safe.linked.good.newLimiter_meters intime
  · rcases quotaEntry_run self.globalBudget isEntry with
      ⟨present, -, rfl⟩ | ⟨missing, -, -, -⟩
    · cases quota.symm.trans present
      refine ⟨since, handle.rateLimiter, ?_, found, settle meters⟩
      rw [← made, limiterMadeAt, List.getLast?_cons]
      cases older : log.filterMap (·.commitOf session.identity.clientId) with
      | nil =>
        rw [limiterMadeAt, older] at made
        cases made
      | cons first rest => simp [List.getLast?_cons]
    · cases missing.symm.trans quota

/-- A commit of another client works on another limiter. -/
theorem Metered.commit_other (safe : Safe self commits) {connection : Nat}
    {opened : VpnCommittedSession}
    (returned : self.commit session connection now = some (.ok opened, closed, after))
    (other : session.identity.clientId ≠ clientId) :
    Metered clientId limits until_ (.committed session now (.ok opened) :: log) after := by
  obtain ⟨left, _, heap, handle, mid, later, -, isEntry, -, -, switchOff, reconfigures,
    switchOn⟩ := commit_run returned
  obtain ⟨found, distinct⟩ := metered.quotaEntry_distinct safe isEntry
  have sameQuota : after.state.identityQuotas.lookup clientId =
      self.state.identityQuotas.lookup clientId := by
    rcases quotaEntry_run self.globalBudget isEntry with
      ⟨-, same, -⟩ | ⟨-, -, same, -⟩
    · rw [same]
    · rw [same, AList.lookup_insert_ne other.symm]
  refine metered.quiet (if_neg other) (left.registry ▸ metered.registered) distinct sameQuota ?_
  intro since own admitted quota meters
  have foreign : handle.rateLimiter ≠ own := by
    rintro rfl
    exact other (distinct _ _ _ found (sameQuota.trans quota))
  have ready : heap.Meters own (dataPathsOf clientId log) limits since until_ admitted := by
    rcases quotaEntry_run self.globalBudget isEntry with
      ⟨-, -, rfl⟩ | ⟨-, -, -, makes⟩
    · exact meters
    · cases makes
      exact meters.newLimiter _ _
  have settled := commit_meters ready switchOff reconfigures switchOn
    fun same => absurd same foreign
  rw [if_neg foreign] at settled
  rw [admittedOn, List.append_nil]
  · exact settled
  · intro _ _ _ _ same
    cases same

/-- A reload reconfigures the limiter of each client with its limits, which are the same
for this one. -/
theorem Metered.reload {registry : VpnIdentityRegistry} {report : VpnCoordinatorReloadReport}
    (returned : self.replaceRegistry registry now = some (report, closed, after))
    (registered : RegisteredWith registry clientId limits) (intime : now ≤ until_) :
    Metered clientId limits until_ (.reloaded registry now report :: log) after := by
  obtain ⟨-, sameRegistry, retains, events, run, effects⟩ :=
    replaceRegistry_run returned
  obtain ⟨identity, enabled, isLimits⟩ := registered
  have sub : ∀ client place, after.state.identityQuotas.lookup client = some place →
      self.state.identityQuotas.lookup client = some place := by
    intro client place listed
    rw [retains] at listed
    exact (Table.lookup_retain_eq_some.mp listed).1
  have sameQuota : after.state.identityQuotas.lookup clientId =
      self.state.identityQuotas.lookup clientId := by
    apply Option.ext
    intro place
    refine ⟨sub clientId place, fun listed => ?_⟩
    rw [retains]
    exact Table.lookup_retain_eq_some.mpr ⟨listed, by rw [enabled]; rfl⟩
  refine metered.quiet rfl ⟨identity, by rw [sameRegistry, enabled], isLimits⟩
    (fun first second place isFirst isSecond =>
      metered.distinct first second place (sub _ _ isFirst) (sub _ _ isSecond)) sameQuota ?_
  intro since own admitted quota meters
  rw [admittedOn, List.append_nil]
  · refine run.meters meters (fun event member => ?_) ?_
    · rcases effects event member with switches | ⟨client, place, found, listed, isFound, rfl⟩
      · exact switches.respects
      · rintro rfl
        cases metered.distinct _ _ _ listed quota
        cases enabled.symm.trans isFound
        exact ⟨isLimits, intime⟩
    · rintro event member dataPath op new rfl
      rcases effects _ member with switches | ⟨_, _, _, -, -, same⟩
      · exact switches.silent
      · cases same
  · intro _ _ _ _ same
    cases same

/-- **One step** keeps the client's account. -/
theorem Metered.step (safe : Safe self commits) (next : CoordinatorStep self event after)
    (steady : event.Steady clientId limits until_ (dataPathsOf clientId log)) :
    Metered clientId limits until_ (event :: log) after := by
  have unchanged : ∀ {rateLimiter since admitted},
      self.heap.Meters rateLimiter (dataPathsOf clientId log) limits since until_ admitted →
      self.heap.Meters rateLimiter (dataPathsOf clientId log) limits since until_
        (admitted ++ []) := by
    intro rateLimiter since admitted meters
    rwa [List.append_nil]
  cases next with
  | allocate =>
    rcases self.allocateGeneration_cases with ⟨_, -, same⟩ | same <;> rw [same] <;>
      exact metered.quiet rfl metered.registered metered.distinct rfl
        fun _ meters => unchanged meters
  | @commit session connection now result closed _ returned =>
    cases result with
    | error error =>
      obtain ⟨rfl, -⟩ := commit_refused returned
      exact metered.quiet rfl metered.registered metered.distinct rfl
        fun _ meters => unchanged meters
    | ok opened =>
      by_cases own : session.identity.clientId = clientId
      · exact metered.commit_own safe returned own (steady own)
      · exact metered.commit_other safe returned own
  | release returned =>
    obtain ⟨-, registry, quotas, switches⟩ :=
      releaseIfCurrent_run returned
    exact metered.quiet rfl (registry ▸ metered.registered) (quotas ▸ metered.distinct)
      (by rw [quotas]) fun _ meters => switches.meters (unchanged meters)
  | reload returned => exact metered.reload returned steady.1 steady.2
  | closeAll returned => exact steady.elim
  | operate allowed returned =>
    exact metered.quiet rfl metered.registered metered.distinct rfl
      fun _ meters => meters.operate returned steady
  | rehashHandle rehash =>
    have step : HeapStep self.globalBudget self.heap .rehashed _ := .rehash rehash
    exact metered.quiet rfl metered.registered metered.distinct rfl
      fun _ meters => step.meters meters trivial
  | rehash sameActive sameQuotas =>
    refine metered.quiet rfl metered.registered ?_ (sameQuotas.lookup_eq clientId).symm
      fun _ meters => unchanged meters
    intro first second place isFirst isSecond
    rw [← sameQuotas.lookup_eq] at isFirst isSecond
    exact metered.distinct first second place isFirst isSecond

end Kept

theorem dataPathsOf_subset {earlier : List CoordinatorEvent} :
    ∀ place ∈ dataPathsOf clientId earlier, place ∈ dataPathsOf clientId (event :: earlier) := by
  intro place member
  rw [dataPathsOf, List.filterMap_cons]
  split
  · exact member
  · exact List.mem_cons_of_mem _ member

/-- **The account over whole runs.** -/
theorem CoordinatorRun.metered {first : VpnSessionCoordinator} (safe : Safe first 0)
    (start : Metered clientId limits until_ [] first) (run : CoordinatorRun first log self)
    (steady : ∀ event ∈ log, event.Steady clientId limits until_ (dataPathsOf clientId log)) :
    Metered clientId limits until_ log self := by
  induction run with
  | start => exact start
  | step earlier next ih =>
    obtain ⟨now, before⟩ := List.forall_mem_cons.mp steady
    have kept := ih fun event member => (before event member).mono dataPathsOf_subset
    exact kept.step (earlier.safe safe) next (now.mono dataPathsOf_subset)

/-- The limiter is not made later than `until_`. -/
theorem limiterMadeAt_le {since : Nat}
    (steady : ∀ event ∈ log, event.Steady clientId limits until_ (dataPathsOf clientId log))
    (made : limiterMadeAt clientId log = some since) : since ≤ until_ := by
  obtain ⟨⟨now, dataPath⟩, isLast, rfl⟩ := Option.map_eq_some_iff.mp made
  obtain ⟨event, member, commits⟩ := List.mem_filterMap.mp (List.mem_of_getLast? isLast)
  unfold commitOf at commits
  split at commits
  · split at commits
    · rename_i own
      cases commits
      exact steady _ member own
    · cases commits
  · cases commits

end Metering

/-- **The rate limit of a client.** In every run in which the client stays registered with
the same limits and `close_all` is not called, the datagrams admitted to all handles that
the client was ever given stay within one burst plus what the rate gives from the making
of the limiter to the latest time that is used. Times may go backwards. -/
theorem rateLimit_bound {registry : VpnIdentityRegistry} {initialGeneration : UInt64}
    {globalReassemblyLimit globalInflightLimit : Nat} {first self : VpnSessionCoordinator}
    {log : List CoordinatorEvent} {clientId : String} {limits : VpnIdentityLimits}
    {since until_ : Nat}
    (built : withResourceLimits registry initialGeneration
      globalReassemblyLimit globalInflightLimit = .ok first)
    (registered : RegisteredWith registry clientId limits)
    (run : CoordinatorRun first log self)
    (steady : ∀ event ∈ log, event.Steady clientId limits until_ (dataPathsOf clientId log))
    (made : limiterMadeAt clientId log = some since) :
    ((admittedOf clientId log).length : ℚ) ≤ limits.maxPacketsPerSecond +
        limits.maxPacketsPerSecond * ((until_ - since : ℚ) / 1000000000) ∧
      ((admittedOf clientId log).sum : ℚ) ≤
        max limits.maxBytesPerSecond vpnMaxIpDatagramLen +
          limits.maxBytesPerSecond * ((until_ - since : ℚ) / 1000000000) := by
  have safe := Safe.start built
  have start : Metered clientId limits until_ [] first := by
    obtain ⟨globalBudget, rfl⟩ := withResourceLimits_eq_ok built
    exact {
      registered := registered
      distinct := fun _ _ _ listed => nomatch listed
      account := .inl ⟨rfl, rfl, rfl⟩ }
  have metered := run.metered safe start steady
  rcases metered.account with ⟨none_, -, -⟩ | ⟨since', rateLimiter, made', -, meters⟩
  · rw [limiterMadeAt, none_] at made
    cases made
  · cases made.symm.trans made'
    obtain ⟨state, -, within⟩ := meters.limiter
    exact within.bound (limiterMadeAt_le steady made)

/-! The example session is committed and a datagram of 15 bytes comes in 200 ns later. -/

def exampleArrival : DataPathOp := .ingestDatagram .uplink exampleDatagram 300

theorem rateLimit_bound_example :
    ∃ log self, CoordinatorRun exampleCoordinator log self ∧
      limiterMadeAt "client-a" log = some 100 ∧ admittedOf "client-a" log = [15] ∧
      (([15] : List Nat).length : ℚ) ≤ VpnIdentityLimits.default.maxPacketsPerSecond +
        VpnIdentityLimits.default.maxPacketsPerSecond * ((300 - 100 : ℚ) / 1000000000) := by
  have evaluated : ((exampleCoordinator.commit exampleSession 5 100).bind fun returned =>
      (returned.2.2.heap.operate returned.2.2.globalBudget 0 exampleArrival).map fun operated =>
        (returned.1.toOption.map (·.dataPath), operated.admitted)) = some (some 0, [15]) := by
    decide +kernel
  obtain ⟨⟨result, closed, self⟩, returned, operates⟩ := Option.bind_eq_some_iff.mp evaluated
  obtain ⟨operated, ran, isResult⟩ := Option.map_eq_some_iff.mp operates
  obtain ⟨isOpened, isAdmitted⟩ := Prod.mk.inj isResult
  cases result with
  | error error => cases isOpened
  | ok opened =>
    have place : opened.dataPath = 0 := Option.some.inj isOpened
    obtain ⟨log, isLog⟩ : ∃ log, log = [.operated 0 exampleArrival operated.reply operated.admitted,
      committed exampleSession 100 (.ok opened)] := ⟨_, rfl⟩
    have run : CoordinatorRun exampleCoordinator log { self with heap := operated.heap } :=
      isLog ▸ (CoordinatorRun.start.step (.commit returned)).step (.operate nofun ran)
    have made : limiterMadeAt "client-a" log = some 100 := isLog ▸ rfl
    have before : dataPathsOf "client-a" [.committed exampleSession 100 (.ok opened)] = [0] := by
      rw [← place]
      rfl
    have admitted : admittedOf "client-a" log = [15] := by
      rw [isLog, admittedOf, before, admittedOn, if_pos (by decide), isAdmitted]
      rfl
    have steady : ∀ event ∈ log, event.Steady "client-a" .default 300
        (dataPathsOf "client-a" log) := by
      intro event member
      rw [isLog] at member
      rcases List.mem_pair.mp member with rfl | rfl
      · intro _ now asks
        cases asks
        exact Nat.le_refl 300
      · exact fun _ => by decide
    have bound :=
      (rateLimit_bound exampleCoordinator_built ⟨exampleIdentity, rfl, rfl⟩ run steady made).1
    rw [admitted] at bound
    exact ⟨log, _, run, made, admitted, by exact_mod_cast bound⟩

end FlowWeave.Vpn
