/-
# Vpn.HeapTrace — what can happen on a heap of handles

Whatever a server or a client does to its handles and limiters is a sequence of a few
actions: a handle is made or operated, a limiter is made or reconfigured. `HeapRun` is
such a sequence. What every action keeps is kept by every run; the first such fact is
`HeapRun.extends`: a handle stays where it is, with its policy and its limiter.
-/
import FlowWeave.Vpn.CoordinatorHeap

namespace FlowWeave.Vpn

set_option autoImplicit false

inductive HeapEvent where
  | operated (dataPath : Nat) (op : DataPathOp) (admitted : List Nat)
  | limiterMade (limits : VpnIdentityLimits) (now : Nat)
  | handleMade (handle : VpnDataPathHandle)
  | reconfigured (rateLimiter : Nat) (limits : VpnIdentityLimits) (now : Nat)
  | rehashed

inductive HeapStep (budget : VpnGlobalReassemblyBudget) (before : DataPathHeap) :
    HeapEvent → DataPathHeap → Prop
  | operate {dataPath : Nat} {op : DataPathOp} {operated : Operated}
      (returned : before.operate budget dataPath op = some operated) :
      HeapStep budget before (.operated dataPath op operated.admitted) operated.heap
  | newLimiter (limits : VpnIdentityLimits) (now : Nat) :
      HeapStep budget before (.limiterMade limits now) (before.newLimiter limits now)
  | newHandle (handle : VpnDataPathHandle) :
      HeapStep budget before (.handleMade handle) (before.newHandle handle)
  | reconfigure (rateLimiter : Nat) (limits : VpnIdentityLimits) (now : Nat) :
      HeapStep budget before (.reconfigured rateLimiter limits now)
        (before.reconfigure rateLimiter limits now)
  | rehash {after : DataPathHeap} (rehash : before.Rehash after) :
      HeapStep budget before .rehashed after

/-- Actions one after the other, oldest first. -/
inductive HeapRun (budget : VpnGlobalReassemblyBudget) :
    DataPathHeap → List HeapEvent → DataPathHeap → Prop
  | done (heap : DataPathHeap) : HeapRun budget heap [] heap
  | next {before mid after : DataPathHeap} {event : HeapEvent} {events : List HeapEvent}
      (step : HeapStep budget before event mid) (rest : HeapRun budget mid events after) :
      HeapRun budget before (event :: events) after

section Runs

variable {budget : VpnGlobalReassemblyBudget} {before mid after : DataPathHeap}

theorem HeapStep.run {event : HeapEvent} (step : HeapStep budget before event after) :
    HeapRun budget before [event] after :=
  .next step (.done after)

theorem HeapRun.append {first second : List HeapEvent} (run : HeapRun budget before first mid)
    (rest : HeapRun budget mid second after) : HeapRun budget before (first ++ second) after := by
  induction run with
  | done => exact rest
  | next step _ ih => exact .next step (ih rest)

end Runs

/-! ## Handles stay -/

/-- Every handle is still in its place, with its immutable part and its limiter. -/
def DataPathHeap.Extends (before after : DataPathHeap) : Prop :=
  ∀ (dataPath : Nat) (handle : VpnDataPathHandle), before.handles[dataPath]? = some handle →
    ∃ later, after.handles[dataPath]? = some later ∧ later.inner = handle.inner ∧
      later.rateLimiter = handle.rateLimiter

namespace DataPathHeap

variable {before mid after : DataPathHeap}

theorem Extends.refl (heap : DataPathHeap) : heap.Extends heap :=
  fun _ handle found => ⟨handle, found, rfl, rfl⟩

theorem Extends.trans (first : before.Extends mid) (second : mid.Extends after) :
    before.Extends after := by
  intro dataPath handle found
  obtain ⟨between, isBetween, inner, limiter⟩ := first dataPath handle found
  obtain ⟨later, isLater, sameInner, sameLimiter⟩ := second dataPath between isBetween
  exact ⟨later, isLater, sameInner.trans inner, sameLimiter.trans limiter⟩

theorem Extends.of_set {dataPath : Nat} {handle : VpnDataPathHandle} {state : VpnDataPathState}
    (found : before.handles[dataPath]? = some handle)
    (handles : after.handles = before.handles.set dataPath { handle with state := state }) :
    before.Extends after := by
  intro place other isOther
  rw [handles]
  by_cases here : dataPath = place
  · subst here
    cases found.symm.trans isOther
    have inside := (List.getElem?_eq_some_iff.mp found).1
    exact ⟨_, List.getElem?_set_self inside, rfl, rfl⟩
  · exact ⟨other, by rw [List.getElem?_set_ne here, isOther], rfl, rfl⟩

theorem Extends.newHandle (handle : VpnDataPathHandle) : before.Extends (before.newHandle handle) :=
  fun _ old found => ⟨old, newHandle_old found, rfl, rfl⟩

/-- An operation whose program runs through. -/
theorem operate_of_run {budget : VpnGlobalReassemblyBudget} {dataPath : Nat} {op : DataPathOp}
    {handle : VpnDataPathHandle} {limiter : IdentityRateState} {reply : DataPathReply}
    {state : VpnDataPathState} {counters : LedgerCounter → Nat} {env : DataPathEnv}
    {admitted : List Nat} (found : before.handles[dataPath]? = some handle)
    (isLimiter : before.rateLimiters[handle.rateLimiter]? = some limiter)
    (runs : (op.program handle.inner handle.state).run budget.limits DataPathEnv.serveMetered
      before.counters (⟨limiter, before.quotaMetrics, before.dataMetrics⟩, []) =
        some ((reply, state), counters, env, admitted)) :
    ∃ operated, before.operate budget dataPath op = some operated ∧ operated.reply = reply := by
  simp only [operate, found, isLimiter, runs, Option.bind_eq_bind, Option.bind_some]
  exact ⟨_, rfl, rfl⟩

/-- What an operation changes: the state of its handle and the state of its limiter. -/
theorem operate_changes {budget : VpnGlobalReassemblyBudget} {dataPath : Nat} {op : DataPathOp}
    {operated : Operated} (ran : before.operate budget dataPath op = some operated) :
    ∃ handle state limiter later, before.handles[dataPath]? = some handle ∧
      operated.heap.handles = before.handles.set dataPath { handle with state := state } ∧
      before.rateLimiters[handle.rateLimiter]? = some limiter ∧
      operated.heap.rateLimiters = before.rateLimiters.set handle.rateLimiter later ∧
      ∃ counters env, (op.program handle.inner handle.state).run budget.limits
        DataPathEnv.serveMetered before.counters
        (⟨limiter, before.quotaMetrics, before.dataMetrics⟩, []) =
          some ((operated.reply, state), counters, env, operated.admitted) ∧
        env.limiter = later := by
  simp only [operate, Option.bind_eq_bind, Option.bind_eq_some_iff] at ran
  obtain ⟨handle, found, limiter, isLimiter,
    ⟨⟨reply, state⟩, counters, env, admitted⟩, runs, same⟩ := ran
  cases same
  exact ⟨handle, state, limiter, env.limiter, found, rfl, isLimiter, rfl, counters, env, runs, rfl⟩

end DataPathHeap

theorem HeapStep.extends {budget : VpnGlobalReassemblyBudget} {before after : DataPathHeap}
    {event : HeapEvent} (step : HeapStep budget before event after) : before.Extends after := by
  cases step with
  | operate returned =>
    obtain ⟨handle, state, limiter, later, found, handles, -⟩ :=
      DataPathHeap.operate_changes returned
    exact .of_set found handles
  | newLimiter limits now => exact .refl before
  | newHandle handle => exact .newHandle handle
  | reconfigure rateLimiter limits now => exact .refl before
  | rehash rehash =>
    cases rehash with
    | handle found => exact .of_set found rfl

theorem HeapRun.extends {budget : VpnGlobalReassemblyBudget} {before after : DataPathHeap}
    {events : List HeapEvent} (run : HeapRun budget before events after) :
    before.Extends after := by
  induction run with
  | done heap => exact .refl heap
  | next step _ ih => exact step.extends.trans ih

/-! ## Switches -/

/-- A handle is switched on or off. -/
def HeapEvent.Switches : HeapEvent → Prop
  | .operated _ op _ => op = .activate ∨ op = .deactivate
  | _ => False

namespace DataPathHeap

/-- Handles are switched, and nothing else happens. -/
def SwitchesTo (budget : VpnGlobalReassemblyBudget) (before after : DataPathHeap) : Prop :=
  ∃ events, HeapRun budget before events after ∧ ∀ event ∈ events, event.Switches

variable {before mid after : DataPathHeap} {budget : VpnGlobalReassemblyBudget}

theorem SwitchesTo.refl (heap : DataPathHeap) : heap.SwitchesTo budget heap :=
  ⟨[], .done heap, by simp⟩

theorem SwitchesTo.trans (first : before.SwitchesTo budget mid)
    (second : mid.SwitchesTo budget after) : before.SwitchesTo budget after := by
  obtain ⟨events, run, switches⟩ := first
  obtain ⟨more, runMore, switchesMore⟩ := second
  exact ⟨events ++ more, run.append runMore, List.forall_mem_append.mpr ⟨switches, switchesMore⟩⟩

theorem SwitchesTo.extends (switches : before.SwitchesTo budget after) : before.Extends after := by
  obtain ⟨_, run, -⟩ := switches
  exact run.extends

variable {dataPath : Nat}

theorem deactivate_switches (ran : before.deactivate budget dataPath = some after) :
    before.SwitchesTo budget after := by
  obtain ⟨operated, runs, rfl⟩ := Option.map_eq_some_iff.mp ran
  exact ⟨_, (HeapStep.operate runs).run, by simp [HeapEvent.Switches]⟩

theorem activate_switches (ran : before.activate budget dataPath = some after) :
    before.SwitchesTo budget after := by
  obtain ⟨operated, runs, rfl⟩ := Option.map_eq_some_iff.mp ran
  exact ⟨_, (HeapStep.operate runs).run, by simp [HeapEvent.Switches]⟩

end DataPathHeap

end FlowWeave.Vpn
