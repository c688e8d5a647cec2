/-
# Vpn.RuntimeControl — the tasks of a runtime and their control (`src/vpn_datagram_runtime.rs`)

`VpnRuntimeControl` stops a runtime with a flag and one notification: the first `stop` to swap the
flag calls `notify_waiters`, and later ones do not. `cancelled` makes its `Notified` future before
it looks at the flag. A call of `notify_waiters` wakes exactly the futures made before it, polled
or not, and leaves nothing for later ones, so a future is known by the number of calls that it has
seen. The inbound loop, the outbound loop, the supervisor and any number of callers step in any
order, and each access to the control is an atomic step of its own.

A loop races every wait with `cancelled`. Its other events come at any time or never, and what they
do with packets is left out. A task may panic wherever it is.

`runtime_sound` is the invariant of all interleavings: the notification is sent once, a request is
followed by a stop, and a future that is awaited has not seen the notification.
-/
import Mathlib.Algebra.Ring.Nat
import Mathlib.Algebra.BigOperators.Pi
import Mathlib.Data.Fintype.Sum
import Mathlib.Tactic.DeriveFintype
import FlowWeave.Theory.Threads
import FlowWeave.Vpn.DatagramRuntime

namespace FlowWeave.Vpn

open Theory.Threads

set_option autoImplicit false

/-! ## The control -/

inductive RuntimeLoop where
  | inbound
  | outbound
  deriving DecidableEq, Repr

instance : Fintype RuntimeLoop :=
  ⟨{.inbound, .outbound}, fun loop => by cases loop <;> decide⟩

def RuntimeLoop.other : RuntimeLoop → RuntimeLoop
  | inbound => outbound
  | outbound => inbound

/-- What the tasks share: the two flags of `VpnRuntimeControl`, the number of calls of
`notify_waiters`, the exits that the loops have left for their joins, and the data path: whether it
is bound to this runtime and whether it is active. -/
structure RuntimeShared where
  stopping : Bool
  shutdownRequested : Bool
  notifications : Nat
  exits : RuntimeLoop → Option VpnRuntimeTaskExit
  bound : Bool
  active : Bool

namespace RuntimeShared

/-- As `start_vpn_datagram_runtime` leaves it. -/
def start : RuntimeShared := ⟨false, false, 0, fun _ => none, true, true⟩

def finish (shared : RuntimeShared) (loop : RuntimeLoop) (exit : VpnRuntimeTaskExit) :
    RuntimeShared :=
  { shared with exits := Function.update shared.exits loop (some exit) }

end RuntimeShared

/-- `stop`, before the swap of the flag or before `notify_waiters`. -/
inductive StopCall where
  | swap
  | notify
  deriving DecidableEq, Repr

/-- The next step of `stop`, and what is left of it. -/
def StopCall.step (shared : RuntimeShared) : StopCall → RuntimeShared × Option StopCall
  | swap => ({ shared with stopping := true }, if shared.stopping then none else some notify)
  | notify => ({ shared with notifications := shared.notifications + 1 }, none)

/-- `cancelled`, before `notified()`, before the load of the flag, or in `notified.await`. The
future has seen as many calls of `notify_waiters` as there were when it was made. -/
inductive CancelledWait where
  | enter
  | created (seen : Nat)
  | awaiting (seen : Nat)
  deriving DecidableEq, Repr

/-- The next step of `cancelled`: none while it is blocked, and what is left of it. -/
def CancelledWait.next? (shared : RuntimeShared) : CancelledWait → Option (Option CancelledWait)
  | enter => some (some (created shared.notifications))
  | created seen => if shared.stopping then some none else some (some (awaiting seen))
  | awaiting seen => if seen < shared.notifications then some (some enter) else none

/-! ## The tasks -/

/-- Another task or thread with the control: between calls, in `request_shutdown`, in `stop` or in
`cancelled`. -/
inductive CallerState where
  | idle
  | requestShutdown
  | stop (call : StopCall)
  | cancelled (wait : CancelledWait)
  deriving DecidableEq, Repr

/-- The places where a loop waits. `send` has the number of fragments that follow, and `drained` is
the outbound loop with its queue closed. -/
inductive LoopPoint where
  | inbound
  | receive
  | send (left : Nat)
  | drained
  deriving DecidableEq, Repr

namespace LoopPoint

def loop : LoopPoint → RuntimeLoop
  | inbound => .inbound
  | _ => .outbound

/-- The exits after an event, apart from `Stopped` and a panic. -/
def exits (active : Bool) : LoopPoint → List VpnRuntimeTaskExit
  | inbound =>
    [.connectionClosed, .connectionFailed, .inboundConsumerClosed, .resourceInvariant] ++
      if active then [] else [.dataPathStale]
  | receive =>
    [.packetIdExhausted, .resourceInvariant] ++ if active then [] else [.dataPathStale]
  | send _ => [.connectionClosed, .connectionFailed, .datagramSendFailed]
  | drained => []

/-- Where a loop waits next when an event does not make it exit. -/
inductive Next : LoopPoint → LoopPoint → Prop
  | inbound : Next inbound inbound
  | rejected : Next receive receive
  | encoded (left : Nat) : Next receive (send left)
  | closed : Next receive drained
  | sent (left : Nat) : Next (send (left + 1)) (send left)
  | complete : Next (send 0) receive

theorem Next.loop {point after : LoopPoint} (next : Next point after) :
    after.loop = point.loop := by
  cases next <;> rfl

end LoopPoint

/-- `starting` is the inbound loop before the first tick, and `working` a loop after an event. -/
inductive LoopState where
  | starting
  | waiting (point : LoopPoint) (wait : CancelledWait)
  | working (point : LoopPoint)
  | finished (loop : RuntimeLoop)
  deriving DecidableEq, Repr

def LoopState.loop : LoopState → RuntimeLoop
  | starting => .inbound
  | waiting point _ | working point => point.loop
  | finished loop => loop

/-- `supervise_runtime`, before the step that the name says. -/
inductive SupervisorState where
  | joinFirst
  | stop (first : VpnRuntimeTaskExit) (finished : RuntimeLoop) (call : StopCall)
  | joinSecond (first : VpnRuntimeTaskExit) (finished : RuntimeLoop)
  | unbindRuntime (first second : VpnRuntimeTaskExit)
  | deactivate (first second : VpnRuntimeTaskExit)
  | readFlag (first second : VpnRuntimeTaskExit)
  | reported (stopReason : VpnDatagramRuntimeStopReason)
  deriving DecidableEq, Repr

inductive RuntimeThread where
  | caller (state : CallerState)
  | loop (state : LoopState)
  | supervisor (state : SupervisorState)
  deriving DecidableEq, Repr

/-! ## The steps -/

/-- A wait can be dropped where it awaits, by a `select!` in which another branch was ready. The
data path can be deactivated by its coordinator. -/
inductive CallerStep (shared : RuntimeShared) : CallerState → RuntimeShared → CallerState → Prop
  | requestShutdown :
      CallerStep shared .idle shared .requestShutdown
  | storeRequest :
      CallerStep shared .requestShutdown { shared with shutdownRequested := true } (.stop .swap)
  | stop : CallerStep shared .idle shared (.stop .swap)
  | stopStep (call : StopCall) :
      CallerStep shared (.stop call) (call.step shared).1 ((call.step shared).2.elim .idle .stop)
  | cancelled : CallerStep shared .idle shared (.cancelled .enter)
  | waitStep (wait : CancelledWait) (left : Option CancelledWait)
      (next : wait.next? shared = some left) :
      CallerStep shared (.cancelled wait) shared (left.elim .idle .cancelled)
  | dropWait (seen : Nat) :
      CallerStep shared (.cancelled (.awaiting seen)) shared .idle
  | deactivate :
      CallerStep shared .idle { shared with active := false } .idle

/-- `run_inbound_loop` and `run_outbound_loop`. The select is biased, but a stop can come between
its two polls, so an event may win although the wait could go on. -/
inductive LoopStep (shared : RuntimeShared) : LoopState → RuntimeShared → LoopState → Prop
  | firstTick :
      LoopStep shared .starting shared (.waiting .inbound .enter)
  | waitStep (point : LoopPoint) (wait left : CancelledWait)
      (next : wait.next? shared = some (some left)) :
      LoopStep shared (.waiting point wait) shared (.waiting point left)
  | stopped (point : LoopPoint) (wait : CancelledWait)
      (next : wait.next? shared = some none) :
      LoopStep shared (.waiting point wait) (shared.finish point.loop .stopped)
        (.finished point.loop)
  | event (point : LoopPoint) (seen : Nat) (raced : point ≠ .drained) :
      LoopStep shared (.waiting point (.awaiting seen)) shared (.working point)
  | goOn (point after : LoopPoint) (next : point.Next after) :
      LoopStep shared (.working point) shared (.waiting after .enter)
  | exit (point : LoopPoint) (exit : VpnRuntimeTaskExit)
      (allowed : exit ∈ point.exits shared.active) :
      LoopStep shared (.working point) (shared.finish point.loop exit) (.finished point.loop)
  | panic (state : LoopState)
      (running : state ≠ .finished state.loop) :
      LoopStep shared state (shared.finish state.loop .workerFailed) (.finished state.loop)

inductive SupervisorStep (shared : RuntimeShared) :
    SupervisorState → RuntimeShared → SupervisorState → Prop
  | joinFirst (loop : RuntimeLoop) (first : VpnRuntimeTaskExit)
      (finished : shared.exits loop = some first) :
      SupervisorStep shared .joinFirst shared (.stop first loop .swap)
  | stopStep (first : VpnRuntimeTaskExit) (loop : RuntimeLoop)
      (call : StopCall) :
      SupervisorStep shared (.stop first loop call) (call.step shared).1
        ((call.step shared).2.elim (.joinSecond first loop) (.stop first loop))
  | joinSecond (first second : VpnRuntimeTaskExit) (loop : RuntimeLoop)
      (finished : shared.exits loop.other = some second) :
      SupervisorStep shared (.joinSecond first loop) shared (.unbindRuntime first second)
  | unbindRuntime (first second : VpnRuntimeTaskExit) :
      SupervisorStep shared (.unbindRuntime first second) { shared with bound := false }
        (.deactivate first second)
  | deactivate (first second : VpnRuntimeTaskExit) :
      SupervisorStep shared (.deactivate first second) { shared with active := false }
        (.readFlag first second)
  | report (first second : VpnRuntimeTaskExit) :
      SupervisorStep shared (.readFlag first second) shared
        (.reported (if shared.shutdownRequested then .shutdownRequested
          else (combineTaskExits first second).stopReason))

inductive RuntimeStep (shared : RuntimeShared) :
    RuntimeThread → RuntimeShared → RuntimeThread → Prop
  | caller {shared' : RuntimeShared} {state state' : CallerState}
      (step : CallerStep shared state shared' state') :
      RuntimeStep shared (.caller state) shared' (.caller state')
  | loop {shared' : RuntimeShared} {state state' : LoopState}
      (step : LoopStep shared state shared' state') :
      RuntimeStep shared (.loop state) shared' (.loop state')
  | supervisor {shared' : RuntimeShared} {state state' : SupervisorState}
      (step : SupervisorStep shared state shared' state') :
      RuntimeStep shared (.supervisor state) shared' (.supervisor state')

/-- The tasks of a runtime, and others with the control. -/
inductive RuntimeTask (κ : Type) where
  | loop (loop : RuntimeLoop)
  | supervisor
  | caller (name : κ)
  deriving DecidableEq, Fintype

def RuntimeTask.start {κ : Type} : RuntimeTask κ → RuntimeThread
  | loop .inbound => .loop .starting
  | loop .outbound => .loop (.waiting .receive .enter)
  | supervisor => .supervisor .joinFirst
  | caller _ => .caller .idle

def runtimeStart (κ : Type) : Config (RuntimeTask κ) RuntimeShared RuntimeThread :=
  ⟨.start, RuntimeTask.start⟩

namespace RuntimeThread

/-- The wait of a task that is in `cancelled`. -/
def wait? : RuntimeThread → Option CancelledWait
  | caller (.cancelled wait) | loop (.waiting _ wait) => some wait
  | _ => none

/-- The `stop` that a task is in. -/
def stopCall? : RuntimeThread → Option StopCall
  | caller (.stop call) | supervisor (.stop _ _ call) => some call
  | _ => none

end RuntimeThread

open RuntimeThread

/-! ## What only grows -/

/-- Flags are not taken back, notifications and exits stay. -/
structure RuntimeShared.Later (before after : RuntimeShared) : Prop where
  stopping : before.stopping = true → after.stopping = true
  shutdownRequested : before.shutdownRequested = true → after.shutdownRequested = true
  notifications : before.notifications ≤ after.notifications
  exits : ∀ loop, (before.exits loop).isSome = true → (after.exits loop).isSome = true
  bound : before.bound = false → after.bound = false
  active : before.active = false → after.active = false

namespace RuntimeShared

theorem Later.refl (shared : RuntimeShared) : shared.Later shared :=
  ⟨id, id, le_rfl, fun _ => id, id, id⟩

theorem Later.trans {before middle after : RuntimeShared} (first : before.Later middle)
    (second : middle.Later after) : before.Later after where
  stopping := second.stopping ∘ first.stopping
  shutdownRequested := second.shutdownRequested ∘ first.shutdownRequested
  notifications := first.notifications.trans second.notifications
  exits loop := second.exits loop ∘ first.exits loop
  bound := second.bound ∘ first.bound
  active := second.active ∘ first.active

theorem later_finish (shared : RuntimeShared) (loop : RuntimeLoop) (exit : VpnRuntimeTaskExit) :
    shared.Later (shared.finish loop exit) := by
  refine { Later.refl shared with exits := fun other has => ?_ }
  by_cases same : other = loop
  · simp [finish, same]
  · simpa [finish, same] using has

end RuntimeShared

theorem StopCall.step_later (shared : RuntimeShared) (call : StopCall) :
    shared.Later (call.step shared).1 := by
  cases call with
  | swap => exact { RuntimeShared.Later.refl shared with stopping := fun _ => rfl }
  | notify => exact { RuntimeShared.Later.refl shared with notifications := Nat.le_succ _ }

section Steps

variable {shared shared' : RuntimeShared} {thread thread' : RuntimeThread}

theorem RuntimeStep.later (step : RuntimeStep shared thread shared' thread') :
    shared.Later shared' := by
  cases step with
  | caller step =>
    cases step with
    | requestShutdown | stop | cancelled | waitStep | dropWait => exact .refl shared
    | storeRequest =>
      exact { RuntimeShared.Later.refl shared with shutdownRequested := fun _ => rfl }
    | stopStep call => exact call.step_later shared
    | deactivate => exact { RuntimeShared.Later.refl shared with active := fun _ => rfl }
  | loop step =>
    cases step with
    | firstTick | waitStep | event | goOn => exact .refl shared
    | stopped | exit | panic => exact shared.later_finish _ _
  | supervisor step =>
    cases step with
    | joinFirst | joinSecond | report => exact .refl shared
    | stopStep first loop call => exact call.step_later shared
    | unbindRuntime => exact { RuntimeShared.Later.refl shared with bound := fun _ => rfl }
    | deactivate => exact { RuntimeShared.Later.refl shared with active := fun _ => rfl }

/-! ## The notification is sent once -/

def StopCall.own : StopCall → Nat × Nat
  | swap => (0, 1)
  | notify => (1, 0)

/-- The notifications that a task is about to send, and the swaps that it is about to make. -/
def RuntimeThread.own (thread : RuntimeThread) : Nat × Nat :=
  thread.stopCall?.elim 0 StopCall.own

/-- The control and what is on its way. -/
structure StopBalanced (shared : RuntimeShared) (held : Nat × Nat) : Prop where
  once : held.1 + shared.notifications = if shared.stopping then 1 else 0
  requested : shared.shutdownRequested = true → shared.stopping = true ∨ 0 < held.2

def CancelledWait.Fits (shared : RuntimeShared) : CancelledWait → Prop
  | enter => True
  | created seen => seen ≤ shared.notifications
  | awaiting seen => seen = 0

/-- What a task knows: an awaiting future has not seen the notification, and how far the supervisor
is. -/
def RuntimeThread.Fits (shared : RuntimeShared) : RuntimeThread → Prop
  | caller (.cancelled wait) | loop (.waiting _ wait) => wait.Fits shared
  | loop (.finished ended) => (shared.exits ended).isSome = true
  | supervisor (.stop _ _ .notify) | supervisor (.joinSecond _ _)
  | supervisor (.unbindRuntime _ _) => shared.stopping = true
  | supervisor (.deactivate _ _) => shared.stopping = true ∧ shared.bound = false
  | supervisor (.readFlag _ _) | supervisor (.reported _) =>
    shared.stopping = true ∧ shared.bound = false ∧ shared.active = false
  | _ => True

theorem CancelledWait.Fits.later {wait : CancelledWait} (fits : wait.Fits shared)
    (later : shared.Later shared') : wait.Fits shared' := by
  cases wait with
  | enter => trivial
  | created seen => exact fits.trans later.notifications
  | awaiting seen => exact fits

theorem RuntimeThread.Fits.later (fits : thread.Fits shared) (later : shared.Later shared') :
    thread.Fits shared' := by
  cases thread with
  | caller state =>
    cases state with
    | cancelled wait => exact CancelledWait.Fits.later fits later
    | _ => trivial
  | loop state =>
    cases state with
    | waiting point wait => exact CancelledWait.Fits.later fits later
    | finished ended => exact later.exits ended fits
    | _ => trivial
  | supervisor state =>
    cases state with
    | joinFirst => trivial
    | stop first ended call =>
      cases call with
      | swap => trivial
      | notify => exact later.stopping fits
    | joinSecond | unbindRuntime => exact later.stopping fits
    | deactivate => exact ⟨later.stopping fits.1, later.bound fits.2⟩
    | readFlag | reported =>
      exact ⟨later.stopping fits.1, later.bound fits.2.1, later.active fits.2.2⟩

variable {rest : Nat × Nat}

theorem StopBalanced.beginStop (balanced : StopBalanced shared (0 + rest)) (requested : Bool) :
    StopBalanced { shared with shutdownRequested := requested } (StopCall.swap.own + rest) :=
  ⟨balanced.once, fun _ => .inr (Nat.add_pos_left Nat.one_pos rest.2)⟩

/-- The first swap takes on the notification, and the step after it sends it. -/
theorem StopBalanced.stopStep {call : StopCall} (balanced : StopBalanced shared (call.own + rest)) :
    StopBalanced (call.step shared).1 ((call.step shared).2.elim 0 StopCall.own + rest) := by
  cases call with
  | swap =>
    refine ⟨?_, fun _ => .inl rfl⟩
    have once : 0 + rest.1 + shared.notifications = if shared.stopping then 1 else 0 :=
      balanced.once
    cases stopping : shared.stopping <;> simp [StopCall.step, StopCall.own, stopping] at once ⊢ <;>
      omega
  | notify =>
    refine ⟨?_, fun asked => ?_⟩
    · have once : 1 + rest.1 + shared.notifications = if shared.stopping then 1 else 0 :=
        balanced.once
      change 0 + rest.1 + (shared.notifications + 1) = if shared.stopping then 1 else 0
      omega
    · simpa [StopCall.step, StopCall.own] using balanced.requested asked

/-- A future that was made before the stop is awaited before it, too. -/
theorem CancelledWait.Fits.next {held : Nat × Nat} {wait left : CancelledWait}
    (balanced : StopBalanced shared held) (fits : wait.Fits shared)
    (next : wait.next? shared = some (some left)) : left.Fits shared := by
  cases wait with
  | enter =>
    simp only [CancelledWait.next?, Option.some.injEq] at next
    subst next
    exact le_rfl
  | created seen =>
    simp only [CancelledWait.next?] at next
    split at next
    case isTrue => cases next
    case isFalse running =>
      simp only [Option.some.injEq] at next
      subst next
      have once := balanced.once
      rw [if_neg running] at once
      have seenNone : seen ≤ shared.notifications := fits
      change seen = 0
      omega
  | awaiting seen =>
    simp only [CancelledWait.next?, Option.ite_none_right_eq_some, Option.some.injEq] at next
    rw [← next.2]
    trivial

theorem RuntimeShared.finish_isSome (shared : RuntimeShared) (loop : RuntimeLoop)
    (exit : VpnRuntimeTaskExit) : ((shared.finish loop exit).exits loop).isSome = true := by
  simp [finish]

theorem StopBalanced.callerStep {state state' : CallerState}
    (balanced : StopBalanced shared ((caller state).own + rest))
    (fits : (caller state).Fits shared)
    (step : CallerStep shared state shared' state') :
    StopBalanced shared' ((caller state').own + rest) ∧
      (caller state').Fits shared' := by
  cases step with
  | requestShutdown | dropWait | cancelled => exact ⟨balanced, trivial⟩
  | storeRequest => exact ⟨balanced.beginStop true, trivial⟩
  | stop => exact ⟨balanced.beginStop shared.shutdownRequested, trivial⟩
  | stopStep call =>
    have after := balanced.stopStep
    cases left : (call.step shared).2 with
    | none =>
      rw [left] at after
      exact ⟨after, trivial⟩
    | some more =>
      rw [left] at after
      exact ⟨after, trivial⟩
  | waitStep wait left next =>
    cases left with
    | none => exact ⟨balanced, trivial⟩
    | some more => exact ⟨balanced, CancelledWait.Fits.next balanced fits next⟩
  | deactivate => exact ⟨⟨balanced.once, balanced.requested⟩, trivial⟩

theorem StopBalanced.loopStep {state state' : LoopState}
    (balanced : StopBalanced shared ((loop state).own + rest))
    (fits : (loop state).Fits shared) (step : LoopStep shared state shared' state') :
    StopBalanced shared' ((loop state').own + rest) ∧
      (loop state').Fits shared' := by
  cases step with
  | firstTick | event | goOn => exact ⟨balanced, trivial⟩
  | waitStep point wait left next =>
    exact ⟨balanced, CancelledWait.Fits.next balanced fits next⟩
  | stopped | exit | panic =>
    exact ⟨⟨balanced.once, balanced.requested⟩, shared.finish_isSome _ _⟩

theorem StopBalanced.supervisorStep {state state' : SupervisorState}
    (balanced : StopBalanced shared ((supervisor state).own + rest))
    (fits : (supervisor state).Fits shared)
    (step : SupervisorStep shared state shared' state') :
    StopBalanced shared' ((supervisor state').own + rest) ∧
      (supervisor state').Fits shared' := by
  cases step with
  | joinFirst loop first finished =>
    exact ⟨balanced.beginStop shared.shutdownRequested, trivial⟩
  | stopStep first loop call =>
    have after := balanced.stopStep
    have stopping : (call.step shared).1.stopping = true := by
      cases call with
      | swap => rfl
      | notify => exact fits
    cases left : (call.step shared).2 with
    | none =>
      rw [left] at after
      exact ⟨after, stopping⟩
    | some more =>
      rw [left] at after
      refine ⟨after, ?_⟩
      cases more with
      | swap => trivial
      | notify => exact stopping
  | joinSecond | report => exact ⟨balanced, fits⟩
  | unbindRuntime => exact ⟨⟨balanced.once, balanced.requested⟩, fits, rfl⟩
  | deactivate => exact ⟨⟨balanced.once, balanced.requested⟩, fits.1, fits.2, rfl⟩

theorem runtime_step (balanced : StopBalanced shared (thread.own + rest))
    (fits : thread.Fits shared) (step : RuntimeStep shared thread shared' thread') :
    StopBalanced shared' (thread'.own + rest) ∧ thread'.Fits shared' := by
  cases step with
  | caller step => exact balanced.callerStep fits step
  | loop step => exact balanced.loopStep fits step
  | supervisor step => exact balanced.supervisorStep fits step

end Steps

/-! ## All interleavings -/

/-- What a task is. -/
inductive RuntimeRole where
  | loop (loop : RuntimeLoop)
  | supervisor
  | caller
  deriving DecidableEq, Repr

def RuntimeThread.role : RuntimeThread → RuntimeRole
  | caller _ => .caller
  | loop state => .loop state.loop
  | supervisor _ => .supervisor

theorem RuntimeStep.role {shared shared' : RuntimeShared} {thread thread' : RuntimeThread}
    (step : RuntimeStep shared thread shared' thread') : thread'.role = thread.role := by
  cases step with
  | caller | supervisor => rfl
  | loop step =>
    cases step with
    | firstTick | waitStep | stopped | event | exit | panic => rfl
    | goOn point after next => exact congrArg RuntimeRole.loop next.loop

section Runs

variable {κ : Type} [DecidableEq κ]
variable {config after : Config (RuntimeTask κ) RuntimeShared RuntimeThread}

theorem later_of_reaches (reaches : Reaches RuntimeStep config after) :
    config.shared.Later after.shared := by
  induction reaches with
  | refl => exact .refl _
  | tail _ moves ih =>
    obtain ⟨i, step⟩ := moves
    exact ih.trans step.stepped.later

theorem supervisor_of_reaches (reaches : Reaches RuntimeStep (runtimeStart κ) config) :
    ∃ state, config.locals .supervisor = .supervisor state := by
  have role := locals_kept reaches (fun _ _ _ _ step => step.role) .supervisor
  cases thread : config.locals .supervisor with
  | supervisor state => exact ⟨state, rfl⟩
  | caller | loop =>
    rw [thread] at role
    cases role

theorem loop_of_reaches (reaches : Reaches RuntimeStep (runtimeStart κ) config)
    (loop : RuntimeLoop) :
    ∃ state, config.locals (.loop loop) = .loop state ∧ state.loop = loop := by
  have role := locals_kept reaches (fun _ _ _ _ step => step.role) (.loop loop)
  have first : ((runtimeStart κ).locals (.loop loop)).role = .loop loop := by cases loop <;> rfl
  rw [first] at role
  cases thread : config.locals (.loop loop) with
  | loop state =>
    rw [thread] at role
    exact ⟨state, rfl, RuntimeRole.loop.inj role⟩
  | caller | supervisor =>
    rw [thread] at role
    cases role

variable [Fintype κ]

/-- **The notification is sent once, and no wait misses it.** -/
theorem runtime_sound (reaches : Reaches RuntimeStep (runtimeStart κ) config) :
    Sound own StopBalanced Fits config := by
  refine Sound.reaches ⟨?_, ?_⟩
    (fun _ _ _ _ _ balanced fits step => runtime_step balanced fits step)
    (fun _ _ _ _ _ _ _ _ fits step => fits.later step.later) reaches
  · have none (task : RuntimeTask κ) : ((runtimeStart κ).locals task).own = 0 := by
      rcases task with (_ | _) | _ | _ <;> rfl
    rw [Finset.sum_eq_zero fun task _ => none task]
    exact ⟨rfl, nofun⟩
  · intro task
    rcases task with (_ | _) | _ | _ <;> trivial

end Runs

end FlowWeave.Vpn
