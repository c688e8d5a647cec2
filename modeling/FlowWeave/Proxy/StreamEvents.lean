/-
# Proxy.StreamEvents — stream tasks and the events they emit

Server and client run each stream in a task that emits an event when it starts and one when it
has finished. A task that is aborted emits nothing more from the moment its future is dropped,
and one that had not started never starts. `StreamState` says where a task is, and
`StreamState.marks` what its events have said up to there; `stepStream_marks` is the law for a
step of one task of a set.
-/
import FlowWeave.Proxy.EventLog

namespace FlowWeave.Proxy

open Theory.Lifecycles

set_option autoImplicit false

inductive StreamState where
  | spawned
  | running
  | finished
  /-- The future was dropped before its end; had it started? -/
  | dropped (started : Bool)
  deriving DecidableEq, Repr

inductive StreamAction where
  | start
  | finish (reason : String)
  /-- An abort takes effect. -/
  | cancel
  | panic
  deriving DecidableEq, Repr

namespace StreamState

/-- Whether a join still waits for the task. -/
def isLive : StreamState → Bool
  | spawned | running => true
  | _ => false

/-- What the events of a task have said. -/
def marks (connectionId : UInt64) : StreamState → List (Mark UInt64)
  | spawned | dropped false => []
  | running | dropped true => [.opened connectionId]
  | finished => [.opened connectionId, .closed connectionId]

/-- One step of a task; `abortable` when an abort was requested. -/
def step (abortable : Bool) : StreamState → StreamAction → Option StreamState
  | spawned, .start => if abortable then none else some running
  | running, .finish _ => some finished
  | spawned, .cancel => if abortable then some (dropped false) else none
  | running, .cancel => if abortable then some (dropped true) else none
  | running, .panic => some (dropped true)
  | _, _ => none

end StreamState

/-- The events of a step of stream `stream` of a connection. -/
def StreamAction.events (connection stream : Nat) (connectionId : UInt64) :
    StreamAction → List ProxyEvent
  | .start => [.streamStarted connection stream connectionId]
  | .finish reason => [.streamFinished connection stream connectionId reason]
  | _ => []

/-- One step of one task of a set. -/
def stepStream (abortable : Bool) (streams : List StreamState) (stream : Nat)
    (action : StreamAction) : Option (List StreamState) := do
  let state ← streams[stream]?
  let after ← state.step abortable action
  pure (streams.set stream after)

/-- All tasks of a set can be joined. -/
def allJoined (streams : List StreamState) : Bool := streams.all fun state => !state.isLive

/-- What has been said about a number; nothing about one that is not used. -/
def marksAt (connectionId : UInt64) (streams : List StreamState) (stream : Nat) :
    List (Mark UInt64) :=
  (streams[stream]?.map (StreamState.marks connectionId)).getD []

@[simp] theorem allJoined_nil : allJoined [] = true := rfl

theorem marksAt_append_spawned (connectionId : UInt64) (streams : List StreamState)
    (stream : Nat) :
    marksAt connectionId (streams ++ [.spawned]) stream = marksAt connectionId streams stream := by
  unfold marksAt
  rcases Nat.lt_trichotomy stream streams.length with before | rfl | behind
  · rw [List.getElem?_append_left before]
  · simp [StreamState.marks]
  · rw [List.getElem?_eq_none (by simp; omega), List.getElem?_eq_none (by omega)]

section Steps

variable {abortable : Bool} {streams after : List StreamState} {stream : Nat}
  {action : StreamAction}

theorem stepStream_eq_some :
    stepStream abortable streams stream action = some after ↔
      ∃ state next, streams[stream]? = some state ∧ state.step abortable action = some next ∧
        after = streams.set stream next := by
  simp only [stepStream, Option.bind_eq_bind, Option.bind_eq_some_iff, Option.pure_def,
    Option.some.injEq]
  constructor
  · rintro ⟨state, found, next, stepped, rfl⟩
    exact ⟨state, next, found, stepped, rfl⟩
  · rintro ⟨state, next, found, stepped, rfl⟩
    exact ⟨state, found, next, stepped, rfl⟩

/-- What a step of a task can do. -/
theorem StreamState.step_cases {state next : StreamState}
    (stepped : state.step abortable action = some next) :
    (state = spawned ∧ action = .start ∧ next = running ∧ abortable = false) ∨
      (∃ reason, state = running ∧ action = .finish reason ∧ next = finished) ∨
      (state = spawned ∧ action = .cancel ∧ next = dropped false ∧ abortable = true) ∨
      (state = running ∧ action = .cancel ∧ next = dropped true ∧ abortable = true) ∨
      (state = running ∧ action = .panic ∧ next = dropped true) := by
  cases state with
  | spawned => cases action <;> cases abortable <;> simp_all [step]
  | running => cases action <;> cases abortable <;> simp_all [step]
  | finished => simp [step] at stepped
  | dropped started => simp [step] at stepped

/-- The events of a step say exactly what the state of the task changes by. -/
theorem StreamState.step_marks {state next : StreamState} (connection : Nat)
    (connectionId : UInt64) (stepped : state.step abortable action = some next) :
    next.marks connectionId = state.marks connectionId ++
      marksOf streamMark (connection, stream) (action.events connection stream connectionId) := by
  rcases step_cases stepped with ⟨rfl, rfl, rfl, -⟩ | ⟨reason, rfl, rfl, rfl⟩ |
    ⟨rfl, rfl, rfl, -⟩ | ⟨rfl, rfl, rfl, -⟩ | ⟨rfl, rfl, rfl⟩
  all_goals simp [marks, marksOf, markOf, StreamAction.events, streamMark]

/-- They say nothing about another task. -/
theorem StreamAction.events_other (action : StreamAction) {connection stream : Nat}
    {other : Nat × Nat} (connectionId : UInt64) (apart : (connection, stream) ≠ other) :
    marksOf streamMark other (action.events connection stream connectionId) = [] := by
  cases action <;> simp [marksOf, markOf, StreamAction.events, streamMark, apart]

/-- Nothing happens in a set whose tasks can all be joined. -/
theorem stepStream_joined (joined : allJoined streams = true) :
    stepStream abortable streams stream action = none := by
  rw [Option.eq_none_iff_forall_ne_some]
  intro after stepped
  obtain ⟨state, next, found, moved, -⟩ := stepStream_eq_some.mp stepped
  have gone := List.all_eq_true.mp joined state (List.mem_of_getElem? found)
  rcases StreamState.step_cases moved with ⟨rfl, -⟩ | ⟨reason, rfl, -⟩ | ⟨rfl, -⟩ | ⟨rfl, -⟩ |
    ⟨rfl, -⟩
  all_goals exact absurd gone (by decide)

theorem stepStream_marks (connection : Nat) (connectionId : UInt64)
    (stepped : stepStream abortable streams stream action = some after) (other : Nat) :
    marksAt connectionId after other = marksAt connectionId streams other ++
      marksOf streamMark (connection, other) (action.events connection stream connectionId) := by
  obtain ⟨state, next, found, moved, rfl⟩ := stepStream_eq_some.mp stepped
  by_cases same : stream = other
  · subst same
    have inside := (List.getElem?_eq_some_iff.mp found).1
    rw [marksAt, marksAt, found, List.getElem?_set_self inside]
    exact StreamState.step_marks connection connectionId moved
  · rw [marksAt, List.getElem?_set_ne same, marksAt,
      action.events_other connectionId (by simp [same]), List.append_nil]

/-- What has been said about the tasks of a set when all are gone and none was dropped after it
had started. -/
theorem marksAt_ended (connectionId : UInt64) (joined : allJoined streams = true)
    (undropped : .dropped true ∉ streams) (stream : Nat) :
    marksAt connectionId streams stream = [] ∨
      marksAt connectionId streams stream = [.opened connectionId, .closed connectionId] := by
  unfold marksAt
  cases found : streams[stream]? with
  | none => exact .inl rfl
  | some state =>
    have listed := List.mem_of_getElem? found
    have gone := List.all_eq_true.mp joined state listed
    cases state with
    | finished => exact .inr rfl
    | dropped started =>
      cases started with
      | false => exact .inl rfl
      | true => exact absurd listed undropped
    | _ => cases gone

end Steps

end FlowWeave.Proxy
