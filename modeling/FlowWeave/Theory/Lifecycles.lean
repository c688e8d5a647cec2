/-
# Theory.Lifecycles — logs in which things are opened and closed

Some events of a log open a thing and some close one; both carry a label. `marksOf thing log`
is what a log says about one thing, in its order. A log is `Paired` when this is nothing or an
opening and then a closing with the same label: each opening has then exactly one closing after
it (`Paired.closed_later`), and what is opened and what is closed are the same things with the
same labels (`Paired.perm`), so any count over them agrees.
-/
import Mathlib.Data.List.Perm.Subperm

namespace FlowWeave.Theory.Lifecycles

set_option autoImplicit false

variable {E K L : Type}

inductive Mark (L : Type) where
  | opened (label : L)
  | closed (label : L)
  deriving DecidableEq, Repr

section Marks

variable [DecidableEq K] (mark : E → Option (K × Mark L))

/-- What an event says about one thing. -/
def markOf (thing : K) (event : E) : Option (Mark L) :=
  (mark event).bind fun about => if about.1 = thing then some about.2 else none

def marksOf (thing : K) (log : List E) : List (Mark L) := log.filterMap (markOf mark thing)

@[simp] theorem marksOf_append (thing : K) (first second : List E) :
    marksOf mark thing (first ++ second) = marksOf mark thing first ++ marksOf mark thing second :=
  List.filterMap_append

theorem marksOf_unmarked {thing : K} {log : List E} (unmarked : ∀ event ∈ log, mark event = none) :
    marksOf mark thing log = [] := by
  rw [marksOf, List.filterMap_eq_nil_iff]
  intro event listed
  rw [markOf, unmarked event listed, Option.bind_none]

/-- Each thing is never opened, or it is opened once and then closed once with the same
label. -/
def Paired (log : List E) : Prop :=
  ∀ thing, marksOf mark thing log = [] ∨
    ∃ label, marksOf mark thing log = [.opened label, .closed label]

end Marks

section Lists

variable (mark : E → Option (K × Mark L))

/-- The things that an event opens, with their labels. -/
def openedBy (event : E) : Option (K × L) :=
  match mark event with
  | some (thing, .opened label) => some (thing, label)
  | _ => none

def closedBy (event : E) : Option (K × L) :=
  match mark event with
  | some (thing, .closed label) => some (thing, label)
  | _ => none

def openedIn (log : List E) : List (K × L) := log.filterMap (openedBy mark)

def closedIn (log : List E) : List (K × L) := log.filterMap (closedBy mark)

end Lists

variable [DecidableEq K] {mark : E → Option (K × Mark L)} {log : List E}

/-- An opening is followed by one closing, and nothing else is said about the thing. -/
theorem Paired.closed_later (paired : Paired mark log) {before after : List E} {event : E}
    {thing : K} {label : L} (split : log = before ++ event :: after)
    (opens : mark event = some (thing, .opened label)) :
    marksOf mark thing before = [] ∧ marksOf mark thing after = [.closed label] := by
  have here : marksOf mark thing (event :: after) = .opened label :: marksOf mark thing after := by
    simp [marksOf, markOf, opens]
  have whole := paired thing
  rw [split, marksOf_append, here] at whole
  rcases whole with nothing | ⟨other, both⟩
  · simp at nothing
  · cases earlier : marksOf mark thing before with
    | nil =>
      rw [earlier] at both
      simp only [List.nil_append, List.cons.injEq, Mark.opened.injEq] at both
      exact ⟨rfl, by rw [both.2, both.1]⟩
    | cons first rest =>
      rw [earlier] at both
      simp only [List.cons_append, List.cons.injEq] at both
      cases rest with
      | nil => simp at both
      | cons second rest => simp at both

section Counts

variable [DecidableEq L]

theorem count_openedIn (thing : K) (label : L) (log : List E) :
    (openedIn mark log).count (thing, label) =
      (marksOf mark thing log).count (.opened label) := by
  rw [openedIn, marksOf, List.count_filterMap, List.count_filterMap]
  refine List.countP_congr fun event _ => ?_
  unfold openedBy markOf
  rcases mark event with _ | ⟨other, kind | kind⟩
  · simp
  · by_cases same : other = thing <;> simp [same]
  · by_cases same : other = thing <;> simp [same]

theorem count_closedIn (thing : K) (label : L) (log : List E) :
    (closedIn mark log).count (thing, label) =
      (marksOf mark thing log).count (.closed label) := by
  rw [closedIn, marksOf, List.count_filterMap, List.count_filterMap]
  refine List.countP_congr fun event _ => ?_
  unfold closedBy markOf
  rcases mark event with _ | ⟨other, kind | kind⟩
  · simp
  · by_cases same : other = thing <;> simp [same]
  · by_cases same : other = thing <;> simp [same]

theorem Paired.perm (paired : Paired mark log) : (openedIn mark log).Perm (closedIn mark log) := by
  rw [List.perm_iff_count]
  rintro ⟨thing, label⟩
  rw [count_openedIn, count_closedIn]
  rcases paired thing with nothing | ⟨other, both⟩
  · rw [nothing]
    rfl
  · rw [both]
    simp [List.count_cons]

end Counts

end FlowWeave.Theory.Lifecycles
