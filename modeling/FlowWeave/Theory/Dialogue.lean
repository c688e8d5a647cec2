/-
# Theory.Dialogue — programs that ask a partner

A `Dialogue` is a program that asks questions and goes on with the answers. Whoever answers
(`Partner`) has a state: an answer may change it, and it may drift by itself at any moment.
`Talks` is a program in progress, with the questions asked so far, the answers, and the states in
which they were asked.

`Ensures always post program state` says what can be relied on: at every moment `always` holds of
the history and the state, and at the end `post` holds too. It goes through a program step by
step (`Ensures.ask`, `Ensures.done`, with an assertion that no drift destroys) and composes
(`Ensures.seq`). `Ensures.sound` is what it means for the runs of the program. `Provided` is the
same for runs in which every exchange is of an allowed kind, and says nothing of histories.
`Asks` is what can be read off a program without looking at its answers (`Ensures.of_asks`).
-/
import Mathlib.Logic.Relation

namespace FlowWeave.Theory

set_option autoImplicit false

open Relation

/-- What a program asks, until it has a result. -/
inductive Dialogue (Op : Type) (Answer : Op → Type) (α : Type) : Type where
  | done (result : α)
  | ask (op : Op) (next : Answer op → Dialogue Op Answer α)

namespace Dialogue

variable {Op : Type} {Answer : Op → Type} {α β S : Type}

def bind (f : α → Dialogue Op Answer β) : Dialogue Op Answer α → Dialogue Op Answer β
  | .done result => f result
  | .ask op next => .ask op fun answer => (next answer).bind f

instance : Monad (Dialogue Op Answer) where
  pure := .done
  bind program f := program.bind f

/-- One question, and its answer. -/
def request (op : Op) : Dialogue Op Answer (Answer op) := .ask op .done

/-- How the partner answers, and how its state changes by itself. -/
structure Partner (Op : Type) (Answer : Op → Type) (S : Type) where
  Does : S → (op : Op) → Answer op → S → Prop
  Drifts : S → S → Prop

/-- A question that was asked in `before`, and its answer. -/
structure Exchange (Op : Type) (Answer : Op → Type) (S : Type) where
  before : S
  op : Op
  answer : Answer op

variable (partner : Partner Op Answer S)

/-- From a program and a state to what is left of the program and the state then. -/
inductive Talks : Dialogue Op Answer α → S → List (Exchange Op Answer S) →
    Dialogue Op Answer α → S → Prop
  | refl (program : Dialogue Op Answer α) (state : S) : Talks program state [] program state
  | drift {program rest : Dialogue Op Answer α} {state other last : S}
      {history : List (Exchange Op Answer S)} :
      partner.Drifts state other → Talks program other history rest last →
      Talks program state history rest last
  | exchange {op : Op} {next : Answer op → Dialogue Op Answer α} {rest : Dialogue Op Answer α}
      {answer : Answer op} {state other last : S} {history : List (Exchange Op Answer S)} :
      partner.Does state op answer other → Talks (next answer) other history rest last →
      Talks (.ask op next) state (⟨state, op, answer⟩ :: history) rest last

/-- A program all of whose questions are of an allowed kind. -/
def Asks (allowed : Op → Prop) : Dialogue Op Answer α → Prop
  | .done _ => True
  | .ask op next => allowed op ∧ ∀ answer, (next answer).Asks allowed

/-- A run with one partner is a run with another that can do as much. -/
theorem Talks.widen {partner wider : Partner Op Answer S}
    (does : ∀ state op answer after, partner.Does state op answer after →
      wider.Does state op answer after)
    (drifts : ∀ state after, partner.Drifts state after → wider.Drifts state after)
    {program rest : Dialogue Op Answer α} {state last : S} {history : List (Exchange Op Answer S)}
    (talks : Talks partner program state history rest last) :
    Talks wider program state history rest last := by
  induction talks with
  | refl program state => exact .refl program state
  | drift moved _ ih => exact .drift (drifts _ _ moved) ih
  | exchange answered _ ih => exact .exchange (does _ _ _ _ answered) ih

/-- Whatever the answers are and however the state drifts, `always` holds at every moment and
`post` at the end. -/
def Ensures : (always : List (Exchange Op Answer S) → S → Prop) →
    (post : α → List (Exchange Op Answer S) → S → Prop) → Dialogue Op Answer α → S → Prop
  | always, post, .done result, state =>
    ∀ other, ReflTransGen partner.Drifts state other → always [] other ∧ post result [] other
  | always, post, .ask op next, state =>
    ∀ other, ReflTransGen partner.Drifts state other → always [] other ∧
      ∀ answer after, partner.Does other op answer after →
        Ensures (fun history => always (⟨other, op, answer⟩ :: history))
          (fun result history => post result (⟨other, op, answer⟩ :: history)) (next answer) after

variable {partner} {always always' : List (Exchange Op Answer S) → S → Prop}
variable {post post' : α → List (Exchange Op Answer S) → S → Prop}
variable {program : Dialogue Op Answer α} {state other : S}

namespace Ensures

/-! ## Steps -/

/-- An assertion that no drift destroys. -/
def Stable (partner : Partner Op Answer S) (holds : S → Prop) : Prop :=
  ∀ state other, holds state → partner.Drifts state other → holds other

variable {holds : S → Prop}

theorem Stable.drifted (stable : Stable partner holds) (here : holds state)
    (drifts : ReflTransGen partner.Drifts state other) : holds other := by
  induction drifts with
  | refl => exact here
  | tail _ drift ih => exact stable _ _ ih drift

theorem done (stable : Stable partner holds) {result : α} (here : holds state)
    (ends : ∀ last, holds last → always [] last ∧ post result [] last) :
    Ensures partner always post (.done result) state :=
  fun last drifts => ends last (stable.drifted here drifts)

theorem ask (stable : Stable partner holds) {op : Op} {next : Answer op → Dialogue Op Answer α}
    (here : holds state) (now : ∀ asked, holds asked → always [] asked)
    (answered : ∀ asked answer after, holds asked → partner.Does asked op answer after →
      Ensures partner (fun history => always (⟨asked, op, answer⟩ :: history))
      (fun result history => post result (⟨asked, op, answer⟩ :: history)) (next answer) after) :
    Ensures partner always post (.ask op next) state :=
  fun asked drifts =>
    have still := stable.drifted here drifts
    ⟨now asked still, fun answer after does => answered asked answer after still does⟩

/-! ## Composition -/

theorem mono (ensures : Ensures partner always post program state)
    (moments : ∀ history last, always history last → always' history last)
    (ends : ∀ result history last, post result history last → post' result history last) :
    Ensures partner always' post' program state := by
  induction program generalizing state always always' post post' with
  | done result =>
    intro last drifts
    obtain ⟨moment, ending⟩ := ensures last drifts
    exact ⟨moments _ _ moment, ends _ _ _ ending⟩
  | ask op next ih =>
    intro asked drifts
    obtain ⟨moment, answered⟩ := ensures asked drifts
    refine ⟨moments _ _ moment, fun answer after does => ?_⟩
    exact ih answer (answered answer after does) (fun _ => moments _) fun _ _ => ends _ _

/-- The first part, then the rest from what the first part ensures. -/
theorem seq {f : α → Dialogue Op Answer β} {mid : α → List (Exchange Op Answer S) → S → Prop}
    {post : β → List (Exchange Op Answer S) → S → Prop}
    (first : Ensures partner always mid program state)
    (rest : ∀ result history last, mid result history last →
      Ensures partner (fun later => always (history ++ later))
        (fun result later => post result (history ++ later)) (f result) last) :
    Ensures partner always post (program >>= f) state := by
  induction program generalizing state always mid post with
  | done result => exact rest result [] state (first state .refl).2
  | ask op next ih =>
    intro asked drifts
    obtain ⟨moment, answered⟩ := first asked drifts
    refine ⟨moment, fun answer after does => ?_⟩
    exact ih answer (answered answer after does) fun result history last => rest result _ last

/-- What holds of every history and every state is ensured. -/
theorem of_forall (moments : ∀ history last, always history last)
    (ends : ∀ result history last, post result history last) :
    Ensures partner always post program state := by
  induction program generalizing state always post with
  | done result => exact fun last _ => ⟨moments _ _, ends _ _ _⟩
  | ask op next ih =>
    exact fun asked _ => ⟨moments _ _, fun answer after _ =>
      ih answer (fun _ => moments _) fun _ _ => ends _ _⟩

/-- Questions of a kind whose answers all keep an assertion. -/
theorem of_asks {kind : Op → Prop} (stable : Stable partner holds)
    (keeps : ∀ op, kind op → ∀ asked answer after, holds asked →
      partner.Does asked op answer after → holds after) (asks : program.Asks kind)
    (here : holds state) :
    Ensures partner (fun history last => holds last ∧ ∀ exchange ∈ history, kind exchange.op)
      (fun _ history last => holds last ∧ ∀ exchange ∈ history, kind exchange.op)
      program state := by
  induction program generalizing state with
  | done result => exact done stable here fun last still => ⟨⟨still, by simp⟩, still, by simp⟩
  | ask op next ih =>
    refine ask stable here (fun _ still => ⟨still, by simp⟩) fun asked answer after still does => ?_
    exact mono (ih answer (asks.2 answer) (keeps op asks.1 _ _ _ still does))
      (fun _ _ all => ⟨all.1, List.forall_mem_cons.mpr ⟨asks.1, all.2⟩⟩)
      fun _ _ _ all => ⟨all.1, List.forall_mem_cons.mpr ⟨asks.1, all.2⟩⟩

/-! ## Runs -/

theorem drift (ensures : Ensures partner always post program state)
    (drifts : partner.Drifts state other) : Ensures partner always post program other := by
  cases program with
  | done result => exact fun last more => ensures last (.head drifts more)
  | ask op next => exact fun asked more => ensures asked (.head drifts more)

/-- At every moment of every run. -/
theorem sound (ensures : Ensures partner always post program state)
    {history : List (Exchange Op Answer S)} {rest : Dialogue Op Answer α} {last : S}
    (talks : Talks partner program state history rest last) :
    always history last ∧ ∀ result, rest = .done result → post result history last := by
  induction talks generalizing always post with
  | refl program state =>
    cases program with
    | done result =>
      obtain ⟨moment, ending⟩ := ensures state .refl
      exact ⟨moment, fun _ same => by cases same; exact ending⟩
    | ask op next => exact ⟨(ensures state .refl).1, fun _ same => by cases same⟩
  | drift drifts _ ih => exact ih (ensures.drift drifts)
  | exchange does _ ih => exact ih ((ensures _ .refl).2 _ _ does)

end Ensures

/-! ## Allowed exchanges -/

/-- What is ensured in runs whose exchanges are all allowed. -/
def Provided (partner : Partner Op Answer S) (allowed : Exchange Op Answer S → Prop)
    (always : S → Prop) (post : α → S → Prop) (program : Dialogue Op Answer α) (state : S) : Prop :=
  Ensures partner (fun history last => (∀ exchange ∈ history, allowed exchange) → always last)
    (fun result history last => (∀ exchange ∈ history, allowed exchange) → post result last)
    program state

namespace Provided

variable {allowed : Exchange Op Answer S → Prop} {always : S → Prop} {post post' : α → S → Prop}

variable {holds : S → Prop}

theorem done (stable : Ensures.Stable partner holds) {result : α} (here : holds state)
    (ends : ∀ last, holds last → always last ∧ post result last) :
    Provided partner allowed always post (.done result) state :=
  Ensures.done stable here fun last still =>
    ⟨fun _ => (ends last still).1, fun _ => (ends last still).2⟩

theorem ask (stable : Ensures.Stable partner holds) {op : Op}
    {next : Answer op → Dialogue Op Answer α} (here : holds state)
    (now : ∀ asked, holds asked → always asked)
    (answered : ∀ asked answer after, holds asked → partner.Does asked op answer after →
      allowed ⟨asked, op, answer⟩ → Provided partner allowed always post (next answer) after) :
    Provided partner allowed always post (.ask op next) state := by
  refine Ensures.ask stable here (fun asked still _ => now asked still) ?_
  intro asked answer after still does
  by_cases fine : allowed ⟨asked, op, answer⟩
  · refine Ensures.mono (answered asked answer after still does fine) ?_ ?_
    · exact fun history last moment all => moment fun exchange old => all exchange (.tail _ old)
    · exact fun result history last ending all =>
        ending fun exchange old => all exchange (.tail _ old)
  · -- A run that goes on from here is not among those that count.
    refine Ensures.of_forall (fun history last all => ?_) fun result history last all => ?_
    · exact absurd (all _ (.head _)) fine
    · exact absurd (all _ (.head _)) fine

theorem seq {f : α → Dialogue Op Answer β} {mid : α → S → Prop} {post : β → S → Prop}
    (first : Provided partner allowed always mid program state)
    (rest : ∀ result last, mid result last → Provided partner allowed always post (f result) last) :
    Provided partner allowed always post (program >>= f) state := by
  refine Ensures.seq first fun result history last reached => ?_
  by_cases fine : ∀ exchange ∈ history, allowed exchange
  · refine Ensures.mono (rest result last (reached fine)) ?_ ?_
    · exact fun later last moment all =>
        moment fun exchange isLater => all exchange (List.mem_append_right _ isLater)
    · exact fun result later last ending all =>
        ending fun exchange isLater => all exchange (List.mem_append_right _ isLater)
  · refine Ensures.of_forall (fun later last all => ?_) fun result later last all => ?_
    · exact absurd (fun exchange old => all exchange (List.mem_append_left _ old)) fine
    · exact absurd (fun exchange old => all exchange (List.mem_append_left _ old)) fine

theorem mono (provided : Provided partner allowed always post program state)
    (ends : ∀ result last, post result last → post' result last) :
    Provided partner allowed always post' program state :=
  Ensures.mono provided (fun _ _ moment => moment) fun result _ last ending all =>
    ends result last (ending all)

theorem of_asks {kind : Op → Prop} (stable : Ensures.Stable partner holds)
    (keeps : ∀ op, kind op → ∀ asked answer after, holds asked →
      partner.Does asked op answer after → holds after) (now : ∀ last, holds last → always last)
    (asks : program.Asks kind) (here : holds state) :
    Provided partner allowed always (fun _ => holds) program state :=
  Ensures.mono (Ensures.of_asks stable keeps asks here) (fun _ last all _ => now last all.1)
    fun _ _ _ all _ => all.1

theorem sound (provided : Provided partner allowed always post program state)
    {history : List (Exchange Op Answer S)} {rest : Dialogue Op Answer α} {last : S}
    (talks : Talks partner program state history rest last)
    (all : ∀ exchange ∈ history, allowed exchange) :
    always last ∧ ∀ result, rest = .done result → post result last := by
  obtain ⟨moment, ending⟩ := Ensures.sound provided talks
  exact ⟨moment all, fun result same => ending result same all⟩

end Provided

end Dialogue

end FlowWeave.Theory
