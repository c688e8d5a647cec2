/-
# Proxy.Jsonl — reading events line by line from a buffered reader

`analyze_proxy_jsonl` takes what the reader has buffered, looks for a line end in it, and
keeps the line so far and whether it has grown too long; a line that has is not kept. The
reader is given by its calls of `fill_buf`: each fails or makes a number of bytes available,
at least one as long as there are any. The loop is `analyzeFrom`, and its state remembers
what has been consumed and how long the line buffer has been.

What the loop carries is a function of the unfinished line alone (`JsonlState.Carries`), so
the result does not depend on how the input is cut: `analyze_jsonl_exact` compares it with
`ingestBytes` for one line after the other of `jsonlLines`.
-/
import FlowWeave.Proxy.Observation

namespace FlowWeave.Proxy

set_option autoImplicit false

open Theory Theory.MachineInt

/-- The byte of `\n`. -/
def lineFeed : UInt8 := 10

def ProxyObservation.countOversized (observation : ProxyObservation) : ProxyObservation :=
  { observation with
    lines := observation.lines + 1
    oversizedLines := observation.oversizedLines + 1 }

def ProxyObservation.countMalformed (observation : ProxyObservation) : ProxyObservation :=
  { observation with
    lines := observation.lines + 1
    malformedLines := observation.malformedLines + 1 }

variable (parse : String → Option Json)

def ingestBufferedLine (observation : ProxyObservation) (line : List UInt8) (oversized : Bool) :
    ProxyObservation :=
  if oversized then observation.countOversized
  else
    match fromUtf8? line with
    | some text => observation.ingestLine parse text
    | none => observation.countMalformed

/-! ## The loop -/

structure JsonlState where
  /-- The calls of `fill_buf` so far. -/
  calls : Nat
  consumed : List UInt8
  rest : List UInt8
  line : List UInt8
  oversized : Bool
  observation : ProxyObservation
  /-- The greatest length the line buffer has had. -/
  longest : Nat

namespace JsonlState

def start (input : List UInt8) : JsonlState := ⟨0, [], input, [], false, {}, 0⟩

/-- Take the content of this line in, or give the line up. -/
def extend (state : JsonlState) (content : List UInt8) : JsonlState :=
  if state.oversized then state
  else if maxProxyEventLineBytes < saturatingAdd usizeMax state.line.length content.length then
    { state with oversized := true, line := [] }
  else
    { state with
      line := state.line ++ content
      longest := max state.longest (state.line ++ content).length }

/-- `reader.consume`. -/
def consume (state : JsonlState) (amount : Nat) : JsonlState :=
  { state with
    calls := state.calls + 1
    consumed := state.consumed ++ state.rest.take amount
    rest := state.rest.drop amount }

def finishLine (state : JsonlState) : JsonlState :=
  { state with
    observation := ingestBufferedLine parse state.observation state.line state.oversized
    line := []
    oversized := false }

/-- One pass of the loop over bytes that are available. -/
def round (state : JsonlState) (available : List UInt8) : JsonlState :=
  match available.findIdx? (· == lineFeed) with
  | some newline => ((state.extend (available.take newline)).consume (newline + 1)).finishLine parse
  | none => (state.extend available).consume available.length

/-- The pass that finds the input at its end. -/
def endOfInput (state : JsonlState) : JsonlState :=
  let last := state.consume 0
  if last.oversized || !last.line.isEmpty then
    { last with
      observation := ingestBufferedLine parse last.observation last.line last.oversized }
  else last

@[simp] theorem extend_rest (state : JsonlState) (content : List UInt8) :
    (state.extend content).rest = state.rest := by
  unfold extend
  split_ifs <;> rfl

@[simp] theorem extend_consumed (state : JsonlState) (content : List UInt8) :
    (state.extend content).consumed = state.consumed := by
  unfold extend
  split_ifs <;> rfl

@[simp] theorem extend_calls (state : JsonlState) (content : List UInt8) :
    (state.extend content).calls = state.calls := by
  unfold extend
  split_ifs <;> rfl

@[simp] theorem extend_observation (state : JsonlState) (content : List UInt8) :
    (state.extend content).observation = state.observation := by
  unfold extend
  split_ifs <;> rfl

end JsonlState

/-! ## What a call makes available -/

/-- The bytes of the rest that are available when a call is good for `size` of them. -/
def availableOf (size : Nat) (rest : List UInt8) : List UInt8 := rest.take (max 1 size)

theorem availableOf_eq_nil {size : Nat} {rest : List UInt8} :
    availableOf size rest = [] ↔ rest = [] := by
  have positive : max 1 size ≠ 0 := by omega
  simp [availableOf, List.take_eq_nil_iff, positive]

/-- A line end among the available bytes cuts the rest into the end of this line and what
follows. -/
theorem availableOf_newline {size newline : Nat} {rest : List UInt8}
    (found : (availableOf size rest).findIdx? (· == lineFeed) = some newline) :
    lineFeed ∉ (availableOf size rest).take newline ∧
      (availableOf size rest).take newline ++ lineFeed :: rest.drop (newline + 1) = rest := by
  obtain ⟨within, feed, before⟩ := List.findIdx?_eq_some_iff_getElem.mp found
  have inRest : newline < rest.length := by
    rw [availableOf, List.length_take] at within
    omega
  constructor
  · intro listed
    obtain ⟨index, inTake, isFeed⟩ := List.mem_iff_getElem.mp listed
    rw [List.length_take] at inTake
    rw [List.getElem_take] at isFeed
    exact before index (by omega) (by rw [isFeed]; exact beq_self_eq_true _)
  · have here : rest[newline] = lineFeed := by
      simpa [availableOf] using feed
    have shorter : (availableOf size rest).take newline = rest.take newline := by
      rw [availableOf, List.length_take] at within
      rw [availableOf, List.take_take, Nat.min_eq_left (by omega)]
    rw [shorter, ← here, List.cons_getElem_drop_succ, List.take_append_drop]

theorem availableOf_append_drop (size : Nat) (rest : List UInt8) :
    availableOf size rest ++ rest.drop (availableOf size rest).length = rest := by
  conv_rhs => rw [← List.take_append_drop (availableOf size rest).length rest]
  rw [availableOf, List.length_take, List.take_eq_take_min]

theorem lineFeed_not_mem {bytes : List UInt8} (missing : bytes.findIdx? (· == lineFeed) = none)
    : lineFeed ∉ bytes := by
  intro listed
  have := List.findIdx?_eq_none_iff.mp missing lineFeed listed
  simp at this

theorem JsonlState.round_rest_lt (state : JsonlState) (size : Nat)
    (more : availableOf size state.rest ≠ []) :
    (state.round parse (availableOf size state.rest)).rest.length < state.rest.length := by
  have positive := List.length_pos_iff.mpr (mt availableOf_eq_nil.mpr more)
  unfold round
  split
  · simp only [finishLine, consume, extend_rest, List.length_drop]
    omega
  · have some := List.length_pos_iff.mpr more
    simp only [consume, extend_rest, List.length_drop]
    omega

/-- `analyze_proxy_jsonl` from a state at the head of its loop. `fillBuf` says for each call how
many bytes it makes available, or why it fails. -/
def analyzeFrom (fillBuf : Nat → Except String Nat) (state : JsonlState) :
    Except String JsonlState :=
  match fillBuf state.calls with
  | .error error => .error ("无法读取代理 JSONL：" ++ error)
  | .ok size =>
    if _ : availableOf size state.rest = [] then .ok (state.endOfInput parse)
    else analyzeFrom fillBuf (state.round parse (availableOf size state.rest))
termination_by state.rest.length
decreasing_by exact state.round_rest_lt parse size ‹_›

def analyzeProxyJsonl (fillBuf : Nat → Except String Nat) (input : List UInt8) :
    Except String JsonlState :=
  analyzeFrom parse fillBuf (.start input)

/-! ## Line by line -/

/-- The lines of an input: what stands between line ends, and what follows the last one
unless that is nothing. -/
def jsonlLines (input : List UInt8) : List (List UInt8) :=
  let pieces := input.splitOn lineFeed
  if pieces.getLast? = some [] then pieces.dropLast else pieces

/-- What one line adds to an observation. -/
def ingestBytes (observation : ProxyObservation) (line : List UInt8) : ProxyObservation :=
  if maxProxyEventLineBytes < line.length then observation.countOversized
  else
    match fromUtf8? line with
    | some text => observation.ingestLine parse text
    | none => observation.countMalformed

variable {part : List UInt8}

theorem jsonlLines_open (unfinished : lineFeed ∉ part) :
    jsonlLines part = if part = [] then [] else [part] := by
  rw [jsonlLines, List.splitOn_eq_singleton unfinished]
  simp

theorem jsonlLines_line (unfinished : lineFeed ∉ part) (after : List UInt8) :
    jsonlLines (part ++ lineFeed :: after) = part :: jsonlLines after := by
  have pieces := List.splitOn_ne_nil lineFeed after
  rw [jsonlLines, List.splitOn_append_cons_self_of_not_mem unfinished, jsonlLines]
  simp only [List.getLast?_cons_of_ne_nil pieces, List.dropLast_cons_of_ne_nil pieces]
  split <;> rfl

namespace JsonlState

/-- What the loop carries from one call to the next is a function of the unfinished line. -/
structure Carries (state : JsonlState) (part : List UInt8) : Prop where
  unfinished : lineFeed ∉ part
  oversized : state.oversized = decide (maxProxyEventLineBytes < part.length)
  line : state.line = if maxProxyEventLineBytes < part.length then [] else part
  longest : state.longest ≤ maxProxyEventLineBytes

variable {state : JsonlState} {part content : List UInt8}

theorem start_carries (input : List UInt8) : (start input).Carries [] :=
  ⟨by simp, rfl, rfl, Nat.zero_le _⟩

variable (carries : state.Carries part)

include carries

theorem Carries.consume (amount : Nat) : (state.consume amount).Carries part :=
  ⟨carries.unfinished, carries.oversized, carries.line, carries.longest⟩

theorem Carries.extend (inside : lineFeed ∉ content) :
    (state.extend content).Carries (part ++ content) := by
  obtain ⟨unfinished, oversized, line, longest⟩ := carries
  have both : lineFeed ∉ part ++ content := by simp [unfinished, inside]
  have most : maxProxyEventLineBytes < usizeMax := by decide
  unfold JsonlState.extend
  by_cases long : maxProxyEventLineBytes < part.length
  · -- the line was given up before
    have longer : maxProxyEventLineBytes < (part ++ content).length := by
      rw [List.length_append]
      omega
    rw [if_pos (by rw [oversized]; exact decide_eq_true long)]
    exact ⟨both, by rw [oversized, decide_eq_true long, decide_eq_true longer],
      by rw [line, if_pos long, if_pos longer], longest⟩
  · rw [if_neg long] at line
    rw [if_neg (by rw [oversized]; simpa using long), line, saturatingAdd, ← List.length_append]
    by_cases longer : maxProxyEventLineBytes < (part ++ content).length
    · rw [if_pos (by omega)]
      exact ⟨both, (decide_eq_true longer).symm, (if_pos longer).symm, longest⟩
    · rw [if_neg (by omega)]
      exact ⟨both, by rw [oversized, decide_eq_false long, decide_eq_false longer],
        (if_neg longer).symm, by simp only; omega⟩

theorem Carries.finished (observation : ProxyObservation) :
    ingestBufferedLine parse observation state.line state.oversized =
      ingestBytes parse observation part := by
  rw [ingestBufferedLine, ingestBytes, carries.oversized, carries.line]
  by_cases long : maxProxyEventLineBytes < part.length
  · rw [if_pos (decide_eq_true long), if_pos long]
  · rw [if_neg (by simpa using long), if_neg long, if_neg long]

theorem Carries.finishLine : (state.finishLine parse).Carries [] :=
  ⟨by simp, rfl, rfl, carries.longest⟩

end JsonlState

/-- The observation that reading on gives: from the unfinished line, what is left to read
and what was observed so far. -/
def JsonlState.outcome (state : JsonlState) (part : List UInt8) : ProxyObservation :=
  (jsonlLines (part ++ state.rest)).foldl (ingestBytes parse) state.observation

/-- One pass keeps the outcome; what it consumes is no longer in the rest. -/
structure JsonlState.Continues (before after : JsonlState) (part left : List UInt8) : Prop where
  carries : after.Carries left
  outcome : after.outcome parse left = before.outcome parse part
  input : after.consumed ++ after.rest = before.consumed ++ before.rest
  calls : after.calls = before.calls + 1

theorem JsonlState.round_continues {state : JsonlState} (carries : state.Carries part)
    (size : Nat) :
    ∃ left, state.Continues parse (state.round parse (availableOf size state.rest)) part left := by
  unfold round
  cases found : (availableOf size state.rest).findIdx? (· == lineFeed) with
  | some newline =>
    obtain ⟨inside, cut⟩ := availableOf_newline found
    have extended := (carries.extend inside).consume (newline + 1)
    refine ⟨[], extended.finishLine parse, ?_, ?_, ?_⟩
    · have lines : jsonlLines (part ++ state.rest) =
          (part ++ (availableOf size state.rest).take newline) ::
            jsonlLines (state.rest.drop (newline + 1)) := by
        conv_lhs => rw [← cut, ← List.append_assoc]
        exact jsonlLines_line extended.unfinished _
      rw [outcome, outcome, lines, List.foldl_cons, ← extended.finished parse]
      simp [finishLine, consume]
    · simp [finishLine, consume]
    · simp [finishLine, consume]
  | none =>
    have extended := carries.extend (lineFeed_not_mem found)
    refine ⟨_, extended.consume _, ?_, ?_, ?_⟩
    · rw [outcome, outcome, consume, extend_rest, extend_observation, List.append_assoc,
        availableOf_append_drop]
    · simp [consume]
    · simp [consume]

theorem JsonlState.endOfInput_observation {state : JsonlState} (carries : state.Carries part)
    (atEnd : state.rest = []) :
    (state.endOfInput parse).observation = state.outcome parse part := by
  have nothing : (state.oversized || !state.line.isEmpty) = decide (part ≠ []) := by
    rw [carries.oversized, carries.line]
    cases part with
    | nil => rfl
    | cons byte bytes =>
      by_cases long : maxProxyEventLineBytes < (byte :: bytes).length
      · rw [decide_eq_true long, Bool.true_or, decide_eq_true (List.cons_ne_nil byte bytes)]
      · rw [if_neg long, decide_eq_true (List.cons_ne_nil byte bytes)]
        exact Bool.or_true _
  rw [outcome, atEnd, List.append_nil, jsonlLines_open carries.unfinished]
  unfold endOfInput
  simp only [consume, nothing, decide_eq_true_eq, carries.finished parse]
  by_cases empty : part = []
  · rw [if_neg (not_not.mpr empty), if_pos empty, List.foldl_nil]
  · rw [if_pos empty, if_neg empty, List.foldl_cons, List.foldl_nil]

theorem JsonlState.endOfInput_frame (state : JsonlState) :
    (state.endOfInput parse).consumed = state.consumed ∧
      (state.endOfInput parse).rest = state.rest ∧
      (state.endOfInput parse).calls = state.calls + 1 ∧
      (state.endOfInput parse).longest = state.longest := by
  unfold endOfInput
  simp only [consume, List.take_zero, List.append_nil, List.drop_zero]
  split <;> exact ⟨rfl, rfl, rfl, rfl⟩

/-- How the loop ends that is entered in a state, with an unfinished line. -/
structure Analyzed (state : JsonlState) (part : List UInt8) (last : JsonlState) : Prop where
  observation : last.observation = state.outcome parse part
  consumed : last.consumed = state.consumed ++ state.rest
  rest : last.rest = []
  calls : last.calls ≤ state.calls + state.rest.length + 1
  longest : last.longest ≤ maxProxyEventLineBytes

theorem analyzeFrom_exact (sizes : Nat → Nat) (state : JsonlState) (part : List UInt8)
    (carries : state.Carries part) :
    ∃ last, analyzeFrom parse (fun call => .ok (sizes call)) state = .ok last ∧
      Analyzed parse state part last := by
  -- the rest gets shorter with every pass that finds bytes available
  induction remaining : state.rest.length using Nat.strong_induction_on generalizing state part with
  | _ length ih =>
    rw [analyzeFrom]
    simp only
    by_cases none : availableOf (sizes state.calls) state.rest = []
    · have atEnd := availableOf_eq_nil.mp none
      obtain ⟨consumed, rest, calls, longest⟩ := state.endOfInput_frame parse
      rw [dif_pos none]
      exact ⟨_, rfl, state.endOfInput_observation parse carries atEnd,
        by rw [consumed, atEnd, List.append_nil], by rw [rest, atEnd],
        by omega, longest.trans_le carries.longest⟩
    · rw [dif_neg none]
      have less := state.round_rest_lt parse (sizes state.calls) none
      obtain ⟨left, continues⟩ := JsonlState.round_continues parse carries (sizes state.calls)
      obtain ⟨last, ran, analyzed⟩ :=
        ih _ (by omega) _ left continues.carries rfl
      have calls := analyzed.calls
      rw [continues.calls] at calls
      exact ⟨last, ran, analyzed.observation.trans continues.outcome,
        analyzed.consumed.trans continues.input, analyzed.rest, by omega, analyzed.longest⟩

/-- **Buffering does not matter.** However the reader cuts its input, the observation is the
one of the lines taken one by one, the input is consumed once with at most one call for each
byte and one more, and the line buffer stays within the limit of a line. -/
theorem analyze_jsonl_exact (sizes : Nat → Nat) (input : List UInt8) :
    ∃ last, analyzeProxyJsonl parse (fun call => .ok (sizes call)) input = .ok last ∧
      last.observation = (jsonlLines input).foldl (ingestBytes parse) {} ∧
      last.consumed = input ∧ last.rest = [] ∧ last.calls ≤ input.length + 1 ∧
      last.longest ≤ maxProxyEventLineBytes := by
  obtain ⟨last, ran, analyzed⟩ :=
    analyzeFrom_exact parse sizes _ [] (JsonlState.start_carries input)
  exact ⟨last, ran, analyzed.observation, analyzed.consumed, analyzed.rest,
    by simpa [JsonlState.start] using analyzed.calls, analyzed.longest⟩

end FlowWeave.Proxy
