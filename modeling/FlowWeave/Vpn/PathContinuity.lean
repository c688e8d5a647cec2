/-
# Vpn.PathContinuity — a rebind and the paths that work (`src/vpn_product_endpoint.rs`)

While paths do not close by themselves, a slot whose path is open should have an open path after
a rebind, whether that succeeds or not. What stands against it is the wait for the end of the old
path: it comes after the close, and when it fails the new path is discarded too. A rebind keeps the
working paths exactly if no wait in it fails (`rebind_keeps_working_iff`); `failed_wait_takes_path`
is a client that is left without its only path.
-/
import FlowWeave.Vpn.PathAccounting

namespace FlowWeave.Vpn

open Theory Theory.Dialogue Transport

set_option autoImplicit false

/-- The transport in which no path closes by itself. -/
def Transport.steady : PathPartner := ⟨Does, fun _ _ => False⟩

/-- The end of a path is waited for, and does not come in time. -/
def WaitFailed : PathExchange → Prop
  | ⟨_, .pathEvents awaited, events⟩ => waitForPathAbandoned awaited events ≠ .ok ()
  | _ => False

attribute [simp] WaitFailed

/-- Every slot whose path was open has an open path, opened with the address of the slot. -/
def KeepsWorking (slots : List VpnClientConfiguredPath) (transport : Transport)
    (slotsAfter : List VpnClientConfiguredPath) (after : Transport) : Prop :=
  List.Forall₂ (fun before now => before.pathId ∈ transport.openPaths →
    now.pathId ∈ after.openPaths ∧ after.opened.lookup now.pathId = some before.localIp)
    slots slotsAfter

/-! ## What becomes of the paths of before -/

/-- Of the paths that have been opened, only `touched` ones may close, and none opens again. -/
structure PathsEvolve (touched : List PathId) (before after : Transport) : Prop where
  opened : ∀ path source, before.opened.lookup path = some source →
    after.opened.lookup path = some source
  keeps : ∀ path ∈ before.openPaths, path ∉ touched → path ∈ after.openPaths
  closed : ∀ path ∈ before.opened, path ∉ before.openPaths → path ∉ after.openPaths

namespace PathsEvolve

variable {touched others : List PathId} {before middle after : Transport} {path : PathId}
variable {localIp : IpAddr}

theorem refl (touched : List PathId) (transport : Transport) :
    PathsEvolve touched transport transport :=
  ⟨fun _ _ known => known, fun _ isOpen _ => isOpen, fun _ _ notOpen => notOpen⟩

theorem widen (evolves : PathsEvolve touched before after) (more : touched ⊆ others) :
    PathsEvolve others before after :=
  { evolves with
    keeps := fun path isOpen untouched =>
      evolves.keeps path isOpen fun here => untouched (more here) }

theorem known (evolves : PathsEvolve touched before after) (known : path ∈ before.opened) :
    path ∈ after.opened := by
  obtain ⟨source, found⟩ := Option.isSome_iff_exists.mp (AList.lookup_isSome.mpr known)
  exact Table.mem_of_lookup (evolves.opened path source found)

theorem trans (first : PathsEvolve touched before middle)
    (second : PathsEvolve others middle after) : PathsEvolve (touched ++ others) before after where
  opened := fun path source known => second.opened path source (first.opened path source known)
  keeps := by
    intro path isOpen untouched
    rw [List.mem_append, not_or] at untouched
    exact second.keeps path (first.keeps path isOpen untouched.1) untouched.2
  closed := fun path known notOpen =>
    second.closed path (first.known known) (first.closed path known notOpen)

/-- A path that is opened, or closed, under an id that was not known. -/
theorem openPath (evolves : PathsEvolve touched before after) (fresh : path ∉ after.opened) :
    PathsEvolve touched before (after.openPath path localIp) where
  opened := fun other source known =>
    lookup_openPath fresh (evolves.opened other source known)
  keeps := fun other isOpen untouched =>
    Finset.mem_insert_of_mem (evolves.keeps other isOpen untouched)
  closed := by
    intro other known notOpen isOpen
    rcases Finset.mem_insert.mp isOpen with rfl | old
    · exact fresh (evolves.known known)
    · exact evolves.closed other known notOpen old

theorem shut (evolves : PathsEvolve touched before after)
    (apart : path ∈ touched ∨ path ∉ before.opened) :
    PathsEvolve touched before (after.shut path) where
  opened := evolves.opened
  keeps := by
    intro other isOpen untouched
    refine Finset.mem_erase.mpr ⟨?_, evolves.keeps other isOpen untouched⟩
    rintro rfl
    rcases apart with touches | unknown
    · exact untouched touches
    · exact unknown (before.openPaths_opened other isOpen)
  closed := fun other known notOpen isOpen =>
    evolves.closed other known notOpen (Finset.mem_of_mem_erase isOpen)

end PathsEvolve

/-! ## Steps -/

/-- What holds at the end of a dialogue with the steady transport. -/
abbrev PathResults {α : Type} (post : α → PathHistory → Transport → Prop) (program : PathDialogue α)
    (transport : Transport) : Prop :=
  Ensures steady (fun _ _ => True) post program transport

section Steps

variable {α : Type} {post : α → PathHistory → Transport → Prop} {transport : Transport}

theorem steady_stable (holds : Transport → Prop) : Ensures.Stable steady holds :=
  fun _ _ _ drifts => drifts.elim

theorem PathResults.done {result : α} (ends : post result [] transport) :
    PathResults post (pure result) transport :=
  Ensures.done (steady_stable (· = transport)) rfl (by rintro _ rfl; exact ⟨trivial, ends⟩)

theorem PathResults.ask {op : TransportOp} {next : op.Answer → PathDialogue α}
    (answered : ∀ answer after, transport.Does op answer after →
      PathResults (fun result history => post result (⟨transport, op, answer⟩ :: history))
        (next answer) after) : PathResults post (.ask op next) transport :=
  Ensures.ask (steady_stable (· = transport)) rfl (fun _ _ => trivial)
    (by rintro _ answer after rfl does; exact answered answer after does)

/-- No wait in the history failed. -/
def AllWaitsEnded (history : PathHistory) : Prop := ∀ exchange ∈ history, ¬ WaitFailed exchange

@[simp] theorem allWaitsEnded_nil : AllWaitsEnded [] := by simp [AllWaitsEnded]

@[simp] theorem allWaitsEnded_cons (exchange : PathExchange)
    (history : PathHistory) :
    AllWaitsEnded (exchange :: history) ↔ ¬ WaitFailed exchange ∧ AllWaitsEnded history :=
  List.forall_mem_cons

@[simp] theorem allWaitsEnded_append (first second : PathHistory) :
    AllWaitsEnded (first ++ second) ↔ AllWaitsEnded first ∧ AllWaitsEnded second :=
  List.forall_mem_append

/-- Pings ask and change nothing. -/
theorem PathResults.pinging {program : PathDialogue α} (asks : program.Asks TransportOp.Pings) :
    PathResults (fun _ history after => AllWaitsEnded history ∧ after = transport) program
      transport := by
  have asked := Ensures.of_asks (steady_stable (· = transport))
    (fun _ pings _ _ _ still does => (TransportOp.Pings.same pings does).trans still) asks rfl
  refine Ensures.mono asked (fun _ _ _ => trivial) ?_
  rintro _ history after ⟨same, all⟩
  refine ⟨fun ⟨_, op, _⟩ isMem failed => ?_, same⟩
  cases op with
  | pathEvents => exact all _ isMem
  | _ => exact failed

/-- What opening a path leaves. A path whose open has timed out may be there. -/
def OpenResult (transport : Transport) (localIp : IpAddr)
    (result : Except VpnProductEndpointError PathId) (history : PathHistory) (after : Transport) :
    Prop :=
  AllWaitsEnded history ∧ match result with
    | .ok path => path ∉ transport.opened ∧ after = transport.openPath path localIp
    | .error _ => PathsEvolve [] transport after

theorem openConfiguredPath_results (server : IpAddr × UInt16) (localIp : IpAddr) (retries : Nat) :
    PathResults (OpenResult transport localIp) (openConfiguredPath server localIp retries)
      transport := by
  have attempt {noRoom : VpnProductPathOpenError → PathDialogue _}
      (goesOn : ∀ error, PathResults (OpenResult transport localIp) (noRoom error) transport) :
      PathResults (OpenResult transport localIp) (tryOpenPath server localIp noRoom)
        transport := by
    refine PathResults.ask fun answer after does => ?_
    match answer, does with
    | .ok path, opens => exact PathResults.done ⟨by simp, opens⟩
    | .error (.timedOut path), ⟨fresh, opens⟩ =>
      exact PathResults.done ⟨by simp, opens ▸ (PathsEvolve.refl _ _).openPath fresh⟩
    | .error (.failed error), same =>
      obtain rfl : after = transport := same
      simp only
      split_ifs
      · refine (goesOn error).mono (fun _ _ moment => moment) fun result history last reached => ?_
        exact ⟨by simpa using reached.1, reached.2⟩
      · exact PathResults.done ⟨by simp, .refl _ _⟩
  induction retries with
  | zero => exact attempt fun _ => PathResults.done ⟨by simp, .refl _ _⟩
  | succ retries ih => exact attempt fun _ => ih

/-- Closing the old path. Only a wait that fails takes the path away and is an error. -/
theorem closeOldPath_results (old : PathId) :
    PathResults
      (fun result history after => match result with
        | .ok () => AllWaitsEnded history ∧ (after = transport ∨ after = transport.shut old)
        | .error _ => AllWaitsEnded history ∧ after = transport ∨
            ¬ AllWaitsEnded history ∧ old ∈ transport.openPaths ∧ after = transport.shut old)
      (closeOldPath old) transport := by
  refine PathResults.ask fun found after does => ?_
  obtain ⟨-, rfl⟩ := does
  cases found with
  | false => exact PathResults.done ⟨by simp, .inl rfl⟩
  | true =>
    refine PathResults.ask fun answer closed does => ?_
    have closes : after.close old = (answer, closed) := does
    unfold close at closes
    split_ifs at closes with isOpen last
    · obtain ⟨rfl, rfl⟩ := Prod.mk.inj closes
      exact PathResults.done (.inl ⟨by simp, rfl⟩)
    · obtain ⟨rfl, rfl⟩ := Prod.mk.inj closes
      refine PathResults.ask fun events now same => ?_
      obtain rfl : now = after.shut old := same
      refine PathResults.done ?_
      cases waited : waitForPathAbandoned old events with
      | ok => exact ⟨by simp [waited], .inr rfl⟩
      | error error => exact .inr ⟨by simp [waited], isOpen, rfl⟩
    · obtain ⟨rfl, rfl⟩ := Prod.mk.inj closes
      exact PathResults.done ⟨by simp, .inl rfl⟩

/-- A discard touches no path but the new one. -/
theorem giveUpPath_results (new : PathId) (error : VpnClientProductPathRebindError) :
    PathResults
      (fun result history after => result = .error error ∧ AllWaitsEnded history ∧
        (after = transport ∨ after = transport.shut new))
      (giveUpPath new error) transport := by
  refine PathResults.ask fun _ after does => ?_
  obtain rfl : after = (transport.close new).2 := does
  exact PathResults.done ⟨rfl, by simp, transport.close_after new⟩

end Steps

/-! ## A round -/

/-- Where a round that has failed stands: the old path is as it was, unless a wait failed, and then
it was open and is gone. -/
def OldPathSpared (old : PathId) (transport : Transport) (history : PathHistory)
    (after : Transport) : Prop :=
  AllWaitsEnded history ∧ (old ∈ transport.openPaths → old ∈ after.openPaths) ∨
    ¬ AllWaitsEnded history ∧ old ∈ transport.openPaths ∧ old ∉ after.openPaths

/-- What a round for a slot does: it has a new path for the slot, or it has failed. -/
def RoundResult (configured : VpnClientConfiguredPath) (transport : Transport)
    (result : Except VpnClientProductPathRebindError VpnClientProductPathReplacement)
    (history : PathHistory) (after : Transport) : Prop :=
  PathsEvolve [configured.pathId] transport after ∧ match result with
    | .ok replacement => AllWaitsEnded history ∧ replacement.newPathId ∉ transport.opened ∧
        replacement.newPathId ∈ after.openPaths ∧
        after.opened.lookup replacement.newPathId = some configured.localIp
    | .error _ => OldPathSpared configured.pathId transport history after

section Round

variable {transport now : Transport} {configured : VpnClientConfiguredPath} {new : PathId}

/-- Giving up the new path changes nothing about the old one. -/
theorem giveUpPath_round {history : PathHistory} (error : VpnClientProductPathRebindError)
    (recorded : configured.pathId ∈ transport.opened) (fresh : new ∉ transport.opened)
    (evolves : PathsEvolve [configured.pathId] transport now)
    (spared : OldPathSpared configured.pathId transport history now) :
    PathResults (fun result later => RoundResult configured transport result (history ++ later))
      (giveUpPath new error) now := by
  have apart : configured.pathId ≠ new := fun same => fresh (same ▸ recorded)
  refine Ensures.mono (giveUpPath_results new error) (fun _ _ moment => moment) ?_
  rintro _ later after ⟨rfl, ended, same | shut⟩
  · subst same
    exact ⟨evolves, by simpa [OldPathSpared, ended] using spared⟩
  · subst shut
    refine ⟨evolves.shut (.inr fresh), ?_⟩
    simpa [OldPathSpared, ended, apart] using spared

theorem rebindSlot_results (server : IpAddr × UInt16) (retries slot : Nat)
    (recorded : configured.pathId ∈ transport.opened) :
    PathResults (RoundResult configured transport) (rebindSlot server retries slot configured)
      transport := by
  refine Ensures.seq (openConfiguredPath_results server configured.localIp retries) ?_
  rintro opened history last ⟨ended, reached⟩
  match opened with
  | .error error =>
    exact PathResults.done ⟨reached.widen (List.nil_subset _), .inl ⟨by simpa using ended,
      fun isOpen => reached.keeps _ isOpen List.not_mem_nil⟩⟩
  | .ok new =>
    obtain ⟨fresh, rfl⟩ := reached
    have apart : configured.pathId ≠ new := fun same => fresh (same ▸ recorded)
    have evolves : PathsEvolve [configured.pathId] transport
        (transport.openPath new configured.localIp) := (PathsEvolve.refl _ _).openPath fresh
    refine PathResults.ask fun answer now same => ?_
    obtain rfl : now = transport.openPath new configured.localIp := same
    -- So far the old path has not been touched.
    have spared (exchange : PathExchange)
        (noWait : ¬ WaitFailed exchange) :
        OldPathSpared configured.pathId transport (history ++ [exchange])
          (transport.openPath new configured.localIp) :=
      .inl ⟨by simp [ended, noWait, -WaitFailed], Finset.mem_insert_of_mem⟩
    match answer with
    | none =>
      simpa using giveUpPath_round .pathInspect recorded fresh evolves
        (spared _ (by simp))
    | some localIp =>
      simp only
      split_ifs with mismatch
      · simpa using giveUpPath_round .explicitSourceMismatch recorded fresh evolves
          (spared _ (by simp))
      · refine Ensures.seq (closeOldPath_results configured.pathId) ?_
        intro closed later last reached
        match closed with
        | .error error =>
          rcases reached with ⟨laterEnded, rfl⟩ | ⟨laterFailed, isOpen, rfl⟩
          · refine Ensures.mono (giveUpPath_round error recorded fresh evolves
                (spared ⟨transport, .networkPath new, some localIp⟩ (by simp)))
              (fun _ _ moment => moment) fun result last after reached => ?_
            simpa [RoundResult, OldPathSpared, ended, laterEnded] using reached
          · have wasOpen := (Finset.mem_insert.mp isOpen).resolve_left apart
            have gone : OldPathSpared configured.pathId transport later
                ((transport.openPath new configured.localIp).shut configured.pathId) :=
              .inr ⟨laterFailed, wasOpen, Finset.notMem_erase _ _⟩
            refine Ensures.mono (giveUpPath_round error recorded fresh
              (evolves.shut (.inl (by simp))) gone) (fun _ _ moment => moment) ?_
            intro result last after reached
            simpa [RoundResult, OldPathSpared, laterFailed] using reached
        | .ok () =>
          obtain ⟨laterEnded, rfl | rfl⟩ := reached
          · exact PathResults.done ⟨evolves, by simp [ended, laterEnded], fresh,
              Finset.mem_insert_self _ _, AList.lookup_insert _⟩
          · exact PathResults.done ⟨evolves.shut (.inl (by simp)), by simp [ended, laterEnded],
              fresh, Finset.mem_erase.mpr ⟨apart.symm, Finset.mem_insert_self _ _⟩,
              AList.lookup_insert _⟩

end Round

/-! ## All rounds -/

/-- What the rounds for `slots` do. -/
structure RoundsResult (slots : List VpnClientConfiguredPath) (transport : Transport)
    (slotsAfter : List VpnClientConfiguredPath) (history : PathHistory) (after : Transport) :
    Prop where
  evolves : PathsEvolve (slots.map (·.pathId)) transport after
  recorded : PathsRecorded slotsAfter after
  fresh : ∀ entry ∈ slotsAfter, entry.pathId ∈ slots.map (·.pathId) ∨
    entry.pathId ∉ transport.opened
  keeps : KeepsWorking slots transport slotsAfter after ↔ AllWaitsEnded history

section Rounds

variable {configured : VpnClientConfiguredPath} {rest restAfter : List VpnClientConfiguredPath}
variable {transport middle after : Transport} {history later : PathHistory}

theorem PathsRecorded.tail (recorded : PathsRecorded (configured :: rest) transport) :
    PathsRecorded rest transport :=
  ⟨(List.nodup_cons.mp recorded.distinct).2,
    fun entry isMem => recorded.opened entry (.tail _ isMem)⟩

variable {slots : List VpnClientConfiguredPath}

theorem PathsRecorded.evolves {touched : List PathId} (recorded : PathsRecorded slots transport)
    (evolves : PathsEvolve touched transport after) : PathsRecorded slots after :=
  ⟨recorded.distinct, fun entry isMem => evolves.opened _ _ (recorded.opened entry isMem)⟩

theorem PathsRecorded.apart (recorded : PathsRecorded (configured :: rest) transport)
    {entry : VpnClientConfiguredPath} (isMem : entry ∈ rest) :
    entry.pathId ∉ [configured.pathId] := by
  intro here
  have same : entry.pathId = configured.pathId := List.mem_singleton.mp here
  have apart : configured.pathId ∉ rest.map (·.pathId) := (List.nodup_cons.mp recorded.distinct).1
  exact apart (same ▸ List.mem_map_of_mem isMem)

/-- Which paths were open before is all that counts. -/
theorem KeepsWorking.congr {slotsAfter : List VpnClientConfiguredPath}
    (same : ∀ entry ∈ slots,
      (entry.pathId ∈ transport.openPaths ↔ entry.pathId ∈ middle.openPaths)) :
    KeepsWorking slots transport slotsAfter after ↔ KeepsWorking slots middle slotsAfter after := by
  unfold KeepsWorking
  induction slots generalizing slotsAfter with
  | nil => rw [List.forall₂_nil_left_iff, List.forall₂_nil_left_iff]
  | cons entry slots ih =>
    cases slotsAfter with
    | nil => simp
    | cons now slotsAfter =>
      rw [List.forall₂_cons, List.forall₂_cons, same entry (.head _),
        ih fun other isMem => same other (.tail _ isMem)]

/-- The slots that a round is not about keep their paths. -/
theorem KeepsWorking.of_evolves {touched : List PathId} (recorded : PathsRecorded slots transport)
    (evolves : PathsEvolve touched transport after)
    (apart : ∀ entry ∈ slots, entry.pathId ∉ touched) :
    KeepsWorking slots transport slots after := by
  refine List.forall₂_same.mpr fun entry isMem isOpen => ?_
  exact ⟨evolves.keeps _ isOpen (apart entry isMem),
    evolves.opened _ _ (recorded.opened entry isMem)⟩

/-- A round that fails is the last one. -/
theorem RoundsResult.of_error (recorded : PathsRecorded (configured :: rest) transport)
    (evolves : PathsEvolve [configured.pathId] transport after)
    (spared : OldPathSpared configured.pathId transport history after) :
    RoundsResult (configured :: rest) transport (configured :: rest) history after where
  evolves := evolves.widen (by simp)
  recorded := recorded.evolves evolves
  fresh := fun entry isMem => .inl (List.mem_map_of_mem isMem)
  keeps := by
    have others : KeepsWorking rest transport rest after :=
      KeepsWorking.of_evolves recorded.tail evolves fun _ isMem => recorded.apart isMem
    have opened := evolves.opened _ _ (recorded.opened configured (.head _))
    rcases spared with ⟨ended, stays⟩ | ⟨failed, wasOpen, gone⟩
    · exact iff_of_true (.cons (fun isOpen => ⟨stays isOpen, opened⟩) others) ended
    · refine iff_of_false (fun keeps => ?_) failed
      cases keeps with
      | cons here _ => exact gone (here wasOpen).1

/-- A round that succeeds, and the rounds after it. -/
theorem RoundsResult.cons {new : PathId} (recorded : PathsRecorded (configured :: rest) transport)
    (evolves : PathsEvolve [configured.pathId] transport middle) (ended : AllWaitsEnded history)
    (fresh : new ∉ transport.opened) (isOpen : new ∈ middle.openPaths)
    (opened : middle.opened.lookup new = some configured.localIp)
    (others : RoundsResult rest middle restAfter later after) :
    RoundsResult (configured :: rest) transport ({ configured with pathId := new } :: restAfter)
      (history ++ later) after := by
  have known : ∀ entry ∈ rest, entry.pathId ∈ transport.opened := fun entry isMem =>
    Table.mem_of_lookup (recorded.opened entry (.tail _ isMem))
  have newApart : new ∉ rest.map (·.pathId) := by
    intro inRest
    obtain ⟨entry, isMem, same⟩ := List.mem_map.mp inRest
    exact fresh (same ▸ known entry isMem)
  have sameOpen : ∀ entry ∈ rest,
      (entry.pathId ∈ transport.openPaths ↔ entry.pathId ∈ middle.openPaths) := by
    intro entry isMem
    refine ⟨fun wasOpen => evolves.keeps _ wasOpen (recorded.apart isMem), fun stillOpen => ?_⟩
    by_contra notOpen
    exact evolves.closed _ (known entry isMem) notOpen stillOpen
  refine ⟨evolves.trans others.evolves, ?_, ?_, ?_⟩
  · refine ⟨List.nodup_cons.mpr ⟨fun inAfter => ?_, others.recorded.distinct⟩, ?_⟩
    · obtain ⟨entry, isMem, same⟩ := List.mem_map.mp inAfter
      obtain same : entry.pathId = new := same
      rcases others.fresh entry isMem with inRest | unknown
      · exact newApart (same ▸ inRest)
      · exact unknown (same ▸ Table.mem_of_lookup opened)
    · intro entry isMem
      rcases List.mem_cons.mp isMem with rfl | inRest
      · exact others.evolves.opened _ _ opened
      · exact others.recorded.opened entry inRest
  · intro entry isMem
    rcases List.mem_cons.mp isMem with rfl | inRest
    · exact .inr fresh
    · rcases others.fresh entry inRest with old | unknown
      · exact .inl (.tail _ old)
      · exact .inr fun wasKnown => unknown (evolves.known wasKnown)
  · have newKept : new ∈ after.openPaths := others.evolves.keeps new isOpen newApart
    have newOpened := others.evolves.opened _ _ opened
    rw [allWaitsEnded_append, and_iff_right ended, ← others.keeps, ← KeepsWorking.congr sameOpen]
    exact ⟨fun keeps => by cases keeps; assumption,
      fun keeps => .cons (fun _ => ⟨newKept, newOpened⟩) keeps⟩

/-- Without a round nothing changes. -/
theorem RoundsResult.refl (recorded : PathsRecorded slots transport)
    (ended : AllWaitsEnded history) :
    RoundsResult slots transport slots history transport where
  evolves := .refl _ _
  recorded := recorded
  fresh := fun _ isMem => .inl (List.mem_map_of_mem isMem)
  keeps := iff_of_true (List.forall₂_same.mpr fun entry isMem isOpen =>
    ⟨isOpen, recorded.opened entry isMem⟩) ended

theorem RoundsResult.prepend {slotsAfter : List VpnClientConfiguredPath}
    (ended : AllWaitsEnded history) (result : RoundsResult slots transport slotsAfter later after) :
    RoundsResult slots transport slotsAfter (history ++ later) after :=
  { result with keeps := by rw [allWaitsEnded_append, and_iff_right ended, result.keeps] }

theorem rebindSlots_results (server : IpAddr × UInt16) (retries : Nat → Nat) (slot : Nat)
    (recorded : PathsRecorded slots transport) :
    PathResults (fun result history => RoundsResult slots transport result.1 history)
      (rebindSlots server retries slot slots) transport := by
  induction slots generalizing slot transport with
  | nil => exact PathResults.done (.refl recorded allWaitsEnded_nil)
  | cons configured rest ih =>
    have known := Table.mem_of_lookup (recorded.opened configured (.head _))
    refine Ensures.seq (rebindSlot_results server (retries slot) slot known) ?_
    rintro round history middle ⟨evolves, reached⟩
    match round with
    | .error error =>
      refine PathResults.done ?_
      rw [List.append_nil]
      exact .of_error recorded evolves reached
    | .ok replacement =>
      obtain ⟨ended, fresh, isOpen, opened⟩ := reached
      refine Ensures.seq (ih (slot + 1) (recorded.tail.evolves evolves)) ?_
      rintro ⟨others, result⟩ later after reached
      refine PathResults.done ?_
      rw [List.append_nil]
      exact .cons recorded evolves ended fresh isOpen opened reached

/-- A rebind is its rounds, if it comes to them. -/
theorem rebindNetworkPaths_results {runtime : VpnClientProductEndpointRuntime}
    (retries : Nat → Nat) (recorded : PathsRecorded runtime.configuredPaths transport) :
    PathResults (fun result history =>
        RoundsResult runtime.configuredPaths transport result.1.configuredPaths history)
      (runtime.rebindNetworkPaths retries) transport := by
  unfold VpnClientProductEndpointRuntime.rebindNetworkPaths
  cases runtime.connection with
  | none => exact PathResults.done (.refl recorded allWaitsEnded_nil)
  | some connection =>
    refine PathResults.ask fun answer now same => ?_
    obtain rfl : now = transport := same
    match answer with
    | .error error => exact PathResults.done (.refl recorded (by simp))
    | .ok localAddr =>
      refine Ensures.seq (PathResults.pinging (pingImplicitPath_asks _)) ?_
      rintro pinged history _ ⟨ended, rfl⟩
      match pinged with
      | .error error => exact PathResults.done (.refl recorded (by simp [ended]))
      | .ok implicitPathPinged =>
        refine Ensures.seq (PathResults.pinging (pingPaths_asks _)) ?_
        rintro _ pings transport ⟨pingsEnded, rfl⟩
        refine Ensures.seq (rebindSlots_results _ retries 0 recorded) ?_
        rintro ⟨configuredPaths, result⟩ rounds after reached
        have soFar : AllWaitsEnded (⟨transport, .rebindSocket runtime.bindIp
            (!runtime.configuredPaths.isEmpty), .ok localAddr⟩ :: (history ++ pings)) := by
          simp [ended, pingsEnded]
        have all := reached.prepend soFar
        match result with
        | .error error => exact PathResults.done (by simpa using all)
        | .ok replacements =>
          simp only
          split_ifs
          · exact PathResults.done (by simpa using all)
          · exact PathResults.done (by simpa using all)

end Rounds

/-! ## A client's life -/

variable {transport : Transport}

/-- That no path closes by itself is a case of that some may. -/
theorem vanishing_of_steady {α : Type} {program rest : PathDialogue α} {after : Transport}
    {history : PathHistory} (talks : Talks steady program transport history rest after) :
    Talks vanishing program transport history rest after := by
  refine Talks.widen ?_ ?_ talks
  · exact fun _ _ _ _ does => does
  · exact fun _ _ drifts => drifts.elim

/-- A client's slots name different paths, opened with their addresses. -/
theorem ClientServes.recorded {config : VpnClientProductConfig} {allowed : PathExchange → Prop}
    {runtime : VpnClientProductEndpointRuntime}
    (serves : ClientServes steady allowed config runtime transport) :
    PathsRecorded runtime.configuredPaths transport := by
  induction serves with
  | connected talks =>
    have connects := (connect_talks le_rfl (vanishing_of_steady talks)).2 _ rfl
    exact ⟨connects.tracked.distinct.sublist ((List.sublist_append_left _ _).map _),
      fun entry isMem => connects.tracked.opened entry (List.mem_append_left _ isMem)⟩
  | drifted _ drifts => exact drifts.elim
  | rebound _ talks _ ih =>
    exact ((rebindNetworkPaths_results _ ih).sound talks).2 _ rfl |>.recorded

/-- **When a rebind keeps the working paths.** For a client after any rebinds with any outcomes, in
a transport where no path closes by itself: whatever a further rebind returns, every slot whose path
was open has an open path with its address exactly if no wait for the end of a path failed in it. -/
theorem rebind_keeps_working_iff {config : VpnClientProductConfig}
    {runtime rebound : VpnClientProductEndpointRuntime} {after : Transport} {retries : Nat → Nat}
    {history : PathHistory}
    {result : Except VpnClientProductPathRebindError VpnClientProductPathRebindReport}
    (serves : ClientServes Transport.steady (fun _ => True) config runtime transport)
    (talks : Talks Transport.steady (runtime.rebindNetworkPaths retries) transport history
      (.done (rebound, result)) after) :
    KeepsWorking runtime.configuredPaths transport rebound.configuredPaths after ↔
      ∀ exchange ∈ history, ¬ WaitFailed exchange :=
  (((rebindNetworkPaths_results retries serves.recorded).sound talks).2 _ rfl).keeps

/-- The rebind of a client with one address, whose wait fails or ends well. -/
theorem rebind_keeps_working_iff_example :
    (KeepsWorking exampleRuntime.configuredPaths exampleConnected (exampleRebound 0).configuredPaths
        exampleMoved ↔ ∀ exchange ∈ exampleWaitFails, ¬ WaitFailed exchange) ∧
      KeepsWorking exampleRuntime.configuredPaths exampleConnected
        (exampleRebound 1).configuredPaths exampleMoved := by
  have serves := exampleRuntime_serves steady rfl fun _ => True
  refine ⟨rebind_keeps_working_iff serves (exampleWaitFails_talks steady rfl),
    (rebind_keeps_working_iff serves (exampleRebind_talks steady rfl)).mpr ?_⟩
  simp [exampleRebind, waitForPathAbandoned]

/-- The slot has the path 0 before and after the rebind; it was open, and is not. -/
theorem failed_wait_takes_path :
    ClientServes Transport.steady (fun _ => True) exampleOneAddress exampleRuntime
        exampleConnected ∧
      Talks Transport.steady (exampleRuntime.rebindNetworkPaths fun _ => 0) exampleConnected
        exampleWaitFails (.done (exampleRebound 0, .error .pathAbandonTimeout)) exampleMoved ∧
      ¬ KeepsWorking exampleRuntime.configuredPaths exampleConnected
        (exampleRebound 0).configuredPaths exampleMoved := by
  refine ⟨exampleRuntime_serves steady rfl _,
    exampleWaitFails_talks steady rfl, fun keeps => ?_⟩
  cases keeps with
  | cons here _ =>
    have stillOpen := (here (by decide)).1
    exact absurd stillOpen (by decide)

end FlowWeave.Vpn
