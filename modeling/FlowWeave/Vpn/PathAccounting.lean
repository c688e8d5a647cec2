/-
# Vpn.PathAccounting — every open path is recorded (`src/vpn_product_endpoint.rs`)

A rebind opens a path for a slot before it closes the old one, and discards the new path when
something fails. If no open times out and every discard finds another path open, so that the
transport does not refuse it, then after the connect and after any rebinds every open path is the
implicit one or that of exactly one slot, and there are never more paths than the transport was
configured for (`paths_accounted`). A discard that is refused leaves a path that no slot knows
(`discard_refused_leaks`): with a single slot that takes one wait that fails.
-/
import FlowWeave.Vpn.ProductBootstrap
import FlowWeave.Vpn.ProductEndpoint

namespace FlowWeave.Vpn

open Theory Theory.Checks Theory.Dialogue Transport

set_option autoImplicit false

/-- Who answers, and what has been said. -/
abbrev PathPartner := Partner TransportOp TransportOp.Answer Transport

abbrev PathExchange := Exchange TransportOp TransportOp.Answer Transport

abbrev PathHistory := List PathExchange

namespace Transport

variable {transport after : Transport} {path other : PathId} {localIp : IpAddr}

@[simp] theorem openPath_opened :
    (transport.openPath path localIp).opened = transport.opened.insert path localIp := rfl

@[simp] theorem shut_openPaths : (transport.shut path).openPaths = transport.openPaths.erase path :=
  rfl

/-- Opening a path under a new id keeps what is known of the others. -/
theorem lookup_openPath (fresh : path ∉ transport.opened) {source : IpAddr}
    (known : transport.opened.lookup other = some source) :
    (transport.openPath path localIp).opened.lookup other = some source := by
  have apart : other ≠ path := fun same => fresh (same ▸ Table.mem_of_lookup known)
  rw [openPath_opened, AList.lookup_insert_ne apart, known]

/-- A close leaves the transport as it is, or takes the path away. -/
theorem close_after (transport : Transport) (path : PathId) :
    (transport.close path).2 = transport ∨ (transport.close path).2 = transport.shut path := by
  unfold close
  split_ifs <;> simp

/-- After a close that is not refused, the path is not open. -/
theorem not_open_of_close (notLast : (transport.close path).1 ≠ .error .lastOpenPath) :
    path ∉ (transport.close path).2.openPaths := by
  unfold close at notLast ⊢
  split_ifs at notLast ⊢ with isOpen last
  · exact absurd rfl notLast
  · simp
  · exact isOpen

/-- The transport in which paths may close by themselves. -/
def vanishing : PathPartner := ⟨Does, VanishesTo⟩

end Transport

/-- An open does not time out, and a discard finds another path open. -/
def LeavesNoPath : PathExchange → Prop
  | ⟨_, .openPath _ _, .error (.timedOut _)⟩ => False
  | ⟨before, .discardPath path, _⟩ => ∃ other ∈ before.openPaths, other ≠ path
  | _ => True

theorem Transport.not_open_of_discard {transport : Transport} {path other : PathId}
    (isOpen : other ∈ transport.openPaths) (apart : other ≠ path) :
    path ∉ (transport.close path).2.openPaths := by
  apply not_open_of_close
  unfold close
  split_ifs with here last
  · obtain ⟨only, single⟩ := Finset.card_eq_one.mp last
    rw [single, Finset.mem_singleton] at isOpen here
    exact absurd (isOpen.trans here.symm) apart
  · simp
  · simp

/-! ## Recorded paths -/

/-- The entries name different paths, each opened with the address of its entry. -/
structure PathsRecorded (entries : List VpnClientConfiguredPath) (transport : Transport) :
    Prop where
  distinct : (entries.map (·.pathId)).Nodup
  opened : ∀ entry ∈ entries, transport.opened.lookup entry.pathId = some entry.localIp

/-- And no other path is open. -/
structure PathsTracked (entries : List VpnClientConfiguredPath) (transport : Transport) : Prop
    extends PathsRecorded entries transport where
  covers : ∀ path ∈ transport.openPaths, path ∈ entries.map (·.pathId)

namespace PathsTracked

variable {entries others : List VpnClientConfiguredPath} {entry : VpnClientConfiguredPath}
variable {transport after : Transport} {path : PathId} {localIp : IpAddr}

/-- An entry whose path is not open can go. -/
theorem forget (tracked : PathsTracked (entry :: entries) transport)
    (notOpen : entry.pathId ∉ transport.openPaths) : PathsTracked entries transport where
  distinct := (List.nodup_cons.mp tracked.distinct).2
  opened := fun other isMem => tracked.opened other (.tail _ isMem)
  covers := by
    intro path isOpen
    rcases List.mem_cons.mp (tracked.covers path isOpen) with rfl | old
    · exact absurd isOpen notOpen
    · exact old

variable (tracked : PathsTracked entries transport)

include tracked

theorem card_le : transport.openPaths.card ≤ entries.length := by
  calc transport.openPaths.card
      ≤ (entries.map (·.pathId)).toFinset.card :=
        Finset.card_le_card fun path isOpen => List.mem_toFinset.mpr (tracked.covers path isOpen)
    _ ≤ (entries.map (·.pathId)).length := List.toFinset_card_le _
    _ = entries.length := List.length_map _

theorem shut (path : PathId) : PathsTracked entries (transport.shut path) where
  distinct := tracked.distinct
  opened := tracked.opened
  covers := fun other isOpen => tracked.covers other (Finset.mem_of_mem_erase isOpen)

theorem closed (path : PathId) : PathsTracked entries (transport.close path).2 := by
  rcases transport.close_after path with same | shut
  · rwa [same]
  · rw [shut]
    exact tracked.shut path

/-- A path that was opened is one more entry. -/
theorem opening (fresh : path ∉ transport.opened) (localIp : IpAddr) :
    PathsTracked (⟨localIp, path⟩ :: entries) (transport.openPath path localIp) where
  distinct := by
    refine List.nodup_cons.mpr ⟨fun recorded => ?_, tracked.distinct⟩
    obtain ⟨entry, isMem, same⟩ := List.mem_map.mp recorded
    have known := Table.mem_of_lookup (tracked.opened entry isMem)
    rw [same] at known
    exact fresh known
  opened := by
    intro entry isMem
    rcases List.mem_cons.mp isMem with rfl | old
    · exact AList.lookup_insert _
    · exact lookup_openPath fresh (tracked.opened entry old)
  covers := by
    intro other isOpen
    rcases Finset.mem_insert.mp isOpen with rfl | old
    · exact .head _
    · exact .tail _ (tracked.covers other old)

theorem perm (same : entries.Perm others) : PathsTracked others transport where
  distinct := (same.map _).nodup_iff.mp tracked.distinct
  opened := fun entry isMem => tracked.opened entry (same.mem_iff.mpr isMem)
  covers := fun path isOpen => (same.map _).mem_iff.mp (tracked.covers path isOpen)

omit tracked in
theorem stable (entries : List VpnClientConfiguredPath) :
    Ensures.Stable vanishing (PathsTracked entries) := by
  rintro before after tracked ⟨path, -, rfl⟩
  exact tracked.shut path

omit tracked in
/-- A path that is gone stays away. -/
theorem stable_gone (entries : List VpnClientConfiguredPath) (path : PathId) :
    Ensures.Stable vanishing fun now =>
      PathsTracked entries now ∧ path ∉ now.openPaths := by
  rintro before after ⟨tracked, gone⟩ ⟨other, -, rfl⟩
  exact ⟨tracked.shut other, fun isOpen => gone (Finset.mem_of_mem_erase isOpen)⟩

end PathsTracked

/-! ## Steps -/

/-- What a dialogue with the transport does in runs whose exchanges are allowed, with never more
than `bound` paths open. -/
abbrev WithinBudget {α : Type} (allowed : PathExchange → Prop)
    (bound : Nat) (post : α → Transport → Prop) (program : PathDialogue α) (transport : Transport) :
    Prop :=
  Provided vanishing allowed (fun now => now.openPaths.card ≤ bound) post program
    transport

section Budget

variable {allowed : PathExchange → Prop} {bound : Nat}
variable {entries : List VpnClientConfiguredPath} {transport : Transport}

theorem PathsTracked.result {α : Type} {post : α → Transport → Prop} {result : α}
    (tracked : PathsTracked entries transport) (room : entries.length ≤ bound)
    (ends : ∀ last, PathsTracked entries last → post result last) :
    WithinBudget allowed bound post (pure result) transport :=
  Provided.done (PathsTracked.stable entries) tracked fun last still =>
    ⟨still.card_le.trans room, ends last still⟩

theorem PathsTracked.asking {α : Type} {post : α → Transport → Prop} {op : TransportOp}
    {next : op.Answer → PathDialogue α} (tracked : PathsTracked entries transport)
    (room : entries.length ≤ bound)
    (answered : ∀ asked answer after, PathsTracked entries asked → asked.Does op answer after →
      allowed ⟨asked, op, answer⟩ → WithinBudget allowed bound post (next answer) after) :
    WithinBudget allowed bound post (.ask op next) transport :=
  Provided.ask (PathsTracked.stable entries) tracked (fun _ still => still.card_le.trans room)
    answered

variable {server : IpAddr × UInt16}

/-- What an attempt to open a path leaves: one path that is new, or what was there, and after a
timeout one more path than is recorded. -/
def OpenTracked (allowed : PathExchange → Prop) (bound : Nat) (localIp : IpAddr)
    (entries : List VpnClientConfiguredPath) (result : Except VpnProductEndpointError PathId)
    (after : Transport) : Prop :=
  match result with
  | .ok path => PathsTracked (⟨localIp, path⟩ :: entries) after
  | .error _ => after.openPaths.card ≤ bound ∧
      ((∀ exchange, allowed exchange → LeavesNoPath exchange) → PathsTracked entries after)

theorem openConfiguredPath_within {localIp : IpAddr} (retries : Nat)
    (tracked : PathsTracked entries transport) (room : entries.length + 1 ≤ bound) :
    WithinBudget allowed bound (OpenTracked allowed bound localIp entries)
      (openConfiguredPath server localIp retries) transport := by
  have fails (error : VpnProductEndpointError) {now : Transport}
      (still : PathsTracked entries now) : WithinBudget allowed bound
        (OpenTracked allowed bound localIp entries) (pure (.error error)) now :=
    still.result (by omega) fun _ ended => ⟨ended.card_le.trans (by omega), fun _ => ended⟩
  have attempt {now : Transport} (still : PathsTracked entries now)
      {noRoom : VpnProductPathOpenError → PathDialogue _}
      (goesOn : ∀ error now, PathsTracked entries now → WithinBudget allowed bound
        (OpenTracked allowed bound localIp entries) (noRoom error) now) : WithinBudget allowed bound
        (OpenTracked allowed bound localIp entries) (tryOpenPath server localIp noRoom) now := by
    refine still.asking (by omega) fun asked answer after still does fine => ?_
    match answer, does with
    | .ok path, ⟨fresh, opened⟩ =>
      subst opened
      exact (still.opening fresh localIp).result room fun _ ended => ended
    | .error (.timedOut path), ⟨fresh, opened⟩ =>
      subst opened
      exact (still.opening fresh localIp).result room fun _ ended =>
        ⟨ended.card_le.trans room, fun none => (none _ fine).elim⟩
    | .error (.failed error), same =>
      subst same
      simp only
      split_ifs
      · exact goesOn error after still
      · exact fails _ still
  induction retries generalizing transport with
  | zero => exact attempt tracked fun _ _ still => fails _ still
  | succ retries ih => exact attempt tracked fun _ _ still => ih still

/-- Closing the old path of a slot: if that succeeds, it is not open. -/
theorem closeOldPath_within {entry : VpnClientConfiguredPath}
    (tracked : PathsTracked (entry :: entries) transport) (room : entries.length + 1 ≤ bound) :
    WithinBudget allowed bound
      (fun result after => match result with
        | .ok () => PathsTracked entries after
        | .error _ => PathsTracked (entry :: entries) after)
      (closeOldPath entry.pathId) transport := by
  refine tracked.asking room fun asked found after still does _ => ?_
  obtain ⟨absent, rfl⟩ := does
  cases found with
  | false => exact (still.forget (absent rfl)).result (by omega) fun _ ended => ended
  | true =>
    refine still.asking room fun asked answer after still does _ => ?_
    have closed := still.closed entry.pathId
    have gone := @not_open_of_close asked entry.pathId
    simp only [show asked.close entry.pathId = (answer, after) from does] at closed gone
    match answer with
    | .ok () =>
      refine Provided.ask (PathsTracked.stable_gone _ entry.pathId) ⟨closed, gone (by simp)⟩
        (fun _ still => still.1.card_le.trans room) fun asked events after still same _ => ?_
      obtain rfl : after = asked := same
      refine Provided.done (PathsTracked.stable_gone _ entry.pathId) still fun last ended =>
        ⟨ended.1.card_le.trans room, ?_⟩
      cases waitForPathAbandoned entry.pathId events with
      | ok => exact ended.1.forget ended.2
      | error => exact ended.1
    | .error .closedPath =>
      exact (closed.forget (gone (by simp))).result (by omega) fun _ ended => ended
    | .error .lastOpenPath => exact closed.result room fun _ ended => ended
    | .error .multipathNotNegotiated => exact closed.result room fun _ ended => ended

/-- A discard that finds another path open takes the new path away. -/
theorem giveUpPath_within {entry : VpnClientConfiguredPath}
    {error : VpnClientProductPathRebindError} (tracked : PathsTracked (entry :: entries) transport)
    (room : entries.length + 1 ≤ bound) :
    WithinBudget LeavesNoPath bound
      (fun result after => (∃ error, result = .error error) ∧ PathsTracked entries after)
      (giveUpPath entry.pathId error) transport := by
  refine tracked.asking room fun asked answer after still does company => ?_
  obtain rfl : after = (asked.close entry.pathId).2 := does
  obtain ⟨other, isOpen, apart⟩ := company
  have rest := (still.closed entry.pathId).forget (not_open_of_discard isOpen apart)
  exact rest.result (by omega) fun _ ended => ⟨⟨error, rfl⟩, ended⟩

/-- What a round leaves: the new path in its slot, or the one that was there. -/
def RoundTracked (configured : VpnClientConfiguredPath) (entries : List VpnClientConfiguredPath)
    (result : Except VpnClientProductPathRebindError VpnClientProductPathReplacement)
    (after : Transport) : Prop :=
  match result with
  | .ok replacement =>
    PathsTracked ({ configured with pathId := replacement.newPathId } :: entries) after
  | .error _ => PathsTracked (configured :: entries) after

theorem rebindSlot_within {retries slot : Nat} {configured : VpnClientConfiguredPath}
    (tracked : PathsTracked (configured :: entries) transport) (room : entries.length + 2 ≤ bound) :
    WithinBudget LeavesNoPath bound (RoundTracked configured entries)
      (rebindSlot server retries slot configured) transport := by
  have few : (configured :: entries).length + 1 ≤ bound := room
  refine Provided.seq (openConfiguredPath_within retries tracked few) fun opened last reached => ?_
  cases opened with
  | error error => exact (reached.2 fun _ fine => fine).result (by omega) fun _ ended => ended
  | ok new =>
    have givesUp (error : VpnClientProductPathRebindError) {now : Transport}
        (still : PathsTracked (⟨configured.localIp, new⟩ :: configured :: entries) now) :
        WithinBudget LeavesNoPath bound (RoundTracked configured entries) (giveUpPath new error)
          now := by
      refine (giveUpPath_within still few).mono ?_
      rintro _ after ⟨⟨error, rfl⟩, ended⟩
      exact ended
    refine reached.asking few fun asked answer after still same _ => ?_
    obtain rfl : after = asked := same
    match answer with
    | none => exact givesUp _ still
    | some localIp =>
      simp only
      split_ifs with mismatch
      · exact givesUp _ still
      · have swapped := still.perm (List.Perm.swap configured _ entries)
        refine Provided.seq (closeOldPath_within swapped few) fun closed last reached => ?_
        match closed with
        | .error error =>
          exact givesUp error (reached.perm (List.Perm.swap _ configured entries))
        | .ok () => exact reached.result (by simp; omega) fun _ ended => ended

/-- All rounds, with `kept` recorded besides the slots. -/
theorem rebindSlots_within {retries : Nat → Nat} {slot : Nat}
    {kept slots : List VpnClientConfiguredPath} (tracked : PathsTracked (slots ++ kept) transport)
    (room : slots.length + kept.length ≤ bound)
    (spare : slots ≠ [] → slots.length + kept.length + 1 ≤ bound) :
    WithinBudget LeavesNoPath bound
      (fun result after => PathsTracked (result.1 ++ kept) after ∧
        result.1.map (·.localIp) = slots.map (·.localIp))
      (rebindSlots server retries slot slots) transport := by
  induction slots generalizing slot kept transport with
  | nil => exact tracked.result (by simpa using room) fun _ ended => ⟨ended, rfl⟩
  | cons configured rest ih =>
    have more : rest.length + kept.length + 2 ≤ bound := by
      have := spare (by simp)
      simp only [List.length_cons] at this
      omega
    refine Provided.seq (rebindSlot_within tracked (by simpa using more)) ?_
    intro round last reached
    match round with
    | .error error =>
      exact reached.result (by simp; omega) fun _ ended => ⟨ended, rfl⟩
    | .ok replacement =>
      -- The slot is done: it is one of those recorded besides the others.
      have moved := reached.perm (List.perm_middle.symm)
      refine Provided.seq (ih moved (by simp; omega) (by simp; omega)) ?_
      rintro ⟨others, result⟩ last ⟨tracked, localIps⟩
      have few : others.length = rest.length := by simpa using congrArg List.length localIps
      refine (tracked.perm List.perm_middle).result (by simp; omega) fun _ ended => ⟨ended, ?_⟩
      simp [localIps]

theorem PathsTracked.pinging {α : Type} {program : PathDialogue α}
    (tracked : PathsTracked entries transport) (room : entries.length ≤ bound)
    (asks : program.Asks TransportOp.Pings) :
    WithinBudget allowed bound (fun _ after => PathsTracked entries after) program transport :=
  Provided.of_asks (PathsTracked.stable entries)
    (fun _ pings _ _ _ still does => TransportOp.Pings.same pings does ▸ still)
    (fun _ still => still.card_le.trans room) asks tracked

end Budget

/-! ## Rebinding -/

/-- The implicit path, with the address of the socket. -/
def VpnClientProductEndpointRuntime.implicitEntry (runtime : VpnClientProductEndpointRuntime) :
    List VpnClientConfiguredPath :=
  runtime.implicitPath.toList.map fun path => ⟨runtime.bindIp, path⟩

/-- What a runtime has recorded. -/
def VpnClientProductEndpointRuntime.entries (runtime : VpnClientProductEndpointRuntime) :
    List VpnClientConfiguredPath :=
  runtime.configuredPaths ++ runtime.implicitEntry

/-- The same configuration, with other paths. -/
structure SameSlots (before after : VpnClientProductEndpointRuntime) : Prop where
  localIps : after.configuredPaths.map (·.localIp) = before.configuredPaths.map (·.localIp)
  implicitPath : after.implicitPath = before.implicitPath

theorem rebindNetworkPaths_within {bound : Nat} {runtime : VpnClientProductEndpointRuntime}
    {transport : Transport} (retries : Nat → Nat) (tracked : PathsTracked runtime.entries transport)
    (room : runtime.entries.length ≤ bound)
    (spare : runtime.configuredPaths ≠ [] → runtime.entries.length + 1 ≤ bound) :
    WithinBudget LeavesNoPath bound
      (fun result after => PathsTracked result.1.entries after ∧ SameSlots runtime result.1)
      (runtime.rebindNetworkPaths retries) transport := by
  unfold VpnClientProductEndpointRuntime.rebindNetworkPaths
  cases runtime.connection with
  | none => exact tracked.result room fun _ ended => ⟨ended, rfl, rfl⟩
  | some connection =>
    refine tracked.asking room fun asked answer after still same _ => ?_
    obtain rfl : after = asked := same
    match answer with
    | .error error => exact still.result room fun _ ended => ⟨ended, rfl, rfl⟩
    | .ok localAddr =>
      refine Provided.seq (still.pinging room (pingImplicitPath_asks _)) fun pinged last still => ?_
      match pinged with
      | .error error => exact still.result room fun _ ended => ⟨ended, rfl, rfl⟩
      | .ok implicitPathPinged =>
        refine Provided.seq (still.pinging room (pingPaths_asks _)) fun _ last still => ?_
        have lengths : runtime.configuredPaths.length + runtime.implicitEntry.length =
            runtime.entries.length := List.length_append.symm
        refine Provided.seq (rebindSlots_within still (by rwa [lengths])
          (by rwa [lengths])) ?_
        rintro ⟨configuredPaths, result⟩ last ⟨tracked, localIps⟩
        have few : configuredPaths.length = runtime.configuredPaths.length := by
          simpa using congrArg List.length localIps
        have enough : (configuredPaths ++ runtime.implicitEntry).length ≤ bound := by
          rw [List.length_append]
          omega
        match result with
        | .error error =>
          exact tracked.result enough fun _ ended => ⟨ended, localIps, rfl⟩
        | .ok replacements =>
          simp only
          split_ifs
          · exact tracked.result enough fun _ ended => ⟨ended, localIps, rfl⟩
          · exact tracked.result enough fun _ ended => ⟨ended, localIps, rfl⟩

/-! ## Connecting -/

theorem few_stable (bound : Nat) :
    Ensures.Stable vanishing fun now => now.openPaths.card ≤ bound := by
  rintro before after few ⟨path, -, rfl⟩
  exact (Finset.card_erase_le).trans few

section Connecting

variable {allowed : PathExchange → Prop} {bound : Nat}

/-- An attempt that has failed has only to keep to the budget. -/
def PathsEstablished {α : Type} (bound : Nat) (post : α → Transport → Prop)
    (result : Except VpnProductEndpointError α) (after : Transport) : Prop :=
  match result with
  | .ok value => post value after
  | .error _ => after.openPaths.card ≤ bound

variable {transport : Transport} {server : IpAddr × UInt16} {retries : Nat → Nat}
  {config : VpnClientProductConfig}

theorem within_error {α : Type} {error : VpnProductEndpointError} {post : α → Transport → Prop}
    (few : transport.openPaths.card ≤ bound) :
    WithinBudget allowed bound (PathsEstablished bound post) (pure (.error error)) transport :=
  Provided.done (few_stable bound) few fun _ still => ⟨still, still⟩

/-- The new paths are recorded with their addresses; a failure keeps to the budget. -/
theorem openConfiguredPaths_within {slot : Nat} {localIps : List IpAddr}
    {entries : List VpnClientConfiguredPath} (tracked : PathsTracked entries transport)
    (room : entries.length + localIps.length ≤ bound) :
    WithinBudget allowed bound
      (PathsEstablished bound fun paths after =>
        PathsTracked (paths ++ entries) after ∧ paths.map (·.localIp) = localIps)
      (openConfiguredPaths server retries slot localIps) transport := by
  induction localIps generalizing slot entries transport with
  | nil => exact tracked.result (by simpa using room) fun _ ended => ⟨ended, rfl⟩
  | cons localIp rest ih =>
    simp only [List.length_cons] at room
    refine Provided.seq (openConfiguredPath_within (retries slot) tracked (by omega)) ?_
    intro opened last reached
    match opened with
    | .error error => exact within_error reached.1
    | .ok path =>
      refine Provided.seq (ih reached (by simp; omega)) fun result last others => ?_
      match result with
      | .error error => exact within_error others
      | .ok paths =>
        obtain ⟨tracked, localIps⟩ := others
        have few : paths.length = rest.length := by simpa using congrArg List.length localIps
        have moved := tracked.perm List.perm_middle
        refine moved.result (by simp; omega) fun _ ended => ⟨ended, ?_⟩
        simp [localIps]

/-- The first path goes once it is replaced. -/
theorem closeBootstrapPath_within {first : VpnClientConfiguredPath}
    {entries : List VpnClientConfiguredPath} (isFirst : first.pathId = 0)
    (tracked : PathsTracked (first :: entries) transport) (room : entries.length + 1 ≤ bound) :
    WithinBudget allowed bound
      (PathsEstablished bound fun () after =>
        PathsTracked (if config.replaceBootstrapPath then entries else first :: entries) after)
      (closeBootstrapPath config) transport := by
  unfold closeBootstrapPath
  split_ifs with replaced
  · refine tracked.asking room fun asked found after still does _ => ?_
    obtain ⟨-, rfl⟩ := does
    cases found with
    | false => exact within_error (still.card_le.trans room)
    | true =>
      refine still.asking room fun asked answer after still does _ => ?_
      have closed := still.closed first.pathId
      have gone := @not_open_of_close asked first.pathId
      rw [isFirst] at closed gone
      simp only [show asked.close 0 = (answer, after) from does] at closed gone
      match answer with
      | .ok () =>
        have rest := closed.forget (by rw [isFirst]; exact gone (by simp))
        exact rest.result (by omega) fun _ ended => ended
      | .error _ => exact within_error (closed.card_le.trans room)
  · exact tracked.result room fun _ ended => ended

/-- What a config makes of the first path: its own slot, the implicit path, or nothing. -/
theorem VpnClientProductConfig.bootstrap_entries (config : VpnClientProductConfig)
    (server : IpAddr × UInt16) :
    config.bootstrapSlots ++ (if config.primaryLocalIp.isNone then some 0 else none).toList.map
        (fun path => (⟨config.bindIp server, path⟩ : VpnClientConfiguredPath)) =
      if config.replaceBootstrapPath then [] else [⟨config.bindIp server, 0⟩] := by
  unfold bootstrapSlots bindIp replaceBootstrapPath
  cases config.primaryLocalIp with
  | none => simp
  | some primary => cases config.additionalLocalIps <;> simp

theorem VpnClientProductConfig.slots_localIps (config : VpnClientProductConfig) :
    config.bootstrapSlots.map (·.localIp) ++ config.pathsToOpen = config.explicitLocalIps := by
  unfold bootstrapSlots pathsToOpen explicitLocalIps replaceBootstrapPath
  cases config.primaryLocalIp with
  | none => simp
  | some primary => cases config.additionalLocalIps <;> simp

/-- What the paths of a new connection are. -/
structure Connects (config : VpnClientProductConfig) (runtime : VpnClientProductEndpointRuntime)
    (transport : Transport) : Prop where
  tracked : PathsTracked runtime.entries transport
  localIps : runtime.configuredPaths.map (·.localIp) = config.explicitLocalIps
  implicitPath : runtime.implicitPath = if config.primaryLocalIp.isNone then some 0 else none

theorem establishPaths_within {first : VpnClientConfiguredPath} (isFirst : first.pathId = 0)
    (tracked : PathsTracked [first] transport) (room : 1 + config.pathsToOpen.length ≤ bound) :
    WithinBudget allowed bound
      (PathsEstablished bound fun slots after => ∃ paths, slots = config.bootstrapSlots ++ paths ∧
        paths.map (·.localIp) = config.pathsToOpen ∧
        PathsTracked (paths ++ if config.replaceBootstrapPath then [] else [first]) after)
      (establishPaths config server retries) transport := by
  refine Provided.seq (openConfiguredPaths_within tracked (by simpa using room)) ?_
  intro opened last reached
  match opened with
  | .error error => exact within_error reached
  | .ok paths =>
    obtain ⟨tracked, localIps⟩ := reached
    have few : paths.length = config.pathsToOpen.length := by
      simpa using congrArg List.length localIps
    have front := tracked.perm (List.perm_append_comm)
    refine Provided.seq (closeBootstrapPath_within isFirst front (by simp; omega)) ?_
    intro closed last reached
    match closed with
    | .error error => exact within_error reached
    | .ok () =>
      have rest : PathsTracked (paths ++ if config.replaceBootstrapPath then [] else [first])
          last := by
        split_ifs with replaced
        · simpa [PathsEstablished, replaced] using reached
        · have kept : PathsTracked ([first] ++ paths) last := by
            simpa [PathsEstablished, replaced] using reached
          exact kept.perm List.perm_append_comm
      refine rest.result (by split_ifs <;> simp <;> omega) fun _ ended => ?_
      exact ⟨paths, rfl, localIps, ended⟩

theorem connectVpnClientAddress_within {stableId : Nat} {session : UInt64}
    (room : 1 + config.pathsToOpen.length ≤ bound) :
    WithinBudget allowed bound (PathsEstablished bound (Connects config))
      (connectVpnClientAddress config server retries stableId session) .empty := by
  have none : PathsTracked [] .empty := ⟨⟨List.nodup_nil, by simp⟩, by simp [empty]⟩
  refine none.asking (Nat.zero_le bound) fun asked answer after still same _ => ?_
  obtain rfl : after = asked := same
  match answer with
  | .error error => exact within_error (still.card_le.trans (Nat.zero_le bound))
  | .ok localAddr =>
    -- A failed attempt closes the endpoint, and with it every path.
    have closes (error : VpnProductEndpointError) {now : Transport}
        (few : now.openPaths.card ≤ bound) : WithinBudget allowed bound
          (PathsEstablished bound (Connects config))
          (.ask .closeEndpoint fun () => pure (.error error)) now := by
      refine Provided.ask (few_stable bound) few (fun _ still => still) ?_
      rintro asked _ after - ⟨-, closed⟩ -
      exact within_error (by simp [closed])
    refine still.asking (Nat.zero_le bound) fun asked answer after still does _ => ?_
    match answer, does with
    | .error error, same =>
      subst same
      exact closes error (still.card_le.trans (Nat.zero_le bound))
    | .ok multipath, ⟨fresh, opened⟩ =>
      subst opened
      have tracked := still.opening fresh (config.bindIp server)
      cases multipath with
      | false => exact closes _ (tracked.card_le.trans (by simp; omega))
      | true =>
        refine Provided.seq (establishPaths_within rfl tracked room) ?_
        intro established last reached
        match established with
        | .error error => exact closes error reached
        | .ok slots =>
          obtain ⟨paths, rfl, localIps, tracked⟩ := reached
          have few : paths.length = config.pathsToOpen.length := by
            simpa using congrArg List.length localIps
          refine tracked.result (by split_ifs <;> simp <;> omega) fun _ ended => ?_
          refine ⟨ended.perm ?_, ?_, rfl⟩
          · rw [← config.bootstrap_entries server]
            exact (List.perm_append_comm_assoc _ _ _).trans
              (List.Perm.of_eq (List.append_assoc _ _ _).symm)
          · rw [List.map_append, localIps, config.slots_localIps]

/-- At every moment of a connect, and at its end. -/
theorem connect_talks {stableId : Nat} {session : UInt64} {history : PathHistory}
    {rest : PathDialogue (Except VpnProductEndpointError VpnClientProductEndpointRuntime)}
    (room : 1 + config.pathsToOpen.length ≤ bound)
    (talks : Talks vanishing
      (connectVpnClientAddress config server retries stableId session) .empty history rest
      transport) :
    transport.openPaths.card ≤ bound ∧
      ∀ runtime, rest = .done (.ok runtime) → Connects config runtime transport := by
  have within : WithinBudget (fun _ => True) bound (PathsEstablished bound (Connects config))
      (connectVpnClientAddress config server retries stableId session) .empty :=
    connectVpnClientAddress_within room
  obtain ⟨few, ended⟩ := within.sound talks fun _ _ => trivial
  exact ⟨few, fun runtime same => ended _ same⟩

end Connecting

/-! ## A client's life -/

/-- A client after its connect and any number of rebinds, whatever they return, as long as every
exchange of the rebinds is allowed. -/
inductive ClientServes (partner : PathPartner)
    (allowed : PathExchange → Prop)
    (config : VpnClientProductConfig) : VpnClientProductEndpointRuntime → Transport → Prop
  | connected {server : IpAddr × UInt16} {retries : Nat → Nat} {stableId : Nat} {session : UInt64}
      {history : PathHistory}
      {runtime : VpnClientProductEndpointRuntime} {transport : Transport} :
      Talks partner (connectVpnClientAddress config server retries stableId session) .empty history
        (.done (.ok runtime)) transport →
      ClientServes partner allowed config runtime transport
  | drifted {runtime : VpnClientProductEndpointRuntime} {transport after : Transport} :
      ClientServes partner allowed config runtime transport → partner.Drifts transport after →
      ClientServes partner allowed config runtime after
  | rebound {runtime rebound : VpnClientProductEndpointRuntime} {transport after : Transport}
      {retries : Nat → Nat}
      {result : Except VpnClientProductPathRebindError VpnClientProductPathRebindReport}
      {history : PathHistory} :
      ClientServes partner allowed config runtime transport →
      Talks partner (runtime.rebindNetworkPaths retries) transport history
        (.done (rebound, result)) after →
      (∀ exchange ∈ history, allowed exchange) →
      ClientServes partner allowed config rebound after

/-- Every open path is the implicit one or that of exactly one slot, and the slots are those of
the config. -/
structure AccountsForPaths (config : VpnClientProductConfig)
    (runtime : VpnClientProductEndpointRuntime) (transport : Transport) : Prop where
  recorded : ∀ path ∈ transport.openPaths, runtime.implicitPath = some path ∨
    ∃! slot : Fin runtime.configuredPaths.length, (runtime.configuredPaths.get slot).pathId = path
  localIps : runtime.configuredPaths.map (·.localIp) = config.explicitLocalIps

section Budget

variable {config : VpnClientProductConfig} {count : UInt32}
variable {runtime : VpnClientProductEndpointRuntime} {transport : Transport}

theorem clientTransientPathCount_eq {hasPrimary : Bool} {additionalCount : Nat}
    (counted : clientTransientPathCount hasPrimary additionalCount = .ok count) :
    count.toNat = additionalCount + 1 + (hasPrimary && additionalCount ≠ 0).toNat +
      (hasPrimary || additionalCount ≠ 0).toNat := by
  obtain ⟨_, fits, same⟩ := bind_eq_ok.mp counted
  rw [← Except.ok.inj same, UInt32.toNat_ofNat']
  exact Nat.mod_eq_of_lt (Nat.lt_of_not_le (refuseIf_eq_ok.mp fits))

theorem Connects.accounts (connects : Connects config runtime transport) :
    AccountsForPaths config runtime transport := by
  refine ⟨fun path isOpen => ?_, connects.localIps⟩
  obtain ⟨entry, isMem, rfl⟩ := List.mem_map.mp (connects.tracked.covers path isOpen)
  rcases List.mem_append.mp isMem with inSlot | implicit
  · right
    obtain ⟨slot, rfl⟩ := List.mem_iff_get.mp inSlot
    refine ⟨slot, rfl, fun other same => ?_⟩
    have distinct : (runtime.configuredPaths.map (·.pathId)).Nodup :=
      connects.tracked.distinct.sublist ((List.sublist_append_left _ _).map _)
    have sameEntry := List.inj_on_of_nodup_map distinct (List.get_mem _ other)
      (List.get_mem _ slot) same
    exact List.nodup_iff_injective_get.mp distinct.of_map sameEntry
  · left
    obtain ⟨path, isImplicit, rfl⟩ := List.mem_map.mp implicit
    exact Option.mem_toList.mp isImplicit

variable (counted : clientTransientPathCount config.primaryLocalIp.isSome
  config.additionalLocalIps.length = .ok count)

include counted

/-- The budget covers the first path besides those that are opened at the start. -/
theorem pathsToOpen_budget : 1 + config.pathsToOpen.length ≤ count.toNat := by
  rw [clientTransientPathCount_eq counted]
  unfold VpnClientProductConfig.pathsToOpen VpnClientProductConfig.replaceBootstrapPath
    VpnClientProductConfig.explicitLocalIps
  cases config.primaryLocalIp with
  | none => simp; omega
  | some primary => cases config.additionalLocalIps <;> simp; omega

/-- The budget covers what is recorded, and one path more if there is a slot. -/
theorem Connects.budget (connects : Connects config runtime transport) :
    runtime.entries.length ≤ count.toNat ∧
      (runtime.configuredPaths ≠ [] → runtime.entries.length + 1 ≤ count.toNat) := by
  have slots : runtime.configuredPaths.length = config.explicitLocalIps.length := by
    simpa using congrArg List.length connects.localIps
  rw [clientTransientPathCount_eq counted, ← List.length_pos_iff,
    VpnClientProductEndpointRuntime.entries, VpnClientProductEndpointRuntime.implicitEntry,
    List.length_append, List.length_map, connects.implicitPath, slots]
  unfold VpnClientProductConfig.explicitLocalIps
  cases config.primaryLocalIp with
  | none => cases config.additionalLocalIps <;> simp
  | some primary => cases config.additionalLocalIps <;> simp

theorem ClientServes.connects
    (serves : ClientServes vanishing LeavesNoPath config runtime transport) :
    Connects config runtime transport := by
  induction serves with
  | connected talks => exact (connect_talks (pathsToOpen_budget counted) talks).2 _ rfl
  | drifted _ drifts ih => exact { ih with tracked := PathsTracked.stable _ _ _ ih.tracked drifts }
  | rebound _ talks fine ih =>
    obtain ⟨room, spare⟩ := ih.budget counted
    obtain ⟨-, ended⟩ :=
      (rebindNetworkPaths_within _ ih.tracked room spare).sound talks fine
    obtain ⟨tracked, localIps, implicitPath⟩ := ended _ rfl
    exact ⟨tracked, localIps.trans ih.localIps, implicitPath.trans ih.implicitPath⟩

end Budget

/-- **Slots account for every open path.** Whatever the transport answers and whichever paths close
by themselves: during a connect there are never more paths open than the transport was configured
for. After it and after any rebinds in which no open times out and every discard finds another path
open, every open path is the implicit one or that of exactly one slot, the slots have the addresses
of the config, and there are never more paths open during a further rebind. -/
theorem paths_accounted {config : VpnClientProductConfig} {count : UInt32}
    (counted : clientTransientPathCount config.primaryLocalIp.isSome
      config.additionalLocalIps.length = .ok count) :
    (∀ server retries stableId session history rest transport,
      Talks Transport.vanishing (connectVpnClientAddress config server retries stableId session)
        .empty history rest transport → transport.openPaths.card ≤ count.toNat) ∧
    ∀ runtime transport, ClientServes Transport.vanishing LeavesNoPath config runtime transport →
      AccountsForPaths config runtime transport ∧ transport.openPaths.card ≤ count.toNat ∧
      ∀ retries history rest after,
        Talks Transport.vanishing (runtime.rebindNetworkPaths retries) transport history rest
          after →
        (∀ exchange ∈ history, LeavesNoPath exchange) → after.openPaths.card ≤ count.toNat := by
  constructor
  · intro server retries stableId session history rest transport talks
    exact (connect_talks (pathsToOpen_budget counted) talks).1
  · intro runtime transport serves
    have connects := serves.connects counted
    obtain ⟨room, spare⟩ := connects.budget counted
    refine ⟨connects.accounts, connects.tracked.card_le.trans room, ?_⟩
    intro retries history rest after talks fine
    exact ((rebindNetworkPaths_within retries connects.tracked room spare).sound talks fine).1

/-! A client with one local address. -/

def exampleLocalIp : IpAddr := .v4 ⟨0xc0000207⟩

def exampleServerAddr : IpAddr × UInt16 := (.v4 ⟨0xc6336401⟩, 4433)

def exampleOneAddress : VpnClientProductConfig where
  server := "vpn.example:4433"
  serverName := "vpn.example"
  serverCaDer := "ca.der"
  certificateDer := "client.der"
  privateKeyDer := "client.key"
  tunName := "fwvpn0"
  tunMtu := 1400
  maxDatagramLen := 1200
  expectedClientIpv4 := none
  expectedServerIpv4 := none
  expectedClientIpv6 := none
  expectedServerIpv6 := none
  allowedDestinations := []
  limits := .default
  globalReassemblyBytes := 1
  globalInflightPackets := 1
  primaryLocalIp := some exampleLocalIp
  additionalLocalIps := []

/-- Its first connection: the path 0 is that of its slot. -/
def exampleRuntime : VpnClientProductEndpointRuntime where
  connection := some (1, 1)
  localAddr := (exampleLocalIp, 40000)
  bindIp := exampleLocalIp
  serverAddr := exampleServerAddr
  configuredPaths := [⟨exampleLocalIp, 0⟩]
  implicitPath := none
  socketGeneration := 0
  establishedPathCount := 1

def exampleConnected : Transport := empty.openPath 0 exampleLocalIp

/-- After the path 0 has been replaced by the path 1. -/
def exampleMoved : Transport := (exampleConnected.openPath 1 exampleLocalIp).shut 0

theorem exampleRuntime_serves (partner : PathPartner)
    (does : partner.Does = Does)
    (allowed : PathExchange → Prop) :
    ClientServes partner allowed exampleOneAddress exampleRuntime exampleConnected := by
  have talks : Talks partner
      (connectVpnClientAddress exampleOneAddress exampleServerAddr (fun _ => 0) 1 1) .empty
      [⟨.empty, .bindEndpoint exampleLocalIp, .ok (exampleLocalIp, 40000)⟩,
        ⟨.empty, .connect exampleLocalIp exampleServerAddr, .ok true⟩]
      (.done (.ok exampleRuntime)) exampleConnected := by
    refine .exchange ?_ (.exchange ?_ (.refl _ _))
    · rw [does]; rfl
    · rw [does]; exact ⟨by decide, rfl⟩
  exact .connected talks

/-- The rebind opens the path 1, closes the path 0 and waits for the end of the latter. -/
def exampleRebind (events : List PathEventItem) : PathHistory :=
  [⟨exampleConnected, .rebindSocket exampleLocalIp true, .ok (exampleLocalIp, 40001)⟩,
    ⟨exampleConnected, .path 0, true⟩,
    ⟨exampleConnected, .ping 0, true⟩,
    ⟨exampleConnected, .openPath exampleServerAddr exampleLocalIp, .ok 1⟩,
    ⟨exampleConnected.openPath 1 exampleLocalIp, .networkPath 1, some (some exampleLocalIp)⟩,
    ⟨exampleConnected.openPath 1 exampleLocalIp, .path 0, true⟩,
    ⟨exampleConnected.openPath 1 exampleLocalIp, .closePath 0, .ok ()⟩,
    ⟨exampleMoved, .pathEvents 0, events⟩]

/-- The runtime after it, with a path in its slot. -/
def exampleRebound (path : PathId) : VpnClientProductEndpointRuntime :=
  { exampleRuntime with
    localAddr := (exampleLocalIp, 40001)
    socketGeneration := 1
    configuredPaths := [⟨exampleLocalIp, path⟩] }

/-- The wait ends well: the slot has the path 1. -/
theorem exampleRebind_talks (partner : PathPartner) (does : partner.Does = Does) :
    Talks partner (exampleRuntime.rebindNetworkPaths fun _ => 0) exampleConnected
      (exampleRebind [.abandoned 0])
      (.done (exampleRebound 1, .ok ⟨1, 1, 1, false, [⟨0, 0, 1, true, true⟩]⟩)) exampleMoved := by
  refine .exchange ?_ (.exchange ?_ (.exchange ?_ (.exchange ?_ (.exchange ?_ (.exchange ?_
    (.exchange ?_ (.exchange ?_ (.refl _ _))))))))
  all_goals rw [does]
  exacts [rfl, ⟨by simp, rfl⟩, rfl, ⟨by decide, rfl⟩, rfl, ⟨by simp, rfl⟩, rfl, rfl]

/-- The wait fails and the path 1 is the last one open. The slot has the path 0. -/
def exampleWaitFails : PathHistory := exampleRebind [] ++ [⟨exampleMoved, .discardPath 1, ()⟩]

theorem exampleWaitFails_talks (partner : PathPartner) (does : partner.Does = Does) :
    Talks partner (exampleRuntime.rebindNetworkPaths fun _ => 0) exampleConnected exampleWaitFails
      (.done (exampleRebound 0, .error .pathAbandonTimeout)) exampleMoved := by
  refine .exchange ?_ (.exchange ?_ (.exchange ?_ (.exchange ?_ (.exchange ?_ (.exchange ?_
    (.exchange ?_ (.exchange ?_ (.exchange ?_ (.refl _ _)))))))))
  all_goals rw [does]
  exacts [rfl, ⟨by simp, rfl⟩, rfl, ⟨by decide, rfl⟩, rfl, ⟨by simp, rfl⟩, rfl, rfl, rfl]

theorem paths_accounted_example :
    AccountsForPaths exampleOneAddress (exampleRebound 1) exampleMoved ∧
      exampleMoved.openPaths.card ≤ 2 := by
  have counted : clientTransientPathCount exampleOneAddress.primaryLocalIp.isSome
      exampleOneAddress.additionalLocalIps.length = .ok 2 := rfl
  have serves := exampleRuntime_serves vanishing rfl LeavesNoPath
  have rebound := serves.rebound (exampleRebind_talks vanishing rfl)
    (by simp [exampleRebind, LeavesNoPath])
  obtain ⟨accounts, few, -⟩ := (paths_accounted counted).2 _ _ rebound
  exact ⟨accounts, few⟩

/-- After a single rebind the only open path is one that no slot records. -/
theorem discard_refused_leaks :
    ∃ runtime transport,
      ClientServes Transport.vanishing (fun _ => True) exampleOneAddress runtime transport ∧
        ¬ AccountsForPaths exampleOneAddress runtime transport := by
  refine ⟨_, _, .rebound (exampleRuntime_serves vanishing rfl _)
    (exampleWaitFails_talks vanishing rfl) fun _ _ => trivial, fun accounts => ?_⟩
  rcases accounts.recorded 1 (by decide) with implicit | ⟨slot, recorded, -⟩
  · cases implicit
  · exact absurd recorded (by decide +revert)

end FlowWeave.Vpn
