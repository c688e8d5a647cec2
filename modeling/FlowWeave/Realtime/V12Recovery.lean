/-
# Realtime.V12Recovery — recovering the lost shards of a C v12 block

A block stores what was received of it. `recoverV12Local` restores a shard from the other
shard of its message and their sum. `recoverV12Global` restores up to three shards at once:
it takes the known shards out of as many global parities as shards are missing and multiplies
what is left with the inverse of the coefficients. Both compare the result with what the
sender generates, and a shard that differs is marked as failed and not tried again.

`Carries` says that everything stored belongs to one block of forty shards, whatever these
contain. Then every choice of rows gives exactly the missing shards (`attemptV12Rows_exact`).
For the shards the sender generates the comparison therefore always succeeds: recovery stores
only shards of the sender and never marks one as failed (`recoverV12Local_spec`,
`recoverV12Global_spec`).
-/
import FlowWeave.Realtime.Frame
import FlowWeave.Realtime.MatrixInverse
import FlowWeave.Theory.Slots

namespace FlowWeave.Realtime

open Theory Theory.MachineInt
open Theory.GaussJordan (dot)

set_option autoImplicit false

inductive V12ShardSource where
  | systematic
  | localParity
  | globalParity
  deriving DecidableEq, Repr

structure V12ReceivedShard where
  payload : V12Shard
  availableAt : Instant
  source : V12ShardSource

structure V12BlockState where
  data : Slots v12DataShards V12ReceivedShard
  localParities : Slots v12BlockMessages V12ReceivedShard
  globalParities : Slots v12GlobalParities V12ReceivedShard
  recoveryFailed : Vector Bool v12DataShards
  delivered : Vector Bool v12BlockMessages

namespace V12BlockState

def default : V12BlockState where
  data := Slots.empty
  localParities := Slots.empty
  globalParities := Slots.empty
  recoveryFailed := Vector.replicate _ false
  delivered := Vector.replicate _ false

end V12BlockState

/-! ## Recovery -/

/-- The end of both recoveries for one slot: a shard that is not the sender's is marked, the
sender's is stored. -/
def storeV12Recovered (firstSequence : Nat) (state : V12BlockState × Nat) (slot : Nat)
    (shard : V12ReceivedShard) : V12BlockState × Nat :=
  if shard.payload ≠ makeV12DataShard (UInt32.ofNat firstSequence) slot then
    ({ state.1 with recoveryFailed := raise state.1.recoveryFailed slot },
      saturatingAdd usizeMax state.2 1)
  else ({ state.1 with data := state.1.data.fill slot shard }, state.2)

/-- The missing shard of a message and the known one, if exactly one is missing. -/
def v12HalfMissing (block : V12BlockState) (slot : Nat) : Option (Nat × V12ReceivedShard) :=
  let data0Index := slot * 2
  let data1Index := data0Index + 1
  match block.data.read data0Index, block.data.read data1Index with
  | none, some known => some (data0Index, known)
  | some known, none => some (data1Index, known)
  | _, _ => none

/-- One round of the loop of `recoverV12Local`. -/
def recoverV12LocalSlot (firstSequence : Nat) (state : V12BlockState × Nat) (slot : Nat) :
    V12BlockState × Nat :=
  match state.1.localParities.read slot, v12HalfMissing state.1 slot with
  | some parity, some (missing, known) =>
    if flag state.1.recoveryFailed missing then state
    else
      storeV12Recovered firstSequence state missing {
        payload := xorV12Shards parity.payload known.payload
        availableAt := max parity.availableAt known.availableAt
        source := .localParity }
  | _, _ => state

/-- The block after the recovery and the number of shards that failed. -/
def recoverV12Local (block : V12BlockState) (firstSequence : Nat) : V12BlockState × Nat :=
  (List.range v12BlockMessages).foldl (recoverV12LocalSlot firstSequence) (block, 0)

/-- The later of the times so far, if any, and one more. -/
def latest (sofar : Option Instant) (next : Instant) : Option Instant :=
  some (sofar.elim next (max · next))

/-- What is left of the parity of a row without the shards that are not missing. -/
def v12Residual (block : V12BlockState) (missing : List Nat) (availableAt : Option Instant)
    (row : Nat) : Option (V12Shard × Option Instant) := do
  let parity ← block.globalParities.read row
  (List.range v12DataShards).foldlM
    (fun state slot =>
      if slot ∈ missing then some state
      else do
        let shard ← block.data.read slot
        some (addScaled state.1 (rowCoefficient row slot) shard.payload,
          latest state.2 shard.availableAt))
    (parity.payload, latest availableAt parity.availableAt)

def v12Residuals (block : V12BlockState) (missing rows : List Nat) :
    Option (List V12Shard × Option Instant) :=
  rows.foldlM
    (fun state row => do
      let residual ← v12Residual block missing state.2 row
      some (state.1 ++ [residual.1], residual.2))
    ([], none)

/-- One payload: the residuals with the coefficients of a row of the inverse. -/
def combineResiduals (coefficients : List UInt8) (residuals : List V12Shard) : V12Shard :=
  (coefficients.zip residuals).foldl (fun payload pair => addScaled payload pair.1 pair.2)
    zeroBytes

/-- How one choice of rows ends: the loop goes on with the next choice, the function returns,
or the missing payloads are known. -/
inductive V12Attempt where
  | singular
  | incomplete
  | recovered (payloads : List V12Shard) (availableAt : Instant)

/-- The body of the loop of `recoverV12Global`. -/
def attemptV12Rows (block : V12BlockState) (missing rows : List Nat) : V12Attempt :=
  match invertGfMatrix (coefficientMatrix missing rows) with
  | none => .singular
  | some inverse =>
    match v12Residuals block missing rows with
    | some (residuals, some availableAt) =>
      .recovered ((List.range missing.length).map fun slotIndex =>
        combineResiduals (inverse.getD slotIndex []) residuals) availableAt
    | _ => .incomplete

/-- The first choice of rows that is not singular. -/
def firstV12Attempt (block : V12BlockState) (missing : List Nat) : List (List Nat) → V12Attempt
  | [] => .singular
  | rows :: rest =>
    match attemptV12Rows block missing rows with
    | .singular => firstV12Attempt block missing rest
    | result => result

/-- The global rows that were received. -/
def V12BlockState.availableRows (block : V12BlockState) : List Nat :=
  (List.range v12GlobalParities).filter fun row => (block.globalParities.read row).isSome

def recoverV12Global (block : V12BlockState) (firstSequence : Nat) : V12BlockState × Nat :=
  let missing := block.data.missing
  if missing = [] ∨ missing.length > v12GlobalParities ∨
      missing.any (fun slot => flag block.recoveryFailed slot) then
    (block, 0)
  else if block.availableRows.length < missing.length then (block, 0)
  else
    match firstV12Attempt block missing (chooseRows block.availableRows missing.length) with
    | .recovered payloads availableAt =>
      (missing.zip payloads).foldl
        (fun state pair => storeV12Recovered firstSequence state pair.1
          { payload := pair.2, availableAt, source := .globalParity })
        (block, 0)
    | _ => (block, 0)

/-! ## Exactness -/

/-- All that is stored belongs to the block with these data shards. -/
structure V12BlockState.Carries (shards : Nat → V12Shard) (block : V12BlockState) : Prop where
  data : block.data.Holds fun slot shard => shard.payload = shards slot
  locals : block.localParities.Holds fun slot shard =>
    shard.payload = xorV12Shards (shards (slot * 2)) (shards (slot * 2 + 1))
  globals : block.globalParities.Holds fun row shard =>
    (makeV12GlobalParities shards)[row]? = some shard.payload

variable {shards : Nat → V12Shard} {block : V12BlockState}

theorem lane_combineResiduals (coefficients : List UInt8) (residuals : List V12Shard)
    (position : Fin v12ShardSize) :
    lane (combineResiduals coefficients residuals) position =
      dot (gfRow coefficients) (residuals.map (lane · position)) := by
  rw [combineResiduals, lane_foldl_addScaled (coefficients.zip residuals) Prod.fst Prod.snd,
    lane_zeroBytes, zero_add, gfRow_eq_map, dot, List.zipWith_map, List.map_zip_eq_zipWith]
  rfl

section Attempts

variable (carries : block.Carries shards)

include carries

/-- A residual is the part of the missing shards in the parity. -/
theorem v12Residual_spec {row : Nat} (present : row ∈ block.availableRows)
    (sofar : Option Instant) :
    ∃ residual availableAt,
      v12Residual block block.data.missing sofar row = some (residual, some availableAt) ∧
      ∀ position, lane residual position =
        (block.data.missing.map fun slot =>
          gf (globalCoefficient slot) ^ row * lane (shards slot) position).sum := by
  obtain ⟨below, found⟩ := List.mem_filter.mp present
  have small : row < v12GlobalParities := List.mem_range.mp below
  obtain ⟨parity, found⟩ := Option.isSome_iff_exists.mp found
  have payload : parity.payload = v12Parity shards row := by
    have stored : (makeV12GlobalParities shards)[row]? = some parity.payload :=
      carries.globals row parity found
    rw [makeV12GlobalParities_getElem? shards small] at stored
    exact (Option.some.inj stored).symm
  -- the known shards are taken out of the parity one after another
  obtain ⟨⟨residual, time⟩, run, known, lanes⟩ := block.data.foldlM_known
    (· ∈ block.data.missing)
    (fun state slot shard =>
      (addScaled state.1 (rowCoefficient row slot) shard.payload,
        latest state.2 shard.availableAt))
    (fun done state => state.2.isSome ∧ ∀ position, lane state.1 position =
      lane parity.payload position + (done.map fun slot =>
        gf (globalCoefficient slot) ^ row * lane (shards slot) position).sum)
    (fun slot inside => Slots.exists_read inside)
    (fun done state slot shard holds _ read => by
      refine ⟨rfl, fun position => ?_⟩
      rw [lane_addScaled, holds.2, gf_rowCoefficient small, carries.data slot shard read,
        List.map_append, List.sum_append]
      simp [add_assoc])
    (List.range v12DataShards) (fun _ member => List.mem_range.mp member)
    [] (parity.payload, latest sofar parity.availableAt)
    ⟨rfl, fun position => by simp⟩
  obtain ⟨availableAt, rfl⟩ := Option.isSome_iff_exists.mp known
  refine ⟨residual, availableAt, ?_, fun position => ?_⟩
  · rw [v12Residual, found]
    exact run
  · rw [lanes, payload, lane_v12Parity shards small, block.data.sum_eq_missing_add_known,
      add_assoc, List.nil_append]
    rw [Gf256.add_self, add_zero]

theorem v12Residuals_spec {rows : List Nat} (present : ∀ row ∈ rows, row ∈ block.availableRows)
    (nonempty : rows ≠ []) :
    ∃ residuals availableAt,
      v12Residuals block block.data.missing rows = some (residuals, some availableAt) ∧
      ∀ position, residuals.map (lane · position) = rows.map fun row =>
        (block.data.missing.map fun slot =>
          gf (globalCoefficient slot) ^ row * lane (shards slot) position).sum := by
  have fold : ∀ (rows : List Nat) (state : List V12Shard × Option Instant),
      (∀ row ∈ rows, row ∈ block.availableRows) →
      ∃ result, rows.foldlM
          (fun state row => do
            let residual ← v12Residual block block.data.missing state.2 row
            some (state.1 ++ [residual.1], residual.2)) state = some result ∧
        (rows ≠ [] ∨ state.2.isSome → result.2.isSome) ∧
        ∀ position, result.1.map (lane · position) = state.1.map (lane · position) ++
          rows.map fun row => (block.data.missing.map fun slot =>
            gf (globalCoefficient slot) ^ row * lane (shards slot) position).sum := by
    intro rows
    induction rows with
    | nil => exact fun state _ => ⟨state, rfl, by simp, fun position => by simp⟩
    | cons row rows ih =>
      intro state present
      obtain ⟨residual, availableAt, step, lanes⟩ :=
        v12Residual_spec carries (present row List.mem_cons_self) state.2
      obtain ⟨result, run, known, rest⟩ := ih (state.1 ++ [residual], some availableAt)
        fun other member => present other (List.mem_cons_of_mem _ member)
      refine ⟨result, ?_, fun _ => known (Or.inr rfl), fun position => ?_⟩
      · rw [List.foldlM_cons, step]
        exact run
      · rw [rest]
        simp [lanes]
  obtain ⟨⟨residuals, time⟩, run, known, lanes⟩ := fold rows ([], none) present
  obtain ⟨availableAt, rfl⟩ := Option.isSome_iff_exists.mp (known (Or.inl nonempty))
  exact ⟨residuals, availableAt, run, fun position => by simpa using lanes position⟩

/-- **Every choice of rows gives exactly the missing shards**, whatever they contain. -/
theorem attemptV12Rows_exact (lost : block.data.missing ≠ []) {rows : List Nat}
    (chosen : rows ∈ chooseRows block.availableRows block.data.missing.length) :
    (invertGfMatrix (coefficientMatrix block.data.missing rows)).isSome ∧
      ∃ availableAt, attemptV12Rows block block.data.missing rows =
        .recovered (block.data.missing.map shards) availableAt := by
  set missing := block.data.missing with missingDef
  obtain ⟨length, sub⟩ := mem_chooseRows chosen
  have present : ∀ row ∈ rows, row ∈ block.availableRows := fun row member => sub.subset member
  have small : ∀ row ∈ rows, row < v12GlobalParities := fun row member =>
    List.mem_range.mp (List.mem_filter.mp (present row member)).1
  have rowsNonempty : rows ≠ [] := by
    rintro rfl
    exact lost (List.eq_nil_of_length_eq_zero length.symm)
  have invertible := invert_coefficientMatrix block.data.missing_nodup
    (fun slot member => (Slots.mem_missing.mp member).1) lost
    (sub.trans List.filter_sublist) length
  refine ⟨invertible, ?_⟩
  obtain ⟨inverse, inverted⟩ := Option.isSome_iff_exists.mp invertible
  obtain ⟨residuals, availableAt, run, lanes⟩ := v12Residuals_spec carries present rowsNonempty
  refine ⟨availableAt, ?_⟩
  have payloads : ((List.range missing.length).map fun slotIndex =>
      combineResiduals (inverse.getD slotIndex []) residuals) = missing.map shards := by
    apply List.ext_getElem (by simp)
    intro index below _
    have inside : index < missing.length := by simpa using below
    rw [List.getElem_map, List.getElem_range, List.getElem_map]
    apply lane_ext
    intro position
    rw [lane_combineResiduals, lanes position]
    exact dot_inverse small length inverted (fun slot => lane (shards slot) position) inside
  rw [attemptV12Rows, inverted, run, ← payloads]

theorem firstV12Attempt_exact (lost : block.data.missing ≠ [])
    (enough : block.data.missing.length ≤ block.availableRows.length) :
    ∃ rows rest availableAt,
      chooseRows block.availableRows block.data.missing.length = rows :: rest ∧
      attemptV12Rows block block.data.missing rows =
        .recovered (block.data.missing.map shards) availableAt ∧
      firstV12Attempt block block.data.missing (rows :: rest) =
        .recovered (block.data.missing.map shards) availableAt := by
  obtain ⟨rows, rest, choices⟩ := List.exists_cons_of_ne_nil (chooseRows_ne_nil enough)
  obtain ⟨-, availableAt, attempt⟩ := attemptV12Rows_exact carries lost
    (choices ▸ List.mem_cons_self : rows ∈ _)
  exact ⟨rows, rest, availableAt, choices, attempt, by rw [firstV12Attempt, attempt]⟩

end Attempts

/-! ## Recovery of what the sender sent -/

/-- A recovery stored shards of the sender and did nothing else to the block. -/
structure V12BlockState.Restores (firstSequence : Nat) (before after : V12BlockState) : Prop where
  carries : after.Carries (sentV12Shards firstSequence)
  failed : after.recoveryFailed = before.recoveryFailed
  delivered : after.delivered = before.delivered

variable {firstSequence : Nat} {before after : V12BlockState}

theorem V12BlockState.Carries.restores (carries : block.Carries (sentV12Shards firstSequence)) :
    block.Restores firstSequence block := ⟨carries, rfl, rfl⟩

theorem storeV12Recovered_spec (errors slot : Nat) (shard : V12ReceivedShard)
    (restores : before.Restores firstSequence after)
    (right : shard.payload = sentV12Shards firstSequence slot) :
    storeV12Recovered firstSequence (after, errors) slot shard =
        ({ after with data := after.data.fill slot shard }, errors) ∧
      before.Restores firstSequence { after with data := after.data.fill slot shard } := by
  refine ⟨if_neg (not_not.mpr right), ⟨?_, restores.carries.locals, restores.carries.globals⟩,
    restores.failed, restores.delivered⟩
  exact restores.carries.data.fill right

/-- Storing the missing shards of the sender one after another. -/
theorem foldl_storeV12Recovered (availableAt : Instant) (slots : List Nat)
    (state : V12BlockState × Nat) (inside : ∀ slot ∈ slots, slot < v12DataShards)
    (restores : before.Restores firstSequence state.1) :
    let result := (slots.zip (slots.map (sentV12Shards firstSequence))).foldl
      (fun state pair => storeV12Recovered firstSequence state pair.1
        { payload := pair.2, availableAt, source := .globalParity }) state
    result.2 = state.2 ∧ before.Restores firstSequence result.1 ∧
      ∀ slot, result.1.data.read slot = none →
        slot ∉ slots ∧ state.1.data.read slot = none := by
  induction slots generalizing state with
  | nil => exact ⟨rfl, restores, fun slot absent => ⟨List.not_mem_nil, absent⟩⟩
  | cons slot slots ih =>
    obtain ⟨stored, restored⟩ := storeV12Recovered_spec state.2 slot
      ⟨sentV12Shards firstSequence slot, availableAt, .globalParity⟩ restores rfl
    rw [List.map_cons, List.zip_cons_cons, List.foldl_cons, stored]
    obtain ⟨errors, final, absent⟩ := ih (_, state.2)
      (fun other member => inside other (List.mem_cons_of_mem _ member)) restored
    refine ⟨errors, final, fun other none => ?_⟩
    obtain ⟨notIn, unread⟩ := absent other none
    rw [Slots.read_fill (inside slot List.mem_cons_self)] at unread
    split at unread
    · cases unread
    · rename_i different
      exact ⟨by simp [notIn, Ne.symm different], unread⟩

section Recovery

variable (carries : block.Carries (sentV12Shards firstSequence))

include carries

/-- A shard restored from the other half of its message is the sender's. -/
theorem xor_of_v12HalfMissing {slot missing : Nat} {parity known : V12ReceivedShard}
    (stored : block.localParities.read slot = some parity)
    (half : v12HalfMissing block slot = some (missing, known)) :
    xorV12Shards parity.payload known.payload = sentV12Shards firstSequence missing := by
  have sum : parity.payload = xorV12Shards (sentV12Shards firstSequence (slot * 2))
      (sentV12Shards firstSequence (slot * 2 + 1)) := carries.locals slot parity stored
  simp only [v12HalfMissing] at half
  split at half
  · rename_i _ _ found
    cases half
    have second : known.payload = sentV12Shards firstSequence (slot * 2 + 1) :=
      carries.data _ _ found
    rw [sum, second]
    exact xorBytes_cancel _ _
  · rename_i _ found _
    cases half
    have first : known.payload = sentV12Shards firstSequence (slot * 2) := carries.data _ _ found
    rw [sum, first, xorV12Shards, xorV12Shards, xorBytes_comm (sentV12Shards _ _)]
    exact xorBytes_cancel _ _
  · cases half

theorem recoverV12Local_spec :
    (recoverV12Local block firstSequence).2 = 0 ∧
      block.Restores firstSequence (recoverV12Local block firstSequence).1 := by
  have rounds : ∀ (slots : List Nat) (state : V12BlockState × Nat),
      state.2 = 0 ∧ block.Restores firstSequence state.1 →
      (slots.foldl (recoverV12LocalSlot firstSequence) state).2 = 0 ∧
        block.Restores firstSequence (slots.foldl (recoverV12LocalSlot firstSequence) state).1 := by
    intro slots
    induction slots with
    | nil => exact fun _ holds => holds
    | cons slot slots ih =>
      rintro ⟨after, errors⟩ ⟨zero, restores⟩
      apply ih
      unfold recoverV12LocalSlot
      split
      · rename_i parity missing known stored half
        split
        · exact ⟨zero, restores⟩
        · obtain ⟨result, restored⟩ := storeV12Recovered_spec errors missing
            ⟨xorV12Shards parity.payload known.payload,
              max parity.availableAt known.availableAt, .localParity⟩
            restores (xor_of_v12HalfMissing restores.carries stored half)
          rw [result]
          exact ⟨zero, restored⟩
      · exact ⟨zero, restores⟩
  exact rounds _ (block, 0) ⟨rfl, carries.restores⟩

theorem recoverV12Global_spec :
    (recoverV12Global block firstSequence).2 = 0 ∧
      block.Restores firstSequence (recoverV12Global block firstSequence).1 := by
  unfold recoverV12Global
  simp only
  split
  · exact ⟨rfl, carries.restores⟩
  · rename_i proceeds
    split
    · exact ⟨rfl, carries.restores⟩
    · rename_i enough
      obtain ⟨rows, rest, availableAt, choices, -, attempt⟩ := firstV12Attempt_exact carries
        (fun none => proceeds (Or.inl none)) (by omega)
      rw [choices, attempt]
      obtain ⟨errors, restored, -⟩ := foldl_storeV12Recovered availableAt block.data.missing
        (block, 0) (fun slot member => (Slots.mem_missing.mp member).1) carries.restores
      exact ⟨errors, restored⟩

/-- A recovery that goes ahead leaves no shard missing. -/
theorem recoverV12Global_complete (few : block.data.missing.length ≤ v12GlobalParities)
    (unmarked : ∀ slot ∈ block.data.missing, flag block.recoveryFailed slot = false)
    (enough : block.data.missing.length ≤ block.availableRows.length) :
    (recoverV12Global block firstSequence).1.data.missing = [] := by
  by_cases lost : block.data.missing = []
  · have same : (recoverV12Global block firstSequence).1 = block := by
      simp [recoverV12Global, lost]
    rw [same, lost]
  · have proceeds : ¬(block.data.missing = [] ∨
        block.data.missing.length > v12GlobalParities ∨
        block.data.missing.any (fun slot => flag block.recoveryFailed slot) = true) := by
      rintro (none | many | marked)
      · exact lost none
      · omega
      · obtain ⟨slot, member, raised⟩ := List.any_eq_true.mp marked
        rw [unmarked slot member] at raised
        cases raised
    obtain ⟨rows, rest, availableAt, choices, -, attempt⟩ :=
      firstV12Attempt_exact carries lost enough
    obtain ⟨-, -, absent⟩ := foldl_storeV12Recovered availableAt block.data.missing (block, 0)
      (fun slot member => (Slots.mem_missing.mp member).1) carries.restores
    rw [List.eq_nil_iff_forall_not_mem]
    intro slot member
    rw [Slots.mem_missing] at member
    simp only [recoverV12Global, if_neg proceeds, if_neg (Nat.not_lt.mpr enough), choices,
      attempt] at member
    obtain ⟨notMissing, unread⟩ := absent slot member.2
    exact notMissing (Slots.mem_missing.mpr ⟨member.1, unread⟩)

end Recovery

/-- **C v12 erasure decoding is exact.** Whatever the forty data shards contain, for every
choice of as many received global rows as shards are missing the coefficients have an inverse
and the recovery computes the missing shards; the first choice is the one that is used.
Recovery of what the sender sent marks no slot and counts no error, and restores every shard
when at most three are missing and enough rows are there. -/
theorem v12_decoding_exact (shards : Nat → V12Shard) (block : V12BlockState)
    (carries : block.Carries shards) (lost : block.data.missing ≠ [])
    (enough : block.data.missing.length ≤ block.availableRows.length) :
    (∀ rows ∈ chooseRows block.availableRows block.data.missing.length,
      (invertGfMatrix (coefficientMatrix block.data.missing rows)).isSome ∧
        ∃ availableAt, attemptV12Rows block block.data.missing rows =
          .recovered (block.data.missing.map shards) availableAt) ∧
    (∃ rows rest availableAt,
      chooseRows block.availableRows block.data.missing.length = rows :: rest ∧
        attemptV12Rows block block.data.missing rows =
          .recovered (block.data.missing.map shards) availableAt ∧
        firstV12Attempt block block.data.missing (rows :: rest) =
          .recovered (block.data.missing.map shards) availableAt) ∧
    ∀ (received : V12BlockState) (firstSequence : Nat),
      received.Carries (makeV12BlockDataShards (UInt32.ofNat firstSequence)) →
      (recoverV12Local received firstSequence).2 = 0 ∧
      (recoverV12Local received firstSequence).1.recoveryFailed = received.recoveryFailed ∧
      (recoverV12Global received firstSequence).2 = 0 ∧
      (recoverV12Global received firstSequence).1.recoveryFailed = received.recoveryFailed ∧
      (received.data.missing.length ≤ v12GlobalParities →
        received.data.missing.length ≤ received.availableRows.length →
        (∀ slot ∈ received.data.missing, flag received.recoveryFailed slot = false) →
        (recoverV12Global received firstSequence).1.data.missing = [] ∧
        (recoverV12Global received firstSequence).1.Carries
          (makeV12BlockDataShards (UInt32.ofNat firstSequence))) := by
  refine ⟨fun rows chosen => attemptV12Rows_exact carries lost chosen,
    firstV12Attempt_exact carries lost enough, fun received firstSequence sent => ?_⟩
  have sent : received.Carries (sentV12Shards firstSequence) := sent
  obtain ⟨localErrors, localRestores⟩ := recoverV12Local_spec sent
  obtain ⟨globalErrors, globalRestores⟩ := recoverV12Global_spec sent
  exact ⟨localErrors, localRestores.failed, globalErrors, globalRestores.failed,
    fun few present unmarked =>
      ⟨recoverV12Global_complete sent few unmarked present, globalRestores.carries⟩⟩

/-- Forty shards that are all different, of which some are lost. -/
def exampleShards (slot : Nat) : V12Shard := List.Vector.replicate _ (UInt8.ofNat slot)

/-- A block that received all but some data shards, and some rows. -/
def exampleReceived (lost rows : List Nat) : V12BlockState :=
  { V12BlockState.default with
    data := Vector.ofFn fun slot =>
      if slot.val ∈ lost then none else some ⟨exampleShards slot, 7, .systematic⟩
    globalParities := Vector.ofFn fun row =>
      if row.val ∈ rows then some ⟨v12Parity exampleShards row, 9, .systematic⟩ else none }

theorem exampleReceived_carries (lost rows : List Nat) :
    (exampleReceived lost rows).Carries exampleShards := by
  refine ⟨?_, Slots.holds_empty _, ?_⟩
  · intro slot shard found
    have inside := Slots.lt_of_read found
    simp only [exampleReceived, Slots.read, Vector.getElem?_ofFn, inside, dite_true,
      Option.join_some] at found
    split at found
    · cases found
    · rw [← Option.some.inj found]
  · intro row shard found
    have inside := Slots.lt_of_read found
    simp only [exampleReceived, Slots.read, Vector.getElem?_ofFn, inside, dite_true,
      Option.join_some] at found
    split at found
    · rw [← Option.some.inj found]
      exact makeV12GlobalParities_getElem? exampleShards inside
    · cases found

/-- Two lost shards and the rows 0 and 2: the rows whose squares have to be distinct. -/
theorem v12_decoding_exact_example :
    (exampleReceived [3, 17] [0, 2]).data.missing = [3, 17] ∧
      ∃ availableAt, firstV12Attempt (exampleReceived [3, 17] [0, 2]) [3, 17] [[0, 2]] =
        .recovered [exampleShards 3, exampleShards 17] availableAt := by
  have missing : (exampleReceived [3, 17] [0, 2]).data.missing = [3, 17] := by decide +kernel
  have available : (exampleReceived [3, 17] [0, 2]).availableRows = [0, 2] := by decide +kernel
  obtain ⟨-, ⟨rows, rest, availableAt, choices, -, attempt⟩, -⟩ := v12_decoding_exact exampleShards
    (exampleReceived [3, 17] [0, 2]) (exampleReceived_carries _ _) (by rw [missing]; simp)
    (by rw [missing, available]; simp)
  rw [missing, available] at choices
  rw [missing] at attempt
  have chosen : rows :: rest = [[0, 2]] := by
    rw [← choices]
    decide
  rw [chosen] at attempt
  exact ⟨missing, availableAt, attempt⟩

end FlowWeave.Realtime
