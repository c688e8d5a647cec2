/-
# Realtime.V4Recovery — recovering the lost messages of a C v4 block

A block stores the originals, the pair parities and the two global parities that were
received. When one or two originals are missing, the known ones are taken out of the global
parities (`recoverOneGlobal`, `recoverTwoGlobal`). With what the sender sent, whatever it is,
this gives exactly the missing payloads (`v4_recovery_exact`).
-/
import FlowWeave.Realtime.Frame
import FlowWeave.Theory.Slots
import Mathlib.Order.Bounds.Basic
import Mathlib.Tactic.LinearCombination

namespace FlowWeave.Realtime

open Theory

set_option autoImplicit false

structure V4ReceivedSymbol where
  payload : V3Payload
  availableAt : Instant

structure V4BlockState where
  originals : Slots v3BlockMessages V4ReceivedSymbol
  pairParities : Slots v3PairParities V4ReceivedSymbol
  globalParities : Slots v3GlobalParities V4ReceivedSymbol
  recoveryFailed : Vector Bool v3BlockMessages

def V4BlockState.default : V4BlockState where
  originals := Slots.empty
  pairParities := Slots.empty
  globalParities := Slots.empty
  recoveryFailed := Vector.replicate _ false

/-! ## The global parities -/

/-- `gf_div` of every byte. -/
def divideBytes {size : Nat} (bytes : List.Vector UInt8 size) (denominator : UInt8) :
    Except String (List.Vector UInt8 size) :=
  bytes.mmap fun byte => gfDiv byte denominator

/-- The payload of the one missing original, from the first global parity there is. -/
def recoverOneGlobal (block : V4BlockState) (missing : Nat) : Option (V3Payload × Instant) := do
  let parityIndex ← (List.range v3GlobalParities).find? fun index =>
    (block.globalParities.read index).isSome
  let parity ← block.globalParities.read parityIndex
  let (residual, availableAt) ← (List.range v3BlockMessages).foldlM
    (fun state index =>
      if index = missing then some state
      else do
        let symbol ← block.originals.read index
        some (if parityIndex = 0 then xorBytes state.1 symbol.payload
            else addScaled state.1 (globalCoefficient index) symbol.payload,
          max state.2 symbol.availableAt))
    (parity.payload, parity.availableAt)
  if parityIndex = 1 then do
    let residual ← (divideBytes residual (globalCoefficient missing)).toOption
    some (residual, availableAt)
  else some (residual, availableAt)

/-- Two unknowns from their sum and their sum with the coefficients. -/
def recoverTwoMissing (zeroResidual oneResidual : V3Payload) (firstIndex secondIndex : Nat) :
    Except String (V3Payload × V3Payload) :=
  if firstIndex ≥ v3BlockMessages ∨ secondIndex ≥ v3BlockMessages ∨ firstIndex = secondIndex then
    .error "C v3 双消元位置非法"
  else do
    let firstCoefficient := globalCoefficient firstIndex
    let secondCoefficient := globalCoefficient secondIndex
    let denominator := firstCoefficient ^^^ secondCoefficient
    let first ← divideBytes (addScaled oneResidual secondCoefficient zeroResidual) denominator
    .ok (first, xorBytes zeroResidual first)

def recoverTwoGlobal (block : V4BlockState) (first second : Nat) :
    Option ((V3Payload × V3Payload) × Instant) := do
  let zero ← block.globalParities.read 0
  let one ← block.globalParities.read 1
  let (zeroResidual, oneResidual, availableAt) ← (List.range v3BlockMessages).foldlM
    (fun state index =>
      if index = first ∨ index = second then some state
      else do
        let symbol ← block.originals.read index
        some (xorBytes state.1 symbol.payload,
          addScaled state.2.1 (globalCoefficient index) symbol.payload,
          max state.2.2 symbol.availableAt))
    (zero.payload, one.payload, max zero.availableAt one.availableAt)
  let recovered ← (recoverTwoMissing zeroResidual oneResidual first second).toOption
  some (recovered, availableAt)

/-! ## Exactness -/

/-- The payload of a global parity: the plain sum or the sum with the coefficients. -/
def globalV3Parity (payloads : Nat → V3Payload) (row : Nat) : V3Payload :=
  if row = 0 then (makeGlobalParities payloads).1 else (makeGlobalParities payloads).2

/-- The factor of an original in a global parity. -/
def globalFactor (row index : Nat) : Gf256 :=
  if row = 0 then 1 else gf (globalCoefficient index)

theorem lane_globalV3Parity (payloads : Nat → V3Payload) (row : Nat)
    (position : Fin v3LogicalMessageSize) :
    lane (globalV3Parity payloads row) position = ((List.range v3BlockMessages).map fun index =>
      globalFactor row index * lane (payloads index) position).sum := by
  unfold globalV3Parity globalFactor
  split
  · simp only [lane_globalZero, one_mul]
  · exact lane_globalOne payloads position

theorem divideBytes_ok {size : Nat} (bytes : List.Vector UInt8 size) (denominator : UInt8)
    (nonzero : gf denominator ≠ 0) :
    ∃ quotient, divideBytes bytes denominator = .ok quotient ∧
      ∀ position, lane quotient position = lane bytes position / gf denominator := by
  unfold divideBytes
  induction bytes using List.Vector.inductionOn with
  | nil => exact ⟨List.Vector.nil, rfl, fun position => position.elim0⟩
  | cons ih =>
    rename_i byte bytes
    have denominatorNonzero : denominator ≠ 0 := by
      rintro rfl
      exact nonzero gf_zero
    obtain ⟨head, divided, value⟩ := gfDiv_ok byte denominatorNonzero
    obtain ⟨tail, rest, lanes⟩ := ih
    refine ⟨head ::ᵥ tail, ?_, fun position => ?_⟩
    · rw [List.Vector.mmap_cons, divided, rest]
      rfl
    · refine Fin.cases value (fun index => ?_) position
      simpa [lane] using lanes index

variable {payloads : Nat → V3Payload} {block : V4BlockState}

/-- What a global parity is after the originals `done` were taken out. -/
def Residual (payloads : Nat → V3Payload) (row : Nat) (done : List Nat) (residual : V3Payload) :
    Prop :=
  ∀ position, lane residual position = lane (globalV3Parity payloads row) position +
    (done.map fun index => globalFactor row index * lane (payloads index) position).sum

theorem Residual.append {row index : Nat} {done : List Nat} {residual payload : V3Payload}
    (known : Residual payloads row done residual) (same : payload = payloads index) :
    Residual payloads row (done ++ [index]) (if row = 0 then xorBytes residual payload
      else addScaled residual (globalCoefficient index) payload) := by
  intro position
  rw [List.map_append, List.sum_append, ← add_assoc, ← known, same]
  unfold globalFactor
  split <;> simp

/-- Taking the originals that are not skipped out of a global parity leaves the missing ones. -/
theorem Residual.missing {skip : Nat → Prop} [DecidablePred skip]
    (skipped : ∀ index, skip index ↔ index ∈ block.originals.missing) {row : Nat}
    {residual : V3Payload}
    (known : Residual payloads row ((List.range v3BlockMessages).filter (¬skip ·)) residual)
    (position : Fin v3LogicalMessageSize) :
    lane residual position = (block.originals.missing.map fun index =>
      globalFactor row index * lane (payloads index) position).sum := by
  simp only [skipped] at known
  rw [known, lane_globalV3Parity, block.originals.sum_eq_missing_add_known, add_assoc,
    Gf256.add_self, add_zero]

/-! The times: what is recovered is there when the last of what it was made of is there. -/

/-- The receive times of the stored originals among some. -/
def V4BlockState.timesAmong (block : V4BlockState) (indices : List Nat) : Set Instant :=
  { time | ∃ index ∈ indices, ∃ symbol, block.originals.read index = some symbol ∧
    time = symbol.availableAt }

/-- The receive times of all stored originals. -/
def V4BlockState.times (block : V4BlockState) : Set Instant :=
  { time | ∃ index symbol, block.originals.read index = some symbol ∧ time = symbol.availableAt }

theorem timesAmong_append {index : Nat} {symbol : V4ReceivedSymbol}
    (read : block.originals.read index = some symbol) (done : List Nat) :
    block.timesAmong (done ++ [index]) = insert symbol.availableAt (block.timesAmong done) := by
  ext time
  simp only [V4BlockState.timesAmong, List.mem_append, List.mem_singleton, Set.mem_ofPred_eq,
    Set.mem_insert_iff]
  constructor
  · rintro ⟨other, member | rfl, found, there, rfl⟩
    · exact Or.inr ⟨other, member, found, there, rfl⟩
    · exact Or.inl (by rw [Option.some.inj (there.symm.trans read)])
  · rintro (rfl | ⟨other, member, found, there, rfl⟩)
    · exact ⟨index, Or.inr rfl, symbol, read, rfl⟩
    · exact ⟨other, Or.inl member, found, there, rfl⟩

/-- The loops skip what is missing, so they see every stored original. -/
theorem timesAmong_all {skip : Nat → Prop} [DecidablePred skip]
    (skipped : ∀ index, skip index ↔ index ∈ block.originals.missing) :
    block.timesAmong ((List.range v3BlockMessages).filter (¬skip ·)) = block.times := by
  ext time
  simp only [V4BlockState.timesAmong, V4BlockState.times, Set.mem_ofPred_eq, List.mem_filter,
    List.mem_range, skipped, decide_eq_true_eq]
  constructor
  · rintro ⟨index, -, symbol, read, rfl⟩
    exact ⟨index, symbol, read, rfl⟩
  · rintro ⟨index, symbol, read, rfl⟩
    refine ⟨index, ⟨Slots.lt_of_read read, fun missing => ?_⟩, symbol, read, rfl⟩
    rw [(Slots.mem_missing.mp missing).2] at read
    exact absurd read nofun

/-- One more original, and the later of the two times. -/
theorem latest_append {index : Nat} {symbol : V4ReceivedSymbol} {start : Set Instant}
    {done : List Nat} {latest : Instant} (read : block.originals.read index = some symbol)
    (greatest : IsGreatest (start ∪ block.timesAmong done) latest) :
    IsGreatest (start ∪ block.timesAmong (done ++ [index])) (max latest symbol.availableAt) := by
  rw [timesAmong_append read, Set.union_insert, max_comm]
  exact greatest.insert _

theorem timesAmong_nil : block.timesAmong [] = ∅ := by
  simp [V4BlockState.timesAmong]

/-- The stored originals and global parities belong to the block with these payloads. -/
structure V4BlockState.Global (payloads : Nat → V3Payload) (block : V4BlockState) : Prop where
  originals : block.originals.Holds fun slot symbol => symbol.payload = payloads slot
  globals : block.globalParities.Holds fun row symbol =>
    symbol.payload = globalV3Parity payloads row

/-- One global parity is enough for one missing original. -/
theorem recoverOneGlobal_exact (holds : block.Global payloads) {missing : Nat}
    (only : block.originals.missing = [missing]) {row : Nat} {parity : V4ReceivedSymbol}
    (used : ((List.range v3GlobalParities).find? fun index =>
      (block.globalParities.read index).isSome) = some row)
    (stored : block.globalParities.read row = some parity) :
    ∃ availableAt, recoverOneGlobal block missing = some (payloads missing, availableAt) ∧
      IsGreatest ({parity.availableAt} ∪ block.times) availableAt := by
  have skipped : ∀ index, index = missing ↔ index ∈ block.originals.missing := by
    simp [only]
  have below : row < 2 := List.mem_range.mp (List.mem_of_find?_eq_some used)
  have parityPayload : parity.payload = globalV3Parity payloads row :=
    holds.globals row parity stored
  obtain ⟨⟨residual, availableAt⟩, run, lanes, latest⟩ := block.originals.foldlM_known
    (· = missing)
    (fun state index symbol =>
      (if row = 0 then xorBytes state.1 symbol.payload
        else addScaled state.1 (globalCoefficient index) symbol.payload,
        max state.2 symbol.availableAt))
    (fun done state => Residual payloads row done state.1 ∧
      IsGreatest ({parity.availableAt} ∪ block.timesAmong done) state.2)
    (fun index inside other => Slots.exists_read inside fun member =>
      other ((skipped index).mpr member))
    (fun done state index symbol known _ read =>
      ⟨known.1.append (holds.originals index symbol read), latest_append read known.2⟩)
    (List.range v3BlockMessages) (fun _ member => List.mem_range.mp member)
    [] (parity.payload, parity.availableAt)
    ⟨fun position => by simp [parityPayload], by
      rw [timesAmong_nil, Set.union_empty]
      exact isGreatest_singleton⟩
  rw [List.nil_append] at lanes latest
  rw [timesAmong_all skipped] at latest
  have left : ∀ position, lane residual position =
      globalFactor row missing * lane (payloads missing) position := by
    intro position
    rw [lanes.missing skipped, only]
    simp
  refine ⟨availableAt, Option.bind_eq_some_iff.mpr ⟨row, used,
    Option.bind_eq_some_iff.mpr ⟨parity, stored, Option.bind_eq_some_iff.mpr ⟨_, run, ?_⟩⟩⟩,
    latest⟩
  simp only
  split
  · rename_i isOne
    obtain ⟨quotient, divided, value⟩ := divideBytes_ok residual _
      (globalCoefficient_ne_zero missing)
    have same : quotient = payloads missing := by
      apply lane_ext
      intro position
      rw [value, left, globalFactor, if_neg (by omega), mul_div_cancel_left₀]
      exact globalCoefficient_ne_zero missing
    rw [divided, same]
    rfl
  · rename_i notOne
    have same : residual = payloads missing := by
      apply lane_ext
      intro position
      rw [left, globalFactor, if_pos (by omega), one_mul]
    rw [same]

/-- Two equations, two unknowns. -/
theorem recoverTwoMissing_exact (payloads : Nat → V3Payload) {first second : Nat}
    (one : first < v3BlockMessages) (two : second < v3BlockMessages) (different : first ≠ second)
    (zeroResidual oneResidual : V3Payload)
    (zeroLanes : ∀ position, lane zeroResidual position =
      lane (payloads first) position + lane (payloads second) position)
    (oneLanes : ∀ position, lane oneResidual position =
      gf (globalCoefficient first) * lane (payloads first) position +
        gf (globalCoefficient second) * lane (payloads second) position) :
    recoverTwoMissing zeroResidual oneResidual first second =
      .ok (payloads first, payloads second) := by
  have coefficients : gf (globalCoefficient first) + gf (globalCoefficient second) ≠ 0 := by
    intro zero
    rw [← Gf256.sub_eq_add, sub_eq_zero] at zero
    simp only [v3BlockMessages] at one two
    exact different (globalCoefficient_injective (by omega) (by omega) zero)
  obtain ⟨quotient, divided, value⟩ := divideBytes_ok
    (addScaled oneResidual (globalCoefficient second) zeroResidual)
    (globalCoefficient first ^^^ globalCoefficient second) coefficients
  have isFirst : quotient = payloads first := by
    apply lane_ext
    intro position
    rw [value, lane_addScaled, zeroLanes, oneLanes, gf_xor, div_eq_iff coefficients]
    linear_combination Gf256.add_self
      (gf (globalCoefficient second) * lane (payloads second) position)
  have isSecond : xorBytes zeroResidual (payloads first) = payloads second := by
    apply lane_ext
    intro position
    rw [lane_xorBytes, zeroLanes]
    linear_combination Gf256.add_self (lane (payloads first) position)
  unfold recoverTwoMissing
  rw [if_neg (by omega)]
  simp only [divided, isFirst, isSecond, bind, Except.bind]

/-- Both global parities are enough for two missing originals. -/
theorem recoverTwoGlobal_exact (holds : block.Global payloads) {first second : Nat}
    (both : block.originals.missing.Perm [first, second]) {zero one : V4ReceivedSymbol}
    (zeroStored : block.globalParities.read 0 = some zero)
    (oneStored : block.globalParities.read 1 = some one) :
    ∃ availableAt, recoverTwoGlobal block first second =
        some ((payloads first, payloads second), availableAt) ∧
      IsGreatest ({zero.availableAt, one.availableAt} ∪ block.times) availableAt := by
  have skipped : ∀ index, (index = first ∨ index = second) ↔ index ∈ block.originals.missing := by
    simp [both.mem_iff]
  have zeroPayload : zero.payload = globalV3Parity payloads 0 := holds.globals 0 zero zeroStored
  have onePayload : one.payload = globalV3Parity payloads 1 := holds.globals 1 one oneStored
  obtain ⟨⟨zeroResidual, oneResidual, availableAt⟩, run, lanes, latest⟩ :=
    block.originals.foldlM_known
    (fun index => index = first ∨ index = second)
    (fun state index symbol => (xorBytes state.1 symbol.payload,
      addScaled state.2.1 (globalCoefficient index) symbol.payload,
      max state.2.2 symbol.availableAt))
    (fun done state => (Residual payloads 0 done state.1 ∧ Residual payloads 1 done state.2.1) ∧
      IsGreatest ({zero.availableAt, one.availableAt} ∪ block.timesAmong done) state.2.2)
    (fun index inside other => Slots.exists_read inside fun member =>
      other ((skipped index).mpr member))
    (fun done state index symbol known _ read =>
      ⟨⟨known.1.1.append (holds.originals index symbol read),
        known.1.2.append (holds.originals index symbol read)⟩, latest_append read known.2⟩)
    (List.range v3BlockMessages) (fun _ member => List.mem_range.mp member)
    [] (zero.payload, one.payload, max zero.availableAt one.availableAt)
    ⟨⟨fun position => by simp [zeroPayload], fun position => by simp [onePayload]⟩, by
      rw [timesAmong_nil, Set.union_empty]
      exact isGreatest_singleton.insert _⟩
  rw [List.nil_append] at lanes latest
  rw [timesAmong_all skipped] at latest
  have inside : first < v3BlockMessages ∧ second < v3BlockMessages :=
    ⟨(Slots.mem_missing.mp ((skipped first).mp (Or.inl rfl))).1,
      (Slots.mem_missing.mp ((skipped second).mp (Or.inr rfl))).1⟩
  have different : first ≠ second := by
    have nodup := both.nodup_iff.mp block.originals.missing_nodup
    simpa using nodup
  have solved := recoverTwoMissing_exact payloads inside.1 inside.2 different
    zeroResidual oneResidual
    (fun position => by
      rw [lanes.1.missing skipped, (both.map _).sum_eq]
      simp [globalFactor])
    (fun position => by
      rw [lanes.2.missing skipped, (both.map _).sum_eq]
      simp [globalFactor])
  exact ⟨availableAt, Option.bind_eq_some_iff.mpr ⟨zero, zeroStored,
    Option.bind_eq_some_iff.mpr ⟨one, oneStored, Option.bind_eq_some_iff.mpr ⟨_, run,
      Option.bind_eq_some_iff.mpr ⟨_, by rw [solved]; rfl, rfl⟩⟩⟩⟩, latest⟩

/-- **What the global parities restore is what was sent.** Whatever the ten payloads of a block
contain: with one original missing and at least one global parity there, `recoverOneGlobal`
returns the missing payload; with two missing and both parities there, `recoverTwoGlobal`
returns both, in the order asked for. The result is available when the last of the parities
and originals used is. -/
theorem v4_recovery_exact (payloads : Nat → V3Payload) (block : V4BlockState)
    (originals : ∀ slot symbol, block.originals.read slot = some symbol →
      symbol.payload = payloads slot)
    (zeroParity : ∀ symbol, block.globalParities.read 0 = some symbol →
      symbol.payload = (makeGlobalParities payloads).1)
    (oneParity : ∀ symbol, block.globalParities.read 1 = some symbol →
      symbol.payload = (makeGlobalParities payloads).2) :
    (∀ missing parity, block.originals.missing = [missing] →
      (block.globalParities.read 0).or (block.globalParities.read 1) = some parity →
      ∃ availableAt, recoverOneGlobal block missing = some (payloads missing, availableAt) ∧
        IsGreatest ({parity.availableAt} ∪ { time | ∃ index symbol,
          block.originals.read index = some symbol ∧ time = symbol.availableAt }) availableAt) ∧
    ∀ first second zero one, block.originals.missing.Perm [first, second] →
      block.globalParities.read 0 = some zero → block.globalParities.read 1 = some one →
      ∃ availableAt, recoverTwoGlobal block first second =
          some ((payloads first, payloads second), availableAt) ∧
        IsGreatest ({zero.availableAt, one.availableAt} ∪ { time | ∃ index symbol,
          block.originals.read index = some symbol ∧ time = symbol.availableAt })
          availableAt := by
  have holds : block.Global payloads := by
    refine ⟨originals, fun row symbol read => ?_⟩
    have small : row < 2 := Slots.lt_of_read read
    show symbol.payload = globalV3Parity payloads row
    unfold globalV3Parity
    split
    · rename_i zero
      exact zeroParity symbol (zero ▸ read)
    · exact oneParity symbol ((show row = 1 by omega) ▸ read)
  refine ⟨fun missing parity only used => ?_, fun first second zero one both zeroStored oneStored =>
    recoverTwoGlobal_exact holds both zeroStored oneStored⟩
  have rows : List.range v3GlobalParities = [0, 1] := rfl
  cases zeroRead : block.globalParities.read 0 with
  | some zero =>
    rw [zeroRead] at used
    obtain rfl := Option.some.inj used
    exact recoverOneGlobal_exact holds only (by simp [rows, zeroRead]) zeroRead
  | none =>
    rw [zeroRead, Option.none_or] at used
    exact recoverOneGlobal_exact holds only (by simp [rows, zeroRead, used]) used

/-- Ten payloads that no message has. -/
def examplePayloads (slot : Nat) : V3Payload := List.Vector.replicate _ (UInt8.ofNat slot)

/-- A block that received both global parities and all but some originals. -/
def exampleV4Received (lost : List Nat) : V4BlockState :=
  { V4BlockState.default with
    originals := Vector.ofFn fun slot =>
      if slot.val ∈ lost then none else some ⟨examplePayloads slot, slot⟩
    globalParities := Vector.ofFn fun row => some ⟨globalV3Parity examplePayloads row, 20 + row⟩ }

theorem exampleV4Received_originals (lost : List Nat) (slot : Nat) (symbol : V4ReceivedSymbol)
    (found : (exampleV4Received lost).originals.read slot = some symbol) :
    symbol.payload = examplePayloads slot := by
  have inside := Slots.lt_of_read found
  simp only [exampleV4Received, Slots.read, Vector.getElem?_ofFn, inside, dite_true,
    Option.join_some] at found
  split at found
  · cases found
  · rw [← Option.some.inj found]

theorem exampleV4Received_globals (lost : List Nat) {row : Nat} (inside : row < v3GlobalParities) :
    (exampleV4Received lost).globalParities.read row =
      some ⟨globalV3Parity examplePayloads row, 20 + row⟩ := by
  simp [exampleV4Received, Slots.read, inside]

/-- The messages 2 and 7 are lost, and asked for in the other order. -/
theorem v4_recovery_exact_example :
    ∃ availableAt, recoverTwoGlobal (exampleV4Received [2, 7]) 7 2 =
      some ((examplePayloads 7, examplePayloads 2), availableAt) := by
  have zero := exampleV4Received_globals [2, 7] (show 0 < v3GlobalParities by decide)
  have one := exampleV4Received_globals [2, 7] (show 1 < v3GlobalParities by decide)
  have exact := v4_recovery_exact examplePayloads (exampleV4Received [2, 7])
    (exampleV4Received_originals [2, 7])
    (fun symbol read => by rw [← Option.some.inj (zero.symm.trans read)]; rfl)
    (fun symbol read => by rw [← Option.some.inj (one.symm.trans read)]; rfl)
  obtain ⟨availableAt, recovered, -⟩ := exact.2 7 2 _ _ (by decide +kernel) zero one
  exact ⟨availableAt, recovered⟩

end FlowWeave.Realtime
