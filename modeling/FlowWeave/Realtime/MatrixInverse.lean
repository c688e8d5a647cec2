/-
# Realtime.MatrixInverse — inverting the coefficients of the lost shards

`invertGfMatrix` is Gauss-Jordan elimination on bytes; it computes what the elimination over
the field `Gf256` computes (`invertGfMatrix_eq`), so `Theory.GaussJordan` says what it
answers: the inverse, exactly when there is one (`invertGfMatrix_exact`). `chooseRows` lists
the choices of as many global rows as shards are lost. Every choice is an arithmetic
progression in `{0, 1, 2}`, and squaring is injective in characteristic two, so the matrix of
every choice is a matrix of powers with an inverse (`invert_coefficientMatrix`).
-/
import FlowWeave.Realtime.Payload
import FlowWeave.Theory.MatrixRows

namespace FlowWeave.Realtime

open Theory GaussJordan List
open Theory.GaussJordan (rowAt swapRows dot invert eliminateColumn powers progression)

set_option autoImplicit false

/-! ## Matrix inversion -/

/-- One round of the loop of `invertGfMatrix`. -/
def eliminateGfColumn (size : Nat) (augmented : List (List UInt8)) (column : Nat) :
    Option (List (List UInt8)) := do
  let pivot ← (range' column (size - column)).find? fun row =>
    (rowAt augmented row).getD column 0 ≠ 0
  let swapped := swapRows augmented column pivot
  let inversePivot ← (gfDiv 1 ((rowAt swapped column).getD column 0)).toOption
  let scaled := swapped.modify column fun row => row.map (gfMul · inversePivot)
  let pivotValues := rowAt scaled column
  some (scaled.mapIdx fun rowIndex rowValues =>
    if rowIndex = column then rowValues
    else
      let factor := rowValues.getD column 0
      if factor = 0 then rowValues
      else zipWith (fun value pivotValue => value ^^^ gfMul factor pivotValue) rowValues
        pivotValues)

def invertGfMatrix (matrix : List (List UInt8)) : Option (List (List UInt8)) :=
  let size := matrix.length
  if size = 0 ∨ matrix.any (fun row => row.length ≠ size) then none
  else do
    let augmented := matrix.mapIdx fun rowIndex row =>
      row ++ (range size).map fun column => if column = rowIndex then 1 else 0
    let reduced ← (range size).foldlM (eliminateGfColumn size) augmented
    some (reduced.map (·.drop size))

/-- A row of bytes as one over the field. -/
def gfRow (row : List UInt8) : List Gf256 := row

theorem gfRow_eq_map (row : List UInt8) : gfRow row = row.map gf := (map_id row).symm

/-- A matrix of bytes as one over the field. -/
def gfRows (rows : List (List UInt8)) : List (List Gf256) := rows

variable {size count : Nat} {rows missing : List Nat}

theorem eliminateColumn_length {column : Nat} {before after : List (List Gf256)}
    (step : eliminateColumn size before column = some after) : after.length = before.length := by
  simp only [eliminateColumn, Option.bind_eq_bind, Option.bind_eq_some_iff,
    Option.some.injEq] at step
  obtain ⟨pivot, -, rfl⟩ := step
  simp [clearColumn, swapRows]

theorem eliminateGfColumn_eq {column : Nat} {rows : List (List UInt8)} (length : rows.length = size)
    (inside : column < size) :
    eliminateGfColumn size rows column = eliminateColumn size (gfRows rows) column := by
  unfold eliminateGfColumn eliminateColumn
  cases found : (range' column (size - column)).find? fun row =>
    (rowAt rows row).getD column 0 ≠ 0 with
  | none =>
    have same : ((range' column (size - column)).find? fun row =>
      entry (gfRows rows) row column ≠ 0) = none := found
    rw [same]
    rfl
  | some pivot =>
    have same : ((range' column (size - column)).find? fun row =>
      entry (gfRows rows) row column ≠ 0) = some pivot := found
    have member := mem_range'_1.mp (mem_of_find?_eq_some found)
    have nonzero : (rowAt rows pivot).getD column 0 ≠ 0 := by
      simpa using find?_some found
    have pivotRow : rowAt (swapRows rows column pivot) column = rowAt rows pivot := by
      rw [rowAt_swapRows (by omega) (by omega)]
      by_cases same : column = pivot <;> simp [same]
    obtain ⟨quotient, divided, value⟩ := gfDiv_ok 1 nonzero
    have inverse : quotient = gf (gfPow ((rowAt rows pivot).getD column 0) 254) := by
      rw [gf_one, one_div] at value
      exact value
    rw [same]
    simp only [Option.bind_eq_bind, Option.bind_some, pivotRow, divided, Except.toOption]
    rw [inverse]
    have entry : entry (swapRows (gfRows rows) column pivot) column column =
        (rowAt rows pivot).getD column 0 := by
      show (rowAt (swapRows rows column pivot) column).getD column 0 = _
      rw [pivotRow]
    rw [entry]
    rfl

theorem foldlM_eliminateGfColumn (few : count ≤ size) {rows : List (List UInt8)}
    (length : rows.length = size) :
    (range count).foldlM (eliminateGfColumn size) rows =
        (range count).foldlM (eliminateColumn size) (gfRows rows) ∧
      ∀ result : List (List UInt8),
        (range count).foldlM (eliminateGfColumn size) rows = some result →
          result.length = size := by
  induction count with
  | zero => exact ⟨rfl, fun result same => (Option.some.inj same) ▸ length⟩
  | succ count ih =>
    obtain ⟨same, lengths⟩ := ih (by omega)
    rw [range_succ, foldlM_append, foldlM_append]
    cases run : (range count).foldlM (eliminateGfColumn size) rows with
    | none =>
      rw [run] at same
      rw [← same]
      exact ⟨rfl, nofun⟩
    | some middle =>
      rw [run] at same
      have middleLength := lengths middle run
      have step := eliminateGfColumn_eq middleLength few
      rw [← same]
      simp only [foldlM_cons, foldlM_nil, Option.bind_eq_bind, Option.bind_some,
        Option.pure_def, Option.bind_fun_some]
      refine ⟨step, fun result final => ?_⟩
      rw [step] at final
      rw [← middleLength]
      exact eliminateColumn_length final

/-- The code inverts as the elimination over the field does. -/
theorem invertGfMatrix_eq (matrix : List (List UInt8)) :
    invertGfMatrix matrix = invert (gfRows matrix) := by
  by_cases wrong : matrix.length = 0 ∨ matrix.any (fun row => row.length ≠ matrix.length)
  · exact (if_pos wrong).trans (if_pos wrong).symm
  · set augmented : List (List UInt8) := matrix.mapIdx fun rowIndex row =>
      row ++ (range matrix.length).map fun column => if column = rowIndex then 1 else 0
    have code : invertGfMatrix matrix =
        ((range matrix.length).foldlM (eliminateGfColumn matrix.length) augmented).bind
          fun reduced => some (reduced.map (·.drop matrix.length)) := if_neg wrong
    have field : invert (gfRows matrix) =
        ((range matrix.length).foldlM (eliminateColumn matrix.length)
          (gfRows augmented)).bind
          fun reduced => some (reduced.map (·.drop matrix.length)) := if_neg wrong
    rw [code, field, (foldlM_eliminateGfColumn le_rfl (by simp [augmented])).1]
    rfl

/-- The rows of a matrix of bytes, as the code holds them. -/
def byteRows {size : Nat} (matrix : Matrix (Fin size) (Fin size) UInt8) : List (List UInt8) :=
  rowsOf matrix

/-- A matrix of bytes as one over the field whose sum is `^^^` and whose product is `gfMul`. -/
def gfMatrix {size : Nat} (matrix : Matrix (Fin size) (Fin size) UInt8) :
    Matrix (Fin size) (Fin size) Gf256 :=
  matrix.map gf

theorem gfRows_byteRows (matrix : Matrix (Fin size) (Fin size) UInt8) :
    gfRows (byteRows matrix) = rowsOf (gfMatrix matrix) := rfl

theorem exists_gfMatrix (matrix : Matrix (Fin size) (Fin size) Gf256) :
    ∃ bytes : Matrix (Fin size) (Fin size) UInt8, gfMatrix bytes = matrix := ⟨matrix, rfl⟩

/-- **Matrix inversion is correct.** The code answers exactly for the nonsingular matrices,
with the two-sided inverse, and refuses what is empty or not square. -/
theorem invertGfMatrix_exact :
    (∀ (size : Nat) (matrix : Matrix (Fin size) (Fin size) UInt8), 1 ≤ size →
      ((invertGfMatrix (byteRows matrix)).isSome ↔ (gfMatrix matrix).det ≠ 0) ∧
      ∀ answer, invertGfMatrix (byteRows matrix) = some answer →
        ∃ inverse : Matrix (Fin size) (Fin size) UInt8, answer = byteRows inverse ∧
          gfMatrix inverse * gfMatrix matrix = 1 ∧ gfMatrix matrix * gfMatrix inverse = 1) ∧
    ∀ rows : List (List UInt8), (rows = [] ∨ ∃ row ∈ rows, row.length ≠ rows.length) →
      invertGfMatrix rows = none := by
  constructor
  · intro size matrix nonempty
    rw [invertGfMatrix_eq, gfRows_byteRows]
    refine ⟨invert_rowsOf_isSome_iff nonempty, fun answer inverted => ?_⟩
    obtain ⟨nonsingular, rows⟩ := invert_rowsOf inverted
    obtain ⟨inverse, same⟩ := exists_gfMatrix (gfMatrix matrix)⁻¹
    have unit : IsUnit (gfMatrix matrix).det := IsUnit.mk0 _ nonsingular
    refine ⟨inverse, ?_, ?_, ?_⟩
    · rw [rows, ← same]
      exact (gfRows_byteRows inverse).symm
    · rw [same, Matrix.nonsing_inv_mul _ unit]
    · rw [same, Matrix.mul_nonsing_inv _ unit]
  · rintro rows (rfl | ⟨row, member, other⟩)
    · rfl
    · exact if_pos (Or.inr (any_eq_true.mpr ⟨row, member, by simpa using other⟩))

/-- The first pivot is in the second row, so that the rows are swapped. -/
def exampleMatrix : Matrix (Fin 2) (Fin 2) UInt8 := !![0, 2; 3, 7]

theorem invertGfMatrix_exact_example :
    1 ≤ 2 ∧ (gfMatrix exampleMatrix).det ≠ 0 ∧
      (∃ inverse : Matrix (Fin 2) (Fin 2) UInt8,
        invertGfMatrix (byteRows exampleMatrix) = some (byteRows inverse) ∧
        gfMatrix inverse * gfMatrix exampleMatrix = 1) ∧
      invertGfMatrix [[1, 2], [3]] = none := by
  obtain ⟨square, refused⟩ := invertGfMatrix_exact
  obtain ⟨exact, answers⟩ := square 2 exampleMatrix (by decide)
  have answered : (invertGfMatrix (byteRows exampleMatrix)).isSome := by decide +kernel
  refine ⟨by decide, exact.mp answered, ?_, refused _ (Or.inr ⟨[3], by simp, by simp⟩)⟩
  obtain ⟨answer, inverted⟩ := Option.isSome_iff_exists.mp answered
  obtain ⟨inverse, rfl, left, -⟩ := answers answer inverted
  exact ⟨inverse, inverted, left⟩

/-! ## Choosing rows -/

/-- The loop of `visit` in `chooseRows`: `rows` are the rows from `start` on. -/
def visitRows (count : Nat) : List Nat → List Nat → List (List Nat)
  | [], _ => []
  | row :: rows, current =>
    (if (current ++ [row]).length = count then [current ++ [row]]
      else visitRows count rows (current ++ [row])) ++
    visitRows count rows current

/-- All choices of `count` of the rows, in order. -/
def chooseRows (rows : List Nat) (count : Nat) : List (List Nat) :=
  if ([] : List Nat).length = count then [[]] else visitRows count rows []

theorem mem_visitRows {current chosen : List Nat} (member : chosen ∈ visitRows count rows current) :
    chosen.length = count ∧ ∃ picked, picked.Sublist rows ∧ chosen = current ++ picked := by
  induction rows generalizing current with
  | nil => simp [visitRows] at member
  | cons row rows ih =>
    rw [visitRows, mem_append] at member
    rcases member with first | rest
    · split at first
      · rename_i full
        rw [mem_singleton] at first
        exact ⟨first ▸ full, [row], (nil_sublist rows).cons_cons row, first⟩
      · obtain ⟨full, picked, sub, same⟩ := ih first
        exact ⟨full, row :: picked, sub.cons_cons row, by rw [same, append_assoc]; rfl⟩
    · obtain ⟨full, picked, sub, same⟩ := ih rest
      exact ⟨full, picked, sub.cons row, same⟩

theorem mem_chooseRows {chosen : List Nat} (member : chosen ∈ chooseRows rows count) :
    chosen.length = count ∧ chosen.Sublist rows := by
  unfold chooseRows at member
  split at member
  · rename_i zero
    rw [mem_singleton] at member
    exact ⟨member ▸ zero, member ▸ nil_sublist rows⟩
  · obtain ⟨full, picked, sub, same⟩ := mem_visitRows member
    rw [nil_append] at same
    exact ⟨full, same ▸ sub⟩

theorem visitRows_ne_nil {current : List Nat} (room : current.length < count)
    (enough : count ≤ current.length + rows.length) : visitRows count rows current ≠ [] := by
  induction rows generalizing current with
  | nil =>
    rw [length_nil] at enough
    omega
  | cons row rows ih =>
    rw [visitRows]
    apply append_ne_nil_of_left_ne_nil
    split
    · simp
    · rename_i more
      rw [length_append, length_singleton] at more
      rw [length_cons] at enough
      apply ih <;> rw [length_append, length_singleton] <;> omega

theorem chooseRows_ne_nil (enough : count ≤ rows.length) : chooseRows rows count ≠ [] := by
  unfold chooseRows
  split
  · simp
  · rename_i some
    rw [length_nil] at some
    exact visitRows_ne_nil (by rw [length_nil]; omega) (by rw [length_nil]; omega)

/-! ## The matrices of the choices -/

/-- The coefficients of the missing slots in the chosen rows. -/
def coefficientMatrix (missing rows : List Nat) : List (List UInt8) :=
  rows.map fun row => missing.map fun slot => rowCoefficient row slot

theorem progression_of_sublist (sub : rows.Sublist [0, 1, 2]) (nonempty : rows ≠ []) :
    ∃ start step, (step = 1 ∨ step = 2) ∧ rows = progression start step rows.length := by
  have all : ∀ rows ∈ [0, 1, 2].sublists, rows ≠ [] →
      ∃ start ∈ range 3, ∃ step ∈ [1, 2], rows = progression start step rows.length := by
    decide
  obtain ⟨start, -, step, choice, same⟩ := all rows (mem_sublists.mpr sub) nonempty
  exact ⟨start, step, by simpa using choice, same⟩

theorem Gf256.pow_two_injective {a b : Gf256} (same : a ^ 2 = b ^ 2) : a = b := by
  have square : (a + b) ^ 2 = 0 := by rw [pow_two_add, same, add_self]
  have sum : a + b = 0 := pow_eq_zero_iff (two_ne_zero) |>.mp square
  exact sub_eq_zero.mp sum

theorem gfRows_coefficientMatrix (small : ∀ row ∈ rows, row < v12GlobalParities) :
    gfRows (coefficientMatrix missing rows) =
      powers (missing.map fun slot => gf (globalCoefficient slot)) rows := by
  show map _ rows = map _ rows
  apply map_congr_left
  intro row member
  show (missing.map fun slot => rowCoefficient row slot) = _
  rw [map_map]
  apply map_congr_left
  intro slot _
  exact gf_rowCoefficient (small row member) slot

/-- **Every choice of rows has an inverse.** -/
theorem invert_coefficientMatrix (distinct : missing.Nodup)
    (inside : ∀ slot ∈ missing, slot < v12DataShards) (nonempty : missing ≠ [])
    (sub : rows.Sublist [0, 1, 2]) (length : rows.length = missing.length) :
    (invertGfMatrix (coefficientMatrix missing rows)).isSome := by
  have small : ∀ row ∈ rows, row < v12GlobalParities := by
    intro row member
    have choice := sub.subset member
    simp only [mem_cons, not_mem_nil, or_false] at choice
    simp only [v12GlobalParities]
    omega
  have rowsNonempty : rows ≠ [] := by
    rintro rfl
    exact nonempty (eq_nil_of_length_eq_zero length.symm)
  obtain ⟨start, step, difference, same⟩ := progression_of_sublist sub rowsNonempty
  set nodes := missing.map fun slot => gf (globalCoefficient slot) with nodesDef
  have powersDistinct : (nodes.map (· ^ step)).Nodup := by
    rw [nodesDef, map_map]
    apply distinct.map_on
    intro first one second two equal
    have coefficients : gf (globalCoefficient first) = gf (globalCoefficient second) := by
      rcases difference with rfl | rfl
      · simpa using equal
      · exact Gf256.pow_two_injective equal
    exact globalCoefficient_injective (inside first one) (inside second two) coefficients
  rw [invertGfMatrix_eq, gfRows_coefficientMatrix small, same, length,
    show missing.length = nodes.length by simp [nodesDef]]
  apply invert_powers_isSome
  · simpa [nodesDef] using nonempty
  · intro node member
    obtain ⟨slot, -, rfl⟩ := mem_map.mp member
    exact globalCoefficient_ne_zero slot
  · exact powersDistinct

/-- The inverse undoes the coefficients. -/
theorem dot_inverse {inverse : List (List UInt8)} (small : ∀ row ∈ rows, row < v12GlobalParities)
    (length : rows.length = missing.length)
    (inverted : invertGfMatrix (coefficientMatrix missing rows) = some inverse) (x : Nat → Gf256)
    {index : Nat} (inside : index < missing.length) :
    dot (gfRow (inverse.getD index [])) (rows.map fun row =>
        (missing.map fun slot => gf (globalCoefficient slot) ^ row * x slot).sum) =
      x missing[index] := by
  rw [invertGfMatrix_eq] at inverted
  have size : (gfRows (coefficientMatrix missing rows)).length = rows.length :=
    List.length_map _
  set values := rows.map fun row =>
    (missing.map fun slot => gf (globalCoefficient slot) ^ row * x slot).sum
  have solved : (gfRows inverse).map (dot · values) = missing.map x := by
    apply (invert_solves inverted (by simp [size, length])
      (by simp [size, values])).mp
    rw [gfRows_coefficientMatrix small, powers, List.map_map]
    apply List.map_congr_left
    intro row _
    simp [dot, List.zipWith_map]
  have inverseLength : (gfRows inverse).length = missing.length := by
    simpa using congrArg List.length solved
  have entry := (map_eq_iff inverseLength (by simp)).mp solved index inside
  rw [List.getD_eq_getElem _ _ (by simpa using inside), List.getElem_map] at entry
  exact entry

end FlowWeave.Realtime
