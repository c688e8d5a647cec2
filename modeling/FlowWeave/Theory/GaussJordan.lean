/-
# Theory.GaussJordan — matrix inversion by elimination on an augmented matrix

A matrix is a list of rows. `invert` writes the unit matrix to the right of the given one,
makes the left half the unit matrix column by column (find a row with an entry that is not
zero, swap it up, scale it, subtract multiples of it from all other rows) and answers the
right half. A row of the augmented matrix is read as the linear equation `eval row z = 0`
between the coordinates of `z`, and no step changes the solutions of the equations
(`Eliminated.solves_iff`). At the start they say `M x = y`, at the end `x = N y`, so the
answer inverts the matrix (`invert_solves`). A column without a pivot is a combination of
the unit columns before it, which is a vector other than zero that the matrix sends to zero:
a matrix without one has an inverse (`invert_isSome`).
-/
import Mathlib.Data.List.GetD
import Mathlib.Tactic.Ring

namespace FlowWeave.Theory.GaussJordan

open List

set_option autoImplicit false

variable {F : Type} [Field F]

/-! ## Rows as linear forms -/

/-- The value of a row at a vector; a row is zero beyond its end. -/
def eval : List F → (ℕ → F) → F
  | [], _ => 0
  | value :: row, z => value * z 0 + eval row fun i => z (i + 1)

/-- The product of a row and a column. -/
def dot (row column : List F) : F := (zipWith (· * ·) row column).sum

theorem eval_map_mul (row : List F) (factor : F) (z : ℕ → F) :
    eval (row.map (· * factor)) z = eval row z * factor := by
  induction row generalizing z with
  | nil => simp [eval]
  | cons value row ih =>
    rw [map_cons, eval, eval, ih]
    ring

variable {row : List F} {index count size : ℕ} {rows inverse : List (List F)}

theorem eval_sub_multiple {pivot : List F} (same : row.length = pivot.length) (factor : F)
    (z : ℕ → F) :
    eval (zipWith (fun value pivotValue => value - factor * pivotValue) row pivot) z =
      eval row z - factor * eval pivot z := by
  induction row generalizing pivot z with
  | nil =>
    rw [length_nil] at same
    rw [eq_nil_of_length_eq_zero same.symm]
    simp [eval]
  | cons value row ih =>
    cases pivot with
    | nil => simp at same
    | cons pivotValue pivot =>
      rw [zipWith_cons_cons, eval, eval, eval, ih (by simpa using same)]
      ring

theorem eval_append (front back : List F) (z : ℕ → F) :
    eval (front ++ back) z = eval front z + eval back fun i => z (front.length + i) := by
  induction front generalizing z with
  | nil => simp [eval]
  | cons value front ih =>
    rw [cons_append, eval, eval, ih]
    simp only [length_cons, Nat.add_right_comm _ _ 1, add_assoc]

theorem eval_zero (row : List F) : eval row (fun _ => 0) = 0 := by
  induction row with
  | nil => rfl
  | cons value row ih => rw [eval, ih, mul_zero, add_zero]

/-- The value at a unit vector is the entry. -/
theorem eval_unit (row : List F) (column : ℕ) :
    eval row (fun i => if i = column then 1 else 0) = row.getD column 0 := by
  induction row generalizing column with
  | nil => simp [eval]
  | cons value row ih =>
    cases column with
    | zero => simp [eval, eval_zero]
    | succ column => simpa [eval] using ih column

theorem eval_add (row : List F) (z w : ℕ → F) :
    eval row (fun i => z i + w i) = eval row z + eval row w := by
  induction row generalizing z w with
  | nil => simp [eval]
  | cons value row ih =>
    rw [eval, eval, eval, ih]
    ring

/-- A row of the unit matrix picks one coordinate. -/
theorem eval_unitRow (size row : ℕ) (z : ℕ → F) :
    eval ((range size).map fun column => if column = row then 1 else 0) z =
      if row < size then z row else 0 := by
  induction size generalizing row z with
  | zero => rfl
  | succ size ih =>
    rw [range_succ_eq_map, map_cons, map_map, eval]
    cases row with
    | zero =>
      have rest : (range size).map
          ((fun column => if column = 0 then (1 : F) else 0) ∘ Nat.succ) =
          ((range size).map fun _ => (0 : F)).map (· * 0) := by simp [Function.comp_def]
      rw [rest, eval_map_mul]
      simp
    | succ row =>
      have rest : ((fun column => if column = row + 1 then (1 : F) else 0) ∘ Nat.succ) =
          fun column => if column = row then 1 else 0 := by
        funext column
        simp
      rw [rest, ih]
      simp

/-- A row that starts like one of the unit matrix. -/
theorem eval_of_unit_start (long : count ≤ row.length)
    (units : ∀ column < count, row.getD column 0 = if index = column then 1 else 0) (z : ℕ → F) :
    eval row z = (if index < count then z index else 0) +
      eval (row.drop count) fun i => z (count + i) := by
  have start : row.take count =
      (range count).map fun column => if column = index then 1 else 0 := by
    apply ext_getElem (by simp [long])
    intro column below _
    have inside : column < count := by
      rw [length_take] at below
      omega
    have value := units column inside
    rw [getD_eq_getElem _ _ (by omega)] at value
    simp [value, eq_comm]
  conv_lhs => rw [← take_append_drop count row]
  rw [eval_append, start, eval_unitRow]
  simp

theorem eval_getD (row column : List F) : eval row (fun i => column.getD i 0) = dot row column := by
  induction row generalizing column with
  | nil => simp [eval, dot]
  | cons value row ih =>
    cases column with
    | nil => simp [dot, eval_zero]
    | cons coordinate column =>
      have tail := ih column
      simp only [dot, getD_eq_getElem?_getD] at tail
      simp [eval, dot, tail]

theorem eval_neg (row : List F) (z : ℕ → F) : eval row (fun i => -z i) = -eval row z := by
  induction row generalizing z with
  | nil => simp [eval]
  | cons value row ih =>
    rw [eval, eval, ih]
    ring

theorem eval_congr {z w : ℕ → F} (same : ∀ i < row.length, z i = w i) :
    eval row z = eval row w := by
  induction row generalizing z w with
  | nil => rfl
  | cons value row ih =>
    rw [eval, eval, same 0 (by simp), ih fun i inside => same (i + 1) (by simpa using inside)]

/-! ## Elimination -/

/-- Row `index` of a matrix. -/
def rowAt (rows : List (List F)) (index : ℕ) : List F := rows.getD index []

def entry (rows : List (List F)) (row column : ℕ) : F := (rowAt rows row).getD column 0

def swapRows (rows : List (List F)) (first second : ℕ) : List (List F) :=
  (rows.set first (rowAt rows second)).set second (rowAt rows first)

theorem entry_eq_eval (rows : List (List F)) (row column : ℕ) :
    entry rows row column = eval (rowAt rows row) fun i => if i = column then 1 else 0 :=
  (eval_unit _ _).symm

omit [Field F] in
theorem rowAt_swapRows {first second : ℕ} (one : first < rows.length) (two : second < rows.length)
    (index : ℕ) :
    rowAt (swapRows rows first second) index =
      rowAt rows (if index = second then first else if index = first then second else index) := by
  unfold swapRows rowAt
  simp only [getD_eq_getElem?_getD, getElem?_set, length_set]
  by_cases atSecond : index = second
  · simp [atSecond, two]
  · by_cases atFirst : index = first
    · have other : first ≠ second := fun same => atSecond (atFirst.trans same)
      simp [atFirst, one, other, other.symm]
    · simp [atFirst, atSecond, Ne.symm atFirst, Ne.symm atSecond]

omit [Field F] in
theorem rowAt_modify {column : ℕ} (inside : column < rows.length) (change : List F → List F)
    (index : ℕ) :
    rowAt (rows.modify column change) index =
      if index = column then change (rowAt rows column) else rowAt rows index := by
  unfold rowAt
  simp only [getD_eq_getElem?_getD, getElem?_modify]
  by_cases same : index = column
  · simp [same, inside]
  · simp [same, Ne.symm same]

variable [DecidableEq F]

/-- Subtract from every other row the multiple of the pivot row that clears `column`. -/
def clearColumn (rows : List (List F)) (column : ℕ) : List (List F) :=
  rows.mapIdx fun index row =>
    if index = column then row
    else
      let factor := row.getD column 0
      if factor = 0 then row
      else zipWith (fun value pivotValue => value - factor * pivotValue) row
        (rowAt rows column)

def eliminateColumn (size : ℕ) (rows : List (List F)) (column : ℕ) : Option (List (List F)) := do
  let pivot ← (range' column (size - column)).find? fun row => entry rows row column ≠ 0
  let swapped := swapRows rows column pivot
  let scaled := swapped.modify column fun row => row.map (· * (entry swapped column column)⁻¹)
  some (clearColumn scaled column)

def augment (matrix : List (List F)) : List (List F) :=
  matrix.mapIdx fun index row =>
    row ++ (range matrix.length).map fun column => if column = index then 1 else 0

/-- The inverse of a square matrix, if every column has a pivot. -/
def invert (matrix : List (List F)) : Option (List (List F)) :=
  if matrix.length = 0 ∨ matrix.any (fun row => row.length ≠ matrix.length) then none
  else do
    let reduced ← (range matrix.length).foldlM (eliminateColumn matrix.length)
      (augment matrix)
    some (reduced.map (·.drop matrix.length))

/-- All rows have `width` entries. -/
structure Shaped (size width : ℕ) (rows : List (List F)) : Prop where
  length : rows.length = size
  width : ∀ index < size, (rowAt rows index).length = width

/-- What one column step does, as equations between linear forms: row `pivot` is scaled and
moved to `column`, and every other row loses its entry in `column`. -/
structure Eliminated (size column : ℕ) (before after : List (List F)) (pivot : ℕ) : Prop where
  low : column ≤ pivot
  high : pivot < size
  nonzero : entry before pivot column ≠ 0
  scaled : ∀ z, eval (rowAt after column) z =
    eval (rowAt before pivot) z * (entry before pivot column)⁻¹
  cleared : ∀ index < size, index ≠ column → ∀ z,
    eval (rowAt after index) z =
      eval (rowAt before (if index = pivot then column else index)) z -
        entry before (if index = pivot then column else index) column *
          eval (rowAt after column) z

theorem rowAt_clearColumn (inside : index < rows.length) (column : ℕ) :
    rowAt (clearColumn rows column) index =
      if index = column then rowAt rows index
      else if entry rows index column = 0 then rowAt rows index
      else zipWith (fun value pivotValue => value - entry rows index column * pivotValue)
        (rowAt rows index) (rowAt rows column) := by
  have read : rows[index]? = some (rowAt rows index) := by
    simp [rowAt, getD_eq_getElem?_getD, inside]
  conv_lhs =>
    rw [rowAt, clearColumn, getD_eq_getElem?_getD, getElem?_mapIdx, read]
  rfl

/-- The step read off its definition, one row operation at a time. -/
theorem eliminateColumn_spec {width column : ℕ} {before after : List (List F)}
    (shape : Shaped size width before) (inside : column < size)
    (step : eliminateColumn size before column = some after) :
    Shaped size width after ∧ ∃ pivot, Eliminated size column before after pivot := by
  simp only [eliminateColumn, Option.bind_eq_bind, Option.bind_eq_some_iff,
    Option.some.injEq] at step
  obtain ⟨pivot, found, rfl⟩ := step
  have member := mem_of_find?_eq_some found
  rw [mem_range'_1] at member
  have low : column ≤ pivot := member.1
  have high : pivot < size := by omega
  have nonzero : entry before pivot column ≠ 0 := by simpa using find?_some found
  set swapped := swapRows before column pivot with swappedDef
  have swappedRow := rowAt_swapRows (shape.length.symm ▸ inside) (shape.length.symm ▸ high)
  have swappedLength : swapped.length = size := by simp [swappedDef, swapRows, shape.length]
  have swappedPivot : rowAt swapped column = rowAt before pivot := by
    rw [swappedDef, swappedRow]
    by_cases same : column = pivot <;> simp [same]
  have swappedEntry : entry swapped column column = entry before pivot column := by
    rw [entry, entry, swappedPivot]
  set factor := (entry swapped column column)⁻¹ with factorDef
  set scaled := swapped.modify column fun row => row.map (· * factor) with scaledDef
  have scaledRow := rowAt_modify (swappedLength.symm ▸ inside) fun row => row.map (· * factor)
  have scaledLength : scaled.length = size := by simp [scaledDef, swappedLength]
  have swappedWidth : ∀ index < size, (rowAt swapped index).length = width := by
    intro index below
    rw [swappedDef, swappedRow]
    apply shape.width
    split <;> [exact inside; (split <;> [exact high; exact below])]
  have scaledWidth : ∀ index < size, (rowAt scaled index).length = width := by
    intro index below
    rw [scaledDef, scaledRow]
    split
    · rw [length_map, swappedWidth column inside]
    · exact swappedWidth index below
  have clearedRow := fun index (below : index < size) =>
    rowAt_clearColumn (scaledLength.symm ▸ below) column
  have pivotRow : rowAt (clearColumn scaled column) column =
      (rowAt before pivot).map (· * factor) := by
    rw [clearedRow column inside, if_pos rfl, scaledDef, scaledRow, if_pos rfl, swappedPivot]
  have otherRow : ∀ index, index ≠ column → rowAt scaled index =
      rowAt before (if index = pivot then column else index) := by
    intro index other
    rw [scaledDef, scaledRow, if_neg other, swappedDef, swappedRow, if_neg other]
  refine ⟨⟨by simp [clearColumn, scaledLength], ?_⟩, pivot, low, high, nonzero, ?_, ?_⟩
  · intro index below
    rw [clearedRow index below]
    split
    · exact scaledWidth index below
    · split
      · exact scaledWidth index below
      · rw [length_zipWith, scaledWidth index below, scaledWidth column inside, min_self]
  · intro z
    rw [pivotRow, eval_map_mul, factorDef, swappedEntry]
  · intro index below other z
    have column_eq : rowAt (clearColumn scaled column) column = rowAt scaled column := by
      rw [clearedRow column inside, if_pos rfl]
    have entry_eq : entry scaled index column =
        entry before (if index = pivot then column else index) column := by
      rw [entry, otherRow index other, entry]
    rw [clearedRow index below, if_neg other, column_eq, ← entry_eq, ← otherRow index other]
    split
    · rename_i zero
      rw [zero, zero_mul, sub_zero]
    · rw [eval_sub_multiple]
      rw [scaledWidth index below, scaledWidth column inside]

/-! ## Solutions -/

/-- `z` solves the equations of all rows. -/
def Solves (size : ℕ) (rows : List (List F)) (z : ℕ → F) : Prop :=
  ∀ index < size, eval (rowAt rows index) z = 0

/-- The first `count` columns are those of the unit matrix. -/
def Reduced (size count : ℕ) (rows : List (List F)) : Prop :=
  ∀ row < size, ∀ column < count, entry rows row column = if row = column then 1 else 0

variable {size column pivot : ℕ} {before after : List (List F)}

omit [DecidableEq F] in
theorem Eliminated.solves_iff (step : Eliminated size column before after pivot)
    (inside : column < size) (z : ℕ → F) : Solves size after z ↔ Solves size before z := by
  constructor
  · intro solved
    have pivotSolved : eval (rowAt before pivot) z = 0 := by
      have scaled := step.scaled z
      rw [solved column inside] at scaled
      exact (mul_eq_zero.mp scaled.symm).resolve_right (inv_ne_zero step.nonzero)
    intro index below
    by_cases atPivot : index = pivot
    · rw [atPivot, pivotSolved]
    · -- the row now stands where it stood, or in the place of the pivot
      have moved : ∃ place < size, place ≠ column ∧
          (if place = pivot then column else place) = index := by
        by_cases atColumn : index = column
        · exact ⟨pivot, step.high, fun same => atPivot (atColumn.trans same.symm),
            by rw [if_pos rfl, atColumn]⟩
        · exact ⟨index, below, atColumn, if_neg atPivot⟩
      obtain ⟨place, placeBelow, other, same⟩ := moved
      have cleared := step.cleared place placeBelow other z
      rw [same, solved place placeBelow, solved column inside, mul_zero, sub_zero] at cleared
      exact cleared.symm
  · intro solved
    have columnSolved : eval (rowAt after column) z = 0 := by
      rw [step.scaled, solved pivot step.high, zero_mul]
    intro index below
    by_cases atColumn : index = column
    · rw [atColumn, columnSolved]
    · rw [step.cleared index below atColumn, columnSolved, mul_zero, sub_zero]
      apply solved
      split
      · exact inside
      · exact below

omit [DecidableEq F] in
theorem Eliminated.reduced (step : Eliminated size column before after pivot)
    (inside : column < size) (reduced : Reduced size column before) :
    Reduced size (column + 1) after := by
  have pivotEntry : ∀ other < column + 1,
      entry after column other = if column = other then 1 else 0 := by
    intro other below
    rw [entry_eq_eval, step.scaled, ← entry_eq_eval]
    by_cases same : other = column
    · rw [same, mul_inv_cancel₀ step.nonzero, if_pos rfl]
    · have low := step.low
      rw [reduced pivot step.high other (by omega), if_neg (by omega), zero_mul, if_neg (by omega)]
  intro row below other otherBelow
  by_cases atColumn : row = column
  · rw [atColumn]
    exact pivotEntry other otherBelow
  · rw [entry_eq_eval, step.cleared row below atColumn, ← entry_eq_eval, ← entry_eq_eval,
      pivotEntry other otherBelow]
    by_cases same : other = column
    · rw [same, if_pos rfl, mul_one, sub_self, if_neg atColumn]
    · have earlier : other < column := by omega
      rw [if_neg (Ne.symm same), mul_zero, sub_zero]
      split
      · rename_i atPivot
        have low := step.low
        rw [reduced column inside other earlier, if_neg (by omega), if_neg (by omega)]
      · exact reduced row below other earlier

/-- The columns `0 .. count` were eliminated. -/
structure Progress (size count : ℕ) (start rows : List (List F)) : Prop where
  shape : Shaped size (size + size) rows
  reduced : Reduced size count rows
  solves_iff : ∀ z, Solves size rows z ↔ Solves size start z

theorem progress_foldlM {start : List (List F)} (shape : Shaped size (size + size) start)
    (few : count ≤ size) (run : (range count).foldlM (eliminateColumn size) start = some rows) :
    Progress size count start rows := by
  induction count generalizing rows with
  | zero =>
    rw [range_zero, foldlM_nil] at run
    obtain rfl : start = rows := Option.some.inj run
    exact ⟨shape, fun _ _ _ below => absurd below (Nat.not_lt_zero _), fun _ => Iff.rfl⟩
  | succ count ih =>
    rw [range_succ, foldlM_append] at run
    obtain ⟨middle, earlier, last⟩ := Option.bind_eq_some_iff.mp run
    rw [foldlM_cons] at last
    obtain ⟨final, step, same⟩ := Option.bind_eq_some_iff.mp last
    rw [foldlM_nil] at same
    obtain rfl : final = rows := Option.some.inj same
    have progress := ih (by omega) earlier
    obtain ⟨newShape, pivot, eliminated⟩ := eliminateColumn_spec progress.shape few step
    exact ⟨newShape, eliminated.reduced few progress.reduced, fun z =>
      (eliminated.solves_iff few z).trans (progress.solves_iff z)⟩

/-- A run that stops does so at a column without a pivot. -/
theorem stuck_of_foldlM_none {start : List (List F)}
    (run : (range count).foldlM (eliminateColumn size) start = none) :
    ∃ column < count, ∃ rows, (range column).foldlM (eliminateColumn size) start = some rows ∧
      ∀ row, column ≤ row → row < size → entry rows row column = 0 := by
  induction count with
  | zero => simp at run
  | succ count ih =>
    rw [range_succ, foldlM_append] at run
    rcases Option.bind_eq_none_iff.mp run with stuck
    cases earlier : (range count).foldlM (eliminateColumn size) start with
    | none =>
      obtain ⟨column, below, rest⟩ := ih earlier
      exact ⟨column, by omega, rest⟩
    | some rows =>
      refine ⟨count, by omega, rows, earlier, ?_⟩
      have step := stuck rows earlier
      rw [foldlM_cons] at step
      have none : eliminateColumn size rows count = none := by
        cases result : eliminateColumn size rows count with
        | none => rfl
        | some _ => simp [result] at step
      intro row low high
      simp only [eliminateColumn, Option.bind_eq_bind, Option.bind_eq_none_iff,
        reduceCtorEq, imp_false] at none
      by_contra nonzero
      have found : ((range' count (size - count)).find?
          fun row => entry rows row count ≠ 0).isSome := by
        rw [find?_isSome]
        exact ⟨row, mem_range'_1.mpr ⟨low, by omega⟩, by simpa using nonzero⟩
      obtain ⟨pivot, found⟩ := Option.isSome_iff_exists.mp found
      exact none pivot found

/-! ## Inversion -/

/-- A square matrix. -/
def Square (matrix : List (List F)) : Prop := ∀ row ∈ matrix, row.length = matrix.length

variable {matrix : List (List F)}

omit [Field F] [DecidableEq F] in
theorem Square.width (square : Square matrix) (below : index < matrix.length) :
    (rowAt matrix index).length = matrix.length := by
  apply square
  rw [rowAt, getD_eq_getElem _ _ below]
  exact getElem_mem below

omit [DecidableEq F] in
theorem rowAt_augment (below : index < matrix.length) :
    rowAt (augment matrix) index = rowAt matrix index ++
      (range matrix.length).map fun column => if column = index then 1 else 0 := by
  simp [rowAt, augment, getD_eq_getElem?_getD, below]

omit [DecidableEq F] in
theorem Square.augment_shaped (square : Square matrix) :
    Shaped matrix.length (matrix.length + matrix.length) (augment matrix) := by
  refine ⟨by simp [augment], fun index below => ?_⟩
  rw [rowAt_augment below, length_append, square.width below, length_map,
    length_range]

omit [DecidableEq F] in
theorem Square.eval_augment (square : Square matrix) (below : index < matrix.length) (z : ℕ → F) :
    eval (rowAt (augment matrix) index) z =
      eval (rowAt matrix index) z + z (matrix.length + index) := by
  rw [rowAt_augment below, eval_append, eval_unitRow, if_pos below, square.width below]

theorem invert_eq_some (inverted : invert matrix = some inverse) :
    Square matrix ∧ ∃ reduced,
      Progress matrix.length matrix.length (augment matrix) reduced ∧
      inverse = reduced.map (·.drop matrix.length) := by
  unfold invert at inverted
  split at inverted
  · cases inverted
  · rename_i checked
    have square : Square matrix := by
      intro row member
      by_contra other
      exact checked (Or.inr (any_eq_true.mpr ⟨row, member, by simpa using other⟩))
    obtain ⟨reduced, run, same⟩ := Option.bind_eq_some_iff.mp inverted
    exact ⟨square, reduced, progress_foldlM square.augment_shaped le_rfl run,
      (Option.some.inj same).symm⟩

/-- The vector of the equations `M x = y` read off the rows of an augmented matrix. -/
def joined (size : ℕ) (x y : List F) (i : ℕ) : F :=
  if i < size then x.getD i 0 else -y.getD (i - size) 0

omit [DecidableEq F] in
theorem eval_joined_left (short : row.length ≤ size) (x y : List F) :
    eval row (joined size x y) = dot row x := by
  rw [← eval_getD]
  apply eval_congr
  intro i below
  exact if_pos (by omega)

omit [DecidableEq F] in
theorem eval_joined_right (size : ℕ) (row x y : List F) :
    eval row (fun i => joined size x y (size + i)) = -dot row y := by
  have negated : (fun i => joined size x y (size + i)) = fun i => -y.getD i 0 := by
    funext i
    simp [joined]
  rw [negated, eval_neg, eval_getD]

omit [DecidableEq F] in
theorem map_eq_iff {column values : List F} (length : rows.length = size)
    (same : values.length = size) :
    rows.map (dot · column) = values ↔
      ∀ index < size, dot (rowAt rows index) column = values.getD index 0 := by
  constructor
  · rintro rfl index below
    have inside : index < rows.length := length.symm ▸ below
    simp [rowAt, getD_eq_getElem?_getD, inside]
  · intro equal
    apply ext_getElem (by simp [length, same])
    intro index below below'
    have value := equal index (same ▸ below')
    rw [rowAt, getD_eq_getElem _ _ (by simpa using below),
      getD_eq_getElem _ _ below'] at value
    simpa using value

/-- **The answer is the inverse.** `M x = y` exactly when `x = N y`. -/
theorem invert_solves (inverted : invert matrix = some inverse) {x y : List F}
    (xLength : x.length = matrix.length) (yLength : y.length = matrix.length) :
    matrix.map (dot · x) = y ↔ inverse.map (dot · y) = x := by
  obtain ⟨square, reduced, progress, rfl⟩ := invert_eq_some inverted
  set size := matrix.length with sizeDef
  have start : Solves size (augment matrix) (joined size x y) ↔ matrix.map (dot · x) = y := by
    rw [map_eq_iff rfl yLength]
    refine forall₂_congr fun index below => ?_
    have coordinate : joined size x y (size + index) = -y.getD index 0 := by simp [joined]
    rw [square.eval_augment below, eval_joined_left (square.width below).le, coordinate,
      ← sub_eq_add_neg, sub_eq_zero]
  have final : Solves size reduced (joined size x y) ↔
      (reduced.map (·.drop size)).map (dot · y) = x := by
    rw [map_eq_iff (by simp [progress.shape.length]) xLength]
    refine forall₂_congr fun index below => ?_
    have width := progress.shape.width index below
    have row : rowAt (reduced.map (·.drop size)) index = (rowAt reduced index).drop size := by
      have inside : index < reduced.length := progress.shape.length.symm ▸ below
      simp [rowAt, getD_eq_getElem?_getD, inside]
    have coordinate : joined size x y index = x.getD index 0 := if_pos below
    rw [eval_of_unit_start (by omega) (progress.reduced index below), if_pos below,
      eval_joined_right, coordinate, row, ← sub_eq_add_neg, sub_eq_zero, eq_comm]
  rw [← start, ← progress.solves_iff, final]

theorem invert_shaped (inverted : invert matrix = some inverse) :
    Shaped matrix.length matrix.length inverse := by
  obtain ⟨-, reduced, progress, rfl⟩ := invert_eq_some inverted
  refine ⟨by rw [length_map, progress.shape.length], fun index below => ?_⟩
  have inside : index < reduced.length := progress.shape.length.symm ▸ below
  have width := progress.shape.width index below
  rw [rowAt, getD_eq_getElem _ _ inside] at width
  simp [rowAt, getD_eq_getElem?_getD, inside, width]

/-- **A matrix that sends only zero to zero has an inverse.** -/
theorem invert_isSome (square : Square matrix) (nonempty : matrix ≠ [])
    (kernel : ∀ x : List F, x.length = matrix.length → (∀ row ∈ matrix, dot row x = 0) →
      ∀ value ∈ x, value = 0) : (invert matrix).isSome := by
  rw [Option.isSome_iff_ne_none]
  intro failed
  have checked : ¬(matrix.length = 0 ∨
      matrix.any (fun row => row.length ≠ matrix.length) = true) := by
    rintro (empty | other)
    · exact nonempty (eq_nil_of_length_eq_zero empty)
    · obtain ⟨row, member, wrong⟩ := any_eq_true.mp other
      exact of_decide_eq_true wrong (square row member)
  have run : (range matrix.length).foldlM (eliminateColumn matrix.length)
      (augment matrix) = none := by
    rw [invert, if_neg checked] at failed
    cases result : (range matrix.length).foldlM (eliminateColumn matrix.length)
        (augment matrix) with
    | none => rfl
    | some _ => simp [result] at failed
  obtain ⟨column, below, rows, earlier, stuck⟩ := stuck_of_foldlM_none run
  have progress := progress_foldlM square.augment_shaped below.le earlier
  -- the stuck column, as a combination of the unit columns before it
  let combination : ℕ → F := fun i => if i < column then -entry rows i column else 0
  let z : ℕ → F := fun i => (if i = column then 1 else 0) + combination i
  have beyond : ∀ i, column < i → z i = 0 := by
    intro i later
    simp [z, combination, later.ne', Nat.not_lt.mpr later.le]
  have solvesRows : Solves matrix.length rows z := by
    intro index inside
    have tail : eval ((rowAt rows index).drop column) (fun i => combination (column + i)) = 0 := by
      have zeros : (fun i => combination (column + i)) = fun _ => 0 := by
        funext i
        simp [combination]
      rw [zeros, eval_zero]
    have width := progress.shape.width index inside
    rw [eval_add, eval_unit, eval_of_unit_start (by omega) (progress.reduced index inside), tail,
      add_zero]
    show entry rows index column + _ = 0
    by_cases early : index < column
    · simp [early, combination]
    · simp [early, stuck index (by omega) inside]
  have solves := (progress.solves_iff z).mp solvesRows
  have zero := kernel ((range matrix.length).map z) (by simp) (by
    intro row member
    obtain ⟨index, inside, rfl⟩ := getElem_of_mem member
    have equation := solves index inside
    rw [square.eval_augment inside, beyond _ (by omega), add_zero] at equation
    have read : rowAt matrix index = matrix[index] := getD_eq_getElem _ _ inside
    rw [← eval_getD, ← read]
    rw [← equation]
    apply eval_congr
    intro i short
    rw [square.width inside] at short
    simp [short])
  have one : z column = 0 := zero _ (mem_map.mpr ⟨column, by simpa using below, rfl⟩)
  simp [z, combination] at one

end FlowWeave.Theory.GaussJordan
