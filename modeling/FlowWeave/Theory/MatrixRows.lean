/-
# Theory.MatrixRows — elimination on the rows of a matrix computes its inverse

`Theory.GaussJordan` works on lists of rows. Here its results are said of the matrices of
Mathlib: elimination answers for the rows of `M` exactly when the determinant of `M` is not
zero (`invert_rowsOf_isSome_iff`), and then it answers the rows of `M⁻¹` (`invert_rowsOf`).
-/
import FlowWeave.Theory.Vandermonde

namespace FlowWeave.Theory.GaussJordan

open Matrix

set_option autoImplicit false

variable {F : Type} {size : ℕ}

/-- The rows of a matrix, as lists. -/
def rowsOf (M : Matrix (Fin size) (Fin size) F) : List (List F) :=
  List.ofFn fun i => List.ofFn (M i)

theorem rowsOf_length (M : Matrix (Fin size) (Fin size) F) : (rowsOf M).length = size :=
  List.length_ofFn

theorem rowsOf_square (M : Matrix (Fin size) (Fin size) F) : Square (rowsOf M) := by
  intro row member
  obtain ⟨i, rfl⟩ := List.mem_ofFn.mp member
  rw [rowsOf_length, List.length_ofFn]

variable [Field F]

/-- Every list of rows of the right shape is the rows of a matrix. -/
theorem Shaped.eq_rowsOf {rows : List (List F)} (shape : Shaped size size rows) :
    rows = rowsOf (Matrix.of fun i j : Fin size => entry rows i j) := by
  apply List.ext_getElem (by rw [shape.length, rowsOf_length])
  intro i below _
  have read : rowAt rows i = rows[i] := List.getD_eq_getElem _ _ below
  have width := shape.width i (shape.length ▸ below)
  rw [read] at width
  apply List.ext_getElem (by simp [rowsOf, width])
  intro j inside _
  simp [rowsOf, entry, read, List.getD_eq_getElem?_getD, inside]

theorem dot_ofFn (row column : Fin size → F) :
    dot (List.ofFn row) (List.ofFn column) = row ⬝ᵥ column := by
  rw [dot_eq_sum List.length_ofFn List.length_ofFn, dotProduct]
  simp [List.getD_eq_getElem?_getD]

theorem map_dot_rowsOf (M : Matrix (Fin size) (Fin size) F) (x : Fin size → F) :
    (rowsOf M).map (dot · (List.ofFn x)) = List.ofFn (M *ᵥ x) := by
  rw [rowsOf, List.map_ofFn]
  congr 1
  funext i
  exact dot_ofFn (M i) x

variable [DecidableEq F] {M : Matrix (Fin size) (Fin size) F}

theorem invert_rowsOf_eq {inverse : List (List F)} (inverted : invert (rowsOf M) = some inverse) :
    ∃ N : Matrix (Fin size) (Fin size) F, inverse = rowsOf N ∧ N * M = 1 := by
  have shape : Shaped size size inverse := by
    simpa only [rowsOf_length] using invert_shaped inverted
  set N : Matrix (Fin size) (Fin size) F := Matrix.of fun i j => entry inverse i j
  have rows : inverse = rowsOf N := shape.eq_rowsOf
  rw [rows] at inverted
  refine ⟨N, rows, Matrix.ext_of_mulVec_single ?_⟩
  intro column
  set x : Fin size → F := Pi.single column 1
  have solved := (invert_solves inverted (x := List.ofFn x) (y := List.ofFn (M *ᵥ x))
    (by rw [rowsOf_length, List.length_ofFn]) (by rw [rowsOf_length, List.length_ofFn])).mp
      (map_dot_rowsOf M x)
  rw [map_dot_rowsOf] at solved
  rw [← mulVec_mulVec, one_mulVec]
  exact List.ofFn_injective solved

/-- **What elimination answers is the inverse.** -/
theorem invert_rowsOf {inverse : List (List F)} (inverted : invert (rowsOf M) = some inverse) :
    M.det ≠ 0 ∧ inverse = rowsOf M⁻¹ := by
  obtain ⟨N, rfl, left⟩ := invert_rowsOf_eq inverted
  exact ⟨(isUnit_det_of_left_inverse left).ne_zero, by rw [inv_eq_left_inv left]⟩

/-- **Elimination answers exactly for the nonsingular matrices.** -/
theorem invert_rowsOf_isSome_iff (nonempty : 0 < size) :
    (invert (rowsOf M)).isSome ↔ M.det ≠ 0 := by
  constructor
  · intro answered
    obtain ⟨inverse, inverted⟩ := Option.isSome_iff_exists.mp answered
    exact (invert_rowsOf inverted).1
  · intro nonsingular
    apply invert_isSome (rowsOf_square M)
    · intro empty
      have length := rowsOf_length M
      rw [empty, List.length_nil] at length
      omega
    · intro x length zero
      rw [rowsOf_length] at length
      subst length
      have kernel : M *ᵥ x.get = 0 := by
        funext i
        have product := dot_ofFn (M i) x.get
        rw [List.ofFn_get] at product
        exact product.symm.trans (zero (List.ofFn (M i)) (List.mem_ofFn.mpr ⟨i, rfl⟩))
      have vector : x.get = 0 := eq_zero_of_mulVec_eq_zero nonsingular kernel
      intro value member
      obtain ⟨i, rfl⟩ := List.get_of_mem member
      exact congrFun vector i

end FlowWeave.Theory.GaussJordan
