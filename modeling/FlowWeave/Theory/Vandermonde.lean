/-
# Theory.Vandermonde — matrices of powers have inverses

The matrix with row `nodes ^ e` for each of as many exponents `e` as there are nodes. When
the exponents are an arithmetic progression with difference `d`, the nodes are not zero and
their `d`-th powers are distinct, elimination finds an inverse (`invert_powers_isSome`): up to
a factor in every column it is the Vandermonde matrix of the `d`-th powers.
-/
import FlowWeave.Theory.GaussJordan
import Mathlib.LinearAlgebra.Vandermonde

namespace FlowWeave.Theory.GaussJordan

set_option autoImplicit false

variable {F : Type} [Field F]

theorem dot_eq_sum {row column : List F} {size : ℕ} (one : row.length = size)
    (two : column.length = size) :
    dot row column = ∑ i : Fin size, row.getD i 0 * column.getD i 0 := by
  have entries : List.zipWith (· * ·) row column =
      List.ofFn fun i : Fin size => row.getD i 0 * column.getD i 0 := by
    apply List.ext_getElem (by simp [one, two])
    intro i below _
    rw [List.length_zipWith] at below
    simp [List.getD_eq_getElem?_getD, show i < row.length by omega,
      show i < column.length by omega]
  rw [dot, entries, List.sum_ofFn]

/-- The exponents `start, start + step, ...`. -/
def progression (start step count : ℕ) : List ℕ := (List.range count).map (start + step * ·)

/-- The matrix with row `nodes ^ e` for each exponent `e`. -/
def powers (nodes : List F) (exponents : List ℕ) : List (List F) :=
  exponents.map fun exponent => nodes.map (· ^ exponent)

theorem powers_kernel {nodes : List F} {start step : ℕ} (nonzero : ∀ node ∈ nodes, node ≠ 0)
    (distinct : (nodes.map (· ^ step)).Nodup) {x : List F} (length : x.length = nodes.length)
    (zero : ∀ row ∈ powers nodes (progression start step nodes.length), dot row x = 0) :
    ∀ value ∈ x, value = 0 := by
  have scaled : (fun i : Fin nodes.length => x.getD i 0 * nodes.getD i 0 ^ start) = 0 := by
    apply Matrix.eq_zero_of_forall_pow_sum_mul_pow_eq_zero
      (f := fun i : Fin nodes.length => nodes.getD i 0 ^ step)
    · intro i j same
      simp only [List.getD_eq_getElem?_getD, Fin.is_lt, getElem?_pos, Option.getD_some] at same
      have below (k : Fin nodes.length) : k.val < (nodes.map (· ^ step)).length := by simp
      have images : (nodes.map (· ^ step)).get ⟨i, below i⟩ =
          (nodes.map (· ^ step)).get ⟨j, below j⟩ := by simpa using same
      exact Fin.ext (distinct.getElem_inj_iff.mp images)
    · intro i
      have row := zero (nodes.map (· ^ (start + step * i))) (by
        simp only [powers, progression, List.map_map, List.mem_map, List.mem_range]
        exact ⟨i, i.is_lt, rfl⟩)
      rw [dot_eq_sum (List.length_map _) length] at row
      refine Eq.trans (Finset.sum_congr rfl ?_) row
      intro j _
      simp only [List.getD_eq_getElem?_getD, Fin.is_lt, getElem?_pos, Option.getD_some,
        List.getElem?_map, Option.map_some]
      rw [pow_add, pow_mul]
      ring
  intro value member
  obtain ⟨i, below, rfl⟩ := List.getElem_of_mem member
  have product := congrFun scaled ⟨i, length ▸ below⟩
  have inside : i < nodes.length := length ▸ below
  simp only [List.getD_eq_getElem?_getD, below, inside, getElem?_pos, Option.getD_some,
    Pi.zero_apply] at product
  exact (mul_eq_zero.mp product).resolve_right
    (pow_ne_zero _ (nonzero _ (List.getElem_mem inside)))

theorem invert_powers_isSome [DecidableEq F] {nodes : List F} {start step : ℕ}
    (nonempty : nodes ≠ []) (nonzero : ∀ node ∈ nodes, node ≠ 0)
    (distinct : (nodes.map (· ^ step)).Nodup) :
    (invert (powers nodes (progression start step nodes.length))).isSome := by
  have length : (powers nodes (progression start step nodes.length)).length = nodes.length := by
    simp [powers, progression]
  apply invert_isSome
  · intro row member
    obtain ⟨exponent, -, rfl⟩ := List.mem_map.mp member
    rw [length, List.length_map]
  · intro empty
    rw [empty, List.length_nil] at length
    exact nonempty (List.eq_nil_of_length_eq_zero length.symm)
  · intro x same
    exact powers_kernel nonzero distinct (same.trans length)

end FlowWeave.Theory.GaussJordan
