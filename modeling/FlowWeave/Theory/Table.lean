/-
# Theory.Table — finite tables with an unspecified iteration order

A hash table is an association list without repeated keys (`AList`). Its list
order is the iteration order of the moment, about which nothing is promised: a
`Rehash` may permute it between operations. What does not depend on the order is
stated here for the operations a program performs: how removal, insertion and
filtering act on a lookup, on the number of entries and on the sum of a weight.
-/
import Mathlib.Data.List.AList
import Mathlib.Data.List.MinMax
import Mathlib.Algebra.Order.BigOperators.Group.List
import Mathlib.Algebra.Order.Ring.Nat
import Mathlib.Data.Finset.Card

namespace FlowWeave.Theory

set_option autoImplicit false

/-- A finite table from keys to values. -/
abbrev Table (K V : Type) := AList (fun _ : K => V)

namespace Table

variable {K V : Type}

/-- The number of entries. -/
def size (table : Table K V) : Nat := table.entries.length

/-- The sum of a weight over the values. -/
def weight (f : V → Nat) (table : Table K V) : Nat :=
  (table.entries.map fun entry => f entry.2).sum

/-- Keep the entries that satisfy `keep`. -/
def retain (keep : K → V → Bool) (table : Table K V) : Table K V :=
  ⟨table.entries.filter fun entry => keep entry.1 entry.2,
    table.nodupKeys.sublist List.filter_sublist⟩

/-- The same entries in some order. -/
def Rehash (before after : Table K V) : Prop := before.entries.Perm after.entries

@[simp] theorem size_empty : size (∅ : Table K V) = 0 := rfl

theorem Rehash.size_eq {before after : Table K V} (rehash : Rehash before after) :
    size before = size after :=
  rehash.length_eq

theorem Rehash.weight_eq {before after : Table K V} (rehash : Rehash before after)
    (f : V → Nat) : weight f before = weight f after :=
  (rehash.map _).sum_eq

section Lookup

variable [DecidableEq K]

theorem Rehash.lookup_eq {before after : Table K V} (rehash : Rehash before after) (key : K) :
    before.lookup key = after.lookup key :=
  AList.perm_lookup rehash

variable {key : K} {value : V} {table : Table K V}

theorem lookup_eq_some_iff : table.lookup key = some value ↔ ⟨key, value⟩ ∈ table.entries :=
  AList.mem_lookup_iff

theorem mem_of_lookup (found : table.lookup key = some value) : key ∈ table :=
  AList.lookup_isSome.mp (by rw [found]; rfl)

/-- Removing a key that is present leaves one entry less. -/
theorem erase_split (found : table.lookup key = some value) :
    table.entries.Perm (⟨key, value⟩ :: (table.erase key).entries) := by
  obtain ⟨value', before, after, -, split, erased⟩ := List.exists_of_kerase (mem_of_lookup found)
  have same : value' = value := by
    have here : (⟨key, value'⟩ : Sigma fun _ : K => V) ∈ table.entries := by simp [split]
    exact Option.some.inj ((lookup_eq_some_iff.mpr here).symm.trans found)
  subst same
  change table.entries.Perm (⟨key, value'⟩ :: List.kerase key table.entries)
  rw [erased, split]
  exact List.perm_middle

theorem erase_of_lookup_none (absent : table.lookup key = none) : table.erase key = table :=
  AList.ext (List.kerase_of_notMem_keys (AList.lookup_eq_none.mp absent))

theorem lookup_erase_eq_some {other : K} :
    (table.erase key).lookup other = some value ↔
      other ≠ key ∧ table.lookup other = some value := by
  by_cases same : other = key
  · subst same
    simp
  · simp [AList.lookup_erase_ne same, same]

theorem size_erase (found : table.lookup key = some value) :
    size (table.erase key) + 1 = size table :=
  (erase_split found).length_eq.symm

theorem weight_erase (f : V → Nat) (found : table.lookup key = some value) :
    weight f (table.erase key) + f value = weight f table := by
  have sums := ((erase_split found).map fun entry => f entry.2).sum_eq
  simp only [List.map_cons, List.sum_cons] at sums
  unfold weight
  omega

theorem size_erase_le (table : Table K V) (key : K) : size (table.erase key) ≤ size table :=
  (List.kerase_sublist key table.entries).length_le

theorem size_insert (table : Table K V) (key : K) (value : V) :
    size (table.insert key value) = size (table.erase key) + 1 := by
  simp only [size, AList.entries_insert, List.length_cons]
  rfl

theorem size_insert_of_absent (absent : table.lookup key = none) :
    size (table.insert key value) = size table + 1 := by
  have entries := AList.entries_insert_of_notMem (b := value) (AList.lookup_eq_none.mp absent)
  simp only [size, entries, List.length_cons]

theorem weight_insert_of_absent (f : V → Nat) (absent : table.lookup key = none) :
    weight f (table.insert key value) = weight f table + f value := by
  have entries := AList.entries_insert_of_notMem (b := value) (AList.lookup_eq_none.mp absent)
  simp only [weight, entries, List.map_cons, List.sum_cons, Nat.add_comm]

theorem lookup_retain_eq_some {keep : K → V → Bool} :
    (table.retain keep).lookup key = some value ↔
      table.lookup key = some value ∧ keep key value = true := by
  rw [lookup_eq_some_iff, lookup_eq_some_iff]
  simp [retain]

theorem size_eq_zero_iff : size table = 0 ↔ ∀ key, table.lookup key = none := by
  constructor
  · intro empty key
    apply AList.lookup_eq_none.mpr
    have none : table.entries = [] := List.length_eq_zero_iff.mp empty
    simp [AList.mem_keys, AList.keys, none]
  · intro absent
    by_contra nonempty
    obtain ⟨entry, member⟩ := List.exists_mem_of_length_pos (Nat.pos_of_ne_zero nonempty)
    have := absent entry.1
    rw [lookup_eq_some_iff.mpr member] at this
    cases this

theorem weight_le {f : V → Nat} {bound : Nat}
    (bounded : ∀ key value, table.lookup key = some value → f value ≤ bound) :
    weight f table ≤ size table * bound := by
  have each : ∀ x ∈ table.entries.map fun entry => f entry.2, x ≤ bound := by
    intro x member
    obtain ⟨entry, inTable, rfl⟩ := List.mem_map.mp member
    exact bounded entry.1 entry.2 (lookup_eq_some_iff.mpr inTable)
  simpa [weight, size] using List.sum_le_card_nsmul _ bound each

end Lookup

/-- No more entries than there are codes for the keys. -/
theorem size_le_of_code {bound : Nat} {code : K → Nat} (injective : Function.Injective code)
    (below : ∀ key, code key < bound) (table : Table K V) : size table ≤ bound := by
  have distinct : (table.entries.keys.map code).Nodup := table.nodupKeys.map injective
  have inRange : (table.entries.keys.map code).toFinset ⊆ Finset.range bound := by
    intro x member
    obtain ⟨key, -, rfl⟩ := List.mem_map.mp (List.mem_toFinset.mp member)
    exact Finset.mem_range.mpr (below key)
  have counted := Finset.card_le_card inRange
  rw [List.toFinset_card_of_nodup distinct, Finset.card_range] at counted
  simpa [size, List.keys] using counted

end Table

end FlowWeave.Theory
