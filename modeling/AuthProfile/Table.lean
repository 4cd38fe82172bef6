import Mathlib.Data.List.Nodup

set_option autoImplicit false

-- A keyed table: rows in the order they were inserted, no key twice.
namespace Relation

class Keyed (ρ : Type) (κ : outParam Type) where
  key : ρ → κ

export Keyed (key)

structure Table (ρ : Type) {κ : Type} [Keyed ρ κ] where
  rows : List ρ
  distinct : (rows.map key).Nodup

namespace Table

variable {ρ κ : Type} [Keyed ρ κ]

@[ext] theorem ext (a b : Table ρ) (same : a.rows = b.rows) : a = b := by
  cases a
  cases b
  cases same
  rfl

def empty : Table ρ := ⟨[], List.nodup_nil⟩

def keys (table : Table ρ) : List κ := table.rows.map key

theorem alter_keys (f : ρ → Option ρ) (sameKey : ∀ row row', f row = some row' → key row' = key row) (rows : List ρ) :
    ((rows.filterMap f).map key).Sublist (rows.map key) := by
  induction rows with
  | nil => exact List.Sublist.slnil
  | cons row rows ih =>
      cases hit : f row with
      | none =>
          rw [List.filterMap_cons_none hit]
          exact ih.cons _
      | some row' =>
          rw [List.filterMap_cons_some hit, List.map_cons, List.map_cons, sameKey row row' hit]
          exact ih.cons_cons _

variable [DecidableEq κ]

instance [DecidableEq ρ] : DecidableEq (Table ρ) := fun a b =>
  decidable_of_iff (a.rows = b.rows) ⟨ext a b, congrArg rows⟩

def find (k : κ) (table : Table ρ) : Option ρ := table.rows.find? fun row => key row = k

-- INSERT: refused when the key is taken.
def insert (row : ρ) (table : Table ρ) : Option (Table ρ) :=
  if fresh : key row ∉ table.keys then
    some ⟨table.rows ++ [row], by
      rw [List.map_append, List.map_cons, List.map_nil]
      exact List.nodup_append.mpr ⟨table.distinct, List.nodup_singleton _, fun a member b single => by
        cases List.mem_singleton.mp single
        exact fun same => fresh (same ▸ member)⟩⟩
  else none

-- UPDATE of the row with this row's key, if there is one.
def replace (row : ρ) (table : Table ρ) : Table ρ where
  rows := table.rows.map fun old => if key old = key row then row else old
  distinct := by
    have same : (table.rows.map fun old => if key old = key row then row else old).map key = table.rows.map key := by
      rw [List.map_map]
      apply List.map_congr_left
      intro old _
      by_cases hit : key old = key row <;> simp [hit]
    rw [same]
    exact table.distinct

-- DELETE of the rows that the condition picks.
def delete (gone : ρ → Bool) (table : Table ρ) : Table ρ where
  rows := table.rows.filter fun row => !gone row
  distinct := table.distinct.sublist (List.filter_sublist.map key)

-- One UPDATE or DELETE for every row, by its key.
def alter (f : ρ → Option ρ) (sameKey : ∀ row row', f row = some row' → key row' = key row) (table : Table ρ) :
    Table ρ where
  rows := table.rows.filterMap f
  distinct := table.distinct.sublist (alter_keys f sameKey table.rows)

theorem keys_replace (row : ρ) (table : Table ρ) : (table.replace row).keys = table.keys := by
  simp only [keys, replace, List.map_map]
  apply List.map_congr_left
  intro old _
  by_cases hit : key old = key row <;> simp [hit]

theorem find_key (k : κ) (table : Table ρ) (row : ρ) (found : table.find k = some row) : key row = k := by
  simpa using List.find?_some found

theorem find_mem (k : κ) (table : Table ρ) (row : ρ) (found : table.find k = some row) : row ∈ table.rows :=
  List.mem_of_find?_eq_some found

theorem find_none_iff (k : κ) (table : Table ρ) : table.find k = none ↔ k ∉ table.keys := by
  simp only [find, List.find?_eq_none, decide_eq_true_eq, keys, List.mem_map, not_exists, not_and]

theorem find_self (table : Table ρ) (row : ρ) (member : row ∈ table.rows) : table.find (key row) = some row := by
  cases found : table.find (key row) with
  | none => exact absurd (List.mem_map_of_mem member) ((find_none_iff _ table).mp found)
  | some other =>
      have sameKey : key other = key row := find_key _ table other found
      exact congrArg some (List.inj_on_of_nodup_map table.distinct (find_mem _ table other found) member sameKey)

theorem mem_iff_find (table : Table ρ) (row : ρ) : row ∈ table.rows ↔ table.find (key row) = some row :=
  ⟨find_self table row, find_mem _ table row⟩

omit [DecidableEq κ] in
theorem filter_sole_iff (meets : ρ → Bool) (table : Table ρ) (row : ρ) :
    table.rows.filter meets = [row] ↔ row ∈ table.rows ∧ meets row = true ∧ ∀ other ∈ table.rows, meets other = true →
      other = row := by
  constructor
  · intro isRow
    have found : ∀ other, other ∈ table.rows ∧ meets other = true ↔ other = row := fun other => by
      rw [← List.mem_filter, isRow, List.mem_singleton]
    obtain ⟨member, met⟩ := (found row).mpr rfl
    exact ⟨member, met, fun other otherMember otherMet => (found other).mp ⟨otherMember, otherMet⟩⟩
  · intro ⟨member, met, sole⟩
    have distinct : (table.rows.filter meets).Nodup := (List.Nodup.of_map _ table.distinct).filter _
    refine List.perm_singleton.mp ((List.perm_ext_iff_of_nodup distinct (List.nodup_singleton row)).mpr fun other => ?_)
    rw [List.mem_filter, List.mem_singleton]
    constructor
    · intro ⟨otherMember, otherMet⟩
      exact sole other otherMember otherMet
    · intro same
      rw [same]
      exact ⟨member, met⟩

theorem find_replace_same (row : ρ) (table : Table ρ) (present : key row ∈ table.keys) :
    (table.replace row).find (key row) = some row := by
  apply find_self
  obtain ⟨old, member, sameKey⟩ := List.mem_map.mp present
  exact List.mem_map.mpr ⟨old, member, if_pos sameKey⟩

theorem find_replace_other (row : ρ) (table : Table ρ) (k : κ) (different : k ≠ key row) :
    (table.replace row).find k = table.find k := by
  simp only [find, replace, List.find?_map, Function.comp_def]
  have same : (fun old => decide (key (if key old = key row then row else old) = k)) =
      fun old => decide (key old = k) := by
    funext old
    by_cases hit : key old = key row
    · simp [hit]
    · simp [hit]
  rw [same]
  cases found : table.rows.find? fun old => key old = k with
  | none => rfl
  | some old =>
      have oldKey : key old = k := by simpa using List.find?_some found
      simp [oldKey, different]

theorem insert_some_iff (row : ρ) (table table' : Table ρ) :
    table.insert row = some table' ↔ key row ∉ table.keys ∧ table'.rows = table.rows ++ [row] := by
  by_cases fresh : key row ∉ table.keys
  · rw [insert, dif_pos fresh, Option.some.injEq]
    exact ⟨fun same => ⟨fresh, same ▸ rfl⟩, fun ⟨_, same⟩ => ext _ _ same.symm⟩
  · rw [insert, dif_neg fresh]
    exact ⟨(fun refused => nomatch refused), fun ⟨isFresh, _⟩ => absurd isFresh fresh⟩

omit [DecidableEq κ] in
-- The keys of a table that has got one more row.
theorem mem_keys_added (row : ρ) (table table' : Table ρ) (added : table'.rows = table.rows ++ [row]) (k : κ) :
    k ∈ table'.keys ↔ k ∈ table.keys ∨ k = key row := by
  rw [keys, added, List.map_append, List.mem_append, List.map_singleton, List.mem_singleton, keys]

theorem mem_keys_inserted (row : ρ) (table table' : Table ρ) (inserted : table.insert row = some table') (k : κ) :
    k ∈ table'.keys ↔ k ∈ table.keys ∨ k = key row :=
  mem_keys_added row table table' ((insert_some_iff row table table').mp inserted).2 k

theorem insert_none_iff (row : ρ) (table : Table ρ) : table.insert row = none ↔ key row ∈ table.keys := by
  by_cases fresh : key row ∉ table.keys
  · simp [insert, fresh]
  · simp [insert, not_not.mp fresh]

theorem find_insert_same (row : ρ) (table table' : Table ρ) (inserted : table.insert row = some table') :
    table'.find (key row) = some row := by
  apply find_self
  rw [((insert_some_iff row table table').mp inserted).2]
  simp

theorem find_insert_other (row : ρ) (table table' : Table ρ) (k : κ) (inserted : table.insert row = some table')
    (different : k ≠ key row) : table'.find k = table.find k := by
  simp only [find, ((insert_some_iff row table table').mp inserted).2, List.find?_append]
  have absent : [row].find? (fun old => key old = k) = none := by simp [Ne.symm different]
  rw [absent, Option.or_none]

end Table

end Relation
