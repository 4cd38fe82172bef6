import Mathlib.Data.List.Sort
import Mathlib.Order.Basic

set_option autoImplicit false

namespace Relation

variable {ρ κ : Type}

-- ORDER BY: the rows with their keys in order. Rows with the same key come in any order.
structure OrderBy [LE κ] (column : ρ → κ) where
  arrange : List ρ → List ρ
  perm : ∀ rows, (arrange rows).Perm rows
  sorted : ∀ rows, (arrange rows).Pairwise fun a b => column a ≤ column b

namespace OrderBy

theorem mem_arrange [LE κ] {column : ρ → κ} (order : OrderBy column) (rows : List ρ) (row : ρ) :
    row ∈ order.arrange rows ↔ row ∈ rows := (order.perm rows).mem_iff

theorem before_of_lt [Preorder κ] (column : ρ → κ) (rows earlier later : List ρ) (a b : ρ)
    (sorted : rows.Pairwise fun a b => column a ≤ column b) (split : rows = earlier ++ b :: later) (member : a ∈ rows)
    (smaller : column a < column b) : a ∈ earlier := by
  subst split
  obtain ⟨_, behind, _⟩ := List.pairwise_append.mp sorted
  rcases List.mem_append.mp member with before | after
  · exact before
  · rcases List.mem_cons.mp after with same | later
    · exact absurd (same ▸ smaller) (lt_irrefl _)
    · exact absurd ((List.pairwise_cons.mp behind).1 a later) (not_le_of_gt smaller)

theorem before_in_take [Preorder κ] {column : ρ → κ} (order : OrderBy column) (rows earlier later : List ρ)
    (n : Nat) (a b : ρ)
    (split : (order.arrange rows).take n = earlier ++ b :: later) (member : a ∈ rows) (smaller : column a < column b) :
    a ∈ earlier := by
  have whole : order.arrange rows = earlier ++ b :: (later ++ (order.arrange rows).drop n) := by
    rw [← List.cons_append, ← List.append_assoc, ← split, List.take_append_drop]
  exact before_of_lt column _ _ _ a b (order.sorted rows) whole ((order.mem_arrange rows a).mpr member) smaller

def stable [LinearOrder κ] (column : ρ → κ) : OrderBy column where
  arrange := List.insertionSort fun a b => column a ≤ column b
  perm := List.perm_insertionSort _
  sorted := fun rows => by
    have : Std.Total fun a b : ρ => column a ≤ column b := ⟨fun a b => le_total _ _⟩
    have : IsTrans ρ fun a b : ρ => column a ≤ column b := ⟨fun a b c => le_trans⟩
    exact List.pairwise_insertionSort _ rows

end OrderBy

end Relation
