import Mathlib.Data.List.Forall2
import Mathlib.Data.List.Induction

set_option autoImplicit false

-- Logs merged into one order, and parts of the state that one of the logs alone moves.
namespace Interleaving

variable {κ ι μ σ ν : Type} [DecidableEq κ] (label : ι → κ)

-- What of the order belongs to one log.
def share (k : κ) (order : List ι) : List ι := order.filter fun item => label item = k

theorem share_snoc (k : κ) (order : List ι) (item : ι) :
    share label k (order ++ [item]) = if label item = k then share label k order ++ [item]
      else share label k order := by
  by_cases here : label item = k <;> simp [share, here]

-- Each log comes whole and in its own order.
def Merges (content : ι → μ) (log : κ → List μ) (order : List ι) : Prop :=
  ∀ k, (share label k order).map content = log k

theorem merges_pair (content : ι → μ) (log : κ → List μ) (order other : List ι)
    (merges : Merges label content log order) (otherMerges : Merges label content log other) (k : κ) :
    List.Forall₂ (fun a b => content a = content b) (share label k order) (share label k other) := by
  have same : List.Forall₂ Eq ((share label k order).map content) ((share label k other).map content) := by
    rw [List.forall₂_eq_eq_eq, merges k, otherMerges k]
  rwa [List.forall₂_map_left_iff, List.forall₂_map_right_iff] at same

section Moves

variable (move : ι → ν → ν → Prop)

def Carried : List ι → ν → ν → Prop
  | [], before, after => after = before
  | item :: items, before, after => ∃ between, move item before between ∧ Carried items between after

theorem carried_snoc (items : List ι) (item : ι) (before between after : ν) (first : Carried move items before between)
    (last : move item between after) : Carried move (items ++ [item]) before after := by
  induction items generalizing before with
  | nil =>
      cases first
      exact ⟨after, last, rfl⟩
  | cons head items ih =>
      obtain ⟨next, moved, rest⟩ := first
      exact ⟨next, moved, ih next rest⟩

-- Moves that are determined by what the items have in common lead to the same end.
theorem carried_agree (alike : ι → ι → Prop)
    (determined : ∀ a b before first second, alike a b → move a before first → move b before second → first = second)
    (items others : List ι) (pairs : List.Forall₂ alike items others) (before first second : ν)
    (moved : Carried move items before first) (otherMoved : Carried move others before second) : first = second := by
  induction pairs generalizing before with
  | nil => exact moved.trans otherMoved.symm
  | cons pair _ ih =>
      obtain ⟨between, head, tail⟩ := moved
      obtain ⟨otherBetween, otherHead, otherTail⟩ := otherMoved
      cases determined _ _ before between otherBetween pair head otherHead
      exact ih between tail otherTail

end Moves

section View

variable (act : σ → ι → σ) (start : σ) (order : List ι) (k : κ) (view : σ → ν) (move : ι → ν → ν → Prop)

-- A part that moves with the items of one log, and stays as it is under all the others.
theorem view_carried
    (moves : ∀ before item, before ++ [item] <+: order → label item = k →
      move item (view (before.foldl act start)) (view (act (before.foldl act start) item)))
    (still : ∀ before item, before ++ [item] <+: order → label item ≠ k →
      view (act (before.foldl act start) item) = view (before.foldl act start)) :
    Carried move (share label k order) (view start) (view (order.foldl act start)) := by
  induction order using List.reverseRecOn with
  | nil => rfl
  | append_singleton order item ih =>
      have shorter : ∀ before item', before ++ [item'] <+: order → before ++ [item'] <+: order ++ [item] :=
        fun _ _ isPrefix => isPrefix.trans (List.prefix_append order [item])
      have earlier := ih (fun before item' isPrefix => moves before item' (shorter before item' isPrefix))
        fun before item' isPrefix => still before item' (shorter before item' isPrefix)
      rw [share_snoc, List.foldl_append, List.foldl_cons, List.foldl_nil]
      by_cases here : label item = k
      · rw [if_pos here]
        exact carried_snoc move _ item _ _ _ earlier (moves order item (List.prefix_refl _) here)
      · rw [if_neg here, still order item (List.prefix_refl _) here]
        exact earlier

end View

end Interleaving
