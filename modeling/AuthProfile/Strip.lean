import AuthProfile.Db.Columns
import Mathlib.Data.List.DropRight

set_option autoImplicit false

namespace AuthProfile

def stripped (chars : List Char) : List Char := (chars.dropWhile isSpace).rdropWhile isSpace

theorem strip_to_list (text : String) : (strip text).toList = stripped text.toList := by
  rw [strip, String.toList_ofList]
  rfl

-- Nothing to take off at either end.
theorem stripped_self (chars : List Char) (first : ∀ c ∈ chars.head?, isSpace c = false)
    (last : ∀ c ∈ chars.getLast?, isSpace c = false) : stripped chars = chars := by
  have front : chars.dropWhile isSpace = chars := by
    cases chars with
    | nil => rfl
    | cons c chars =>
        have here : isSpace c = false := first c rfl
        simp [here]
  rw [stripped, front, List.rdropWhile_eq_self_iff]
  intro nonempty
  rw [last _ (List.getLast?_eq_getLast_of_ne_nil nonempty)]
  exact Bool.false_ne_true

theorem stripped_ends (chars : List Char) :
    (∀ c ∈ (stripped chars).head?, isSpace c = false) ∧ ∀ c ∈ (stripped chars).getLast?, isSpace c = false := by
  constructor
  · intro c isHead
    have isFirst : c ∈ (chars.dropWhile isSpace).head? := by
      obtain ⟨rest, split⟩ := List.rdropWhile_prefix isSpace (chars.dropWhile isSpace)
      rw [← split, List.head?_append_of_ne_nil]
      · exact isHead
      · intro wrong
        rw [stripped, wrong] at isHead
        cases isHead
    have found := List.head?_dropWhile_not isSpace chars
    rw [isFirst] at found
    simpa using found
  · intro c isLast
    have nonempty : stripped chars ≠ [] := fun wrong => by
      rw [wrong] at isLast
      cases isLast
    have notSpace := List.rdropWhile_last_not isSpace _ nonempty
    rw [List.getLast?_eq_getLast_of_ne_nil nonempty] at isLast
    cases isLast
    exact Bool.not_eq_true _ ▸ notSpace

theorem strip_strip (text : String) : strip (strip text) = strip text := by
  obtain ⟨first, last⟩ := stripped_ends text.toList
  apply String.toList_inj.mp
  rw [strip_to_list, strip_to_list, stripped_self _ first last]

theorem strip_mem (text : String) (c : Char) (member : c ∈ (strip text).toList) : c ∈ text.toList := by
  rw [strip_to_list] at member
  exact (List.dropWhile_sublist isSpace).subset ((List.rdropWhile_prefix isSpace _).subset member)

-- A stripped text ends in no space that a column could drop.
theorem strip_kept (width : Nat) (text : String) (takes : Varchar.Takes width (strip text)) :
    Varchar.Fits width (strip text) := by
  refine ⟨?_, takes.1⟩
  by_contra long
  have isDropped : ((strip text).toList.drop width).getLast? = (strip text).toList.getLast? := by
    rw [List.getLast?_drop, if_neg]
    rw [String.length_toList]
    omega
  have nonempty : (strip text).toList ≠ [] := fun wrong => by
    rw [← String.length_toList, wrong] at long
    exact long (Nat.zero_le width)
  have isLast := List.getLast?_eq_getLast_of_ne_nil nonempty
  have isSpaceLast := takes.2 _ (List.mem_of_getLast? (isDropped.trans isLast))
  rw [isSpaceLast, strip_to_list] at isLast
  exact absurd ((stripped_ends text.toList).2 ' ' isLast) (by decide)

end AuthProfile
