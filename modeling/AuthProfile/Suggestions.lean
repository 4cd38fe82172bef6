import AuthProfile.Escalation
import AuthProfile.UseCases.Recipients
import Mathlib.Data.String.Basic

set_option autoImplicit false

namespace AuthProfile

open Relation Process UserRepository

-- The three replacements together quote the text.
theorem like_fragment_quotes (query : String) : (likeFragment query).toList = Like.quote '!' query.toList := by
  rw [likeFragment, Like.quote]
  simp only [replaceChar, String.toList_ofList, List.flatMap_assoc]
  congr 1
  funext c
  rw [Like.quoteOne]
  by_cases isBang : c = '!'
  · rw [isBang]
    decide
  · by_cases isPercent : c = '%'
    · rw [isPercent]
      decide
    · by_cases isUnderscore : c = '_'
      · rw [isUnderscore]
        decide
      · simp [isBang, isPercent, isUnderscore]

-- Quoting adds exclamation marks only.
theorem like_fragment_storable (query : String) (storable : Storable query) : Storable (likeFragment query) := by
  rw [Storable, like_fragment_quotes, Like.quote, List.mem_flatMap]
  intro ⟨c, member, here⟩
  have notNul : '\x00' ≠ c := fun same => storable (same ▸ member)
  rw [Like.quoteOne] at here
  split at here
  · simp [notNul] at here
  · simp [notNul] at here

theorem patterns_legal (query callerId : String) (storable : Storable query) (caller : Storable callerId) :
    Legal [likeFragment query ++ "%", "% " ++ likeFragment query ++ "%", callerId] := by
  have fragment := like_fragment_storable query storable
  rw [Storable] at fragment
  refine (legal_cons _ _).mpr ⟨?_, legal_two _ _ ?_ caller⟩
  · rw [Storable, String.toList_append, List.mem_append, not_or]
    exact ⟨fragment, by decide⟩
  · rw [Storable, String.toList_append, String.toList_append, List.mem_append, List.mem_append, not_or, not_or]
    exact ⟨⟨by decide, fragment⟩, by decide⟩

theorem starting_pattern (query : String) :
    likePattern (likeFragment query ++ "%") = .ok (query.toList.map .lit ++ [.anyRun]) := by
  have quoted : (likeFragment query ++ "%").toList = Like.quote '!' query.toList ++ ['%'] := by
    rw [String.toList_append, like_fragment_quotes]
    rfl
  rw [likePattern, quoted, Like.parse_starting '!' query.toList (by decide)]

theorem word_pattern (query : String) :
    likePattern ("% " ++ likeFragment query ++ "%") = .ok
    (.anyRun :: ((' ' :: query.toList).map .lit ++ [.anyRun])) := by
  have quoted : ("% " ++ likeFragment query ++ "%").toList = '%' ::
      (Like.quote '!' (' ' :: query.toList) ++ ['%']) := by
    rw [String.toList_append, String.toList_append, like_fragment_quotes]
    rfl
  rw [likePattern, quoted, Like.parse_within '!' (' ' :: query.toList) (by decide)]

-- The accounts in name order, whatever the order among equal names, cut off after eight.
def FirstByName {κ : Type} [Preorder κ] (collate : String → κ) (matching : List UserRow) (users : List User) : Prop :=
  ∃ ordered : List UserRow, ordered.Perm matching ∧
    ordered.Pairwise (fun a b => collate a.displayName.text ≤ collate b.displayName.text) ∧
      users = (ordered.take (min 8 matching.length)).map toDomainUser

section Suggestions

variable {κ : Type} [Preorder κ] {collate : String → κ} (fold : Char → Char)
  (byName : OrderBy fun row : UserRow => collate row.displayName.text)

def StartsWith (query text : String) : Prop := query.toList.map fold <+: text.toList.map fold

def HasWord (query text : String) : Prop := (' ' :: query.toList).map fold <:+: text.toList.map fold

-- Who may be suggested to the caller for what is typed.
def Suggestible (query callerId : String) (row : UserRow) : Prop :=
  row.state = .active ∧ row.id.text ≠ callerId ∧
    (StartsWith fold query row.email.text ∨ StartsWith fold query row.displayName.text ∨
      HasWord fold query row.displayName.text)

instance (query callerId : String) (row : UserRow) : Decidable (Suggestible fold query callerId row) := by
  unfold Suggestible StartsWith HasWord
  infer_instance

def suggestible (query callerId : String) (db : Db) : List UserRow :=
  db.users.rows.filter fun row => Suggestible fold query callerId row

theorem search_matches (query callerId : String) (row : UserRow) (caller : callerId ≠ "" ∨ row.id.text ≠ "") :
    (row.state = .active &&
      (Like.accepts fold (query.toList.map .lit ++ [.anyRun]) row.email.text.toList ||
        Like.accepts fold (query.toList.map .lit ++ [.anyRun]) row.displayName.text.toList ||
        Like.accepts fold (.anyRun :: ((' ' :: query.toList).map .lit ++ [.anyRun])) row.displayName.text.toList) &&
      (callerId = "" || row.id.text ≠ callerId)) = decide (Suggestible fold query callerId row) := by
  have notCaller : (callerId = "" ∨ row.id.text ≠ callerId) ↔ row.id.text ≠ callerId := by
    refine or_iff_right_of_imp fun nobody same => ?_
    exact caller.elim (fun named => named nobody) fun named => named (same.trans nobody)
  rw [Bool.eq_iff_iff, decide_eq_true_iff, Suggestible, StartsWith, StartsWith, HasWord]
  simp only [Bool.and_eq_true, Bool.or_eq_true, decide_eq_true_eq, Like.accepts_starting,
    Like.accepts_within, notCaller]
  rw [and_assoc, or_assoc, and_comm (a := row.id.text ≠ callerId)]

theorem suggestions_run (db : Db) (query callerId : String) (storable : Storable (strip query))
    (caller : Storable callerId) (long : 2 ≤ (strip query).length) (named : callerId ≠ "" ∨ "" ∉ db.users.keys) :
    (suggestRecipients fold byName query callerId).exec [] db =
      ⟨.ok (((byName.arrange (suggestible fold (strip query) callerId db)).take 8).map toDomainUser), [], db⟩ := by
  have matching : (db.users.rows.filter fun row => row.state = .active &&
      (Like.accepts fold ((strip query).toList.map .lit ++ [.anyRun]) row.email.text.toList ||
        Like.accepts fold ((strip query).toList.map .lit ++ [.anyRun]) row.displayName.text.toList ||
        Like.accepts fold (.anyRun :: ((' ' :: (strip query).toList).map .lit ++ [.anyRun]))
          row.displayName.text.toList) &&
      (callerId = "" || row.id.text ≠ callerId)) = suggestible fold (strip query) callerId db := by
    refine List.filter_congr fun row member => search_matches fold (strip query) callerId row ?_
    exact named.imp_right fun unused isEmpty => unused (isEmpty ▸ List.mem_map_of_mem member)
  rw [suggestRecipients, MIN_QUERY_LENGTH, if_neg (Nat.not_lt.mpr long), searchActive, strip_strip]
  rw [exec_select_alone _ _ _ _ (patterns_legal (strip query) callerId storable caller), starting_pattern,
    word_pattern, ← matching]
  rfl

-- What is typed is looked for as it stands, and nobody else comes up.
theorem suggestions_match_literally (db : Db) (query callerId : String) (named : callerId ≠ "" ∨ "" ∉ db.users.keys) :
    ((strip query).length < 2 → (suggestRecipients fold byName query callerId).exec [] db = ⟨.ok [], [], db⟩) ∧
      (2 ≤ (strip query).length → Storable (strip query) → Storable callerId →
        ∃ users, (suggestRecipients fold byName query callerId).exec [] db = ⟨.ok users, [], db⟩ ∧
          FirstByName collate (suggestible fold (strip query) callerId db) users) := by
  constructor
  · intro short
    rw [suggestRecipients, MIN_QUERY_LENGTH, if_pos short]
    rfl
  · intro long storable caller
    refine ⟨_, suggestions_run fold byName db query callerId storable caller long named, ?_⟩
    have isPerm := byName.perm (suggestible fold (strip query) callerId db)
    refine ⟨_, isPerm, byName.sorted _, ?_⟩
    rw [← isPerm.length_eq, ← List.take_eq_take_min]

end Suggestions

def byCodePoint : OrderBy fun row : UserRow => id row.displayName.text := OrderBy.stable _

theorem admin_suggested :
    ((strip " ad").length < 2 →
        (suggestRecipients Char.toLower byCodePoint " ad" "u2").exec [] seededService.db =
          ⟨.ok [], [], seededService.db⟩) ∧
      (2 ≤ (strip " ad").length → Storable (strip " ad") → Storable "u2" →
        ∃ users, (suggestRecipients Char.toLower byCodePoint " ad" "u2").exec [] seededService.db =
            ⟨.ok users, [], seededService.db⟩ ∧
          FirstByName id (suggestible Char.toLower (strip " ad") "u2" seededService.db) users) :=
  suggestions_match_literally Char.toLower byCodePoint seededService.db " ad" "u2" (Or.inl (by decide))

end AuthProfile
