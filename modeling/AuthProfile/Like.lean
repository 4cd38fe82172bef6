import Mathlib.Data.List.Infix

set_option autoImplicit false

-- LIKE with an escape character and case ignored character by character.
namespace Like

inductive Token where
  | anyRun
  | anyOne
  | lit (c : Char)
deriving DecidableEq, Repr

-- An escape character with nothing after it makes no pattern.
def parse (escape : Char) : List Char → Option (List Token)
  | [] => some []
  | c :: rest =>
      if c = escape then
        match rest with
        | [] => none
        | d :: rest => (parse escape rest).map (Token.lit d :: ·)
      else
        (parse escape rest).map ((if c = '%' then Token.anyRun else if c = '_' then .anyOne else .lit c) :: ·)

variable (fold : Char → Char)

def accepts : List Token → List Char → Bool
  | [], text => text.isEmpty
  | .anyRun :: tokens, text => text.tails.any (accepts tokens)
  | .anyOne :: _, [] => false
  | .anyOne :: tokens, _ :: text => accepts tokens text
  | .lit _ :: _, [] => false
  | .lit c :: tokens, d :: text => fold c = fold d && accepts tokens text

-- The texts a pattern stands for.
inductive Denotes : List Token → List Char → Prop where
  | nil : Denotes [] []
  | anyRun (tokens : List Token) (skipped text : List Char) (rest : Denotes tokens text) : Denotes (.anyRun :: tokens)
      (skipped ++ text)
  | anyOne (tokens : List Token) (c : Char) (text : List Char) (rest : Denotes tokens text) : Denotes
      (.anyOne :: tokens) (c :: text)
  | lit (tokens : List Token) (c d : Char) (text : List Char) (same : fold c = fold d) (rest : Denotes tokens text) :
      Denotes (.lit c :: tokens) (d :: text)

theorem accepts_iff (tokens : List Token) (text : List Char) :
    accepts fold tokens text = true ↔ Denotes fold tokens text := by
  induction tokens generalizing text with
  | nil =>
      rw [accepts, List.isEmpty_iff]
      exact ⟨fun empty => empty ▸ .nil, fun denotes => by cases denotes; rfl⟩
  | cons token tokens ih =>
      cases token with
      | anyRun =>
          rw [accepts, List.any_eq_true]
          constructor
          · intro ⟨tail, isTail, accepted⟩
            obtain ⟨skipped, isText⟩ := (List.mem_tails tail text).mp isTail
            exact isText ▸ .anyRun tokens skipped tail ((ih tail).mp accepted)
          · intro denotes
            cases denotes with
            | anyRun _ skipped tail rest => exact ⟨tail, (List.mem_tails _ _).mpr ⟨skipped, rfl⟩, (ih tail).mpr rest⟩
      | anyOne =>
          cases text with
          | nil => exact iff_of_false Bool.false_ne_true (fun denotes => nomatch denotes)
          | cons c text =>
              rw [accepts, ih]
              exact ⟨fun rest => .anyOne tokens c text rest, fun denotes => by cases denotes; assumption⟩
      | lit c =>
          cases text with
          | nil => exact iff_of_false Bool.false_ne_true (fun denotes => nomatch denotes)
          | cons d text =>
              rw [accepts, Bool.and_eq_true, decide_eq_true_eq, ih]
              constructor
              · exact fun ⟨same, rest⟩ => .lit tokens c d text same rest
              · intro denotes
                cases denotes with
                | lit _ _ _ _ same rest => exact ⟨same, rest⟩

theorem denotes_any_run (tokens : List Token) (text : List Char) :
    Denotes fold (.anyRun :: tokens) text ↔ ∃ skipped rest, text = skipped ++ rest ∧ Denotes fold tokens rest := by
  constructor
  · intro denotes
    cases denotes with
    | anyRun _ skipped rest denoted => exact ⟨skipped, rest, rfl, denoted⟩
  · intro ⟨skipped, rest, isText, denoted⟩
    exact isText ▸ .anyRun tokens skipped rest denoted

theorem denotes_everything (text : List Char) : Denotes fold [.anyRun] text :=
  (denotes_any_run fold [] text).mpr ⟨text, [], (List.append_nil text).symm, .nil⟩

theorem denotes_literal (word : List Char) (tokens : List Token) (text : List Char) :
    Denotes fold (word.map .lit ++ tokens) text ↔
      ∃ said rest, text = said ++ rest ∧ said.map fold = word.map fold ∧ Denotes fold tokens rest := by
  induction word generalizing text with
  | nil =>
      constructor
      · exact fun denoted => ⟨[], text, rfl, rfl, denoted⟩
      · intro ⟨said, rest, isText, sameCase, denoted⟩
        rw [List.map_nil, List.map_eq_nil_iff] at sameCase
        subst sameCase
        exact isText ▸ denoted
  | cons c word ih =>
      constructor
      · intro denotes
        cases denotes with
        | lit _ _ d text same denoted =>
            obtain ⟨said, rest, isText, sameCase, denotedRest⟩ := (ih text).mp denoted
            exact ⟨d :: said, rest, congrArg (d :: ·) isText,
              by rw [List.map_cons, List.map_cons, same, sameCase], denotedRest⟩
      · intro ⟨said, rest, isText, sameCase, denoted⟩
        cases said with
        | nil => cases sameCase
        | cons d said =>
            obtain ⟨same, sameRest⟩ := List.cons.inj sameCase
            subst isText
            exact .lit _ c d _ same.symm ((ih (said ++ rest)).mpr ⟨said, rest, rfl, sameRest, denoted⟩)

-- word% is a prefix search, and %word% looks for the word anywhere.
theorem accepts_starting (word text : List Char) :
    accepts fold (word.map .lit ++ [.anyRun]) text = true ↔ word.map fold <+: text.map fold := by
  rw [accepts_iff, denotes_literal]
  constructor
  · intro ⟨said, rest, isText, sameCase, _⟩
    exact ⟨rest.map fold, by rw [isText, List.map_append, sameCase]⟩
  · intro ⟨more, isText⟩
    obtain ⟨said, rest, split, sameCase, _⟩ := List.map_eq_append_iff.mp isText.symm
    exact ⟨said, rest, split, sameCase, denotes_everything fold rest⟩

theorem accepts_within (word text : List Char) :
    accepts fold (.anyRun :: (word.map .lit ++ [.anyRun])) text = true ↔ word.map fold <:+: text.map fold := by
  rw [accepts_iff, denotes_any_run]
  constructor
  · intro ⟨skipped, rest, isText, denoted⟩
    obtain ⟨more, isRest⟩ := (accepts_starting fold word rest).mp ((accepts_iff fold _ rest).mpr denoted)
    exact ⟨skipped.map fold, more, by rw [isText, List.map_append, ← isRest, List.append_assoc]⟩
  · intro ⟨before, more, isText⟩
    rw [List.append_assoc] at isText
    obtain ⟨skipped, rest, split, _, sameRest⟩ := List.map_eq_append_iff.mp isText.symm
    exact ⟨skipped, rest, split,
      (accepts_iff fold _ rest).mp ((accepts_starting fold word rest).mpr ⟨more, sameRest.symm⟩)⟩

-- The escape character before each character that means something.
def quoteOne (escape c : Char) : List Char := if c = escape ∨ c = '%' ∨ c = '_' then [escape, c] else [c]

def quote (escape : Char) (word : List Char) : List Char := word.flatMap (quoteOne escape)

theorem parse_escaped (escape c : Char) (rest : List Char) :
    parse escape (escape :: c :: rest) = (parse escape rest).map (Token.lit c :: ·) := by
  rw [parse, if_pos rfl]

theorem parse_plain (escape c : Char) (rest : List Char) (plain : ¬ (c = escape ∨ c = '%' ∨ c = '_')) :
    parse escape (c :: rest) = (parse escape rest).map (Token.lit c :: ·) := by
  obtain ⟨notEscape, notRun, notOne⟩ : c ≠ escape ∧ c ≠ '%' ∧ c ≠ '_' := by simpa only [not_or] using plain
  cases rest <;> simp [parse, notEscape, notRun, notOne]

theorem parse_any_run (escape : Char) (rest : List Char) (different : '%' ≠ escape) :
    parse escape ('%' :: rest) = (parse escape rest).map (Token.anyRun :: ·) := by
  cases rest <;> simp [parse, different]

-- A quoted word stands for itself, in whatever pattern it comes.
theorem parse_quote (escape : Char) (word rest : List Char) :
    parse escape (quote escape word ++ rest) = (parse escape rest).map (word.map Token.lit ++ ·) := by
  induction word with
  | nil => exact Option.map_id'.symm
  | cons c word ih =>
      have onward : (parse escape (quote escape word ++ rest)).map (Token.lit c :: ·) =
          (parse escape rest).map ((c :: word).map Token.lit ++ ·) := by
        rw [ih, Option.map_map]
        rfl
      rw [quote, List.flatMap_cons, List.append_assoc, quoteOne]
      by_cases special : c = escape ∨ c = '%' ∨ c = '_'
      · rw [if_pos special]
        exact (parse_escaped escape c _).trans onward
      · rw [if_neg special]
        exact (parse_plain escape c _ special).trans onward

theorem parse_starting (escape : Char) (word : List Char) (different : '%' ≠ escape) :
    parse escape (quote escape word ++ ['%']) = some (word.map .lit ++ [.anyRun]) := by
  rw [parse_quote, parse_any_run escape [] different, parse]
  rfl

theorem parse_within (escape : Char) (word : List Char) (different : '%' ≠ escape) :
    parse escape ('%' :: (quote escape word ++ ['%'])) = some (.anyRun :: (word.map .lit ++ [.anyRun])) := by
  rw [parse_any_run escape _ different, parse_starting escape word different]
  rfl

end Like
