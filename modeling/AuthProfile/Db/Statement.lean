import AuthProfile.Db.Columns
import AuthProfile.Process.Solo

set_option autoImplicit false

namespace AuthProfile

open Process

variable {σ α β : Type}

-- The texts a statement is sent with.
def Legal (parameters : List String) : Prop := ∀ text ∈ parameters, Storable text

instance (parameters : List String) : Decidable (Legal parameters) :=
  inferInstanceAs (Decidable (∀ text ∈ parameters, Storable text))

@[simp] theorem legal_nil : Legal [] := fun _ member => nomatch member

@[simp] theorem legal_cons (text : String) (parameters : List String) :
    Legal (text :: parameters) ↔ Storable text ∧ Legal parameters := List.forall_mem_cons

theorem legal_one (text : String) (storable : Storable text) : Legal [text] := by simpa using storable

theorem legal_two (first second : String) (storable : Storable first) (storable' : Storable second) :
    Legal [first, second] := by
  simpa using ⟨storable, storable'⟩

def answered (parameters : List String) (found : α) : Except Error α :=
  if Legal parameters then .ok found else .error (.data "parameter")

-- A SELECT, or the part of a statement that looks for its rows.
def select (parameters : List String) (view : σ → α) : Prog σ Error α := do
  let found ← Prog.query .connection view
  Prog.ofExcept (answered parameters found)

theorem answered_legal (parameters : List String) (legal : Legal parameters) (found : α) :
    answered parameters found = .ok found :=
  if_pos legal

theorem answered_refused (parameters : List String) (refused : ¬ Legal parameters) (found : α) :
    answered parameters found = .error (.data "parameter") := if_neg refused

theorem select_legal (parameters : List String) (legal : Legal parameters) (view : σ → α) :
    select parameters view = Prog.query .connection view := by
  have same : ∀ found : α, (Prog.ofExcept (answered parameters found) : Prog σ Error α) = .ret found := fun found => by
    rw [answered_legal parameters legal]
    rfl
  rw [select]
  simp only [same]
  exact bind_pure _

theorem select_refused (parameters : List String) (refused : ¬ Legal parameters) (view : σ → α) :
    select parameters view = Prog.query .connection view >>= fun _ => Prog.raise (.data "parameter") := by
  rw [select]
  simp only [answered_refused parameters refused]
  rfl

section Rules

variable (parameters : List String) (view : σ → β) (rest : β → Prog σ Error α) (s : σ)

theorem wp_select_bind (post : Except Error α → σ → Prop) (refused : ∀ error, post (.error error) s)
    (later : (rest (view s)).wp post s) : (select parameters view >>= rest).wp post s := by
  by_cases legal : Legal parameters
  · rw [select_legal parameters legal, Prog.wp_query_bind]
    exact ⟨refused _, later⟩
  · rw [select_refused parameters legal, bind_assoc, Prog.wp_query_bind]
    exact ⟨refused _, refused _⟩

theorem exec_select_bind (legal : Legal parameters) (script : List Fault) :
    (select parameters view >>= rest).exec script s =
      if script.headD .none = .none then (rest (view s)).exec script.tail s
        else ⟨.error .connection, script.tail, s⟩ := by
  rw [select_legal parameters legal, Prog.exec_query_bind]

theorem exec_select_refused (refused : ¬ Legal parameters) (script : List Fault) :
    (select parameters view >>= rest).exec script s =
      ⟨.error (if script.headD .none = .none then .data "parameter" else .connection), script.tail, s⟩ := by
  rw [select_refused parameters refused, bind_assoc, Prog.exec_query_bind]
  split <;> rfl

-- A statement that is answered was sent.
theorem exec_select_ok (script : List Fault) (value : α)
    (run : ((select parameters view >>= rest).exec script s).result = .ok value) :
    Legal parameters ∧ (select parameters view >>= rest).exec script s = (rest (view s)).exec script.tail s := by
  by_cases legal : Legal parameters
  · rw [exec_select_bind parameters view rest s legal] at run ⊢
    split at run
    · rename_i sent
      exact ⟨legal, if_pos sent⟩
    · cases run
  · rw [exec_select_refused parameters view rest s legal] at run
    cases run

theorem exec_select_alone (legal : Legal parameters) :
    (select parameters view >>= rest).exec [] s = (rest (view s)).exec [] s := by
  rw [select_legal parameters legal, Prog.exec_query_alone]

theorem advance_select (legal : Legal parameters) :
    (select parameters view >>= rest).advance .none s = (rest (view s), s) := by
  rw [select_legal parameters legal, Prog.advance_query_bind]

theorem advance_select_refused (refused : ¬ Legal parameters) :
    (select parameters view >>= rest).advance .none s = (.raise (.data "parameter"), s) := by
  rw [select_refused parameters refused, bind_assoc, Prog.advance_query_bind]
  rfl

theorem keeps_select_bind (inv : σ → Prop) (later : ∀ s, inv s → (rest (view s)).Keeps inv) :
    (select parameters view >>= rest).Keeps inv := by
  by_cases legal : Legal parameters
  · rw [select_legal parameters legal]
    exact Prog.keeps_query_bind inv _ view rest later
  · rw [select_refused parameters legal, bind_assoc]
    exact Prog.keeps_query_bind inv _ view _ fun _ _ => trivial

theorem select_steps (guar : σ → σ → Prop) (still : ∀ s, guar s s) : (select parameters view).Steps guar := by
  by_cases legal : Legal parameters
  · rw [select_legal parameters legal]
    exact Prog.steps_query guar still _ view
  · rw [select_refused parameters legal]
    exact Prog.steps_bind guar _ _ (Prog.steps_query guar still _ view) fun _ => trivial

theorem select_gives_up : (select parameters view).GivesUp := by
  by_cases legal : Legal parameters
  · rw [select_legal parameters legal]
    exact Prog.gives_up_query _ view
  · rw [select_refused parameters legal]
    exact Prog.gives_up_bind _ _ (Prog.gives_up_query _ view) fun _ => trivial

theorem select_reads : (select parameters view).Reads :=
  ⟨select_steps parameters view _ fun _ => rfl, select_gives_up parameters view⟩

theorem meets_select_bind (rely : σ → Prop) (guar : σ → σ → Prop) (still : ∀ s, guar s s) (fit : Except Error α → Prop)
    (failed : fit (.error .connection) ∧ fit (.error (.data "parameter")))
    (later : ∀ s, rely s → (rest (view s)).Meets rely guar fit) :
    (select parameters view >>= rest).Meets rely guar fit := by
  by_cases legal : Legal parameters
  · rw [select_legal parameters legal]
    exact Prog.meets_query_bind rely guar still fit _ view rest failed.1 later
  · rw [select_refused parameters legal, bind_assoc]
    exact Prog.meets_query_bind rely guar still fit _ view _ failed.1 fun _ _ => failed.2

theorem assures_select_bind (rely guar : σ → σ → Prop) (still : ∀ s, guar s s) (post : Except Error α → σ → Prop)
    (holds : ∀ s', rely s s' → (∀ error, post (.error error) s') ∧ (rest (view s')).Assures rely guar post s') :
    (select parameters view >>= rest).Assures rely guar post s := by
  by_cases legal : Legal parameters
  · rw [select_legal parameters legal]
    exact Prog.assures_query_bind rely guar still post _ view rest s fun s' step =>
      ⟨(holds s' step).1 _, (holds s' step).2⟩
  · rw [select_refused parameters legal, bind_assoc]
    exact Prog.assures_query_bind rely guar still post _ view _ s fun s' step =>
      ⟨(holds s' step).1 _, (holds s' step).1 _⟩

theorem select_leaves (post : Except Error α → Prop)
    (failed : post (.error .connection) ∧ post (.error (.data "parameter")))
    (later : ∀ answer, (rest answer).Leaves post) : (select parameters view >>= rest).Leaves post := by
  by_cases legal : Legal parameters
  · rw [select_legal parameters legal]
    exact ⟨fun s => later (view s), failed.1⟩
  · rw [select_refused parameters legal, bind_assoc]
    exact ⟨fun _ => failed.2, failed.1⟩

end Rules

end AuthProfile
