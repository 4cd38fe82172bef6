import AuthProfile.Process.Prog

set_option autoImplicit false

namespace Process

variable {σ ε α β : Type}

-- The first n actions go through.
def through : Nat → List Fault → Bool
  | 0, _ => true
  | n + 1, script => script.headD .none = .none && through n script.tail

theorem through_head (n : Nat) (script : List Fault) :
    through (n + 1) script = true ↔ script.headD .none = .none ∧ through n script.tail = true := by
  simp [through]

theorem through_nil (n : Nat) : through n [] = true := by
  induction n with
  | zero => rfl
  | succ n ih => exact (through_head n []).mpr ⟨rfl, ih⟩

theorem through_add (n m : Nat) (script : List Fault) :
    through (n + m) script = true ↔ through n script = true ∧ through m (script.drop n) = true := by
  induction n generalizing script with
  | zero => simp [through]
  | succ n ih =>
      rw [Nat.add_right_comm, through_head, through_head, ih, and_assoc]
      cases script <;> simp

theorem through_last (n : Nat) (script : List Fault) :
    through (n + 1) script = true ↔ through n script = true ∧ (script.drop n).headD .none = .none := by
  rw [through_add n 1, through_head]
  simp [through]

-- The action after the first n takes effect, whether or not it is answered.
def takesEffect (n : Nat) (script : List Fault) : Bool := through n script && (script.drop n).headD .none ≠ .before

theorem takes_effect_of_through (n : Nat) (script : List Fault) (passes : through (n + 1) script = true) :
    takesEffect n script = true := by
  obtain ⟨earlier, last⟩ := (through_last n script).mp passes
  rw [takesEffect, earlier, last]
  rfl

theorem takes_effect_add (n m : Nat) (script : List Fault) :
    takesEffect (n + m) script = (through n script && takesEffect m (script.drop n)) := by
  have split : through (n + m) script = (through n script && through m (script.drop n)) := by
    rw [Bool.eq_iff_iff, through_add, Bool.and_eq_true]
  rw [takesEffect, split, takesEffect, List.drop_drop, Bool.and_assoc]

-- A script under which nothing comes after the first n actions.
def cutAt : Nat → List Fault → List Fault
  | 0, _ => [.before]
  | n + 1, script => script.headD .none :: cutAt n script.tail

namespace Prog

-- The first action that fails ends the program.
def GivesUp : Prog σ ε α → Prop
  | .ret _ => True
  | .raise _ => True
  | .act _ next failed => (∃ error, failed = .raise error) ∧ ∀ s, (next s).GivesUp

-- How many actions a run without a failure takes.
def actions : Prog σ ε α → σ → Nat
  | .ret _, _ => 0
  | .raise _, _ => 0
  | .act effect next _, s => (next s).actions (effect s) + 1

theorem exec_through (p : Prog σ ε α) (script : List Fault) (s : σ) (passes : through (p.actions s) script = true) :
    p.exec script s = ⟨(p.exec [] s).result, script.drop (p.actions s), (p.exec [] s).store⟩ := by
  induction p generalizing script s with
  | ret value => rfl
  | raise error => rfl
  | act effect next failed ihNext ihFailed =>
      obtain ⟨first, later⟩ := (through_head _ script).mp passes
      simp only [exec, actions, first, List.headD_nil, List.tail_nil]
      rw [ihNext s script.tail (effect s) later]
      cases script <;> simp

theorem exec_cut (p : Prog σ ε α) (givesUp : p.GivesUp) (script : List Fault) (s : σ)
    (cut : through (p.actions s) script = false) : ∃ error, (p.exec script s).result = .error error := by
  induction p generalizing script s with
  | ret value => cases cut
  | raise error => cases cut
  | act effect next failed ihNext ihFailed =>
      obtain ⟨⟨error, isRaise⟩, later⟩ := givesUp
      simp only [exec]
      cases first : script.headD .none with
      | none =>
          simp only [actions, through, first, decide_true, Bool.true_and] at cut
          exact ihNext s (later s) script.tail (effect s) cut
      | before => exact ⟨error, by rw [isRaise]; rfl⟩
      | after => exact ⟨error, by rw [isRaise]; rfl⟩

theorem gives_up_bind (p : Prog σ ε α) (rest : α → Prog σ ε β) (first : p.GivesUp)
    (later : ∀ value, (rest value).GivesUp) :
    (p >>= rest).GivesUp := by
  induction p with
  | ret value => exact later value
  | raise error => trivial
  | act effect next failed ihNext ihFailed =>
      obtain ⟨⟨error, isRaise⟩, through⟩ := first
      exact ⟨⟨error, by rw [isRaise]; rfl⟩, fun s => ihNext s (through s)⟩

theorem gives_up_of_except (computed : Except ε α) : (ofExcept computed : Prog σ ε α).GivesUp := by
  cases computed <;> trivial

theorem gives_up_atomic (lost : ε) (body : σ → Except ε (β × σ)) : (atomic lost body).GivesUp := by
  refine ⟨⟨lost, rfl⟩, fun s => ?_⟩
  dsimp only
  cases body s <;> trivial

theorem gives_up_query (lost : ε) (view : σ → β) : (query lost view : Prog σ ε β).GivesUp := gives_up_atomic lost _

@[simp] theorem actions_ret (value : α) (s : σ) : (Prog.ret value : Prog σ ε α).actions s = 0 := rfl

theorem actions_atomic (lost : ε) (body : σ → Except ε (β × σ)) (s : σ) : (atomic lost body).actions s = 1 := by
  simp only [atomic, actions]
  cases body s <;> rfl

theorem actions_query_bind (lost : ε) (view : σ → β) (rest : β → Prog σ ε α) (s : σ) :
    (query lost view >>= rest).actions s = (rest (view s)).actions s + 1 := rfl

theorem actions_atomic_bind (lost : ε) (body : σ → Except ε (β × σ)) (rest : β → Prog σ ε α) (s s' : σ) (answer : β)
    (run : body s = .ok (answer, s')) : (atomic lost body >>= rest).actions s = (rest answer).actions s' + 1 := by
  simp only [atomic, act_bind, actions, run, ret_bind]

end Prog

end Process
