import AuthProfile.Process.Prog

set_option autoImplicit false

namespace Process

variable {σ ε α β : Type}

namespace Prog

-- The weakest precondition under every script: whichever actions fail, and
-- whether or not they took effect, the run ends in Q.
def wp (post : Except ε α → σ → Prop) : Prog σ ε α → σ → Prop
  | .ret value, s => post (.ok value) s
  | .raise error, s => post (.error error) s
  | .act effect next failed, s =>
      (next s).wp post (effect s) ∧ failed.wp post s ∧ failed.wp post (effect s)

theorem wp_exec (post : Except ε α → σ → Prop) (p : Prog σ ε α) (s : σ) (holds : p.wp post s)
    (script : List Fault) : post (p.exec script s).result (p.exec script s).store := by
  induction p generalizing script s with
  | ret value => exact holds
  | raise error => exact holds
  | act effect next failed ihNext ihFailed =>
      obtain ⟨through, refused, lost⟩ := holds
      simp only [exec]
      cases script.headD .none with
      | none => exact ihNext s (effect s) through script.tail
      | before => exact ihFailed s refused script.tail
      | after => exact ihFailed (effect s) lost script.tail

theorem wp_of_exec (post : Except ε α → σ → Prop) (p : Prog σ ε α) (s : σ)
    (every : ∀ script, post (p.exec script s).result (p.exec script s).store) : p.wp post s := by
  induction p generalizing s with
  | ret value => exact every []
  | raise error => exact every []
  | act effect next failed ihNext ihFailed =>
      refine ⟨ihNext s (effect s) fun script => ?_, ihFailed s fun script => ?_,
        ihFailed (effect s) fun script => ?_⟩
      · exact every (.none :: script)
      · exact every (.before :: script)
      · exact every (.after :: script)

theorem wp_iff_exec (post : Except ε α → σ → Prop) (p : Prog σ ε α) (s : σ) :
    p.wp post s ↔ ∀ script, post (p.exec script s).result (p.exec script s).store :=
  ⟨wp_exec post p s, wp_of_exec post p s⟩

theorem wp_mono (post weaker : Except ε α → σ → Prop) (p : Prog σ ε α) (s : σ)
    (implied : ∀ result s', post result s' → weaker result s') (holds : p.wp post s) : p.wp weaker s := by
  induction p generalizing s with
  | ret value => exact implied _ _ holds
  | raise error => exact implied _ _ holds
  | act effect next failed ihNext ihFailed =>
      exact ⟨ihNext s _ holds.1, ihFailed _ holds.2.1, ihFailed _ holds.2.2⟩

@[simp] theorem wp_ret (post : Except ε α → σ → Prop) (value : α) (s : σ) :
    (Prog.ret value : Prog σ ε α).wp post s ↔ post (.ok value) s := Iff.rfl

@[simp] theorem wp_raise (post : Except ε α → σ → Prop) (error : ε) (s : σ) :
    (Prog.raise error : Prog σ ε α).wp post s ↔ post (.error error) s := Iff.rfl

theorem wp_bind (post : Except ε β → σ → Prop) (p : Prog σ ε α) (rest : α → Prog σ ε β) (s : σ) :
    (p >>= rest).wp post s ↔
      p.wp (fun result s' => match result with
        | .ok value => (rest value).wp post s'
        | .error error => post (.error error) s') s := by
  induction p generalizing s with
  | ret value => exact Iff.rfl
  | raise error => exact Iff.rfl
  | act effect next failed ihNext ihFailed => simp only [act_bind, wp, ihNext, ihFailed]

theorem wp_of_except_bind (post : Except ε β → σ → Prop) (computed : Except ε α) (rest : α → Prog σ ε β) (s : σ) :
    (ofExcept computed >>= rest).wp post s ↔
      match computed with
      | .ok value => (rest value).wp post s
      | .error error => post (.error error) s := by
  cases computed with
  | ok value => exact Iff.rfl
  | error error => exact Iff.rfl

theorem wp_atomic (post : Except ε β → σ → Prop) (lost : ε) (body : σ → Except ε (β × σ)) (s : σ) :
    (atomic lost body).wp post s ↔
      post (.error lost) s ∧
        match body s with
        | .ok (answer, s') => post (.ok answer) s' ∧ post (.error lost) s'
        | .error error => post (.error error) s := by
  simp only [atomic, wp]
  cases body s with
  | ok pair => exact and_left_comm
  | error error => simp only [wp, and_self, and_comm]

theorem wp_query (post : Except ε β → σ → Prop) (lost : ε) (view : σ → β) (s : σ) :
    (query lost view).wp post s ↔ post (.error lost) s ∧ post (.ok (view s)) s := by
  rw [query, wp_atomic]
  constructor
  · rintro ⟨failed, answered, _⟩
    exact ⟨failed, answered⟩
  · rintro ⟨failed, answered⟩
    exact ⟨failed, answered, failed⟩

theorem wp_query_bind (post : Except ε α → σ → Prop) (lost : ε) (view : σ → β) (rest : β → Prog σ ε α)
    (s : σ) :
    (query lost view >>= rest).wp post s ↔ post (.error lost) s ∧ (rest (view s)).wp post s := by
  rw [wp_bind, wp_query]

end Prog

end Process
