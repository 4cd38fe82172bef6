import AuthProfile.Process.Pool
import AuthProfile.Process.Wp

set_option autoImplicit false

namespace Process

variable {σ τ ε α β : Type}

-- One part of a larger store.
structure Lens (τ σ : Type) where
  get : τ → σ
  set : τ → σ → τ
  get_set : ∀ t s, get (set t s) = s
  set_get : ∀ t, set t (get t) = t
  set_set : ∀ t s s', set (set t s) s' = set t s'

namespace Prog

-- The same program on the larger store.
def focus (lens : Lens τ σ) : Prog σ ε α → Prog τ ε α
  | .ret value => .ret value
  | .raise error => .raise error
  | .act effect next failed =>
      .act (fun t => lens.set t (effect (lens.get t))) (fun t => (next (lens.get t)).focus lens) (failed.focus lens)

@[simp] theorem focus_ret (lens : Lens τ σ) (value : α) : (Prog.ret value : Prog σ ε α).focus lens = .ret value := rfl

@[simp] theorem focus_raise (lens : Lens τ σ) (error : ε) :
    (Prog.raise error : Prog σ ε α).focus lens = .raise error := rfl

theorem exec_focus (lens : Lens τ σ) (p : Prog σ ε α) (script : List Fault) (t : τ) :
    (p.focus lens).exec script t =
      ⟨(p.exec script (lens.get t)).result, (p.exec script (lens.get t)).script,
        lens.set t (p.exec script (lens.get t)).store⟩ := by
  induction p generalizing script t with
  | ret value => simp only [focus, exec, lens.set_get]
  | raise error => simp only [focus, exec, lens.set_get]
  | act effect next failed ihNext ihFailed =>
      simp only [focus, exec]
      cases script.headD .none with
      | none => simp only [ihNext, lens.get_set, lens.set_set]
      | before => simp only [ihFailed]
      | after => simp only [ihFailed, lens.get_set, lens.set_set]

theorem steps_focus (lens : Lens τ σ) (small : σ → σ → Prop) (large : τ → τ → Prop)
    (widens : ∀ t s', small (lens.get t) s' → large t (lens.set t s')) (p : Prog σ ε α) (steps : p.Steps small) :
    (p.focus lens).Steps large := by
  induction p with
  | ret value => trivial
  | raise error => trivial
  | act effect next failed ihNext ihFailed =>
      obtain ⟨moved, through, refused⟩ := steps
      exact ⟨fun t => widens t _ (moved (lens.get t)), fun t => ihNext _ (through (lens.get t)), ihFailed refused⟩

end Prog

end Process
