import AuthProfile.Process.Focus

set_option autoImplicit false

-- An invariant of the store that programs keep action by action, so that no order of
-- their actions breaks it.
namespace Process

variable {ι σ τ ε α β : Type}

namespace Prog

def Keeps (inv : σ → Prop) : Prog σ ε α → Prop
  | .ret _ => True
  | .raise _ => True
  | .act effect next failed => ∀ s, inv s → inv (effect s) ∧ (next s).Keeps inv ∧ failed.Keeps inv

section Rules

variable (inv : σ → Prop)

theorem keeps_bind (p : Prog σ ε α) (rest : α → Prog σ ε β) (first : p.Keeps inv)
    (later : ∀ value, (rest value).Keeps inv) :
    (p >>= rest).Keeps inv := by
  induction p with
  | ret value => exact later value
  | raise error => trivial
  | act effect next failed ihNext ihFailed =>
      intro s holds
      obtain ⟨kept, through, refused⟩ := first s holds
      exact ⟨kept, ihNext s through, ihFailed refused⟩

theorem keeps_attempt (p : Prog σ ε α) (kept : p.Keeps inv) : p.attempt.Keeps inv := by
  induction p with
  | ret value => trivial
  | raise error => trivial
  | act effect next failed ihNext ihFailed =>
      intro s holds
      obtain ⟨still, through, refused⟩ := kept s holds
      exact ⟨still, ihNext s through, ihFailed refused⟩

theorem keeps_atomic (lost : ε) (body : σ → Except ε (β × σ))
    (kept : ∀ s answer after, inv s → body s = .ok (answer, after) → inv after) : (atomic lost body).Keeps inv := by
  intro s holds
  dsimp only
  cases run : body s with
  | ok pair => exact ⟨kept s pair.1 pair.2 holds run, trivial, trivial⟩
  | error error => exact ⟨holds, trivial, trivial⟩

-- What is read is read from a store that has the invariant.
theorem keeps_query_bind (lost : ε) (view : σ → β) (rest : β → Prog σ ε α)
    (later : ∀ s, inv s → (rest (view s)).Keeps inv) :
    (query lost view >>= rest).Keeps inv := fun s holds => ⟨holds, later s holds, trivial⟩

theorem keeps_always (always : ∀ s, inv s) (p : Prog σ ε α) : p.Keeps inv := by
  induction p with
  | ret value => trivial
  | raise error => trivial
  | act effect next failed ihNext ihFailed => exact fun s _ => ⟨always _, ihNext s, ihFailed⟩

theorem keeps_focus (lens : Lens τ σ) (large : τ → Prop) (narrows : ∀ t, large t → inv (lens.get t))
    (widens : ∀ t s, large t → inv s → large (lens.set t s)) (p : Prog σ ε α) (kept : p.Keeps inv) :
    (p.focus lens).Keeps large := by
  induction p with
  | ret value => trivial
  | raise error => trivial
  | act effect next failed ihNext ihFailed =>
      intro t holds
      obtain ⟨still, through, refused⟩ := kept (lens.get t) (narrows t holds)
      exact ⟨widens t _ holds still, ihNext _ through, ihFailed refused⟩

theorem keeps_advance (p : Prog σ ε α) (fault : Fault) (s : σ) (kept : p.Keeps inv) (holds : inv s) :
    inv (p.advance fault s).2 ∧ (p.advance fault s).1.Keeps inv := by
  cases p with
  | ret value => exact ⟨holds, trivial⟩
  | raise error => exact ⟨holds, trivial⟩
  | act effect next failed =>
      obtain ⟨still, through, refused⟩ := kept s holds
      cases fault with
      | none => exact ⟨still, through⟩
      | before => exact ⟨holds, refused⟩
      | after => exact ⟨still, refused⟩

end Rules

end Prog

-- No order of the programs' actions breaks what each of them keeps.
theorem Pool.run_keeps [DecidableEq ι] (inv : σ → Prop) (pool : Pool ι σ ε α) (moves : List (Move ι))
    (holds : inv pool.store) (kept : ∀ i, (pool.procs i).Keeps inv) : inv (pool.run moves).store := by
  induction moves generalizing pool with
  | nil => exact holds
  | cons move moves ih =>
      obtain ⟨still, continued⟩ := Prog.keeps_advance inv _ move.fault pool.store (kept move.proc) holds
      refine ih (pool.step move) still fun i => ?_
      by_cases here : i = move.proc
      · subst here
        rw [Pool.step_here]
        exact continued
      · rw [Pool.step_elsewhere pool move i here]
        exact kept i

end Process
