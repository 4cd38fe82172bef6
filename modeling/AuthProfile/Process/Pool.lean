import AuthProfile.Process.Prog

set_option autoImplicit false

namespace Process

variable {ι σ ε α β : Type}

-- One scheduling decision: whose action runs next and what happens to it.
structure Move (ι : Type) where
  proc : ι
  fault : Fault
deriving DecidableEq, Repr

structure Pool (ι σ ε α : Type) where
  store : σ
  procs : ι → Prog σ ε α

namespace Pool

variable [DecidableEq ι]

def step (pool : Pool ι σ ε α) (move : Move ι) : Pool ι σ ε α :=
  let moved := (pool.procs move.proc).advance move.fault pool.store
  ⟨moved.2, Function.update pool.procs move.proc moved.1⟩

def run (pool : Pool ι σ ε α) (moves : List (Move ι)) : Pool ι σ ε α := moves.foldl step pool

@[simp] theorem run_nil (pool : Pool ι σ ε α) : pool.run [] = pool := rfl

@[simp] theorem run_cons (pool : Pool ι σ ε α) (move : Move ι) (moves : List (Move ι)) :
    pool.run (move :: moves) = (pool.step move).run moves := rfl

theorem run_append (pool : Pool ι σ ε α) (first later : List (Move ι)) :
    pool.run (first ++ later) = (pool.run first).run later := List.foldl_append

def Succeeded (pool : Pool ι σ ε Unit) (i : ι) : Prop := (pool.procs i).finished = some (.ok ())

theorem step_store (pool : Pool ι σ ε α) (move : Move ι) :
    (pool.step move).store = ((pool.procs move.proc).advance move.fault pool.store).2 := rfl

theorem step_here (pool : Pool ι σ ε α) (move : Move ι) :
    (pool.step move).procs move.proc = ((pool.procs move.proc).advance move.fault pool.store).1 :=
  Function.update_self _ _ _

theorem step_elsewhere (pool : Pool ι σ ε α) (move : Move ι) (other : ι) (different : other ≠ move.proc) :
    (pool.step move).procs other = pool.procs other :=
  Function.update_of_ne different _ _

end Pool

namespace Prog

theorem advance_atomic (lost : ε) (body : σ → Except ε (β × σ)) (s : σ) :
    (atomic lost body).advance .none s =
      match body s with
      | .ok (answer, s') => (.ret answer, s')
      | .error error => (.raise error, s) := by
  simp only [atomic, advance]
  cases body s with
  | ok pair => rfl
  | error error => rfl

theorem raise_not_ok (error : ε) (answer : α) : (Prog.raise error : Prog σ ε α).finished ≠ some (.ok answer) := by
  intro wrong
  cases wrong

theorem act_not_ok (effect : σ → σ) (next : σ → Prog σ ε α) (failed : Prog σ ε α) (answer : α) :
    (Prog.act effect next failed).finished ≠ some (.ok answer) := by
  intro wrong
  cases wrong

theorem advance_query_bind (lost : ε) (view : σ → β) (rest : β → Prog σ ε α) (s : σ) :
    (query lost view >>= rest).advance .none s = (rest (view s), s) := rfl

-- Rely and guarantee: started in s, with the store moving by `rely` between two
-- of the program's own actions, each of these moves it by `guar`.
def Guarantees (rely guar : σ → σ → Prop) : Prog σ ε α → σ → Prop
  | .ret _, _ => True
  | .raise _, _ => True
  | .act effect next failed, s =>
      ∀ s', rely s s' →
        guar s' (effect s') ∧ (next s').Guarantees rely guar (effect s') ∧
          failed.Guarantees rely guar s' ∧ failed.Guarantees rely guar (effect s')

theorem guarantees_rely (rely guar : σ → σ → Prop) (trans : ∀ a b c, rely a b → rely b c → rely a c)
    (p : Prog σ ε α) (s s' : σ) (moved : rely s s') (holds : p.Guarantees rely guar s) :
    p.Guarantees rely guar s' := by
  cases p with
  | ret value => trivial
  | raise error => trivial
  | act effect next failed => exact fun later step => holds later (trans s s' later moved step)

theorem guarantees_advance (rely guar : σ → σ → Prop) (stutter : ∀ s, rely s s) (still : ∀ s, guar s s)
    (p : Prog σ ε α) (fault : Fault) (s : σ) (holds : p.Guarantees rely guar s) :
    guar s (p.advance fault s).2 ∧ (p.advance fault s).1.Guarantees rely guar (p.advance fault s).2 := by
  cases p with
  | ret value => exact ⟨still s, trivial⟩
  | raise error => exact ⟨still s, trivial⟩
  | act effect next failed =>
      obtain ⟨moved, through, refused, lost⟩ := holds s (stutter s)
      cases fault with
      | none => exact ⟨moved, through⟩
      | before => exact ⟨still s, refused⟩
      | after => exact ⟨moved, lost⟩

-- The same with what holds of the answer when the program is done.
def Assures (rely guar : σ → σ → Prop) (post : Except ε α → σ → Prop) : Prog σ ε α → σ → Prop
  | .ret value, s => post (.ok value) s
  | .raise error, s => post (.error error) s
  | .act effect next failed, s =>
      ∀ s', rely s s' →
        guar s' (effect s') ∧ (next s').Assures rely guar post (effect s') ∧
          failed.Assures rely guar post s' ∧ failed.Assures rely guar post (effect s')

theorem assures_guarantees (rely guar : σ → σ → Prop) (post : Except ε α → σ → Prop) (p : Prog σ ε α) (s : σ)
    (holds : p.Assures rely guar post s) : p.Guarantees rely guar s := by
  induction p generalizing s with
  | ret value => trivial
  | raise error => trivial
  | act effect next failed ihNext ihFailed =>
      intro s' step
      obtain ⟨moved, through, refused, lost⟩ := holds s' step
      exact ⟨moved, ihNext s' _ through, ihFailed _ refused, ihFailed _ lost⟩

theorem assures_mono (rely guar : σ → σ → Prop) (post weaker : Except ε α → σ → Prop) (p : Prog σ ε α) (s : σ)
    (implied : ∀ result s', post result s' → weaker result s') (holds : p.Assures rely guar post s) :
    p.Assures rely guar weaker s := by
  induction p generalizing s with
  | ret value => exact implied _ _ holds
  | raise error => exact implied _ _ holds
  | act effect next failed ihNext ihFailed =>
      intro s' step
      obtain ⟨moved, through, refused, lost⟩ := holds s' step
      exact ⟨moved, ihNext s' _ through, ihFailed _ refused, ihFailed _ lost⟩

theorem assures_bind (rely guar : σ → σ → Prop) (post : Except ε β → σ → Prop) (p : Prog σ ε α)
    (rest : α → Prog σ ε β) (s : σ) (holds : p.Assures rely guar (fun result s' => match result with
      | .ok value => (rest value).Assures rely guar post s'
      | .error error => post (.error error) s') s) : (p >>= rest).Assures rely guar post s := by
  induction p generalizing s with
  | ret value => exact holds
  | raise error => exact holds
  | act effect next failed ihNext ihFailed =>
      intro s' step
      obtain ⟨moved, through, refused, lost⟩ := holds s' step
      exact ⟨moved, ihNext s' _ through, ihFailed _ refused, ihFailed _ lost⟩

theorem assures_attempt (rely guar : σ → σ → Prop) (post : Except ε (Except ε α) → σ → Prop) (p : Prog σ ε α) (s : σ)
    (holds : p.Assures rely guar (fun result s' => post (.ok result) s') s) : p.attempt.Assures rely guar post s := by
  induction p generalizing s with
  | ret value => exact holds
  | raise error => exact holds
  | act effect next failed ihNext ihFailed =>
      intro s' step
      obtain ⟨moved, through, refused, lost⟩ := holds s' step
      exact ⟨moved, ihNext s' _ through, ihFailed _ refused, ihFailed _ lost⟩

theorem assures_atomic (rely guar : σ → σ → Prop) (still : ∀ s, guar s s) (post : Except ε β → σ → Prop) (lost : ε)
    (body : σ → Except ε (β × σ)) (s : σ)
    (holds : ∀ s', rely s s' → post (.error lost) s' ∧ match body s' with
      | .ok (answer, after) => guar s' after ∧ post (.ok answer) after ∧ post (.error lost) after
      | .error error => post (.error error) s') : (atomic lost body).Assures rely guar post s := by
  intro s' step
  obtain ⟨refused, ran⟩ := holds s' step
  dsimp only
  cases run : body s' with
  | ok pair =>
      rw [run] at ran
      exact ⟨ran.1, ran.2.1, refused, ran.2.2⟩
  | error error =>
      rw [run] at ran
      exact ⟨still s', ran, refused, refused⟩

-- What the surroundings and the program itself both keep holds at the end too.
theorem assures_frame (rely guar : σ → σ → Prop) (keep : σ → Prop) (stable : ∀ a b, rely a b → keep a → keep b)
    (relied : ∀ a b, guar a b → rely a b) (post : Except ε α → σ → Prop) (p : Prog σ ε α) (s : σ) (kept : keep s)
    (holds : p.Assures rely guar post s) : p.Assures rely guar (fun result s' => post result s' ∧ keep s') s := by
  induction p generalizing s with
  | ret value => exact ⟨holds, kept⟩
  | raise error => exact ⟨holds, kept⟩
  | act effect next failed ihNext ihFailed =>
      intro s' step
      obtain ⟨moved, through, refused, lost⟩ := holds s' step
      have before : keep s' := stable s s' step kept
      have after : keep (effect s') := stable s' _ (relied _ _ moved) before
      exact ⟨moved, ihNext s' _ after through, ihFailed _ before refused, ihFailed _ after lost⟩

theorem assures_query_bind (rely guar : σ → σ → Prop) (still : ∀ s, guar s s) (post : Except ε α → σ → Prop) (lost : ε)
    (view : σ → β) (rest : β → Prog σ ε α) (s : σ)
    (holds : ∀ s', rely s s' → post (.error lost) s' ∧ (rest (view s')).Assures rely guar post s') :
    (query lost view >>= rest).Assures rely guar post s := by
  intro s' step
  obtain ⟨refused, answered⟩ := holds s' step
  exact ⟨still s', answered, refused, refused⟩

-- A program whose every action keeps `guar` from any store needs no rely at all.
def Steps (guar : σ → σ → Prop) : Prog σ ε α → Prop
  | .ret _ => True
  | .raise _ => True
  | .act effect next failed =>
      (∀ s, guar s (effect s)) ∧ (∀ s, (next s).Steps guar) ∧ failed.Steps guar

theorem steps_bind (guar : σ → σ → Prop) (p : Prog σ ε α) (rest : α → Prog σ ε β)
    (first : p.Steps guar) (later : ∀ value, (rest value).Steps guar) : (p >>= rest).Steps guar := by
  induction p with
  | ret value => exact later value
  | raise error => trivial
  | act effect next failed ihNext ihFailed =>
      obtain ⟨moved, through, refused⟩ := first
      exact ⟨moved, fun s => ihNext s (through s), ihFailed refused⟩

theorem steps_atomic (guar : σ → σ → Prop) (still : ∀ s, guar s s) (lost : ε) (body : σ → Except ε (β × σ))
    (moves : ∀ s answer s', body s = .ok (answer, s') → guar s s') : (atomic lost body).Steps guar := by
  refine ⟨fun s => ?_, fun s => ?_, trivial⟩
  · dsimp only
    cases run : body s with
    | ok pair => exact moves s pair.1 pair.2 run
    | error error => exact still s
  · dsimp only
    cases run : body s with
    | ok pair => trivial
    | error error => trivial

theorem steps_query (guar : σ → σ → Prop) (still : ∀ s, guar s s) (lost : ε) (view : σ → β) :
    (query lost view : Prog σ ε β).Steps guar := by
  apply steps_atomic guar still
  intro s answer s' run
  cases run
  exact still s

theorem steps_exec (guar : σ → σ → Prop) (still : ∀ s, guar s s) (trans : ∀ a b c, guar a b → guar b c → guar a c)
    (p : Prog σ ε α) (steps : p.Steps guar) (script : List Fault) (s : σ) : guar s (p.exec script s).store := by
  induction p generalizing script s with
  | ret value => exact still s
  | raise error => exact still s
  | act effect next failed ihNext ihFailed =>
      obtain ⟨moved, through, refused⟩ := steps
      simp only [exec]
      cases script.headD .none with
      | none => exact trans _ _ _ (moved s) (ihNext s (through s) script.tail (effect s))
      | before => exact ihFailed refused script.tail s
      | after => exact trans _ _ _ (moved s) (ihFailed refused script.tail (effect s))

theorem steps_guarantees (rely guar : σ → σ → Prop) (p : Prog σ ε α) (s : σ) (steps : p.Steps guar) :
    p.Guarantees rely guar s := by
  induction p generalizing s with
  | ret value => trivial
  | raise error => trivial
  | act effect next failed ihNext ihFailed =>
      obtain ⟨moved, through, refused⟩ := steps
      exact fun s' _ => ⟨moved s', ihNext s' _ (through s'), ihFailed s' refused, ihFailed _ refused⟩

end Prog

namespace Pool

variable [DecidableEq ι]

-- The parallel rule: when every program keeps its guarantee, every guarantee is a
-- rely of the others, and the rely is a preorder, the whole run moves by the rely.
theorem run_guarantees (rely guar : σ → σ → Prop) (stutter : ∀ s, rely s s)
    (trans : ∀ a b c, rely a b → rely b c → rely a c) (still : ∀ s, guar s s)
    (relied : ∀ a b, guar a b → rely a b) (pool : Pool ι σ ε α) (moves : List (Move ι))
    (kept : ∀ i, (pool.procs i).Guarantees rely guar pool.store) :
    rely pool.store (pool.run moves).store ∧
      ∀ i, ((pool.run moves).procs i).Guarantees rely guar (pool.run moves).store := by
  induction moves generalizing pool with
  | nil => exact ⟨stutter _, kept⟩
  | cons move moves ih =>
      obtain ⟨moved, continued⟩ :=
        Prog.guarantees_advance rely guar stutter still _ move.fault pool.store (kept move.proc)
      have step : rely pool.store (pool.step move).store := relied _ _ moved
      have next : ∀ i, ((pool.step move).procs i).Guarantees rely guar (pool.step move).store := by
        intro i
        by_cases same : i = move.proc
        · subst same
          rw [step_here]
          exact continued
        · rw [step_elsewhere pool move i same]
          exact Prog.guarantees_rely rely guar trans _ _ _ step (kept i)
      obtain ⟨rest, final⟩ := ih (pool.step move) next
      exact ⟨trans _ _ _ step rest, final⟩

end Pool

end Process
