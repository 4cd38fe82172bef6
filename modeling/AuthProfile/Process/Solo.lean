import AuthProfile.Process.Pool

set_option autoImplicit false

namespace Process

variable {ι σ ε α β : Type}

namespace Prog

-- Every answer the program can come to, whatever the store does under it.
def Leaves (post : Except ε α → Prop) : Prog σ ε α → Prop
  | .ret value => post (.ok value)
  | .raise error => post (.error error)
  | .act _ next failed => (∀ s, (next s).Leaves post) ∧ failed.Leaves post

theorem leaves_mono (post weaker : Except ε α → Prop) (p : Prog σ ε α) (implied : ∀ result, post result → weaker result)
    (holds : p.Leaves post) : p.Leaves weaker := by
  induction p with
  | ret value => exact implied _ holds
  | raise error => exact implied _ holds
  | act effect next failed ihNext ihFailed => exact ⟨fun s => ihNext s (holds.1 s), ihFailed holds.2⟩

theorem leaves_advance (post : Except ε α → Prop) (p : Prog σ ε α) (fault : Fault) (s : σ) (holds : p.Leaves post) :
    (p.advance fault s).1.Leaves post := by
  cases p with
  | ret value => exact holds
  | raise error => exact holds
  | act effect next failed =>
      cases fault with
      | none => exact holds.1 s
      | before => exact holds.2
      | after => exact holds.2

theorem leaves_finished (post : Except ε α → Prop) (p : Prog σ ε α) (result : Except ε α) (holds : p.Leaves post)
    (done : p.finished = some result) : post result := by
  cases p with
  | ret value =>
      cases done
      exact holds
  | raise error =>
      cases done
      exact holds
  | act effect next failed => cases done

theorem leaves_bind (post : Except ε β → Prop) (p : Prog σ ε α) (rest : α → Prog σ ε β)
    (first : p.Leaves fun result => match result with
      | .ok _ => True
      | .error error => post (.error error))
    (later : ∀ value, (rest value).Leaves post) : (p >>= rest).Leaves post := by
  induction p with
  | ret value => exact later value
  | raise error => exact first
  | act effect next failed ihNext ihFailed => exact ⟨fun s => ihNext s (first.1 s), ihFailed first.2⟩

theorem leaves_atomic (post : Except ε β → Prop) (lost : ε) (body : σ → Except ε (β × σ)) (onLost : post (.error lost))
    (answers : ∀ s answer s', body s = .ok (answer, s') → post (.ok answer))
    (errors : ∀ s error, body s = .error error → post (.error error)) : (atomic lost body).Leaves post := by
  refine ⟨fun s => ?_, onLost⟩
  dsimp only
  cases run : body s with
  | ok pair => exact answers s pair.1 pair.2 run
  | error error => exact errors s error run

theorem finished_advance (p : Prog σ ε α) (fault : Fault) (s : σ) (result : Except ε α)
    (done : p.finished = some result) :
    p.advance fault s = (p, s) := by
  cases p with
  | ret value => rfl
  | raise error => rfl
  | act effect next failed => cases done

-- Run alone and without faults: `inv` holds before each of its actions, `post` at its end.
def Along (inv : σ → Prop) (post : Except ε α → σ → Prop) : Prog σ ε α → σ → Prop
  | .ret value, s => post (.ok value) s
  | .raise error, s => post (.error error) s
  | .act effect next _, s => inv s ∧ (next s).Along inv post (effect s)

theorem along_mono (inv : σ → Prop) (post weaker : Except ε α → σ → Prop) (p : Prog σ ε α) (s : σ)
    (implied : ∀ result s', post result s' → weaker result s') (holds : p.Along inv post s) : p.Along inv weaker s := by
  induction p generalizing s with
  | ret value => exact implied _ _ holds
  | raise error => exact implied _ _ holds
  | act effect next failed ihNext ihFailed => exact ⟨holds.1, ihNext s _ holds.2⟩

theorem along_advance (inv : σ → Prop) (post : Except ε α → σ → Prop) (p : Prog σ ε α) (s : σ)
    (holds : p.Along inv post s) :
    (p.advance .none s).1.Along inv post (p.advance .none s).2 := by
  cases p with
  | ret value => exact holds
  | raise error => exact holds
  | act effect next failed => exact holds.2

theorem along_unfinished (inv : σ → Prop) (post : Except ε α → σ → Prop) (p : Prog σ ε α) (s : σ)
    (holds : p.Along inv post s) (running : p.finished = none) : inv s := by
  cases p with
  | ret value => cases running
  | raise error => cases running
  | act effect next failed => exact holds.1

theorem along_finished (inv : σ → Prop) (post : Except ε α → σ → Prop) (p : Prog σ ε α) (s : σ) (result : Except ε α)
    (holds : p.Along inv post s) (done : p.finished = some result) : post result s := by
  cases p with
  | ret value =>
      cases done
      exact holds
  | raise error =>
      cases done
      exact holds
  | act effect next failed => cases done

theorem along_bind (inv : σ → Prop) (post : Except ε β → σ → Prop) (p : Prog σ ε α) (rest : α → Prog σ ε β) (s : σ) :
    (p >>= rest).Along inv post s ↔
      p.Along inv (fun result s' => match result with
        | .ok value => (rest value).Along inv post s'
        | .error error => post (.error error) s') s := by
  induction p generalizing s with
  | ret value => exact Iff.rfl
  | raise error => exact Iff.rfl
  | act effect next failed ihNext ihFailed => simp only [act_bind, Along, ihNext]

theorem along_atomic (inv : σ → Prop) (post : Except ε β → σ → Prop) (lost : ε) (body : σ → Except ε (β × σ)) (s : σ) :
    (atomic lost body).Along inv post s ↔
      inv s ∧ match body s with
        | .ok (answer, s') => post (.ok answer) s'
        | .error error => post (.error error) s := by
  simp only [atomic, Along]
  cases body s with
  | ok pair => exact Iff.rfl
  | error error => exact Iff.rfl

theorem along_query_bind (inv : σ → Prop) (post : Except ε α → σ → Prop) (lost : ε) (view : σ → β)
    (rest : β → Prog σ ε α)
    (s : σ) : (query lost view >>= rest).Along inv post s ↔ inv s ∧ (rest (view s)).Along inv post s := by
  rw [along_bind, query, along_atomic]

-- Nothing fails, and others move the store by `rely`: every action keeps `guar`, and
-- the program returns in `post`.
def Returns (rely guar : σ → σ → Prop) (post : α → σ → Prop) : Prog σ ε α → σ → Prop
  | .ret value, s => post value s
  | .raise _, _ => False
  | .act effect next _, s => ∀ s', rely s s' → guar s' (effect s') ∧ (next s').Returns rely guar post (effect s')

theorem returns_rely (rely guar : σ → σ → Prop) (trans : ∀ a b c, rely a b → rely b c → rely a c) (post : α → σ → Prop)
    (stable : ∀ value a b, rely a b → post value a → post value b) (p : Prog σ ε α) (s s' : σ) (moved : rely s s')
    (holds : p.Returns rely guar post s) : p.Returns rely guar post s' := by
  cases p with
  | ret value => exact stable value s s' moved holds
  | raise error => exact holds
  | act effect next failed => exact fun later step => holds later (trans s s' later moved step)

theorem returns_query_bind (rely guar : σ → σ → Prop) (still : ∀ s, guar s s) (post : α → σ → Prop) (lost : ε)
    (view : σ → β)
    (rest : β → Prog σ ε α) (s : σ) (holds : ∀ s', rely s s' → (rest (view s')).Returns rely guar post s') :
    (query lost view >>= rest).Returns rely guar post s := fun s' step => ⟨still s', holds s' step⟩

end Prog

namespace Pool

variable [DecidableEq ι]

def moves (schedule : List ι) : List (Move ι) := schedule.map fun i => ⟨i, .none⟩

def play (pool : Pool ι σ ε α) (schedule : List ι) : Pool ι σ ε α := pool.run (moves schedule)

@[simp] theorem play_nil (pool : Pool ι σ ε α) : pool.play [] = pool := rfl

@[simp] theorem play_cons (pool : Pool ι σ ε α) (i : ι) (schedule : List ι) :
    pool.play (i :: schedule) = (pool.step ⟨i, .none⟩).play schedule := rfl

theorem play_append (pool : Pool ι σ ε α) (first later : List ι) :
    pool.play (first ++ later) = (pool.play first).play later := by
  rw [play, moves, List.map_append, run_append]
  rfl

theorem leaves_play (post : Except ε α → Prop) (pool : Pool ι σ ε α) (schedule : List ι) (i : ι)
    (holds : (pool.procs i).Leaves post) : ((pool.play schedule).procs i).Leaves post := by
  induction schedule generalizing pool with
  | nil => exact holds
  | cons j schedule ih =>
      rw [play_cons]
      apply ih
      by_cases same : i = j
      · subst same
        rw [step_here]
        exact Prog.leaves_advance post _ _ _ holds
      · rw [step_elsewhere pool ⟨j, .none⟩ i same]
        exact holds

theorem finished_play (pool : Pool ι σ ε α) (schedule : List ι) (i : ι) (result : Except ε α)
    (done : (pool.procs i).finished = some result) : (pool.play schedule).procs i = pool.procs i := by
  induction schedule generalizing pool with
  | nil => rfl
  | cons j schedule ih =>
      have still : (pool.step ⟨j, .none⟩).procs i = pool.procs i := by
        by_cases same : i = j
        · subst same
          rw [step_here, Prog.finished_advance _ _ _ result done]
        · exact step_elsewhere pool ⟨j, .none⟩ i same
      rw [play_cons, ih _ (still ▸ done), still]

theorem leading_run (i : ι) (schedule : List ι) :
    ∃ alone others, schedule = alone ++ others ∧ (∀ j ∈ alone, j = i) ∧ ∀ j later, others = j :: later → j ≠ i := by
  induction schedule with
  | nil => exact ⟨[], [], rfl, fun _ member => (nomatch member), fun _ _ wrong => nomatch wrong⟩
  | cons first schedule ih =>
      by_cases same : first = i
      · obtain ⟨alone, others, split, isAlone, isOther⟩ := ih
        refine ⟨first :: alone, others, by rw [split, List.cons_append], fun j member => ?_, isOther⟩
        rcases List.mem_cons.mp member with here | later
        · exact here.trans same
        · exact isAlone j later
      · refine ⟨[], first :: schedule, rfl, fun _ member => (nomatch member), fun j later starts => ?_⟩
        cases starts
        exact same

-- While only one program moves, the run is that program's run alone.
theorem along_play (inv : σ → Prop) (post : Except ε α → σ → Prop) (pool : Pool ι σ ε α) (schedule : List ι) (i : ι)
    (alone : ∀ j ∈ schedule, j = i) (holds : (pool.procs i).Along inv post pool.store) :
    ((pool.play schedule).procs i).Along inv post (pool.play schedule).store ∧
      ∀ j, j ≠ i → (pool.play schedule).procs j = pool.procs j := by
  induction schedule generalizing pool with
  | nil => exact ⟨holds, fun _ _ => rfl⟩
  | cons first schedule ih =>
      have isFirst : first = i := alone first (List.mem_cons_self ..)
      subst isFirst
      have next : ((pool.step ⟨first, .none⟩).procs first).Along inv post (pool.step ⟨first, .none⟩).store := by
        rw [step_here, step_store]
        exact Prog.along_advance inv post _ _ holds
      obtain ⟨later, others⟩ := ih _ (fun j member => alone j (List.mem_cons_of_mem _ member)) next
      refine ⟨later, fun j different => ?_⟩
      rw [play_cons, others j different, step_elsewhere pool ⟨first, .none⟩ j different]

end Pool

end Process
