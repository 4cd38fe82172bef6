import Mathlib.Logic.Function.Basic

set_option autoImplicit false

namespace Process

variable {σ ε α β γ : Type}

-- What the surroundings do to one atomic action: let it through, refuse it, or
-- carry it out and lose the answer.
inductive Fault where
  | none
  | before
  | after
deriving DecidableEq, Repr

-- A program over a shared store σ, cut at its atomic actions. An action changes
-- the store, goes on with a program computed from the store it found, and has a
-- third branch for when the caller is told that the action failed.
inductive Prog (σ ε α : Type) where
  | ret (value : α)
  | raise (error : ε)
  | act (effect : σ → σ) (next : σ → Prog σ ε α) (failed : Prog σ ε α)

namespace Prog

def bind : Prog σ ε α → (α → Prog σ ε β) → Prog σ ε β
  | .ret value, rest => rest value
  | .raise error, _ => .raise error
  | .act effect next failed, rest => .act effect (fun s => (next s).bind rest) (failed.bind rest)

-- try … except: the error as an answer.
def attempt : Prog σ ε α → Prog σ ε (Except ε α)
  | .ret value => .ret (.ok value)
  | .raise error => .ret (.error error)
  | .act effect next failed => .act effect (fun s => (next s).attempt) failed.attempt

instance : Monad (Prog σ ε) where
  pure := .ret
  bind := bind

-- One atomic action that either answers and changes the store or raises and
-- leaves it alone. `lost` is what the caller sees of an injected failure.
def atomic (lost : ε) (body : σ → Except ε (β × σ)) : Prog σ ε β :=
  .act
    (fun s => match body s with
      | .ok (_, s') => s'
      | .error _ => s)
    (fun s => match body s with
      | .ok (answer, _) => .ret answer
      | .error error => .raise error)
    (.raise lost)

-- What is computed without touching the store.
def ofExcept : Except ε α → Prog σ ε α
  | .ok value => .ret value
  | .error error => .raise error

def query (lost : ε) (view : σ → β) : Prog σ ε β := atomic lost fun s => .ok (view s, s)

def finished : Prog σ ε α → Option (Except ε α)
  | .ret value => some (.ok value)
  | .raise error => some (.error error)
  | .act _ _ _ => none

def advance : Prog σ ε α → Fault → σ → Prog σ ε α × σ
  | .ret value, _, s => (.ret value, s)
  | .raise error, _, s => (.raise error, s)
  | .act effect next _, .none, s => (next s, effect s)
  | .act _ _ failed, .before, s => (failed, s)
  | .act effect _ failed, .after, s => (failed, effect s)

end Prog

structure Outcome (σ ε α : Type) where
  result : Except ε α
  script : List Fault
  store : σ

namespace Prog

-- A run of one program alone. The script says what happens to its first actions;
-- past its end every action goes through.
def exec : Prog σ ε α → List Fault → σ → Outcome σ ε α
  | .ret value, script, s => ⟨.ok value, script, s⟩
  | .raise error, script, s => ⟨.error error, script, s⟩
  | .act effect next failed, script, s =>
      match script.headD .none with
      | .none => (next s).exec script.tail (effect s)
      | .before => failed.exec script.tail s
      | .after => failed.exec script.tail (effect s)

theorem bind_eq (p : Prog σ ε α) (rest : α → Prog σ ε β) : p >>= rest = p.bind rest := rfl

@[simp] theorem pure_eq (value : α) : (pure value : Prog σ ε α) = .ret value := rfl

@[simp] theorem ret_bind (value : α) (rest : α → Prog σ ε β) : Prog.ret value >>= rest = rest value := rfl

@[simp] theorem raise_bind (error : ε) (rest : α → Prog σ ε β) :
    (Prog.raise error : Prog σ ε α) >>= rest = .raise error := rfl

@[simp] theorem act_bind (effect : σ → σ) (next : σ → Prog σ ε α) (failed : Prog σ ε α)
    (rest : α → Prog σ ε β) :
    Prog.act effect next failed >>= rest = .act effect (fun s => next s >>= rest) (failed >>= rest) := rfl

theorem bind_ret (p : Prog σ ε α) : p.bind .ret = p := by
  induction p with
  | ret value => rfl
  | raise error => rfl
  | act effect next failed ihNext ihFailed => simp only [bind, ihNext, ihFailed]

theorem bind_bind (p : Prog σ ε α) (f : α → Prog σ ε β) (g : β → Prog σ ε γ) :
    (p.bind f).bind g = p.bind fun value => (f value).bind g := by
  induction p with
  | ret value => rfl
  | raise error => rfl
  | act effect next failed ihNext ihFailed => simp only [bind, ihNext, ihFailed]

instance : LawfulMonad (Prog σ ε) :=
  LawfulMonad.mk' (Prog σ ε) bind_ret (fun _ _ => rfl) bind_bind

@[simp] theorem exec_ret (value : α) (script : List Fault) (s : σ) :
    (Prog.ret value : Prog σ ε α).exec script s = ⟨.ok value, script, s⟩ := rfl

@[simp] theorem exec_raise (error : ε) (script : List Fault) (s : σ) :
    (Prog.raise error : Prog σ ε α).exec script s = ⟨.error error, script, s⟩ := rfl

theorem exec_bind (p : Prog σ ε α) (rest : α → Prog σ ε β) (script : List Fault) (s : σ) :
    (p >>= rest).exec script s =
      match p.exec script s with
      | ⟨.ok value, later, s'⟩ => (rest value).exec later s'
      | ⟨.error error, later, s'⟩ => ⟨.error error, later, s'⟩ := by
  induction p generalizing script s with
  | ret value => rfl
  | raise error => rfl
  | act effect next failed ihNext ihFailed =>
      simp only [act_bind, exec]
      cases script.headD .none with
      | none => exact ihNext s script.tail (effect s)
      | before => exact ihFailed script.tail s
      | after => exact ihFailed script.tail (effect s)

theorem exec_bind_ok (p : Prog σ ε α) (rest : α → Prog σ ε β) (script : List Fault) (s : σ) (answer : β)
    (run : ((p >>= rest).exec script s).result = .ok answer) :
    ∃ value, (p.exec script s).result = .ok value ∧
      (p >>= rest).exec script s = (rest value).exec (p.exec script s).script (p.exec script s).store := by
  rw [exec_bind] at run ⊢
  cases first : p.exec script s with
  | mk result later s' =>
      rw [first] at run
      cases result with
      | ok value => exact ⟨value, rfl, rfl⟩
      | error error => exact nomatch run

theorem exec_pure_store (p : Prog σ ε α) (rest : α → β) (script : List Fault) (s : σ) :
    ((p >>= fun value => pure (rest value)).exec script s).store = (p.exec script s).store := by
  rw [exec_bind]
  cases p.exec script s with
  | mk result later s' => cases result <;> rfl

theorem exec_query_bind (lost : ε) (view : σ → β) (rest : β → Prog σ ε γ) (script : List Fault) (s : σ) :
    (query lost view >>= rest).exec script s =
      if script.headD .none = .none then (rest (view s)).exec script.tail s else ⟨.error lost, script.tail, s⟩ := by
  simp only [query, atomic, act_bind, exec]
  cases script.headD .none with
  | none => rfl
  | before => rfl
  | after => rfl

theorem exec_query_alone (lost : ε) (view : σ → β) (rest : β → Prog σ ε γ) (s : σ) :
    (query lost view >>= rest).exec [] s = (rest (view s)).exec [] s := by
  rw [exec_query_bind, List.headD_nil, if_pos rfl, List.tail_nil]

theorem exec_of_except_bind (computed : Except ε β) (rest : β → Prog σ ε γ) (script : List Fault) (s : σ) :
    (ofExcept computed >>= rest).exec script s =
      match computed with
      | .ok value => (rest value).exec script s
      | .error error => ⟨.error error, script, s⟩ := by
  cases computed with
  | ok value => rfl
  | error error => rfl

-- An action that answers has taken effect unless it was refused.
theorem exec_atomic_ok (lost : ε) (body : σ → Except ε (β × σ)) (script : List Fault) (s s' : σ) (answer : β)
    (run : body s = .ok (answer, s')) :
    (atomic lost body).exec script s =
      match script.headD .none with
      | .none => ⟨.ok answer, script.tail, s'⟩
      | .before => ⟨.error lost, script.tail, s⟩
      | .after => ⟨.error lost, script.tail, s'⟩ := by
  simp only [atomic, exec, run]

theorem exec_atomic_error (lost error : ε) (body : σ → Except ε (β × σ)) (script : List Fault) (s : σ)
    (run : body s = .error error) :
    (atomic lost body).exec script s =
      ⟨.error (if script.headD .none = .none then error else lost), script.tail, s⟩ := by
  simp only [atomic, exec, run]
  cases script.headD .none with
  | none => rfl
  | before => rfl
  | after => rfl

theorem exec_attempt (p : Prog σ ε α) (script : List Fault) (s : σ) :
    p.attempt.exec script s = ⟨.ok (p.exec script s).result, (p.exec script s).script, (p.exec script s).store⟩ := by
  induction p generalizing script s with
  | ret value => rfl
  | raise error => rfl
  | act effect next failed ihNext ihFailed =>
      simp only [attempt, exec]
      cases script.headD .none with
      | none => exact ihNext s script.tail (effect s)
      | before => exact ihFailed script.tail s
      | after => exact ihFailed script.tail (effect s)

end Prog

end Process
