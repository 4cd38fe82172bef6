import AuthProfile.Db.Schema
import AuthProfile.Process.Wp

set_option autoImplicit false

namespace AuthProfile

open Process

variable {κ ν σ : Type}

-- One call of the handler: what it draws from its surroundings, and what becomes of its actions.
structure Attempt (κ : Type) where
  io : κ
  script : List Fault

structure KafkaConsumerBase (κ ν σ : Type) where
  handler : κ → ν → Prog σ Error Unit
  maxRetries : Nat

-- What became of a message that was handed to the handler: the results of its attempts, in order.
structure Handled (ν σ : Type) where
  payload : ν
  results : List (Except Error Unit)
  store : σ

namespace KafkaConsumerBase

variable (consumer : KafkaConsumerBase κ ν σ)

def attempt (payload : ν) (attempt : Attempt κ) (store : σ) : Outcome σ Error Unit :=
  (consumer.handler attempt.io payload).exec attempt.script store

-- The first attempt that returns is the last. A process that dies makes fewer of them.
def tryAll (payload : ν) : List (Attempt κ) → σ → Handled ν σ
  | [], store => ⟨payload, [], store⟩
  | first :: later, store =>
      let outcome := consumer.attempt payload first store
      match outcome.result with
      | .ok () => ⟨payload, [.ok ()], outcome.store⟩
      | .error error =>
          let rest := tryAll payload later outcome.store
          ⟨payload, .error error :: rest.results, rest.store⟩

def handleWithRetry (payload : ν) (attempts : List (Attempt κ)) (store : σ) : Handled ν σ :=
  consumer.tryAll payload (attempts.take consumer.maxRetries) store

-- What every attempt keeps is kept, and what a returning attempt brings about is so at the end.
theorem try_all_rule (payload : ν) (keep done : σ → Prop)
    (each : ∀ io s, keep s → (consumer.handler io payload).wp (fun result after => keep after ∧
      (result = .ok () → done after)) s)
    (attempts : List (Attempt κ)) (store : σ) (start : keep store) :
    keep (consumer.tryAll payload attempts store).store ∧
      (.ok () ∈ (consumer.tryAll payload attempts store).results →
        done (consumer.tryAll payload attempts store).store) := by
  induction attempts generalizing store with
  | nil => exact ⟨start, fun member => nomatch member⟩
  | cons first later ih =>
      obtain ⟨kept, finished⟩ := Prog.wp_exec _ _ _ (each first.io store start) first.script
      simp only [tryAll]
      cases result : (consumer.attempt payload first store).result with
      | ok answer => exact ⟨kept, fun _ => finished result⟩
      | error error =>
          obtain ⟨keptLater, finishedLater⟩ := ih _ kept
          refine ⟨keptLater, fun member => finishedLater ?_⟩
          rcases List.mem_cons.mp member with wrong | there
          · cases wrong
          · exact there

end KafkaConsumerBase

end AuthProfile
