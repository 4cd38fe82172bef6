import AuthProfile.Json
import AuthProfile.Messaging.Consumer

set_option autoImplicit false

namespace AuthProfile

open Process

variable {κ ν σ : Type}

-- lambda v: json.loads(v.decode("utf-8")). What loads makes of a text is its own matter;
-- a record without a value hands None to the lambda.
def valueDeserializer (loads : String → Option ν) : Option ByteArray → Except Error ν
  | none => .error (.attribute "'NoneType' object has no attribute 'decode'")
  | some bytes =>
      match String.fromUTF8? bytes with
      | none => .error .unicodeDecode
      | some text =>
          match loads text with
          | none => .error (.jsonDecode text)
          | some value => .ok value

-- A record the iterator comes to, what its handling meets, what commit() comes to, and
-- whether stop() cancels the task before the commit is through, and then in which attempt.
structure Fetched (κ : Type) where
  value : Option ByteArray
  attempts : Nat → Attempt κ
  stopped : Option Nat
  commit : Except Error Unit

inductive Turn (κ : Type) where
  | stop
  | fetched (record : Fetched κ)

inductive Ending where
  | waiting
  | stopped
  | raised (error : Error)
deriving DecidableEq, Repr

structure LoopRun (ν σ : Type) where
  handled : List (Handled ν σ)
  ending : Ending
  store : σ

-- The records up to the stop.
def due : List (Turn κ) → List (Fetched κ)
  | [] => []
  | .stop :: _ => []
  | .fetched record :: rest => record :: if record.stopped.isSome then [] else due rest

def stops : List (Turn κ) → Bool
  | [] => false
  | .stop :: _ => true
  | .fetched record :: rest => record.stopped.isSome || stops rest

namespace KafkaConsumerBase

variable (consumer : KafkaConsumerBase κ ν σ) (loads : String → Option ν)

def begun (record : Fetched κ) : List (Attempt κ) :=
  match record.stopped with
  | none => (List.range consumer.maxRetries).map record.attempts
  | some during => (List.range (during + 1)).map record.attempts

-- What the deserializer raises comes out of the iterator.
def runLoop : List (Turn κ) → σ → LoopRun ν σ
  | [], store => ⟨[], .waiting, store⟩
  | .stop :: _, store => ⟨[], .stopped, store⟩
  | .fetched record :: rest, store =>
      match valueDeserializer loads record.value with
      | .error error => ⟨[], .raised error, store⟩
      | .ok payload =>
          let handled := consumer.handleWithRetry payload (consumer.begun record) store
          if record.stopped.isSome then ⟨[handled], .stopped, handled.store⟩
          else
            match record.commit with
            | .error error => ⟨[handled], .raised error, handled.store⟩
            | .ok () =>
                let later := runLoop rest handled.store
                ⟨handled :: later.handled, later.ending, later.store⟩

-- The loop outlives every record: what decodes is handled, what does not is skipped.
structure Serves (turns : List (Turn κ)) (run : LoopRun ν σ) : Prop where
  ending : run.ending = if stops turns then .stopped else .waiting
  handled : run.handled.map Handled.payload = (due turns).filterMap fun record =>
    (valueDeserializer loads record.value).toOption
  attempts : ∀ handled ∈ run.handled, 1 ≤ handled.results.length ∧ handled.results.length ≤ consumer.maxRetries

-- The record decodes, and its offset is committed unless stop() comes first.
def Passes (record : Fetched κ) : Prop :=
  (∃ payload, valueDeserializer loads record.value = .ok payload) ∧ (record.stopped = none → record.commit = .ok ())

theorem try_all_payload (payload : ν) (attempts : List (Attempt κ)) (store : σ) :
    (consumer.tryAll payload attempts store).payload = payload := by
  cases attempts with
  | nil => rfl
  | cons first later =>
      simp only [tryAll]
      cases (consumer.attempt payload first store).result <;> rfl

theorem try_all_length (payload : ν) (attempts : List (Attempt κ)) (store : σ) :
    (consumer.tryAll payload attempts store).results.length ≤ attempts.length := by
  induction attempts generalizing store with
  | nil => exact Nat.le_refl _
  | cons first later ih =>
      simp only [tryAll]
      cases (consumer.attempt payload first store).result with
      | ok done => simp
      | error error => simpa using ih (consumer.attempt payload first store).store

theorem try_all_some (payload : ν) (attempts : List (Attempt κ)) (store : σ) (nonempty : attempts ≠ []) :
    1 ≤ (consumer.tryAll payload attempts store).results.length := by
  cases attempts with
  | nil => exact absurd rfl nonempty
  | cons first later =>
      simp only [tryAll]
      cases (consumer.attempt payload first store).result <;> simp

theorem begun_some (record : Fetched κ) (positive : 0 < consumer.maxRetries) :
    (consumer.begun record).take consumer.maxRetries ≠ [] := by
  intro empty
  have lengths := congrArg List.length empty
  rw [List.length_take, begun] at lengths
  cases stopped : record.stopped with
  | none =>
      simp only [stopped, List.length_map, List.length_range, List.length_nil] at lengths
      omega
  | some during =>
      simp only [stopped, List.length_map, List.length_range, List.length_nil] at lengths
      omega

theorem handled_attempts (record : Fetched κ) (payload : ν) (store : σ) :
    let results := (consumer.handleWithRetry payload (consumer.begun record) store).results
    results.length ≤ consumer.maxRetries ∧ (1 ≤ results.length ↔ 0 < consumer.maxRetries) := by
  have bound := consumer.try_all_length payload ((consumer.begun record).take consumer.maxRetries) store
  have short : ((consumer.begun record).take consumer.maxRetries).length ≤ consumer.maxRetries :=
    List.length_take_le _ _
  refine ⟨Nat.le_trans bound short, fun some => ?_, fun positive => ?_⟩
  · exact Nat.lt_of_lt_of_le some (Nat.le_trans bound short)
  · exact consumer.try_all_some payload _ store (consumer.begun_some record positive)

theorem handled_serves (record : Fetched κ) (payload : ν) (store : σ) :
    (∀ handled ∈ [consumer.handleWithRetry payload (consumer.begun record) store],
      1 ≤ handled.results.length ∧ handled.results.length ≤ consumer.maxRetries) ↔ 0 < consumer.maxRetries := by
  obtain ⟨bound, made⟩ := consumer.handled_attempts record payload store
  constructor
  · intro every
    exact made.mp (every _ (List.mem_singleton_self _)).1
  · intro positive handled member
    cases List.mem_singleton.mp member
    exact ⟨made.mpr positive, bound⟩

theorem serves_stopped (record : Fetched κ) (rest : List (Turn κ)) (payload : ν) (store : σ)
    (decoded : valueDeserializer loads record.value = .ok payload) (stopped : record.stopped.isSome = true) :
    consumer.Serves loads (.fetched record :: rest) (consumer.runLoop loads (.fetched record :: rest) store) ↔
      0 < consumer.maxRetries := by
  rw [runLoop, decoded]
  dsimp only
  rw [if_pos stopped, ← consumer.handled_serves record payload store]
  constructor
  · exact fun serves => serves.attempts
  · intro attempts
    refine ⟨?_, ?_, attempts⟩
    · rw [stops, stopped]
      rfl
    · have single : due (.fetched record :: rest) = [record] := by simp [due, stopped]
      rw [single, List.filterMap_cons_some (by rw [decoded]; rfl)]
      exact congrArg (fun value => [value]) (consumer.try_all_payload payload _ store)

theorem serves_committed (record : Fetched κ) (rest : List (Turn κ)) (payload : ν) (store : σ)
    (decoded : valueDeserializer loads record.value = .ok payload) (running : record.stopped = none)
    (committed : record.commit = .ok ()) :
    consumer.Serves loads (.fetched record :: rest) (consumer.runLoop loads (.fetched record :: rest) store) ↔
      0 < consumer.maxRetries ∧ consumer.Serves loads rest
        (consumer.runLoop loads rest (consumer.handleWithRetry payload (consumer.begun record) store).store) := by
  have sameStops : stops (.fetched record :: rest) = stops rest := by simp [stops, running]
  have sameDue : due (.fetched record :: rest) = record :: due rest := by simp [due, running]
  rw [runLoop, decoded]
  dsimp only
  rw [running, committed, ← consumer.handled_serves record payload store]
  constructor
  · rintro ⟨ending, handled, attempts⟩
    refine ⟨fun first member => ?_, sameStops ▸ ending, ?_,
      fun later member => attempts later (List.mem_cons_of_mem _ member)⟩
    · cases List.mem_singleton.mp member
      exact attempts _ (List.mem_cons_self ..)
    · rw [sameDue, List.filterMap_cons_some (by rw [decoded]; rfl)] at handled
      exact (List.cons.inj handled).2
  · rintro ⟨first, ending, handled, attempts⟩
    refine ⟨sameStops ▸ ending, ?_, fun later member => ?_⟩
    · rw [sameDue, List.filterMap_cons_some (by rw [decoded]; rfl)]
      exact congrArg₂ List.cons (consumer.try_all_payload payload _ store) handled
    · rcases List.mem_cons.mp member with here | there
      · exact here ▸ first _ (List.mem_singleton_self _)
      · exact attempts later there

theorem raised_not_serves (turns : List (Turn κ)) (run : LoopRun ν σ) (error : Error)
    (raised : run.ending = .raised error) :
    ¬ consumer.Serves loads turns run := by
  intro serves
  have ending := serves.ending
  rw [raised] at ending
  split at ending <;> cases ending

-- The loop serves every record exactly while nothing but the handler fails.
theorem loop_outlives_iff (turns : List (Turn κ)) (store : σ) :
    consumer.Serves loads turns (consumer.runLoop loads turns store) ↔
      (∀ record ∈ due turns, Passes loads record) ∧ (0 < consumer.maxRetries ∨ due turns = []) := by
  induction turns generalizing store with
  | nil =>
      have serves : consumer.Serves loads [] (consumer.runLoop loads [] store) :=
        ⟨rfl, rfl, fun handled member => nomatch member⟩
      exact ⟨fun _ => ⟨(fun record member => nomatch member), Or.inr rfl⟩, fun _ => serves⟩
  | cons turn rest ih =>
      cases turn with
      | stop =>
          have serves : consumer.Serves loads (.stop :: rest) (consumer.runLoop loads (.stop :: rest) store) :=
            ⟨rfl, rfl, fun handled member => nomatch member⟩
          exact ⟨fun _ => ⟨(fun record member => nomatch member), Or.inr rfl⟩, fun _ => serves⟩
      | fetched record =>
          have first : record ∈ due (.fetched record :: rest) := List.mem_cons_self ..
          have some : due (.fetched record :: rest) ≠ [] := List.cons_ne_nil _ _
          cases decoded : valueDeserializer loads record.value with
          | error error =>
              have raised : (consumer.runLoop loads (.fetched record :: rest) store).ending = .raised error := by
                rw [runLoop, decoded]
              refine iff_of_false (consumer.raised_not_serves loads _ _ error raised) fun ⟨passes, _⟩ => ?_
              obtain ⟨⟨payload, isOk⟩, _⟩ := passes record first
              rw [decoded] at isOk
              cases isOk
          | ok payload =>
              cases stopped : record.stopped with
              | some during =>
                  have single : due (.fetched record :: rest) = [record] := by simp [due, stopped]
                  rw [consumer.serves_stopped loads record rest payload store decoded (by rw [stopped]; rfl)]
                  refine ⟨fun positive => ⟨fun other member => ?_, Or.inl positive⟩,
                    fun ⟨_, positive⟩ => positive.resolve_right some⟩
                  rw [single] at member
                  cases List.mem_singleton.mp member
                  exact ⟨⟨payload, decoded⟩, fun running => by rw [stopped] at running; cases running⟩
              | none =>
                  have more : due (.fetched record :: rest) = record :: due rest := by simp [due, stopped]
                  cases committed : record.commit with
                  | error error =>
                      have raised : (consumer.runLoop loads (.fetched record :: rest) store).ending =
                          .raised error := by
                        rw [runLoop, decoded]
                        dsimp only
                        rw [stopped, committed]
                        rfl
                      refine iff_of_false (consumer.raised_not_serves loads _ _ error raised) fun ⟨passes, _⟩ => ?_
                      have isOk := (passes record first).2 stopped
                      rw [committed] at isOk
                      cases isOk
                  | ok done =>
                      rw [consumer.serves_committed loads record rest payload store decoded stopped committed, ih, more]
                      have passes : Passes loads record := ⟨⟨payload, decoded⟩, fun _ => committed⟩
                      simp only [List.forall_mem_cons, passes, true_and, reduceCtorEq, or_false]
                      exact ⟨fun ⟨positive, later, _⟩ => ⟨later, positive⟩,
                        fun ⟨later, positive⟩ => ⟨positive, later, Or.inl positive⟩⟩

-- A record without a value ends the loop, and so does a commit during a rebalance.
theorem null_record_ends_loop :
    let consumer : KafkaConsumerBase Unit Json Unit := ⟨fun _ _ => .ret (), 3⟩
    let record (value : Option ByteArray) (commit : Except Error Unit) : Turn Unit :=
      .fetched ⟨value, fun _ => ⟨(), []⟩, none, commit⟩
    let tombstone := [record none (.ok ()), record (some "null".toUTF8) (.ok ())]
    let rebalance := [record (some "null".toUTF8) (.error .kafka), record (some "null".toUTF8) (.ok ())]
    ¬ consumer.Serves Json.loads tombstone (consumer.runLoop Json.loads tombstone ()) ∧
      ¬ consumer.Serves Json.loads rebalance (consumer.runLoop Json.loads rebalance ()) := by
  refine ⟨?_, ?_⟩
  · exact raised_not_serves _ _ _ _ (.attribute "'NoneType' object has no attribute 'decode'") rfl
  · exact raised_not_serves _ _ _ _ .kafka rfl

end KafkaConsumerBase

end AuthProfile
