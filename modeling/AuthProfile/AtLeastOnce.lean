import AuthProfile.Messaging.ConsumerGroup

set_option autoImplicit false

-- At least once, with however many members: what a group has committed has been handled.
namespace AuthProfile

open Process

variable {κ ν σ : Type}

def Failures (results : List (Except Error Unit)) : Prop := ∀ result ∈ results, ∃ error, result = .error error

-- An attempt returned, or as many as there may be did not.
inductive Concluded (maxRetries : Nat) : List (Except Error Unit) → Prop where
  | returned (failures : List (Except Error Unit)) (failed : Failures failures)
      (within : failures.length < maxRetries) :
      Concluded maxRetries (failures ++ [.ok ()])
  | givenUp (failures : List (Except Error Unit)) (failed : Failures failures)
      (all : failures.length = maxRetries) : Concluded maxRetries failures

theorem failures_snoc (failures : List (Except Error Unit)) (error : Error) (failed : Failures failures) :
    Failures (failures ++ [.error error]) := by
  intro result member
  rcases List.mem_append.mp member with old | new
  · exact failed result old
  · exact ⟨error, List.mem_singleton.mp new⟩

section Sound

variable (consumer : KafkaConsumerBase κ ν σ) (loads : String → Option ν)

-- The record at an offset decodes to this.
def ConsumerGroup.Reads (group : ConsumerGroup ν σ) (offset : Nat) (payload : ν) : Prop :=
  ∃ value, group.log[offset]? = some value ∧ valueDeserializer loads value = .ok payload

def MemberPhase.Sound (reads : ν → Prop) : MemberPhase ν σ → Prop
  | .waiting payload results => reads payload ∧ Failures results ∧ results.length < consumer.maxRetries
  | .trying payload results _ => reads payload ∧ Failures results ∧ results.length < consumer.maxRetries
  | .committing payload results => reads payload ∧ Concluded consumer.maxRetries results
  | _ => True

def ConsumerGroup.Through (group : ConsumerGroup ν σ) (offset : Nat) : Prop :=
  ∃ passed ∈ group.passed, passed.offset = offset

-- A member goes through the records one by one from where it joined, and what is before that
-- has been gone through.
structure GroupMember.Sound (group : ConsumerGroup ν σ) (place : Nat) (member : GroupMember ν σ) : Prop where
  behind : ∀ offset < member.joined, group.Through offset
  ahead : member.joined ≤ member.position
  order : (group.passed.filter fun passed => passed.member = place).map Passed.offset =
    List.range' member.joined (member.position - member.joined)
  phase : member.phase.Sound consumer (group.Reads loads member.position)

structure ConsumerGroup.Sound (group : ConsumerGroup ν σ) : Prop where
  passed : ∀ passed ∈ group.passed, group.Reads loads passed.offset passed.payload ∧
    Concluded consumer.maxRetries passed.results
  places : ∀ passed ∈ group.passed, passed.member < group.members.length
  committed : ∀ offset < group.committed, group.Through offset
  members : ∀ place, ∀ member : GroupMember ν σ, group.members[place]? = some member →
    member.Sound consumer loads group place

theorem phase_sound_mono (reads more : ν → Prop) (within : ∀ payload, reads payload → more payload)
    (phase : MemberPhase ν σ) (sound : phase.Sound consumer reads) : phase.Sound consumer more := by
  cases phase with
  | fetching => trivial
  | ended ending => trivial
  | waiting payload results => exact ⟨within payload sound.1, sound.2⟩
  | trying payload results attempt => exact ⟨within payload sound.1, sound.2⟩
  | committing payload results => exact ⟨within payload sound.1, sound.2⟩

section Phases

variable (reads : ν → Prop) (payload : ν) (isRead : reads payload) (results : List (Except Error Unit))
    (failed : Failures results)

include isRead failed

theorem pending_sound (within : results.length ≤ consumer.maxRetries) :
    (consumer.pending payload results : MemberPhase ν σ).Sound consumer reads := by
  rw [KafkaConsumerBase.pending]
  split
  · exact ⟨isRead, failed, ‹_›⟩
  · exact ⟨isRead, .givenUp results failed (by omega)⟩

theorem attempted_sound (within : results.length < consumer.maxRetries) (attempt : Prog σ Error Unit) :
    (consumer.attempted payload results attempt).Sound consumer reads := by
  rw [KafkaConsumerBase.attempted]
  cases attempt.finished with
  | none => exact ⟨isRead, failed, within⟩
  | some result =>
      cases result with
      | ok value => exact ⟨isRead, .returned results failed within⟩
      | error error =>
          refine pending_sound consumer reads payload isRead _ (failures_snoc results error failed) ?_
          rw [List.length_append]
          exact within

end Phases

variable (group : ConsumerGroup ν σ) (sound : group.Sound consumer loads) (place : Nat) (member : GroupMember ν σ)
  (here : group.members[place]? = some member)

include sound here

theorem put_phase_sound (phase : MemberPhase ν σ) (isSound : phase.Sound consumer (group.Reads loads member.position))
    (store : σ) :
    ({ group with store := store }.put place { member with phase := phase }).Sound consumer loads := by
  refine ⟨sound.passed, fun passed isPassed => ?_, sound.committed, fun other now isNow => ?_⟩
  · rw [ConsumerGroup.put, List.length_set]
    exact sound.places passed isPassed
  · by_cases same : place = other
    · subst same
      rw [ConsumerGroup.put, List.getElem?_set_self', here] at isNow
      cases isNow
      obtain ⟨behind, ahead, order, _⟩ := sound.members place member here
      exact ⟨behind, ahead, order, isSound⟩
    · rw [ConsumerGroup.put, List.getElem?_set_ne same] at isNow
      obtain ⟨behind, ahead, order, phased⟩ := sound.members other now isNow
      exact ⟨behind, ahead, order, phased⟩

theorem commit_sound (payload : ν) (results : List (Except Error Unit))
    (isPhase : member.phase = .committing payload results) (taken : Bool)
    (phase : MemberPhase ν σ) (idle : ∀ reads, phase.Sound consumer reads) :
    ((group.commit ⟨place, member.position, payload, results⟩ taken).put place
      { member with position := member.position + 1, phase := phase }).Sound consumer loads := by
  have entry : group.passed ++ [⟨place, member.position, payload, results⟩] =
      ((group.commit ⟨place, member.position, payload, results⟩ taken).put place
        { member with position := member.position + 1, phase := phase }).passed := rfl
  obtain ⟨behind, ahead, order, phased⟩ := sound.members place member here
  rw [isPhase] at phased
  have inside : place < group.members.length := (List.getElem?_eq_some_iff.mp here).1
  have still : ∀ offset, group.Through offset →
    ((group.commit ⟨place, member.position, payload, results⟩ taken).put place
      { member with position := member.position + 1, phase := phase }).Through offset := fun offset through => by
    obtain ⟨passed, isPassed, isOffset⟩ := through
    exact ⟨passed, List.mem_append_left _ isPassed, isOffset⟩
  have own : ∀ offset < member.position + 1, ((group.commit ⟨place, member.position, payload, results⟩ taken).put place
      { member with position := member.position + 1, phase := phase }).Through offset := fun offset below => by
    by_cases before : offset < member.joined
    · exact still offset (behind offset before)
    · by_cases last : offset = member.position
      · exact ⟨_, List.mem_append_right _ (List.mem_singleton_self _), last.symm⟩
      · have between : offset ∈ List.range' member.joined (member.position - member.joined) := by
          rw [List.mem_range'_1]
          omega
        rw [← order] at between
        obtain ⟨passed, isPassed, isOffset⟩ := List.mem_map.mp between
        exact still offset ⟨passed, List.mem_of_mem_filter isPassed, isOffset⟩
  refine ⟨fun passed isPassed => ?_, fun passed isPassed => ?_, fun offset below => ?_, fun other now isNow => ?_⟩
  · rcases List.mem_append.mp isPassed with old | new
    · exact sound.passed passed old
    · cases List.mem_singleton.mp new
      exact phased
  · rw [ConsumerGroup.put, List.length_set]
    rcases List.mem_append.mp isPassed with old | new
    · exact sound.places passed old
    · cases List.mem_singleton.mp new
      exact inside
  · cases taken with
    | true => exact own offset below
    | false => exact still offset (sound.committed offset below)
  · by_cases same : place = other
    · subst same
      rw [ConsumerGroup.put, ConsumerGroup.commit, List.getElem?_set_self', here] at isNow
      cases isNow
      refine ⟨fun offset before => still offset (behind offset before), Nat.le_succ_of_le ahead, ?_, idle _⟩
      rw [← entry, List.filter_append, List.map_append, order]
      dsimp only [Function.const]
      have longer : member.position + 1 - member.joined = (member.position - member.joined) + 1 := by omega
      have last : member.joined + 1 * (member.position - member.joined) = member.position := by omega
      rw [longer, List.range'_concat, last]
      simp
    · rw [ConsumerGroup.put, List.getElem?_set_ne same] at isNow
      obtain ⟨behind, ahead, order, phased⟩ := sound.members other now isNow
      refine ⟨fun offset before => still offset (behind offset before), ahead, ?_, phased⟩
      rw [← entry, List.filter_append, List.map_append, order]
      simp [same]

omit here

theorem produced_sound (value : Option ByteArray) :
    ({ group with log := group.log ++ [value] } : ConsumerGroup ν σ).Sound consumer loads := by
  have reads : ∀ offset payload, group.Reads loads offset payload →
      ({ group with log := group.log ++ [value] } : ConsumerGroup ν σ).Reads loads offset payload := by
    intro offset payload isRead
    obtain ⟨old, isOld, decoded⟩ := isRead
    have within : offset < group.log.length := (List.getElem?_eq_some_iff.mp isOld).1
    exact ⟨old, (List.getElem?_append_left within).trans isOld, decoded⟩
  refine ⟨fun passed isPassed => (sound.passed passed isPassed).imp_left (reads _ _), sound.places, sound.committed,
    fun place member here => ?_⟩
  obtain ⟨behind, ahead, order, phased⟩ := sound.members place member here
  exact ⟨behind, ahead, order, phase_sound_mono consumer _ _ (reads _) _ phased⟩

-- Who is given the partition has been through nothing yet.
theorem joins_sound :
    ({ group with members := group.members ++ [⟨group.committed, group.committed, .fetching⟩] } :
      ConsumerGroup ν σ).Sound consumer loads := by
  refine ⟨sound.passed, fun passed isPassed => ?_, sound.committed, fun place member here => ?_⟩
  · rw [List.length_append]
    exact Nat.lt_add_right _ (sound.places passed isPassed)
  · rw [List.getElem?_append] at here
    split at here
    · obtain ⟨behind, ahead, order, phased⟩ := sound.members place member here
      exact ⟨behind, ahead, order, phased⟩
    · obtain ⟨first, isMember⟩ := List.getElem?_eq_some_iff.mp here
      have isNew : (⟨group.committed, group.committed, .fetching⟩ : GroupMember ν σ) = member := by
        rw [← isMember, List.getElem_singleton]
      subst isNew
      refine ⟨sound.committed, le_rfl, ?_, trivial⟩
      have nothing : group.passed.filter (fun passed => passed.member = place) = [] := by
        rw [List.filter_eq_nil_iff]
        intro passed isPassed isPlace
        have inside := sound.places passed isPassed
        have isPlace : passed.member = place := of_decide_eq_true isPlace
        omega
      simp [nothing]

end Sound

section Runs

variable (consumer : KafkaConsumerBase κ ν σ) (loads : String → Option ν)

theorem member_step_sound (group : ConsumerGroup ν σ) (sound : group.Sound consumer loads) (place : Nat)
    (member : GroupMember ν σ) (here : group.members[place]? = some member) (event : MemberEvent κ) :
    (consumer.memberStep loads group place member event).Sound consumer loads := by
  have phased := (sound.members place member here).phase
  cases event with
  | fetches =>
      rw [KafkaConsumerBase.memberStep]
      split
      · rename_i value _ isValue
        cases decoded : valueDeserializer loads value with
        | error error =>
            exact put_phase_sound consumer loads group sound place member here (.ended (.raised error)) trivial
              group.store
        | ok payload =>
            refine put_phase_sound consumer loads group sound place member here _ ?_ group.store
            exact pending_sound consumer _ payload ⟨value, isValue, decoded⟩ []
              (fun _ wrong => absurd wrong List.not_mem_nil) (Nat.zero_le _)
      · exact sound
  | tries io =>
      rw [KafkaConsumerBase.memberStep]
      split
      · rename_i payload results isPhase
        rw [isPhase] at phased
        obtain ⟨isRead, failed, within⟩ := phased
        exact put_phase_sound consumer loads group sound place member here _
          (attempted_sound consumer _ payload isRead results failed within _) group.store
      · exact sound
  | acts fault =>
      rw [KafkaConsumerBase.memberStep]
      split
      · rename_i payload results attempt isPhase
        rw [isPhase] at phased
        obtain ⟨isRead, failed, within⟩ := phased
        exact put_phase_sound consumer loads group sound place member here _
          (attempted_sound consumer _ payload isRead results failed within _) _
      · exact sound
  | commits fault lost =>
      rw [KafkaConsumerBase.memberStep]
      split
      · rename_i payload results isPhase
        refine commit_sound consumer loads group sound place member here payload results isPhase _ _ fun reads => ?_
        split <;> trivial
      · exact sound
  | stops =>
      rw [KafkaConsumerBase.memberStep]
      split
      · exact sound
      · exact put_phase_sound consumer loads group sound place member here (.ended .stopped) trivial group.store

theorem group_step_sound (group : ConsumerGroup ν σ) (sound : group.Sound consumer loads) (event : GroupEvent κ) :
    (consumer.groupStep loads group event).Sound consumer loads := by
  cases event with
  | produced value => exact produced_sound consumer loads group sound value
  | joins => exact joins_sound consumer loads group sound
  | member place event =>
      rw [KafkaConsumerBase.groupStep]
      split
      · exact sound
      · exact member_step_sound consumer loads group sound place _ ‹_› event

theorem group_run_sound (group : ConsumerGroup ν σ) (sound : group.Sound consumer loads)
    (events : List (GroupEvent κ)) :
    (consumer.groupRun loads group events).Sound consumer loads := by
  induction events generalizing group with
  | nil => exact sound
  | cons event events ih => exact ih _ (group_step_sound consumer loads group sound event)

theorem fresh_sound (log : List (Option ByteArray)) (store : σ) :
    (ConsumerGroup.fresh log store : ConsumerGroup ν σ).Sound consumer loads where
  passed := fun _ isPassed => absurd isPassed List.not_mem_nil
  places := fun _ isPassed => absurd isPassed List.not_mem_nil
  committed := fun _ below => absurd below (Nat.not_lt_zero _)
  members := fun _ _ here => by cases here

-- Whatever the members do and meet: what is committed has been decoded and handled or given
-- up, each member goes on record by record, and nobody gets past what does not decode.
theorem committed_is_handled (log : List (Option ByteArray)) (store : σ) (events : List (GroupEvent κ)) :
    let group := consumer.groupRun loads (ConsumerGroup.fresh log store) events
    (∀ offset < group.committed, ∃ passed ∈ group.passed, passed.offset = offset ∧
      group.Reads loads offset passed.payload ∧
      Concluded consumer.maxRetries passed.results) ∧
    (∀ place member, group.members[place]? = some member →
      (group.passed.filter fun passed => passed.member = place).map Passed.offset =
        List.range' member.joined (member.position - member.joined)) ∧
    ∀ offset value error, group.log[offset]? = some value → valueDeserializer loads value = .error error →
      group.committed ≤ offset ∧ ∀ member ∈ group.members, member.position ≤ offset := by
  intro group
  have sound : group.Sound consumer loads :=
    group_run_sound consumer loads _ (fresh_sound consumer loads log store) events
  have undecodable : ∀ offset value error, group.log[offset]? = some value →
    valueDeserializer loads value = .error error →
      ¬ group.Through offset := fun offset value error isValue failed ⟨passed, isPassed, isOffset⟩ => by
    obtain ⟨read, isRead, decoded⟩ := (sound.passed passed isPassed).1
    rw [isOffset, isValue] at isRead
    cases isRead
    rw [failed] at decoded
    cases decoded
  refine ⟨fun offset below => ?_, fun place member here => (sound.members place member here).order,
    fun offset value error isValue failed => ?_⟩
  · obtain ⟨passed, isPassed, isOffset⟩ := sound.committed offset below
    obtain ⟨isRead, concluded⟩ := sound.passed passed isPassed
    exact ⟨passed, isPassed, isOffset, isOffset ▸ isRead, concluded⟩
  · have never := undecodable offset value error isValue failed
    refine ⟨Nat.not_lt.mp fun below => never (sound.committed offset below),
      fun member isMember => Nat.not_lt.mp fun beyond => never ?_⟩
    obtain ⟨place, here⟩ := List.mem_iff_getElem?.mp isMember
    obtain ⟨behind, ahead, order, _⟩ := sound.members place member here
    by_cases before : offset < member.joined
    · exact behind offset before
    · have between : offset ∈ List.range' member.joined (member.position - member.joined) := by
        rw [List.mem_range'_1]
        omega
      rw [← order] at between
      obtain ⟨passed, isPassed, isOffset⟩ := List.mem_map.mp between
      exact ⟨passed, List.mem_of_mem_filter isPassed, isOffset⟩

end Runs

-- A member that nobody interrupts runs the loop as the source has it.
section Alone

variable (consumer : KafkaConsumerBase κ ν σ) (loads : String → Option ν) (place : Nat)

structure Stands (log : List (Option ByteArray)) (position : Nat) (phase : MemberPhase ν σ) (store : σ)
    (group : ConsumerGroup ν σ) : Prop where
  log : group.log = log
  here : ∃ joined, group.members[place]? = some ⟨joined, position, phase⟩
  store : group.store = store

-- Events of the member that lead from one standing to another.
def Brings (log : List (Option ByteArray)) (position later : Nat) (phase next : MemberPhase ν σ)
    (store after : σ) : Prop :=
  ∀ group : ConsumerGroup ν σ, Stands place log position phase store group → ∃ events : List (MemberEvent κ),
    Stands place log later next after (consumer.groupRun loads group (events.map (.member place)))

variable (log : List (Option ByteArray)) (position : Nat)

theorem brings_refl (phase : MemberPhase ν σ) (store : σ) :
    Brings consumer loads place log position position phase phase store store :=
  fun _ stands => ⟨[], stands⟩

theorem brings_trans (between last : Nat) (first second third : MemberPhase ν σ) (a b c : σ)
    (ab : Brings consumer loads place log position between first second a b)
    (bc : Brings consumer loads place log between last second third b c) :
    Brings consumer loads place log position last first third a c := by
  intro group stands
  obtain ⟨early, stood⟩ := ab group stands
  obtain ⟨late, ends⟩ := bc _ stood
  refine ⟨early ++ late, ?_⟩
  rw [List.map_append, KafkaConsumerBase.groupRun, List.foldl_append]
  exact ends

theorem brings_one (event : MemberEvent κ) (later : Nat) (phase next : MemberPhase ν σ) (store after : σ)
    (moves : ∀ group joined, Stands place log position phase store group →
      group.members[place]? = some ⟨joined, position, phase⟩ →
      ∃ committed passed, consumer.memberStep loads group place ⟨joined, position, phase⟩ event =
        (⟨group.log, committed, group.members, passed, after⟩ : ConsumerGroup ν σ).put place ⟨joined, later, next⟩) :
    Brings consumer loads place log position later phase next store after := by
  intro group stands
  obtain ⟨joined, here⟩ := stands.here
  obtain ⟨committed, passed, moved⟩ := moves group joined stands here
  have stepped : consumer.groupRun loads group ([event].map (.member place)) =
      (⟨group.log, committed, group.members, passed, after⟩ : ConsumerGroup ν σ).put place ⟨joined, later, next⟩ := by
    rw [← moved]
    simp [KafkaConsumerBase.groupRun, KafkaConsumerBase.groupStep, here]
  refine ⟨[event], ?_⟩
  rw [stepped]
  refine ⟨stands.log, ⟨joined, ?_⟩, rfl⟩
  rw [ConsumerGroup.put, List.getElem?_set_self', here]
  rfl

-- Induction on the attempt: an action at a time, as the script has it.
theorem attempt_brings (payload : ν) (results : List (Except Error Unit)) (attempt : Prog σ Error Unit)
    (script : List Fault) (store : σ) :
    Brings consumer loads place log position position (consumer.attempted payload results attempt)
      (consumer.attempted payload results (Prog.ofExcept (attempt.exec script store).result)) store
        (attempt.exec script store).store := by
  induction attempt generalizing script store with
  | ret value => exact brings_refl consumer loads place log position _ store
  | raise error => exact brings_refl consumer loads place log position _ store
  | act effect next failed ihNext ihFailed =>
      have acts : Brings consumer loads place log position position
        (consumer.attempted payload results (.act effect next failed))
          (consumer.attempted payload results
            ((Prog.act effect next failed).advance (script.headD .none) store).1) store
          ((Prog.act effect next failed).advance (script.headD .none) store).2 :=
        brings_one consumer loads place log position (.acts (script.headD .none)) position _ _ store _
          fun group joined stands _ => ⟨group.committed, group.passed, stands.store ▸ rfl⟩
      refine brings_trans consumer loads place log position position position _ _ _ _ _ _ acts ?_
      rw [Prog.exec]
      cases script.headD .none with
      | none => exact ihNext store script.tail (effect store)
      | before => exact ihFailed script.tail store
      | after => exact ihFailed script.tail (effect store)

theorem try_brings (payload : ν) (results : List (Except Error Unit)) (more : results.length < consumer.maxRetries)
    (io : κ) (store : σ) :
    Brings consumer loads place log position position (consumer.pending payload results)
      (consumer.attempted payload results (consumer.handler io payload)) store store := by
  refine brings_one consumer loads place log position (.tries io) position _ _ store store fun group joined stands _ =>
    ⟨group.committed, group.passed, ?_⟩
  rw [KafkaConsumerBase.pending, if_pos more, ← stands.store]
  rfl

-- How far a handling has come.
def comeTo (payload : ν) (results : List (Except Error Unit)) : MemberPhase ν σ :=
  if .ok () ∈ results then .committing payload results else consumer.pending payload results

theorem failures_not_ok (results : List (Except Error Unit)) (failed : Failures results) : .ok () ∉ results :=
  fun returned => by
  obtain ⟨_, wrong⟩ := failed _ returned
  cases wrong

theorem come_to_failures (payload : ν) (results : List (Except Error Unit)) (failed : Failures results) :
    (comeTo consumer payload results : MemberPhase ν σ) = consumer.pending payload results :=
      if_neg (failures_not_ok results failed)

-- Induction on the attempts that are left.
theorem try_all_brings (payload : ν) (attempts : List (Attempt κ)) (results : List (Except Error Unit))
    (failed : Failures results) (within : results.length + attempts.length ≤ consumer.maxRetries) (store : σ) :
    Brings consumer loads place log position position (consumer.pending payload results)
      (comeTo consumer payload (results ++ (consumer.tryAll payload attempts store).results)) store
      (consumer.tryAll payload attempts store).store := by
  induction attempts generalizing results store with
  | nil =>
      rw [KafkaConsumerBase.tryAll, List.append_nil, come_to_failures consumer payload results failed]
      exact brings_refl consumer loads place log position _ store
  | cons first later ih =>
      rw [List.length_cons] at within
      have tried := brings_trans consumer loads place log position position position _ _ _ _ _ _
        (try_brings consumer loads place log position payload results (by omega) first.io store)
        (attempt_brings consumer loads place log position payload results
          (consumer.handler first.io payload) first.script store)
      rw [KafkaConsumerBase.tryAll, KafkaConsumerBase.attempt]
      cases returned : ((consumer.handler first.io payload).exec first.script store).result with
      | ok value =>
          rw [returned] at tried
          have ends : (comeTo consumer payload (results ++ [.ok ()]) : MemberPhase ν σ) =
              consumer.attempted payload results (Prog.ofExcept (.ok value)) :=
            if_pos (List.mem_append_right _ (List.mem_singleton_self _))
          dsimp only
          rw [ends]
          exact tried
      | error error =>
          rw [returned] at tried
          refine brings_trans consumer loads place log position position position _ _ _ _ _ _ tried ?_
          have next := ih (results ++ [.error error]) (failures_snoc results error failed)
            (by rw [List.length_append, List.length_singleton]; omega)
            ((consumer.handler first.io payload).exec first.script store).store
          rw [List.append_assoc, List.singleton_append] at next
          exact next

theorem try_all_exhausted (payload : ν) (attempts : List (Attempt κ)) (store : σ)
    (failed : .ok () ∉ (consumer.tryAll payload attempts store).results) :
    (consumer.tryAll payload attempts store).results.length = attempts.length := by
  induction attempts generalizing store with
  | nil => rfl
  | cons first later ih =>
      rw [KafkaConsumerBase.tryAll] at failed ⊢
      cases returned : (consumer.attempt payload first store).result with
      | ok value => simp [returned] at failed
      | error error =>
          simp only [returned, List.mem_cons, reduceCtorEq, false_or] at failed
          simp only [List.length_cons, ih _ failed]

theorem fetch_brings (value : Option ByteArray) (isValue : log[position]? = some value) (payload : ν)
    (decoded : valueDeserializer loads value = .ok payload) (store : σ) :
    Brings consumer loads place log position position .fetching (consumer.pending payload []) store store := by
  refine brings_one consumer loads place log position .fetches position _ _ store store fun group joined stands _ =>
    ⟨group.committed, group.passed, ?_⟩
  rw [KafkaConsumerBase.memberStep, stands.log]
  simp only [isValue, decoded]
  rw [← stands.store, ← stands.log]

theorem poison_brings (value : Option ByteArray) (isValue : log[position]? = some value) (error : Error)
    (failed : valueDeserializer loads value = .error error) (store : σ) :
    Brings consumer loads place log position position .fetching (.ended (.raised error)) store store := by
  refine brings_one consumer loads place log position .fetches position _ _ store store fun group joined stands _ =>
    ⟨group.committed, group.passed, ?_⟩
  rw [KafkaConsumerBase.memberStep, stands.log]
  simp only [isValue, failed]
  rw [← stands.store, ← stands.log]

theorem commit_brings (payload : ν) (results : List (Except Error Unit)) (fault : Fault) (lost : Error) (store : σ) :
    Brings consumer loads place log position (position + 1) (.committing payload results)
      (if fault = .none then .fetching else .ended (.raised lost)) store store := by
  refine brings_one consumer loads place log position (.commits fault lost) (position + 1) _ _ store store
    fun group joined stands _ =>
      ⟨if fault ≠ .before then position + 1 else group.committed,
        group.passed ++ [⟨place, position, payload, results⟩], ?_⟩
  rw [KafkaConsumerBase.memberStep, ← stands.store]
  simp [ConsumerGroup.commit]

theorem stop_brings (phase : MemberPhase ν σ) (under : ∀ ending, phase ≠ .ended ending) (store : σ) :
    Brings consumer loads place log position position phase (.ended .stopped) store store := by
  refine brings_one consumer loads place log position .stops position _ _ store store fun group joined stands _ =>
    ⟨group.committed, group.passed, ?_⟩
  rw [KafkaConsumerBase.memberStep, ← stands.store]
  split
  · exact absurd ‹_› (under _)
  · rfl

theorem come_to_under (payload : ν) (results : List (Except Error Unit)) (ending : Ending) :
    (comeTo consumer payload results : MemberPhase ν σ) ≠ .ended ending := by
  rw [comeTo, KafkaConsumerBase.pending]
  split
  · exact fun wrong => by cases wrong
  · split <;> exact fun wrong => by cases wrong

theorem handling_brings (record : Fetched κ) (payload : ν) (store : σ) :
    Brings consumer loads place log position position (consumer.pending payload [])
      (comeTo consumer payload (consumer.handleWithRetry payload (consumer.begun record) store).results) store
      (consumer.handleWithRetry payload (consumer.begun record) store).store := by
  have failed : Failures [] := fun _ wrong => absurd wrong List.not_mem_nil
  refine try_all_brings consumer loads place log position payload _ [] failed ?_ store
  rw [List.length_nil, Nat.zero_add, List.length_take]
  exact Nat.min_le_left _ _

theorem handled_comes_to (record : Fetched κ) (running : record.stopped = none) (payload : ν) (store : σ) :
    (comeTo consumer payload
      (consumer.handleWithRetry payload (consumer.begun record) store).results : MemberPhase ν σ) =
      .committing payload (consumer.handleWithRetry payload (consumer.begun record) store).results := by
  rw [comeTo]
  split
  · rfl
  · rename_i failed
    have all := try_all_exhausted consumer payload _ store failed
    have every : ((consumer.begun record).take consumer.maxRetries).length = consumer.maxRetries := by
      simp [KafkaConsumerBase.begun, running]
    rw [KafkaConsumerBase.pending, if_neg]
    rw [KafkaConsumerBase.handleWithRetry, all, every]
    exact lt_irrefl _

def resting : Ending → MemberPhase ν σ
  | .waiting => .fetching
  | ending => .ended ending

omit position in
-- Whatever the loop does with the records that are next in the log, a member may do.
theorem alone_is_run_loop (turns : List (Turn κ)) (position : Nat)
    (records : ∀ n record, (due turns)[n]? = some record → log[position + n]? = some record.value) (store : σ) :
    ∃ later, Brings consumer loads place log position later .fetching
      (resting (consumer.runLoop loads turns store).ending) store
      (consumer.runLoop loads turns store).store := by
  induction turns generalizing position store with
  | nil => exact ⟨position, brings_refl consumer loads place log position _ store⟩
  | cons turn rest ih =>
      cases turn with
      | stop => exact ⟨position, stop_brings consumer loads place log position _ (fun _ wrong => by cases wrong) store⟩
      | fetched record =>
          have isValue : log[position]? = some record.value := records 0 record rfl
          cases decoded : valueDeserializer loads record.value with
          | error error =>
              refine ⟨position, ?_⟩
              simp only [KafkaConsumerBase.runLoop, decoded]
              exact poison_brings consumer loads place log position record.value isValue error decoded store
          | ok payload =>
              have handles := brings_trans consumer loads place log position position position _ _ _ _ _ _
                (fetch_brings consumer loads place log position record.value isValue payload decoded store)
                (handling_brings consumer loads place log position record payload store)
              simp only [KafkaConsumerBase.runLoop, decoded]
              cases stopped : record.stopped with
              | some during =>
                  exact ⟨position, brings_trans consumer loads place log position position position _ _ _ _ _ _ handles
                    (stop_brings consumer loads place log position _ (come_to_under consumer payload _) _)⟩
              | none =>
                  rw [handled_comes_to consumer record stopped payload store] at handles
                  cases committed : record.commit with
                  | error error =>
                      exact ⟨position + 1,
                        brings_trans consumer loads place log position position (position + 1) _ _ _ _ _ _ handles
                        (commit_brings consumer loads place log position payload _ .before error _)⟩
                  | ok value =>
                      have next : ∀ n later, (due rest)[n]? = some later →
                          log[position + 1 + n]? = some later.value := by
                        intro n later isLater
                        have isNext : (due (.fetched record :: rest))[n + 1]? = some later := by
                          simpa [due, stopped] using isLater
                        have here := records (n + 1) later isNext
                        rwa [show position + (n + 1) = position + 1 + n by omega] at here
                      obtain ⟨last, goes⟩ :=
                        ih (position + 1) next (consumer.handleWithRetry payload (consumer.begun record) store).store
                      have commits := commit_brings consumer loads place log position payload
                        (consumer.handleWithRetry payload (consumer.begun record) store).results .none .kafka
                        (consumer.handleWithRetry payload (consumer.begun record) store).store
                      exact ⟨last, brings_trans consumer loads place log position (position + 1) last _ _ _ _ _ _
                        (brings_trans consumer loads place log position position
                          (position + 1) _ _ _ _ _ _ handles commits) goes⟩

end Alone

end AuthProfile
