import AuthProfile.Process.Solo
import AuthProfile.UseCases.Presence
import Mathlib.Data.Finset.Card

set_option autoImplicit false

namespace AuthProfile

open Relation Process

-- UpdatePresence over any store that has a Redis in it and somewhere to publish to.
def heartbeat {σ : Type} (onRedis : Lens σ Redis) (publish : Message → Prog σ Error Unit) (beat : Heartbeat) :
    Prog σ Error Unit := do
  let wasOnline ← (PresenceStore.isOnline beat.askedAt beat.userId).focus onRedis
  (PresenceStore.setOnline beat.setAt beat.userId PRESENCE_TTL_SECONDS).focus onRedis
  if !wasOnline then publish (presenceMessage beat.event)

theorem update_presence_heartbeat (beat : Heartbeat) :
    updatePresence beat = heartbeat WireStores.onRedis hand beat := rfl

-- Redis, and the messages that Kafka has taken: a refused publish leaves none.
structure PresenceStores where
  redis : Redis
  published : List Message

namespace PresenceStores

def onRedis : Lens PresenceStores Redis where
  get := fun stores => stores.redis
  set := fun stores redis => { stores with redis := redis }
  get_set := fun _ _ => rfl
  set_get := fun _ => rfl
  set_set := fun _ _ _ => rfl

def publish (message : Message) : Prog PresenceStores Error Unit :=
  Prog.atomic .kafka fun stores => .ok ((), { stores with published := stores.published ++ [message] })

end PresenceStores

namespace Heartbeat

variable (beat : Heartbeat)

def key (userId : String) : String := PresenceStore.keyPrefix ++ userId

def program : Prog PresenceStores Error Unit := heartbeat PresenceStores.onRedis PresenceStores.publish beat

-- What is left of a call that has been told whether the user is online.
def setting (wasOnline : Bool) : Prog PresenceStores Error Unit := do
  (PresenceStore.setOnline beat.setAt beat.userId PRESENCE_TTL_SECONDS).focus PresenceStores.onRedis
  if !wasOnline then PresenceStores.publish (presenceMessage beat.event)

def announcing : Prog PresenceStores Error Unit := PresenceStores.publish (presenceMessage beat.event)

def whenSet (stores : PresenceStores) : PresenceStores :=
  { stores with redis := ⟨Function.update stores.redis.expiries (key beat.userId)
    (some (beat.setAt + PRESENCE_TTL_SECONDS))⟩ }

def whenAnnounced (stores : PresenceStores) : PresenceStores :=
  { stores with published := stores.published ++ [presenceMessage beat.event] }

theorem advance_program (fault : Fault) (stores : PresenceStores) : beat.program.advance fault stores =
    (if fault = .none then beat.setting (stores.redis.present (key beat.userId) beat.askedAt) else .raise .connection,
      stores) := by
  cases fault <;> rfl

theorem advance_setting (wasOnline : Bool) (fault : Fault) (stores : PresenceStores) :
    (beat.setting wasOnline).advance fault stores =
    (if fault = .none then (if wasOnline then .ret () else beat.announcing) else .raise .connection,
      if fault = .before then stores else beat.whenSet stores) := by
  cases fault with
  | none => cases wasOnline <;> rfl
  | before => rfl
  | after => rfl

theorem advance_announcing (fault : Fault) (stores : PresenceStores) : beat.announcing.advance fault stores =
    (if fault = .none then .ret () else .raise .kafka, if fault = .before then stores
      else beat.whenAnnounced stores) := by
  cases fault <;> rfl

theorem announcing_not_program : beat.announcing ≠ beat.program := by
  intro same
  have moved := congrArg (fun p => (p.advance .none (⟨Redis.empty, []⟩ : PresenceStores)).2.published.length) same
  cases moved

theorem announcing_not_setting (wasOnline : Bool) : beat.announcing ≠ beat.setting wasOnline := by
  intro same
  have moved := congrArg (fun p => (p.advance .none (⟨Redis.empty, []⟩ : PresenceStores)).2.published.length) same
  rw [advance_setting, advance_announcing] at moved
  cases moved

theorem program_not_setting (wasOnline : Bool) : beat.program ≠ beat.setting wasOnline := by
  intro same
  have moved :=
    congrArg (fun p => (p.advance .none (⟨Redis.empty, []⟩ : PresenceStores)).2.redis.expiries (key beat.userId)) same
  rw [advance_setting, advance_program] at moved
  have isSet : (beat.whenSet ⟨Redis.empty, []⟩).redis.expiries (key beat.userId) =
      some (beat.setAt + PRESENCE_TTL_SECONDS) :=
    Function.update_self _ _ _
  cases moved.trans isSet

theorem setting_injective (first second : Bool) (same : beat.setting first = beat.setting second) : first = second := by
  have moved := congrArg (fun p => (p.advance .none (⟨Redis.empty, []⟩ : PresenceStores)).1.finished.isSome) same
  rw [advance_setting, advance_setting] at moved
  cases first <;> cases second <;> first | rfl | cases moved

end Heartbeat

def Json.saysTrue : Option Json → Bool
  | some (.bool flag) => flag
  | _ => false

-- PresenceChanged(online=True) for the user.
def Message.comesOnline (userId : String) (message : Message) : Bool :=
  message.topic = "presence-events" && message.key = userId && Json.saysTrue (message.value.get "online")

theorem presence_message_comes_online (beat : Heartbeat) (userId : String) :
    (presenceMessage beat.event).comesOnline userId = decide (beat.userId = userId) := by
  have online : Json.saysTrue ((presenceMessage beat.event).value.get "online") = true := rfl
  rw [Message.comesOnline, online, Bool.and_true]
  rfl

section Runs

variable {ι : Type} [DecidableEq ι] (userId : String) (beats : ι → Heartbeat)

-- Calls from any number of sockets and replicas.
def presencePool (stores : PresenceStores) : Pool ι PresenceStores Error Unit := ⟨stores, fun i => (beats i).program⟩

-- The user's key is absent when a move is made and present after it.
def Appears (pool : Pool ι PresenceStores Error Unit) (move : Move ι) : Bool :=
  !pool.store.redis.present (Heartbeat.key userId) (beats move.proc).setAt &&
    (pool.step move).store.redis.present (Heartbeat.key userId) (beats move.proc).setAt

def appearances : Pool ι PresenceStores Error Unit → List (Move ι) → Nat
  | _, [] => 0
  | pool, move :: moves => (if Appears userId beats pool move then 1 else 0) + appearances (pool.step move) moves

def announcements (stores : PresenceStores) : Nat := stores.published.countP (Message.comesOnline userId)

-- No call for the user is under way.
def Quiet (pool : Pool ι PresenceStores Error Unit) : Prop :=
  ∀ i, (beats i).userId = userId → pool.procs i = (beats i).program ∨ (pool.procs i).finished ≠ none

-- How an announcement gets lost or doubled: a key is set when is_online's answer no longer
-- holds, or it is set and the caller does not learn of it, or Kafka refuses the event.
def Slips (pool : Pool ι PresenceStores Error Unit) (move : Move ι) : Prop :=
  (beats move.proc).userId = userId ∧
    ((∃ wasOnline, pool.procs move.proc = (beats move.proc).setting wasOnline ∧ move.fault ≠ .before ∧
        (pool.store.redis.present (Heartbeat.key userId) (beats move.proc).setAt ≠ wasOnline ∨ wasOnline = false ∧
          move.fault = .after)) ∨
      pool.procs move.proc = (beats move.proc).announcing ∧ move.fault = .before)

omit [DecidableEq ι] in
theorem asking_no_slip (pool : Pool ι PresenceStores Error Unit) (move : Move ι)
    (asks : pool.procs move.proc = (beats move.proc).program) : ¬ Slips userId beats pool move := by
  rintro ⟨_, ⟨wasOnline, sets, _⟩ | ⟨announces, _⟩⟩
  · exact (beats move.proc).program_not_setting wasOnline (asks.symm.trans sets)
  · exact (beats move.proc).announcing_not_program (announces.symm.trans asks)

omit [DecidableEq ι] in
theorem setting_no_slip (pool : Pool ι PresenceStores Error Unit) (move : Move ι) (wasOnline : Bool)
    (sets : pool.procs move.proc = (beats move.proc).setting wasOnline) (answered : move.fault = .none)
    (honest : pool.store.redis.present (Heartbeat.key userId) (beats move.proc).setAt = wasOnline) :
    ¬ Slips userId beats pool move := by
  rintro ⟨_, ⟨other, alsoSets, _, stale | ⟨_, lost⟩⟩ | ⟨announces, _⟩⟩
  · exact stale (honest.trans ((beats move.proc).setting_injective _ _ (sets.symm.trans alsoSets)))
  · rw [answered] at lost
    cases lost
  · exact (beats move.proc).announcing_not_setting wasOnline (announces.symm.trans sets)

omit [DecidableEq ι] in
theorem announcing_no_slip (pool : Pool ι PresenceStores Error Unit) (move : Move ι)
    (announces : pool.procs move.proc = (beats move.proc).announcing) (taken : move.fault ≠ .before) :
    ¬ Slips userId beats pool move := by
  rintro ⟨_, ⟨wasOnline, sets, _⟩ | ⟨_, refused⟩⟩
  · exact (beats move.proc).announcing_not_setting wasOnline (announces.symm.trans sets)
  · exact taken refused

inductive BeatPhase where
  | asking
  | setting (wasOnline : Bool)
  | announcing
  | done

def BeatPhase.Runs (beat : Heartbeat) (p : Prog PresenceStores Error Unit) : BeatPhase → Prop
  | .asking => p = beat.program
  | .setting wasOnline => p = beat.setting wasOnline
  | .announcing => p = beat.announcing
  | .done => p.finished ≠ none

-- Each call in its phase; what has been published and what is still owed make up the
-- appearances.
structure Counted (earlier seen : Nat) (pool : Pool ι PresenceStores Error Unit) (phases : ι → BeatPhase)
    (owing : Finset ι) : Prop where
  runs : ∀ i, (phases i).Runs (beats i) (pool.procs i)
  owes : ∀ i, i ∈ owing ↔ phases i = .announcing ∧ (beats i).userId = userId
  count : announcements userId pool.store + owing.card = earlier + seen

theorem phases_step (pool : Pool ι PresenceStores Error Unit) (move : Move ι) (phases : ι → BeatPhase)
    (next : BeatPhase) (runs : ∀ i, (phases i).Runs (beats i) (pool.procs i))
    (here : next.Runs (beats move.proc) ((pool.procs move.proc).advance move.fault pool.store).1) (i : ι) :
    (Function.update phases move.proc next i).Runs (beats i) ((pool.step move).procs i) := by
  by_cases same : i = move.proc
  · subst same
    rw [Function.update_self, Pool.step_here]
    exact here
  · rw [Function.update_of_ne same, Pool.step_elsewhere pool move i same]
    exact runs i

section Step

variable (earlier seen : Nat) (pool : Pool ι PresenceStores Error Unit) (move : Move ι) (phases : ι → BeatPhase)
    (owing : Finset ι)

-- A move of a call that owes nothing, to a phase in which it owes nothing.
theorem counted_aside (counted : Counted userId beats earlier seen pool phases owing) (next : BeatPhase)
    (idle : move.proc ∉ owing) (nothing : next ≠ .announcing ∨ (beats move.proc).userId ≠ userId)
    (here : next.Runs (beats move.proc) ((pool.procs move.proc).advance move.fault pool.store).1)
    (same : announcements userId (pool.step move).store = announcements userId pool.store)
    (absent : Appears userId beats pool move = false) :
    Counted userId beats earlier (seen + if Appears userId beats pool move then 1 else 0) (pool.step move)
      (Function.update phases move.proc next) owing := by
  refine ⟨phases_step beats pool move phases next counted.runs here, fun i => ?_, ?_⟩
  · by_cases isHere : i = move.proc
    · subst isHere
      rw [Function.update_self]
      refine iff_of_false idle fun ⟨announces, isUser⟩ => ?_
      exact nothing.elim (fun wrong => wrong announces) fun wrong => wrong isUser
    · rw [Function.update_of_ne isHere]
      exact counted.owes i
  · rw [same, absent, counted.count]
    rfl

theorem counted_appears (counted : Counted userId beats earlier seen pool phases owing) (idle : move.proc ∉ owing)
    (isUser : (beats move.proc).userId = userId)
    (here : BeatPhase.announcing.Runs (beats move.proc) ((pool.procs move.proc).advance move.fault pool.store).1)
    (same : announcements userId (pool.step move).store = announcements userId pool.store)
    (appears : Appears userId beats pool move = true) :
    Counted userId beats earlier (seen + if Appears userId beats pool move then 1 else 0) (pool.step move)
      (Function.update phases move.proc .announcing) (insert move.proc owing) := by
  refine ⟨phases_step beats pool move phases _ counted.runs here, fun i => ?_, ?_⟩
  · by_cases isHere : i = move.proc
    · subst isHere
      rw [Function.update_self]
      exact iff_of_true (Finset.mem_insert_self _ _) ⟨rfl, isUser⟩
    · rw [Function.update_of_ne isHere, Finset.mem_insert, or_iff_right isHere]
      exact counted.owes i
  · have count := counted.count
    rw [same, appears, Finset.card_insert_of_notMem idle, if_pos rfl]
    omega

theorem counted_announced (counted : Counted userId beats earlier seen pool phases owing) (owed : move.proc ∈ owing)
    (here : BeatPhase.done.Runs (beats move.proc) ((pool.procs move.proc).advance move.fault pool.store).1)
    (more : announcements userId (pool.step move).store = announcements userId pool.store + 1)
    (absent : Appears userId beats pool move = false) :
    Counted userId beats earlier (seen + if Appears userId beats pool move then 1 else 0) (pool.step move)
      (Function.update phases move.proc .done) (owing.erase move.proc) := by
  refine ⟨phases_step beats pool move phases _ counted.runs here, fun i => ?_, ?_⟩
  · by_cases isHere : i = move.proc
    · subst isHere
      rw [Function.update_self]
      exact iff_of_false (Finset.notMem_erase _ _) fun ⟨wrong, _⟩ => nomatch wrong
    · rw [Function.update_of_ne isHere, Finset.mem_erase, and_iff_right isHere]
      exact counted.owes i
  · have count := counted.count
    have card := Finset.card_erase_add_one owed
    rw [more, absent, if_neg Bool.false_ne_true]
    omega

omit [DecidableEq ι] in
theorem set_present (beat : Heartbeat) (stores : PresenceStores) (user : String) :
    (beat.whenSet stores).redis.present (Heartbeat.key user) beat.setAt =
      (decide (beat.userId = user) || stores.redis.present (Heartbeat.key user) beat.setAt) := by
  by_cases isUser : beat.userId = user
  · subst isUser
    have later : beat.setAt < beat.setAt + PRESENCE_TTL_SECONDS := lt_add_of_pos_right _ (by decide)
    simp [Heartbeat.whenSet, Redis.present, later]
  · have different : Heartbeat.key user ≠ Heartbeat.key beat.userId :=
      fun same => isUser ((String.append_right_inj _).mp same).symm
    simp [Heartbeat.whenSet, Redis.present, isUser, different]

theorem same_redis_absent (same : (pool.step move).store.redis = pool.store.redis) :
    Appears userId beats pool move = false := by
  rw [Appears, same, Bool.not_and_self]

-- A set that takes effect: the user's key appears unless it was there.
theorem set_appears (isSet : (pool.step move).store = (beats move.proc).whenSet pool.store) :
    Appears userId beats pool move = (decide ((beats move.proc).userId = userId) &&
      !pool.store.redis.present (Heartbeat.key userId) (beats move.proc).setAt) := by
  rw [Appears, isSet, set_present]
  cases pool.store.redis.present (Heartbeat.key userId) (beats move.proc).setAt <;> simp

omit [DecidableEq ι] in
theorem owes_nothing (counted : Counted userId beats earlier seen pool phases owing)
    (free : phases move.proc ≠ .announcing ∨ (beats move.proc).userId ≠ userId) : move.proc ∉ owing := by
  intro owed
  obtain ⟨announces, isUser⟩ := (counted.owes move.proc).mp owed
  exact free.elim (fun wrong => wrong announces) fun wrong => wrong isUser

theorem step_asking (counted : Counted userId beats earlier seen pool phases owing)
    (asks : phases move.proc = .asking) :
    ∃ phases owing, Counted userId beats earlier (seen + if Appears userId beats pool move then 1 else 0)
      (pool.step move) phases owing := by
  have runs := counted.runs move.proc
  rw [asks] at runs
  have moved := (beats move.proc).advance_program move.fault pool.store
  have store : (pool.step move).store = pool.store := by rw [Pool.step_store, runs, moved]
  have idle := owes_nothing userId beats earlier seen pool move phases owing counted
    (Or.inl (by rw [asks]; exact nofun))
  have absent := same_redis_absent userId beats pool move (congrArg PresenceStores.redis store)
  by_cases answered : move.fault = .none
  · rw [if_pos answered] at moved
    refine ⟨_, owing, counted_aside userId beats earlier seen pool move phases owing counted
      (.setting (pool.store.redis.present (Heartbeat.key (beats move.proc).userId) (beats move.proc).askedAt)) idle
        (Or.inl nofun) ?_
      (congrArg (announcements userId) store) absent⟩
    rw [runs, moved]
    rfl
  · rw [if_neg answered] at moved
    refine ⟨_, owing, counted_aside userId beats earlier seen pool move phases owing counted .done idle
      (Or.inl nofun) ?_
      (congrArg (announcements userId) store) absent⟩
    rw [runs, moved]
    exact nofun

theorem step_announcing (counted : Counted userId beats earlier seen pool phases owing)
    (sound : ¬ Slips userId beats pool move) (announces : phases move.proc = .announcing) :
    ∃ phases owing, Counted userId beats earlier (seen + if Appears userId beats pool move then 1 else 0)
      (pool.step move) phases owing := by
  have runs := counted.runs move.proc
  rw [announces] at runs
  have moved := (beats move.proc).advance_announcing move.fault pool.store
  have store := Pool.step_store pool move
  rw [runs, moved] at store
  have done : BeatPhase.done.Runs (beats move.proc) ((pool.procs move.proc).advance move.fault pool.store).1 := by
    rw [runs, moved]
    dsimp only
    split <;> exact nofun
  have redis : (pool.step move).store.redis = pool.store.redis := by
    rw [store]
    dsimp only
    split <;> rfl
  have absent := same_redis_absent userId beats pool move redis
  by_cases isUser : (beats move.proc).userId = userId
  · have published : move.fault ≠ .before := fun refused => sound ⟨isUser, Or.inr ⟨runs, refused⟩⟩
    dsimp only at store
    rw [if_neg published] at store
    refine ⟨_, _, counted_announced userId beats earlier seen pool move phases owing counted
      ((counted.owes move.proc).mpr ⟨announces, isUser⟩) done ?_ absent⟩
    rw [store, announcements, Heartbeat.whenAnnounced, List.countP_append, List.countP_singleton,
      presence_message_comes_online,
      decide_eq_true isUser]
    rfl
  · refine ⟨_, owing, counted_aside userId beats earlier seen pool move phases owing counted .done
      (owes_nothing userId beats earlier seen pool move phases owing counted (Or.inr isUser))
        (Or.inr isUser) done ?_ absent⟩
    rw [store]
    dsimp only
    split
    · rfl
    · rw [announcements, Heartbeat.whenAnnounced, List.countP_append, List.countP_singleton,
        presence_message_comes_online,
        decide_eq_false isUser]
      rfl

theorem step_setting (counted : Counted userId beats earlier seen pool phases owing)
    (sound : ¬ Slips userId beats pool move) (wasOnline : Bool) (sets : phases move.proc = .setting wasOnline) :
    ∃ phases owing, Counted userId beats earlier (seen + if Appears userId beats pool move then 1 else 0)
      (pool.step move) phases owing := by
  have runs := counted.runs move.proc
  rw [sets] at runs
  have moved := (beats move.proc).advance_setting wasOnline move.fault pool.store
  have store := Pool.step_store pool move
  rw [runs, moved] at store
  dsimp only at store
  have idle := owes_nothing userId beats earlier seen pool move phases owing counted
    (Or.inl (by rw [sets]; exact nofun))
  by_cases refused : move.fault = .before
  · rw [if_pos refused] at store
    rw [refused] at moved
    refine ⟨_, owing, counted_aside userId beats earlier seen pool move phases owing counted .done idle
      (Or.inl nofun) ?_
      (congrArg (announcements userId) store)
        (same_redis_absent userId beats pool move (congrArg PresenceStores.redis store))⟩
    rw [runs, refused, moved]
    exact nofun
  · rw [if_neg refused] at store
    have appears := set_appears userId beats pool move store
    have same : announcements userId (pool.step move).store = announcements userId pool.store := by rw [store]; rfl
    by_cases isUser : (beats move.proc).userId = userId
    · have honest : pool.store.redis.present (Heartbeat.key userId) (beats move.proc).setAt = wasOnline :=
        by_contra fun stale => sound ⟨isUser, Or.inl ⟨wasOnline, runs, refused, Or.inl stale⟩⟩
      rw [honest, decide_eq_true isUser, Bool.true_and] at appears
      cases wasOnline with
      | true =>
          refine ⟨_, owing, counted_aside userId beats earlier seen pool move phases owing counted .done idle
            (Or.inl nofun) ?_ same appears⟩
          rw [runs, moved]
          dsimp only
          split <;> exact nofun
      | false =>
          have answered : move.fault = .none := by
            cases isFault : move.fault with
            | none => rfl
            | before => exact absurd isFault refused
            | after => exact absurd ⟨isUser, Or.inl ⟨false, runs, refused, Or.inr ⟨rfl, isFault⟩⟩⟩ sound
          refine ⟨_, _,
            counted_appears userId beats earlier seen pool move phases owing counted idle isUser ?_ same appears⟩
          rw [runs, moved, if_pos answered]
          rfl
    · rw [decide_eq_false isUser, Bool.false_and] at appears
      by_cases announces : move.fault = .none ∧ wasOnline = false
      · refine ⟨_, owing, counted_aside userId beats earlier seen pool move phases owing counted .announcing idle
          (Or.inr isUser) ?_ same appears⟩
        rw [runs, moved, if_pos announces.1, announces.2]
        rfl
      · refine ⟨_, owing, counted_aside userId beats earlier seen pool move phases owing counted .done idle
          (Or.inl nofun) ?_ same appears⟩
        rw [runs, moved]
        dsimp only
        split
        · rename_i answered
          cases wasOnline with
          | true => exact nofun
          | false => exact absurd ⟨answered, rfl⟩ announces
        · exact nofun

theorem step_counted (counted : Counted userId beats earlier seen pool phases owing)
    (sound : ¬ Slips userId beats pool move) :
    ∃ phases owing, Counted userId beats earlier (seen + if Appears userId beats pool move then 1 else 0)
      (pool.step move) phases owing := by
  cases isPhase : phases move.proc with
  | asking => exact step_asking userId beats earlier seen pool move phases owing counted isPhase
  | setting wasOnline =>
      exact step_setting userId beats earlier seen pool move phases owing counted sound wasOnline isPhase
  | announcing => exact step_announcing userId beats earlier seen pool move phases owing counted sound isPhase
  | done =>
      have runs := counted.runs move.proc
      rw [isPhase] at runs
      obtain ⟨result, finished⟩ := Option.ne_none_iff_exists'.mp runs
      have moved := Prog.finished_advance _ move.fault pool.store result finished
      have store : (pool.step move).store = pool.store := by rw [Pool.step_store, moved]
      refine ⟨_, owing, counted_aside userId beats earlier seen pool move phases owing counted .done
        (owes_nothing userId beats earlier seen pool move phases owing counted (Or.inl (by rw [isPhase]; exact nofun)))
          (Or.inl nofun) ?_
        (congrArg (announcements userId) store)
          (same_redis_absent userId beats pool move (congrArg PresenceStores.redis store))⟩
      rw [moved]
      exact runs

end Step

theorem run_counted (earlier seen : Nat) (pool : Pool ι PresenceStores Error Unit) (phases : ι → BeatPhase)
    (owing : Finset ι) (counted : Counted userId beats earlier seen pool phases owing) (moves : List (Move ι))
    (sound : ∀ before move after, moves = before ++ move :: after → ¬ Slips userId beats (pool.run before) move) :
    ∃ phases owing, Counted userId beats earlier (seen + appearances userId beats pool moves)
      (pool.run moves) phases owing := by
  induction moves generalizing pool seen phases owing with
  | nil => exact ⟨phases, owing, counted⟩
  | cons move moves ih =>
      obtain ⟨nextPhases, nextOwing, next⟩ :=
        step_counted userId beats earlier seen pool move phases owing counted (sound [] move moves rfl)
      have later := ih _ (pool.step move) nextPhases nextOwing next fun before other after split =>
        sound (move :: before) other after (congrArg (move :: ·) split)
      rw [appearances, ← Nat.add_assoc]
      exact later

omit [DecidableEq ι] in
theorem quiet_owes_nothing (earlier seen : Nat) (pool : Pool ι PresenceStores Error Unit) (phases : ι → BeatPhase)
    (owing : Finset ι)
    (counted : Counted userId beats earlier seen pool phases owing) (quiet : Quiet userId beats pool) : owing = ∅ := by
  refine Finset.eq_empty_of_forall_notMem fun i owed => ?_
  obtain ⟨announces, isUser⟩ := (counted.owes i).mp owed
  have runs := counted.runs i
  rw [announces] at runs
  rcases quiet i isUser with starts | finished
  · exact (beats i).announcing_not_program (runs.symm.trans starts)
  · exact finished (congrArg Prog.finished runs)

-- In every run without a slip, whenever no call for the user is under way, the user has
-- been announced as often as the key has appeared.
theorem announced_once (stores : PresenceStores) (moves : List (Move ι))
    (sound : ∀ before move after, moves = before ++ move :: after →
      ¬ Slips userId beats ((presencePool beats stores).run before) move) :
    ∀ reached, reached <+: moves → Quiet userId beats ((presencePool beats stores).run reached) →
      announcements userId ((presencePool beats stores).run reached).store =
        announcements userId stores + appearances userId beats (presencePool beats stores) reached := by
  intro reached ⟨later, isMoves⟩ quiet
  have start : Counted userId beats (announcements userId stores) 0 (presencePool beats stores) (fun _ => .asking) ∅ :=
    ⟨fun _ => rfl, fun i => iff_of_false (Finset.notMem_empty i) (fun both => BeatPhase.noConfusion both.1), rfl⟩
  obtain ⟨phases, owing, counted⟩ := run_counted userId beats _ 0 _ _ _ start reached fun before move after split =>
    sound before move (after ++ later) (by rw [← isMoves, split, List.append_assoc, List.cons_append])
  have settled := counted.count
  rw [quiet_owes_nothing userId beats _ _ _ phases owing counted quiet, Finset.card_empty, Nat.add_zero,
    Nat.zero_add] at settled
  exact settled

end Runs

-- A user who comes online for the first time.
def oneTab (_tab : Fin 1) : Heartbeat := ⟨"u1", 0, 0, "e1", "2026-01-01T00:00:00+00:00"⟩

def quietStores : PresenceStores := ⟨Redis.empty, []⟩

theorem one_tab_sound (before : List (Move (Fin 1))) (move : Move (Fin 1)) (after : List (Move (Fin 1)))
    (split : Pool.moves [0, 0, 0] = before ++ move :: after) :
    ¬ Slips "u1" oneTab ((presencePool oneTab quietStores).run before) move := by
  rcases before with _ | ⟨first, _ | ⟨second, _ | ⟨third, before⟩⟩⟩
  · cases split
    exact asking_no_slip "u1" oneTab _ _ rfl
  · cases split
    exact setting_no_slip "u1" oneTab _ _ false rfl rfl rfl
  · cases split
    exact announcing_no_slip "u1" oneTab _ _ rfl nofun
  · have length := congrArg List.length split
    simp only [Pool.moves, List.map_cons, List.map_nil, List.length_cons, List.length_nil, List.length_append] at length
    omega

theorem one_tab_quiet : Quiet "u1" oneTab ((presencePool oneTab quietStores).run (Pool.moves [0, 0, 0])) :=
  fun tab _ => Or.inr (by decide +revert +kernel)

theorem one_tab_announced_once :
    announcements "u1" ((presencePool oneTab quietStores).run (Pool.moves [0, 0, 0])).store =
      announcements "u1" quietStores + appearances "u1" oneTab (presencePool oneTab quietStores)
        (Pool.moves [0, 0, 0]) :=
  announced_once "u1" oneTab quietStores (Pool.moves [0, 0, 0]) one_tab_sound _ (List.prefix_refl _) one_tab_quiet

-- Two tabs that both ask before either has set the key.
def twoTabs (_tab : Fin 2) : Heartbeat := ⟨"u1", 0, 0, "e1", "2026-01-01T00:00:00+00:00"⟩

theorem opened_together :
    (∀ tab, (((presencePool twoTabs quietStores).play [0, 1, 0, 1, 0, 1]).procs tab).finished = some (.ok ())) ∧
      announcements "u1" ((presencePool twoTabs quietStores).play [0, 1, 0, 1, 0, 1]).store ≠
        announcements "u1" quietStores + appearances "u1" twoTabs (presencePool twoTabs quietStores)
          (Pool.moves [0, 1, 0, 1, 0, 1]) := by
  decide +kernel

end AuthProfile
