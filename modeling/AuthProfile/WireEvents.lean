import AuthProfile.Announcements
import AuthProfile.Freshness
import AuthProfile.Messaging.Envelope
import AuthProfile.RelayOrder
import AuthProfile.UseCases.Presence

set_option autoImplicit false

namespace AuthProfile

open Relation Process OutboxDispatcher

-- The events of both halves of the service.
inductive PublishedEvent where
  | auth (event : DomainEvent)
  | presence (event : PresenceChanged)

def PublishedEvent.eventType : PublishedEvent → String
  | .auth event => event.eventType
  | .presence event => event.eventType

def PublishedEvent.toPayload : PublishedEvent → Json
  | .auth event => event.toPayload
  | .presence event => event.toPayload

-- What a consumer makes of the bytes the producer sends.
def Message.received (printable : Char → Bool) (message : Message) : Option (Except Error Envelope) :=
  (Json.loads (Json.dumps message.value)).map fun json => Envelope.parse printable (Value.ofJson json)

structure PlatformEvent (printable : Char → Bool) (message : Message) : Prop where
  accepted : ∃ envelope, message.received printable = some (.ok envelope)
  version : ∃ n : Int, message.value.get "schema_version" = some (.num n) ∧ 1 ≤ n
  filled : ∀ name ∈ ["event_id", "occurred_at", "producer", "aggregate_type", "aggregate_id"],
    ∃ text, message.value.get name = some (.str text) ∧ text ≠ ""
  payload : ∃ event : PublishedEvent, message.value.get "event_type" = some (.str event.eventType) ∧
    message.value.get "payload" = some event.toPayload ∧ event.toPayload.get "event_id" = none ∧
      event.toPayload.get "occurred_at" = none

section Shapes

variable (printable : Char → Bool)

theorem received_parses (message : Message) :
    message.received printable = some (Envelope.parse printable (Value.ofJson message.value)) := by
  rw [Message.received, Json.loads_dumps, Option.map_some]

-- A flat event has no payload for the decoder.
theorem presence_refused (event : PresenceChanged) : ¬ PlatformEvent printable (presenceMessage event) := by
  rintro ⟨⟨envelope, accepted⟩, _⟩
  rw [received_parses, Option.some.injEq] at accepted
  have flat : (Value.ofJson (presenceMessage event).value).get "payload" = none := by
    rw [Value.get_of_json]
    rfl
  rw [Envelope.parse, flat] at accepted
  split at accepted
  · cases accepted
  · dsimp only at accepted
    split at accepted <;> cases accepted

theorem event_type_named (event : DomainEvent) : event.eventType ≠ "" := by
  intro empty
  have lengths : ("arcadia.auth.v1." ++ event.className).length = 0 := congrArg String.length empty
  have namespaceLength : "arcadia.auth.v1.".length = 16 := by decide
  rw [String.length_append, namespaceLength] at lengths
  omega

theorem payload_without (event : DomainEvent) :
    event.toPayload.get "event_id" = none ∧ event.toPayload.get "occurred_at" = none := by
  cases event <;> exact ⟨rfl, rfl⟩

-- The dict of a platform envelope around the fields of an event.
def envelopeOf (id eventType occurredAt producer aggregateType aggregateId : String) (payload : Json) : Json :=
  .obj [("event_id", .str id), ("event_type", .str eventType), ("schema_version", .num SCHEMA_VERSION),
    ("occurred_at", .str occurredAt),
    ("producer", .str producer), ("aggregate_type", .str aggregateType), ("aggregate_id", .str aggregateId),
      ("payload", payload)]

theorem envelope_parses (id eventType occurredAt producer aggregateType aggregateId : String)
    (fields : List (String × Json)) (hasId : id ≠ "") (hasType : eventType ≠ "") :
    Envelope.parse printable
      (Value.ofJson (envelopeOf id eventType occurredAt producer aggregateType aggregateId (.obj fields))) =
      .ok ⟨id, eventType, aggregateId, .dict (Value.ofFields fields), producer, occurredAt⟩ := by
  have text : ∀ name text, (envelopeOf id eventType occurredAt producer aggregateType aggregateId (.obj fields)).get
    name = some (.str text) →
      Value.toStrOr printable
        ((Value.ofJson
          (envelopeOf id eventType occurredAt producer aggregateType aggregateId (.obj fields))).get name) = text := by
    intro name text found
    rw [Value.get_of_json, found]
    exact Value.to_str_or_text printable text
  have payload : (Value.ofJson (envelopeOf id eventType occurredAt producer aggregateType aggregateId
    (.obj fields))).get "payload" =
      some (.dict (Value.ofFields fields)) := by
    rw [Value.get_of_json]
    rfl
  rw [Envelope.parse, if_neg (by simp [Value.isDict, envelopeOf, Value.ofJson]), payload, text "event_id" id rfl,
    text "event_type" eventType rfl,
    text "aggregate_id" aggregateId rfl, text "producer" producer rfl, text "occurred_at" occurredAt rfl]
  simp [hasId, hasType]

theorem row_wrapped (settings : RelaySettings) (named : settings.appName ≠ "")
    (dated : ∀ moment, settings.isoformat moment ≠ "")
    (row : OutboxRow) (message : Message) (announces : row.draft.Announces)
    (built : messageFor settings row = .ok message) :
    PlatformEvent printable message := by
  obtain ⟨id, aggregateType, aggregateId, event, isType, isPayload⟩ := announces
  have loaded : settings.loads row.payload = some event.toPayload := by
    rw [show row.payload = Json.dumps event.toPayload from isPayload, settings.loads_payload]
  have hasType : row.eventType.text ≠ "" := fun empty => event_type_named event (isType.symm.trans empty)
  rw [messageFor, envelopeFor, loaded] at built
  cases built
  refine ⟨⟨_, (received_parses printable _).trans (congrArg some (envelope_parses printable _ _ _ _ _ _ _ id hasType))⟩,
    ⟨1, rfl, le_refl 1⟩,
    fun name member => ?_, ⟨.auth event, ?_, rfl, payload_without event⟩⟩
  · simp only [List.mem_cons, List.not_mem_nil, or_false] at member
    rcases member with rfl | rfl | rfl | rfl | rfl
    · exact ⟨row.id.text, rfl, id⟩
    · exact ⟨settings.isoformat row.createdAt, rfl, dated _⟩
    · exact ⟨settings.appName, rfl, named⟩
    · exact ⟨row.aggregateType.text, rfl, aggregateType⟩
    · exact ⟨row.aggregateId.text, rfl, aggregateId⟩
  · have sameType : row.eventType.text = event.eventType := isType
    exact congrArg (fun text => some (Json.str text)) sameType

end Shapes

-- What works at the same time: calls of the use cases, replicas of the relay, and
-- heartbeats. The other work of the profile half is on the read model alone.
inductive WireWorker where
  | caller (platform : SessionPlatform) (io : Surroundings) (signer : Signer) (call : SessionCall)
  | profile (work : Prog ReadModel Error Unit)
  | replica (polls : List Poll)
  | heartbeat (beat : Heartbeat)

def WireWorker.program (settings : RelaySettings) : WireWorker → Prog WireStores Error Unit
  | .caller platform io signer call => do
      let _ ← (call.program platform io signer).focus WireStores.onStores
  | .profile work => work.focus WireStores.onProfiles
  | .replica polls => (runLoop settings polls).focus WireStores.onRelay
  | .heartbeat beat => updatePresence beat

def wirePool {ι : Type} (settings : RelaySettings) (workers : ι → WireWorker) (stores : Stores) (profiles : ReadModel) :
    Pool ι WireStores Error Unit :=
  ⟨⟨stores, profiles, []⟩, fun i => (workers i).program settings⟩

-- How the service is set up: it has a name, isoformat writes something, and uuid4 does.
structure Deployed {ι : Type} (settings : RelaySettings) (workers : ι → WireWorker) : Prop where
  named : settings.appName ≠ ""
  dated : ∀ moment, settings.isoformat moment ≠ ""
  minted : ∀ i platform io signer call, workers i = .caller platform io signer call → io.Minted

section Relay

variable (printable : Char → Bool) (settings : RelaySettings) (named : settings.appName ≠ "")
  (dated : ∀ moment, settings.isoformat moment ≠ "")

structure RelayStores.Sound (relay : RelayStores) : Prop where
  announcing : relay.db.Announcing
  platform : ∀ message ∈ relay.published, PlatformEvent printable message

theorem mark_announcing (db : Db) (id : String) (now : Time) (announcing : db.Announcing) :
    (db.markDispatched id now).Announcing := by
  rw [Db.markDispatched]
  cases found : db.outbox.find id with
  | none => exact announcing
  | some row =>
      refine ⟨announcing.users, announcing.roleRequests, fun other member => ?_⟩
      obtain ⟨old, isOld, rfl⟩ := List.mem_map.mp member
      split
      · exact announcing.outbox row (Table.find_mem id _ row found)
      · exact announcing.outbox old isOld

include named dated

theorem dispatch_row_sound (poll : Poll) (session : Session) (row : OutboxRow) (announces : row.draft.Announces) :
    (dispatchRow settings poll session row).Keeps (RelayStores.Sound printable) := by
  have rolledBack : ∀ session, (rollback session).Keeps (RelayStores.Sound printable) := by
    intro session
    rw [rollback]
    split
    · exact Prog.keeps_query_bind _ _ _ _ fun _ _ => trivial
    · trivial
  have sent : (send settings poll row).Keeps (RelayStores.Sound printable) := by
    rw [send]
    cases built : messageFor settings row with
    | error error => trivial
    | ok message =>
        refine Prog.keeps_atomic _ _ _ fun relay answer after sound run => ?_
        split at run
        · cases run
          refine ⟨sound.announcing, fun other member => ?_⟩
          rcases List.mem_append.mp member with old | new
          · exact sound.platform other old
          · rw [List.mem_singleton.mp new]
            exact row_wrapped printable settings named dated row message announces built
        · cases run
  have marks : (mark poll row).Keeps (RelayStores.Sound printable) := by
    refine Prog.keeps_query_bind _ _ _ _ fun _ _ => Prog.keeps_atomic _ _ _ fun relay answer after sound run => ?_
    cases run
    exact ⟨mark_announcing relay.db row.id.text _ sound.announcing, sound.platform⟩
  rw [dispatchRow]
  split
  · trivial
  · refine Prog.keeps_bind _ _ _ (Prog.keeps_attempt _ _ sent) fun result => ?_
    cases result with
    | error error => exact rolledBack session
    | ok done =>
        refine Prog.keeps_bind _ _ _ (Prog.keeps_attempt _ _ marks) fun result => ?_
        cases result with
        | error error => exact rolledBack _
        | ok done => trivial

theorem dispatch_rows_sound (poll : Poll) (session : Session) (rows : List OutboxRow)
    (announce : ∀ row ∈ rows, row.draft.Announces) :
    (dispatchRows settings poll session rows).Keeps (RelayStores.Sound printable) := by
  induction rows generalizing session with
  | nil => trivial
  | cons row rows ih =>
      refine Prog.keeps_bind _ _ _ ?_ fun next => ih next fun other member =>
        announce other (List.mem_cons_of_mem _ member)
      exact dispatch_row_sound printable settings named dated poll session row (announce row (List.mem_cons_self ..))

theorem run_loop_sound (polls : List Poll) : (runLoop settings polls).Keeps (RelayStores.Sound printable) := by
  induction polls with
  | nil => trivial
  | cons poll polls ih =>
      refine Prog.keeps_bind _ _ _ (Prog.keeps_attempt _ _ ?_) fun _ => ih
      refine Prog.keeps_query_bind _ _ _ _ fun relay sound => ?_
      refine dispatch_rows_sound printable settings named dated poll _ _ fun row member => ?_
      exact sound.announcing.outbox row (batch_stored settings poll relay.db row member)

end Relay

section Run

variable {ι : Type} [DecidableEq ι] (printable : Char → Bool) (settings : RelaySettings) (workers : ι → WireWorker)

def Heartbeat.Online (beat : Heartbeat) (wire : WireStores) : Prop :=
  wire.stores.redis.present (PresenceStore.keyPrefix ++ beat.userId) beat.askedAt = true

-- The step in which a heartbeat asks for its user, is answered, and finds nobody.
def FindsOffline (pool : Pool ι WireStores Error Unit) (move : Move ι) : Prop :=
  move.fault = .none ∧ ∃ beat, workers move.proc = .heartbeat beat ∧ pool.procs move.proc = updatePresence beat ∧
    ¬ beat.Online pool.store

def WireStores.Sound (wire : WireStores) : Prop := RelayStores.Sound printable (WireStores.onRelay.get wire)

theorem caller_sound (io : Surroundings) (minted : io.Minted) (platform : SessionPlatform) (signer : Signer)
    (call : SessionCall) :
    ((WireWorker.caller platform io signer call).program settings).Keeps (WireStores.Sound printable) := by
  refine Prog.keeps_bind _ _ _ ?_ fun _ => trivial
  have kept := session_announcing io minted platform signer call
  exact Prog.keeps_focus _ WireStores.onStores _ (fun _ sound => sound.announcing)
    (fun _ _ sound announcing => ⟨announcing, sound.platform⟩) _ kept

theorem replica_sound (named : settings.appName ≠ "") (dated : ∀ moment, settings.isoformat moment ≠ "")
    (polls : List Poll) :
    ((WireWorker.replica polls).program settings).Keeps (WireStores.Sound printable) :=
  Prog.keeps_focus _ WireStores.onRelay _ (fun _ sound => sound) (fun _ _ _ sound => sound) _
    (run_loop_sound printable settings named dated polls)

theorem profile_sound (work : Prog ReadModel Error Unit) :
    ((WireWorker.profile work).program settings).Keeps (WireStores.Sound printable) :=
  Prog.keeps_focus (fun _ => True) WireStores.onProfiles _ (fun _ _ => trivial) (fun _ _ sound _ => sound) _
    (Prog.keeps_always _ (fun _ => trivial) work)

theorem set_online_sound (beat : Heartbeat) :
    ((PresenceStore.setOnline beat.setAt beat.userId PRESENCE_TTL_SECONDS).focus WireStores.onRedis).Keeps
      (WireStores.Sound printable) :=
  Prog.keeps_focus (fun _ => True) WireStores.onRedis _ (fun _ _ => trivial)
    (fun _ _ sound _ => ⟨sound.announcing, sound.platform⟩) _
    (Prog.keeps_always _ (fun _ => trivial) _)

-- A heartbeat that does not find its user offline publishes nothing.
theorem heartbeat_sound (beat : Heartbeat) (wire : WireStores) (fault : Fault) (sound : wire.Sound printable)
    (online : fault = .none → beat.Online wire) :
    ((updatePresence beat).advance fault wire).2.Sound printable ∧
      ((updatePresence beat).advance fault wire).1.Keeps (WireStores.Sound printable) := by
  cases fault with
  | none =>
      have found : wire.stores.redis.present (PresenceStore.keyPrefix ++ beat.userId) beat.askedAt = true := online rfl
      have next : (updatePresence beat).advance .none wire =
          ((PresenceStore.setOnline beat.setAt beat.userId PRESENCE_TTL_SECONDS).focus WireStores.onRedis >>= fun _ =>
            pure (), wire) := by
        change ((PresenceStore.setOnline beat.setAt beat.userId PRESENCE_TTL_SECONDS).focus WireStores.onRedis >>=
          fun _ =>
            if !(wire.stores.redis.present (PresenceStore.keyPrefix ++ beat.userId) beat.askedAt) then
              hand (presenceMessage beat.event) else pure (),
          wire) = _
        simp only [found, Bool.not_true, Bool.false_eq_true, if_false]
      rw [next]
      exact ⟨sound, Prog.keeps_bind _ _ _ (set_online_sound printable beat) fun _ => trivial⟩
  | before => exact ⟨sound, trivial⟩
  | after => exact ⟨sound, trivial⟩

-- Every worker keeps the stores sound, or is a heartbeat that has not asked yet.
structure Calm (pool : Pool ι WireStores Error Unit) : Prop where
  sound : pool.store.Sound printable
  keeps : ∀ i, (pool.procs i).Keeps (WireStores.Sound printable) ∨
    ∃ beat, workers i = .heartbeat beat ∧ pool.procs i = updatePresence beat

omit [DecidableEq ι] in
theorem wire_pool_calm (deployed : Deployed settings workers) (stores : Stores) (profiles : ReadModel)
    (announcing : stores.db.Announcing) : Calm printable workers (wirePool settings workers stores profiles) := by
  refine ⟨⟨announcing, fun message member => absurd member List.not_mem_nil⟩, fun i => ?_⟩
  change ((workers i).program settings).Keeps _ ∨ ∃ beat, workers i = .heartbeat beat ∧
    (workers i).program settings = updatePresence beat
  cases worker : workers i with
  | caller platform io signer call =>
      exact Or.inl (caller_sound printable settings io
        (deployed.minted i platform io signer call worker) platform signer call)
  | profile work => exact Or.inl (profile_sound printable settings work)
  | replica polls => exact Or.inl (replica_sound printable settings deployed.named deployed.dated polls)
  | heartbeat beat => exact Or.inr ⟨beat, rfl, rfl⟩

theorem step_calm (pool : Pool ι WireStores Error Unit) (move : Move ι) (calm : Calm printable workers pool)
    (online : ¬ FindsOffline workers pool move) : Calm printable workers (pool.step move) := by
  have moved : (pool.step move).store.Sound printable ∧
      ((pool.step move).procs move.proc).Keeps (WireStores.Sound printable) := by
    rw [Pool.step_store, Pool.step_here]
    rcases calm.keeps move.proc with kept | ⟨beat, worker, asks⟩
    · exact Prog.keeps_advance _ _ _ _ kept calm.sound
    · rw [asks]
      refine heartbeat_sound printable beat pool.store move.fault calm.sound fun faultless => ?_
      exact by_contra fun offline => online ⟨faultless, beat, worker, asks, offline⟩
  refine ⟨moved.1, fun i => ?_⟩
  by_cases here : i = move.proc
  · rw [here]
    exact Or.inl moved.2
  · rw [Pool.step_elsewhere pool move i here]
    exact calm.keeps i

theorem run_calm (pool : Pool ι WireStores Error Unit) (calm : Calm printable workers pool) (moves : List (Move ι))
    (online : ∀ before move after, moves = before ++ move :: after → ¬ FindsOffline workers (pool.run before) move) :
    Calm printable workers (pool.run moves) := by
  induction moves generalizing pool with
  | nil => exact calm
  | cons move moves ih =>
      refine ih (pool.step move) (step_calm printable workers pool move calm (online [] move moves rfl))
        fun before next after split => ?_
      exact online (move :: before) next after (congrArg (move :: ·) split)

-- A heartbeat that finds its user offline goes on to hand over its flat event.
theorem offline_hands (pool : Pool ι WireStores Error Unit) (move : Move ι) (offline : FindsOffline workers pool move) :
    ∃ event, presenceMessage event ∈ (pool.run [move, ⟨move.proc, .none⟩, ⟨move.proc, .none⟩]).store.handed := by
  obtain ⟨faultless, beat, _, asks, absent⟩ := offline
  let i := move.proc
  let setting := (PresenceStore.setOnline beat.setAt beat.userId PRESENCE_TTL_SECONDS).focus WireStores.onRedis
  let asked := pool.step move
  let set := asked.step ⟨i, .none⟩
  have sets : asked.procs i = setting >>= fun _ => hand (presenceMessage beat.event) := by
    change (pool.step move).procs move.proc = _
    rw [Pool.step_here, asks, faultless]
    change (setting >>= fun _ =>
      if !(pool.store.stores.redis.present (PresenceStore.keyPrefix ++ beat.userId) beat.askedAt)
      then hand (presenceMessage beat.event) else pure ()) = _
    simp only [Bool.not_eq_true _ ▸ absent, Bool.not_false, if_true]
  have hands : set.procs i = hand (presenceMessage beat.event) := by
    change (asked.step ⟨i, .none⟩).procs (⟨i, .none⟩ : Move ι).proc = _
    rw [Pool.step_here]
    change ((asked.procs i).advance .none asked.store).1 = _
    rw [sets]
    rfl
  refine ⟨beat.event, ?_⟩
  change presenceMessage beat.event ∈ ((set.procs i).advance .none set.store).2.handed
  rw [hands]
  exact List.mem_append_right _ (List.mem_singleton_self _)

-- Everything handed to the publisher is a platform envelope in each run in which no
-- heartbeat finds its user offline, and a run in which one does can go on to break it.
theorem published_in_envelopes (deployed : Deployed settings workers) (stores : Stores) (profiles : ReadModel)
    (announcing : stores.db.Announcing) :
    (∀ moves : List (Move ι),
        (∀ before move after, moves = before ++ move :: after →
          ¬ FindsOffline workers ((wirePool settings workers stores profiles).run before) move) →
          ∀ message ∈ ((wirePool settings workers stores profiles).run moves).store.handed,
            PlatformEvent printable message) ∧
      ∀ (before : List (Move ι))
      (move : Move ι), FindsOffline workers ((wirePool settings workers stores profiles).run before) move →
        ∃ (later : List (Move ι)) (message : Message),
          message ∈ ((wirePool settings workers stores profiles).run (before ++ move :: later)).store.handed ∧
            ¬ PlatformEvent printable message := by
  constructor
  · intro moves online
    have calm := run_calm printable workers _
      (wire_pool_calm printable settings workers deployed stores profiles announcing) moves online
    exact calm.sound.platform
  · intro before move offline
    obtain ⟨event, handed⟩ := offline_hands workers _ move offline
    refine ⟨[⟨move.proc, .none⟩, ⟨move.proc, .none⟩], presenceMessage event, ?_, presence_refused printable event⟩
    rw [Pool.run_append]
    exact handed

end Run

def sampleBeat : Heartbeat := ⟨"s1", 0, 0, "e1", "1970-01-01T00:00:00+00:00"⟩

-- A login, a replica of the relay, and everybody else with a heartbeat of the same user.
def sampleWorkers : Nat → WireWorker
  | 0 => .caller samplePlatform sampleIo ⟨samplePlatform.provider, [], sampleLogin.accessJti,
      sampleLogin.refreshJti⟩ sampleLogin.call
  | 1 => .replica [⟨.stable _, fun _ => true, fun _ => 0⟩]
  | _ => .heartbeat sampleBeat

theorem sample_minted : sampleIo.Minted := by
  refine ⟨by decide, fun n => ?_⟩
  change "o1" ≠ ""
  decide

theorem sample_deployed : Deployed sampleSettings sampleWorkers := by
  refine ⟨by decide, fun moment => ?_, fun i platform io signer call worker => ?_⟩
  · change "1970-01-01T00:00:00+00:00" ≠ ""
    decide
  · rcases i with _ | _ | i
    · cases worker
      exact sample_minted
    · cases worker
    · cases worker

theorem seeded_announcing : sampleState.stores.db.Announcing := by
  refine ⟨fun id member => ?_, fun id member => absurd member List.not_mem_nil,
    fun row member => absurd member List.not_mem_nil⟩
  have isSeeded : id = "s1" := List.mem_singleton.mp member
  rw [isSeeded]
  decide

theorem sample_published :
    (∀ moves : List (Move Nat),
        (∀ before move after, moves = before ++ move :: after →
          ¬ FindsOffline sampleWorkers
            ((wirePool sampleSettings sampleWorkers sampleState.stores .empty).run before) move) →
          ∀ message ∈ ((wirePool sampleSettings sampleWorkers sampleState.stores .empty).run moves).store.handed,
            PlatformEvent (fun _ => true) message) ∧
      ∀ (before : List (Move Nat)) (move : Move Nat),
        FindsOffline sampleWorkers ((wirePool sampleSettings sampleWorkers sampleState.stores .empty).run before) move →
          ∃ (later : List (Move Nat)) (message : Message),
            message ∈ ((wirePool sampleSettings sampleWorkers sampleState.stores .empty).run
            (before ++ move :: later)).store.handed ∧
              ¬ PlatformEvent (fun _ => true) message :=
  published_in_envelopes (fun _ => true) sampleSettings sampleWorkers sample_deployed sampleState.stores .empty
    seeded_announcing

-- Nobody is online yet when the first heartbeat asks.
theorem first_heartbeat_flat : ∃ message ∈ ((wirePool sampleSettings sampleWorkers sampleState.stores .empty).run
    [⟨2, .none⟩, ⟨2, .none⟩, ⟨2, .none⟩]).store.handed, ¬ PlatformEvent (fun _ => true) message :=
  ⟨presenceMessage sampleBeat.event, List.mem_singleton_self _, presence_refused _ _⟩

end AuthProfile
