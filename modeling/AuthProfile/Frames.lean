import AuthProfile.App
import AuthProfile.Reads

set_option autoImplicit false

-- What the work beside the requests leaves alone.
namespace AuthProfile

open Relation Process UserRepository OutboxDispatcher

section Relay

variable (guar : RelayStores → RelayStores → Prop) (still : ∀ s, guar s s)
  (sends : ∀ stores : RelayStores, ∀ message, guar stores { stores with published := stores.published ++ [message] })
  (marks : ∀ stores : RelayStores, ∀ id now, guar stores { stores with db := stores.db.markDispatched id now })
    (settings : RelaySettings)

include still in
theorem rollback_steps (session : Session) : (rollback session).Steps guar :=
  Prog.steps_ite _ _ _ _ (Prog.steps_bind _ _ _ (Prog.steps_query _ still _ _) fun _ => trivial) trivial

include still sends in
theorem send_steps (poll : Poll) (row : OutboxRow) : (send settings poll row).Steps guar := by
  rw [send]
  cases messageFor settings row with
  | error error => trivial
  | ok message =>
      refine Prog.steps_atomic _ still _ _ fun stores answer after run => ?_
      split at run
      · cases run
        exact sends stores message
      · cases run

include still marks in
theorem mark_steps (poll : Poll) (row : OutboxRow) : (mark poll row).Steps guar := by
  refine Prog.steps_bind _ _ _ (Prog.steps_query _ still _ _) fun _ => Prog.steps_atomic _ still _ _
    fun stores answer after run => ?_
  cases run
  exact marks stores row.id.text (poll.now row)

include still sends marks

theorem dispatch_row_steps (poll : Poll) (session : Session) (row : OutboxRow) :
    (dispatchRow settings poll session row).Steps guar := by
  refine Prog.steps_ite _ _ _ _ trivial ?_
  refine Prog.steps_bind _ _ _ (Prog.steps_attempt _ _ (send_steps guar still sends settings poll row)) fun sent => ?_
  cases sent with
  | error error => exact rollback_steps guar still session
  | ok done =>
      refine Prog.steps_bind _ _ _ (Prog.steps_attempt _ _ (mark_steps guar still marks poll row)) fun marked => ?_
      cases marked with
      | error error => exact rollback_steps guar still _
      | ok done => trivial

theorem dispatch_rows_steps (poll : Poll) (session : Session) (rows : List OutboxRow) :
    (dispatchRows settings poll session rows).Steps guar := by
  induction rows generalizing session with
  | nil => trivial
  | cons row rows ih =>
      exact Prog.steps_bind _ _ _ (dispatch_row_steps guar still sends marks settings poll session row) ih

-- A dispatcher hands out messages and marks rows.
theorem run_loop_steps (polls : List Poll) : (runLoop settings polls).Steps guar := by
  induction polls with
  | nil => trivial
  | cons poll polls ih =>
      refine Prog.steps_bind _ _ _
        (Prog.steps_attempt _ _ (Prog.steps_bind _ _ _ (Prog.steps_query _ still _ _) fun rows => ?_)) fun _ => ih
      exact dispatch_rows_steps guar still sends marks settings poll _ rows

end Relay

theorem mark_dispatched_frame (db : Db) (id : String) (now : Time) : (db.markDispatched id now).users = db.users ∧
    (db.markDispatched id now).roleRequests = db.roleRequests ∧
      (db.markDispatched id now).loginAudit = db.loginAudit := by
  rw [Db.markDispatched]
  cases db.outbox.find id with
  | none => exact ⟨rfl, rfl, rfl⟩
  | some row => exact ⟨rfl, rfl, rfl⟩

-- SET EX of a key, or nothing.
def Redis.Sets (name : String) (now : Time) (ex : Int) (before after : Redis) : Prop :=
  after = before ∨ before.set name now ex = .ok after

theorem redis_set_steps (name : String) (now : Time) (ex : Int) :
    (Prog.atomic .connection fun redis : Redis => (redis.set name now ex).map fun after =>
      ((), after) : Prog Redis Error Unit).Steps
      (Redis.Sets name now ex) := by
  refine Prog.steps_atomic (Redis.Sets name now ex) (fun _ => Or.inl rfl) _ _ fun redis answer after run => Or.inr ?_
  cases isSet : redis.set name now ex with
  | error error =>
      rw [isSet] at run
      cases run
  | ok next =>
      rw [isSet] at run
      cases run
      rfl

section Presence

variable (guar : WireStores → WireStores → Prop) (still : ∀ s, guar s s)
  (hands : ∀ wire : WireStores, ∀ event, guar wire { wire with handed := wire.handed ++ [presenceMessage event] })

include still hands

theorem update_presence_steps (beat : Heartbeat) (sets : ∀ wire : WireStores, ∀ redis,
      wire.stores.redis.set (PresenceStore.keyPrefix ++ beat.userId) beat.setAt PRESENCE_TTL_SECONDS = .ok redis →
      guar wire (WireStores.onRedis.set wire redis)) : (updatePresence beat).Steps guar := by
  have asks : ((PresenceStore.isOnline beat.askedAt beat.userId).focus WireStores.onRedis).Steps guar :=
    Prog.steps_focus WireStores.onRedis (fun before after => after = before) guar (fun wire redis same => by
      rw [same, WireStores.onRedis.set_get]
      exact still wire) _ (Prog.reads_query _ _).steps
  have isSet :
      ((PresenceStore.setOnline beat.setAt beat.userId PRESENCE_TTL_SECONDS).focus WireStores.onRedis).Steps guar :=
    Prog.steps_focus WireStores.onRedis _ guar (fun wire redis moved => by
      rcases moved with same | isSet
      · rw [same, WireStores.onRedis.set_get]
        exact still wire
      · exact sets wire redis isSet) _ (redis_set_steps _ _ _)
  refine Prog.steps_bind _ _ _ asks fun wasOnline => Prog.steps_bind _ _ _ isSet fun _ => ?_
  refine Prog.steps_ite _ _ _ _ (Prog.steps_atomic _ still _ _ fun wire answer after run => ?_) trivial
  cases run
  exact hands wire beat.event

-- A socket's heartbeats are for one user, at the times of its frames.
theorem heartbeats_steps (userId : String) (sent : List String) (ticks : List Tick)
    (sets : ∀ tick ∈ ticks, (∃ content, tick.frame = .text content) → ∀ wire : WireStores, ∀ redis,
      wire.stores.redis.set (PresenceStore.keyPrefix ++ userId) tick.setAt PRESENCE_TTL_SECONDS = .ok redis →
      guar wire (WireStores.onRedis.set wire redis)) : (PresenceController.heartbeats userId sent ticks).Steps
        guar := by
  induction ticks generalizing sent with
  | nil => trivial
  | cons tick ticks ih =>
      rw [PresenceController.heartbeats]
      cases isFrame : tick.frame with
      | timeout | disconnect | bytes => trivial
      | text content =>
          refine Prog.steps_bind _ _ _
            (update_presence_steps guar still hands _ (sets tick List.mem_cons_self ⟨content, isFrame⟩)) fun _ => ?_
          exact Prog.steps_ite _ _ _ _ (ih _ fun other member => sets other (List.mem_cons_of_mem _ member)) trivial

theorem socket_steps (provider : JwtTokenProvider) (signed : List String) (connection : PresenceConnection)
    (sets : ∀ token claims userId, connection.first.frame = .text token →
      provider.decodeAccessToken signed connection.authenticatedAt token = .ok claims → claims.sub = some userId →
      ∀ tick ∈ connection.first :: connection.later, (∃ content, tick.frame = .text content) → ∀ wire :
      WireStores, ∀ redis,
        wire.stores.redis.set (PresenceStore.keyPrefix ++ userId) tick.setAt PRESENCE_TTL_SECONDS = .ok redis →
        guar wire (WireStores.onRedis.set wire redis)) :
    (PresenceController.presenceHeartbeat provider signed connection).Steps guar := by
  rw [PresenceController.presenceHeartbeat]
  cases isFrame : connection.first.frame with
  | timeout | disconnect | bytes => trivial
  | text token =>
      dsimp only
      cases decoded : provider.decodeAccessToken signed connection.authenticatedAt token with
      | error exc => trivial
      | ok claims =>
          dsimp only
          cases isUser : claims.sub with
          | none => trivial
          | some userId =>
              have allowed := sets token claims userId isFrame decoded isUser
              change (updatePresence (connection.first.beat userId) >>= fun _ => _).Steps guar
              refine Prog.steps_bind _ _ _
                (update_presence_steps guar still hands _ (allowed _ List.mem_cons_self ⟨token, isFrame⟩)) fun _ => ?_
              exact Prog.steps_ite _ _ _ _ (heartbeats_steps guar still hands userId _ _ fun tick member =>
                allowed tick (List.mem_cons_of_mem _ member)) trivial

end Presence

theorem flag_reads (payload : Value) : (AbuseEventConsumer.flag payload).Reads := by
  rw [AbuseEventConsumer.flag]
  cases payload.get "user_id" with
  | none => exact Prog.reads_pure _
  | some userId =>
      refine Prog.reads_ite _ _ _ (Prog.reads_pure _) (Prog.reads_bind _ _ (Prog.reads_of_except _) fun id => ?_)
      refine Prog.reads_bind _ _ (select_reads _ _) fun found => ?_
      cases found with
      | none => exact Prog.reads_pure _
      | some user => exact Prog.reads_pure _

theorem routed_handler {α : Type} (python : Interpreter) (message : Value) (name : String) (handler : α)
    (pair : Envelope × α)
    (routed : route python.printable message [(name, handler)] = .ok (some pair)) : pair.2 = handler := by
  simp only [route, except_bind_ok] at routed
  obtain ⟨envelope, _, isPair⟩ := routed
  obtain ⟨found, looked, same⟩ := Option.map_eq_some_iff.mp (Except.ok.inj isPair)
  rw [lookup_first] at looked
  split at looked
  · cases looked
    rw [← same]
  · cases looked

-- Abuse is flagged, and nobody is banned for it.
theorem abuse_reads (python : Interpreter) (message : Value) : (AbuseEventConsumer.handle python message).Reads := by
  rw [AbuseEventConsumer.handle]
  cases routed : route python.printable message [(GIFT_CARD_ABUSE_DETECTED, AbuseEventConsumer.flag)] with
  | error error => exact Prog.reads_raise _
  | ok found =>
      cases found with
      | none => exact Prog.reads_pure _
      | some pair =>
          change (pair.2 pair.1.payload).Reads
          rw [routed_handler python message _ _ pair routed]
          exact flag_reads pair.1.payload

end AuthProfile
