import AuthProfile.Db.SaveCommit
import AuthProfile.Messaging.ProfileConsumers
import AuthProfile.WireEvents

set_option autoImplicit false

namespace AuthProfile

open Relation Process UserRepository OutboxDispatcher

-- What is to come of an event on user-events.
def DomainEvent.projection (io : Circumstances) : DomainEvent → Prog ReadModel Error Unit
  | .userRegistered userId _ displayName _ _ => do
      let _ ← ProfileRepository.createIfMissing io (.str userId) (.str displayName)
  | _ => return ()

def DomainEvent.IsRegistration (event : DomainEvent) : Prop :=
  ∃ userId email displayName role state, event = .userRegistered userId email displayName role state

def RoutedToSync (python : Interpreter) (io : Circumstances) (message : Value) : Prop :=
  ∃ envelope, route python.printable message [(AUTH_USER_REGISTERED, UserSyncProjector.handle io)] =
    .ok (some (envelope, UserSyncProjector.handle io))

-- An event at the end of its way from the outbox row through the wire to the handler.
structure Arrives (settings : RelaySettings) (python : Interpreter) (row : OutboxRow) (aggregateId : String)
    (event : DomainEvent) (message : Message) (envelope : Envelope) : Prop where
  sent : messageFor settings row = .ok message
  parsed : message.received python.printable = some (.ok envelope)
  eventId : envelope.eventId = row.id.text
  eventType : envelope.eventType = event.eventType
  aggregateId : envelope.aggregateId = aggregateId
  payload : envelope.payload = Value.ofJson event.toPayload
  routed : ∀ io json, Json.loads (Json.dumps message.value) = some json →
    (RoutedToSync python io (Value.ofJson json) ↔ event.IsRegistration)
  handled : ∀ io json, Json.loads (Json.dumps message.value) = some json →
    handleUserEvents python io (Value.ofJson json) = event.projection io

section Routing

variable (python : Interpreter) (io : Circumstances)

theorem registered_type (event : DomainEvent) : event.eventType = AUTH_USER_REGISTERED ↔ event.IsRegistration := by
  constructor
  · intro isType
    have isName : event.className = "UserRegistered" := (String.append_right_inj "arcadia.auth.v1.").mp isType
    cases event with
    | userRegistered userId email displayName role state => exact ⟨userId, email, displayName, role, state, rfl⟩
    | registrationApproved | registrationRejected | roleRequested | roleGranted | userBanned | userUnbanned =>
        exact absurd isName (by simp [DomainEvent.className])
  · rintro ⟨userId, email, displayName, role, state, rfl⟩
    rfl

theorem route_event (message : Value) (envelope : Envelope) (event : DomainEvent)
    (isType : envelope.eventType = event.eventType) (parsed : Envelope.parse python.printable message = .ok envelope) :
    route python.printable message [(AUTH_USER_REGISTERED, UserSyncProjector.handle io)] =
      .ok (if event.eventType = AUTH_USER_REGISTERED then some (envelope, UserSyncProjector.handle io) else none) := by
  rw [route, parsed]
  by_cases registered : event.eventType = AUTH_USER_REGISTERED
  · rw [if_pos registered, ← registered, ← isType]
    simp only [bind, Except.bind, List.lookup_cons, beq_self_eq_true]
    rfl
  · have other : (envelope.eventType == AUTH_USER_REGISTERED) = false := by rwa [isType, beq_eq_false_iff_ne]
    rw [if_neg registered]
    simp only [bind, Except.bind, List.lookup_cons, other]
    rfl

theorem routed_iff (message : Value) (envelope : Envelope) (event : DomainEvent)
    (isType : envelope.eventType = event.eventType) (parsed : Envelope.parse python.printable message = .ok envelope) :
    RoutedToSync python io message ↔ event.IsRegistration := by
  rw [RoutedToSync, route_event python io message envelope event isType parsed, ← registered_type]
  by_cases registered : event.eventType = AUTH_USER_REGISTERED
  · rw [if_pos registered]
    exact ⟨fun _ => registered, fun _ => ⟨envelope, rfl⟩⟩
  · rw [if_neg registered]
    exact ⟨fun ⟨_, wrong⟩ => (nomatch wrong), fun wrong => absurd wrong registered⟩

theorem handled_eq (message : Value) (envelope : Envelope) (event : DomainEvent)
    (isType : envelope.eventType = event.eventType) (isPayload : envelope.payload = Value.ofJson event.toPayload)
    (parsed : Envelope.parse python.printable message = .ok envelope) :
    handleUserEvents python io message = event.projection io := by
  rw [handleUserEvents, dispatch, route_event python io message envelope event isType parsed]
  by_cases registered : event.eventType = AUTH_USER_REGISTERED
  · rw [if_pos registered]
    obtain ⟨userId, email, displayName, role, state, rfl⟩ := (registered_type event).mp registered
    change UserSyncProjector.handle io envelope.payload = _
    rw [isPayload]
    rfl
  · rw [if_neg registered]
    cases event with
    | userRegistered userId email displayName role state => exact absurd rfl registered
    | registrationApproved | registrationRejected | roleRequested | roleGranted | userBanned | userUnbanned => rfl

end Routing

-- The row that a repository appends for an event.
theorem row_arrives (settings : RelaySettings) (python : Interpreter) (row : OutboxRow)
    (aggregateType aggregateId : String) (event : DomainEvent) (id : String) (createdAt : Time) (named : id ≠ "")
    (isDraft : row.draft =
      ⟨id, aggregateType, aggregateId, "user-events", event.eventType, Json.dumps event.toPayload, createdAt⟩) :
    ∃ message envelope, Arrives settings python row aggregateId event message envelope := by
  have isId : row.id.text = id := congrArg OutboxDraft.id isDraft
  have isAggregate : row.aggregateId.text = aggregateId := congrArg OutboxDraft.aggregateId isDraft
  have isType : row.eventType.text = event.eventType := congrArg OutboxDraft.eventType isDraft
  have isPayload : row.payload = Json.dumps event.toPayload := congrArg OutboxDraft.payload isDraft
  have hasType : row.eventType.text ≠ "" := fun empty => event_type_named event (isType.symm.trans empty)
  have built : messageFor settings row = .ok ⟨row.topic.text, row.aggregateId.text,
      envelopeOf row.id.text row.eventType.text
        (settings.isoformat row.createdAt) settings.appName row.aggregateType.text
        row.aggregateId.text event.toPayload⟩ := by
    rw [messageFor, envelopeFor, isPayload, settings.loads_payload]
    rfl
  have parsed := envelope_parses python.printable row.id.text row.eventType.text
    (settings.isoformat row.createdAt) settings.appName
    row.aggregateType.text row.aggregateId.text (event.fields.map fun field => (field.1, .str field.2))
      (isId ▸ named) hasType
  refine ⟨_, _, built, (received_parses python.printable _).trans (congrArg some parsed), rfl, isType, isAggregate, rfl,
    fun io json loaded => ?_, fun io json loaded => ?_⟩
  · rw [Json.loads_dumps] at loaded
    cases loaded
    exact routed_iff python io _ _ event isType parsed
  · rw [Json.loads_dumps] at loaded
    cases loaded
    exact handled_eq python io _ _ event isType rfl parsed

section Saving

variable (settings : RelaySettings) (python : Interpreter) (io : Surroundings)

theorem appended_arrive (aggregateType aggregateId : String) (events : List DomainEvent) (n : Nat) (event : DomainEvent)
    (raised : events[n]? = some event) (named : (io.rowId n).text ≠ "") (before after : Db)
    (appended : Db.Appends (outboxDrafts io aggregateType aggregateId events) before after) :
    ∃ row ∈ after.outbox.rows, row.id = io.rowId n ∧
      ∃ message envelope, Arrives settings python row aggregateId event message envelope := by
  obtain ⟨rows, grown, drafts, _⟩ := appended.rows
  have isDraft : (rows.map OutboxRow.draft)[n]? = some ⟨(io.rowId n).text, aggregateType, aggregateId, "user-events",
    event.eventType,
      Json.dumps event.toPayload, io.now⟩ := by
    rw [drafts, outboxDrafts, List.getElem?_map, List.getElem?_zipIdx, raised]
    simp
  rw [List.getElem?_map] at isDraft
  obtain ⟨row, isRow, same⟩ := Option.map_eq_some_iff.mp isDraft
  refine ⟨row, ?_, Varchar.ext 36 _ _ (congrArg OutboxDraft.id same), ?_⟩
  · rw [grown]
    exact List.mem_append_right _ (List.mem_of_getElem? isRow)
  · exact row_arrives settings python row aggregateType aggregateId event _ io.now named same

theorem save_user_appends (user : User) (short : user.id.length ≤ 36) (events : List DomainEvent)
    (script : List Fault) (db : Db) (saved : ((saveUser io user events).exec script db).result = .ok ()) :
    Db.Appends (outboxDrafts io "User" user.id events) db ((saveUser io user events).exec script db).store := by
  have holds : (saveUser io user events).wp
      (fun result after => result = .ok () → Db.Appends (outboxDrafts io "User" user.id events) db after) db :=
    wp_save_user _ io user short events db (fun _ wrong => nomatch wrong)
      fun after stored => ⟨fun _ => stored.outbox, fun _ => stored.outbox⟩
  exact Prog.wp_exec _ _ _ holds script saved

theorem save_role_request_appends (request : RoleRequest) (short : request.id.length ≤ 36) (events : List DomainEvent)
    (script : List Fault) (db : Db) (saved : ((saveRoleRequest io request events).exec script db).result = .ok ()) :
    Db.Appends (outboxDrafts io "RoleRequest" request.id events) db
      ((saveRoleRequest io request events).exec script db).store := by
  have holds : (saveRoleRequest io request events).wp
      (fun result after => result = .ok () →
        Db.Appends (outboxDrafts io "RoleRequest" request.id events) db after) db :=
    wp_save_role_request _ io request short events db (fun _ wrong => nomatch wrong)
      fun after stored => ⟨fun _ => stored.outbox, fun _ => stored.outbox⟩
  exact Prog.wp_exec _ _ _ holds script saved

-- The n-th event of a save, on its way from the row the save left.
def Survives (aggregateId : String) (event : DomainEvent) (n : Nat) (after : Db) : Prop :=
  ∃ row ∈ after.outbox.rows, row.id = io.rowId n ∧
    ∃ message envelope, Arrives settings python row aggregateId event message envelope

-- Whatever the events are: those that the aggregates raise are among them. An aggregate has its identifier
-- from uuid4 or from a column of 36 characters. A save goes through where the tables take its rows.
theorem events_survive (minted : io.Minted) (script : List Fault) (db : Db) (events : List DomainEvent) (n : Nat)
    (event : DomainEvent) (raised : events[n]? = some event) :
    (∀ user : User, Varchar.Fits 36 user.id →
        (((saveUser io user events).exec script db).result = .ok () →
          Survives settings python io user.id event n ((saveUser io user events).exec script db).store) ∧
        (db.TakesUser io user events.length → ((saveUser io user events).exec [] db).result = .ok ())) ∧
      (∀ request : RoleRequest, Varchar.Fits 36 request.id →
        (((saveRoleRequest io request events).exec script db).result = .ok () →
          Survives settings python io request.id event n ((saveRoleRequest io request events).exec script db).store) ∧
        (db.TakesRequest io request events.length → ((saveRoleRequest io request events).exec [] db).result = .ok ())) ∧
      ∀ (role : Role) (lower : Lower) (freshId : String) (now : Time) (email passwordHash displayName : String)
        (circumstances : Circumstances),
        let user := User.create role lower freshId now email passwordHash displayName
        ∀ registration ∈ user.pullEvents.1, registration.IsRegistration ∧ registration.projection circumstances = (do
          let _ ← ProfileRepository.createIfMissing circumstances (.str user.id) (.str user.displayName)) := by
  refine ⟨fun user kept => ⟨fun saved => ?_, save_user_runs io user events db kept⟩,
    fun request kept => ⟨fun saved => ?_, save_role_request_runs io request events db kept⟩,
    fun role lower freshId now email passwordHash displayName circumstances => ?_⟩
  · have appended := save_user_appends io user kept.1 events script db saved
    exact appended_arrive settings python io "User" user.id events n event raised (minted.rows n) _ _ appended
  · have appended := save_role_request_appends io request kept.1 events script db saved
    exact appended_arrive settings python io "RoleRequest" request.id events n event raised (minted.rows n) _ _ appended
  · intro user registration member
    cases List.mem_singleton.mp member
    exact ⟨⟨_, _, _, _, _, rfl⟩, rfl⟩

end Saving

-- The seeded account, banned, and its request for another role.
def bannedAdmin : User := { toDomainUser seededRow with state := .banned }

def bannedEvent : DomainEvent := .userBanned "s1" "a1" "say \"hi\""

def askedDeveloper : RoleRequest := RoleRequest.create "f1" 0 "s1" .developer

def askedEvent : DomainEvent := .roleRequested "f1" "s1" "DEVELOPER"

theorem seeded_unused : seededService.db.Unused sampleIo 1 :=
  ⟨fun _ _ => List.not_mem_nil, fun n m one single _ => by rw [Nat.lt_one_iff.mp one, Nat.lt_one_iff.mp single]⟩

theorem takes_banned_admin : seededService.db.TakesUser sampleIo bannedAdmin 1 where
  taken := ⟨by decide, by decide, by decide, by decide⟩
  alone := fun other member different => absurd (List.mem_singleton.mp member ▸ rfl) different
  rows := seeded_unused

theorem takes_asked_developer : seededService.db.TakesRequest sampleIo askedDeveloper 1 where
  taken := ⟨by decide, by decide, by decide⟩
  requester := by decide
  rows := seeded_unused

def bannedEnvelope : Envelope where
  eventId := "o1"
  eventType := "arcadia.auth.v1.UserBanned"
  aggregateId := "s1"
  payload := .dict [("user_id", .str "s1"), ("banned_by", .str "a1"), ("reason", .str "say \"hi\"")]
  producer := "auth-profile-service"
  occurredAt := "1970-01-01T00:00:00+00:00"

theorem banned_rows : ((saveUser sampleIo bannedAdmin [bannedEvent]).exec [] seededService.db).store.outbox.rows =
    [eventRow sampleIo seededRow.id bannedEvent] := by decide +kernel

theorem banned_message (message : Message)
    (sent : messageFor sampleSettings (eventRow sampleIo seededRow.id bannedEvent) = .ok message) :
    message.received Interpreter.sample.printable = some (.ok bannedEnvelope) := by
  have loaded : sampleSettings.loads (eventRow sampleIo seededRow.id bannedEvent).payload =
      some bannedEvent.toPayload :=
    sampleSettings.loads_payload bannedEvent
  rw [messageFor, envelopeFor, loaded] at sent
  cases sent
  rw [received_parses]
  rfl

-- Both saves go through, and what they leave in the outbox arrives, the ban in this envelope.
theorem banned_survives :
    (((saveUser sampleIo bannedAdmin [bannedEvent]).exec [] seededService.db).result = .ok () ∧
        ∃ row ∈ ((saveUser sampleIo bannedAdmin [bannedEvent]).exec [] seededService.db).store.outbox.rows, ∃ message,
          Arrives sampleSettings Interpreter.sample row "s1" bannedEvent message bannedEnvelope) ∧
      ((saveRoleRequest sampleIo askedDeveloper [askedEvent]).exec [] seededService.db).result = .ok () ∧
        Survives sampleSettings Interpreter.sample sampleIo "f1" askedEvent 0
          ((saveRoleRequest sampleIo askedDeveloper [askedEvent]).exec [] seededService.db).store := by
  obtain ⟨users, _, _⟩ :=
    events_survive sampleSettings Interpreter.sample sampleIo sample_minted [] seededService.db
      [bannedEvent] 0 bannedEvent rfl
  obtain ⟨_, requests, _⟩ :=
    events_survive sampleSettings Interpreter.sample sampleIo sample_minted [] seededService.db
      [askedEvent] 0 askedEvent rfl
  obtain ⟨userSurvives, userRuns⟩ := users bannedAdmin (by decide)
  obtain ⟨requestSurvives, requestRuns⟩ := requests askedDeveloper (by decide)
  have userSaved := userRuns takes_banned_admin
  have requestSaved := requestRuns takes_asked_developer
  refine ⟨⟨userSaved, ?_⟩, requestSaved, requestSurvives requestSaved⟩
  obtain ⟨row, member, _, message, envelope, arrives⟩ := userSurvives userSaved
  refine ⟨row, member, message, ?_⟩
  rw [banned_rows, List.mem_singleton] at member
  have isEnvelope : envelope = bannedEnvelope := by
    have received := banned_message message (member ▸ arrives.sent)
    exact Except.ok.inj (Option.some.inj (arrives.parsed.symm.trans received))
  exact isEnvelope ▸ arrives

end AuthProfile
