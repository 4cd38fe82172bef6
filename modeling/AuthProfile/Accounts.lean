import AuthProfile.Db.UserRepository
import AuthProfile.Process.Machine

set_option autoImplicit false

namespace AuthProfile

open Relation Process

-- What the other services know of an account.
structure Account where
  role : Role
  state : UserState
deriving DecidableEq, Repr

inductive AccountEvent where
  | registered (role : Role) (state : UserState)
  | approved
  | rejected
  | banned
  | unbanned
  | roleGranted (oldRole newRole : Role)
deriving DecidableEq, Repr

def Account.follow (account : Option Account) : AccountEvent → Option Account
  | .registered role state => some ⟨role, state⟩
  | .approved => account.map fun known => { known with state := .active }
  | .rejected => account.map fun known => { known with state := .rejected }
  | .banned => account.map fun known => { known with state := .banned }
  | .unbanned => account.map fun known => { known with state := .active }
  | .roleGranted _ newRole => account.map fun known => { known with role := newRole }

-- PENDING -> ACTIVE | REJECTED, ACTIVE <-> BANNED, and a grant that knows the role it replaces.
def Account.legal (account : Option Account) : AccountEvent → Prop
  | .registered _ _ => True
  | .approved => account.map Account.state = some .pending
  | .rejected => account.map Account.state = some .pending
  | .banned => account.map Account.state = some .active
  | .unbanned => account.map Account.state = some .banned
  | .roleGranted oldRole _ => account.map Account.role = some oldRole

def Account.machine : Machine (Option Account) AccountEvent := ⟨Account.follow, Account.legal⟩

def UserRow.account (row : UserRow) : Account := ⟨row.role, row.state⟩

def User.account (user : User) : Account := ⟨user.role, user.state⟩

def Db.account (db : Db) (id : String) : Option Account := (db.users.find id).map UserRow.account

theorem account_of_saved (user : User) (drafts : List OutboxDraft) (db after : Db)
    (saved : Db.UserSaved user drafts db after) :
    after.account user.id = some user.account := by
  obtain ⟨row, found, same⟩ := Option.map_eq_some_iff.mp saved.row
  rw [Db.account, found, Option.map_some]
  exact congrArg (fun user : User => some user.account) same

theorem account_of_others (user : User) (drafts : List OutboxDraft) (db after : Db)
    (saved : Db.UserSaved user drafts db after)
    (id : String) (different : id ≠ user.id) : after.account id = db.account id := by
  rw [Db.account, saved.others id different, Db.account]

-- A consumer reads the type and the payload of the envelope.
def readAccountEvent (eventType : String) (payload : Json) : Option AccountEvent := do
  let field := fun name => (payload.get name).bind Json.text
  if eventType = "arcadia.auth.v1.UserRegistered" then
    return .registered (← (field "role").bind Role.parse) (← (field "state").bind UserState.parse)
  if eventType = "arcadia.auth.v1.RegistrationApproved" then return .approved
  if eventType = "arcadia.auth.v1.RegistrationRejected" then return .rejected
  if eventType = "arcadia.auth.v1.UserBanned" then return .banned
  if eventType = "arcadia.auth.v1.UserUnbanned" then return .unbanned
  if eventType = "arcadia.auth.v1.RoleGranted" then
    return .roleGranted (← (field "old_role").bind Role.parse) (← (field "new_role").bind Role.parse)
  none

def OutboxDraft.about (id : String) (draft : OutboxDraft) : Bool :=
  draft.aggregateType = "User" && draft.aggregateId = id

def OutboxDraft.accountEvent (draft : OutboxDraft) : Option AccountEvent :=
  (Json.loads draft.payload).bind (readAccountEvent draft.eventType)

def Readable (drafts : List OutboxDraft) : Prop :=
  ∀ draft ∈ drafts, draft.aggregateType = "User" → draft.accountEvent.isSome = true

def accountEvents (id : String) (drafts : List OutboxDraft) : List AccountEvent :=
  (drafts.filter (OutboxDraft.about id)).filterMap OutboxDraft.accountEvent

theorem account_events_append (id : String) (first later : List OutboxDraft) :
    accountEvents id (first ++ later) = accountEvents id first ++ accountEvents id later := by
  rw [accountEvents, List.filter_append, List.filterMap_append]
  rfl

def DomainEvent.accountEvent : DomainEvent → Option AccountEvent
  | .userRegistered _ _ _ role state => do return .registered (← Role.parse role) (← UserState.parse state)
  | .registrationApproved _ _ => some .approved
  | .registrationRejected _ _ _ => some .rejected
  | .roleRequested _ _ _ => none
  | .roleGranted _ oldRole newRole _ => do return .roleGranted (← Role.parse oldRole) (← Role.parse newRole)
  | .userBanned _ _ _ => some .banned
  | .userUnbanned _ _ => some .unbanned

theorem read_account_event (event : DomainEvent) :
    readAccountEvent event.eventType event.toPayload = event.accountEvent := by
  cases event <;> rfl

-- The round trip of the payload: what was stored for an event is read back as that event.
theorem draft_account_event (draft : OutboxDraft) (event : DomainEvent) (eventType : draft.eventType = event.eventType)
    (payload : draft.payload = Json.dumps event.toPayload) : draft.accountEvent = event.accountEvent := by
  rw [OutboxDraft.accountEvent, payload, Json.loads_dumps, eventType, Option.bind_some, read_account_event]

theorem account_events_drafts (io : Surroundings) (id : String) (event : DomainEvent) :
    accountEvents id (outboxDrafts io "User" id [event]) = event.accountEvent.toList := by
  simp only [accountEvents, outboxDrafts, List.zipIdx_cons, List.zipIdx_nil, List.map_cons, List.map_nil,
    List.filter_cons,
    OutboxDraft.about, decide_true, Bool.and_self, if_true, List.filter_nil, List.filterMap_cons, List.filterMap_nil]
  rw [draft_account_event _ event rfl rfl]
  cases event.accountEvent <;> rfl

theorem drafts_readable (io : Surroundings) (aggregateType aggregateId : String) (events : List DomainEvent)
    (tell : aggregateType = "User" → ∀ event ∈ events, event.accountEvent.isSome = true) :
    Readable (outboxDrafts io aggregateType aggregateId events) := by
  intro draft member isUser
  obtain ⟨⟨event, n⟩, indexed, same⟩ := List.mem_map.mp member
  subst same
  rw [draft_account_event _ event rfl rfl]
  exact tell isUser event (List.fst_mem_of_mem_zipIdx indexed)

theorem account_events_drafts_other (io : Surroundings) (aggregateType aggregateId id : String)
    (events : List DomainEvent) (different : aggregateType ≠ "User" ∨ aggregateId ≠ id) :
    accountEvents id (outboxDrafts io aggregateType aggregateId events) = [] := by
  have none : (outboxDrafts io aggregateType aggregateId events).filter (OutboxDraft.about id) = [] := by
    rw [List.filter_eq_nil_iff]
    intro draft member
    obtain ⟨pair, _, same⟩ := List.mem_map.mp member
    subst same
    simpa [OutboxDraft.about] using fun isUser => different.resolve_left (not_not_intro isUser)
  rw [accountEvents, none, List.filterMap_nil]

-- One change of an aggregate: it raised one event, which tells what became of it.
structure User.Raises (user changed : User) (event : AccountEvent) : Prop where
  id : changed.id = user.id
  raised : ∃ domainEvent, changed.pendingEvents = user.pendingEvents ++ [domainEvent] ∧
    domainEvent.accountEvent = some event
  legal : Account.legal (some user.account) event
  follows : Account.follow (some user.account) event = some changed.account

theorem transition_ok (user changed : User) (required target : UserState) (action : String) (event : DomainEvent)
    (run : user.transition required target action event = .ok changed) :
    user.state = required ∧ changed = { user with state := target }.raise event := by
  by_cases ready : user.state = required
  · simp only [User.transition, ready, ne_eq, not_true_eq_false, if_false, Except.ok.injEq] at run
    exact ⟨ready, run.symm⟩
  · simp only [User.transition, ne_eq, ready, not_false_eq_true, if_true] at run
    cases run

theorem approve_registration_raises (user changed : User) (decidedBy : String)
    (run : user.approveRegistration decidedBy = .ok changed) : user.Raises changed .approved := by
  obtain ⟨ready, same⟩ := transition_ok user changed _ _ _ _ run
  subst same
  exact ⟨rfl, ⟨_, rfl, rfl⟩, congrArg some ready, rfl⟩

theorem reject_registration_raises (user changed : User) (decidedBy reason : String)
    (run : user.rejectRegistration decidedBy reason = .ok changed) : user.Raises changed .rejected := by
  obtain ⟨ready, same⟩ := transition_ok user changed _ _ _ _ run
  subst same
  exact ⟨rfl, ⟨_, rfl, rfl⟩, congrArg some ready, rfl⟩

theorem ban_raises (user changed : User) (bannedBy reason : String) (run : user.ban bannedBy reason = .ok changed) :
    user.Raises changed .banned := by
  obtain ⟨ready, same⟩ := transition_ok user changed _ _ _ _ run
  subst same
  exact ⟨rfl, ⟨_, rfl, rfl⟩, congrArg some ready, rfl⟩

theorem unban_raises (user changed : User) (unbannedBy : String) (run : user.unban unbannedBy = .ok changed) :
    user.Raises changed .unbanned := by
  obtain ⟨ready, same⟩ := transition_ok user changed _ _ _ _ run
  subst same
  exact ⟨rfl, ⟨_, rfl, rfl⟩, congrArg some ready, rfl⟩

theorem change_role_raises (user : User) (newRole : Role) (grantedBy : String) :
    user.Raises (user.changeRole newRole grantedBy) (.roleGranted user.role newRole) := by
  refine ⟨rfl, ⟨_, rfl, ?_⟩, rfl, rfl⟩
  simp only [DomainEvent.accountEvent, role_parse_value]
  rfl

theorem create_raises (role : Role) (lower : Lower) (freshId : String) (now : Time)
    (email passwordHash displayName : String) :
    ∃ domainEvent, (User.create role lower freshId now email passwordHash displayName).pendingEvents = [domainEvent] ∧
      domainEvent.accountEvent = some (.registered role .active) := by
  refine ⟨_, rfl, ?_⟩
  simp only [DomainEvent.accountEvent, role_parse_value, user_state_parse_value]
  rfl

-- One commit of a changed aggregate: its account follows the event in its outbox row.
structure Db.AccountSaved (id : String) (event : AccountEvent) (before after : Db) : Prop where
  appended : ∃ drafts, Db.Appends drafts before after ∧ Readable drafts ∧ accountEvents id drafts = [event] ∧
    ∀ other, other ≠ id → accountEvents other drafts = []
  legal : Account.legal (before.account id) event
  follows : after.account id = Account.follow (before.account id) event
  others : ∀ other, other ≠ id → after.account other = before.account other

theorem account_saved (io : Surroundings) (user changed : User) (event : AccountEvent) (db after : Db)
    (present : db.account user.id = some user.account) (fresh : user.pendingEvents = [])
    (raises : user.Raises changed event)
    (saved : Db.UserSaved changed.pullEvents.2 (outboxDrafts io "User" changed.id changed.pullEvents.1) db after) :
    Db.AccountSaved user.id event db after := by
  obtain ⟨sameId, ⟨domainEvent, pending, tells⟩, legal, follows⟩ := raises
  rw [fresh, List.nil_append] at pending
  have drafts : outboxDrafts io "User" changed.id changed.pullEvents.1 =
      outboxDrafts io "User" user.id [domainEvent] := by
    rw [User.pullEvents, pending, sameId]
  have savedId : changed.pullEvents.2.id = user.id := sameId
  have after_account := account_of_saved _ _ db after saved
  refine ⟨⟨_, saved.outbox, ?_, ?_, fun other different => ?_⟩, present ▸ legal, ?_, fun other different => ?_⟩
  · rw [drafts]
    refine drafts_readable io _ _ _ fun _ raised member => ?_
    cases List.mem_singleton.mp member
    rw [tells]
    rfl
  · rw [drafts, account_events_drafts, tells]
    rfl
  · rw [drafts]
    exact account_events_drafts_other io _ _ _ _ (Or.inr (Ne.symm different))
  · rw [present, follows, ← savedId, after_account]
    rfl
  · exact account_of_others _ _ db after saved other (savedId ▸ different)

end AuthProfile
