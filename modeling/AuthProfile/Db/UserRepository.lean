import AuthProfile.Db.Flush
import AuthProfile.Db.Statement

set_option autoImplicit false

namespace AuthProfile

open Relation Process

-- What a call draws from its surroundings: the clock, and the random identifiers
-- of the aggregate and of the rows it adds. Nothing keeps them from repeating.
structure Surroundings where
  now : Time
  freshId : Varchar 36
  rowId : Nat → Varchar 36
  salt : String

def outboxDrafts (io : Surroundings) (aggregateType aggregateId : String) (events : List DomainEvent) :
    List OutboxDraft :=
  events.zipIdx.map fun (event, n) =>
    ⟨(io.rowId n).text, aggregateType, aggregateId, "user-events", event.eventType, Json.dumps event.toPayload, io.now⟩

theorem event_type_kept (event : DomainEvent) : Varchar.Fits 128 event.eventType := by
  refine ⟨event.event_type_fits, ?_⟩
  rw [DomainEvent.eventType]
  cases event <;> rw [DomainEvent.className] <;> decide

def userWrite (loaded : Option UserRow) (user : User) : Write :=
  match loaded with
  | none => .insertUser user
  | some row => .updateUser user.id (.between row user)

def roleRequestWrite (loaded : Option RoleRequestRow) (request : RoleRequest) : Write :=
  match loaded with
  | none => .insertRoleRequest request
  | some row => .updateRoleRequest request.id (.between row request)

namespace UserRepository

def commit (writes : List Write) : Prog Db Error Unit :=
  Prog.atomic .connection fun db => (Db.flush writes db).map fun after => ((), after)

def getUserById (userId : String) : Prog Db Error (Option User) := do
  let row ← select [userId] fun db : Db => db.users.find userId
  return row.map toDomainUser

def getUserByEmail (email : String) : Prog Db Error (Option User) := do
  let row ← select [email] fun db : Db => db.users.rows.find? fun row => row.email.text = email
  return row.map toDomainUser

-- The session holds its rows weakly, and nothing refers any more to the one
-- get_by_id read: session.get selects it again.
def saveUser (io : Surroundings) (user : User) (events : List DomainEvent) : Prog Db Error Unit := do
  let row ← select [user.id] fun db : Db => db.users.find user.id
  commit (userWrite row user :: (outboxDrafts io "User" user.id events).map .insertOutbox)

def recordLoginAudit (io : Surroundings) (userId : Option String) (ip : String) (success : Bool) : Prog Db Error Unit :=
  commit [.insertLoginAudit ⟨io.freshId.text, userId, ip, success, io.now⟩]

def getRoleRequestById (requestId : String) : Prog Db Error (Option RoleRequest) := do
  let row ← select [requestId] fun db : Db => db.roleRequests.find requestId
  return row.map toDomainRoleRequest

def saveRoleRequest (io : Surroundings) (request : RoleRequest) (events : List DomainEvent) : Prog Db Error Unit := do
  let row ← select [request.id] fun db : Db => db.roleRequests.find request.id
  commit (roleRequestWrite row request :: (outboxDrafts io "RoleRequest" request.id events).map .insertOutbox)

end UserRepository

namespace Db

structure UserSaved (user : User) (drafts : List OutboxDraft) (before after : Db) : Prop where
  row : (after.users.find user.id).map toDomainUser = some user.settled
  others : ∀ id, id ≠ user.id → after.users.find id = before.users.find id
  outbox : Appends drafts before after
  roleRequests : after.roleRequests = before.roleRequests
  taken : user.Taken

-- The requester of a row is written once, when the row is inserted.
def requester (db : Db) (request : RoleRequest) : String :=
  match db.roleRequests.find request.id with
  | none => Varchar.cut 36 request.userId
  | some row => row.userId.text

structure RoleRequestSaved (request : RoleRequest) (drafts : List OutboxDraft) (before after : Db) : Prop where
  row : (after.roleRequests.find request.id).map toDomainRoleRequest =
    some { request.settled with userId := before.requester request }
  others : ∀ id, id ≠ request.id → after.roleRequests.find id = before.roleRequests.find id
  outbox : Appends drafts before after
  users : after.users = before.users

end Db

theorem outbox_drafts_settled (io : Surroundings) (aggregateType aggregateId : String) (events : List DomainEvent)
    (typeShort : aggregateType.length ≤ 64) (idShort : aggregateId.length ≤ 36) :
    (outboxDrafts io aggregateType aggregateId events).map OutboxDraft.settled =
      outboxDrafts io aggregateType aggregateId events := by
  rw [outboxDrafts, List.map_map]
  apply List.map_congr_left
  rintro ⟨event, n⟩ _
  have topicShort : "user-events".length ≤ 128 := by decide
  simp only [Function.comp_apply, OutboxDraft.settled, Varchar.cut_text, Varchar.cut_short _ _ typeShort,
    Varchar.cut_short _ _ idShort,
    Varchar.cut_short _ _ topicShort, Varchar.cut_short _ _ event.event_type_fits]

theorem user_row_key (row : UserRow) (user : User) (short : user.id.length ≤ 36)
    (same : toDomainUser row = user.settled) :
    key row = user.id := (congrArg User.id same).trans (Varchar.cut_short 36 user.id short)

theorem role_request_row_key (row : RoleRequestRow) (request : RoleRequest) (userId : String)
    (short : request.id.length ≤ 36)
    (same : toDomainRoleRequest row = { request.settled with userId := userId }) : key row = request.id :=
  (congrArg RoleRequest.id same).trans (Varchar.cut_short 36 request.id short)

theorem user_write_saved (user : User) (short : user.id.length ≤ 36) (db next : Db)
    (written : db.write (userWrite (db.users.find user.id) user) = .ok next) :
    Db.UserSaved user [] db next := by
  cases found : db.users.find user.id with
  | none =>
      rw [found, userWrite] at written
      obtain ⟨row, stored, run⟩ := (Db.write_insert_user user db next).mp written
      obtain ⟨inserted, roleRequests, outbox, _⟩ := Db.insert_user_row_ok row db next run
      obtain ⟨taken, same⟩ := user_row_store_ok user row stored
      have rowKey := user_row_key row user short same
      refine ⟨?_, fun id different => ?_, .refl _ _ outbox, roleRequests, taken⟩
      · have here := Table.find_insert_same row _ _ inserted
        rw [rowKey] at here
        rw [here, Option.map_some, same]
      · exact Table.find_insert_other row _ _ id inserted (rowKey ▸ different)
  | some old =>
      rw [found, userWrite, Db.write_update_user user.id _ db next old found] at written
      obtain ⟨row, applied, run⟩ := written
      obtain ⟨users, roleRequests, outbox, _⟩ := Db.replace_user_row_ok row db next run
      have oldKey : old.id.text = user.id := Table.find_key user.id db.users old found
      obtain ⟨taken, same⟩ := user_changes_ok old row user oldKey.symm applied
      have rowKey := user_row_key row user short same
      refine ⟨?_, fun id different => ?_, .refl _ _ outbox, roleRequests, taken⟩
      · have present : key row ∈ db.users.keys := rowKey ▸ oldKey ▸ List.mem_map_of_mem (Table.find_mem _ _ old found)
        have here := Table.find_replace_same row db.users present
        rw [rowKey] at here
        rw [users, here, Option.map_some, same]
      · rw [users]
        exact Table.find_replace_other row db.users id (rowKey ▸ different)

theorem user_flush_saved (user : User) (short : user.id.length ≤ 36) (drafts : List OutboxDraft) (db after : Db)
    (settled : drafts.map OutboxDraft.settled = drafts)
    (run : Db.flush (userWrite (db.users.find user.id) user :: drafts.map .insertOutbox) db = .ok after) :
    Db.UserSaved user drafts db after := by
  rw [Db.flush_cons] at run
  obtain ⟨next, written, flushed⟩ := run
  obtain ⟨row, others, outbox, roleRequests, taken⟩ := user_write_saved user short db next written
  obtain ⟨appended, kept⟩ := Db.flush_outbox drafts next after flushed
  rw [settled] at appended
  exact ⟨by rw [kept.users, row], fun id different => by rw [kept.users, others id different],
    outbox.trans [] drafts db next after appended, kept.roleRequests.trans roleRequests, taken⟩

theorem role_request_write_saved (request : RoleRequest) (short : request.id.length ≤ 36) (db next : Db)
    (written : db.write (roleRequestWrite (db.roleRequests.find request.id) request) = .ok next) :
    Db.RoleRequestSaved request [] db next := by
  cases found : db.roleRequests.find request.id with
  | none =>
      rw [found, roleRequestWrite] at written
      obtain ⟨row, stored, run⟩ := (Db.write_insert_role_request request db next).mp written
      obtain ⟨users, inserted, outbox, _⟩ := Db.insert_role_request_row_ok row db next run
      have same : toDomainRoleRequest row = { request.settled with userId := db.requester request } := by
        rw [Db.requester, found]
        exact role_request_row_store_ok request row stored
      have rowKey := role_request_row_key row request _ short same
      refine ⟨?_, fun id different => ?_, .refl _ _ outbox, users⟩
      · have here := Table.find_insert_same row _ _ inserted
        rw [rowKey] at here
        rw [here, Option.map_some, same]
      · exact Table.find_insert_other row _ _ id inserted (rowKey ▸ different)
  | some old =>
      rw [found, roleRequestWrite, Db.write_update_role_request request.id _ db next old found] at written
      obtain ⟨row, applied, users, roleRequests, outbox, _⟩ := written
      have oldKey : old.id.text = request.id := Table.find_key request.id db.roleRequests old found
      have same : toDomainRoleRequest row = { request.settled with userId := db.requester request } := by
        rw [Db.requester, found]
        exact role_request_changes_ok old row request oldKey.symm applied
      have rowKey := role_request_row_key row request _ short same
      refine ⟨?_, fun id different => ?_, .refl _ _ outbox, users⟩
      · have present : key row ∈ db.roleRequests.keys :=
          rowKey ▸ oldKey ▸ List.mem_map_of_mem (Table.find_mem _ _ old found)
        have here := Table.find_replace_same row db.roleRequests present
        rw [rowKey] at here
        rw [roleRequests, here, Option.map_some, same]
      · rw [roleRequests]
        exact Table.find_replace_other row db.roleRequests id (rowKey ▸ different)

theorem role_request_flush_saved (request : RoleRequest) (short : request.id.length ≤ 36) (drafts : List OutboxDraft)
    (db after : Db) (settled : drafts.map OutboxDraft.settled = drafts)
    (run : Db.flush (roleRequestWrite (db.roleRequests.find request.id) request :: drafts.map .insertOutbox) db =
      .ok after) :
    Db.RoleRequestSaved request drafts db after := by
  rw [Db.flush_cons] at run
  obtain ⟨next, written, flushed⟩ := run
  obtain ⟨row, others, outbox, users⟩ := role_request_write_saved request short db next written
  obtain ⟨appended, kept⟩ := Db.flush_outbox drafts next after flushed
  rw [settled] at appended
  exact ⟨by rw [kept.roleRequests, row], fun id different => by rw [kept.roleRequests, others id different],
    outbox.trans [] drafts db next after appended, kept.users.trans users⟩

namespace UserRepository

theorem wp_commit (post : Except Error Unit → Db → Prop) (writes : List Write) (db : Db)
    (lost : post (.error .connection) db) (refused : ∀ error, post (.error error) db)
    (committed : ∀ after, Db.flush writes db = .ok after → post (.ok ()) after ∧ post (.error .connection) after) :
    (commit writes).wp post db := by
  rw [commit, Prog.wp_atomic]
  refine ⟨lost, ?_⟩
  cases run : Db.flush writes db with
  | error error => exact refused error
  | ok after => exact committed after run

theorem wp_save_user (post : Except Error Unit → Db → Prop) (io : Surroundings) (user : User)
    (short : user.id.length ≤ 36) (events : List DomainEvent) (db : Db) (refused : ∀ error, post (.error error) db)
    (saved : ∀ after, Db.UserSaved user (outboxDrafts io "User" user.id events) db after →
      post (.ok ()) after ∧ post (.error .connection) after) :
    (saveUser io user events).wp post db := by
  refine wp_select_bind _ _ _ db post refused (wp_commit post _ db (refused _) refused fun after run => saved after ?_)
  exact user_flush_saved user short _ db after (outbox_drafts_settled io "User" user.id events (by decide) short) run

theorem wp_save_role_request (post : Except Error Unit → Db → Prop) (io : Surroundings) (request : RoleRequest)
    (short : request.id.length ≤ 36) (events : List DomainEvent) (db : Db) (refused : ∀ error, post (.error error) db)
    (saved : ∀ after, Db.RoleRequestSaved request (outboxDrafts io "RoleRequest" request.id events) db after →
      post (.ok ()) after ∧ post (.error .connection) after) :
    (saveRoleRequest io request events).wp post db := by
  refine wp_select_bind _ _ _ db post refused (wp_commit post _ db (refused _) refused fun after run => saved after ?_)
  exact role_request_flush_saved request short _ db after
    (outbox_drafts_settled io "RoleRequest" request.id events (by decide) short) run

end UserRepository

end AuthProfile
