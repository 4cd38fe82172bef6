import AuthProfile.Db.Columns
import AuthProfile.Table

set_option autoImplicit false

namespace AuthProfile

open Relation

structure UserRow where
  id : Varchar 36
  email : Varchar 255
  passwordHash : Varchar 255
  displayName : Varchar 64
  role : Role
  state : UserState
  createdAt : Time
deriving DecidableEq, Repr

structure RoleRequestRow where
  id : Varchar 36
  userId : Varchar 36
  requestedRole : Role
  status : RoleRequestStatus
  decisionNote : Option (Varchar 512)
  decidedBy : Option (Varchar 36)
  createdAt : Time
deriving DecidableEq, Repr

structure OutboxRow where
  id : Varchar 36
  aggregateType : Varchar 64
  aggregateId : Varchar 36
  topic : Varchar 128
  eventType : Varchar 128
  payload : String
  dispatched : Bool
  createdAt : Time
  dispatchedAt : Option Time
deriving DecidableEq, Repr

-- What the rows about accounts carry.
def OutboxRow.userType : Varchar 64 := ⟨"User", by decide⟩

def OutboxRow.userEvents : Varchar 128 := ⟨"user-events", by decide⟩

structure LoginAuditRow where
  id : Varchar 36
  userId : Option (Varchar 36)
  ip : Varchar 64
  success : Bool
  attemptedAt : Time
deriving DecidableEq, Repr

instance : Keyed UserRow String := ⟨fun row => row.id.text⟩
instance : Keyed RoleRequestRow String := ⟨fun row => row.id.text⟩
instance : Keyed OutboxRow String := ⟨fun row => row.id.text⟩
instance : Keyed LoginAuditRow String := ⟨fun row => row.id.text⟩

-- The committed tables, with the constraints PostgreSQL enforces on them.
structure Db where
  users : Table UserRow
  roleRequests : Table RoleRequestRow
  outbox : Table OutboxRow
  loginAudit : Table LoginAuditRow
  uniqueEmail : (users.rows.map UserRow.email).Nodup
  requesters : ∀ request ∈ roleRequests.rows, request.userId.text ∈ users.keys

@[ext] theorem Db.ext (a b : Db) (users : a.users = b.users) (roleRequests : a.roleRequests = b.roleRequests)
    (outbox : a.outbox = b.outbox) (loginAudit : a.loginAudit = b.loginAudit) : a = b := by
  cases a
  cases b
  cases users
  cases roleRequests
  cases outbox
  cases loginAudit
  rfl

def toDomainUser (row : UserRow) : User :=
  ⟨row.id.text, row.email.text, row.passwordHash.text, row.displayName.text, row.role, row.state, row.createdAt, []⟩

def toDomainRoleRequest (row : RoleRequestRow) : RoleRequest :=
  ⟨row.id.text, row.userId.text, row.requestedRole, row.status, row.decisionNote.map Varchar.text,
    row.decidedBy.map Varchar.text, row.createdAt⟩

-- The net changes of a session: a column is written when its new value differs
-- from the value the session loaded.
structure UserChanges where
  email : Option String
  passwordHash : Option String
  displayName : Option String
  role : Option Role
  state : Option UserState
  createdAt : Option Time
deriving DecidableEq, Repr

def changed {α : Type} [DecidableEq α] (loaded value : α) : Option α := if value = loaded then none else some value

def UserChanges.between (loaded : UserRow) (user : User) : UserChanges where
  email := changed loaded.email.text user.email
  passwordHash := changed loaded.passwordHash.text user.passwordHash
  displayName := changed loaded.displayName.text user.displayName
  role := changed loaded.role user.role
  state := changed loaded.state user.state
  createdAt := changed loaded.createdAt user.createdAt

def UserChanges.apply (changes : UserChanges) (row : UserRow) : Except Error UserRow := do
  let email ← Varchar.change 255 "email" row.email changes.email
  let passwordHash ← Varchar.change 255 "password_hash" row.passwordHash changes.passwordHash
  let displayName ← Varchar.change 64 "display_name" row.displayName changes.displayName
  return {
    id := row.id
    email := email
    passwordHash := passwordHash
    displayName := displayName
    role := changes.role.getD row.role
    state := changes.state.getD row.state
    createdAt := changes.createdAt.getD row.createdAt }

-- A row without net changes gets no UPDATE.
def UserChanges.nothing (changes : UserChanges) : Bool := changes = ⟨none, none, none, none, none, none⟩

def UserRow.store (user : User) : Except Error UserRow := do
  let id ← Varchar.store 36 "id" user.id
  let email ← Varchar.store 255 "email" user.email
  let passwordHash ← Varchar.store 255 "password_hash" user.passwordHash
  let displayName ← Varchar.store 64 "display_name" user.displayName
  return ⟨id, email, passwordHash, displayName, user.role, user.state, user.createdAt⟩

structure RoleRequestChanges where
  requestedRole : Option Role
  status : Option RoleRequestStatus
  decisionNote : Option (Option String)
  decidedBy : Option (Option String)
  createdAt : Option Time
deriving DecidableEq, Repr

def RoleRequestChanges.between (loaded : RoleRequestRow) (request : RoleRequest) : RoleRequestChanges where
  requestedRole := changed loaded.requestedRole request.requestedRole
  status := changed loaded.status request.status
  decisionNote := changed (loaded.decisionNote.map Varchar.text) request.decisionNote
  decidedBy := changed (loaded.decidedBy.map Varchar.text) request.decidedBy
  createdAt := changed loaded.createdAt request.createdAt

def RoleRequestChanges.apply (changes : RoleRequestChanges) (row : RoleRequestRow) : Except Error RoleRequestRow := do
  let decisionNote ← Varchar.changeOption 512 "decision_note" row.decisionNote changes.decisionNote
  let decidedBy ← Varchar.changeOption 36 "decided_by" row.decidedBy changes.decidedBy
  return {
    id := row.id
    userId := row.userId
    requestedRole := changes.requestedRole.getD row.requestedRole
    status := changes.status.getD row.status
    decisionNote := decisionNote
    decidedBy := decidedBy
    createdAt := changes.createdAt.getD row.createdAt }

def RoleRequestRow.store (request : RoleRequest) : Except Error RoleRequestRow := do
  let id ← Varchar.store 36 "id" request.id
  let userId ← Varchar.store 36 "user_id" request.userId
  let decisionNote ← Varchar.storeOption 512 "decision_note" request.decisionNote
  let decidedBy ← Varchar.storeOption 36 "decided_by" request.decidedBy
  return ⟨id, userId, request.requestedRole, request.status, decisionNote, decidedBy, request.createdAt⟩

def RoleRequestChanges.nothing (changes : RoleRequestChanges) : Bool := changes = ⟨none, none, none, none, none⟩

-- An OutboxModel as the repository builds it, before the database has seen it.
structure OutboxDraft where
  id : String
  aggregateType : String
  aggregateId : String
  topic : String
  eventType : String
  payload : String
  createdAt : Time
deriving DecidableEq, Repr

def OutboxRow.store (draft : OutboxDraft) : Except Error OutboxRow := do
  let id ← Varchar.store 36 "id" draft.id
  let aggregateType ← Varchar.store 64 "aggregate_type" draft.aggregateType
  let aggregateId ← Varchar.store 36 "aggregate_id" draft.aggregateId
  let topic ← Varchar.store 128 "topic" draft.topic
  let eventType ← Varchar.store 128 "event_type" draft.eventType
  return ⟨id, aggregateType, aggregateId, topic, eventType, draft.payload, false, draft.createdAt, none⟩

structure LoginAuditDraft where
  id : String
  userId : Option String
  ip : String
  success : Bool
  attemptedAt : Time
deriving DecidableEq, Repr

def LoginAuditRow.store (draft : LoginAuditDraft) : Except Error LoginAuditRow := do
  let id ← Varchar.store 36 "id" draft.id
  let userId ← Varchar.storeOption 36 "user_id" draft.userId
  let ip ← Varchar.store 64 "ip" draft.ip
  return ⟨id, userId, ip, draft.success, draft.attemptedAt⟩

inductive Write where
  | insertUser (user : User)
  | updateUser (id : String) (changes : UserChanges)
  | insertRoleRequest (request : RoleRequest)
  | updateRoleRequest (id : String) (changes : RoleRequestChanges)
  | insertOutbox (draft : OutboxDraft)
  | insertLoginAudit (draft : LoginAuditDraft)

namespace Db

def insertUserRow (row : UserRow) (db : Db) : Except Error Db :=
  match inserted : db.users.insert row with
  | none => .error (.integrity "users_pkey")
  | some users =>
      if unique : (users.rows.map UserRow.email).Nodup then
        .ok { db with
          users := users
          uniqueEmail := unique
          requesters := fun request member => by
            have known := db.requesters request member
            have grown := ((Table.insert_some_iff row db.users users).mp inserted).2
            simp only [Table.keys, grown, List.map_append, List.mem_append]
            exact Or.inl known }
      else .error (.integrity "ix_users_email")

def replaceUserRow (row : UserRow) (db : Db) : Except Error Db :=
  if unique : ((db.users.replace row).rows.map UserRow.email).Nodup then
    .ok { db with
      users := db.users.replace row
      uniqueEmail := unique
      requesters := fun request member => by
        rw [Table.keys_replace]
        exact db.requesters request member }
  else .error (.integrity "ix_users_email")

def insertRoleRequestRow (row : RoleRequestRow) (db : Db) : Except Error Db :=
  match inserted : db.roleRequests.insert row with
  | none => .error (.integrity "role_requests_pkey")
  | some roleRequests =>
      if known : row.userId.text ∈ db.users.keys then
        .ok { db with
          roleRequests := roleRequests
          requesters := fun request member => by
            rw [((Table.insert_some_iff row db.roleRequests roleRequests).mp inserted).2, List.mem_append,
              List.mem_singleton] at member
            rcases member with old | rfl
            · exact db.requesters request old
            · exact known }
      else .error (.integrity "role_requests_user_id_fkey")

-- user_id is not among the columns an update writes.
def replaceRoleRequestRow (row : RoleRequestRow) (db : Db) (known : row.userId.text ∈ db.users.keys) : Db :=
  { db with
    roleRequests := db.roleRequests.replace row
    requesters := fun request member => by
      obtain ⟨old, oldMember, same⟩ := List.mem_map.mp member
      by_cases hit : key old = key row
      · rw [if_pos hit] at same
        exact same ▸ known
      · rw [if_neg hit] at same
        exact same ▸ db.requesters old oldMember }

def insertOutboxRow (row : OutboxRow) (db : Db) : Except Error Db :=
  match db.outbox.insert row with
  | none => .error (.integrity "outbox_pkey")
  | some outbox => .ok { db with outbox := outbox }

def insertLoginAuditRow (row : LoginAuditRow) (db : Db) : Except Error Db :=
  match db.loginAudit.insert row with
  | none => .error (.integrity "login_audit_pkey")
  | some loginAudit =>
      if row.userId.all fun userId => userId.text ∈ db.users.keys then .ok { db with loginAudit := loginAudit }
      else .error (.integrity "login_audit_user_id_fkey")

def write (db : Db) : Write → Except Error Db
  | .insertUser user => do db.insertUserRow (← UserRow.store user)
  | .updateUser id changes =>
      match db.users.find id with
      | none => if changes.nothing then .ok db else .error (.stale "users")
      | some old => do db.replaceUserRow (← changes.apply old)
  | .insertRoleRequest request => do db.insertRoleRequestRow (← RoleRequestRow.store request)
  | .updateRoleRequest id changes =>
      match db.roleRequests.find id with
      | none => if changes.nothing then .ok db else .error (.stale "role_requests")
      | some old => do
          let row ← changes.apply old
          if known : row.userId.text ∈ db.users.keys then .ok (db.replaceRoleRequestRow row known)
          else .error (.integrity "role_requests_user_id_fkey")
  | .insertOutbox draft => do db.insertOutboxRow (← OutboxRow.store draft)
  | .insertLoginAudit draft => do db.insertLoginAuditRow (← LoginAuditRow.store draft)

-- One flush and COMMIT: all the statements of a unit of work or none.
def flush : List Write → Db → Except Error Db
  | [], db => .ok db
  | first :: rest, db => do flush rest (← db.write first)

end Db

end AuthProfile
