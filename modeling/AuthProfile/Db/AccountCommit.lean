import AuthProfile.Accounts

set_option autoImplicit false

namespace AuthProfile

open Relation Process

def UserRow.setAccount (row : UserRow) (account : Account) : UserRow :=
  { row with role := account.role, state := account.state }

-- What a commit makes of the current account: a column is written when its target
-- differs from the value the session loaded.
def Account.merge (loaded target current : Account) : Account where
  role := (changed loaded.role target.role).getD current.role
  state := (changed loaded.state target.state).getD current.state

@[simp] theorem set_account_self (row : UserRow) : row.setAccount row.account = row := rfl

@[simp] theorem set_account_twice (row : UserRow) (first second : Account) :
    (row.setAccount first).setAccount second = row.setAccount second := rfl

theorem changed_self {α : Type} [DecidableEq α] (value : α) : changed value value = none := if_pos rfl

theorem merge_self (target current : Account) : Account.merge current target current = target := by
  cases target
  simp only [Account.merge, changed_get_d]

-- The user a call saves differs from the row in role and state only.
structure UserRow.Shows (row : UserRow) (user : User) : Prop where
  settled : toDomainUser (row.setAccount user.account) = { user with pendingEvents := [] }

theorem changes_merge (row : UserRow) (user : User) (loaded current : Account) (shows : row.Shows user) :
    (UserChanges.between (row.setAccount loaded) user).apply (row.setAccount current) =
      .ok (row.setAccount (Account.merge loaded user.account current)) := by
  obtain ⟨settled⟩ := shows
  have email : user.email = row.email.text := (congrArg User.email settled).symm
  have passwordHash : user.passwordHash = row.passwordHash.text := (congrArg User.passwordHash settled).symm
  have displayName : user.displayName = row.displayName.text := (congrArg User.displayName settled).symm
  have createdAt : user.createdAt = row.createdAt := (congrArg User.createdAt settled).symm
  simp only [UserChanges.apply, UserChanges.between, UserRow.setAccount, email, passwordHash, displayName, createdAt,
    changed_self, Varchar.change]
  rfl

theorem emails_replace (row old : UserRow) (users : Table UserRow) (found : users.find row.id.text = some old)
    (sameEmail : row.email = old.email) :
    (users.replace row).rows.map UserRow.email = users.rows.map UserRow.email := by
  rw [Table.replace, List.map_map]
  apply List.map_congr_left
  intro other member
  by_cases hit : key other = key row
  · have same : other = old := by
      have self := Table.find_self users other member
      rw [hit] at self
      exact Option.some.inj (self.symm.trans found)
    rw [Function.comp_apply, if_pos hit, sameEmail, same]
  · simp only [Function.comp_apply, if_neg hit]

theorem replace_user_row_run (row old : UserRow) (db : Db) (found : db.users.find row.id.text = some old)
    (sameEmail : row.email = old.email) : ∃ after, db.replaceUserRow row = .ok after := by
  have unique : ((db.users.replace row).rows.map UserRow.email).Nodup := by
    rw [emails_replace row old db.users found sameEmail]
    exact db.uniqueEmail
  exact ⟨_, by rw [Db.replaceUserRow, dif_pos unique]⟩

def eventRow (io : Surroundings) (aggregateId : Varchar 36) (event : DomainEvent) : OutboxRow where
  id := io.rowId 0
  aggregateType := OutboxRow.userType
  aggregateId := aggregateId
  topic := OutboxRow.userEvents
  eventType := ⟨event.eventType, event_type_kept event⟩
  payload := Json.dumps event.toPayload
  dispatched := false
  createdAt := io.now
  dispatchedAt := none

theorem outbox_drafts_single (io : Surroundings) (aggregateId : Varchar 36) (event : DomainEvent) :
    outboxDrafts io "User" aggregateId.text [event] = [(eventRow io aggregateId event).draft] := rfl

theorem event_row_stored (io : Surroundings) (aggregateId : Varchar 36) (event : DomainEvent) :
    OutboxRow.store (eventRow io aggregateId event).draft = .ok (eventRow io aggregateId event) := by
  simp only [OutboxRow.store, OutboxRow.draft, Varchar.store_text]
  rfl

-- The transaction that saves a changed account, from the row its session loaded.
def accountWrites (io : Surroundings) (loaded : UserRow) (user : User) (event : DomainEvent) : List Write :=
  userWrite (some loaded) user :: (outboxDrafts io "User" user.id [event]).map .insertOutbox

structure Db.AccountCommitted (io : Surroundings) (row : UserRow) (account : Account) (event : DomainEvent)
    (before after : Db) :
    Prop where
  users : after.users = before.users.replace (row.setAccount account)
  outbox : before.outbox.insert (eventRow io row.id event) = some after.outbox
  roleRequests : after.roleRequests = before.roleRequests
  loginAudit : after.loginAudit = before.loginAudit

theorem account_write (db : Db) (row : UserRow) (user : User) (loaded : Account) (shows : row.Shows user)
    (found : db.users.find row.id.text = some row) :
    ∃ next, db.write (userWrite (some (row.setAccount loaded)) user) = .ok next ∧
      next.users = db.users.replace (row.setAccount (Account.merge loaded user.account row.account)) ∧
      next.roleRequests = db.roleRequests ∧ next.outbox = db.outbox ∧ next.loginAudit = db.loginAudit := by
  have sameId : user.id = row.id.text := (congrArg User.id shows.settled).symm
  have target := changes_merge row user loaded row.account shows
  rw [set_account_self] at target
  obtain ⟨next, run⟩ :=
    replace_user_row_run (row.setAccount (Account.merge loaded user.account row.account)) row db found rfl
  have frame := Db.replace_user_row_ok _ db next run
  exact ⟨next, (Db.write_update_user user.id _ db next row (sameId ▸ found)).mpr ⟨_, target, run⟩, frame⟩

theorem account_flush (io : Surroundings) (db : Db) (row : UserRow) (user : User) (loaded : Account)
    (event : DomainEvent) (shows : row.Shows user) (found : db.users.find row.id.text = some row) (after : Db) :
    Db.flush (accountWrites io (row.setAccount loaded) user event) db = .ok after ↔
      Db.AccountCommitted io row (Account.merge loaded user.account row.account) event db after := by
  have sameId : user.id = row.id.text := (congrArg User.id shows.settled).symm
  obtain ⟨next, written, users, roleRequests, outbox, loginAudit⟩ := account_write db row user loaded shows found
  have last : Db.flush ((outboxDrafts io "User" user.id [event]).map .insertOutbox) next = .ok after ↔
      next.insertOutboxRow (eventRow io row.id event) = .ok after := by
    rw [sameId, outbox_drafts_single, List.map_singleton, Db.flush_cons]
    refine ⟨fun ⟨done, run, flushed⟩ => ?_, fun run => ⟨after, ?_, rfl⟩⟩
    · cases flushed
      obtain ⟨stored, isStored, inserted⟩ := (Db.write_insert_outbox _ next after).mp run
      rw [event_row_stored, Except.ok.injEq] at isStored
      exact isStored ▸ inserted
    · exact (Db.write_insert_outbox _ next after).mpr ⟨_, event_row_stored io row.id event, run⟩
  rw [accountWrites, Db.flush_cons]
  constructor
  · intro ⟨other, otherWritten, flushed⟩
    rw [written, Except.ok.injEq] at otherWritten
    subst otherWritten
    obtain ⟨inserted, sameUsers, sameRequests, sameAudit⟩ := (Db.insert_outbox_row_ok _ next after).mp (last.mp flushed)
    exact ⟨sameUsers.trans users, outbox ▸ inserted, sameRequests.trans roleRequests, sameAudit.trans loginAudit⟩
  · intro committed
    refine ⟨next, written, last.mpr ((Db.insert_outbox_row_ok _ next after).mpr ⟨?_, ?_, ?_, ?_⟩)⟩
    · rw [outbox, committed.outbox]
    · rw [committed.users, users]
    · rw [committed.roleRequests, roleRequests]
    · rw [committed.loginAudit, loginAudit]

theorem account_commits (io : Surroundings) (db : Db) (row : UserRow) (user : User) (loaded : Account)
    (event : DomainEvent) (shows : row.Shows user) (found : db.users.find row.id.text = some row) :
    (∃ after, Db.flush (accountWrites io (row.setAccount loaded) user event) db = .ok after) ↔
      (io.rowId 0).text ∉ db.outbox.keys := by
  constructor
  · intro ⟨after, run⟩
    have committed := (account_flush io db row user loaded event shows found after).mp run
    exact ((Table.insert_some_iff _ _ _).mp committed.outbox).1
  · intro fresh
    cases inserted : db.outbox.insert (eventRow io row.id event) with
    | none => exact absurd ((Table.insert_none_iff _ _).mp inserted) fresh
    | some outbox =>
        obtain ⟨next, _, users, roleRequests, _, loginAudit⟩ := account_write db row user loaded shows found
        exact ⟨{ next with outbox := outbox },
          (account_flush io db row user loaded event shows found _).mpr ⟨users, inserted, roleRequests, loginAudit⟩⟩

theorem account_replace (row : UserRow) (account : Account) (db after : Db)
    (found : db.users.find row.id.text = some row)
    (users : after.users = db.users.replace (row.setAccount account)) (id : String) :
    after.account id = if id = row.id.text then some account else db.account id := by
  rw [Db.account, users]
  by_cases same : id = row.id.text
  · subst same
    have present : key row ∈ db.users.keys := List.mem_map_of_mem (Table.find_mem _ _ row found)
    have here := Table.find_replace_same (row.setAccount account) db.users present
    rw [if_pos rfl]
    exact congrArg (Option.map UserRow.account) here
  · rw [if_neg same, Table.find_replace_other (row.setAccount account) db.users id same, Db.account]

end AuthProfile
