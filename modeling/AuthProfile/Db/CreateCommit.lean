import AuthProfile.Db.AccountCommit

set_option autoImplicit false

namespace AuthProfile

open Relation Process

theorem user_row_stored (user : User) (row : UserRow) :
    UserRow.store user = .ok row ↔ user.Taken ∧ toDomainUser row = user.settled := by
  constructor
  · exact user_row_store_ok user row
  · intro ⟨⟨id, email, passwordHash, displayName⟩, same⟩
    have role : row.role = user.role := congrArg User.role same
    have state : row.state = user.state := congrArg User.state same
    have createdAt : row.createdAt = user.createdAt := congrArg User.createdAt same
    simp only [UserRow.store, (Varchar.store_ok _ _ _ _).mpr ⟨id, congrArg User.id same⟩,
      (Varchar.store_ok _ _ _ _).mpr ⟨email, congrArg User.email same⟩,
      (Varchar.store_ok _ _ _ _).mpr ⟨passwordHash, congrArg User.passwordHash same⟩,
      (Varchar.store_ok _ _ _ _).mpr ⟨displayName, congrArg User.displayName same⟩, ← role, ← state, ← createdAt]
    rfl

theorem user_row_stores (user : User) (taken : user.Taken) : ∃ row, UserRow.store user = .ok row := by
  obtain ⟨id, email, passwordHash, displayName⟩ := taken
  rw [UserRow.store, Varchar.store, dif_pos id, Varchar.store, dif_pos email, Varchar.store, dif_pos passwordHash,
    Varchar.store,
    dif_pos displayName]
  exact ⟨_, rfl⟩

theorem insert_user_row_iff (row : UserRow) (db after : Db) :
    db.insertUserRow row = .ok after ↔ db.users.insert row = some after.users ∧
      row.email ∉ db.users.rows.map UserRow.email ∧
      after.roleRequests = db.roleRequests ∧ after.outbox = db.outbox ∧ after.loginAudit = db.loginAudit := by
  have grown : ∀ users, db.users.insert row = some users →
      ((users.rows.map UserRow.email).Nodup ↔ row.email ∉ db.users.rows.map UserRow.email) := by
    intro users inserted
    rw [((Table.insert_some_iff row _ _).mp inserted).2, List.map_append, List.map_singleton, List.nodup_append_comm,
      List.singleton_append, List.nodup_cons]
    exact and_iff_left db.uniqueEmail
  constructor
  · intro run
    obtain ⟨inserted, frame⟩ := Db.insert_user_row_ok row db after run
    exact ⟨inserted, (grown _ inserted).mp after.uniqueEmail, frame⟩
  · intro ⟨inserted, unique, roleRequests, outbox, loginAudit⟩
    simp only [Db.insertUserRow]
    split
    · rename_i refused
      rw [inserted] at refused
      cases refused
    · rename_i users added
      rw [dif_pos ((grown users added).mpr unique), Except.ok.injEq]
      rw [inserted] at added
      exact Db.ext _ _ (Option.some.inj added).symm roleRequests.symm outbox.symm loginAudit.symm

theorem insert_user_row_runs (row : UserRow) (db : Db) (fresh : row.id.text ∉ db.users.keys)
    (unique : row.email ∉ db.users.rows.map UserRow.email) : ∃ after, db.insertUserRow row = .ok after := by
  cases inserted : db.users.insert row with
  | none => exact absurd ((Table.insert_none_iff row _).mp inserted) fresh
  | some users =>
      have distinct : (users.rows.map UserRow.email).Nodup := by
        rw [((Table.insert_some_iff row _ _).mp inserted).2, List.map_append, List.map_singleton,
          List.nodup_append_comm,
          List.singleton_append, List.nodup_cons]
        exact ⟨unique, db.uniqueEmail⟩
      let after : Db := { db with
        users := users
        uniqueEmail := distinct
        requesters := fun request member =>
          (Table.mem_keys_inserted row _ _ inserted _).mpr (Or.inl (db.requesters request member)) }
      exact ⟨after, (insert_user_row_iff row db after).mpr ⟨inserted, unique, rfl, rfl, rfl⟩⟩

-- The transaction that saves a new account.
def createWrites (io : Surroundings) (user : User) (event : DomainEvent) : List Write :=
  userWrite none user :: (outboxDrafts io "User" user.id [event]).map .insertOutbox

structure Db.AccountCreated (io : Surroundings) (row : UserRow) (event : DomainEvent) (before after : Db) : Prop where
  users : before.users.insert row = some after.users
  unique : row.email ∉ before.users.rows.map UserRow.email
  outbox : before.outbox.insert (eventRow io row.id event) = some after.outbox
  roleRequests : after.roleRequests = before.roleRequests
  loginAudit : after.loginAudit = before.loginAudit

section Create

variable (io : Surroundings) (db : Db) (row : UserRow) (user : User) (event : DomainEvent)

theorem create_flush (stored : UserRow.store user = .ok row) (short : user.id.length ≤ 36) (after : Db) :
    Db.flush (createWrites io user event) db = .ok after ↔ Db.AccountCreated io row event db after := by
  have sameId : user.id = row.id.text := (user_row_key row user short (user_row_store_ok user row stored).2).symm
  rw [createWrites, userWrite, sameId, outbox_drafts_single, List.map_singleton, Db.flush_cons]
  constructor
  · rintro ⟨next, written, flushed⟩
    obtain ⟨inserted, isInserted, run⟩ := (Db.write_insert_user user db next).mp written
    rw [stored, Except.ok.injEq] at isInserted
    subst isInserted
    obtain ⟨users, unique, roleRequests, outbox, loginAudit⟩ := (insert_user_row_iff row db next).mp run
    obtain ⟨last, added, isLast⟩ := (Db.flush_cons _ [] next after).mp flushed
    cases isLast
    obtain ⟨kept, isKept, appended⟩ := (Db.write_insert_outbox _ next after).mp added
    rw [event_row_stored, Except.ok.injEq] at isKept
    subst isKept
    obtain ⟨grown, sameUsers, sameRequests, sameAudit⟩ := (Db.insert_outbox_row_ok _ next after).mp appended
    exact ⟨by rw [sameUsers, users], unique, by rw [← outbox, grown], sameRequests.trans roleRequests,
      sameAudit.trans loginAudit⟩
  · intro created
    have fresh := ((Table.insert_some_iff row _ _).mp created.users).1
    obtain ⟨next, run⟩ := insert_user_row_runs row db fresh created.unique
    obtain ⟨inserted, _, roleRequests, outbox, loginAudit⟩ := (insert_user_row_iff row db next).mp run
    have users : after.users = next.users := Option.some.inj (created.users.symm.trans inserted)
    have written : db.write (.insertUser user) = .ok next := (Db.write_insert_user user db next).mpr ⟨row, stored, run⟩
    have appended : next.write (.insertOutbox (eventRow io row.id event).draft) = .ok after :=
      (Db.write_insert_outbox _ next after).mpr ⟨_, event_row_stored io row.id event,
        (Db.insert_outbox_row_ok _ next after).mpr
        ⟨outbox ▸ created.outbox, users, created.roleRequests.trans roleRequests.symm,
          created.loginAudit.trans loginAudit.symm⟩⟩
    exact ⟨next, written, (Db.flush_cons _ [] next after).mpr ⟨after, appended, rfl⟩⟩

theorem emails_of_texts (email : Varchar 255) :
    email ∉ db.users.rows.map UserRow.email ↔ ∀ other ∈ db.users.rows, other.email.text ≠ email.text := by
  simp only [List.mem_map, not_exists, not_and]
  constructor
  · exact fun absent other member same => absent other member (Varchar.ext 255 _ _ same)
  · exact fun absent other member same => absent other member (congrArg Varchar.text same)

theorem create_commits (short : user.id.length ≤ 36) :
    (∃ after, Db.flush (createWrites io user event) db = .ok after) ↔
      user.Taken ∧ user.id ∉ db.users.keys ∧ (∀ other ∈ db.users.rows, other.email.text ≠ Varchar.cut 255 user.email) ∧
        (io.rowId 0).text ∉ db.outbox.keys := by
  constructor
  · intro ⟨after, run⟩
    obtain ⟨next, written, _⟩ := (Db.flush_cons _ _ db after).mp run
    obtain ⟨row, stored, _⟩ := (Db.write_insert_user user db next).mp written
    obtain ⟨taken, same⟩ := (user_row_stored user row).mp stored
    obtain ⟨users, unique, outbox, _, _⟩ := (create_flush io db row user event stored short after).mp run
    have isId : row.id.text = user.id := user_row_key row user short same
    have isEmail : row.email.text = Varchar.cut 255 user.email := congrArg User.email same
    refine ⟨taken, ?_, ?_, ((Table.insert_some_iff _ _ _).mp outbox).1⟩
    · exact isId ▸ ((Table.insert_some_iff _ _ _).mp users).1
    · exact isEmail ▸ (emails_of_texts db row.email).mp unique
  · intro ⟨taken, fresh, unique, freshRow⟩
    obtain ⟨row, stored⟩ := user_row_stores user taken
    have same := (user_row_store_ok user row stored).2
    have isId : row.id.text = user.id := user_row_key row user short same
    have isEmail : row.email.text = Varchar.cut 255 user.email := congrArg User.email same
    have newEmail : row.email ∉ db.users.rows.map UserRow.email := (emails_of_texts db row.email).mpr (isEmail ▸ unique)
    obtain ⟨next, run⟩ := insert_user_row_runs row db (fun known => fresh (isId ▸ known)) newEmail
    obtain ⟨added, _, roleRequests, sameOutbox, loginAudit⟩ := (insert_user_row_iff row db next).mp run
    cases appended : db.outbox.insert (eventRow io row.id event) with
    | none => exact absurd ((Table.insert_none_iff _ _).mp appended) freshRow
    | some outbox =>
        exact ⟨{ next with outbox := outbox },
          (create_flush io db row user event stored short _).mpr ⟨added, newEmail, appended, roleRequests, loginAudit⟩⟩

end Create

end AuthProfile
