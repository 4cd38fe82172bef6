import AuthProfile.Db.Schema

set_option autoImplicit false

namespace AuthProfile

open Relation

theorem except_bind_ok {ε α β : Type} (first : Except ε α) (rest : α → Except ε β) (answer : β) :
    (first >>= rest) = .ok answer ↔ ∃ value, first = .ok value ∧ rest value = .ok answer := by
  cases first with
  | error error => exact ⟨(fun refused => nomatch refused), fun ⟨_, wrong, _⟩ => nomatch wrong⟩
  | ok value => exact ⟨fun run => ⟨value, rfl, run⟩, fun ⟨_, same, run⟩ => by cases same; exact run⟩

namespace Varchar

theorem store_option_ok (width : Nat) (column : String) (text : Option String) (stored : Option (Varchar width)) :
    storeOption width column text = .ok stored ↔
      (∀ given ∈ text, Takes width given) ∧ stored.map Varchar.text = text.map (cut width) := by
  cases text with
  | none =>
      rw [storeOption, Except.ok.injEq, Option.map_none, Option.map_eq_none_iff]
      exact ⟨fun same => ⟨(fun _ member => nomatch member), same.symm⟩, fun ⟨_, same⟩ => same.symm⟩
  | some text =>
      rw [storeOption, Option.map_some, Option.map_eq_some_iff]
      cases run : store width column text with
      | error error =>
          refine ⟨(fun refused => nomatch refused), fun ⟨takes, value, _, same⟩ => ?_⟩
          rw [(store_ok width column text value).mpr ⟨takes text rfl, same⟩] at run
          cases run
      | ok value =>
          obtain ⟨takes, same⟩ := (store_ok width column text value).mp run
          refine ⟨fun stored => ?_, fun ⟨_, other, isSome, otherSame⟩ => ?_⟩
          · cases stored
            refine ⟨fun given member => ?_, value, rfl, same⟩
            cases member
            exact takes
          · rw [isSome, ext width other value (otherSame.trans same.symm)]
            rfl

theorem change_ok (width : Nat) (column : String) (old stored : Varchar width) (text : String)
    (run : change width column old (changed old.text text) = .ok stored) :
    Takes width text ∧ stored.text = cut width text := by
  by_cases same : text = old.text
  · rw [changed, if_pos same, change, Except.ok.injEq] at run
    rw [same, run, cut_text]
    exact ⟨takes_fits width stored.text stored.fits, rfl⟩
  · rw [changed, if_neg same, change] at run
    exact (store_ok width column text stored).mp run

theorem cut_option_text (width : Nat) (stored : Option (Varchar width)) :
    (stored.map Varchar.text).map (cut width) = stored.map Varchar.text := by
  cases stored with
  | none => rfl
  | some value => exact congrArg some (cut_text width value)

theorem change_option_ok (width : Nat) (column : String) (old stored : Option (Varchar width)) (text : Option String) :
    changeOption width column old (changed (old.map Varchar.text) text) = .ok stored ↔
      (∀ given ∈ text, Takes width given) ∧ stored.map Varchar.text = text.map (cut width) := by
  by_cases same : text = old.map Varchar.text
  · have taken : ∀ given ∈ text, Takes width given := by
      intro given member
      rw [same, Option.mem_def, Option.map_eq_some_iff] at member
      obtain ⟨value, _, rfl⟩ := member
      exact takes_fits width value.text value.fits
    rw [changed, if_pos same, changeOption, Except.ok.injEq, same, cut_option_text]
    refine ⟨fun isOld => ⟨same ▸ taken, isOld ▸ rfl⟩, fun ⟨_, texts⟩ => ?_⟩
    exact (Option.map_injective (fun a b => ext width a b) texts).symm
  · rw [changed, if_neg same, changeOption]
    exact store_option_ok width column text stored

end Varchar

theorem changed_get_d {α : Type} [DecidableEq α] (old value : α) : (changed old value).getD old = value := by
  by_cases same : value = old
  · rw [changed, if_pos same, same]
    rfl
  · rw [changed, if_neg same]
    rfl

-- What of an aggregate is in the database: its texts as the columns have them, and
-- everything but the events it still holds.
def User.settled (user : User) : User :=
  { user with
    id := Varchar.cut 36 user.id
    email := Varchar.cut 255 user.email
    passwordHash := Varchar.cut 255 user.passwordHash
    displayName := Varchar.cut 64 user.displayName
    pendingEvents := [] }

def RoleRequest.settled (request : RoleRequest) : RoleRequest :=
  { request with
    id := Varchar.cut 36 request.id
    userId := Varchar.cut 36 request.userId
    decisionNote := request.decisionNote.map (Varchar.cut 512)
    decidedBy := request.decidedBy.map (Varchar.cut 36) }

-- What the columns of users take.
structure User.Taken (user : User) : Prop where
  id : Varchar.Takes 36 user.id
  email : Varchar.Takes 255 user.email
  passwordHash : Varchar.Takes 255 user.passwordHash
  displayName : Varchar.Takes 64 user.displayName

theorem user_row_store_ok (user : User) (row : UserRow) (run : UserRow.store user = .ok row) :
    user.Taken ∧ toDomainUser row = user.settled := by
  simp only [UserRow.store, except_bind_ok, Varchar.store_ok] at run
  obtain ⟨id, ⟨takesId, hId⟩, email, ⟨takesEmail, hEmail⟩, passwordHash, ⟨takesHash, hPasswordHash⟩, displayName,
    ⟨takesName, hDisplayName⟩, same⟩ := run
  cases same
  refine ⟨⟨takesId, takesEmail, takesHash, takesName⟩, ?_⟩
  simp only [toDomainUser, User.settled, hId, hEmail, hPasswordHash, hDisplayName]

theorem user_changes_ok (row stored : UserRow) (user : User) (sameId : user.id = row.id.text)
    (run : (UserChanges.between row user).apply row = .ok stored) :
    user.Taken ∧ toDomainUser stored = user.settled := by
  simp only [UserChanges.apply, UserChanges.between, except_bind_ok] at run
  obtain ⟨email, hEmail, passwordHash, hPasswordHash, displayName, hDisplayName, same⟩ := run
  cases same
  obtain ⟨takesEmail, emailText⟩ := Varchar.change_ok _ _ _ _ _ hEmail
  obtain ⟨takesHash, hashText⟩ := Varchar.change_ok _ _ _ _ _ hPasswordHash
  obtain ⟨takesName, nameText⟩ := Varchar.change_ok _ _ _ _ _ hDisplayName
  refine ⟨⟨sameId ▸ Varchar.takes_fits 36 _ row.id.fits, takesEmail, takesHash, takesName⟩, ?_⟩
  simp only [toDomainUser, User.settled, sameId, Varchar.cut_text, emailText, hashText, nameText, changed_get_d]

theorem role_request_row_store_ok (request : RoleRequest) (row : RoleRequestRow)
    (run : RoleRequestRow.store request = .ok row) : toDomainRoleRequest row = request.settled := by
  simp only [RoleRequestRow.store, except_bind_ok, Varchar.store_ok, Varchar.store_option_ok] at run
  obtain ⟨id, ⟨_, hId⟩, userId, ⟨_, hUserId⟩, decisionNote, ⟨_, hNote⟩, decidedBy, ⟨_, hDecidedBy⟩, same⟩ := run
  cases same
  simp only [toDomainRoleRequest, RoleRequest.settled, hId, hUserId, hNote, hDecidedBy]

theorem role_request_changes_ok (row stored : RoleRequestRow) (request : RoleRequest)
    (sameId : request.id = row.id.text) (run : (RoleRequestChanges.between row request).apply row = .ok stored) :
    toDomainRoleRequest stored = { request.settled with userId := row.userId.text } := by
  simp only [RoleRequestChanges.apply, RoleRequestChanges.between, except_bind_ok, Varchar.change_option_ok] at run
  obtain ⟨decisionNote, ⟨_, hNote⟩, decidedBy, ⟨_, hDecidedBy⟩, same⟩ := run
  cases same
  simp only [toDomainRoleRequest, RoleRequest.settled, sameId, Varchar.cut_text, changed_get_d, hNote, hDecidedBy]

theorem role_request_changes_keep (changes : RoleRequestChanges) (row stored : RoleRequestRow)
    (run : changes.apply row = .ok stored) : stored.id = row.id ∧ stored.userId = row.userId := by
  simp only [RoleRequestChanges.apply, except_bind_ok] at run
  obtain ⟨_, _, _, _, same⟩ := run
  cases same
  exact ⟨rfl, rfl⟩

def OutboxRow.draft (row : OutboxRow) : OutboxDraft :=
  ⟨row.id.text, row.aggregateType.text, row.aggregateId.text, row.topic.text, row.eventType.text, row.payload,
    row.createdAt⟩

def OutboxRow.unsent (row : OutboxRow) : Prop := row.dispatched = false ∧ row.dispatchedAt = none

def OutboxDraft.settled (draft : OutboxDraft) : OutboxDraft :=
  { draft with
    id := Varchar.cut 36 draft.id
    aggregateType := Varchar.cut 64 draft.aggregateType
    aggregateId := Varchar.cut 36 draft.aggregateId
    topic := Varchar.cut 128 draft.topic
    eventType := Varchar.cut 128 draft.eventType }

theorem outbox_row_store_ok (draft : OutboxDraft) (row : OutboxRow) (run : OutboxRow.store draft = .ok row) :
    row.draft = draft.settled ∧ row.unsent := by
  simp only [OutboxRow.store, except_bind_ok, Varchar.store_ok] at run
  obtain ⟨id, ⟨_, hId⟩, aggregateType, ⟨_, hType⟩, aggregateId, ⟨_, hAggregate⟩, topic, ⟨_, hTopic⟩, eventType,
    ⟨_, hEvent⟩, same⟩ := run
  cases same
  exact ⟨by simp only [OutboxRow.draft, OutboxDraft.settled, hId, hType, hAggregate, hTopic, hEvent], rfl, rfl⟩

namespace Db

structure KeepsAccounts (before after : Db) : Prop where
  users : after.users = before.users
  roleRequests : after.roleRequests = before.roleRequests

structure Appends (drafts : List OutboxDraft) (before after : Db) : Prop where
  rows : ∃ rows, after.outbox.rows = before.outbox.rows ++ rows ∧ rows.map OutboxRow.draft = drafts ∧
    ∀ row ∈ rows, row.unsent

theorem Appends.refl (db after : Db) (same : after.outbox = db.outbox) : Appends [] db after :=
  ⟨[], by rw [same, List.append_nil], rfl, fun _ member => nomatch member⟩

theorem Appends.trans (first second : List OutboxDraft) (a b c : Db) (ab : Appends first a b)
    (bc : Appends second b c) :
    Appends (first ++ second) a c := by
  obtain ⟨rowsAb, eqAb, draftsAb, unsentAb⟩ := ab.rows
  obtain ⟨rowsBc, eqBc, draftsBc, unsentBc⟩ := bc.rows
  refine ⟨rowsAb ++ rowsBc, by rw [eqBc, eqAb, List.append_assoc], by rw [List.map_append, draftsAb, draftsBc], ?_⟩
  intro row member
  rcases List.mem_append.mp member with inAb | inBc
  · exact unsentAb row inAb
  · exact unsentBc row inBc

theorem Appends.one (row : OutboxRow) (draft : OutboxDraft) (isDraft : row.draft = draft) (unsent : row.unsent)
    (db after : Db) (inserted : db.outbox.insert row = some after.outbox) : Appends [draft] db after := by
  refine ⟨[row], ((Table.insert_some_iff row db.outbox after.outbox).mp inserted).2,
    by rw [List.map_singleton, isDraft], ?_⟩
  intro other member
  cases List.mem_singleton.mp member
  exact unsent

theorem insert_user_row_ok (row : UserRow) (db after : Db) (run : db.insertUserRow row = .ok after) :
    db.users.insert row = some after.users ∧ after.roleRequests = db.roleRequests ∧ after.outbox = db.outbox ∧
      after.loginAudit = db.loginAudit := by
  simp only [insertUserRow] at run
  split at run
  · cases run
  · rename_i users inserted
    split at run
    · cases run
      exact ⟨inserted, rfl, rfl, rfl⟩
    · cases run

theorem replace_user_row_ok (row : UserRow) (db after : Db) (run : db.replaceUserRow row = .ok after) :
    after.users = db.users.replace row ∧ after.roleRequests = db.roleRequests ∧ after.outbox = db.outbox ∧
      after.loginAudit = db.loginAudit := by
  simp only [replaceUserRow] at run
  split at run
  · cases run
    exact ⟨rfl, rfl, rfl, rfl⟩
  · cases run

theorem insert_role_request_row_ok (row : RoleRequestRow) (db after : Db)
    (run : db.insertRoleRequestRow row = .ok after) :
    after.users = db.users ∧ db.roleRequests.insert row = some after.roleRequests ∧ after.outbox = db.outbox ∧
      after.loginAudit = db.loginAudit := by
  simp only [insertRoleRequestRow] at run
  split at run
  · cases run
  · rename_i roleRequests inserted
    split at run
    · cases run
      exact ⟨rfl, inserted, rfl, rfl⟩
    · cases run

theorem insert_outbox_row_ok (row : OutboxRow) (db after : Db) :
    db.insertOutboxRow row = .ok after ↔ db.outbox.insert row = some after.outbox ∧ after.users = db.users ∧
      after.roleRequests = db.roleRequests ∧ after.loginAudit = db.loginAudit := by
  rw [insertOutboxRow]
  cases inserted : db.outbox.insert row with
  | none => exact ⟨(fun refused => nomatch refused), fun ⟨wrong, _⟩ => nomatch wrong⟩
  | some outbox =>
      rw [Except.ok.injEq]
      refine ⟨fun same => same ▸ ⟨rfl, rfl, rfl, rfl⟩, fun ⟨outboxSame, users, roleRequests, loginAudit⟩ => ?_⟩
      exact Db.ext _ _ users.symm roleRequests.symm (Option.some.inj outboxSame) loginAudit.symm

theorem insert_login_audit_row_ok (row : LoginAuditRow) (db after : Db) (run : db.insertLoginAuditRow row = .ok after) :
    after.users = db.users ∧ after.roleRequests = db.roleRequests ∧ after.outbox = db.outbox := by
  simp only [insertLoginAuditRow] at run
  split at run
  · cases run
  · split at run
    · cases run
      exact ⟨rfl, rfl, rfl⟩
    · cases run

theorem write_insert_user (user : User) (db after : Db) :
    db.write (.insertUser user) = .ok after ↔ ∃ row, UserRow.store user = .ok row ∧ db.insertUserRow row = .ok after :=
  except_bind_ok _ _ after

theorem write_update_user (id : String) (changes : UserChanges) (db after : Db) (old : UserRow)
    (found : db.users.find id = some old) :
    db.write (.updateUser id changes) = .ok after ↔ ∃ row, changes.apply old = .ok row ∧
      db.replaceUserRow row = .ok after := by
  simp only [write, found]
  exact except_bind_ok _ _ after

theorem write_insert_role_request (request : RoleRequest) (db after : Db) :
    db.write (.insertRoleRequest request) = .ok after ↔
      ∃ row, RoleRequestRow.store request = .ok row ∧ db.insertRoleRequestRow row = .ok after :=
  except_bind_ok _ _ after

theorem write_insert_outbox (draft : OutboxDraft) (db after : Db) :
    db.write (.insertOutbox draft) = .ok after ↔ ∃ row, OutboxRow.store draft = .ok row ∧
      db.insertOutboxRow row = .ok after :=
  except_bind_ok _ _ after

theorem write_insert_login_audit (draft : LoginAuditDraft) (db after : Db) :
    db.write (.insertLoginAudit draft) = .ok after ↔
      ∃ row, LoginAuditRow.store draft = .ok row ∧ db.insertLoginAuditRow row = .ok after :=
  except_bind_ok _ _ after

-- An UPDATE of a role request never meets the foreign key: it keeps the requester.
theorem write_update_role_request (id : String) (changes : RoleRequestChanges) (db after : Db) (old : RoleRequestRow)
    (found : db.roleRequests.find id = some old) :
    db.write (.updateRoleRequest id changes) = .ok after ↔ ∃ row, changes.apply old = .ok row ∧
      after.users = db.users ∧ after.roleRequests = db.roleRequests.replace row ∧ after.outbox = db.outbox ∧
        after.loginAudit = db.loginAudit := by
  simp only [write, found, except_bind_ok]
  apply exists_congr
  intro row
  apply and_congr_right
  intro applied
  have kept : row.userId.text ∈ db.users.keys := by
    rw [(role_request_changes_keep changes old row applied).2]
    exact db.requesters old (Table.find_mem id db.roleRequests old found)
  simp only [dif_pos kept, Except.ok.injEq]
  refine ⟨fun same => same ▸ ⟨rfl, rfl, rfl, rfl⟩, fun ⟨users, roleRequests, outbox, loginAudit⟩ => ?_⟩
  exact Db.ext _ _ users.symm roleRequests.symm outbox.symm loginAudit.symm

-- What a statement that goes through does to the tables.
inductive Written (db after : Db) : Write → Prop where
  | userKept (id : String) (changes : UserChanges) (same : after = db) : Written db after (.updateUser id changes)
  | requestKept (id : String) (changes : RoleRequestChanges) (same : after = db) : Written db after
      (.updateRoleRequest id changes)
  | userInserted (user : User) (row : UserRow) (taken : user.Taken) (settled : toDomainUser row = user.settled)
      (users : db.users.insert row = some after.users) (roleRequests : after.roleRequests = db.roleRequests)
      (outbox : after.outbox = db.outbox) : Written db after (.insertUser user)
  | userUpdated (id : String) (changes : UserChanges) (old row : UserRow) (found : db.users.find id = some old)
      (applied : changes.apply old = .ok row) (users : after.users = db.users.replace row)
      (roleRequests : after.roleRequests = db.roleRequests) (outbox : after.outbox = db.outbox) : Written db after
        (.updateUser id changes)
  | requestInserted (request : RoleRequest) (row : RoleRequestRow) (settled : toDomainRoleRequest row = request.settled)
      (users : after.users = db.users) (roleRequests : db.roleRequests.insert row = some after.roleRequests)
        (outbox : after.outbox = db.outbox) :
      Written db after (.insertRoleRequest request)
  | requestUpdated (id : String) (changes : RoleRequestChanges) (row : RoleRequestRow) (users : after.users = db.users)
      (roleRequests : after.roleRequests = db.roleRequests.replace row) (outbox : after.outbox = db.outbox) :
      Written db after (.updateRoleRequest id changes)
  | outboxInserted (draft : OutboxDraft) (row : OutboxRow) (isDraft : row.draft = draft.settled) (unsent : row.unsent)
      (users : after.users = db.users) (roleRequests : after.roleRequests = db.roleRequests)
      (outbox : db.outbox.insert row = some after.outbox) : Written db after (.insertOutbox draft)
  | auditInserted (draft : LoginAuditDraft) (users : after.users = db.users)
      (roleRequests : after.roleRequests = db.roleRequests)
      (outbox : after.outbox = db.outbox) : Written db after (.insertLoginAudit draft)

theorem write_written (one : Write) (db after : Db) (run : db.write one = .ok after) : Written db after one := by
  cases one with
  | insertUser user =>
      obtain ⟨row, stored, inserted⟩ := (write_insert_user user db after).mp run
      obtain ⟨users, roleRequests, outbox, _⟩ := insert_user_row_ok row db after inserted
      obtain ⟨taken, settled⟩ := user_row_store_ok user row stored
      exact .userInserted user row taken settled users roleRequests outbox
  | updateUser id changes =>
      cases found : db.users.find id with
      | none =>
          simp only [write, found] at run
          split at run
          · cases run
            exact .userKept id changes rfl
          · cases run
      | some old =>
          obtain ⟨row, applied, replaced⟩ := (write_update_user id changes db after old found).mp run
          obtain ⟨users, roleRequests, outbox, _⟩ := replace_user_row_ok row db after replaced
          exact .userUpdated id changes old row found applied users roleRequests outbox
  | insertRoleRequest request =>
      obtain ⟨row, stored, inserted⟩ := (write_insert_role_request request db after).mp run
      obtain ⟨users, roleRequests, outbox, _⟩ := insert_role_request_row_ok row db after inserted
      exact .requestInserted request row (role_request_row_store_ok request row stored) users roleRequests outbox
  | updateRoleRequest id changes =>
      cases found : db.roleRequests.find id with
      | none =>
          simp only [write, found] at run
          split at run
          · cases run
            exact .requestKept id changes rfl
          · cases run
      | some old =>
          obtain ⟨row, _, users, roleRequests, outbox, _⟩ :=
            (write_update_role_request id changes db after old found).mp run
          exact .requestUpdated id changes row users roleRequests outbox
  | insertOutbox draft =>
      obtain ⟨row, stored, inserted⟩ := (write_insert_outbox draft db after).mp run
      obtain ⟨outbox, users, roleRequests, _⟩ := (insert_outbox_row_ok row db after).mp inserted
      obtain ⟨isDraft, unsent⟩ := outbox_row_store_ok draft row stored
      exact .outboxInserted draft row isDraft unsent users roleRequests outbox
  | insertLoginAudit draft =>
      obtain ⟨row, _, inserted⟩ := (write_insert_login_audit draft db after).mp run
      obtain ⟨users, roleRequests, outbox⟩ := insert_login_audit_row_ok row db after inserted
      exact .auditInserted draft users roleRequests outbox

theorem flush_cons (first : Write) (rest : List Write) (db after : Db) :
    flush (first :: rest) db = .ok after ↔ ∃ next, db.write first = .ok next ∧ flush rest next = .ok after :=
  except_bind_ok _ _ after

-- What every statement of a unit of work keeps, the unit of work keeps.
theorem flush_keeps (inv : Db → Prop) (may : Write → Prop)
    (keeps : ∀ one db after, may one → db.write one = .ok after → inv db → inv after) (writes : List Write)
    (db after : Db)
    (allowed : ∀ one ∈ writes, may one) (run : flush writes db = .ok after) (holds : inv db) : inv after := by
  induction writes generalizing db with
  | nil =>
      cases run
      exact holds
  | cons first rest ih =>
      obtain ⟨next, written, flushed⟩ := (flush_cons first rest db after).mp run
      have nextHolds := keeps first db next (allowed first (List.mem_cons_self ..)) written holds
      exact ih next (fun one member => allowed one (List.mem_cons_of_mem _ member)) flushed nextHolds

theorem flush_login_audit (draft : LoginAuditDraft) (db after : Db)
    (run : flush [.insertLoginAudit draft] db = .ok after) :
    after.users = db.users ∧ after.roleRequests = db.roleRequests ∧ after.outbox = db.outbox := by
  obtain ⟨next, written, isNext⟩ := (flush_cons _ [] db after).mp run
  cases isNext
  obtain ⟨row, _, inserted⟩ := (write_insert_login_audit draft db after).mp written
  exact insert_login_audit_row_ok row db after inserted

theorem flush_outbox (drafts : List OutboxDraft) (db after : Db)
    (run : flush (drafts.map .insertOutbox) db = .ok after) :
    Appends (drafts.map OutboxDraft.settled) db after ∧ KeepsAccounts db after := by
  induction drafts generalizing db with
  | nil =>
      cases run
      exact ⟨Appends.refl _ _ rfl, rfl, rfl⟩
  | cons draft drafts ih =>
      rw [List.map_cons, flush_cons] at run
      obtain ⟨next, written, flushed⟩ := run
      obtain ⟨appended, kept⟩ := ih next flushed
      cases write_written (.insertOutbox draft) db next written with
      | outboxInserted _ row isDraft unsent users roleRequests outbox =>
          have here := Appends.one row draft.settled isDraft unsent db next outbox
          exact ⟨Appends.trans [draft.settled] _ db next after here appended, kept.users.trans users,
            kept.roleRequests.trans roleRequests⟩

end Db

-- The database raises errors of its own, never one of the domain.
def Foreign {α : Type} (answer : Except Error α) : Prop := ∀ error, answer ≠ .error (.domain error)

theorem foreign_ok {α : Type} (value : α) : Foreign (.ok value : Except Error α) := fun _ wrong => nomatch wrong

theorem foreign_bind {α β : Type} (first : Except Error α) (rest : α → Except Error β) (firstForeign : Foreign first)
    (restForeign : ∀ value, Foreign (rest value)) : Foreign (first >>= rest) := by
  cases first with
  | ok value => exact restForeign value
  | error error => exact fun domainError wrong => firstForeign domainError (by cases wrong; rfl)

theorem foreign_map {α β : Type} (answer : Except Error α) (f : α → β) (foreign : Foreign answer) :
    Foreign (answer.map f) := by
  cases answer with
  | ok value => exact foreign_ok _
  | error error => exact fun domainError wrong => foreign domainError (by cases wrong; rfl)

theorem store_foreign (width : Nat) (column text : String) : Foreign (Varchar.store width column text) := by
  rw [Varchar.store]
  split
  · exact foreign_ok _
  · intro _ wrong
    cases wrong

theorem store_option_foreign (width : Nat) (column : String) (text : Option String) :
    Foreign (Varchar.storeOption width column text) := by
  cases text with
  | none => exact foreign_ok _
  | some text => exact foreign_map _ _ (store_foreign width column text)

theorem change_foreign (width : Nat) (column : String) (old : Varchar width) (text : Option String) :
    Foreign (Varchar.change width column old text) := by
  cases text with
  | none => exact foreign_ok _
  | some text => exact store_foreign width column text

theorem change_option_foreign (width : Nat) (column : String) (old : Option (Varchar width))
    (text : Option (Option String)) :
    Foreign (Varchar.changeOption width column old text) := by
  cases text with
  | none => exact foreign_ok _
  | some text => exact store_option_foreign width column text

theorem user_row_store_foreign (user : User) : Foreign (UserRow.store user) := by
  refine foreign_bind _ _ (store_foreign _ _ _) fun _ => foreign_bind _ _ (store_foreign _ _ _) fun _ => ?_
  exact foreign_bind _ _ (store_foreign _ _ _) fun _ => foreign_bind _ _ (store_foreign _ _ _) fun _ => foreign_ok _

theorem user_changes_foreign (changes : UserChanges) (row : UserRow) : Foreign (changes.apply row) := by
  refine foreign_bind _ _ (change_foreign _ _ _ _) fun _ => foreign_bind _ _ (change_foreign _ _ _ _) fun _ => ?_
  exact foreign_bind _ _ (change_foreign _ _ _ _) fun _ => foreign_ok _

theorem role_request_row_store_foreign (request : RoleRequest) : Foreign (RoleRequestRow.store request) := by
  refine foreign_bind _ _ (store_foreign _ _ _) fun _ => foreign_bind _ _ (store_foreign _ _ _) fun _ => ?_
  exact foreign_bind _ _ (store_option_foreign _ _ _) fun _ => foreign_bind _ _ (store_option_foreign _ _ _)
    fun _ => foreign_ok _

theorem role_request_changes_foreign (changes : RoleRequestChanges) (row : RoleRequestRow) :
    Foreign (changes.apply row) :=
  foreign_bind _ _ (change_option_foreign _ _ _ _) fun _ =>
    foreign_bind _ _ (change_option_foreign _ _ _ _) fun _ => foreign_ok _

theorem outbox_row_store_foreign (draft : OutboxDraft) : Foreign (OutboxRow.store draft) := by
  refine foreign_bind _ _ (store_foreign _ _ _) fun _ => foreign_bind _ _ (store_foreign _ _ _) fun _ => ?_
  refine foreign_bind _ _ (store_foreign _ _ _) fun _ => foreign_bind _ _ (store_foreign _ _ _) fun _ => ?_
  exact foreign_bind _ _ (store_foreign _ _ _) fun _ => foreign_ok _

theorem login_audit_row_store_foreign (draft : LoginAuditDraft) : Foreign (LoginAuditRow.store draft) := by
  refine foreign_bind _ _ (store_foreign _ _ _) fun _ => foreign_bind _ _ (store_option_foreign _ _ _) fun _ => ?_
  exact foreign_bind _ _ (store_foreign _ _ _) fun _ => foreign_ok _

namespace Db

theorem insert_user_row_foreign (row : UserRow) (db : Db) : Foreign (db.insertUserRow row) := by
  rw [insertUserRow]
  split
  · exact fun _ wrong => nomatch wrong
  · split
    · exact foreign_ok _
    · exact fun _ wrong => nomatch wrong

theorem replace_user_row_foreign (row : UserRow) (db : Db) : Foreign (db.replaceUserRow row) := by
  rw [replaceUserRow]
  split
  · exact foreign_ok _
  · exact fun _ wrong => nomatch wrong

theorem insert_role_request_row_foreign (row : RoleRequestRow) (db : Db) : Foreign (db.insertRoleRequestRow row) := by
  rw [insertRoleRequestRow]
  split
  · exact fun _ wrong => nomatch wrong
  · split
    · exact foreign_ok _
    · exact fun _ wrong => nomatch wrong

theorem insert_outbox_row_foreign (row : OutboxRow) (db : Db) : Foreign (db.insertOutboxRow row) := by
  rw [insertOutboxRow]
  split
  · exact fun _ wrong => nomatch wrong
  · exact foreign_ok _

theorem insert_login_audit_row_foreign (row : LoginAuditRow) (db : Db) : Foreign (db.insertLoginAuditRow row) := by
  rw [insertLoginAuditRow]
  split
  · exact fun _ wrong => nomatch wrong
  · split
    · exact foreign_ok _
    · exact fun _ wrong => nomatch wrong

theorem write_foreign (db : Db) (one : Write) : Foreign (db.write one) := by
  cases one with
  | insertUser user => exact foreign_bind _ _ (user_row_store_foreign user) fun row => insert_user_row_foreign row db
  | updateUser id changes =>
      simp only [write]
      split
      · split
        · exact foreign_ok _
        · exact fun _ wrong => nomatch wrong
      · exact foreign_bind _ _ (user_changes_foreign changes _) fun row => replace_user_row_foreign row db
  | insertRoleRequest request =>
      exact foreign_bind _ _ (role_request_row_store_foreign request) fun row => insert_role_request_row_foreign row db
  | updateRoleRequest id changes =>
      simp only [write]
      split
      · split
        · exact foreign_ok _
        · exact fun _ wrong => nomatch wrong
      · refine foreign_bind _ _ (role_request_changes_foreign changes _) fun row => ?_
        split
        · exact foreign_ok _
        · exact fun _ wrong => nomatch wrong
  | insertOutbox draft => exact foreign_bind _ _ (outbox_row_store_foreign draft) fun row =>
      insert_outbox_row_foreign row db
  | insertLoginAudit draft =>
      exact foreign_bind _ _ (login_audit_row_store_foreign draft) fun row => insert_login_audit_row_foreign row db

theorem flush_foreign (writes : List Write) (db : Db) : Foreign (flush writes db) := by
  induction writes generalizing db with
  | nil => exact foreign_ok _
  | cons first rest ih => exact foreign_bind _ _ (write_foreign db first) fun next => ih next

end Db

end AuthProfile
