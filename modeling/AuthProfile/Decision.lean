import AuthProfile.Db.AccountCommit
import AuthProfile.UseCases.Auth

set_option autoImplicit false

namespace AuthProfile

open Relation Process UserRepository

-- What the surroundings do to the nth database call of a use case.
def faultAt (script : List Fault) (n : Nat) : Fault := script.getD n .none

theorem fault_head (script : List Fault) : script.headD .none = faultAt script 0 := by
  cases script <;> rfl

theorem fault_tail (script : List Fault) (n : Nat) : faultAt script.tail n = faultAt script (n + 1) := by
  cases script <;> rfl

theorem commit_ok (writes : List Write) (script : List Fault) (db after : Db) (run : Db.flush writes db = .ok after) :
    (commit writes).exec script db =
      match faultAt script 0 with
      | .none => ⟨.ok (), script.tail, after⟩
      | .before => ⟨.error .connection, script.tail, db⟩
      | .after => ⟨.error .connection, script.tail, after⟩ := by
  have body : (Db.flush writes db).map (fun after => ((), after)) = .ok ((), after) := by
    rw [run]
    rfl
  rw [← fault_head]
  exact Prog.exec_atomic_ok _ _ script db after () body

theorem commit_error (writes : List Write) (script : List Fault) (db : Db) (error : Error)
    (run : Db.flush writes db = .error error) :
    (commit writes).exec script db =
      ⟨.error (if faultAt script 0 = .none then error else .connection), script.tail, db⟩ := by
  have body : (Db.flush writes db).map (fun after => ((), after)) = .error error := by
    rw [run]
    rfl
  rw [← fault_head]
  exact Prog.exec_atomic_error _ error _ script db body

section Grant

variable (io : Surroundings) (request : RoleRequest) (decidedBy : String) (row : UserRow)
    (script : List Fault) (db : Db)

def grantEvent (row : UserRow) (request : RoleRequest) (decidedBy : String) : DomainEvent :=
  .roleGranted row.id.text row.role.value request.requestedRole.value decidedBy

theorem change_role_shows (row : UserRow) (newRole : Role) (grantedBy : String) :
    row.Shows ((toDomainUser row).changeRole newRole grantedBy).pullEvents.2 := ⟨rfl⟩

theorem change_role_legal (row : UserRow) (newRole : Role) (grantedBy : String) :
    Legal [((toDomainUser row).changeRole newRole grantedBy).pullEvents.2.id] := legal_one row.id.text row.id.fits.2

structure GrantCommits (io : Surroundings) (script : List Fault) (db : Db) : Prop where
  read : faultAt script 0 = .none
  reread : faultAt script 1 = .none
  committed : faultAt script 2 ≠ .before
  fresh : (io.rowId 0).text ∉ db.outbox.keys

instance (io : Surroundings) (script : List Fault) (db : Db) : Decidable (GrantCommits io script db) :=
  decidable_of_iff
    (faultAt script 0 = .none ∧ faultAt script 1 = .none ∧ faultAt script 2 ≠ .before ∧
      (io.rowId 0).text ∉ db.outbox.keys)
    ⟨fun ⟨read, reread, committed, fresh⟩ => ⟨read, reread, committed, fresh⟩,
      fun ⟨read, reread, committed, fresh⟩ => ⟨read, reread, committed, fresh⟩⟩

theorem grant_requested_eq (found : db.users.find request.userId = some row) (read : faultAt script 0 = .none)
    (reread : faultAt script 1 = .none) :
    (grantRequested io request decidedBy).exec script db =
      (commit (accountWrites io row ((toDomainUser row).changeRole request.requestedRole decidedBy).pullEvents.2
        (grantEvent row request decidedBy))).exec script.tail.tail db := by
  have isRequester : row.id.text = request.userId := Table.find_key _ db.users row found
  have legal := legal_one request.userId (isRequester ▸ row.id.fits.2)
  rw [grantRequested, getUserById, bind_assoc, exec_select_bind _ _ _ _ legal, fault_head, if_pos read, found]
  simp only [Option.map_some, pure_bind]
  rw [saveUser, exec_select_bind _ _ _ _ (change_role_legal row _ _), fault_head, fault_tail, if_pos reread]
  have again : db.users.find ((toDomainUser row).changeRole request.requestedRole decidedBy).pullEvents.2.id =
      some row :=
    (congrArg (fun id => db.users.find id) isRequester).trans found
  rw [again]
  rfl

theorem grant_refused (found : db.users.find request.userId = some row) (refused : ¬ GrantCommits io script db) :
    ∃ error, ((grantRequested io request decidedBy).exec script db).result = .error error ∧
      ((grantRequested io request decidedBy).exec script db).store = db := by
  have isRequester : row.id.text = request.userId := Table.find_key _ db.users row found
  have legal := legal_one request.userId (isRequester ▸ row.id.fits.2)
  by_cases read : faultAt script 0 = .none
  · by_cases reread : faultAt script 1 = .none
    · rw [grant_requested_eq io request decidedBy row script db found read reread]
      have self : db.users.find row.id.text = some row := isRequester ▸ found
      have commits := account_commits io db row _ row.account (grantEvent row request decidedBy)
        (change_role_shows row request.requestedRole decidedBy) self
      cases run : Db.flush (accountWrites io row
        ((toDomainUser row).changeRole request.requestedRole decidedBy).pullEvents.2
          (grantEvent row request decidedBy)) db with
      | error error =>
          rw [commit_error _ _ db error run]
          exact ⟨_, rfl, rfl⟩
      | ok after =>
          have fresh := commits.mp ⟨after, run⟩
          have notCommitted : faultAt script 2 = .before := by
            by_contra committed
            exact refused ⟨read, reread, committed, fresh⟩
          rw [commit_ok _ _ db after run, fault_tail, fault_tail, notCommitted]
          exact ⟨_, rfl, rfl⟩
    · rw [grantRequested, getUserById, bind_assoc, exec_select_bind _ _ _ _ legal, fault_head, if_pos read, found]
      simp only [Option.map_some, pure_bind]
      rw [saveUser, exec_select_bind _ _ _ _ (change_role_legal row _ _), fault_head, fault_tail, if_neg reread]
      exact ⟨_, rfl, rfl⟩
  · rw [grantRequested, getUserById, bind_assoc, exec_select_bind _ _ _ _ legal, fault_head, if_neg read]
    exact ⟨_, rfl, rfl⟩

theorem grant_commits (found : db.users.find request.userId = some row) (commits : GrantCommits io script db) :
    ∃ after, Db.AccountCommitted io row ⟨request.requestedRole, row.state⟩ (grantEvent row request decidedBy) db after ∧
      (grantRequested io request decidedBy).exec script db =
        ⟨if faultAt script 2 = .none then .ok () else .error .connection, script.tail.tail.tail, after⟩ := by
  have isRequester : row.id.text = request.userId := Table.find_key _ db.users row found
  have self : db.users.find row.id.text = some row := isRequester ▸ found
  have shows := change_role_shows row request.requestedRole decidedBy
  obtain ⟨after, run⟩ :=
    (account_commits io db row _ row.account (grantEvent row request decidedBy) shows self).mpr commits.fresh
  have committed := (account_flush io db row _ row.account (grantEvent row request decidedBy) shows self after).mp run
  rw [merge_self] at committed
  rw [set_account_self] at run
  refine ⟨after, committed, ?_⟩
  rw [grant_requested_eq io request decidedBy row script db found commits.read commits.reread,
    commit_ok _ _ db after run]
  have last := commits.committed
  rw [fault_tail, fault_tail]
  cases at2 : faultAt script 2 with
  | none => rfl
  | before => exact absurd at2 last
  | after => rfl

end Grant

section Request

variable (io : Surroundings) (row : RoleRequestRow) (status : RoleRequestStatus) (decidedBy note : String)
  (script : List Fault) (db : Db)

def decidedRequest (row : RoleRequestRow) (status : RoleRequestStatus) (decidedBy note : String) : RoleRequest :=
  { toDomainRoleRequest row with status := status, decidedBy := some decidedBy, decisionNote := some note }

theorem decided_legal (row : RoleRequestRow) (status : RoleRequestStatus) (decidedBy note : String) :
    Legal [(decidedRequest row status decidedBy note).id] := legal_one row.id.text row.id.fits.2

theorem decided_key (row stored : RoleRequestRow) (status : RoleRequestStatus) (decidedBy note : String)
    (isDecided : toDomainRoleRequest stored = (decidedRequest row status decidedBy note).settled) :
    stored.id.text = row.id.text :=
  (congrArg RoleRequest.id isDecided).trans (Varchar.cut_text 36 row.id)

structure Db.RequestDecided (row : RoleRequestRow) (status : RoleRequestStatus) (decidedBy note : String)
    (before after : Db) :
    Prop where
  stored : ∃ stored, toDomainRoleRequest stored = (decidedRequest row status decidedBy note).settled ∧
    after.roleRequests = before.roleRequests.replace stored
  users : after.users = before.users
  outbox : after.outbox = before.outbox

-- The columns of the request take the note and the decider's id.
structure DecisionTaken (decidedBy note : String) : Prop where
  note : Varchar.Takes 512 note
  decider : Varchar.Takes 36 decidedBy

theorem request_changes (stored : RoleRequestRow) :
    (RoleRequestChanges.between row (decidedRequest row status decidedBy note)).apply row = .ok stored ↔
      DecisionTaken decidedBy note ∧
        toDomainRoleRequest stored = (decidedRequest row status decidedBy note).settled := by
  have rowId : Varchar.cut 36 row.id.text = row.id.text := Varchar.cut_text 36 row.id
  have rowUser : Varchar.cut 36 row.userId.text = row.userId.text := Varchar.cut_text 36 row.userId
  constructor
  · intro run
    have same := role_request_changes_ok row stored (decidedRequest row status decidedBy note) rfl run
    simp only [RoleRequestChanges.apply, RoleRequestChanges.between, except_bind_ok, Varchar.change_option_ok] at run
    obtain ⟨_, ⟨noteTaken, _⟩, _, ⟨deciderTaken, _⟩, _⟩ := run
    refine ⟨⟨noteTaken note rfl, deciderTaken decidedBy rfl⟩, same.trans ?_⟩
    simp only [RoleRequest.settled, decidedRequest, toDomainRoleRequest, rowUser]
  · rintro ⟨taken, same⟩
    have id : stored.id = row.id := Varchar.ext 36 _ _ ((congrArg RoleRequest.id same).trans rowId)
    have userId : stored.userId = row.userId := Varchar.ext 36 _ _ ((congrArg RoleRequest.userId same).trans rowUser)
    have requestedRole : stored.requestedRole = row.requestedRole := congrArg RoleRequest.requestedRole same
    have createdAt : stored.createdAt = row.createdAt := congrArg RoleRequest.createdAt same
    have noteTaken : ∀ given ∈ some note, Varchar.Takes 512 given :=
      fun given member => Option.some.inj member ▸ taken.note
    have deciderTaken : ∀ given ∈ some decidedBy, Varchar.Takes 36 given := fun given member =>
      Option.some.inj member ▸ taken.decider
    simp only [RoleRequestChanges.apply, RoleRequestChanges.between, except_bind_ok, Varchar.change_option_ok]
    refine ⟨stored.decisionNote, ⟨noteTaken, congrArg RoleRequest.decisionNote same⟩, stored.decidedBy,
      ⟨deciderTaken, congrArg RoleRequest.decidedBy same⟩, ?_⟩
    have newStatus : stored.status = status := congrArg RoleRequest.status same
    simp only [changed_get_d, decidedRequest, toDomainRoleRequest, ← id, ← userId, ← requestedRole,
      ← createdAt, ← newStatus]
    rfl

theorem request_flush (found : db.roleRequests.find row.id.text = some row) (after : Db) :
    Db.flush (roleRequestWrite (some row) (decidedRequest row status decidedBy note) ::
      (outboxDrafts io "RoleRequest" row.id.text []).map .insertOutbox) db = .ok after ↔
      DecisionTaken decidedBy note ∧ Db.RequestDecided row status decidedBy note db after ∧
        after.loginAudit = db.loginAudit := by
  have written := fun next => Db.write_update_role_request row.id.text
    (.between row (decidedRequest row status decidedBy note)) db next row found
  rw [Db.flush_cons]
  constructor
  · intro ⟨next, write, flushed⟩
    cases flushed
    obtain ⟨stored, applied, users, roleRequests, outbox, loginAudit⟩ := (written after).mp write
    obtain ⟨taken, same⟩ := (request_changes row status decidedBy note stored).mp applied
    exact ⟨taken, ⟨⟨stored, same, roleRequests⟩, users, outbox⟩, loginAudit⟩
  · intro ⟨taken, ⟨⟨stored, same, roleRequests⟩, users, outbox⟩, loginAudit⟩
    refine ⟨after, (written after).mpr ⟨stored, ?_, users, roleRequests, outbox, loginAudit⟩, rfl⟩
    exact (request_changes row status decidedBy note stored).mpr ⟨taken, same⟩

theorem request_commits (found : db.roleRequests.find row.id.text = some row) :
    (∃ after, Db.flush (roleRequestWrite (some row) (decidedRequest row status decidedBy note) ::
      (outboxDrafts io "RoleRequest" row.id.text []).map .insertOutbox) db = .ok after) ↔
      DecisionTaken decidedBy note := by
  refine ⟨fun ⟨after, run⟩ => ((request_flush io row status decidedBy note db found after).mp run).1, fun taken => ?_⟩
  let stored : RoleRequestRow :=
    { row with
      status := status
      decidedBy := some ⟨Varchar.cut 36 decidedBy, Varchar.cut_fits 36 decidedBy taken.decider.1⟩
      decisionNote := some ⟨Varchar.cut 512 note, Varchar.cut_fits 512 note taken.note.1⟩ }
  have known : stored.userId.text ∈ db.users.keys := db.requesters row (Table.find_mem _ _ row found)
  have same : toDomainRoleRequest stored = (decidedRequest row status decidedBy note).settled := by
    simp only [RoleRequest.settled, decidedRequest, toDomainRoleRequest, stored, Varchar.cut_text, Option.map_some]
  refine ⟨db.replaceRoleRequestRow stored known, ?_⟩
  exact (request_flush io row status decidedBy note db found _).mpr ⟨taken, ⟨⟨stored, same, rfl⟩, rfl, rfl⟩, rfl⟩

structure RequestCommits (script : List Fault) (decidedBy note : String) : Prop where
  read : faultAt script 0 = .none
  committed : faultAt script 1 ≠ .before
  taken : DecisionTaken decidedBy note

theorem save_request_eq (found : db.roleRequests.find row.id.text = some row) (read : faultAt script 0 = .none) :
    (saveRoleRequest io (decidedRequest row status decidedBy note) []).exec script db =
      (commit (roleRequestWrite (some row) (decidedRequest row status decidedBy note) ::
        (outboxDrafts io "RoleRequest" row.id.text []).map .insertOutbox)).exec script.tail db := by
  rw [saveRoleRequest, exec_select_bind _ _ _ _ (decided_legal row _ _ _), fault_head, if_pos read]
  have again : db.roleRequests.find (decidedRequest row status decidedBy note).id = some row := found
  rw [again]
  rfl

theorem save_request_refused (found : db.roleRequests.find row.id.text = some row)
    (refused : ¬ RequestCommits script decidedBy note) :
    ((saveRoleRequest io (decidedRequest row status decidedBy note) []).exec script db).store = db := by
  by_cases read : faultAt script 0 = .none
  · rw [save_request_eq io row status decidedBy note script db found read]
    have commits := request_commits io row status decidedBy note db found
    cases run : Db.flush (roleRequestWrite (some row) (decidedRequest row status decidedBy note) ::
        (outboxDrafts io "RoleRequest" row.id.text []).map .insertOutbox) db with
    | error error => rw [commit_error _ _ db error run]
    | ok after =>
        have taken := commits.mp ⟨after, run⟩
        have notCommitted : faultAt script 1 = .before := by
          by_contra committed
          exact refused ⟨read, committed, taken⟩
        rw [commit_ok _ _ db after run, fault_tail, notCommitted]
  · rw [saveRoleRequest, exec_select_bind _ _ _ _ (decided_legal row _ _ _), fault_head, if_neg read]

theorem save_request_commits (found : db.roleRequests.find row.id.text = some row)
    (commits : RequestCommits script decidedBy note) :
    Db.RequestDecided row status decidedBy note db
      ((saveRoleRequest io (decidedRequest row status decidedBy note) []).exec script db).store := by
  obtain ⟨after, run⟩ := (request_commits io row status decidedBy note db found).mpr commits.taken
  have decided := ((request_flush io row status decidedBy note db found after).mp run).2.1
  rw [save_request_eq io row status decidedBy note script db found commits.read, commit_ok _ _ db after run, fault_tail]
  have last := commits.committed
  cases at1 : faultAt script 1 with
  | none => exact decided
  | before => exact absurd at1 last
  | after => exact decided

end Request

structure Decides (script : List Fault) (db : Db) (actorRole : Role) (requestId : String)
    (row : RoleRequestRow) : Prop where
  staff : actorRole = .support ∨ actorRole = .admin
  read : faultAt script 0 = .none
  found : db.roleRequests.find requestId = some row
  pending : row.status = .pending

section Decide

variable (io : Surroundings) (script : List Fault) (db : Db) (actorRole : Role) (requestId decidedBy note : String)

theorem decide_staff (approve : Bool) (staff : actorRole = .support ∨ actorRole = .admin) :
    decideRoleRequest io actorRole requestId approve decidedBy note =
      select [requestId] (fun db : Db => db.roleRequests.find requestId) >>= fun row =>
        match row with
        | none => .raise (.domain (.roleRequestNotFound requestId))
        | some row => decideFound io (toDomainRoleRequest row) approve decidedBy note := by
  have allowed : RolePolicy.assertCanDecideRoleRequest actorRole = .ok () :=
    (RolePolicy.assert_staff_ok _ actorRole).mpr staff
  rw [decideRoleRequest, allowed]
  simp only [liftDomain, Prog.ret_bind, getRoleRequestById, bind_assoc, pure_bind]
  congr 1
  funext row
  cases row <;> rfl

theorem decide_not_staff (approve : Bool) (notStaff : ¬ (actorRole = .support ∨ actorRole = .admin)) :
    decideRoleRequest io actorRole requestId approve decidedBy note =
      .raise (.domain (.invalidRoleTransition "Only SUPPORT or ADMIN can approve/reject role requests.")) := by
  rw [decideRoleRequest, RolePolicy.assertCanDecideRoleRequest, RolePolicy.assertStaff, if_neg notStaff]
  rfl

theorem decide_pending (approve : Bool) (row : RoleRequestRow) (pending : row.status = .pending) :
    decideFound io (toDomainRoleRequest row) approve decidedBy note =
      if approve then
        grantRequested io (decidedRequest row .approved decidedBy note) decidedBy >>= fun _ =>
          saveRoleRequest io (decidedRequest row .approved decidedBy note) []
      else saveRoleRequest io (decidedRequest row .rejected decidedBy note) [] := by
  have isPending : (toDomainRoleRequest row).status = .pending := pending
  simp only [decideFound, RoleRequest.approve, RoleRequest.reject, RoleRequest.decide, isPending, ne_eq,
    not_true_eq_false,
    if_false, liftDomain, Prog.ret_bind]
  rfl

theorem decide_decided (approve : Bool) (row : RoleRequestRow) (decided : row.status ≠ .pending) :
    decideFound io (toDomainRoleRequest row) approve decidedBy note =
      .raise (.domain (.roleRequestAlreadyDecided row.id.text)) := by
  have notPending : (toDomainRoleRequest row).status ≠ .pending := decided
  simp only [decideFound, RoleRequest.approve, RoleRequest.reject, RoleRequest.decide, notPending, ne_eq,
    not_false_eq_true,
    if_true, liftDomain, Prog.raise_bind, ite_self]
  rfl

theorem decide_refused (approve : Bool) (refused : ¬ ∃ row, Decides script db actorRole requestId row) :
    ((decideRoleRequest io actorRole requestId approve decidedBy note).exec script db).store = db := by
  by_cases staff : actorRole = .support ∨ actorRole = .admin
  · rw [decide_staff io actorRole requestId decidedBy note approve staff]
    by_cases legal : Legal [requestId]
    · rw [exec_select_bind _ _ _ _ legal, fault_head]
      by_cases read : faultAt script 0 = .none
      · rw [if_pos read]
        cases found : db.roleRequests.find requestId with
        | none => rfl
        | some row =>
            have decided : row.status ≠ .pending := fun pending => refused ⟨row, staff, read, found, pending⟩
            dsimp only
            rw [decide_decided io decidedBy note approve row decided]
            rfl
      · rw [if_neg read]
    · rw [exec_select_refused _ _ _ _ legal]
  · rw [decide_not_staff io actorRole requestId decidedBy note approve staff]
    rfl

theorem decide_eq (approve : Bool) (row : RoleRequestRow) (decides : Decides script db actorRole requestId row) :
    (decideRoleRequest io actorRole requestId approve decidedBy note).exec script db =
      if approve then
        (grantRequested io (decidedRequest row .approved decidedBy note) decidedBy >>= fun _ =>
          saveRoleRequest io (decidedRequest row .approved decidedBy note) []).exec script.tail db
      else (saveRoleRequest io (decidedRequest row .rejected decidedBy note) []).exec script.tail db := by
  have legal := legal_one requestId (Table.find_key _ _ row decides.found ▸ row.id.fits.2)
  rw [decide_staff io actorRole requestId decidedBy note approve decides.staff,
    exec_select_bind _ _ _ _ legal, fault_head,
    if_pos decides.read, decides.found]
  dsimp only
  rw [decide_pending io decidedBy note approve row decides.pending]
  cases approve <;> rfl

-- Where an approval ends: in the database it found, or behind its first commit.
theorem approve_refused (row : RoleRequestRow) (user : UserRow) (decides : Decides script db actorRole requestId row)
    (userFound : db.users.find row.userId.text = some user) (refused : ¬ GrantCommits io script.tail db) :
    ((decideRoleRequest io actorRole requestId true decidedBy note).exec script db).store = db := by
  rw [decide_eq io script db actorRole requestId decidedBy note true row decides, if_pos rfl, Prog.exec_bind]
  obtain ⟨error, result, store⟩ :=
    grant_refused io (decidedRequest row .approved decidedBy note) decidedBy user script.tail db userFound refused
  generalize (grantRequested io (decidedRequest row .approved decidedBy note) decidedBy).exec script.tail db =
    outcome at result store
  obtain ⟨answer, later, final⟩ := outcome
  dsimp only at result store
  subst result store
  rfl

theorem approve_granted (row : RoleRequestRow) (user : UserRow) (decides : Decides script db actorRole requestId row)
    (userFound : db.users.find row.userId.text = some user) (granted : GrantCommits io script.tail db) :
    ∃ between, Db.AccountCommitted io user ⟨row.requestedRole, user.state⟩
      (grantEvent user (toDomainRoleRequest row) decidedBy)
        db between ∧
      ((decideRoleRequest io actorRole requestId true decidedBy note).exec script db).store =
        if faultAt script 3 = .none then
          ((saveRoleRequest io (decidedRequest row .approved decidedBy note) []).exec script.tail.tail.tail.tail
            between).store
        else between := by
  obtain ⟨between, committed, run⟩ :=
    grant_commits io (decidedRequest row .approved decidedBy note) decidedBy user script.tail db userFound granted
  refine ⟨between, committed, ?_⟩
  rw [decide_eq io script db actorRole requestId decidedBy note true row decides, if_pos rfl, Prog.exec_bind,
    run, fault_tail]
  by_cases answered : faultAt script 3 = .none
  · rw [if_pos answered, if_pos answered]
  · rw [if_neg answered, if_neg answered]

theorem requester_found (row : RoleRequestRow) (found : db.roleRequests.find requestId = some row) :
    ∃ user, db.users.find row.userId.text = some user := by
  cases userFound : db.users.find row.userId.text with
  | none => exact absurd (db.requesters row (Table.find_mem _ _ row found)) ((Table.find_none_iff _ _).mp userFound)
  | some user => exact ⟨user, rfl⟩

end Decide

def ioAt (freshId rowId : Varchar 36) : Surroundings where
  now := 0
  freshId := freshId
  rowId := fun _ => rowId
  salt := "salt"

def sampleIo : Surroundings := ioAt ⟨"f1", by decide⟩ ⟨"o1", by decide⟩

def otherIo : Surroundings := ioAt ⟨"f2", by decide⟩ ⟨"o2", by decide⟩

end AuthProfile
