import AuthProfile.Circulation
import AuthProfile.RoleAdmin
import Mathlib.Logic.Relation

set_option autoImplicit false

-- What requests do to the accounts when no staff is behind them.
namespace AuthProfile

open Relation Process UserRepository

section Writes

variable (start : Db)

-- New accounts and new requests only, as registering and asking for a role make them.
def Write.Harmless : Write → Prop
  | .insertUser user => start.account (Varchar.cut 36 user.id) = none ∧ user.account = ⟨.basicUser, .active⟩
  | .updateUser id changes => start.account id = none ∧ (∀ role, changes.role = some role → role = .basicUser) ∧
      ∀ state, changes.state = some state → state = .active
  | .insertRoleRequest request => start.roleRequests.find (Varchar.cut 36 request.id) = none ∧ request.status = .pending
  | .updateRoleRequest id changes => start.roleRequests.find id = none ∧ ∀ status, changes.status = some status →
      status = .pending
  | _ => True

def Db.HarmlessStep (db after : Db) : Prop :=
  (∃ write : Write, write.Harmless start ∧ db.write write = .ok after) ∨
    (after.users = db.users ∧ after.roleRequests = db.roleRequests)

def Db.Harmless : Db → Db → Prop := ReflTransGen start.HarmlessStep

theorem flush_harmless (writes : List Write) (may : ∀ write ∈ writes, write.Harmless start) (db after : Db)
    (run : Db.flush writes db = .ok after) : start.Harmless db after := by
  induction writes generalizing db with
  | nil =>
      cases run
      exact .refl
  | cons first rest ih =>
      obtain ⟨next, written, flushed⟩ := (Db.flush_cons first rest db after).mp run
      exact .head (Or.inl ⟨first, may first List.mem_cons_self, written⟩)
        (ih (fun write member => may write (List.mem_cons_of_mem _ member)) next flushed)

theorem commit_harmless (writes : List Write) (may : ∀ write ∈ writes, write.Harmless start) :
    (commit writes).Steps start.Harmless := by
  refine Prog.steps_atomic _ (fun _ => .refl) _ _ fun db answer after run => ?_
  cases flushed : Db.flush writes db with
  | error error =>
      rw [flushed] at run
      cases run
  | ok next =>
      rw [flushed] at run
      cases run
      exact flush_harmless start writes may db _ flushed

theorem audited_harmless (draft : LoginAuditDraft) (db after : Db) (audited : Db.Audited draft db after) :
    start.Harmless db after := by
  cases audited with
  | kept same =>
      rw [same]
      exact .refl
  | added run =>
      refine flush_harmless start _ (fun write member => ?_) db after run
      rw [List.mem_singleton.mp member]
      trivial

end Writes

-- What an account may be while no staff has acted: as it was at the start, or as
-- registering makes it.
def Db.MayBe (start : Db) (id : String) (account : Account) : Prop :=
  match start.account id with
  | some known => account = known
  | none => account = ⟨.basicUser, .active⟩

structure Db.Unattended (start db : Db) : Prop where
  stay : ∀ id ∈ start.users.keys, id ∈ db.users.keys
  accounts : ∀ row ∈ db.users.rows, start.MayBe row.id.text row.account
  requestsStay : ∀ row ∈ start.roleRequests.rows, row ∈ db.roleRequests.rows
  requests : ∀ row ∈ db.roleRequests.rows, row ∈ start.roleRequests.rows ∨ row.status = .pending

section Unattended

variable (start : Db)

theorem unattended_refl : start.Unattended start := by
  refine ⟨fun _ known => known, fun row member => ?_, fun _ known => known, fun _ known => Or.inl known⟩
  have found : start.users.find row.id.text = some row := Table.find_self start.users row member
  rw [Db.MayBe, Db.account, found]
  rfl

theorem may_be_new (id : String) (account : Account) (unknown : start.account id = none) :
    start.MayBe id account ↔ account = ⟨.basicUser, .active⟩ := by rw [Db.MayBe, unknown]

theorem get_d_of {α : Type} (change : Option α) (old target : α) (isOld : old = target)
    (new : ∀ value, change = some value → value = target) :
    change.getD old = target := by
  cases change with
  | none => exact isOld
  | some value => exact new value rfl

variable (db after : Db)

theorem same_tables_unattended (users : after.users = db.users) (roleRequests : after.roleRequests = db.roleRequests)
    (unattended : start.Unattended db) : start.Unattended after :=
  ⟨users ▸ unattended.stay, users ▸ unattended.accounts, roleRequests ▸ unattended.requestsStay,
    roleRequests ▸ unattended.requests⟩

theorem user_inserted_unattended (user : User) (row : UserRow) (settled : toDomainUser row = user.settled)
    (users : db.users.insert row = some after.users) (roleRequests : after.roleRequests = db.roleRequests)
    (may : (Write.insertUser user).Harmless start) (unattended : start.Unattended db) : start.Unattended after := by
  refine ⟨fun id known => ?_, fun other member => ?_, roleRequests ▸ unattended.requestsStay,
    roleRequests ▸ unattended.requests⟩
  · exact (Table.mem_keys_inserted row _ _ users id).mpr (Or.inl (unattended.stay id known))
  · rw [((Table.insert_some_iff row _ _).mp users).2, List.mem_append, List.mem_singleton] at member
    rcases member with old | new
    · exact unattended.accounts other old
    · subst new
      have isId : other.id.text = Varchar.cut 36 user.id := congrArg User.id settled
      have isAccount : other.account = user.account := congrArg User.account settled
      rw [isId, isAccount, may_be_new start _ _ may.1]
      exact may.2

theorem user_changes_keep_id (changes : UserChanges) (old row : UserRow) (applied : changes.apply old = .ok row) :
    row.id = old.id := by
  simp only [UserChanges.apply, except_bind_ok] at applied
  obtain ⟨email, _, passwordHash, _, displayName, _, isRow⟩ := applied
  cases isRow
  rfl

theorem user_updated_unattended (id : String) (changes : UserChanges) (old row : UserRow)
    (found : db.users.find id = some old)
    (applied : changes.apply old = .ok row) (users : after.users = db.users.replace row)
    (roleRequests : after.roleRequests = db.roleRequests) (may : (Write.updateUser id changes).Harmless start)
    (unattended : start.Unattended db) : start.Unattended after := by
  obtain ⟨unknown, basic, active⟩ := may
  have isOld : old.id.text = id := Table.find_key id _ old found
  have wasPlain := unattended.accounts old (Table.find_mem id _ old found)
  rw [isOld, may_be_new start _ _ unknown] at wasPlain
  have sameId : row.id.text = id := (congrArg Varchar.text (user_changes_keep_id changes old row applied)).trans isOld
  simp only [UserChanges.apply, except_bind_ok] at applied
  obtain ⟨email, _, passwordHash, _, displayName, _, isRow⟩ := applied
  have isPlain : row.account = ⟨.basicUser, .active⟩ := by
    cases isRow
    have isBasic : changes.role.getD old.role = .basicUser := get_d_of _ _ _ (congrArg Account.role wasPlain) basic
    have isActive : changes.state.getD old.state = .active := get_d_of _ _ _ (congrArg Account.state wasPlain) active
    rw [UserRow.account, isBasic, isActive]
  refine ⟨fun id known => ?_, fun other member => ?_, roleRequests ▸ unattended.requestsStay,
    roleRequests ▸ unattended.requests⟩
  · rw [users, Table.keys_replace]
    exact unattended.stay id known
  · rw [users] at member
    obtain ⟨before, isBefore, isOther⟩ := List.mem_map.mp member
    split at isOther
    · rw [← isOther, sameId, may_be_new start _ _ unknown]
      exact isPlain
    · exact isOther ▸ unattended.accounts before isBefore

theorem request_inserted_unattended (request : RoleRequest) (row : RoleRequestRow)
    (same : toDomainRoleRequest row = request.settled)
    (users : after.users = db.users) (roleRequests : db.roleRequests.insert row = some after.roleRequests)
    (may : (Write.insertRoleRequest request).Harmless start) (unattended : start.Unattended db) :
    start.Unattended after := by
  have rows := ((Table.insert_some_iff row _ _).mp roleRequests).2
  refine ⟨users ▸ unattended.stay, users ▸ unattended.accounts, fun known member => ?_, fun other member => ?_⟩
  · rw [rows]
    exact List.mem_append_left _ (unattended.requestsStay known member)
  · rw [rows, List.mem_append, List.mem_singleton] at member
    rcases member with old | new
    · exact unattended.requests other old
    · rw [new]
      exact Or.inr ((congrArg RoleRequest.status same).trans may.2)

theorem request_updated_unattended (id : String) (changes : RoleRequestChanges) (old row : RoleRequestRow)
    (found : db.roleRequests.find id = some old) (applied : changes.apply old = .ok row)
    (users : after.users = db.users) (roleRequests : after.roleRequests = db.roleRequests.replace row)
    (may : (Write.updateRoleRequest id changes).Harmless start)
    (unattended : start.Unattended db) : start.Unattended after := by
  obtain ⟨unknown, pending⟩ := may
  have isOld : old.id.text = id := Table.find_key id _ old found
  have isNew : ∀ known ∈ start.roleRequests.rows, known.id.text ≠ id := fun known member same =>
    (Table.find_none_iff id start.roleRequests).mp unknown (same ▸ List.mem_map_of_mem member)
  have wasPending := (unattended.requests old (Table.find_mem id _ old found)).resolve_left fun known =>
    isNew old known isOld
  have sameId : row.id = old.id := (role_request_changes_keep changes old row applied).1
  have isPending : row.status = .pending := by
    simp only [RoleRequestChanges.apply, except_bind_ok] at applied
    obtain ⟨decisionNote, _, decidedBy, _, isRow⟩ := applied
    cases isRow
    exact get_d_of _ _ _ wasPending pending
  refine ⟨users ▸ unattended.stay, users ▸ unattended.accounts, fun known member => ?_, fun other member => ?_⟩
  · rw [roleRequests]
    refine List.mem_map.mpr ⟨known, unattended.requestsStay known member, if_neg fun same => isNew known member ?_⟩
    exact same.trans ((congrArg Varchar.text sameId).trans isOld)
  · rw [roleRequests] at member
    obtain ⟨before, isBefore, isOther⟩ := List.mem_map.mp member
    split at isOther
    · exact Or.inr (isOther ▸ isPending)
    · exact isOther ▸ unattended.requests before isBefore

theorem write_unattended (write : Write) (may : write.Harmless start) (run : db.write write = .ok after)
    (unattended : start.Unattended db) : start.Unattended after := by
  cases Db.write_written write db after run with
  | userKept _ _ same => exact same ▸ unattended
  | requestKept _ _ same => exact same ▸ unattended
  | userInserted user row taken settled users roleRequests =>
      exact user_inserted_unattended start db after user row settled users roleRequests may unattended
  | userUpdated id changes old row found applied users roleRequests =>
      exact user_updated_unattended start db after id changes old row found applied users roleRequests may unattended
  | requestInserted request row same users roleRequests =>
      exact request_inserted_unattended start db after request row same users roleRequests may unattended
  | requestUpdated id changes =>
      cases found : db.roleRequests.find id with
      | none =>
          simp only [Db.write, found] at run
          split at run
          · cases run
            exact unattended
          · cases run
      | some old =>
          obtain ⟨row, applied, users, roleRequests, _⟩ :=
            (Db.write_update_role_request id changes db after old found).mp run
          exact request_updated_unattended start db after id changes old row found applied users roleRequests
            may unattended
  | outboxInserted _ _ _ _ users roleRequests =>
      exact same_tables_unattended start db after users roleRequests unattended
  | auditInserted _ users roleRequests => exact same_tables_unattended start db after users roleRequests unattended

theorem harmless_unattended (db after : Db) (harmless : start.Harmless db after) (unattended : start.Unattended db) :
    start.Unattended after := by
  induction harmless with
  | refl => exact unattended
  | tail _ step ih =>
      rcases step with ⟨write, may, run⟩ | ⟨users, roleRequests⟩
      · exact write_unattended start _ _ write may run ih
      · exact same_tables_unattended start _ _ users roleRequests ih

end Unattended

-- What is known at the start is as it was.
structure Db.SameKnown (start before after : Db) : Prop where
  users : ∀ id ∈ start.users.keys, after.users.find id = before.users.find id
  roleRequests : ∀ id ∈ start.roleRequests.keys, after.roleRequests.find id = before.roleRequests.find id

section SameKnown

variable (start : Db)

theorem known_not_new (id known : String) (unknown : start.account id = none) (member : known ∈ start.users.keys) :
    known ≠ id := by
  rintro rfl
  exact (Table.find_none_iff known start.users).mp (Option.map_eq_none_iff.mp unknown) member

theorem request_known_not_new (id known : String) (unknown : start.roleRequests.find id = none)
    (member : known ∈ start.roleRequests.keys) :
    known ≠ id := by
  rintro rfl
  exact (Table.find_none_iff known start.roleRequests).mp unknown member

theorem write_same_known (write : Write) (may : write.Harmless start) (db after : Db)
    (run : db.write write = .ok after) :
    start.SameKnown db after := by
  cases Db.write_written write db after run with
  | userKept _ _ same => exact ⟨fun _ _ => same ▸ rfl, fun _ _ => same ▸ rfl⟩
  | requestKept _ _ same => exact ⟨fun _ _ => same ▸ rfl, fun _ _ => same ▸ rfl⟩
  | userInserted user row taken settled users roleRequests =>
      refine ⟨fun known member => ?_, fun _ _ => by rw [roleRequests]⟩
      have isId : row.id.text = Varchar.cut 36 user.id := congrArg User.id settled
      exact Table.find_insert_other row _ _ known users fun same =>
        known_not_new start (Varchar.cut 36 user.id) known may.1 member (same.trans isId)
  | userUpdated id changes old row found applied users roleRequests =>
      refine ⟨fun known member => ?_, fun _ _ => by rw [roleRequests]⟩
      have isId : row.id.text = id :=
        (congrArg Varchar.text (user_changes_keep_id changes old row applied)).trans (Table.find_key id _ old found)
      rw [users]
      exact Table.find_replace_other row _ known fun same => known_not_new start id known may.1 member (same.trans isId)
  | requestInserted request row same users roleRequests =>
      refine ⟨fun _ _ => by rw [users], fun known member => ?_⟩
      have isId : row.id.text = Varchar.cut 36 request.id := congrArg RoleRequest.id same
      exact Table.find_insert_other row _ _ known roleRequests fun same =>
        request_known_not_new start (Varchar.cut 36 request.id) known may.1 member (same.trans isId)
  | requestUpdated id changes =>
      cases found : db.roleRequests.find id with
      | none =>
          simp only [Db.write, found] at run
          split at run
          · cases run
            exact ⟨fun _ _ => rfl, fun _ _ => rfl⟩
          · cases run
      | some old =>
          obtain ⟨row, applied, users, roleRequests, _⟩ :=
            (Db.write_update_role_request id changes db after old found).mp run
          refine ⟨fun _ _ => by rw [users], fun known member => ?_⟩
          have isId : row.id.text = id :=
            (congrArg Varchar.text (role_request_changes_keep changes old row applied).1).trans
              (Table.find_key id _ old found)
          rw [roleRequests]
          exact Table.find_replace_other row _ known fun same =>
            request_known_not_new start id known may.1 member (same.trans isId)
  | outboxInserted _ _ _ _ users roleRequests => exact ⟨fun _ _ => by rw [users], fun _ _ => by rw [roleRequests]⟩
  | auditInserted _ users roleRequests => exact ⟨fun _ _ => by rw [users], fun _ _ => by rw [roleRequests]⟩

theorem harmless_same_known (db after : Db) (harmless : start.Harmless db after) : start.SameKnown db after := by
  induction harmless with
  | refl => exact ⟨fun _ _ => rfl, fun _ _ => rfl⟩
  | @tail between after _ step ih =>
      have last : start.SameKnown between after := by
        rcases step with ⟨write, may, run⟩ | ⟨users, roleRequests⟩
        · exact write_same_known start write may _ _ run
        · exact ⟨fun _ _ => by rw [users], fun _ _ => by rw [roleRequests]⟩
      exact ⟨fun id member => (last.users id member).trans (ih.users id member),
        fun id member => (last.roleRequests id member).trans (ih.roleRequests id member)⟩

end SameKnown

section Programs

variable (start : Db) (io : Surroundings)

-- uuid4 draws no id that the database knows at the start.
structure Surroundings.Unknown : Prop where
  user : start.account io.freshId.text = none
  request : start.roleRequests.find io.freshId.text = none

theorem drafts_harmless (aggregateType aggregateId : String) (events : List DomainEvent) (write : Write)
    (member : write ∈ (outboxDrafts io aggregateType aggregateId events).map .insertOutbox) : write.Harmless start := by
  obtain ⟨draft, _, rfl⟩ := List.mem_map.mp member
  trivial

theorem changed_to {α : Type} [DecidableEq α] (loaded value target column : α) (isValue : value = target)
    (differs : changed loaded value = some column) : column = target := (changed_some _ _ _ differs).trans isValue

-- A row that is there under a new id is one that registering made.
theorem save_plain_user_harmless (user : User) (events : List DomainEvent) (short : user.id.length ≤ 36)
    (unknown : start.account user.id = none) (plain : user.account = ⟨.basicUser, .active⟩) :
    (saveUser io user events).Steps start.Harmless := by
  refine Prog.steps_bind _ _ _ (select_steps _ _ _ fun _ => .refl) fun loaded => commit_harmless start _
    fun write member => ?_
  rcases List.mem_cons.mp member with isUser | isDraft
  · rw [isUser]
    cases loaded with
    | none => exact ⟨(Varchar.cut_short 36 user.id short).symm ▸ unknown, plain⟩
    | some row =>
        exact ⟨unknown, fun role differs => changed_to _ _ _ role (congrArg Account.role plain) differs,
          fun state differs => changed_to _ _ _ state (congrArg Account.state plain) differs⟩
  · exact drafts_harmless start io _ _ _ write isDraft

theorem save_pending_request_harmless (request : RoleRequest) (events : List DomainEvent)
    (short : request.id.length ≤ 36)
    (unknown : start.roleRequests.find request.id = none) (pending : request.status = .pending) :
    (saveRoleRequest io request events).Steps start.Harmless := by
  refine Prog.steps_bind _ _ _ (select_steps _ _ _ fun _ => .refl) fun loaded => commit_harmless start _
    fun write member => ?_
  rcases List.mem_cons.mp member with isRequest | isDraft
  · rw [isRequest]
    cases loaded with
    | none => exact ⟨(Varchar.cut_short 36 request.id short).symm ▸ unknown, pending⟩
    | some row => exact ⟨unknown, fun status differs => changed_to _ _ _ status pending differs⟩
  · exact drafts_harmless start io _ _ _ write isDraft

theorem register_user_harmless (lower : Lower) (hasher : PasswordHasher) (unknown : io.Unknown start)
    (email password displayName : String) :
    (registerUser lower hasher io email password displayName).Steps start.Harmless := by
  have reads := (get_user_by_email_reads (strip (lower email))).steps
  refine Prog.steps_bind _ _ _ (Prog.steps_mono _ _ (fun _ _ same => same ▸ .refl) _ reads) fun found => ?_
  cases found with
  | some user => trivial
  | none => exact Prog.steps_bind _ _ _ (save_plain_user_harmless start io _ _ io.freshId.fits.1
      unknown.user rfl) fun _ => trivial

theorem request_role_harmless (unknown : io.Unknown start) (userId : String) (requestedRole : Role) :
    (requestRole io userId requestedRole).Steps start.Harmless := by
  have reads := (user_by_id_reads userId).steps
  refine Prog.steps_bind _ _ _ (Prog.steps_mono _ _ (fun _ _ same => same ▸ .refl) _ reads) fun found => ?_
  cases found with
  | none => trivial
  | some user =>
      dsimp only
      split
      · trivial
      · exact Prog.steps_bind _ _ _ (save_pending_request_harmless start io _ _ io.freshId.fits.1 unknown.request rfl)
          fun _ => trivial

end Programs

end AuthProfile
