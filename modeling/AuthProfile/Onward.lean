import AuthProfile.Privileges

set_option autoImplicit false

-- Accounts and role requests only go forward, whatever overtakes what.
namespace AuthProfile

open Relation Process UserRepository

-- Where an account that was in this state, or not there, may be: nothing becomes PENDING,
-- and what is REJECTED stays so.
def UserState.LeadsTo : Option UserState → UserState → Prop
  | some .pending, _ => True
  | some .rejected, state => state = .rejected
  | _, state => state = .active ∨ state = .banned

theorem leads_to_itself (state : UserState) : UserState.LeadsTo (some state) state := by
  cases state <;> simp [UserState.LeadsTo]

theorem pending_leads_anywhere (old : Option UserState) (state : UserState) (led : UserState.LeadsTo old .pending) :
    old = some .pending ∧ UserState.LeadsTo old state := by
  cases old with
  | none => simp [UserState.LeadsTo] at led
  | some was => cases was <;> simp [UserState.LeadsTo] at led ⊢

theorem active_leads_as_banned (old : Option UserState) :
    UserState.LeadsTo old .active ↔ UserState.LeadsTo old .banned := by
  cases old with
  | none => simp [UserState.LeadsTo]
  | some was => cases was <;> simp [UserState.LeadsTo]

-- A request stays with who asked for what and when, and a decided one stays as it is.
structure RoleRequestRow.Ages (old row : RoleRequestRow) : Prop where
  userId : row.userId = old.userId
  requestedRole : row.requestedRole = old.requestedRole
  createdAt : row.createdAt = old.createdAt
  decided : old.status ≠ .pending → row = old

section Onward

variable (start : Db)

def Db.Lives (id : String) (state : UserState) : Prop := UserState.LeadsTo ((start.account id).map Account.state) state

structure Db.Evolved (db : Db) : Prop where
  stay : ∀ id ∈ start.users.keys, id ∈ db.users.keys
  lives : ∀ row ∈ db.users.rows, start.Lives row.id.text row.state
  requests : ∀ id old, start.roleRequests.find id = some old → ∃ row, db.roleRequests.find id = some row ∧ old.Ages row

-- What of the requests known at the start is PENDING later was so before.
def Db.Undecided (before after : Db) : Prop :=
  ∀ id ∈ start.roleRequests.keys, ∀ row, after.roleRequests.find id = some row → row.status = .pending →
    ∃ was, before.roleRequests.find id = some was ∧ was.status = .pending

def Db.Onward (before after : Db) : Prop := start.Evolved before → start.Evolved after ∧ start.Undecided before after

def Write.Onward : Write → Prop
  | .insertUser user => start.Lives (Varchar.cut 36 user.id) user.state
  | .updateUser id changes => ∀ state, changes.state = some state → start.Lives id state
  | .insertRoleRequest request => start.roleRequests.find (Varchar.cut 36 request.id) = none
  | .updateRoleRequest id changes => ∀ old, start.roleRequests.find id = some old →
      old.status = .pending ∧ changes.requestedRole = none ∧ changes.createdAt = none ∧ changes.status ≠ some .pending
  | _ => True

theorem evolved_refl : start.Evolved start where
  stay := fun _ => id
  lives := fun row member => by
    have found : start.users.find row.id.text = some row := Table.find_self _ row member
    rw [Db.Lives, Db.account, found]
    exact leads_to_itself row.state
  requests := fun _ old found => ⟨old, found, rfl, rfl, rfl, fun _ => rfl⟩

theorem undecided_trans (a b c : Db) (ab : start.Undecided a b) (bc : start.Undecided b c) : start.Undecided a c :=
  fun id known row found pending =>
    have ⟨between, isBetween, wasPending⟩ := bc id known row found pending
    ab id known between isBetween wasPending

theorem unchanged_undecided (before after : Db)
    (kept : ∀ id ∈ start.roleRequests.keys, after.roleRequests.find id = before.roleRequests.find id) :
    start.Undecided before after := fun id known row found pending => ⟨row, kept id known ▸ found, pending⟩

variable (db after : Db)

theorem same_accounts_onward (same : Db.SameAccounts db after) :
    start.Onward db after := by
  intro evolved
  obtain ⟨users, roleRequests⟩ := same
  exact ⟨⟨users ▸ evolved.stay, users ▸ evolved.lives, roleRequests ▸ evolved.requests⟩,
    unchanged_undecided start db after fun _ _ => roleRequests ▸ rfl⟩

theorem user_inserted_onward (user : User) (row : UserRow) (settled : toDomainUser row = user.settled)
    (users : db.users.insert row = some after.users) (roleRequests : after.roleRequests = db.roleRequests)
    (may : (Write.insertUser user).Onward start) :
    start.Onward db after := by
  intro evolved
  refine ⟨⟨fun id known => ?_, fun other member => ?_, roleRequests ▸ evolved.requests⟩,
    unchanged_undecided start db after fun _ _ => roleRequests ▸ rfl⟩
  · exact (Table.mem_keys_inserted row _ _ users id).mpr (Or.inl (evolved.stay id known))
  · rw [((Table.insert_some_iff row _ _).mp users).2, List.mem_append, List.mem_singleton] at member
    rcases member with old | new
    · exact evolved.lives other old
    · have isId : row.id.text = Varchar.cut 36 user.id := congrArg User.id settled
      have isState : row.state = user.state := congrArg User.state settled
      rw [new, isId, isState]
      exact may

theorem user_updated_onward (id : String) (changes : UserChanges) (old row : UserRow)
    (found : db.users.find id = some old)
    (applied : changes.apply old = .ok row) (users : after.users = db.users.replace row)
    (roleRequests : after.roleRequests = db.roleRequests) (may : (Write.updateUser id changes).Onward start) :
    start.Onward db after := by
  intro evolved
  have isOld : old.id.text = id := Table.find_key id _ old found
  have sameId : row.id.text = id := (congrArg Varchar.text (user_changes_keep_id changes old row applied)).trans isOld
  have lived := evolved.lives old (Table.find_mem id _ old found)
  have isState : row.state = changes.state.getD old.state := by
    simp only [UserChanges.apply, except_bind_ok] at applied
    obtain ⟨email, _, passwordHash, _, displayName, _, isRow⟩ := applied
    cases isRow
    rfl
  refine ⟨⟨fun known member => ?_, fun other member => ?_, roleRequests ▸ evolved.requests⟩,
    unchanged_undecided start db after fun _ _ => roleRequests ▸ rfl⟩
  · rw [users, Table.keys_replace]
    exact evolved.stay known member
  · rw [users] at member
    obtain ⟨before, isBefore, isOther⟩ := List.mem_map.mp member
    split at isOther
    · rw [← isOther, sameId, isState]
      cases differs : changes.state with
      | none => exact isOld ▸ lived
      | some state => exact may state differs
    · exact isOther ▸ evolved.lives before isBefore

theorem request_inserted_onward (request : RoleRequest) (row : RoleRequestRow)
    (same : toDomainRoleRequest row = request.settled)
    (users : after.users = db.users) (roleRequests : db.roleRequests.insert row = some after.roleRequests)
    (may : (Write.insertRoleRequest request).Onward start) :
    start.Onward db after := by
  intro evolved
  have isId : row.id.text = Varchar.cut 36 request.id := congrArg RoleRequest.id same
  have kept : ∀ id ∈ start.roleRequests.keys, after.roleRequests.find id = db.roleRequests.find id := fun id known =>
    Table.find_insert_other row _ _ id roleRequests fun isRow =>
      request_known_not_new start (Varchar.cut 36 request.id) id may known (isRow.trans isId)
  refine ⟨⟨users ▸ evolved.stay, users ▸ evolved.lives, fun id old found => ?_⟩,
    unchanged_undecided start db after kept⟩
  have known : id ∈ start.roleRequests.keys :=
    (Table.find_key id _ old found) ▸ List.mem_map_of_mem (Table.find_mem id _ old found)
  rw [kept id known]
  exact evolved.requests id old found

theorem request_updated_onward (id : String) (changes : RoleRequestChanges) (old row : RoleRequestRow)
    (found : db.roleRequests.find id = some old) (applied : changes.apply old = .ok row)
    (users : after.users = db.users) (roleRequests : after.roleRequests = db.roleRequests.replace row)
    (may : (Write.updateRoleRequest id changes).Onward start) :
    start.Onward db after := by
  intro evolved
  obtain ⟨sameId, sameUser⟩ := role_request_changes_keep changes old row applied
  have isKey : key row = id := (congrArg Varchar.text sameId).trans (Table.find_key id _ old found)
  simp only [RoleRequestChanges.apply, except_bind_ok] at applied
  obtain ⟨decisionNote, _, decidedBy, _, isRow⟩ := applied
  have here : after.roleRequests.find id = some row := by
    have present : key row ∈ db.roleRequests.keys := by
      rw [isKey, ← Table.find_key id _ old found]
      exact List.mem_map_of_mem (Table.find_mem id _ old found)
    rw [roleRequests, ← isKey]
    exact Table.find_replace_same row _ present
  have others : ∀ other, other ≠ id → after.roleRequests.find other = db.roleRequests.find other :=
      fun other different => by
    rw [roleRequests]
    exact Table.find_replace_other row _ other fun same => different (same.trans isKey)
  refine ⟨⟨users ▸ evolved.stay, users ▸ evolved.lives, fun other first isFirst => ?_⟩,
    fun other known late isLate pending => ?_⟩
  · obtain ⟨was, isWas, ages⟩ := evolved.requests other first isFirst
    by_cases same : other = id
    · subst same
      obtain ⟨wasPending, noRole, noDate, _⟩ := may first isFirst
      rw [found] at isWas
      cases isWas
      refine ⟨row, here, sameUser.trans ages.userId, ?_, ?_, fun decided => absurd wasPending decided⟩
      · cases isRow
        exact (congrArg (fun change => change.getD old.requestedRole) noRole).trans ages.requestedRole
      · cases isRow
        exact (congrArg (fun change => change.getD old.createdAt) noDate).trans ages.createdAt
    · exact ⟨was, (others other same).trans isWas, ages⟩
  · by_cases same : other = id
    · subst same
      obtain ⟨first, isFirst⟩ :=
        Option.ne_none_iff_exists'.mp fun missing => (Table.find_none_iff other start.roleRequests).mp missing known
      obtain ⟨_, _, _, notPending⟩ := may first isFirst
      refine ⟨old, found, ?_⟩
      cases here.symm.trans isLate
      cases isRow
      cases differs : changes.status with
      | none => simpa only [differs, Option.getD_none] using pending
      | some status =>
          simp only [differs, Option.getD_some] at pending
          exact absurd (differs.trans (congrArg some pending)) notPending
    · exact ⟨late, (others other same) ▸ isLate, pending⟩

theorem write_onward (write : Write) (may : write.Onward start) (run : db.write write = .ok after) :
    start.Onward db after := by
  have same : Db.SameAccounts db after → start.Onward db after := same_accounts_onward start db after
  cases Db.write_written write db after run with
  | userKept _ _ kept => exact same (kept ▸ ⟨rfl, rfl⟩)
  | requestKept _ _ kept => exact same (kept ▸ ⟨rfl, rfl⟩)
  | userInserted user row taken settled users roleRequests =>
      exact user_inserted_onward start db after user row settled users roleRequests may
  | userUpdated id changes old row found applied users roleRequests =>
      exact user_updated_onward start db after id changes old row found applied users roleRequests may
  | requestInserted request row isRequest users roleRequests =>
      exact request_inserted_onward start db after request row isRequest users roleRequests may
  | requestUpdated id changes =>
      cases found : db.roleRequests.find id with
      | none =>
          simp only [Db.write, found] at run
          split at run
          · cases run
            exact same ⟨rfl, rfl⟩
          · cases run
      | some old =>
          obtain ⟨row, applied, users, roleRequests, _⟩ :=
            (Db.write_update_role_request id changes db after old found).mp run
          exact request_updated_onward start db after id changes old row found applied users roleRequests may
  | outboxInserted _ _ _ _ users roleRequests => exact same ⟨users, roleRequests⟩
  | auditInserted _ users roleRequests => exact same ⟨users, roleRequests⟩

end Onward

section Programs

variable (start : Db)

theorem onward_refl (db : Db) : start.Onward db db :=
  fun evolved => ⟨evolved, unchanged_undecided start db db fun _ _ => rfl⟩

theorem flush_onward (writes : List Write) (may : ∀ write ∈ writes, write.Onward start) (db after : Db)
    (run : Db.flush writes db = .ok after) :
    start.Onward db after := by
  intro evolved
  refine Db.flush_keeps (fun now => start.Evolved now ∧ start.Undecided db now) (fun write => write.Onward start)
    (fun write now next allowed written reached => ?_)
    writes db after may run (onward_refl start db evolved)
  obtain ⟨still, undecided⟩ := write_onward start now next write allowed written reached.1
  exact ⟨still, undecided_trans start db now next reached.2 undecided⟩

theorem commit_onward (writes : List Write) (may : ∀ write ∈ writes, write.Onward start) :
    (commit writes).Steps start.Onward := by
  refine Prog.steps_atomic _ (onward_refl start) _ _ fun db answer after run => ?_
  cases flushed : Db.flush writes db with
  | error error =>
      rw [flushed] at run
      cases run
  | ok reached =>
      rw [flushed] at run
      cases run
      exact flush_onward start writes may db after flushed

theorem drafted_onward (first : Write) (may : first.Onward start) (drafts : List OutboxDraft) :
    (commit (first :: drafts.map .insertOutbox)).Steps start.Onward := by
  refine commit_onward start _ fun write member => ?_
  rcases List.mem_cons.mp member with isFirst | isDraft
  · exact isFirst ▸ may
  · obtain ⟨draft, _, same⟩ := List.mem_map.mp isDraft
    exact same ▸ trivial

variable (io : Surroundings)

theorem save_user_onward (user : User) (events : List DomainEvent) (short : user.id.length ≤ 36)
    (lives : start.Lives user.id user.state) :
    (saveUser io user events).Steps start.Onward := by
  refine Prog.steps_bind _ _ _ (select_steps _ _ _ (onward_refl start)) fun loaded => drafted_onward start _ ?_ _
  cases loaded with
  | none =>
      change start.Lives (Varchar.cut 36 user.id) user.state
      rw [Varchar.cut_short 36 user.id short]
      exact lives
  | some row => exact fun state differs => changed_some _ _ _ differs ▸ lives

theorem unknown_lives (id : String) (unknown : start.account id = none) : start.Lives id .active := by
  rw [Db.Lives, unknown]
  exact Or.inl rfl

theorem register_user_onward (unknown : io.Unknown start) (lower : Lower) (hasher : PasswordHasher)
    (email password displayName : String) :
    (registerUser lower hasher io email password displayName).Steps start.Onward := by
  refine Prog.steps_bind _ _ _ (Prog.steps_bind _ _ _ (select_steps _ _ _ (onward_refl start)) fun _ => trivial)
    fun found => ?_
  cases found with
  | some user => trivial
  | none => exact Prog.steps_bind _ _ _ (save_user_onward start io _ _ io.freshId.fits.1
      (unknown_lives start _ unknown.user)) fun _ => trivial

theorem request_role_onward (unknown : io.Unknown start) (userId : String) (requestedRole : Role) :
    (AuthProfile.requestRole io userId requestedRole).Steps start.Onward := by
  refine Prog.steps_bind _ _ _ (Prog.steps_bind _ _ _ (select_steps _ _ _ (onward_refl start)) fun _ => trivial)
    fun found => ?_
  cases found with
  | none => trivial
  | some user =>
      refine Prog.steps_ite _ _ _ _ trivial (Prog.steps_bind _ _ _ ?_ fun _ => trivial)
      refine Prog.steps_bind _ _ _ (select_steps _ _ _ (onward_refl start)) fun loaded => drafted_onward start _ ?_ _
      cases loaded with
      | none =>
          change start.roleRequests.find (Varchar.cut 36 io.freshId.text) = none
          rw [Varchar.cut_text 36 io.freshId]
          exact unknown.request
      | some row => exact fun old found => absurd (found.symm.trans unknown.request) (by simp)

-- Where an answer that is no error says that something was so.
def Vouches {α : Type} (fact : Prop) (answer : Except Error α) : Prop := ∀ value, answer = .ok value → fact

theorem vouches_error {α : Type} (fact : Prop) (error : Error) : Vouches fact (.error error : Except Error α) :=
  fun _ wrong => by cases wrong

theorem vouches_map {α β : Type} (fact : Prop) (answer : Except Error α) (render : α → β)
    (vouches : Vouches fact answer) :
    Vouches fact (answer.map render) := by
  cases answer with
  | error error => exact vouches_error fact error
  | ok value => exact fun _ _ => vouches value rfl

theorem active_not_rejected (id : String) (lives : start.Lives id .active) :
    (start.account id).map Account.state ≠ some .rejected := by
  intro rejected
  rw [Db.Lives, rejected] at lives
  cases lives

section Decisions

variable (rely : Db → Prop) (evolved : ∀ db, rely db → start.Evolved db) (fact : Prop)

theorem lift_domain_onward {α β : Type} (answer : Except DomainError α) (rest : α → Prog Db Error β)
    (later : ∀ value, answer = .ok value → (rest value).Meets rely start.Onward (Vouches fact)) :
    (liftDomain answer >>= rest).Meets rely start.Onward (Vouches fact) := by
  cases answer with
  | error error => exact vouches_error fact _
  | ok value => exact later value rfl

include evolved

theorem get_user_onward {α : Type} (userId : String) (rest : Option User → Prog Db Error α)
    (missing : (rest none).Meets rely start.Onward (Vouches fact))
    (found : ∀ user, user.id = userId → userId.length ≤ 36 → start.Lives userId user.state →
      (rest (some user)).Meets rely start.Onward (Vouches fact)) :
    (getUserById userId >>= rest).Meets rely start.Onward (Vouches fact) := by
  rw [getUserById, bind_assoc]
  refine meets_select_bind _ _ _ _ _ (onward_refl start) _ ⟨vouches_error fact _, vouches_error fact _⟩
    fun db relied => ?_
  cases isRow : db.users.find userId with
  | none => exact missing
  | some row =>
      have isUser : row.id.text = userId := Table.find_key _ _ row isRow
      have lives := (evolved db relied).lives row (Table.find_mem _ _ row isRow)
      rw [isUser] at lives
      exact found (toDomainUser row) isUser (isUser ▸ row.id.fits.1) lives

theorem administer_onward (targetUserId : String) (change : User → Except DomainError User)
    (moves : ∀ user changed, user.id = targetUserId → start.Lives targetUserId user.state → change user = .ok changed →
      changed.id = targetUserId ∧ start.Lives targetUserId changed.state ∧ fact) :
    (administer io targetUserId change).Meets rely start.Onward (Vouches fact) := by
  refine get_user_onward start rely evolved fact targetUserId _ (vouches_error fact _)
    fun user isTarget short lives => ?_
  refine lift_domain_onward start rely fact _ _ fun changed run => ?_
  obtain ⟨isId, living, isFact⟩ := moves user changed isTarget lives run
  refine Prog.meets_of_steps _ _ start.Onward _ _
    (save_user_onward start io changed.pullEvents.2 _ (isId.symm ▸ short) ?_) (fun _ _ _ => id) fun _ _ _ => isFact
  rw [show changed.pullEvents.2.id = targetUserId from isId]
  exact living

theorem decide_registration_onward (actorRole : Role) (targetUserId : String) (approve : Bool)
    (decidedBy reason : String) :
    (approveRegistration io actorRole targetUserId approve decidedBy reason).Meets rely start.Onward
      (Vouches ((start.account targetUserId).map Account.state = some .pending)) := by
  refine lift_domain_onward start rely _ _ _ fun _ _ => administer_onward start io rely evolved _ targetUserId _
    fun user changed isTarget lives run => ?_
  have moved : ∃ target event, user.state = .pending ∧ changed = { user with state := target }.raise event := by
    cases approve with
    | true => exact ⟨_, _, transition_ok user changed _ _ _ _ run⟩
    | false => exact ⟨_, _, transition_ok user changed _ _ _ _ run⟩
  obtain ⟨target, event, wasPending, same⟩ := moved
  rw [wasPending] at lives
  obtain ⟨isPending, leads⟩ := pending_leads_anywhere _ target lives
  subst same
  exact ⟨isTarget, leads, isPending⟩

theorem ban_user_onward (actorRole : Role) (targetUserId : String) (ban : Bool) (actorId reason : String) :
    (AuthProfile.banUser io actorRole targetUserId ban actorId reason).Meets rely start.Onward
      (Vouches ((start.account targetUserId).map Account.state ≠ some .rejected)) := by
  refine lift_domain_onward start rely _ _ _ fun _ _ => administer_onward start io rely evolved _ targetUserId _
    fun user changed isTarget lives run => ?_
  have swaps := active_leads_as_banned ((start.account targetUserId).map Account.state)
  cases ban with
  | true =>
      obtain ⟨wasActive, same⟩ := transition_ok user changed _ _ _ _ run
      rw [wasActive] at lives
      subst same
      exact ⟨isTarget, swaps.mp lives, active_not_rejected start targetUserId lives⟩
  | false =>
      obtain ⟨wasBanned, same⟩ := transition_ok user changed _ _ _ _ run
      rw [wasBanned] at lives
      subst same
      exact ⟨isTarget, swaps.mpr lives, active_not_rejected start targetUserId (swaps.mpr lives)⟩

theorem grant_role_onward (actorRole : Role) (targetUserId : String) (newRole : Role) (grantedBy : String) :
    (AuthProfile.grantRole io actorRole targetUserId newRole grantedBy).Meets rely start.Onward (Vouches True) := by
  refine lift_domain_onward start rely _ _ _ fun _ _ => administer_onward start io rely evolved _ targetUserId _
    fun user changed isTarget lives run => ?_
  cases run
  exact ⟨isTarget, lives, trivial⟩

-- A decided request finds the row as it was asked for.
theorem save_decided_onward (request : RoleRequest) (short : request.id.length ≤ 36)
    (decided : request.status ≠ .pending) (asked : ∀ old, start.roleRequests.find request.id = some old →
      old.status = .pending ∧ request.requestedRole = old.requestedRole ∧ request.createdAt = old.createdAt)
      (isFact : fact) :
    (saveRoleRequest io request []).Meets rely start.Onward (Vouches fact) := by
  refine meets_select_bind _ _ _ _ _ (onward_refl start) _ ⟨vouches_error fact _, vouches_error fact _⟩
    fun db relied => ?_
  refine Prog.meets_of_steps _ _ start.Onward _ _ (drafted_onward start _ ?_ _) (fun _ _ _ => id) fun _ _ _ => isFact
  cases found : db.roleRequests.find request.id with
  | none =>
      change start.roleRequests.find (Varchar.cut 36 request.id) = none
      rw [Varchar.cut_short 36 request.id short]
      refine Option.eq_none_iff_forall_ne_some.mpr fun old isOld => ?_
      obtain ⟨row, isRow, _⟩ := (evolved db relied).requests request.id old isOld
      rw [found] at isRow
      cases isRow
  | some row =>
      intro old isOld
      obtain ⟨wasPending, sameRole, sameDate⟩ := asked old isOld
      obtain ⟨now, isNow, ages⟩ := (evolved db relied).requests request.id old isOld
      rw [found] at isNow
      cases isNow
      refine ⟨wasPending, ?_, ?_, fun differs => decided (changed_some _ _ _ differs).symm⟩
      · exact if_pos (sameRole.trans ages.requestedRole.symm)
      · exact if_pos (sameDate.trans ages.createdAt.symm)

theorem grant_requested_onward (request : RoleRequest) (decidedBy : String) (isFact : fact) :
    (grantRequested io request decidedBy).Meets rely start.Onward (Vouches fact) := by
  refine get_user_onward start rely evolved fact request.userId _ (vouches_error fact _)
    fun user isUser short lives => ?_
  refine Prog.meets_of_steps _ _ start.Onward _ _ (save_user_onward start io _ _ (isUser.symm ▸ short) ?_)
    (fun _ _ _ => id)
    fun _ _ _ => isFact
  rw [show (user.changeRole request.requestedRole decidedBy).pullEvents.2.id = request.userId from isUser]
  exact lives

theorem decide_role_request_onward (actorRole : Role) (requestId : String) (approve : Bool) (decidedBy note : String) :
    (decideRoleRequest io actorRole requestId approve decidedBy note).Meets rely start.Onward
      (Vouches (∀ old, start.roleRequests.find requestId = some old → old.status = .pending)) := by
  refine lift_domain_onward start rely _ _ _ fun _ _ => ?_
  rw [getRoleRequestById, bind_assoc]
  refine meets_select_bind _ _ _ _ _ (onward_refl start) _ ⟨vouches_error _ _, vouches_error _ _⟩ fun db relied => ?_
  cases found : db.roleRequests.find requestId with
  | none => exact vouches_error _ _
  | some row =>
      have isId : row.id.text = requestId := Table.find_key _ _ row found
      subst isId
      have asked : row.status = .pending → ∀ old, start.roleRequests.find row.id.text = some old →
          old.status = .pending ∧ row.requestedRole = old.requestedRole ∧ row.createdAt = old.createdAt :=
            fun pending old isOld => by
        obtain ⟨now, isNow, ages⟩ := (evolved db relied).requests row.id.text old isOld
        rw [found] at isNow
        cases isNow
        refine ⟨?_, ages.requestedRole, ages.createdAt⟩
        by_contra other
        exact other (ages.decided other ▸ pending)
      cases approve with
      | false =>
          refine lift_domain_onward start rely _ _ _ fun decided run => ?_
          obtain ⟨wasPending, same⟩ := role_request_decide_ok (toDomainRoleRequest row) decided _ _ _ run
          subst same
          exact save_decided_onward start io rely evolved _ _ row.id.fits.1 (fun wrong => by cases wrong)
            (asked wasPending) fun old isOld => (asked wasPending old isOld).1
      | true =>
          refine lift_domain_onward start rely _ _ _ fun decided run => ?_
          obtain ⟨wasPending, same⟩ := role_request_decide_ok (toDomainRoleRequest row) decided _ _ _ run
          subst same
          refine Prog.meets_bind _ _ _ _ _ (Prog.meets_mono _ _ _ _ _ (fun answer _ => ?_)
            (grant_requested_onward start io rely evolved True _ decidedBy trivial))
          cases answer with
          | error error => exact vouches_error _ _
          | ok _ =>
              exact save_decided_onward start io rely evolved _ _ row.id.fits.1 (fun wrong => by cases wrong)
                (asked wasPending) fun old isOld => (asked wasPending old isOld).1

end Decisions

end Programs

-- What must have been for a decision to go through.
def RoleAdminRequest.Timely (start : Db) : RoleAdminRequest → Prop
  | .decideRegistration userId _ => (start.account userId).map Account.state = some .pending
  | .decideRoleRequest requestId _ => ∀ old, start.roleRequests.find requestId = some old → old.status = .pending
  | .banUser userId _ => (start.account userId).map Account.state ≠ some .rejected
  | .unbanUser userId => (start.account userId).map Account.state ≠ some .rejected
  | _ => True

section Arrivals

variable (start : Db)

theorem no_content_onward (fact : Prop) (handler : Prog Db Error Unit)
    (met : handler.Meets start.Evolved start.Onward (Vouches fact)) :
    (RoleAdminRequest.noContent handler).Meets start.Evolved start.Onward (Vouches fact) :=
  Prog.meets_rendered _ _ _ _ _
    (Prog.meets_mono _ _ _ _ _ (fun answer vouches => vouches_map fact answer _ vouches) met)

theorem of_except_onward {α β : Type} (fact : Prop) (answer : Except Error α) (rest : α → Prog Db Error β)
    (later : ∀ value, (rest value).Meets start.Evolved start.Onward (Vouches fact)) :
    (Prog.ofExcept answer >>= rest).Meets start.Evolved start.Onward (Vouches fact) := by
  cases answer with
  | error error => exact vouches_error fact error
  | ok value => exact later value

theorem role_admin_onward (io : Surroundings) (unknown : io.Unknown start) (provider : JwtTokenProvider)
    (signed : List String) (credentials : String) (request : RoleAdminRequest) :
    (request.route provider signed io credentials).Meets start.Evolved start.Onward
      (Vouches (request.Timely start)) := by
  have evolved : ∀ db, start.Evolved db → start.Evolved db := fun _ => id
  refine of_except_onward start _ _ _ fun caller => of_except_onward start _ _ _ fun _ => ?_
  cases request with
  | requestRole body =>
      refine Prog.meets_of_steps _ _ start.Onward _ _ ?_ (fun _ _ _ => id) fun _ _ _ => trivial
      refine Prog.steps_bind _ _ _ (Prog.steps_bind _ _ _ ?_ fun role => ?_) fun _ => trivial
      · exact Prog.steps_mono _ _ (fun db _ same => same ▸ onward_refl start db) _ (Prog.reads_of_except _).steps
      · exact Prog.steps_bind _ _ _ (request_role_onward start io unknown caller.userId role) fun _ => trivial
  | decideRoleRequest requestId body =>
      exact no_content_onward start _ _ (decide_role_request_onward start io _ evolved _ requestId _ _ _)
  | decideRegistration userId body =>
      exact no_content_onward start _ _ (decide_registration_onward start io _ evolved _ userId _ _ _)
  | grantRole userId body =>
      refine no_content_onward start _ _ (of_except_onward start _ _ _ fun role => ?_)
      exact grant_role_onward start io _ evolved _ userId role _
  | banUser userId body => exact no_content_onward start _ _ (ban_user_onward start io _ evolved _ userId true _ _)
  | unbanUser userId => exact no_content_onward start _ _ (ban_user_onward start io _ evolved _ userId false _ _)

def Arrival.Timely (arrival : Arrival) (answer : Except Error Outcome) : Prop :=
  ∀ credentials request draws, arrival = .http (.roleAdmin credentials request) draws →
    Vouches (request.Timely start) answer

variable (deployment : Deployment) (signed : List String)

theorem on_db_onward {α : Type} (fit : Except Error α → Prop) (p : Prog Db Error α)
    (met : p.Meets start.Evolved start.Onward fit) :
    ((p.focus Stores.onDb).focus WireStores.onStores).Meets (fun wire => start.Evolved wire.stores.db)
      (fun before after => start.Onward before.stores.db after.stores.db) fit :=
  Prog.meets_focus (fun stores => start.Evolved stores.db)
    (fun before after => start.Onward before.db after.db) WireStores.onStores _ _
    (fun _ evolved => evolved) (fun _ _ _ moved => moved) fit _
    (Prog.meets_focus start.Evolved start.Onward Stores.onDb _ _ (fun _ evolved => evolved)
      (fun _ _ _ moved => moved) fit p met)

theorem arrival_onward (arrival : Arrival)
    (unknown : ∀ request draws, arrival = .http request draws → draws.io.Unknown start) :
    (arrival.program deployment signed).Meets (fun wire => start.Evolved wire.stores.db)
      (fun before after => start.Onward before.stores.db after.stores.db) (arrival.Timely start) := by
  have apart : arrival.Bystands → (arrival.program deployment signed).Meets (fun wire => start.Evolved wire.stores.db)
      (fun before after => start.Onward before.stores.db after.stores.db) (arrival.Timely start) := fun bystands =>
    Prog.meets_of_steps _ _ _ _ _ (bystander_steps deployment signed arrival bystands)
      (fun _ _ _ => same_accounts_onward start _ _)
      fun _ credentials request draws isRoleAdmin => absurd isRoleAdmin (bystands.roleAdmin credentials request draws)
  cases arrival with
  | socket | record | wallet | relay =>
      exact apart ⟨(fun _ _ wrong => by cases wrong), fun _ _ _ wrong => by cases wrong⟩
  | http request draws =>
      have fresh := unknown request draws rfl
      cases request with
      | login | refresh | logout | directory | ownProfile | profile =>
          exact apart ⟨(fun _ _ wrong => by cases wrong), fun _ _ _ wrong => by cases wrong⟩
      | register body =>
          refine Prog.meets_rendered _ _ _ _ _ (Prog.meets_rendered _ _ _ _ _ (on_db_onward start _ _ ?_))
          refine Prog.meets_of_steps _ _ start.Onward _ _ ?_ (fun _ _ _ => id) fun _ _ _ _ wrong => by cases wrong
          exact Prog.steps_bind _ _ _ (register_user_onward start draws.io fresh _ _ _ _ _) fun _ => trivial
      | roleAdmin credentials request =>
          refine Prog.meets_rendered _ _ _ _ _ (Prog.meets_rendered _ _ _ _ _ (on_db_onward start _ _ ?_))
          refine Prog.meets_mono _ _ _ _ _ (fun answer timely _ _ _ isRequest => ?_)
            (role_admin_onward start draws.io fresh deployment.provider signed credentials request)
          cases isRequest
          exact vouches_map _ _ _ (vouches_map _ _ _ timely)

end Arrivals

namespace App

variable (deployment : Deployment) (before : List String) (wire : WireStores)

-- In every store of a run every account is where its state at the start may lead, no new one
-- is PENDING or REJECTED, and no request is lost, rewritten, reopened or decided again;
-- decisions that went through were of what was PENDING at the start.
theorem accounts_go_onward (events : List (ServerEvent Arrival))
    (unknown : ∀ request draws, .arrives (.http request draws) ∈ events → draws.io.Unknown wire.stores.db) :
    (∀ wire' ∈ stores deployment before wire events, wire.stores.db.Evolved wire'.stores.db ∧
      wire.stores.db.Undecided wire'.stores.db (run deployment before wire events).store.stores.db) ∧
    ∀ credentials request draws outcome,
      (.http (.roleAdmin credentials request) draws, .ok outcome) ∈ (run deployment before wire events).answers →
      request.Timely wire.stores.db := by
  have serves : ∀ arrival answers, .arrives arrival ∈ events → (serve deployment before arrival answers).Meets
      (fun wire' => wire.stores.db.Evolved wire'.stores.db)
        (fun now later => wire.stores.db.Onward now.stores.db later.stores.db)
      (arrival.Timely wire.stores.db) := fun arrival answers arrives =>
    arrival_onward wire.stores.db deployment _ arrival fun request draws isRequest =>
      unknown request draws (isRequest ▸ arrives)
  obtain ⟨evolved, timely⟩ := Server.run_sound (serve deployment before) (fun arrival => arrival.Timely wire.stores.db)
    (fun wire' => wire.stores.db.Evolved wire'.stores.db) ⟨wire, [], []⟩ (evolved_refl _)
      (Server.idle_meeting _ _ _ wire) events
    fun arrival answers arrives _ => Prog.meets_widen _ _ _ (fun _ _ evolved onward => (onward evolved).1) _ _
      (serves arrival answers arrives)
  have undecided := Server.run_reaches (serve deployment before) _ _ (fun arrival => arrival.Timely wire.stores.db)
    (fun now later => wire.stores.db.Undecided now.stores.db later.stores.db)
      (fun _ => unchanged_undecided _ _ _ fun _ _ => rfl)
    (fun _ _ _ => undecided_trans _ _ _ _) (fun _ _ _ evolved onward => (onward evolved).2) ⟨wire, [], []⟩
    (Server.idle_meeting _ _ _ wire) events evolved fun arrival answers arrives _ => serves arrival answers arrives
  refine ⟨fun wire' member => ⟨evolved wire' member, undecided wire' member⟩,
    fun credentials request draws outcome answered => ?_⟩
  exact timely _ answered credentials request draws rfl outcome rfl

end App

-- An account from before registrations were active at once, and what it has asked for.
def waitingUser : UserRow where
  id := ⟨"w1", by decide⟩
  email := ⟨"dora@arcadia.com", by decide⟩
  passwordHash := ⟨"salty", by decide⟩
  displayName := ⟨"Dora", by decide⟩
  role := .basicUser
  state := .pending
  createdAt := 5

def waitingRequest : RoleRequestRow where
  id := ⟨"r2", by decide⟩
  userId := ⟨"w1", by decide⟩
  requestedRole := .developer
  status := .pending
  decisionNote := none
  decidedBy := none
  createdAt := 6

def waitingService : WireStores where
  stores := {
    db := {
      users := ⟨[seededRow, waitingUser], by decide⟩
      roleRequests := ⟨[waitingRequest], by decide⟩
      outbox := Table.empty
      loginAudit := Table.empty
      uniqueEmail := by decide
      requesters := by decide }
    redis := .empty }
  profiles := .empty
  handed := []

def Draws.other : Draws where
  io := { otherIo with now := (Circumstances.sample 7).now }
  read := .sample 7
  accessJti := sampleLogin.accessJti
  refreshJti := sampleLogin.refreshJti
  sameClock := rfl

-- The admin rejects the registration while it approves what the account has asked for.
def adminDecides : List (ServerEvent Arrival) :=
  [.arrives (.http (.roleAdmin sampleAccess (.decideRoleRequest "r2" ⟨true, none⟩)) .sample),
    .arrives (.http (.roleAdmin sampleAccess (.decideRegistration "w1" ⟨false, some "late"⟩)) .other)] ++
      List.replicate 9 (.moves 0 .none)

theorem decider_unknown (request : HttpRequest) (draws : Draws)
    (arrives : .arrives (.http request draws) ∈ adminDecides) :
    draws.io.Unknown waitingService.stores.db := by
  simp only [adminDecides, List.mem_append, List.mem_replicate, List.mem_cons, List.not_mem_nil, or_false,
    reduceCtorEq, and_false,
    ServerEvent.arrives.injEq, Arrival.http.injEq] at arrives
  rcases arrives with ⟨_, isSample⟩ | ⟨_, isOther⟩
  · exact isSample ▸ ⟨rfl, rfl⟩
  · exact isOther ▸ ⟨rfl, rfl⟩

theorem dora_goes_onward :
    (∀ wire' ∈ App.stores sampleDeployment [sampleAccess] waitingService adminDecides,
      waitingService.stores.db.Evolved wire'.stores.db ∧
      waitingService.stores.db.Undecided wire'.stores.db
        (App.run sampleDeployment [sampleAccess] waitingService adminDecides).store.stores.db) ∧
    ∀ credentials request draws outcome,
      (.http (.roleAdmin credentials request) draws, .ok outcome) ∈
        (App.run sampleDeployment [sampleAccess] waitingService adminDecides).answers →
      request.Timely waitingService.stores.db :=
  App.accounts_go_onward sampleDeployment [sampleAccess] waitingService adminDecides decider_unknown

end AuthProfile
