import AuthProfile.Accounts
import AuthProfile.UseCases.Auth

set_option autoImplicit false

namespace AuthProfile

open Relation Process UserRepository

inductive Call where
  | registerUser (email password displayName : String)
  | seedSuperAdmin (email password displayName : String)
  | approveRegistration (actorRole : Role) (targetUserId : String) (approve : Bool) (decidedBy reason : String)
  | banUser (actorRole : Role) (targetUserId : String) (ban : Bool) (actorId reason : String)
  | grantRole (actorRole : Role) (targetUserId : String) (newRole : Role) (grantedBy : String)
  | requestRole (userId : String) (requestedRole : Role)
  | decideRoleRequest (actorRole : Role) (requestId : String) (approve : Bool) (decidedBy note : String)

-- The Unicode tables and the password hasher the service runs with.
structure Platform where
  lower : Lower
  hasher : PasswordHasher

namespace Call

def program (platform : Platform) (io : Surroundings) : Call → Prog Db Error Unit
  | .registerUser email password displayName => do
      let _ ← AuthProfile.registerUser platform.lower platform.hasher io email password displayName
  | .seedSuperAdmin email password displayName =>
      AuthProfile.seedSuperAdmin platform.lower platform.hasher io email password displayName
  | .approveRegistration actorRole targetUserId approve decidedBy reason =>
      AuthProfile.approveRegistration io actorRole targetUserId approve decidedBy reason
  | .banUser actorRole targetUserId ban actorId reason =>
      AuthProfile.banUser io actorRole targetUserId ban actorId reason
  | .grantRole actorRole targetUserId newRole grantedBy =>
      AuthProfile.grantRole io actorRole targetUserId newRole grantedBy
  | .requestRole userId requestedRole => do
      let _ ← AuthProfile.requestRole io userId requestedRole
  | .decideRoleRequest actorRole requestId approve decidedBy note =>
      AuthProfile.decideRoleRequest io actorRole requestId approve decidedBy note

end Call

structure Invocation where
  call : Call
  io : Surroundings
  script : List Fault

def Invocation.outcome (platform : Platform) (invocation : Invocation) (db : Db) : Outcome Db Error Unit :=
  (invocation.call.program platform invocation.io).exec invocation.script db

def runCalls (platform : Platform) (invocations : List Invocation) (db : Db) : Db :=
  invocations.foldl (fun db invocation => (invocation.outcome platform db).store) db

def Call.may (io : Surroundings) (db : Db) (id : String) (event : AccountEvent) : Call → Prop
  | .registerUser _ _ _ => id = io.freshId.text ∧ event = .registered .basicUser .active
  | .seedSuperAdmin _ _ _ => id = io.freshId.text ∧ event = .registered .admin .active
  | .approveRegistration _ targetUserId approve _ _ =>
      id = targetUserId ∧ event = if approve then .approved else .rejected
  | .banUser _ targetUserId ban _ _ => id = targetUserId ∧ event = if ban then .banned else .unbanned
  | .grantRole actorRole targetUserId newRole _ =>
      id = targetUserId ∧ actorRole = .admin ∧ ∃ oldRole, event = .roleGranted oldRole newRole
  | .requestRole _ _ => False
  | .decideRoleRequest actorRole requestId approve _ _ =>
      approve = true ∧ (actorRole = .support ∨ actorRole = .admin) ∧
        ∃ row, db.roleRequests.find requestId = some row ∧ row.status = .pending ∧ id = row.userId.text ∧
          ∃ oldRole, event = .roleGranted oldRole row.requestedRole

inductive Db.Moved (may : String → AccountEvent → Prop) (before after : Db) : Prop where
  | still (drafts : List OutboxDraft) (users : after.users = before.users) (outbox : Db.Appends drafts before after)
      (readable : Readable drafts) (silent : ∀ id, accountEvents id drafts = [])
  | account (id : String) (event : AccountEvent) (allowed : may id event)
      (saved : Db.AccountSaved id event before after)

theorem moved_refl (may : String → AccountEvent → Prop) (db : Db) : Db.Moved may db db :=
  .still [] rfl (.refl db db rfl) (fun _ member => nomatch member) fun _ => rfl

theorem readable_append (first later : List OutboxDraft) (readableFirst : Readable first)
    (readableLater : Readable later) :
    Readable (first ++ later) :=
  fun draft member => (List.mem_append.mp member).elim (readableFirst draft) (readableLater draft)

theorem moved_request (may : String → AccountEvent → Prop) (io : Surroundings) (request : RoleRequest)
    (events : List DomainEvent) (before between after : Db) (moved : Db.Moved may before between)
    (saved : Db.RoleRequestSaved request (outboxDrafts io "RoleRequest" request.id events) between after) :
    Db.Moved may before after := by
  have silent : ∀ id, accountEvents id (outboxDrafts io "RoleRequest" request.id events) = [] :=
    fun id => account_events_drafts_other io _ _ id events (Or.inl (by decide))
  have readable : Readable (outboxDrafts io "RoleRequest" request.id events) :=
    drafts_readable io _ _ _ fun isUser => absurd isUser (by decide)
  have accounts : ∀ id, after.account id = between.account id := by
    intro id
    rw [Db.account, saved.users, Db.account]
  cases moved with
  | still drafts users outbox wellFormed quiet =>
      refine .still _ (saved.users.trans users) (outbox.trans _ _ _ _ _ saved.outbox)
        (readable_append _ _ wellFormed readable) fun id => ?_
      rw [account_events_append, quiet id, silent id, List.nil_append]
  | account id event allowed step =>
      obtain ⟨⟨drafts, outbox, wellFormed, own, foreign⟩, legal, follows, others⟩ := step
      refine .account id event allowed
        ⟨⟨_, outbox.trans _ _ _ _ _ saved.outbox, readable_append _ _ wellFormed readable, ?_,
        fun other different => ?_⟩, legal, ?_, ?_⟩
      · rw [account_events_append, own, silent id, List.append_nil]
      · rw [account_events_append, foreign other different, silent other, List.append_nil]
      · rw [accounts id, follows]
      · intro other different
        rw [accounts other, others other different]

section Calls

variable (io : Surroundings) (db : Db)

theorem administer_moves (may : String → AccountEvent → Prop) (targetUserId : String)
    (change : User → Except DomainError User)
    (raises : ∀ user changed, user.id = targetUserId → change user = .ok changed →
      ∃ event, user.Raises changed event ∧ may user.id event) :
    (administer io targetUserId change).wp (fun _ after => Db.Moved may db after) db := by
  refine wp_administer _ io db targetUserId change (fun user changed isTarget run => ?_) (fun _ => moved_refl may db)
    fun row changed after found run saved => ?_
  · obtain ⟨_, raised, _⟩ := raises user changed isTarget run
    exact raised.id
  have isTarget : (toDomainUser row).id = targetUserId := Table.find_key targetUserId db.users row found
  obtain ⟨event, raised, allowed⟩ := raises (toDomainUser row) changed isTarget run
  have present : db.account (toDomainUser row).id = some (toDomainUser row).account := by
    rw [Db.account, isTarget, found]
    rfl
  have step := account_saved io (toDomainUser row) changed event db after present rfl raised saved
  exact ⟨.account _ event allowed step, .account _ event allowed step⟩

theorem create_moves (may : String → AccountEvent → Prop) (role : Role) (lower : Lower)
    (email passwordHash displayName : String) (allowed : may io.freshId.text (.registered role .active)) (after : Db)
    (saved : let user := User.create role lower io.freshId.text io.now email passwordHash displayName
      Db.UserSaved user.pullEvents.2 (outboxDrafts io "User" user.pullEvents.2.id user.pullEvents.1) db after) :
    Db.Moved may db after := by
  obtain ⟨domainEvent, pending, tells⟩ := create_raises role lower io.freshId.text io.now email passwordHash displayName
  have outbox := saved.outbox
  rw [User.pullEvents, pending] at outbox
  refine .account io.freshId.text _ allowed ⟨⟨_, outbox, ?_, ?_, fun other different => ?_⟩, trivial, ?_,
    fun other different => ?_⟩
  · refine drafts_readable io _ _ _ fun _ raised member => ?_
    cases List.mem_singleton.mp member
    rw [tells]
    rfl
  · refine (account_events_drafts io _ domainEvent).trans ?_
    rw [tells]
    rfl
  · exact account_events_drafts_other io _ _ _ _ (Or.inr (Ne.symm different))
  · exact account_of_saved _ _ db after saved
  · exact account_of_others _ _ db after saved other different

theorem wp_lift_unit {α : Type} (post : Except Error α → Db → Prop) (answer : Except DomainError Unit)
    (rest : Prog Db Error α) (refused : ∀ error, post (.error error) db) (allowed : answer = .ok () → rest.wp post db) :
    (liftDomain answer >>= fun _ => rest).wp post db := by
  rw [Prog.wp_bind]
  exact wp_lift_domain _ answer db (fun _ _ => refused _) fun _ ok => allowed ok

theorem approve_registration_moves (actorRole : Role) (targetUserId : String) (approve : Bool)
    (decidedBy reason : String) :
    (approveRegistration io actorRole targetUserId approve decidedBy reason).wp (fun _ after =>
      Db.Moved (fun id event => Call.may io db id event
        (.approveRegistration actorRole targetUserId approve decidedBy reason))
        db after) db := by
  refine wp_lift_unit db _ _ _ (fun _ => moved_refl _ db) fun _ => administer_moves io db _ _ _ ?_
  intro user changed isTarget run
  cases approve with
  | true => exact ⟨.approved, approve_registration_raises user changed decidedBy run, isTarget, rfl⟩
  | false => exact ⟨.rejected, reject_registration_raises user changed decidedBy reason run, isTarget, rfl⟩

theorem ban_user_moves (actorRole : Role) (targetUserId : String) (ban : Bool) (actorId reason : String) :
    (banUser io actorRole targetUserId ban actorId reason).wp
      (fun _ after =>
        Db.Moved (fun id event =>
          Call.may io db id event (.banUser actorRole targetUserId ban actorId reason)) db after)
      db := by
  refine wp_lift_unit db _ _ _ (fun _ => moved_refl _ db) fun _ => administer_moves io db _ _ _ ?_
  intro user changed isTarget run
  cases ban with
  | true => exact ⟨.banned, ban_raises user changed actorId reason run, isTarget, rfl⟩
  | false => exact ⟨.unbanned, unban_raises user changed actorId run, isTarget, rfl⟩

theorem grant_role_moves (actorRole : Role) (targetUserId : String) (newRole : Role) (grantedBy : String) :
    (grantRole io actorRole targetUserId newRole grantedBy).wp
      (fun _ after =>
        Db.Moved (fun id event =>
          Call.may io db id event (.grantRole actorRole targetUserId newRole grantedBy)) db after)
      db := by
  refine wp_lift_unit db _ _ _ (fun _ => moved_refl _ db) fun granter => administer_moves io db _ _ _ ?_
  intro user changed isTarget run
  cases run
  have isAdmin := (RolePolicy.assert_can_grant_ok actorRole newRole).mp granter
  exact ⟨_, change_role_raises user newRole grantedBy, isTarget, isAdmin, user.role, rfl⟩

theorem register_user_moves (platform : Platform) (email password displayName : String) :
    (registerUser platform.lower platform.hasher io email password displayName).wp (fun _ after =>
      Db.Moved (fun id event => Call.may io db id event (.registerUser email password displayName)) db after) db := by
  refine wp_get_user_by_email _ _ _ db (fun _ => moved_refl _ db) fun existing => ?_
  cases existing with
  | some user => exact moved_refl _ db
  | none =>
      dsimp only
      rw [Prog.wp_bind]
      refine wp_save_user _ io _ io.freshId.fits.1 _ db (fun _ => moved_refl _ db) fun after saved => ?_
      exact and_self_iff.mpr (create_moves io db _ _ _ _ _ _ ⟨rfl, rfl⟩ after saved)

theorem seed_super_admin_moves (platform : Platform) (email password displayName : String) :
    (seedSuperAdmin platform.lower platform.hasher io email password displayName).wp (fun _ after =>
      Db.Moved (fun id event => Call.may io db id event (.seedSuperAdmin email password displayName)) db after) db := by
  refine wp_get_user_by_email _ _ _ db (fun _ => moved_refl _ db) fun existing => ?_
  cases existing with
  | some user => exact moved_refl _ db
  | none =>
      refine wp_save_user _ io _ io.freshId.fits.1 _ db (fun _ => moved_refl _ db) fun after saved => ?_
      exact and_self_iff.mpr (create_moves io db _ _ _ _ _ _ ⟨rfl, rfl⟩ after saved)

theorem request_role_moves (userId : String) (requestedRole : Role) :
    (requestRole io userId requestedRole).wp (fun _ after =>
      Db.Moved (fun id event => Call.may io db id event (.requestRole userId requestedRole)) db after) db := by
  refine wp_get_user_by_id _ userId _ db (fun _ => moved_refl _ db) ?_
  cases db.users.find userId with
  | none => exact moved_refl _ db
  | some row =>
      simp only [Option.map_some]
      split
      · exact moved_refl _ db
      · rw [Prog.wp_bind]
        refine wp_save_role_request _ io _ io.freshId.fits.1 _ db (fun _ => moved_refl _ db) fun after saved => ?_
        exact and_self_iff.mpr (moved_request _ io _ _ db db after (moved_refl _ db) saved)

-- A grant saves the requester; the request is saved after it in a commit of its own.
theorem grant_requested_moves (may : String → AccountEvent → Prop) (request : RoleRequest) (decidedBy : String)
    (allowed : ∀ oldRole, may request.userId (.roleGranted oldRole request.requestedRole)) :
    (grantRequested io request decidedBy).wp (fun _ after => Db.Moved may db after) db := by
  refine wp_get_user_by_id _ request.userId _ db (fun _ => moved_refl _ db) ?_
  cases found : db.users.find request.userId with
  | none => exact moved_refl _ db
  | some row =>
      simp only [Option.map_some]
      refine wp_save_user _ io _ row.id.fits.1 _ db (fun _ => moved_refl _ db) fun after saved => ?_
      have isRequester : (toDomainUser row).id = request.userId := Table.find_key _ db.users row found
      have present : db.account (toDomainUser row).id = some (toDomainUser row).account := by
        rw [Db.account, isRequester, found]
        rfl
      have step := account_saved io (toDomainUser row) _ _ db after present rfl
        (change_role_raises (toDomainUser row) request.requestedRole decidedBy) saved
      have moved : Db.Moved may db after := .account _ _ (isRequester ▸ allowed row.role) step
      exact ⟨moved, moved⟩

theorem role_request_decide_ok (request decided : RoleRequest) (status : RoleRequestStatus) (decidedBy note : String)
    (run : request.decide status decidedBy note = .ok decided) :
    request.status = .pending ∧
      decided = { request with status := status, decidedBy := some decidedBy, decisionNote := some note } := by
  by_cases pending : request.status = .pending
  · simp only [RoleRequest.decide, pending, ne_eq, not_true_eq_false, if_false, Except.ok.injEq] at run
    exact ⟨pending, run.symm⟩
  · simp only [RoleRequest.decide, ne_eq, pending, not_false_eq_true, if_true] at run
    cases run

theorem decide_role_request_moves (actorRole : Role) (requestId : String) (approve : Bool) (decidedBy note : String) :
    (decideRoleRequest io actorRole requestId approve decidedBy note).wp (fun _ after =>
      Db.Moved (fun id event => Call.may io db id event (.decideRoleRequest actorRole requestId approve decidedBy note))
        db after) db := by
  refine wp_lift_unit db _ _ _ (fun _ => moved_refl _ db) fun staff => ?_
  refine wp_get_role_request_by_id _ requestId _ db (fun _ => moved_refl _ db) ?_
  cases found : db.roleRequests.find requestId with
  | none => exact moved_refl _ db
  | some row =>
      have isStaff := (RolePolicy.assert_staff_ok _ actorRole).mp staff
      simp only [Option.map_some, decideFound]
      cases approve with
      | false =>
          simp only [Bool.false_eq_true, if_false]
          rw [Prog.wp_bind]
          refine wp_lift_domain _ _ db (fun _ _ => moved_refl _ db) fun decided run => ?_
          obtain ⟨_, same⟩ := role_request_decide_ok (toDomainRoleRequest row) decided _ decidedBy note run
          have short : decided.id.length ≤ 36 := same ▸ row.id.fits.1
          refine wp_save_role_request _ io decided short _ db (fun _ => moved_refl _ db) fun after saved => ?_
          exact and_self_iff.mpr (moved_request _ io _ _ db db after (moved_refl _ db) saved)
      | true =>
          simp only [if_true]
          rw [Prog.wp_bind]
          refine wp_lift_domain _ _ db (fun _ _ => moved_refl _ db) fun decided run => ?_
          obtain ⟨pending, same⟩ := role_request_decide_ok (toDomainRoleRequest row) decided _ decidedBy note run
          have sameUser : decided.userId = row.userId.text := congrArg RoleRequest.userId same
          have sameRole : decided.requestedRole = row.requestedRole := congrArg RoleRequest.requestedRole same
          have granted := grant_requested_moves io db
            (fun id event => Call.may io db id event (.decideRoleRequest actorRole requestId true decidedBy note))
              decided decidedBy
            fun oldRole => ⟨rfl, isStaff, row, found, pending, sameUser, oldRole, by rw [sameRole]⟩
          dsimp only
          rw [Prog.wp_bind]
          refine Prog.wp_mono _ _ _ db (fun result between moved => ?_) granted
          cases result with
          | error error => exact moved
          | ok done =>
              have short : decided.id.length ≤ 36 := same ▸ row.id.fits.1
              refine wp_save_role_request _ io decided short _ between (fun _ => moved) fun after saved => ?_
              exact and_self_iff.mpr (moved_request _ io _ _ db between after moved saved)

end Calls

theorem call_moves (platform : Platform) (io : Surroundings) (db : Db) (call : Call) (script : List Fault) :
    Db.Moved (fun id event => call.may io db id event) db ((call.program platform io).exec script db).store := by
  have holds : (call.program platform io).wp
      (fun _ after => Db.Moved (fun id event => call.may io db id event) db after) db := by
    cases call with
    | registerUser email password displayName =>
        exact (Prog.wp_bind _ _ _ _).mpr
          (Prog.wp_mono _ _ _ db (fun result after moved => by cases result <;> exact moved)
          (register_user_moves io db platform email password displayName))
    | seedSuperAdmin email password displayName =>
        exact seed_super_admin_moves io db platform email password displayName
    | approveRegistration actorRole targetUserId approve decidedBy reason =>
        exact approve_registration_moves io db actorRole targetUserId approve decidedBy reason
    | banUser actorRole targetUserId ban actorId reason =>
        exact ban_user_moves io db actorRole targetUserId ban actorId reason
    | grantRole actorRole targetUserId newRole grantedBy =>
        exact grant_role_moves io db actorRole targetUserId newRole grantedBy
    | requestRole userId requestedRole =>
        exact (Prog.wp_bind _ _ _ _).mpr
          (Prog.wp_mono _ _ _ db (fun result after moved => by cases result <;> exact moved)
          (request_role_moves io db userId requestedRole))
    | decideRoleRequest actorRole requestId approve decidedBy note =>
        exact decide_role_request_moves io db actorRole requestId approve decidedBy note
  exact Prog.wp_exec _ _ db holds script

end AuthProfile
