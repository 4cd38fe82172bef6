import AuthProfile.Calls
import AuthProfile.Db.OutboxGrowth
import AuthProfile.Process.Pool

set_option autoImplicit false

namespace AuthProfile

open Relation Process UserRepository

section Steps

variable (io : Surroundings)

theorem steps_commit (writes : List Write) : (commit writes).Steps Db.OutboxGrows := by
  refine Prog.steps_atomic Db.OutboxGrows Db.grows_refl _ _ fun db answer after run => ?_
  cases flushed : Db.flush writes db with
  | error error =>
      rw [flushed] at run
      cases run
  | ok next =>
      rw [flushed] at run
      cases run
      exact Db.flush_grows writes db _ flushed

theorem steps_select {α β : Type} (parameters : List String) (view : Db → β) (rest : β → Prog Db Error α)
    (later : ∀ value, (rest value).Steps Db.OutboxGrows) : (select parameters view >>= rest).Steps Db.OutboxGrows :=
  Prog.steps_bind _ _ _ (select_steps parameters view _ Db.grows_refl) later

theorem steps_lift_domain {α β : Type} (answer : Except DomainError α) (rest : α → Prog Db Error β)
    (later : ∀ value, (rest value).Steps Db.OutboxGrows) : (liftDomain answer >>= rest).Steps Db.OutboxGrows := by
  cases answer with
  | error error => trivial
  | ok value => exact later value

theorem steps_save_user (user : User) (events : List DomainEvent) : (saveUser io user events).Steps Db.OutboxGrows :=
  steps_select _ _ _ fun _ => steps_commit _

theorem steps_save_role_request (request : RoleRequest) (events : List DomainEvent) :
    (saveRoleRequest io request events).Steps Db.OutboxGrows := steps_select _ _ _ fun _ => steps_commit _

theorem steps_get_user_by_id {α : Type} (userId : String) (rest : Option User → Prog Db Error α)
    (later : ∀ found, (rest found).Steps Db.OutboxGrows) : (getUserById userId >>= rest).Steps Db.OutboxGrows := by
  rw [getUserById, bind_assoc]
  exact steps_select _ _ _ fun row => later _

theorem steps_get_user_by_email {α : Type} (email : String) (rest : Option User → Prog Db Error α)
    (later : ∀ found, (rest found).Steps Db.OutboxGrows) : (getUserByEmail email >>= rest).Steps Db.OutboxGrows := by
  rw [getUserByEmail, bind_assoc]
  exact steps_select _ _ _ fun row => later _

theorem steps_administer (targetUserId : String) (change : User → Except DomainError User) :
    (administer io targetUserId change).Steps Db.OutboxGrows := by
  refine steps_get_user_by_id targetUserId _ fun found => ?_
  cases found with
  | none => trivial
  | some user => exact steps_lift_domain _ _ fun changed => steps_save_user io _ _

theorem steps_register_user (platform : Platform) (email password displayName : String) :
    (registerUser platform.lower platform.hasher io email password displayName).Steps Db.OutboxGrows := by
  refine steps_get_user_by_email _ _ fun found => ?_
  cases found with
  | some user => trivial
  | none => exact Prog.steps_bind _ _ _ (steps_save_user io _ _) fun _ => trivial

theorem steps_seed_super_admin (platform : Platform) (email password displayName : String) :
    (seedSuperAdmin platform.lower platform.hasher io email password displayName).Steps Db.OutboxGrows := by
  refine steps_get_user_by_email _ _ fun found => ?_
  cases found with
  | some user => trivial
  | none => exact steps_save_user io _ _

theorem steps_request_role (userId : String) (requestedRole : Role) :
    (requestRole io userId requestedRole).Steps Db.OutboxGrows := by
  refine steps_get_user_by_id _ _ fun found => ?_
  cases found with
  | none => trivial
  | some user =>
      dsimp only
      split
      · trivial
      · exact Prog.steps_bind _ _ _ (steps_save_role_request io _ _) fun _ => trivial

theorem steps_grant_requested (request : RoleRequest) (decidedBy : String) :
    (grantRequested io request decidedBy).Steps Db.OutboxGrows := by
  refine steps_get_user_by_id _ _ fun found => ?_
  cases found with
  | none => trivial
  | some user => exact steps_save_user io _ _

theorem steps_decide_found (request : RoleRequest) (approve : Bool) (decidedBy note : String) :
    (decideFound io request approve decidedBy note).Steps Db.OutboxGrows := by
  cases approve with
  | false => exact steps_lift_domain _ _ fun decided => steps_save_role_request io _ _
  | true =>
      refine steps_lift_domain _ _ fun decided => ?_
      exact Prog.steps_bind _ _ _ (steps_grant_requested io decided decidedBy) fun _ => steps_save_role_request io _ _

theorem steps_decide_role_request (actorRole : Role) (requestId : String) (approve : Bool) (decidedBy note : String) :
    (decideRoleRequest io actorRole requestId approve decidedBy note).Steps Db.OutboxGrows := by
  refine steps_lift_domain _ _ fun _ => ?_
  rw [getRoleRequestById, bind_assoc]
  refine steps_select _ _ _ fun row => ?_
  cases row with
  | none => trivial
  | some stored => exact steps_decide_found io _ approve decidedBy note

end Steps

-- Whatever a call does, action by action: outbox rows are added and no other changes.
theorem call_steps (platform : Platform) (io : Surroundings) (call : Call) :
    (call.program platform io).Steps Db.OutboxGrows := by
  cases call with
  | registerUser email password displayName =>
      exact Prog.steps_bind _ _ _ (steps_register_user io platform email password displayName) fun _ => trivial
  | seedSuperAdmin email password displayName => exact steps_seed_super_admin io platform email password displayName
  | approveRegistration actorRole targetUserId approve decidedBy reason =>
      exact steps_lift_domain _ _ fun _ => steps_administer io targetUserId _
  | banUser actorRole targetUserId ban actorId reason =>
      exact steps_lift_domain _ _ fun _ => steps_administer io targetUserId _
  | grantRole actorRole targetUserId newRole grantedBy =>
      exact steps_lift_domain _ _ fun _ => steps_administer io targetUserId _
  | requestRole userId requestedRole =>
      exact Prog.steps_bind _ _ _ (steps_request_role io userId requestedRole) fun _ => trivial
  | decideRoleRequest actorRole requestId approve decidedBy note =>
      exact steps_decide_role_request io actorRole requestId approve decidedBy note

end AuthProfile
