import AuthProfile.Db.UserRepository

set_option autoImplicit false

namespace AuthProfile

open Relation Process UserRepository

-- hash draws a salt: it answers differently for the same password.
structure PasswordHasher where
  hash : String → String → String
  verify : String → String → Bool

def liftDomain {σ α : Type} (answer : Except DomainError α) : Prog σ Error α :=
  match answer with
  | .ok value => .ret value
  | .error error => .raise (.domain error)

def registerUser (lower : Lower) (hasher : PasswordHasher) (io : Surroundings) (email password displayName : String) :
    Prog Db Error User := do
  match ← getUserByEmail (strip (lower email)) with
  | some _ => .raise (.domain (.duplicateEmail email))
  | none =>
      let passwordHash := hasher.hash io.salt password
      let user := User.register lower io.freshId.text io.now email passwordHash displayName
      saveUser io user.pullEvents.2 user.pullEvents.1
      return user.pullEvents.2

-- The configured address is looked up as it is written, not lower-cased.
def seedSuperAdmin (lower : Lower) (hasher : PasswordHasher) (io : Surroundings) (email password displayName : String) :
    Prog Db Error Unit := do
  match ← getUserByEmail email with
  | some _ => return ()
  | none =>
      let admin := User.registerSuperAdmin lower io.freshId.text io.now email (hasher.hash io.salt password) displayName
      saveUser io admin.pullEvents.2 admin.pullEvents.1

-- approve_registration, ban_user and grant_role read an account, let the
-- aggregate change itself and save it with the events it raised.
def administer (io : Surroundings) (targetUserId : String) (change : User → Except DomainError User) :
    Prog Db Error Unit := do
  match ← getUserById targetUserId with
  | none => .raise (.domain (.userNotFound targetUserId))
  | some user =>
      let user ← liftDomain (change user)
      saveUser io user.pullEvents.2 user.pullEvents.1

def decideRegistration (approve : Bool) (decidedBy reason : String) (user : User) : Except DomainError User :=
  if approve then user.approveRegistration decidedBy else user.rejectRegistration decidedBy reason

def approveRegistration (io : Surroundings) (actorRole : Role) (targetUserId : String) (approve : Bool)
    (decidedBy reason : String) : Prog Db Error Unit := do
  liftDomain (RolePolicy.assertCanApproveRegistration actorRole)
  administer io targetUserId (decideRegistration approve decidedBy reason)

def decideBan (ban : Bool) (actorId reason : String) (user : User) : Except DomainError User :=
  if ban then user.ban actorId reason else user.unban actorId

def banUser (io : Surroundings) (actorRole : Role) (targetUserId : String) (ban : Bool) (actorId reason : String) :
    Prog Db Error Unit := do
  liftDomain (RolePolicy.assertCanBan actorRole)
  administer io targetUserId (decideBan ban actorId reason)

def grantRole (io : Surroundings) (actorRole : Role) (targetUserId : String) (newRole : Role) (grantedBy : String) :
    Prog Db Error Unit := do
  liftDomain (RolePolicy.assertCanGrant actorRole newRole)
  administer io targetUserId fun user => .ok (user.changeRole newRole grantedBy)

def requestRole (io : Surroundings) (userId : String) (requestedRole : Role) : Prog Db Error RoleRequest := do
  match ← getUserById userId with
  | none => .raise (.domain (.userNotFound userId))
  | some user =>
      if !RolePolicy.canRequest user.role requestedRole then
        .raise (.domain (.invalidRoleTransition
          ("User with role '" ++ user.role.value ++ "' cannot request role '" ++ requestedRole.value ++ "'.")))
      else
        let request := RoleRequest.create io.freshId.text io.now userId requestedRole
        saveRoleRequest io request [.roleRequested request.id userId requestedRole.value]
        return request

-- get_by_id may answer None, and None has no change_role.
def grantRequested (io : Surroundings) (request : RoleRequest) (decidedBy : String) : Prog Db Error Unit := do
  match ← getUserById request.userId with
  | none => .raise (.attribute "'NoneType' object has no attribute 'change_role'")
  | some user =>
      let user := user.changeRole request.requestedRole decidedBy
      saveUser io user.pullEvents.2 user.pullEvents.1

def decideFound (io : Surroundings) (request : RoleRequest) (approve : Bool) (decidedBy note : String) :
    Prog Db Error Unit :=
  if approve then do
    let request ← liftDomain (request.approve decidedBy note)
    grantRequested io request decidedBy
    saveRoleRequest io request []
  else do
    let request ← liftDomain (request.reject decidedBy note)
    saveRoleRequest io request []

def decideRoleRequest (io : Surroundings) (actorRole : Role) (requestId : String) (approve : Bool)
    (decidedBy note : String) : Prog Db Error Unit := do
  liftDomain (RolePolicy.assertCanDecideRoleRequest actorRole)
  match ← getRoleRequestById requestId with
  | none => .raise (.domain (.roleRequestNotFound requestId))
  | some request => decideFound io request approve decidedBy note

theorem wp_lift_domain {σ α : Type} (post : Except Error α → σ → Prop) (answer : Except DomainError α) (s : σ)
    (refused : ∀ error, answer = .error error → post (.error (.domain error)) s)
    (answered : ∀ value, answer = .ok value → post (.ok value) s) : (liftDomain answer).wp post s := by
  cases answer with
  | ok value => exact answered value rfl
  | error error => exact refused error rfl

section Rules

variable (post : Except Error Unit → Db → Prop) (io : Surroundings) (db : Db)

theorem wp_get_user_by_id {α : Type} (post : Except Error α → Db → Prop) (userId : String)
    (rest : Option User → Prog Db Error α) (db : Db) (refused : ∀ error, post (.error error) db)
    (read : (rest ((db.users.find userId).map toDomainUser)).wp post db) :
    (getUserById userId >>= rest).wp post db := by
  rw [getUserById, bind_assoc]
  exact wp_select_bind _ _ _ db post refused read

theorem wp_get_user_by_email {α : Type} (post : Except Error α → Db → Prop) (email : String)
    (rest : Option User → Prog Db Error α) (db : Db) (refused : ∀ error, post (.error error) db)
    (read : ∀ found, (rest found).wp post db) : (getUserByEmail email >>= rest).wp post db := by
  rw [getUserByEmail, bind_assoc]
  exact wp_select_bind _ _ _ db post refused (read _)

theorem wp_get_role_request_by_id {α : Type} (post : Except Error α → Db → Prop) (requestId : String)
    (rest : Option RoleRequest → Prog Db Error α) (db : Db) (refused : ∀ error, post (.error error) db)
    (read : (rest ((db.roleRequests.find requestId).map toDomainRoleRequest)).wp post db) :
    (getRoleRequestById requestId >>= rest).wp post db := by
  rw [getRoleRequestById, bind_assoc]
  exact wp_select_bind _ _ _ db post refused read

theorem wp_administer (targetUserId : String) (change : User → Except DomainError User)
    (keepsId : ∀ user changed, user.id = targetUserId → change user = .ok changed → changed.id = user.id)
    (refused : ∀ error, post (.error error) db)
    (saved : ∀ row user after, db.users.find targetUserId = some row → change (toDomainUser row) = .ok user →
      Db.UserSaved user.pullEvents.2 (outboxDrafts io "User" user.id user.pullEvents.1) db after →
      post (.ok ()) after ∧ post (.error .connection) after) :
    (administer io targetUserId change).wp post db := by
  rw [administer]
  apply wp_get_user_by_id post targetUserId _ db refused
  cases found : db.users.find targetUserId with
  | none => exact refused _
  | some row =>
      simp only [Option.map_some]
      rw [Prog.wp_bind]
      refine wp_lift_domain _ _ db (fun _ _ => refused _) fun user changed => ?_
      have isTarget : (toDomainUser row).id = targetUserId := Table.find_key targetUserId db.users row found
      have short : user.pullEvents.2.id.length ≤ 36 := (keepsId _ user isTarget changed).symm ▸ row.id.fits.1
      exact wp_save_user post io user.pullEvents.2 short _ db refused fun after => saved row user after found changed

end Rules

end AuthProfile
