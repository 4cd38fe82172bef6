import AuthProfile.Json
import Mathlib.Data.Rat.Defs

set_option autoImplicit false

namespace AuthProfile

-- Seconds since the epoch, as fine as one likes.
abbrev Time := ℚ

inductive Role where
  | basicUser
  | developer
  | support
  | admin
deriving DecidableEq, Repr

inductive UserState where
  | pending
  | active
  | rejected
  | banned
deriving DecidableEq, Repr

inductive RoleRequestStatus where
  | pending
  | approved
  | rejected
deriving DecidableEq, Repr

def Role.value : Role → String
  | .basicUser => "BASIC_USER"
  | .developer => "DEVELOPER"
  | .support => "SUPPORT"
  | .admin => "ADMIN"

def UserState.value : UserState → String
  | .pending => "PENDING"
  | .active => "ACTIVE"
  | .rejected => "REJECTED"
  | .banned => "BANNED"

def RoleRequestStatus.value : RoleRequestStatus → String
  | .pending => "PENDING"
  | .approved => "APPROVED"
  | .rejected => "REJECTED"

-- Role(text): the enum constructor, none for its ValueError.
def Role.parse (text : String) : Option Role :=
  [Role.basicUser, .developer, .support, .admin].find? fun role => role.value = text

def UserState.parse (text : String) : Option UserState :=
  [UserState.pending, .active, .rejected, .banned].find? fun state => state.value = text

theorem role_parse_value (role : Role) : Role.parse role.value = some role := by
  cases role <;> decide

theorem user_state_parse_value (state : UserState) : UserState.parse state.value = some state := by
  cases state <;> decide

inductive DomainError where
  | invalidStateTransition (currentState action : String)
  | invalidRoleTransition (message : String)
  | duplicateEmail (email : String)
  | invalidCredentials
  | accountNotUsable (state : String)
  | userNotFound (userId : String)
  | roleRequestNotFound (requestId : String)
  | roleRequestAlreadyDecided (requestId : String)
  | recipientNotFound (query : String)
  | recipientNotUnique (query : String) (count : Nat)
  | token (message : String)
deriving DecidableEq, Repr

def DomainError.message : DomainError → String
  | .invalidStateTransition currentState action =>
      "Cannot perform '" ++ action ++ "' while account is in state '" ++ currentState ++ "'."
  | .invalidRoleTransition message => message
  | .duplicateEmail email => "Email '" ++ email ++ "' is already registered."
  | .invalidCredentials => "Invalid email or password."
  | .accountNotUsable state =>
      if state = "PENDING" then "This registration is waiting for a Support decision."
      else if state = "REJECTED" then "This registration was rejected."
      else if state = "BANNED" then "This account is banned. Contact support."
      else "This account is " ++ state ++ " and cannot sign in."
  | .userNotFound userId => "User '" ++ userId ++ "' was not found."
  | .roleRequestNotFound requestId => "Role request '" ++ requestId ++ "' was not found."
  | .roleRequestAlreadyDecided requestId => "Role request '" ++ requestId ++ "' has already been decided."
  | .recipientNotFound query => "No active account matches '" ++ query ++ "'."
  | .recipientNotUnique query count =>
      toString count ++ " accounts are called '" ++ query ++ "'. Use their email address instead."
  | .token message => message

-- The event classes. The event_id and occurred_at that every event mints are
-- dropped by to_payload and read by nothing, so they are not carried.
inductive DomainEvent where
  | userRegistered (userId email displayName role state : String)
  | registrationApproved (userId decidedBy : String)
  | registrationRejected (userId decidedBy reason : String)
  | roleRequested (requestId userId requestedRole : String)
  | roleGranted (userId oldRole newRole grantedBy : String)
  | userBanned (userId bannedBy reason : String)
  | userUnbanned (userId unbannedBy : String)
deriving DecidableEq, Repr

namespace DomainEvent

def className : DomainEvent → String
  | .userRegistered .. => "UserRegistered"
  | .registrationApproved .. => "RegistrationApproved"
  | .registrationRejected .. => "RegistrationRejected"
  | .roleRequested .. => "RoleRequested"
  | .roleGranted .. => "RoleGranted"
  | .userBanned .. => "UserBanned"
  | .userUnbanned .. => "UserUnbanned"

def eventType (event : DomainEvent) : String := "arcadia.auth.v1." ++ event.className

def fields : DomainEvent → List (String × String)
  | .userRegistered userId email displayName role state =>
      [("user_id", userId), ("email", email), ("display_name", displayName), ("role", role), ("state", state)]
  | .registrationApproved userId decidedBy => [("user_id", userId), ("decided_by", decidedBy)]
  | .registrationRejected userId decidedBy reason =>
      [("user_id", userId), ("decided_by", decidedBy), ("reason", reason)]
  | .roleRequested requestId userId requestedRole =>
      [("request_id", requestId), ("user_id", userId), ("requested_role", requestedRole)]
  | .roleGranted userId oldRole newRole grantedBy =>
      [("user_id", userId), ("old_role", oldRole), ("new_role", newRole), ("granted_by", grantedBy)]
  | .userBanned userId bannedBy reason => [("user_id", userId), ("banned_by", bannedBy), ("reason", reason)]
  | .userUnbanned userId unbannedBy => [("user_id", userId), ("unbanned_by", unbannedBy)]

def toPayload (event : DomainEvent) : Json := .obj (event.fields.map fun field => (field.1, .str field.2))

theorem event_type_fits (event : DomainEvent) : event.eventType.length ≤ 128 := by
  have name : event.className.length ≤ 20 := by cases event <;> rw [className] <;> decide
  have namespaceLength : "arcadia.auth.v1.".length = 16 := by decide
  have total : event.eventType.length = "arcadia.auth.v1.".length + event.className.length :=
    String.length_append _ _
  omega

end DomainEvent

namespace RolePolicy

def selfRequestableRoles : List Role := [.developer, .support]

def canRequest (currentRole requestedRole : Role) : Bool :=
  if requestedRole = currentRole then false
  else selfRequestableRoles.contains requestedRole || currentRole != .basicUser

-- The decider, ban and registration checks differ in their message only.
def assertStaff (message : String) (actorRole : Role) : Except DomainError Unit :=
  if actorRole = .support ∨ actorRole = .admin then .ok () else .error (.invalidRoleTransition message)

def assertCanGrant (granterRole _targetRole : Role) : Except DomainError Unit :=
  if granterRole ≠ .admin then
    .error (.invalidRoleTransition "Only ADMIN can directly grant/change a user's role.")
  else .ok ()

def assertCanDecideRoleRequest (deciderRole : Role) : Except DomainError Unit :=
  assertStaff "Only SUPPORT or ADMIN can approve/reject role requests." deciderRole

def assertCanBan (actorRole : Role) : Except DomainError Unit :=
  assertStaff "Only SUPPORT or ADMIN can ban/unban users." actorRole

def assertCanApproveRegistration (actorRole : Role) : Except DomainError Unit :=
  assertStaff "Only SUPPORT or ADMIN can approve/reject registrations." actorRole

theorem assert_staff_ok (message : String) (actorRole : Role) :
    assertStaff message actorRole = .ok () ↔ actorRole = .support ∨ actorRole = .admin := by
  by_cases staff : actorRole = .support ∨ actorRole = .admin <;> simp [assertStaff, staff]

theorem assert_can_grant_ok (granterRole targetRole : Role) :
    assertCanGrant granterRole targetRole = .ok () ↔ granterRole = .admin := by
  by_cases admin : granterRole = .admin <;> simp [assertCanGrant, admin]

end RolePolicy

structure RoleRequest where
  id : String
  userId : String
  requestedRole : Role
  status : RoleRequestStatus
  decisionNote : Option String
  decidedBy : Option String
  createdAt : Time
deriving DecidableEq, Repr

namespace RoleRequest

def create (freshId : String) (now : Time) (userId : String) (requestedRole : Role) : RoleRequest :=
  ⟨freshId, userId, requestedRole, .pending, none, none, now⟩

-- approve and reject are the same guarded assignment with another status.
def decide (status : RoleRequestStatus) (request : RoleRequest) (decidedBy note : String) :
    Except DomainError RoleRequest :=
  if request.status ≠ .pending then .error (.roleRequestAlreadyDecided request.id)
  else .ok { request with status := status, decidedBy := some decidedBy, decisionNote := some note }

def approve (request : RoleRequest) (decidedBy note : String) : Except DomainError RoleRequest :=
  request.decide .approved decidedBy note

def reject (request : RoleRequest) (decidedBy note : String) : Except DomainError RoleRequest :=
  request.decide .rejected decidedBy note

end RoleRequest

structure User where
  id : String
  email : String
  passwordHash : String
  displayName : String
  role : Role
  state : UserState
  createdAt : Time
  pendingEvents : List DomainEvent
deriving DecidableEq, Repr

-- str.lower() follows the Unicode tables, which are not in the repository: every
-- function on strings is allowed in its place.
abbrev Lower := String → String

def isSpace (c : Char) : Bool :=
  (9 ≤ c.toNat && c.toNat ≤ 13) || (28 ≤ c.toNat && c.toNat ≤ 32) || c.toNat = 133 || c.toNat = 160 ||
    c.toNat = 5760 || (8192 ≤ c.toNat && c.toNat ≤ 8202) || c.toNat = 8232 || c.toNat = 8233 ||
    c.toNat = 8239 || c.toNat = 8287 || c.toNat = 12288

def strip (text : String) : String :=
  String.ofList ((text.toList.dropWhile isSpace).reverse.dropWhile isSpace).reverse

namespace User

def raise (user : User) (event : DomainEvent) : User :=
  { user with pendingEvents := user.pendingEvents ++ [event] }

def create (role : Role) (lower : Lower) (freshId : String) (now : Time)
    (email passwordHash displayName : String) : User :=
  let user : User := ⟨freshId, strip (lower email), passwordHash, displayName, role, .active, now, []⟩
  user.raise (.userRegistered user.id user.email user.displayName user.role.value user.state.value)

def register (lower : Lower) (freshId : String) (now : Time) (email passwordHash displayName : String) : User :=
  create .basicUser lower freshId now email passwordHash displayName

def registerSuperAdmin (lower : Lower) (freshId : String) (now : Time)
    (email passwordHash displayName : String) : User :=
  create .admin lower freshId now email passwordHash displayName

def transition (required target : UserState) (action : String) (event : DomainEvent) (user : User) :
    Except DomainError User :=
  if user.state ≠ required then .error (.invalidStateTransition user.state.value action)
  else .ok ({ user with state := target }.raise event)

def approveRegistration (user : User) (decidedBy : String) : Except DomainError User :=
  user.transition .pending .active "approve_registration" (.registrationApproved user.id decidedBy)

def rejectRegistration (user : User) (decidedBy reason : String) : Except DomainError User :=
  user.transition .pending .rejected "reject_registration" (.registrationRejected user.id decidedBy reason)

def ban (user : User) (bannedBy reason : String) : Except DomainError User :=
  user.transition .active .banned "ban" (.userBanned user.id bannedBy reason)

def unban (user : User) (unbannedBy : String) : Except DomainError User :=
  user.transition .banned .active "unban" (.userUnbanned user.id unbannedBy)

def changeRole (user : User) (newRole : Role) (grantedBy : String) : User :=
  { user with role := newRole }.raise (.roleGranted user.id user.role.value newRole.value grantedBy)

def canLogin (user : User) : Bool := user.state = .active

def pullEvents (user : User) : List DomainEvent × User :=
  (user.pendingEvents, { user with pendingEvents := [] })

end User

end AuthProfile
