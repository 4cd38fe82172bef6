import AuthProfile.Rest.RoleAdminController
import AuthProfile.UseCases.Directory
import AuthProfile.UseCases.Recipients

set_option autoImplicit false

-- The routes of role_admin_controller that answer from the directory.
namespace AuthProfile

open Relation Process

structure RecipientResponse where
  userId : String
  displayName : String
  avatarUrl : String
deriving DecidableEq, Repr

structure RecipientSuggestion where
  userId : String
  displayName : String
  email : String
  avatarUrl : String
deriving DecidableEq, Repr

structure AdminUserResponse where
  userId : String
  email : String
  displayName : String
  role : String
  state : String
  createdAt : Time
deriving DecidableEq, Repr

structure PendingRoleRequestResponse where
  requestId : String
  userId : String
  requestedRole : String
  status : String
  decisionNote : Option String
  decidedBy : Option String
  createdAt : Time
deriving DecidableEq, Repr

-- The case rules and the orders of the database.
structure Collation where
  key : Type
  order : Preorder key
  collate : String → key
  fold : Char → Char
  lower : Lower
  byName : OrderBy fun row : UserRow => collate row.displayName.text
  newestFirst : OrderBy fun row : UserRow => OrderDual.toDual row.createdAt

attribute [instance] Collation.order

-- Requests with their query parameters, as FastAPI lets them through.
inductive DirectoryRequest where
  | lookupRecipient (q : String)
  | suggestRecipients (q : String)
  | listUsers (userState : Option UserState)
  | listUserIds (userState : UserState) (role : Option Role)
  | listPendingRoleRequests
deriving DecidableEq, Repr

inductive DirectoryResponse where
  | recipient (response : RecipientResponse)
  | suggestions (responses : List RecipientSuggestion)
  | users (responses : List AdminUserResponse)
  | ids (userIds : List String)
  | pending (responses : List PendingRoleRequestResponse)
deriving DecidableEq, Repr

def AdminUserResponse.of (user : User) : AdminUserResponse :=
  ⟨user.id, user.email, user.displayName, user.role.value, user.state.value, user.createdAt⟩

def PendingRoleRequestResponse.of (request : RoleRequest) : PendingRoleRequestResponse :=
  ⟨request.id, request.userId, request.requestedRole.value, request.status.value, request.decisionNote,
    request.decidedBy,
    request.createdAt⟩

namespace DirectoryRequest

-- Depends(require_roles(Role.SUPPORT, Role.ADMIN)), where the route has it.
def dependencies (currentUser : CurrentUser) : DirectoryRequest → Except Error CurrentUser
  | .lookupRecipient _ => .ok currentUser
  | .suggestRecipients _ => .ok currentUser
  | _ => requireRoles [.support, .admin] currentUser

variable (collation : Collation) (lower : Lower) (currentUser : CurrentUser)

def handler : DirectoryRequest → Prog Db Error DirectoryResponse
  | .lookupRecipient q => do
      let user ← AuthProfile.findRecipient collation.lower lower q
      return .recipient ⟨user.id, user.displayName, ""⟩
  | .suggestRecipients q => do
      let users ← AuthProfile.suggestRecipients collation.fold collation.byName q currentUser.userId
      return .suggestions (users.map fun user => ⟨user.id, user.displayName, user.email, ""⟩)
  | .listUsers userState => do
      let users ← AuthProfile.listUsers collation.newestFirst currentUser.role userState
      return .users (users.map .of)
  | .listUserIds userState role => do
      let userIds ← listActiveUserIds currentUser.role userState role
      return .ids userIds
  | .listPendingRoleRequests => do
      let requests ← AuthProfile.listPendingRoleRequests currentUser.role
      return .pending (requests.map .of)

def route (provider : JwtTokenProvider) (signed : List String) (now : Time) (credentials : String)
    (request : DirectoryRequest) : Prog Db Error DirectoryResponse := do
  let currentUser ← Prog.ofExcept (getCurrentUser provider signed now credentials)
  let _ ← Prog.ofExcept (request.dependencies currentUser)
  request.handler collation lower currentUser

end DirectoryRequest

end AuthProfile
