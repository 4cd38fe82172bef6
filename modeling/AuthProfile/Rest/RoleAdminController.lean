import AuthProfile.Security.Deps
import AuthProfile.UseCases.Auth

set_option autoImplicit false

namespace AuthProfile

open Process

structure RequestRoleRequest where
  requestedRole : String
deriving DecidableEq, Repr

structure RoleRequestResponse where
  requestId : String
  status : String
deriving DecidableEq, Repr

structure DecideRoleRequest where
  approve : Bool
  note : Option String
deriving DecidableEq, Repr

structure GrantRoleRequest where
  newRole : String
deriving DecidableEq, Repr

structure BanRequest where
  reason : Option String
deriving DecidableEq, Repr

namespace RoleAdminController

-- text or ""
def orEmpty (text : Option String) : String := text.getD ""

variable (io : Surroundings) (currentUser : CurrentUser)

def requestRole (body : RequestRoleRequest) : Prog Db Error RoleRequestResponse := do
  let requestedRole ← Prog.ofExcept (Role.ofValue body.requestedRole)
  let roleRequest ← AuthProfile.requestRole io currentUser.userId requestedRole
  return ⟨roleRequest.id, roleRequest.status.value⟩

def decideRoleRequest (requestId : String) (body : DecideRoleRequest) : Prog Db Error Unit :=
  AuthProfile.decideRoleRequest io currentUser.role requestId body.approve currentUser.userId (orEmpty body.note)

def decideRegistration (userId : String) (body : DecideRoleRequest) : Prog Db Error Unit :=
  approveRegistration io currentUser.role userId body.approve currentUser.userId (orEmpty body.note)

def grantRole (userId : String) (body : GrantRoleRequest) : Prog Db Error Unit := do
  let newRole ← Prog.ofExcept (Role.ofValue body.newRole)
  AuthProfile.grantRole io currentUser.role userId newRole currentUser.userId

def banUser (userId : String) (body : BanRequest) : Prog Db Error Unit :=
  AuthProfile.banUser io currentUser.role userId true currentUser.userId (orEmpty body.reason)

def unbanUser (userId : String) : Prog Db Error Unit :=
  AuthProfile.banUser io currentUser.role userId false currentUser.userId ""

end RoleAdminController

-- The requests of the role and admin routes, as FastAPI and the DTOs let them through.
inductive RoleAdminRequest where
  | requestRole (body : RequestRoleRequest)
  | decideRoleRequest (requestId : String) (body : DecideRoleRequest)
  | decideRegistration (userId : String) (body : DecideRoleRequest)
  | grantRole (userId : String) (body : GrantRoleRequest)
  | banUser (userId : String) (body : BanRequest)
  | unbanUser (userId : String)
deriving DecidableEq, Repr

namespace RoleAdminRequest

-- Depends(require_roles(...)), where the route has it.
def dependencies (currentUser : CurrentUser) : RoleAdminRequest → Except Error CurrentUser
  | .requestRole _ => .ok currentUser
  | .grantRole _ _ => requireRoles [.admin] currentUser
  | _ => requireRoles [.support, .admin] currentUser

-- A 204 carries nothing.
def noContent (handler : Prog Db Error Unit) : Prog Db Error (Option RoleRequestResponse) := do
  handler
  return none

def handler (io : Surroundings) (currentUser : CurrentUser) :
    RoleAdminRequest → Prog Db Error (Option RoleRequestResponse)
  | .requestRole body => do
      let response ← RoleAdminController.requestRole io currentUser body
      return some response
  | .decideRoleRequest requestId body => noContent (RoleAdminController.decideRoleRequest io currentUser requestId body)
  | .decideRegistration userId body => noContent (RoleAdminController.decideRegistration io currentUser userId body)
  | .grantRole userId body => noContent (RoleAdminController.grantRole io currentUser userId body)
  | .banUser userId body => noContent (RoleAdminController.banUser io currentUser userId body)
  | .unbanUser userId => noContent (RoleAdminController.unbanUser io currentUser userId)

-- One request with its bearer token, through the dependencies to the handler.
def route (provider : JwtTokenProvider) (signed : List String) (io : Surroundings) (credentials : String)
    (request : RoleAdminRequest) : Prog Db Error (Option RoleRequestResponse) := do
  let currentUser ← Prog.ofExcept (getCurrentUser provider signed io.now credentials)
  let _ ← Prog.ofExcept (request.dependencies currentUser)
  request.handler io currentUser

end RoleAdminRequest

end AuthProfile
