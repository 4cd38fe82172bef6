import AuthProfile.OrderBy
import AuthProfile.UseCases.Auth

set_option autoImplicit false

namespace AuthProfile

open Relation Process

namespace UserRepository

-- Without ORDER BY the rows come in no particular order: they are taken as they lie.
def listIdsByState (state : UserState) (role : Option Role) : Prog Db Error (List String) :=
  Prog.query .connection fun db : Db =>
    (db.users.rows.filter fun row => row.state = state && role.all fun role => row.role = role).map
      fun row => row.id.text

def listUsers (newestFirst : OrderBy fun row : UserRow => OrderDual.toDual row.createdAt) (state : Option UserState) :
    Prog Db Error (List User) :=
  Prog.query .connection fun db : Db =>
    (newestFirst.arrange (db.users.rows.filter fun row => state.all fun state => row.state = state)).map toDomainUser

def listPendingRoleRequests : Prog Db Error (List RoleRequest) :=
  Prog.query .connection fun db : Db =>
    (db.roleRequests.rows.filter fun row => row.status = .pending).map toDomainRoleRequest

end UserRepository

def listActiveUserIds (actorRole : Role) (state : UserState) (role : Option Role) : Prog Db Error (List String) := do
  liftDomain (RolePolicy.assertStaff "Only SUPPORT or ADMIN can list the user directory." actorRole)
  UserRepository.listIdsByState state role

def listUsers (newestFirst : OrderBy fun row : UserRow => OrderDual.toDual row.createdAt) (actorRole : Role)
    (state : Option UserState) : Prog Db Error (List User) := do
  liftDomain (RolePolicy.assertStaff "Only SUPPORT or ADMIN can list the user directory." actorRole)
  UserRepository.listUsers newestFirst state

def listPendingRoleRequests (actorRole : Role) : Prog Db Error (List RoleRequest) := do
  liftDomain (RolePolicy.assertStaff "Only SUPPORT or ADMIN can list pending role requests." actorRole)
  UserRepository.listPendingRoleRequests

end AuthProfile
