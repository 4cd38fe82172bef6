import AuthProfile.Db.Schema
import AuthProfile.Security.Jwt

set_option autoImplicit false

namespace AuthProfile

structure CurrentUser where
  userId : String
  role : Role
deriving DecidableEq, Repr

-- Role(value)
def Role.ofValue (text : String) : Except Error Role :=
  match Role.parse text with
  | some role => .ok role
  | none => .error (.notAMember "Role" text)

-- claims[name]
def claim (name : String) : Option String → Except Error String
  | some text => .ok text
  | none => .error (.key name)

def Claims.currentUser (claims : Claims) : Except Error CurrentUser := do
  let userId ← claim "sub" claims.sub
  let role ← claim "role" claims.role
  return ⟨userId, ← Role.ofValue role⟩

section Deps

variable (provider : JwtTokenProvider) (signed : List String) (now : Time)

def getCurrentUser (credentials : String) : Except Error CurrentUser :=
  match provider.decodeAccessToken signed now credentials with
  | .error exc => .error (.http 401 exc.message)
  | .ok claims => claims.currentUser

-- Without a bearer token, or with one that is refused, the caller is a visitor.
def getOptionalUser (credentials : Option String) : Except Error (Option CurrentUser) :=
  match credentials with
  | none => .ok none
  | some credentials =>
      match provider.decodeAccessToken signed now credentials with
      | .error _ => .ok none
      | .ok claims => claims.currentUser.map some

end Deps

def requireRoles (allowed : List Role) (currentUser : CurrentUser) : Except Error CurrentUser :=
  if currentUser.role ∉ allowed then
    .error (.http 403 ("Role '" ++ currentUser.role.value ++ "' is not permitted to perform this action."))
  else .ok currentUser

end AuthProfile
