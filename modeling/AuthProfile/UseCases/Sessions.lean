import AuthProfile.Process.Focus
import AuthProfile.Security.Jwt
import AuthProfile.Security.Redis
import AuthProfile.UseCases.Auth

set_option autoImplicit false

namespace AuthProfile

open Relation Process UserRepository

structure Stores where
  db : Db
  redis : Redis

def Stores.onDb : Lens Stores Db where
  get := fun stores => stores.db
  set := fun stores db => { stores with db := db }
  get_set := fun _ _ => rfl
  set_get := fun _ => rfl
  set_set := fun _ _ _ => rfl

def Stores.onRedis : Lens Stores Redis where
  get := fun stores => stores.redis
  set := fun stores redis => { stores with redis := redis }
  get_set := fun _ _ => rfl
  set_get := fun _ => rfl
  set_set := fun _ _ _ => rfl

-- What the token provider draws beside the clock, and the tokens its secret has signed so far.
structure Signer where
  provider : JwtTokenProvider
  signed : List String
  accessJti : Uuid
  refreshJti : Uuid

section Login

variable (lower : Lower) (hasher : PasswordHasher) (io : Surroundings) (signer : Signer)

def login (email password ip : String) : Prog Db Error (String × String) := do
  match ← getUserByEmail (strip (lower email)) with
  | none =>
      recordLoginAudit io none ip false
      .raise (.domain .invalidCredentials)
  | some user =>
      if !hasher.verify password user.passwordHash then
        recordLoginAudit io (some user.id) ip false
        .raise (.domain .invalidCredentials)
      else if !user.canLogin then
        recordLoginAudit io (some user.id) ip false
        .raise (.domain (.accountNotUsable user.state.value))
      else
        recordLoginAudit io (some user.id) ip true
        return (signer.provider.createAccessToken io.now signer.accessJti user.id user.role.value none,
          signer.provider.createRefreshToken io.now signer.refreshJti user.id)

end Login

-- `if jti and …`: neither a missing nor an empty jti is looked up.
def isRevokedIfNamed (now : Time) (jti : Option String) : Prog Redis Error Bool :=
  match jti with
  | none => return false
  | some jti => if jti = "" then return false else TokenBlacklist.isRevoked now jti

def refresh (now : Time) (signer : Signer) (refreshToken : String) : Prog Stores Error String :=
  match signer.provider.decodeRefreshToken signer.signed now refreshToken with
  | .error _ => .raise (.domain (.token "Invalid refresh token."))
  | .ok claims => do
      if ← (isRevokedIfNamed now claims.jti).focus Stores.onRedis then
        .raise (.domain (.token "Refresh token has been revoked."))
      else
        match claims.sub with
        | none => .raise (.key "sub")
        | some userId =>
            match ← (getUserById userId).focus Stores.onDb with
            | none => .raise (.domain (.userNotFound userId))
            | some user =>
                if !user.canLogin then .raise (.domain (.token "Account is not active."))
                else return signer.provider.createAccessToken now signer.accessJti user.id user.role.value none

-- The seconds a revoked jti is kept.
def revocationTtl (exp : Int) (now : Time) : Int := max (toInt (exp - now)) 1

-- `not jti or not exp`: an empty jti and an exp of 0 count as missing.
def logout (now : Time) (signer : Signer) (refreshToken : String) : Prog Redis Error Unit := do
  let claims ← liftDomain (signer.provider.decodeRefreshToken signer.signed now refreshToken)
  match claims.jti, claims.exp with
  | some jti, some exp =>
      if jti = "" ∨ exp = 0 then return ()
      else TokenBlacklist.revoke now jti (revocationTtl exp now)
  | _, _ => return ()

end AuthProfile
