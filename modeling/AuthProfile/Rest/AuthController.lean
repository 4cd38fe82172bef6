import AuthProfile.UseCases.Sessions

set_option autoImplicit false

namespace AuthProfile

open Process

-- What the DTO lets through. That the address is one is checked by a library.
structure RegisterRequest where
  email : String
  password : String
  displayName : String
  passwordFits : 8 ≤ password.length ∧ password.length ≤ 128
  displayNameFits : 2 ≤ displayName.length ∧ displayName.length ≤ 64
deriving DecidableEq, Repr

structure RegisterResponse where
  userId : String
  email : String
  state : String
deriving DecidableEq, Repr

structure LoginRequest where
  email : String
  password : String
deriving DecidableEq, Repr

structure TokenPairResponse where
  accessToken : String
  refreshToken : String
  tokenType : String
deriving DecidableEq, Repr

structure RefreshRequest where
  refreshToken : String
deriving DecidableEq, Repr

structure LogoutRequest where
  refreshToken : String
deriving DecidableEq, Repr

namespace AuthController

variable (lower : Lower) (hasher : PasswordHasher) (io : Surroundings) (signer : Signer)

def register (body : RegisterRequest) : Prog Db Error RegisterResponse := do
  let user ← registerUser lower hasher io body.email body.password body.displayName
  return ⟨user.id, user.email, user.state.value⟩

-- request.client.host if request.client else "unknown"
def clientIp (client : Option String) : String := client.getD "unknown"

def login (body : LoginRequest) (client : Option String) : Prog Db Error TokenPairResponse := do
  let (accessToken, refreshToken) ← AuthProfile.login lower hasher io signer body.email body.password (clientIp client)
  return ⟨accessToken, refreshToken, "bearer"⟩

-- The refresh token is handed back as it came.
def refresh (body : RefreshRequest) : Prog Stores Error TokenPairResponse := do
  let accessToken ← AuthProfile.refresh io.now signer body.refreshToken
  return ⟨accessToken, body.refreshToken, "bearer"⟩

def logout (body : LogoutRequest) : Prog Redis Error Unit := AuthProfile.logout io.now signer body.refreshToken

end AuthController

end AuthProfile
