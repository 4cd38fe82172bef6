import AuthProfile.Rest.AuthController
import AuthProfile.Rest.DirectoryController
import AuthProfile.Rest.LibraryController
import AuthProfile.Rest.ProfileController

set_option autoImplicit false

namespace AuthProfile

open Process

-- Every HTTP route of the service, with what its request carries.
inductive HttpRequest where
  | register (body : RegisterRequest)
  | login (body : LoginRequest) (client : Option String)
  | refresh (body : RefreshRequest)
  | logout (body : LogoutRequest)
  | roleAdmin (credentials : String) (request : RoleAdminRequest)
  | directory (credentials : String) (request : DirectoryRequest)
  | ownProfile (credentials : String) (request : OwnProfileRequest)
  | profile (credentials : Option String) (userId : String)

inductive HttpResponse where
  | registered (response : RegisterResponse)
  | tokenPair (response : TokenPairResponse)
  | roleRequest (response : RoleRequestResponse)
  | directory (response : DirectoryResponse)
  | profile (response : ProfileResponse)
  | noContent
deriving DecidableEq, Repr

-- The service as it is set up: Unicode tables, hasher, token provider, database, Python and relay.
structure Deployment where
  lower : Lower
  hasher : PasswordHasher
  provider : JwtTokenProvider
  collation : Collation
  python : Interpreter
  relay : RelaySettings

-- What a request draws from its surroundings; the clock is the same in both.
structure Draws where
  io : Surroundings
  read : Circumstances
  accessJti : Uuid
  refreshJti : Uuid
  sameClock : read.now = io.now

def Draws.signer (deployment : Deployment) (draws : Draws) (signed : List String) : Signer :=
  ⟨deployment.provider, signed, draws.accessJti, draws.refreshJti⟩

def roleRequestOrNothing : Option RoleRequestResponse → HttpResponse
  | some response => .roleRequest response
  | none => .noContent

-- The program of a request that comes in when these tokens have been signed.
def HttpRequest.program (deployment : Deployment) (draws : Draws) (signed : List String) :
    HttpRequest → Prog WireStores Error HttpResponse
  | .register body => do
      let response ←
        ((AuthController.register deployment.lower deployment.hasher draws.io body).focus Stores.onDb).focus
          WireStores.onStores
      return .registered response
  | .login body client => do
      let response ←
        ((AuthController.login deployment.lower deployment.hasher draws.io (draws.signer deployment signed)
          body client).focus Stores.onDb).focus WireStores.onStores
      return .tokenPair response
  | .refresh body => do
      let response ← (AuthController.refresh draws.io (draws.signer deployment signed) body).focus WireStores.onStores
      return .tokenPair response
  | .logout body => do
      ((AuthController.logout draws.io (draws.signer deployment signed) body).focus Stores.onRedis).focus
        WireStores.onStores
      return .noContent
  | .roleAdmin credentials request => do
      let response ← ((request.route deployment.provider signed draws.io credentials).focus Stores.onDb).focus
        WireStores.onStores
      return roleRequestOrNothing response
  | .directory credentials request => do
      let response ← ((request.route deployment.collation deployment.lower deployment.provider signed draws.io.now
        credentials).focus Stores.onDb).focus WireStores.onStores
      return .directory response
  | .ownProfile credentials request => do
      (request.route deployment.provider signed draws.read credentials).focus WireStores.onProfiles
      return .noContent
  | .profile credentials userId => do
      let response ← ProfileController.profileRoute draws.read deployment.provider signed credentials userId
      return .profile response

-- The tokens that a request has had signed: what login answers, and the new half of what refresh does.
def HttpRequest.minted (request : HttpRequest) (answer : Except Error HttpResponse) : List String :=
  match request, answer with
  | .login _ _, .ok (.tokenPair response) => [response.accessToken, response.refreshToken]
  | .refresh _, .ok (.tokenPair response) => [response.accessToken]
  | _, _ => []

end AuthProfile
