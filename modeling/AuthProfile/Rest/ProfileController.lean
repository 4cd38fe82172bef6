import AuthProfile.Db.ProfileRepository
import AuthProfile.Security.Deps
import AuthProfile.UseCases.Presence

set_option autoImplicit false

namespace AuthProfile

open Process ProfileRepository

structure OwnedGameResponse where
  gameId : String
  hidden : Bool
deriving DecidableEq, Repr

structure OwnedItemResponse where
  itemId : String
  gameId : String
deriving DecidableEq, Repr

structure TopPostResponse where
  postId : String
  feedbackScore : Int
  rank : Nat
deriving DecidableEq, Repr

structure ProfileResponse where
  userId : String
  displayName : String
  avatarUrl : String
  online : Bool
  ownedGames : List OwnedGameResponse
  ownedItems : List OwnedItemResponse
  topPosts : List TopPostResponse
deriving DecidableEq, Repr

-- What a request for a profile draws: the clock, and how PostgreSQL breaks ties.
variable (io : Circumstances)

def getProfile (userId : String) : Prog WireStores Error Profile := do
  match ← (getByUserId io userId).focus WireStores.onProfiles with
  | none => .raise (.profileNotFound userId)
  | some profile => do
      let online ← (PresenceStore.isOnline io.now userId).focus WireStores.onRedis
      return { profile with online := online }

def CurrentUser.owns (userId : String) (currentUser : Option CurrentUser) : Bool :=
  match currentUser with
  | none => false
  | some currentUser => currentUser.userId = userId

namespace ProfileController

def response (profile : Profile) (games : List OwnedGame) : ProfileResponse where
  userId := profile.userId
  displayName := profile.displayName
  avatarUrl := profile.avatarUrl
  online := profile.online
  ownedGames := games.map fun game => ⟨game.gameId, game.hidden⟩
  ownedItems := profile.ownedItems.map fun item => ⟨item.itemId, item.gameId⟩
  topPosts := profile.topPosts.map fun post => ⟨post.postId, post.feedbackScore, post.rank⟩

def getProfile (userId : String) (currentUser : Option CurrentUser) : Prog WireStores Error ProfileResponse := do
  let profile ← AuthProfile.getProfile io userId
  let games := if CurrentUser.owns userId currentUser then profile.ownedGames else profile.visibleGames
  return response profile games

-- GET /profile/{user_id}, with what the request carries as a bearer token.
def profileRoute (provider : JwtTokenProvider) (signed : List String) (credentials : Option String) (userId : String) :
    Prog WireStores Error ProfileResponse := do
  let currentUser ← Prog.ofExcept (getOptionalUser provider signed io.now credentials)
  getProfile io userId currentUser

end ProfileController

end AuthProfile
