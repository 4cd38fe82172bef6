import AuthProfile.Db.ProfileSave
import AuthProfile.Security.Deps
import AuthProfile.UseCases.Profile

set_option autoImplicit false

namespace AuthProfile

open Process

structure HideGameRequest where
  gameId : String
deriving DecidableEq, Repr

structure SetAvatarRequest where
  avatarUrl : String
  fits : avatarUrl.length ≤ 512
deriving DecidableEq, Repr

namespace LibraryController

variable (currentUser : CurrentUser) (body : HideGameRequest)

def hideGame : Prog ReadModel Error Unit := AuthProfile.hideGame currentUser.userId body.gameId true

def unhideGame : Prog ReadModel Error Unit := AuthProfile.hideGame currentUser.userId body.gameId false

end LibraryController

def ProfileController.setAvatar (io : Circumstances) (currentUser : CurrentUser) (body : SetAvatarRequest) :
    Prog ReadModel Error Unit :=
  AuthProfile.setAvatar io currentUser.userId body.avatarUrl

-- What a signed-in account may change of its own profile.
inductive OwnProfileRequest where
  | hideGame (body : HideGameRequest)
  | unhideGame (body : HideGameRequest)
  | setAvatar (body : SetAvatarRequest)
deriving DecidableEq, Repr

namespace OwnProfileRequest

def handler (io : Circumstances) (currentUser : CurrentUser) : OwnProfileRequest → Prog ReadModel Error Unit
  | .hideGame body => LibraryController.hideGame currentUser body
  | .unhideGame body => LibraryController.unhideGame currentUser body
  | .setAvatar body => ProfileController.setAvatar io currentUser body

def route (provider : JwtTokenProvider) (signed : List String) (io : Circumstances) (credentials : String)
    (request : OwnProfileRequest) : Prog ReadModel Error Unit := do
  let currentUser ← Prog.ofExcept (getCurrentUser provider signed io.now credentials)
  request.handler io currentUser

end OwnProfileRequest

end AuthProfile
