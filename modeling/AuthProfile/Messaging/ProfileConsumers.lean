import AuthProfile.Messaging.Envelope
import AuthProfile.UseCases.Profile

set_option autoImplicit false

namespace AuthProfile

open Process

def AUTH_USER_REGISTERED : String := "arcadia.auth.v1.UserRegistered"

def CATALOG_OWNERSHIP_GRANTED : String := "arcadia.catalog.v1.OwnershipGranted"

def CATALOG_OWNERSHIP_REVOKED : String := "arcadia.catalog.v1.OwnershipRevoked"

def MARKETPLACE_ITEM_GRANTED : String := "arcadia.marketplace.v1.ItemGranted"

def MARKETPLACE_TRADE_MATCHED : String := "arcadia.marketplace.v1.TradeMatched"

def COMMUNITY_POST_REACTED : String := "arcadia.community.v1.PostReacted"

section Handlers

variable (python : Interpreter) (io : Circumstances) (message : Value)

def dispatch (handlers : List (String × (Value → Prog ReadModel Error Unit))) : Prog ReadModel Error Unit := do
  match ← Prog.ofExcept (route python.printable message handlers) with
  | none => return ()
  | some (envelope, handler) => handler envelope.payload

def handleUserEvents : Prog ReadModel Error Unit :=
  dispatch python message [(AUTH_USER_REGISTERED, UserSyncProjector.handle io)]

def handleGameEvents : Prog ReadModel Error Unit :=
  dispatch python message
    [(CATALOG_OWNERSHIP_GRANTED, LibraryProjector.handle python io),
      (CATALOG_OWNERSHIP_REVOKED, LibraryProjector.revoke python)]

def handleMarketplaceEvents : Prog ReadModel Error Unit :=
  dispatch python message
    [(MARKETPLACE_ITEM_GRANTED, InventoryProjector.handle io),
      (MARKETPLACE_TRADE_MATCHED, InventoryProjector.handle io)]

def handleCommunityEvents : Prog ReadModel Error Unit :=
  dispatch python message [(COMMUNITY_POST_REACTED, TopPostsProjector.handle python io)]

end Handlers

end AuthProfile
