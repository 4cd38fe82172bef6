import AuthProfile.Db.ProfileRepository
import AuthProfile.Db.UserRepository
import AuthProfile.Messaging.Envelope

set_option autoImplicit false

namespace AuthProfile

open Relation Process ProfileRepository

def GIFT_CARD_ABUSE_DETECTED : String := "arcadia.wallet.v1.GiftCardAbuseDetected"

-- What Support is told of a user in the log.
structure SupportFlag where
  userId : String
  email : String
  reason : Value

namespace AbuseEventConsumer

def flag (payload : Value) : Prog Db Error (Option SupportFlag) :=
  match payload.get "user_id" with
  | none => return none
  | some userId =>
      if !userId.truthy then return none
      else do
        let id ← Prog.ofExcept (bindText "id" userId)
        match ← select id.toList fun db : Db => id.bind db.users.find with
        | none => return none
        | some user =>
            return some ⟨user.id.text, user.email.text, (payload.get "reason").getD (.str "gift-card abuse pattern")⟩

def handle (python : Interpreter) (message : Value) : Prog Db Error (Option SupportFlag) := do
  match ← Prog.ofExcept (route python.printable message [(GIFT_CARD_ABUSE_DETECTED, flag)]) with
  | none => return none
  | some (envelope, handler) => handler envelope.payload

end AbuseEventConsumer

end AuthProfile
