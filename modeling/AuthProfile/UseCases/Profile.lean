import AuthProfile.Db.ProfileRepository

set_option autoImplicit false

namespace AuthProfile

open Process ProfileRepository

-- event[name]
def Value.item (name : String) (event : Value) : Except Error Value :=
  match event.get name with
  | some value => .ok value
  | none => .error (.key name)

theorem item_ok (name : String) (payload value : Value) (isValue : Value.item name payload = .ok value) :
    payload.get name = some value := by
  rw [Value.item] at isValue
  split at isValue
  · rename_i found
    cases isValue
    exact found
  · cases isValue

-- event.get("display_name", "")
def displayNameOf (event : Value) : Value := (event.get "display_name").getD (.str "")

namespace UserSyncProjector

def handle (io : Circumstances) (event : Value) : Prog ReadModel Error Unit := do
  let userId ← Prog.ofExcept (Value.item "user_id" event)
  let _ ← createIfMissing io userId (displayNameOf event)

end UserSyncProjector

namespace LibraryProjector

variable (python : Interpreter) (io : Circumstances)

def ownerOf (payload : Value) : String :=
  match payload.get "owner_id" with
  | some owner => if owner.truthy then owner.toStr python.printable
      else Value.toStrOr python.printable (payload.get "user_id")
  | none => Value.toStrOr python.printable (payload.get "user_id")

-- The owner and the game of an ownership payload.
def parties (className : String) (payload : Value) : Except Error (String × String) :=
  let userId := ownerOf python payload
  let gameId := Value.toStrOr python.printable (payload.get "game_id")
  if userId = "" ∨ gameId = "" then
    .error (.value (className ++ " needs an owner and a game, got " ++ String.ofList (payload.repr python.printable)))
  else .ok (userId, gameId)

def handle (payload : Value) : Prog ReadModel Error Unit := do
  let (userId, gameId) ← Prog.ofExcept (parties python "OwnershipGranted" payload)
  let _ ← createIfMissing io (.str userId) (.str "")
  if ← ownsGame userId gameId then return ()
  addOwnedGame ⟨io.rowId.text, userId, gameId, false, io.now⟩

def revoke (payload : Value) : Prog ReadModel Error Unit := do
  let (userId, gameId) ← Prog.ofExcept (parties python "OwnershipRevoked" payload)
  removeOwnedGame userId gameId

end LibraryProjector

namespace InventoryProjector

def handle (io : Circumstances) (event : Value) : Prog ReadModel Error Unit := do
  let userId ← Prog.ofExcept (Value.item "user_id" event)
  let _ ← createIfMissing io userId (displayNameOf event)
  let itemId ← Prog.ofExcept (Value.item "item_id" event)
  let gameId ← Prog.ofExcept (Value.item "game_id" event)
  addOwnedItem io userId itemId gameId

end InventoryProjector

namespace TopPostsProjector

def handle (python : Interpreter) (io : Circumstances) (event : Value) : Prog ReadModel Error Unit := do
  let authorId ← Prog.ofExcept (Value.item "author_id" event)
  let _ ← createIfMissing io authorId (displayNameOf event)
  let postId ← Prog.ofExcept (Value.item "post_id" event)
  let feedbackScore ← Prog.ofExcept (Value.item "feedback_score" event)
  upsertTopPost io python authorId postId feedbackScore

end TopPostsProjector

def hideGame (userId gameId : String) (hidden : Bool) : Prog ReadModel Error Unit := setHidden userId gameId hidden

end AuthProfile
