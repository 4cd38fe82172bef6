import AuthProfile.Messaging.ProfileConsumers

set_option autoImplicit false

namespace AuthProfile

open Process

section Routing

variable (python : Interpreter) (io : Circumstances) (message : Value)

theorem dispatch_cases (handlers : List (String × (Value → Prog ReadModel Error Unit))) :
    dispatch python message handlers =
      match Envelope.parse python.printable message with
      | .error error => .raise error
      | .ok envelope =>
          match handlers.lookup envelope.eventType with
          | none => .ret ()
          | some handler => handler envelope.payload := by
  simp only [dispatch, route]
  cases Envelope.parse python.printable message with
  | error error => rfl
  | ok envelope =>
      dsimp only
      cases found : handlers.lookup envelope.eventType with
      | none =>
          simp only [bind, Except.bind, pure, Except.pure, found]
          rfl
      | some handler =>
          simp only [bind, Except.bind, pure, Except.pure, found]
          rfl

theorem lookup_first {α : Type} (first name : String) (a : α) (rest : List (String × α)) :
    ((first, a) :: rest).lookup name = if name = first then some a else rest.lookup name := by
  by_cases same : name = first
  · simp [same]
  · have different : (name == first) = false := beq_false_of_ne same
    rw [List.lookup_cons, different, if_neg same]

theorem handle_user_events_cases :
    handleUserEvents python io message =
      match Envelope.parse python.printable message with
      | .error error => .raise error
      | .ok envelope =>
          if envelope.eventType = AUTH_USER_REGISTERED then UserSyncProjector.handle io envelope.payload
            else .ret () := by
  rw [handleUserEvents, dispatch_cases]
  cases Envelope.parse python.printable message with
  | error error => rfl
  | ok envelope =>
      dsimp only
      by_cases registered : envelope.eventType = AUTH_USER_REGISTERED <;> simp [lookup_first, registered]

theorem handle_game_events_cases :
    handleGameEvents python io message =
      match Envelope.parse python.printable message with
      | .error error => .raise error
      | .ok envelope =>
          if envelope.eventType = CATALOG_OWNERSHIP_GRANTED then LibraryProjector.handle python io envelope.payload
          else if envelope.eventType = CATALOG_OWNERSHIP_REVOKED then LibraryProjector.revoke python envelope.payload
          else .ret () := by
  rw [handleGameEvents, dispatch_cases]
  cases Envelope.parse python.printable message with
  | error error => rfl
  | ok envelope =>
      dsimp only
      by_cases granted : envelope.eventType = CATALOG_OWNERSHIP_GRANTED
      · simp [granted]
      · by_cases revoked : envelope.eventType = CATALOG_OWNERSHIP_REVOKED
        · simp only [lookup_first, if_neg granted, if_pos revoked]
        · simp [lookup_first, granted, revoked]

theorem handle_marketplace_events_cases :
    handleMarketplaceEvents python io message =
      match Envelope.parse python.printable message with
      | .error error => .raise error
      | .ok envelope =>
          if envelope.eventType = MARKETPLACE_ITEM_GRANTED ∨ envelope.eventType = MARKETPLACE_TRADE_MATCHED then
            InventoryProjector.handle io envelope.payload
          else .ret () := by
  rw [handleMarketplaceEvents, dispatch_cases]
  cases Envelope.parse python.printable message with
  | error error => rfl
  | ok envelope =>
      dsimp only
      by_cases granted : envelope.eventType = MARKETPLACE_ITEM_GRANTED
      · simp [granted]
      · by_cases matched : envelope.eventType = MARKETPLACE_TRADE_MATCHED <;> simp [lookup_first, granted, matched]

theorem handle_community_events_cases :
    handleCommunityEvents python io message =
      match Envelope.parse python.printable message with
      | .error error => .raise error
      | .ok envelope =>
          if envelope.eventType = COMMUNITY_POST_REACTED then TopPostsProjector.handle python io envelope.payload
            else .ret () := by
  rw [handleCommunityEvents, dispatch_cases]
  cases Envelope.parse python.printable message with
  | error error => rfl
  | ok envelope =>
      dsimp only
      by_cases reacted : envelope.eventType = COMMUNITY_POST_REACTED <;> simp [lookup_first, reacted]

end Routing

end AuthProfile
