import AuthProfile.Db.ProfileSteps
import AuthProfile.Messaging.Routing

set_option autoImplicit false

namespace AuthProfile

open Relation Process ProfileRepository

structure Item where
  userId : String
  itemId : String
  gameId : String
deriving DecidableEq, Repr

-- What a message of trade-events grants.
def itemOf (python : Interpreter) (message : Value) : Option Item :=
  match Envelope.parse python.printable message with
  | .error _ => none
  | .ok envelope =>
      if envelope.eventType = MARKETPLACE_ITEM_GRANTED ∨ envelope.eventType = MARKETPLACE_TRADE_MATCHED then
        match envelope.payload.get "user_id", envelope.payload.get "item_id", envelope.payload.get "game_id" with
        | some (.str userId), some (.str itemId), some (.str gameId) => some ⟨userId, itemId, gameId⟩
        | _, _, _ => none
      else none

-- The columns keep all three ids as they are.
structure Item.Kept (item : Item) : Prop where
  userId : Varchar.Fits 36 item.userId
  itemId : Varchar.Fits 36 item.itemId
  gameId : Varchar.Fits 36 item.gameId

instance (item : Item) : Decidable item.Kept :=
  decidable_of_iff (Varchar.Fits 36 item.userId ∧ Varchar.Fits 36 item.itemId ∧ Varchar.Fits 36 item.gameId)
    ⟨fun ⟨userId, itemId, gameId⟩ => ⟨userId, itemId, gameId⟩, fun ⟨userId, itemId, gameId⟩ => ⟨userId, itemId, gameId⟩⟩

-- What the columns make of an item.
def Item.cut (item : Item) : Item :=
  ⟨Varchar.cut 36 item.userId, Varchar.cut 36 item.itemId, Varchar.cut 36 item.gameId⟩

theorem item_cut_kept (item : Item) (kept : item.Kept) : item.cut = item := by
  rw [Item.cut, Varchar.cut_short 36 _ kept.userId.1, Varchar.cut_short 36 _ kept.itemId.1,
    Varchar.cut_short 36 _ kept.gameId.1]

def OwnedItemRow.item (row : OwnedItemRow) : Item := ⟨row.userId.text, row.itemId.text, row.gameId.text⟩

theorem row_item_kept (row : OwnedItemRow) : row.item.Kept := ⟨row.userId.fits, row.itemId.fits, row.gameId.fits⟩

def ReadModel.items (db : ReadModel) : List Item := db.ownedItems.rows.map OwnedItemRow.item

-- The seventh action of an attempt is the commit of its INSERT, where the id of the user is kept.
def completes (script : List Fault) : Bool := through 7 script

def lands (script : List Fault) : Bool := takesEffect 6 script

theorem lands_of_completes (script : List Fault) (whole : completes script = true) : lands script = true :=
  takes_effect_of_through 6 script whole

section Attempt

variable (python : Interpreter) (message : Value)

theorem profile_row_new_again (io other : Circumstances) (userId displayName : Value) (row : ProfileRow)
    (stored : ProfileRow.new io userId displayName = .ok row) :
    ∃ row', ProfileRow.new other userId displayName = .ok row' := by
  simp only [ProfileRow.new, except_bind_ok] at stored
  obtain ⟨user, isUser, name, isName, _⟩ := stored
  rw [ProfileRow.new, isUser, isName]
  exact ⟨_, rfl⟩

structure HasItem (payload : Value) (item : Item) : Prop where
  hasUser : payload.get "user_id" = some (.str item.userId)
  hasItem : payload.get "item_id" = some (.str item.itemId)
  hasGame : payload.get "game_id" = some (.str item.gameId)

-- A payload whose item the columns take, whatever an attempt draws.
structure Insertable (payload : Value) (item : Item) : Prop extends HasItem payload item where
  profile : ∀ io, ∃ row, ProfileRow.new io (.str item.userId) (displayNameOf payload) = .ok row ∧
    key row = item.cut.userId
  stored : ∀ io, ∃ row, OwnedItemRow.new io (.str item.userId) (.str item.itemId) (.str item.gameId) = .ok row ∧
    row.item = item.cut ∧ key row = io.rowId.text

theorem insertable_of_rows (payload : Value) (io : Circumstances) (userId itemId gameId : Value) (profile : ProfileRow)
    (row : OwnedItemRow) (hasUser : payload.get "user_id" = some userId) (hasItem : payload.get "item_id" = some itemId)
    (hasGame : payload.get "game_id" = some gameId)
    (profileStored : ProfileRow.new io userId (displayNameOf payload) = .ok profile)
    (stored : OwnedItemRow.new io userId itemId gameId = .ok row) :
    key row = io.rowId.text ∧ ∃ item, Insertable payload item ∧ row.item = item.cut := by
  simp only [OwnedItemRow.new, except_bind_ok] at stored
  obtain ⟨user, isUser, item, isItem, game, isGame, same⟩ := stored
  cases same
  obtain ⟨userText, rfl, _, userCut⟩ := bind_value_ok 36 _ userId user isUser
  obtain ⟨itemText, rfl, _, itemCut⟩ := bind_value_ok 36 _ itemId item isItem
  obtain ⟨gameText, rfl, _, gameCut⟩ := bind_value_ok 36 _ gameId game isGame
  have texts : (⟨user.text, item.text, game.text⟩ : Item) = Item.cut ⟨userText, itemText, gameText⟩ := by
    rw [userCut, itemCut, gameCut, Item.cut]
  refine ⟨rfl, ⟨userText, itemText, gameText⟩, ⟨⟨hasUser, hasItem, hasGame⟩, fun other => ?_, fun other => ?_⟩, texts⟩
  · obtain ⟨row', stored'⟩ := profile_row_new_again io other _ _ profile profileStored
    obtain ⟨_, _, sameUser, _, _, _, isKey, _⟩ := profile_row_new_ok other _ _ row' stored'
    cases sameUser
    exact ⟨row', stored', isKey⟩
  · refine ⟨⟨other.rowId, user, item, game, other.now⟩, ?_, texts, rfl⟩
    simp only [OwnedItemRow.new, isUser, isItem, isGame]
    rfl

theorem inventory_handle_eq (io : Circumstances) (payload : Value) (item : Item)
    (insertable : Insertable payload item) :
    InventoryProjector.handle io payload =
      createIfMissing io (.str item.userId) (displayNameOf payload) >>= fun _ =>
        addOwnedItem io (.str item.userId) (.str item.itemId) (.str item.gameId) := by
  rw [InventoryProjector.handle, Value.item, insertable.hasUser]
  simp only [Value.item, insertable.hasItem, insertable.hasGame]
  rfl

-- The message is one that grants the item, and the columns take what it names.
def Grants (item : Item) : Prop :=
  ∃ payload, (∀ io, handleMarketplaceEvents python io message = InventoryProjector.handle io payload) ∧
    Insertable payload item ∧
    itemOf python message = some item

-- What an attempt may do to the inventory, and that a returning one grants.
def Attempted (io : Circumstances) (before : ReadModel) (result : Except Error Unit) (after : ReadModel) : Prop :=
  (after.ownedItems = before.ownedItems ∧ (result = .ok () → itemOf python message = none)) ∨
    ∃ row item, Grants python message item ∧ row.item = item.cut ∧ key row = io.rowId.text ∧
      after.ownedItems.rows = before.ownedItems.rows ++ [row]

theorem inventory_attempted (io : Circumstances) (payload : Value) (db : ReadModel)
    (routed : ∀ io, handleMarketplaceEvents python io message = InventoryProjector.handle io payload)
    (isItem : ∀ item, HasItem payload item → itemOf python message = some item) :
    (InventoryProjector.handle io payload).wp (Attempted python message io db) db := by
  have failed : ∀ (error : Error) (after : ReadModel), after.ownedItems = db.ownedItems →
      Attempted python message io db (.error error) after :=
        fun error after same => Or.inl ⟨same, fun wrong => nomatch wrong⟩
  rw [InventoryProjector.handle, Prog.wp_of_except_bind]
  cases hasUser : Value.item "user_id" payload with
  | error error => exact failed error db rfl
  | ok userId =>
      refine wp_create_if_missing io _ db _ _ _ (fun error => failed error db rfl) fun profile profileStored => ?_
      have sameItems := db.insert_profile_items profile
      refine ⟨fun error => failed error _ sameItems, ?_⟩
      rw [Prog.wp_of_except_bind]
      cases hasItem : Value.item "item_id" payload with
      | error error => exact failed error _ sameItems
      | ok itemId =>
          dsimp only
          rw [Prog.wp_of_except_bind]
          cases hasGame : Value.item "game_id" payload with
          | error error => exact failed error _ sameItems
          | ok gameId =>
              refine wp_commit _ _ _ (fun error => failed error _ sameItems) fun after run => ?_
              obtain ⟨row, stored, inserted⟩ := (except_bind_ok _ _ _).mp run
              have added := (db.insertProfileOrNothing profile).insert_owned_item_ok row after inserted
              obtain ⟨isKey, item, insertable, isItem'⟩ :=
                insertable_of_rows payload io userId itemId gameId profile row
                (item_ok _ _ _ hasUser) (item_ok _ _ _ hasItem) (item_ok _ _ _ hasGame) profileStored stored
              have grants : Grants python message item :=
                ⟨payload, routed, insertable, isItem item insertable.toHasItem⟩
              have isAdded : after.ownedItems.rows = db.ownedItems.rows ++ [row] := by rw [added.rows, sameItems]
              exact ⟨Or.inr ⟨row, item, grants, isItem', isKey, isAdded⟩,
                Or.inr ⟨row, item, grants, isItem', isKey, isAdded⟩⟩

theorem marketplace_attempted (io : Circumstances) (db : ReadModel) :
    (handleMarketplaceEvents python io message).wp (Attempted python message io db) db := by
  have silent : ∀ result, itemOf python message = none → Attempted python message io db result db :=
    fun result isNone => Or.inl ⟨rfl, fun _ => isNone⟩
  cases parsed : Envelope.parse python.printable message with
  | error error =>
      rw [handle_marketplace_events_cases, parsed]
      exact silent _ (by rw [itemOf, parsed])
  | ok envelope =>
      by_cases ours : envelope.eventType = MARKETPLACE_ITEM_GRANTED ∨ envelope.eventType = MARKETPLACE_TRADE_MATCHED
      · have routed : ∀ io, handleMarketplaceEvents python io message = InventoryProjector.handle io envelope.payload :=
            fun io => by
          rw [handle_marketplace_events_cases, parsed]
          exact if_pos ours
        rw [routed]
        refine inventory_attempted python message io envelope.payload db routed fun item has => ?_
        rw [itemOf, parsed]
        simp [ours, has.hasUser, has.hasItem, has.hasGame]
      · rw [handle_marketplace_events_cases, parsed]
        simp only [if_neg ours]
        exact silent _ (by rw [itemOf, parsed]; exact if_neg ours)

section Granted

variable (item : Item) (payload : Value) (insertable : Insertable payload item) (io : Circumstances)
    (script : List Fault) (db : ReadModel)

include insertable

variable (n : Nat) (counted : (createIfMissing io (.str item.userId) (displayNameOf payload)).actions db = n)

include counted

-- The profile is made sure of, and the row is inserted unless that is refused.
theorem granted_opened (fresh : io.rowId.text ∉ db.ownedItems.keys) (opened : through n script = true) :
    ((InventoryProjector.handle io payload).exec script db).store.items =
        db.items ++ (if (script.drop n).headD .none = .before then [] else [item.cut]) ∧
      (((InventoryProjector.handle io payload).exec script db).result = .ok () ↔
        (script.drop n).headD .none = .none) := by
  obtain ⟨profile, profileStored, isOwner⟩ := insertable.profile io
  obtain ⟨row, stored, isItem, isKey⟩ := insertable.stored io
  obtain ⟨found, run⟩ := create_if_missing_runs db io _ _ profile profileStored
  have sameItems := db.insert_profile_items profile
  have isFresh : key row ∉ (db.insertProfileOrNothing profile).ownedItems.keys := by rwa [sameItems, isKey]
  have isUser : row.userId.text = key profile := (congrArg Item.userId isItem).trans isOwner.symm
  have known : row.userId.text ∈ (db.insertProfileOrNothing profile).profiles.keys :=
    isUser ▸ db.insert_profile_known profile
  obtain ⟨after, inserted⟩ := (db.insertProfileOrNothing profile).insert_owned_item_runs row isFresh known
  have added := (db.insertProfileOrNothing profile).insert_owned_item_ok row after inserted
  have items : after.items = db.items ++ [item.cut] := by
    rw [ReadModel.items, added.rows, sameItems, List.map_append, List.map_singleton, isItem]
    rfl
  have still : (db.insertProfileOrNothing profile).items = db.items := by
    rw [ReadModel.items, sameItems, ReadModel.items]
  have change : ((do (db.insertProfileOrNothing profile).insertOwnedItem (← OwnedItemRow.new io (.str item.userId)
    (.str item.itemId)
      (.str item.gameId))) : Except Error ReadModel) = .ok after := by
    rw [stored]
    exact inserted
  rw [inventory_handle_eq io payload item insertable, Prog.exec_bind,
    Prog.exec_through _ script db (counted.symm ▸ opened), run, counted]
  dsimp only
  rw [addOwnedItem, commit, Prog.exec_atomic_ok _ _ _ _ after () (by rw [change]; rfl)]
  cases (script.drop n).headD .none with
  | none => simp [items]
  | before => simp [still]
  | after => simp [items]

theorem granted_cut (cut : through n script = false) :
    ((InventoryProjector.handle io payload).exec script db).store.items = db.items ∧
      ((InventoryProjector.handle io payload).exec script db).result ≠ .ok () := by
  obtain ⟨error, failed⟩ := Prog.exec_cut _ (create_if_missing_gives_up io _ _) script db (counted.symm ▸ cut)
  have kept :=
    Prog.wp_exec _ _ _ (create_if_missing_keeps io db (fun after => after.items = db.items) (.str item.userId)
    (displayNameOf payload) rfl fun other _ =>
      by rw [ReadModel.items, db.insert_profile_items other, ReadModel.items]) script
  rw [inventory_handle_eq io payload item insertable, Prog.exec_bind]
  cases run : (createIfMissing io (.str item.userId) (displayNameOf payload)).exec script db with
  | mk result later after =>
      rw [run] at failed kept
      dsimp only at failed kept
      rw [failed]
      exact ⟨kept, fun wrong => nomatch wrong⟩

end Granted

-- An attempt at a message that grants an item, by what becomes of its actions.
theorem granted_exec (item : Item) (kept : item.Kept) (grants : Grants python message item) (io : Circumstances)
    (script : List Fault) (db : ReadModel) (fresh : io.rowId.text ∉ db.ownedItems.keys) :
    ((handleMarketplaceEvents python io message).exec script db).store.items = db.items ++
      (if lands script then [item] else []) ∧
      (((handleMarketplaceEvents python io message).exec script db).result = .ok () ↔ completes script = true) := by
  obtain ⟨payload, routed, insertable, _⟩ := grants
  obtain ⟨profile, stored, _⟩ := insertable.profile io
  have counted := (create_if_missing_actions db io _ _ profile stored).trans (if_pos kept.userId.1)
  rw [routed, completes, through_last, lands, takesEffect]
  by_cases opened : through 6 script = true
  · obtain ⟨items, returns⟩ := granted_opened item payload insertable io script db 6 counted fresh opened
    rw [items, returns, item_cut_kept item kept]
    simp [opened]
  · obtain ⟨items, failed⟩ := granted_cut item payload insertable io script db 6 counted (Bool.eq_false_iff.mpr opened)
    simp [items, failed, opened]

-- The same with nothing failing, whatever the columns make of the item.
theorem granted_alone (item : Item) (grants : Grants python message item) (io : Circumstances) (db : ReadModel)
    (fresh : io.rowId.text ∉ db.ownedItems.keys) :
    ((handleMarketplaceEvents python io message).exec [] db).store.items = db.items ++ [item.cut] := by
  obtain ⟨payload, routed, insertable, _⟩ := grants
  rw [routed, (granted_opened item payload insertable io [] db _ rfl fresh (through_nil _)).1, List.drop_nil]
  rfl

end Attempt

end AuthProfile
