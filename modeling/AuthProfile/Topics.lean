import AuthProfile.Db.ProfileFrames
import AuthProfile.Db.Shelf
import AuthProfile.LibraryAttempts

set_option autoImplicit false

namespace AuthProfile

open Relation Process ProfileRepository

-- The topics that the read model is built from.
inductive Topic where
  | userEvents | gameEvents | tradeEvents | communityEvents
deriving DecidableEq, Repr

-- A message handled once by the handler of its topic, with what that draws.
structure Delivery where
  topic : Topic
  io : Circumstances
  message : Value

-- What the handler of a message hands to create_if_missing, if it gets there: whose
-- profile it is and the display name for it.
def seeding (python : Interpreter) (topic : Topic) (message : Value) : Option (Value × Value) :=
  match Envelope.parse python.printable message with
  | .error _ => none
  | .ok envelope =>
      match topic with
      | .userEvents =>
          if envelope.eventType = AUTH_USER_REGISTERED then
            (envelope.payload.get "user_id").map fun userId => (userId, displayNameOf envelope.payload)
          else none
      | .gameEvents =>
          if envelope.eventType = CATALOG_OWNERSHIP_GRANTED then
            (pairTold python envelope.payload).map fun (userId, _) => (.str userId, .str "")
          else none
      | .tradeEvents =>
          if envelope.eventType = MARKETPLACE_ITEM_GRANTED ∨ envelope.eventType = MARKETPLACE_TRADE_MATCHED then
            (envelope.payload.get "user_id").map fun userId => (userId, displayNameOf envelope.payload)
          else none
      | .communityEvents =>
          if envelope.eventType = COMMUNITY_POST_REACTED then
            (envelope.payload.get "author_id").map fun authorId => (authorId, displayNameOf envelope.payload)
          else none

-- The display name a message has for the profile of the user, if the columns take the row.
def nameFor (python : Interpreter) (userId : String) (topic : Topic) (message : Value) : Option String :=
  match seeding python topic message with
  | some (.str owner, .str displayName) =>
      if Varchar.Takes 36 owner ∧ Varchar.cut 36 owner = userId ∧ Varchar.Takes 64 displayName then
        some (Varchar.cut 64 displayName)
      else none
  | _ => none

def ReadModel.nameOf (userId : String) (db : ReadModel) : Option String :=
  (db.profiles.find userId).map fun row => row.displayName.text

namespace Delivery

variable (python : Interpreter) (delivery : Delivery)

def handle : Prog ReadModel Error Unit :=
  match delivery.topic with
  | .userEvents => handleUserEvents python delivery.io delivery.message
  | .gameEvents => handleGameEvents python delivery.io delivery.message
  | .tradeEvents => handleMarketplaceEvents python delivery.io delivery.message
  | .communityEvents => handleCommunityEvents python delivery.io delivery.message

def store (db : ReadModel) : ReadModel := ((delivery.handle python).exec [] db).store

-- The writes of a topic's handler are among those the relation admits.
structure Admits (guar : ReadModel → ReadModel → Prop) : Prop where
  still : ∀ db, guar db db
  game : delivery.topic = .gameEvents → ∀ row db after, key row = delivery.io.rowId.text →
    ReadModel.insertOwnedGame row db = .ok after → guar db after
  gone : delivery.topic = .gameEvents → ∀ gone db, guar db (ReadModel.deleteOwnedGames gone db)
  item : delivery.topic = .tradeEvents → ∀ row db after, key row = delivery.io.rowId.text →
    ReadModel.insertOwnedItem row db = .ok after → guar db after
  post : delivery.topic = .communityEvents → ∀ row db after, key row = delivery.io.rowId.text →
    ReadModel.insertTopPost row db = .ok after → guar db after
  score : delivery.topic = .communityEvents → ∀ id n db after, ReadModel.updateScore id n db = .ok after → guar db after
  rank : delivery.topic = .communityEvents → ∀ loaded db after, ReadModel.rankPosts loaded db = .ok after →
    guar db after

-- A handler either makes sure of a profile first, or has nothing to do with one.
inductive Seeds (guar : ReadModel → ReadModel → Prop) : Prog ReadModel Error Unit → Prop where
  | nothing (p : Prog ReadModel Error Unit) (silent : seeding python delivery.topic delivery.message = none)
      (steps : p.Steps guar) :
      Seeds guar p
  | profile (userId displayName : Value) (rest : Prog ReadModel Error Unit)
      (isSeed : seeding python delivery.topic delivery.message = some (userId, displayName)) (steps : rest.Steps guar) :
      Seeds guar (createIfMissing delivery.io userId displayName >>= fun _ => rest)

end Delivery

section Handlers

variable (python : Interpreter) (guar : ReadModel → ReadModel → Prop) (io : Circumstances) (message : Value)

theorem user_events_seed :
    Delivery.Seeds python ⟨.userEvents, io, message⟩ guar (handleUserEvents python io message) := by
  rw [handle_user_events_cases]
  cases parsed : Envelope.parse python.printable message with
  | error error => exact .nothing _ (by simp [seeding, parsed]) trivial
  | ok envelope =>
      dsimp only
      by_cases registered : envelope.eventType = AUTH_USER_REGISTERED
      · rw [if_pos registered, UserSyncProjector.handle, Value.item]
        cases hasUser : envelope.payload.get "user_id" with
        | none => exact .nothing _ (by simp [seeding, parsed, hasUser]) trivial
        | some userId => exact .profile userId _ (.ret ()) (by simp [seeding, parsed, registered, hasUser]) trivial
      · rw [if_neg registered]
        exact .nothing _ (by simp [seeding, parsed, registered]) trivial

theorem game_events_seed (admits : Delivery.Admits ⟨.gameEvents, io, message⟩ guar) :
    Delivery.Seeds python ⟨.gameEvents, io, message⟩ guar (handleGameEvents python io message) := by
  rw [handle_game_events_cases]
  cases parsed : Envelope.parse python.printable message with
  | error error => exact .nothing _ (by simp [seeding, parsed]) trivial
  | ok envelope =>
      dsimp only
      by_cases granted : envelope.eventType = CATALOG_OWNERSHIP_GRANTED
      · rw [if_pos granted, LibraryProjector.handle]
        cases isParties : LibraryProjector.parties python "OwnershipGranted" envelope.payload with
        | error error =>
            have silent := parties_error python envelope.payload "OwnershipGranted" error isParties
            exact .nothing _ (by simp [seeding, parsed, granted, silent]) trivial
        | ok parties =>
            have isTold := parties_ok python envelope.payload "OwnershipGranted" parties isParties
            refine .profile _ _ _ (by simp [seeding, parsed, granted, isTold]) ?_
            exact library_steps guar admits.still io (admits.game rfl) parties.1 parties.2
      · rw [if_neg granted]
        refine .nothing _ (by simp [seeding, parsed, granted]) ?_
        by_cases revoked : envelope.eventType = CATALOG_OWNERSHIP_REVOKED
        · rw [if_pos revoked, LibraryProjector.revoke]
          refine Prog.steps_bind guar _ _ (of_except_steps guar _) fun parties => ?_
          refine Prog.steps_bind guar _ _ (select_steps _ _ guar admits.still) fun gone =>
            commit_steps guar admits.still _ fun db after run => ?_
          cases run
          exact admits.gone rfl _ db
        · rw [if_neg revoked]
          trivial

theorem marketplace_events_seed (admits : Delivery.Admits ⟨.tradeEvents, io, message⟩ guar) :
    Delivery.Seeds python ⟨.tradeEvents, io, message⟩ guar (handleMarketplaceEvents python io message) := by
  rw [handle_marketplace_events_cases]
  cases parsed : Envelope.parse python.printable message with
  | error error => exact .nothing _ (by simp [seeding, parsed]) trivial
  | ok envelope =>
      dsimp only
      by_cases ours : envelope.eventType = MARKETPLACE_ITEM_GRANTED ∨ envelope.eventType = MARKETPLACE_TRADE_MATCHED
      · rw [if_pos ours, InventoryProjector.handle, Value.item]
        cases hasUser : envelope.payload.get "user_id" with
        | none => exact .nothing _ (by simp [seeding, parsed, hasUser]) trivial
        | some userId =>
            refine .profile userId _ _ (by simp [seeding, parsed, ours, hasUser]) ?_
            refine Prog.steps_bind guar _ _ (of_except_steps guar _) fun itemId => ?_
            refine Prog.steps_bind guar _ _ (of_except_steps guar _) fun gameId => ?_
            exact inventory_steps guar admits.still io (admits.item rfl) userId itemId gameId
      · rw [if_neg ours]
        exact .nothing _ (by simp [seeding, parsed, ours]) trivial

theorem community_events_seed (admits : Delivery.Admits ⟨.communityEvents, io, message⟩ guar) :
    Delivery.Seeds python ⟨.communityEvents, io, message⟩ guar (handleCommunityEvents python io message) := by
  rw [handle_community_events_cases]
  cases parsed : Envelope.parse python.printable message with
  | error error => exact .nothing _ (by simp [seeding, parsed]) trivial
  | ok envelope =>
      dsimp only
      by_cases reacted : envelope.eventType = COMMUNITY_POST_REACTED
      · rw [if_pos reacted, TopPostsProjector.handle, Value.item]
        cases hasAuthor : envelope.payload.get "author_id" with
        | none => exact .nothing _ (by simp [seeding, parsed, hasAuthor]) trivial
        | some authorId =>
            refine .profile authorId _ _ (by simp [seeding, parsed, reacted, hasAuthor]) ?_
            refine Prog.steps_bind guar _ _ (of_except_steps guar _) fun postId => ?_
            refine Prog.steps_bind guar _ _ (of_except_steps guar _) fun feedbackScore => ?_
            exact upsert_steps guar admits.still io python (admits.post rfl) (admits.score rfl)
              (admits.rank rfl) authorId postId feedbackScore
      · rw [if_neg reacted]
        exact .nothing _ (by simp [seeding, parsed, reacted]) trivial

theorem handle_seeds (delivery : Delivery) (admits : delivery.Admits guar) :
    delivery.Seeds python guar (delivery.handle python) := by
  obtain ⟨topic, io, message⟩ := delivery
  cases topic with
  | userEvents => exact user_events_seed python guar io message
  | gameEvents => exact game_events_seed python guar io message admits
  | tradeEvents => exact marketplace_events_seed python guar io message admits
  | communityEvents => exact community_events_seed python guar io message admits

theorem handle_steps (delivery : Delivery) (admits : delivery.Admits guar)
    (profile : ∀ db row, guar db (ReadModel.insertProfileOrNothing row db)) : (delivery.handle python).Steps guar := by
  have seeds := handle_seeds python guar delivery admits
  generalize delivery.handle python = program at seeds ⊢
  cases seeds with
  | nothing p silent steps => exact steps
  | profile userId displayName rest isSeed steps =>
      exact Prog.steps_bind _ _ _ (create_if_missing_steps guar admits.still delivery.io profile userId displayName)
        fun _ => steps

end Handlers

section Effects

variable (python : Interpreter) (delivery : Delivery) (db : ReadModel)

theorem admits_profiles : delivery.Admits fun before after => after.profiles = before.profiles where
  still := fun _ => rfl
  game := fun _ row _ after _ run => (ReadModel.insert_owned_game_ok _ row after run).profiles
  gone := fun _ _ _ => rfl
  item := fun _ row _ after _ run => (ReadModel.insert_owned_item_ok _ row after run).profiles
  post := fun _ row _ after _ run => (ReadModel.insert_top_post_only _ after row run).profiles
  score := fun _ id n _ after run => (ReadModel.update_score_only _ after id n run).1.profiles
  rank := fun _ loaded _ after run => (ReadModel.rank_posts_only _ after loaded run).1.profiles

-- A topic's handler writes to the profiles and to the table of its topic.
structure Delivery.Touched (before after : ReadModel) : Prop where
  games : delivery.topic ≠ .gameEvents → after.ownedGames = before.ownedGames
  items : delivery.topic ≠ .tradeEvents → after.ownedItems = before.ownedItems
  posts : delivery.topic ≠ .communityEvents → after.topPosts = before.topPosts
  ids : ∀ id ∈ after.ids, id ∈ before.ids ∨ id = delivery.io.rowId.text

theorem touched_trans (a b c : ReadModel) (ab : delivery.Touched a b) (bc : delivery.Touched b c) :
    delivery.Touched a c where
  games := fun other => (bc.games other).trans (ab.games other)
  items := fun other => (bc.items other).trans (ab.items other)
  posts := fun other => (bc.posts other).trans (ab.posts other)
  ids := fun id member => (bc.ids id member).elim (ab.ids id) Or.inr

theorem touched_profile (row : ProfileRow) : delivery.Touched db (db.insertProfileOrNothing row) where
  games := fun _ => db.insert_profile_games row
  items := fun _ => db.insert_profile_items row
  posts := fun _ => db.insert_profile_posts row
  ids := fun id member => Or.inl (by simpa [ReadModel.ids] using member)

theorem admits_touched : delivery.Admits delivery.Touched := by
  have kept : ∀ {ρ : Type} [Keyed ρ String] (before after : Table ρ), after = before →
      ∀ id ∈ after.keys, id ∈ before.keys ∨ id = delivery.io.rowId.text :=
        fun before after same id member => Or.inl (same ▸ member)
  have grown : ∀ {ρ : Type} [Keyed ρ String] (before after : Table ρ) (row : ρ), after.rows = before.rows ++ [row] →
      key row = delivery.io.rowId.text → ∀ id ∈ after.keys, id ∈ before.keys ∨ id = delivery.io.rowId.text := by
    intro ρ _ before after row rows isKey id member
    exact ((Table.mem_keys_added row before after rows id).mp member).imp_right fun same => same.trans isKey
  constructor
  · exact fun db => ⟨fun _ => rfl, fun _ => rfl, fun _ => rfl, fun id member => Or.inl member⟩
  · intro isTopic row db after isKey run
    have added := ReadModel.insert_owned_game_ok db row after run
    exact ⟨fun other => absurd isTopic other, fun _ => added.items, fun _ => added.posts,
      ReadModel.ids_grow db after _ (grown _ _ row added.rows isKey) (kept _ _ added.items) (kept _ _ added.posts)⟩
  · intro isTopic gone db
    refine ⟨fun other => absurd isTopic other, fun _ => rfl, fun _ => rfl,
      ReadModel.ids_grow db _ _ (fun id member => ?_) (kept _ _ rfl) (kept _ _ rfl)⟩
    obtain ⟨row, left, isKey⟩ := List.mem_map.mp member
    exact Or.inl (isKey ▸ List.mem_map_of_mem (List.mem_of_mem_filter left))
  · intro isTopic row db after isKey run
    have added := ReadModel.insert_owned_item_ok db row after run
    exact ⟨fun _ => added.games, fun other => absurd isTopic other, fun _ => added.posts,
      ReadModel.ids_grow db after _ (kept _ _ added.games) (grown _ _ row added.rows isKey) (kept _ _ added.posts)⟩
  · intro isTopic row db after isKey run
    have only := ReadModel.insert_top_post_only db after row run
    have added := ReadModel.insert_top_post_ok db after row run
    exact ⟨fun _ => only.games, fun _ => only.items, fun other => absurd isTopic other,
      ReadModel.ids_grow db after _ (kept _ _ only.games) (kept _ _ only.items) (grown _ _ row added.rows isKey)⟩
  · intro isTopic id score db after run
    obtain ⟨only, keys⟩ := ReadModel.update_score_only db after id score run
    exact ⟨fun _ => only.games, fun _ => only.items, fun other => absurd isTopic other,
      ReadModel.ids_grow db after _ (kept _ _ only.games) (kept _ _ only.items) fun id member => Or.inl (keys ▸ member)⟩
  · intro isTopic loaded db after run
    obtain ⟨only, keys⟩ := ReadModel.rank_posts_only db after loaded run
    exact ⟨fun _ => only.games, fun _ => only.items, fun other => absurd isTopic other,
      ReadModel.ids_grow db after _ (kept _ _ only.games) (kept _ _ only.items) fun id member =>
        Or.inl (keys id member)⟩

theorem store_touched : delivery.Touched db (delivery.store python db) := by
  have admits := admits_touched delivery
  have steps := handle_steps python delivery.Touched delivery admits (touched_profile delivery)
  exact Prog.steps_exec delivery.Touched admits.still (touched_trans delivery) (delivery.handle python) steps [] db

theorem profiles_kept (p : Prog ReadModel Error Unit)
    (steps : p.Steps fun before after => after.profiles = before.profiles) :
    (p.exec [] db).store.profiles = db.profiles := by
  refine Prog.steps_exec (fun before after : ReadModel => after.profiles = before.profiles) (fun _ => rfl)
    (fun a b c ab bc => ?_) p steps [] db
  exact bc.trans ab

section Name

variable (userId : String) (owner displayName : Value) (io : Circumstances)

theorem name_inserted (row : ProfileRow) :
    (db.insertProfileOrNothing row).nameOf userId =
      (db.nameOf userId).or (if key row = userId then some row.displayName.text else none) := by
  by_cases here : key row = userId
  · rw [if_pos here, ReadModel.nameOf, ← here, db.find_insert_profile row, ReadModel.nameOf]
    cases db.profiles.find (key row) <;> rfl
  · rw [if_neg here, Option.or_none, ReadModel.nameOf, db.find_insert_other_profile row userId (Ne.symm here),
      ReadModel.nameOf]

theorem name_stored (topic : Topic) (message : Value) (row : ProfileRow)
    (isSeed : seeding python topic message = some (owner, displayName))
    (stored : ProfileRow.new io owner displayName = .ok row) :
    nameFor python userId topic message = if key row = userId then some row.displayName.text else none := by
  obtain ⟨user, name, rfl, rfl, userTaken, nameTaken, isUser, isName⟩ :=
    profile_row_new_ok io owner displayName row stored
  rw [nameFor, isSeed]
  simp only [userTaken, nameTaken, true_and, and_true, ← isUser, ← isName]
  rfl

theorem name_refused (topic : Topic) (message : Value) (error : Error)
    (isSeed : seeding python topic message = some (owner, displayName))
    (refused : ProfileRow.new io owner displayName = .error error) : nameFor python userId topic message = none := by
  rw [nameFor, isSeed]
  split
  · rename_i owner displayName same
    cases same
    refine if_neg fun fits => ?_
    obtain ⟨row, stored, _⟩ := profile_row_new_runs io owner displayName fits.1 fits.2.2
    rw [refused] at stored
    cases stored
  · rfl

end Name

-- The first message with a name for the profile creates it, and the later ones change nothing.
theorem store_name (userId : String) :
    (delivery.store python db).nameOf userId =
      (db.nameOf userId).or (nameFor python userId delivery.topic delivery.message) := by
  have same : ∀ before after : ReadModel, after.profiles = before.profiles →
      after.nameOf userId = before.nameOf userId := by
    intro before after profiles
    rw [ReadModel.nameOf, profiles, ReadModel.nameOf]
  have seeds := handle_seeds python _ delivery (admits_profiles delivery)
  rw [Delivery.store]
  generalize delivery.handle python = program at seeds ⊢
  cases seeds with
  | nothing p silent steps =>
      rw [nameFor, silent, same db _ (profiles_kept db program steps), Option.or_none]
  | profile owner displayName rest isSeed steps =>
      cases stored : ProfileRow.new delivery.io owner displayName with
      | error error =>
          have failed : ((createIfMissing delivery.io owner displayName >>= fun _ => rest).exec [] db).store = db := by
            rw [createIfMissing, stored]
            rfl
          rw [failed, name_refused python userId owner displayName delivery.io _ _ error isSeed stored, Option.or_none]
      | ok row =>
          rw [exec_create_if_missing db delivery.io owner displayName row stored rest,
            same _ _ (profiles_kept _ rest steps), name_inserted,
            name_stored python userId owner displayName delivery.io _ _ row isSeed stored]

end Effects

end AuthProfile
