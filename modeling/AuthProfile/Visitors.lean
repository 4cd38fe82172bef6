import AuthProfile.Db.ProfileFrames
import AuthProfile.Freshness
import AuthProfile.Library
import AuthProfile.Rest.ProfileController

set_option autoImplicit false

namespace AuthProfile

open Relation Process ProfileRepository

-- What changes a profile, handled once each.
inductive ProfileCall where
  | userSynced (event : Value)
  | ownershipGranted (payload : Value)
  | ownershipRevoked (payload : Value)
  | itemGranted (event : Value)
  | postReacted (event : Value)
  | gameHidden (userId gameId : String) (hidden : Bool)

def ProfileCall.program (python : Interpreter) (io : Circumstances) : ProfileCall → Prog ReadModel Error Unit
  | .userSynced event => UserSyncProjector.handle io event
  | .ownershipGranted payload => LibraryProjector.handle python io payload
  | .ownershipRevoked payload => LibraryProjector.revoke python payload
  | .itemGranted event => InventoryProjector.handle io event
  | .postReacted event => TopPostsProjector.handle python io event
  | .gameHidden userId gameId hidden => hideGame userId gameId hidden

structure ProfileStep where
  call : ProfileCall
  io : Circumstances
  script : List Fault

def ProfileStep.follow (python : Interpreter) (db : ReadModel) (step : ProfileStep) : ReadModel :=
  ((step.call.program python step.io).exec step.script db).store

-- No grant of a pair whose ids the columns do not keep.
def ProfileStep.Kept (python : Interpreter) (step : ProfileStep) : Prop :=
  ∀ payload userId gameId, step.call = .ownershipGranted payload → pairTold python payload = some (userId, gameId) →
    Fits userId gameId

def runProfiles (python : Interpreter) (steps : List ProfileStep) : ReadModel :=
  steps.foldl (ProfileStep.follow python) .empty

section Single

variable (python : Interpreter) (io : Circumstances) (db : ReadModel) (single : db.Single)

theorem single_same (after : ReadModel) (same : after.ownedGames = db.ownedGames) (single : db.Single) :
    after.Single := by
  intro userId gameId
  rw [ReadModel.flags_same db after same]
  exact single userId gameId

theorem single_moves (after : ReadModel) (event : Option OwnershipEvent) (kept : GrantsKept event)
    (moves : LibraryMoves event db after) (single : db.Single) : after.Single := fun userId gameId =>
  flags_move_length userId gameId event kept _ _ (moves userId gameId) (single userId gameId)

def SameGames (before after : ReadModel) : Prop := after.ownedGames = before.ownedGames

theorem create_same_games (userId displayName : Value) : (createIfMissing io userId displayName).Steps SameGames :=
  create_if_missing_steps SameGames (fun _ => rfl) io (fun db row => db.insert_profile_games row) userId displayName

theorem user_synced_same_games (event : Value) : (UserSyncProjector.handle io event).Steps SameGames :=
  Prog.steps_bind _ _ _ (of_except_steps _ _) fun _ => Prog.steps_bind _ _ _ (create_same_games io _ _) fun _ => trivial

theorem item_granted_same_games (event : Value) : (InventoryProjector.handle io event).Steps SameGames := by
  refine Prog.steps_bind _ _ _ (of_except_steps _ _) fun userId => ?_
  refine Prog.steps_bind _ _ _ (create_same_games io _ _) fun _ => ?_
  refine Prog.steps_bind _ _ _ (of_except_steps _ _) fun itemId => ?_
  refine Prog.steps_bind _ _ _ (of_except_steps _ _) fun gameId => ?_
  exact inventory_steps SameGames (fun _ => rfl) io
    (fun row db after _ run => (db.insert_owned_item_ok row after run).games) _ _ _

theorem post_reacted_same_games (event : Value) : (TopPostsProjector.handle python io event).Steps SameGames := by
  refine Prog.steps_bind _ _ _ (of_except_steps _ _) fun authorId => ?_
  refine Prog.steps_bind _ _ _ (create_same_games io _ _) fun _ => ?_
  refine Prog.steps_bind _ _ _ (of_except_steps _ _) fun postId => ?_
  refine Prog.steps_bind _ _ _ (of_except_steps _ _) fun feedbackScore => ?_
  exact upsert_steps SameGames (fun _ => rfl) io python
    (fun row db after _ run => (db.insert_top_post_only after row run).games)
    (fun id n db after run => (db.update_score_only after id n run).1.games)
    (fun loaded db after run => (db.rank_posts_only after loaded run).1.games) _ _ _

theorem same_games_single (program : Prog ReadModel Error Unit) (steps : program.Steps SameGames) (single : db.Single)
    (script : List Fault) : (program.exec script db).store.Single := by
  refine single_same db _ ?_ single
  exact Prog.steps_exec SameGames (fun _ => rfl) (fun _ _ _ ab bc => bc.trans ab) program steps script db

include single

theorem granted_single (payload : Value)
    (kept : ∀ userId gameId, pairTold python payload = some (userId, gameId) → Fits userId gameId) :
    (LibraryProjector.handle python io payload).wp (fun _ after => after.Single) db := by
  cases isParties : LibraryProjector.parties python "OwnershipGranted" payload with
  | error error =>
      rw [LibraryProjector.handle, Prog.wp_of_except_bind, isParties]
      exact single
  | ok parties =>
      have grantsKept : GrantsKept (some (.granted parties.1 parties.2)) := by
        rintro user game same
        cases same
        exact kept _ _ (parties_ok python payload _ parties isParties)
      exact Prog.wp_mono _ _ _ db (fun _ after moved => single_moves db after _ grantsKept moved.1 single)
        (LibraryProjector.handle_moves python io db payload parties.1 parties.2 isParties)

theorem revoked_single (payload : Value) :
    (LibraryProjector.revoke python payload).wp (fun _ after => after.Single) db := by
  cases isParties : LibraryProjector.parties python "OwnershipRevoked" payload with
  | error error =>
      rw [LibraryProjector.revoke, Prog.wp_of_except_bind, isParties]
      exact single
  | ok parties =>
      have noGrant : GrantsKept (some (.revoked parties.1 parties.2)) := fun _ _ wrong => by cases wrong
      exact Prog.wp_mono _ _ _ db (fun _ after moved => single_moves db after _ noGrant moved.1 single)
        (LibraryProjector.revoke_moves python db payload parties.1 parties.2 isParties)

theorem hidden_single (userId gameId : String) (hidden : Bool) :
    (hideGame userId gameId hidden).wp (fun _ after => after.Single) db := by
  rw [hideGame, setHidden]
  refine wp_select_bind _ _ _ _ _ (fun _ => single) ?_
  rw [Prog.wp_of_except_bind]
  rcases found : db.gamesNamed userId gameId with _ | ⟨row, _ | ⟨other, rows⟩⟩
  · exact single
  · refine wp_commit _ _ _ (fun _ => single) fun after run => and_self_iff.mpr ?_
    by_cases same : hidden = row.hidden
    · rw [if_pos same] at run
      cases run
      exact single
    · rw [if_neg same] at run
      intro otherUser otherGame
      rw [flags_updated db after row hidden userId gameId otherUser otherGame found run]
      split
      · exact le_rfl
      · exact single otherUser otherGame
  · exact single

end Single

theorem step_single (python : Interpreter) (db : ReadModel) (single : db.Single) (step : ProfileStep)
    (kept : step.Kept python) :
    (step.follow python db).Single := by
  obtain ⟨call, io, script⟩ := step
  cases call with
  | userSynced event => exact same_games_single db _ (user_synced_same_games io event) single script
  | ownershipGranted payload =>
      exact Prog.wp_exec _ _ db (granted_single python io db single payload fun userId gameId =>
        kept payload userId gameId rfl) script
  | ownershipRevoked payload => exact Prog.wp_exec _ _ db (revoked_single python db single payload) script
  | itemGranted event => exact same_games_single db _ (item_granted_same_games io event) single script
  | postReacted event => exact same_games_single db _ (post_reacted_same_games python io event) single script
  | gameHidden userId gameId hidden => exact Prog.wp_exec _ _ db (hidden_single db single userId gameId hidden) script

-- Only a grant of ids that the columns cut adds a second row for a game.
theorem run_profiles_single (python : Interpreter) (steps : List ProfileStep)
    (kept : ∀ step ∈ steps, step.Kept python) :
    (runProfiles python steps).Single := by
  have fromSingle : ∀ db : ReadModel, db.Single → (steps.foldl (ProfileStep.follow python) db).Single := by
    induction steps with
    | nil => exact fun _ single => single
    | cons step steps ih =>
        exact fun db single => ih (fun later member => kept later (List.mem_cons_of_mem _ member)) _
          (step_single python db single step (kept step List.mem_cons_self))
  exact fromSingle .empty fun _ _ => Nat.zero_le 1

section View

variable (db : ReadModel) (userId : String)

structure ConcealsHidden (response : ProfileResponse) : Prop where
  games : ∀ row ∈ db.gamesOf userId, row.hidden = true →
    row.gameId.text ∉ response.ownedGames.map OwnedGameResponse.gameId
  items : ∀ row ∈ db.gamesOf userId, row.hidden = true →
    row.gameId.text ∉ response.ownedItems.map OwnedItemResponse.gameId
  visible : ∀ row ∈ db.gamesOf userId, row.hidden = false → ⟨row.gameId.text, false⟩ ∈ response.ownedGames

-- What a visitor and the owner get to see of the games.
def ShowsGames (currentUser : Option CurrentUser) (response : ProfileResponse) : Prop :=
  if CurrentUser.owns userId currentUser then
    response.ownedGames = (db.gamesOf userId).map fun row => ⟨row.gameId.text, row.hidden⟩
  else ConcealsHidden db userId response

structure ResponseOf (currentUser : Option CurrentUser) (response : ProfileResponse) : Prop where
  games : response.ownedGames =
    ((db.gamesOf userId).filter fun row => CurrentUser.owns userId currentUser || !row.hidden).map fun row =>
      ⟨row.gameId.text, row.hidden⟩
  items : response.ownedItems = (db.itemsOf userId).map fun row => ⟨row.itemId.text, row.gameId.text⟩

theorem response_of (row : ProfileRow) (games : List OwnedGameRow) (items : List OwnedItemRow) (posts : List TopPostRow)
    (online : Bool)
    (currentUser : Option CurrentUser) (isGames : games = db.gamesOf userId) (isItems : items = db.itemsOf userId) :
    let profile := { toDomainProfile row games items posts with online := online }
    ResponseOf db userId currentUser
      (ProfileController.response profile (if CurrentUser.owns userId currentUser then profile.ownedGames
        else profile.visibleGames)) := by
  subst isGames isItems
  constructor
  · simp only [ProfileController.response, toDomainProfile, Profile.visibleGames, List.filter_map, List.map_map]
    cases CurrentUser.owns userId currentUser <;> simp [toDomainGame, Function.comp_def]
  · simp only [ProfileController.response, toDomainProfile, List.map_map]
    rfl

-- The game of a row shows nowhere else: in no item and in no row that is shown.
structure Unmentioned (row : OwnedGameRow) : Prop where
  items : ∀ item ∈ db.itemsOf userId, item.gameId.text ≠ row.gameId.text
  games : ∀ other ∈ db.gamesOf userId, other.gameId.text = row.gameId.text → other.hidden = true

-- Hidden games show through the items, or through another row of the game.
theorem shows_games_iff (currentUser : Option CurrentUser) (response : ProfileResponse)
    (isResponse : ResponseOf db userId currentUser response) :
    ShowsGames db userId currentUser response ↔ CurrentUser.owns userId currentUser = true ∨
      ∀ row ∈ db.gamesOf userId, row.hidden = true → Unmentioned db userId row := by
  obtain ⟨games, items⟩ := isResponse
  rw [ShowsGames]
  cases owns : CurrentUser.owns userId currentUser with
  | true =>
      rw [owns] at games
      simpa using games
  | false =>
      rw [owns] at games
      simp only [Bool.false_or, Bool.false_eq_true, if_false, false_or] at games ⊢
      have listed : ∀ other ∈ db.gamesOf userId, other.hidden = false →
          (⟨other.gameId.text, false⟩ : OwnedGameResponse) ∈ response.ownedGames := by
        intro other isOther isVisible
        rw [games]
        refine List.mem_map.mpr ⟨other, List.mem_filter.mpr ⟨isOther, ?_⟩, ?_⟩
        · rw [isVisible]
          rfl
        · rw [isVisible]
      constructor
      · intro ⟨concealsGames, concealsItems, _⟩ row isRow isHidden
        refine ⟨fun item isItem same => ?_, fun other isOther same => ?_⟩
        · refine concealsItems row isRow isHidden ?_
          rw [items, List.map_map]
          exact List.mem_map.mpr ⟨item, isItem, same⟩
        · by_contra shown
          rw [Bool.not_eq_true] at shown
          exact concealsGames row isRow isHidden (List.mem_map.mpr ⟨_, listed other isOther shown, same⟩)
      · intro unmentioned
        refine ⟨fun row isRow isHidden mentioned => ?_, fun row isRow isHidden mentioned => ?_, listed⟩
        · rw [games, List.map_map] at mentioned
          obtain ⟨other, isOther, same⟩ := List.mem_map.mp mentioned
          obtain ⟨otherMember, isVisible⟩ := List.mem_filter.mp isOther
          rw [(unmentioned row isRow isHidden).games other otherMember same] at isVisible
          cases isVisible
        · rw [items, List.map_map] at mentioned
          obtain ⟨item, isItem, same⟩ := List.mem_map.mp mentioned
          exact (unmentioned row isRow isHidden).items item isItem same

end View

section Route

variable (io : Circumstances) (provider : JwtTokenProvider) (signed : List String) (credentials : Option String)
    (userId : String)
  (stores : WireStores)

theorem get_profile_run (row : ProfileRow) (found : stores.profiles.profiles.find userId = some row) :
    (getProfile io userId).exec [] stores =
      ⟨.ok { toDomainProfile row (stores.profiles.gamesOf userId) (stores.profiles.itemsOf userId)
          (io.byRank.arrange (stores.profiles.postsOf (some userId))) with
        online := stores.stores.redis.present (PresenceStore.keyPrefix ++ userId) io.now }, [], stores⟩ := by
  have loaded : (getByUserId io userId).exec [] stores.profiles =
      ⟨.ok (some (toDomainProfile row (stores.profiles.gamesOf userId) (stores.profiles.itemsOf userId)
        (io.byRank.arrange (stores.profiles.postsOf (some userId))))), [], stores.profiles⟩ := by
    have legal : Legal [userId] := legal_one userId (Table.find_key _ _ row found ▸ row.userId.fits.2)
    rw [getByUserId, exec_select_alone _ _ _ _ legal, found]
    dsimp only
    rw [exec_select_alone _ _ _ _ legal, exec_select_alone _ _ _ _ legal, exec_select_alone _ _ _ _ legal]
    rfl
  have onProfiles : WireStores.onProfiles.get stores = stores.profiles := rfl
  rw [getProfile, Prog.exec_bind, Prog.exec_focus, onProfiles, loaded]
  rfl

theorem profile_route_runs (row : ProfileRow) (found : stores.profiles.profiles.find userId = some row)
    (currentUser : Option CurrentUser) (called : getOptionalUser provider signed io.now credentials = .ok currentUser) :
    ∃ response, (ProfileController.profileRoute io provider signed credentials userId).exec [] stores =
      ⟨.ok response, [], stores⟩ ∧
      ResponseOf stores.profiles userId currentUser response := by
  refine ⟨_, ?_, response_of stores.profiles userId row _ _ (io.byRank.arrange (stores.profiles.postsOf (some userId)))
    (stores.stores.redis.present (PresenceStore.keyPrefix ++ userId) io.now) currentUser rfl rfl⟩
  rw [ProfileController.profileRoute, Prog.exec_of_except_bind, called]
  dsimp only
  rw [ProfileController.getProfile, Prog.exec_bind, get_profile_run io userId stores row found]
  rfl

-- For every profile that can come about and whoever asks: the response keeps the hidden games
-- from visitors exactly when no item and no other row of the profile mentions them; and no game
-- has another row unless a grant of ids that the columns cut was handled.
theorem hidden_games_iff (python : Interpreter) (steps : List ProfileStep)
    (reached : stores.profiles = runProfiles python steps)
    (row : ProfileRow) (found : stores.profiles.profiles.find userId = some row)
    (currentUser : Option CurrentUser) (called : getOptionalUser provider signed io.now credentials = .ok currentUser) :
    ∃ response, (ProfileController.profileRoute io provider signed credentials userId).exec [] stores =
      ⟨.ok response, [], stores⟩ ∧
      (ShowsGames stores.profiles userId currentUser response ↔ CurrentUser.owns userId currentUser = true ∨
        ∀ row ∈ stores.profiles.gamesOf userId, row.hidden = true → Unmentioned stores.profiles userId row) ∧
      ((∀ step ∈ steps, step.Kept python) → stores.profiles.Single) := by
  obtain ⟨response, run, isResponse⟩ :=
    profile_route_runs io provider signed credentials userId stores row found currentUser called
  exact ⟨response, run, shows_games_iff stores.profiles userId currentUser response isResponse,
    fun kept => reached ▸ run_profiles_single python steps kept⟩

end Route

-- A game and an item of it, and the game is hidden.
def hiddenGame : List ProfileStep :=
  [⟨.ownershipGranted (.dict [("owner_id", .str "u1"), ("game_id", .str "g1")]), .sample 1, []⟩,
    ⟨.itemGranted (.dict [("user_id", .str "u1"), ("item_id", .str "i1"), ("game_id", .str "g1")]), .sample 2, []⟩,
    ⟨.gameHidden "u1" "g1" true, .sample 3, []⟩]

def hiddenStores : WireStores := ⟨⟨seededService.db, .empty⟩, runProfiles .sample hiddenGame, []⟩

theorem hidden_profile : (hiddenStores.profiles.profiles.find "u1").isSome = true := by
  decide +kernel

theorem hidden_rows : (hiddenStores.profiles.gamesOf "u1").map (fun row => (row.gameId.text, row.hidden)) =
    [("g1", true)] ∧
    (hiddenStores.profiles.itemsOf "u1").map (fun row => row.gameId.text) = ["g1"] := by
  decide +kernel

theorem hidden_games_of_u1 :
    ∃ response, (ProfileController.profileRoute (.sample 4) samplePlatform.provider [] none "u1").exec [] hiddenStores =
        ⟨.ok response, [], hiddenStores⟩ ∧
      (ShowsGames hiddenStores.profiles "u1" none response ↔ CurrentUser.owns "u1" none = true ∨
        ∀ row ∈ hiddenStores.profiles.gamesOf "u1", row.hidden = true → Unmentioned hiddenStores.profiles "u1" row) ∧
      ((∀ step ∈ hiddenGame, step.Kept .sample) → hiddenStores.profiles.Single) := by
  obtain ⟨row, found⟩ := Option.isSome_iff_exists.mp hidden_profile
  exact hidden_games_iff (.sample 4) samplePlatform.provider
    [] none "u1" hiddenStores .sample hiddenGame rfl row found none rfl

-- An anonymous visitor is told of g1 by its item.
theorem item_tells_hidden_game :
    ∃ response, (ProfileController.profileRoute (.sample 4) samplePlatform.provider [] none "u1").exec [] hiddenStores =
        ⟨.ok response, [], hiddenStores⟩ ∧
      hiddenStores.profiles = runProfiles .sample hiddenGame ∧
        ¬ ShowsGames hiddenStores.profiles "u1" none response := by
  obtain ⟨profile, found⟩ := Option.isSome_iff_exists.mp hidden_profile
  obtain ⟨response, run, isResponse⟩ :=
    profile_route_runs (.sample 4) samplePlatform.provider [] none "u1" hiddenStores profile found none rfl
  refine ⟨response, run, rfl, fun shows => ?_⟩
  have apart := (shows_games_iff _ "u1" none response isResponse).mp shows
  obtain ⟨gameRows, itemRows⟩ := hidden_rows
  obtain ⟨game, isGame, named⟩ := List.map_eq_singleton_iff.mp gameRows
  obtain ⟨item, isItem, ofGame⟩ := List.map_eq_singleton_iff.mp itemRows
  obtain ⟨gameNamed, isHidden⟩ := Prod.mk.inj named
  rcases apart with owns | unmentioned
  · cases owns
  · exact (unmentioned game (isGame ▸ List.mem_singleton_self game) isHidden).items item
      (isItem ▸ List.mem_singleton_self item)
      (ofGame.trans gameNamed.symm)

end AuthProfile
