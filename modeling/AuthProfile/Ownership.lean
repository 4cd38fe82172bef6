import AuthProfile.Privileges
import AuthProfile.Process.Rely

set_option autoImplicit false

-- A profile is its owner's: what every action does to the read model, and for whom.
namespace AuthProfile

open Relation Process ProfileRepository

-- Which game a message grants, and to whom, as the columns have the ids.
def Delivery.granted (python : Interpreter) (delivery : Delivery) : Option (String × String) :=
  match Envelope.parse python.printable delivery.message with
  | .error _ => none
  | .ok envelope =>
      if delivery.topic = .gameEvents ∧ envelope.eventType = CATALOG_OWNERSHIP_GRANTED then
        (pairTold python envelope.payload).map fun (userId, gameId) => (Varchar.cut 36 userId, Varchar.cut 36 gameId)
      else none

section Records

variable (python : Interpreter) (delivery : Delivery)

-- A handler adds what its message says and takes away games; no row that stays is changed
-- but for the shelf's scores and ranks.
structure Delivery.Projects (before after : ReadModel) : Prop where
  profiles : ∀ userId row, before.profiles.find userId = some row → after.profiles.find userId = some row
  games : ∀ row ∈ after.ownedGames.rows, row ∈ before.ownedGames.rows ∨ row.id.text ∉ before.ownedGames.keys ∧
    row.id.text = delivery.io.rowId.text ∧ delivery.granted python = some (row.userId.text, row.gameId.text)
  touched : delivery.Touched before after

theorem projects_still (db : ReadModel) : delivery.Projects python db db where
  profiles := fun _ _ found => found
  games := fun _ member => Or.inl member
  touched := (admits_touched delivery).still db

theorem projects_beside (before after : ReadModel) (profiles : after.profiles = before.profiles)
    (games : after.ownedGames = before.ownedGames)
    (touched : delivery.Touched before after) : delivery.Projects python before after where
  profiles := fun _ _ found => profiles ▸ found
  games := fun _ member => Or.inl (games ▸ member)
  touched := touched

theorem projects_profile (db : ReadModel) (row : ProfileRow) :
    delivery.Projects python db (ReadModel.insertProfileOrNothing row db) where
  profiles := fun userId old found => by
    by_cases same : userId = key row
    · subst same
      rw [ReadModel.find_insert_profile, found]
      rfl
    · rw [ReadModel.find_insert_other_profile db row userId same]
      exact found
  games := fun _ member => Or.inl (ReadModel.insert_profile_games db row ▸ member)
  touched := touched_profile delivery db row

theorem projects_game (isGame : delivery.topic = .gameEvents) (game : OwnedGame)
    (isId : game.id = delivery.io.rowId.text)
    (granted : delivery.granted python = some (Varchar.cut 36 game.userId, Varchar.cut 36 game.gameId))
    (row : OwnedGameRow) (stored : OwnedGameRow.store game = .ok row)
    (before after : ReadModel) (run : ReadModel.insertOwnedGame row before = .ok after) :
    delivery.Projects python before after := by
  have added := ReadModel.insert_owned_game_ok before row after run
  obtain ⟨rowId, rowUser, rowGame, _⟩ := game_row_store_ok game row stored
  have isKey : key row = delivery.io.rowId.text :=
    (rowId.trans (congrArg (Varchar.cut 36) isId)).trans (Varchar.cut_text 36 _)
  refine ⟨fun _ _ found => added.profiles ▸ found, fun other member => ?_,
    (admits_touched delivery).game isGame row before after isKey run⟩
  rw [added.rows] at member
  rcases List.mem_append.mp member with old | new
  · exact Or.inl old
  · rw [List.mem_singleton.mp new]
    have distinct := after.ownedGames.distinct
    rw [added.rows, List.map_append, List.nodup_append] at distinct
    refine Or.inr ⟨fun taken => ?_, isKey, by rw [granted, rowUser, rowGame]⟩
    exact distinct.2.2 _ taken _ (List.mem_singleton_self _) rfl

theorem projects_gone (isGame : delivery.topic = .gameEvents) (gone : OwnedGameRow → Bool) (db : ReadModel) :
    delivery.Projects python db (ReadModel.deleteOwnedGames gone db) where
  profiles := fun _ _ found => found
  games := fun _ member => Or.inl (List.mem_of_mem_filter member)
  touched := (admits_touched delivery).gone isGame gone db

theorem admits_projects (other : delivery.topic ≠ .gameEvents) : delivery.Admits (delivery.Projects python) where
  still := projects_still python delivery
  game := fun isGame => absurd isGame other
  gone := fun isGame => absurd isGame other
  item := fun isTrade row db after isKey run =>
    have added := ReadModel.insert_owned_item_ok db row after run
    projects_beside python delivery db after added.profiles added.games
      ((admits_touched delivery).item isTrade row db after isKey run)
  post := fun isCommunity row db after isKey run =>
    have only := ReadModel.insert_top_post_only db after row run
    projects_beside python delivery db after only.profiles only.games
      ((admits_touched delivery).post isCommunity row db after isKey run)
  score := fun isCommunity id n db after run =>
    have only := (ReadModel.update_score_only db after id n run).1
    projects_beside python delivery db after only.profiles only.games
      ((admits_touched delivery).score isCommunity id n db after run)
  rank := fun isCommunity loaded db after run =>
    have only := (ReadModel.rank_posts_only db after loaded run).1
    projects_beside python delivery db after only.profiles only.games
      ((admits_touched delivery).rank isCommunity loaded db after run)

theorem owns_game_reads (userId gameId : String) : (ownsGame userId gameId).Reads :=
  Prog.reads_bind _ _ (select_reads _ _) fun _ => Prog.reads_bind _ _ (Prog.reads_of_except _) fun _ =>
    Prog.reads_pure _

theorem library_projects (isGame : delivery.topic = .gameEvents) (payload : Value)
    (grants : ∀ parties, pairTold python payload = some parties →
      delivery.granted python = some (Varchar.cut 36 parties.1, Varchar.cut 36 parties.2)) :
    (LibraryProjector.handle python delivery.io payload).Steps (delivery.Projects python) := by
  have still := projects_still python delivery
  rw [LibraryProjector.handle]
  cases isParties : LibraryProjector.parties python "OwnershipGranted" payload with
  | error error => trivial
  | ok parties =>
      change (createIfMissing delivery.io (.str parties.1) (.str "") >>= fun _ => _).Steps _
      refine Prog.steps_bind _ _ _ (create_if_missing_steps _ still delivery.io (projects_profile python delivery) _ _)
        fun _ => ?_
      have asks : (ownsGame parties.1 parties.2).Steps (delivery.Projects python) :=
        Prog.steps_mono (fun before after => after = before) _ (fun db _ same => same ▸ still db) _
          (owns_game_reads parties.1 parties.2).steps
      refine Prog.steps_bind _ _ _ asks fun owned =>
        Prog.steps_ite _ _ _ _ trivial (commit_steps _ still _ fun db after run => ?_)
      obtain ⟨row, stored, inserted⟩ := (except_bind_ok _ _ _).mp run
      exact projects_game python delivery isGame _ rfl
        (grants parties (parties_ok python payload _ parties isParties)) row stored db
        after inserted

theorem revoke_projects (isGame : delivery.topic = .gameEvents) (payload : Value) :
    (LibraryProjector.revoke python payload).Steps (delivery.Projects python) := by
  have still := projects_still python delivery
  refine Prog.steps_bind _ _ _ (of_except_steps _ _) fun parties => ?_
  refine Prog.steps_bind _ _ _ (select_steps _ _ _ still) fun gone => commit_steps _ still _ fun db after run => ?_
  cases run
  exact projects_gone python delivery isGame _ db

theorem game_events_project (isGame : delivery.topic = .gameEvents) :
    (handleGameEvents python delivery.io delivery.message).Steps (delivery.Projects python) := by
  rw [handle_game_events_cases]
  cases parsed : Envelope.parse python.printable delivery.message with
  | error error => trivial
  | ok envelope =>
      dsimp only
      by_cases granted : envelope.eventType = CATALOG_OWNERSHIP_GRANTED
      · rw [if_pos granted]
        refine library_projects python delivery isGame envelope.payload fun parties isTold => ?_
        simp [Delivery.granted, parsed, isGame, granted, isTold]
      · rw [if_neg granted]
        exact Prog.steps_ite _ _ _ _ (revoke_projects python delivery isGame envelope.payload) trivial

theorem handle_projects : (delivery.handle python).Steps (delivery.Projects python) := by
  by_cases isGame : delivery.topic = .gameEvents
  · have isHandler : delivery.handle python = handleGameEvents python delivery.io delivery.message := by
      rw [Delivery.handle, isGame]
    rw [isHandler]
    exact game_events_project python delivery isGame
  · exact handle_steps python _ delivery (admits_projects python delivery isGame) (projects_profile python delivery)

end Records

def OwnProfileRequest.marking (hidden : Bool) (gameId : String) : OwnProfileRequest :=
  if hidden then .hideGame ⟨gameId⟩ else .unhideGame ⟨gameId⟩

-- The request of whoever holds an access token of the account.
def Arrival.By (provider : JwtTokenProvider) (may : String → Role → Prop) (userId : String)
    (request : OwnProfileRequest) (arrival : Arrival) : Prop :=
  ∃ credentials draws signed caller, arrival = .http (.ownProfile credentials request) draws ∧
    getCurrentUser provider signed draws.read.now credentials = .ok caller ∧ caller.userId = userId ∧
      may userId caller.role

-- Every row of owned_games is of the account and the game that its id was drawn for.
def ReadModel.Belong (belongs : String → String → String → Prop) (db : ReadModel) : Prop :=
  ∀ row ∈ db.ownedGames.rows, belongs row.id.text row.userId.text row.gameId.text

-- What a request may rely on between its actions.
structure ReadModel.Stays (belongs : String → String → String → Prop) (before after : ReadModel) : Prop where
  profiles : ∀ userId row, before.profiles.find userId = some row →
    ∃ row', after.profiles.find userId = some row' ∧ row'.displayName = row.displayName ∧ row'.online = row.online
  belong : before.Belong belongs → after.Belong belongs

theorem stays_refl (belongs : String → String → String → Prop) (db : ReadModel) : ReadModel.Stays belongs db db :=
  ⟨fun _ row found => ⟨row, found, rfl, rfl⟩, id⟩

theorem stays_trans (belongs : String → String → String → Prop) (a b c : ReadModel) (ab : ReadModel.Stays belongs a b)
    (bc : ReadModel.Stays belongs b c) : ReadModel.Stays belongs a c := by
  refine ⟨fun userId row found => ?_, fun belong => bc.belong (ab.belong belong)⟩
  obtain ⟨row', found', name, online⟩ := ab.profiles userId row found
  obtain ⟨row'', found'', name', online'⟩ := bc.profiles userId row' found'
  exact ⟨row'', found'', name'.trans name, online'.trans online⟩

section Edits

variable (provider : JwtTokenProvider) (may : String → Role → Prop) (belongs : String → String → String → Prop)
    (arrival : Arrival)

-- What an arrival does to the read model.
structure Arrival.Edits (before after : ReadModel) : Prop where
  profiles : ∀ userId row, before.profiles.find userId = some row → ∃ row', after.profiles.find userId = some row' ∧
    row'.displayName = row.displayName ∧ row'.online = row.online ∧ (row'.avatarUrl = row.avatarUrl ∨
      ∃ body, arrival.By provider may userId (.setAvatar body) ∧ row'.avatarUrl.text = strip body.avatarUrl)
  newcomers : after.profiles.keys = before.profiles.keys ∨ ∃ delivery, arrival = .record delivery
  flags : ∀ id row row', before.ownedGames.find id = some row → after.ownedGames.find id = some row' → row' = row ∨
    ∃ hidden, arrival.By provider may row.userId.text (.marking hidden row.gameId.text) ∧
      row' = { row with hidden := hidden }
  games : after.ownedGames.keys = before.ownedGames.keys ∨ ∃ delivery, arrival = .record delivery ∧
    delivery.topic = .gameEvents
  items : after.ownedItems = before.ownedItems ∨ ∃ delivery, arrival = .record delivery ∧ delivery.topic = .tradeEvents
  posts : after.topPosts = before.topPosts ∨ ∃ delivery, arrival = .record delivery ∧ delivery.topic = .communityEvents
  belong : before.Belong belongs → after.Belong belongs

theorem edits_still (db : ReadModel) : arrival.Edits provider may belongs db db where
  profiles := fun _ row found => ⟨row, found, rfl, rfl, Or.inl rfl⟩
  newcomers := Or.inl rfl
  flags := fun _ _ _ found later => Or.inl (Option.some.inj (later.symm.trans found))
  games := Or.inl rfl
  items := Or.inl rfl
  posts := Or.inl rfl
  belong := id

theorem edits_stay (before after : ReadModel) (edits : arrival.Edits provider may belongs before after) :
    ReadModel.Stays belongs before after := by
  refine ⟨fun userId row found => ?_, edits.belong⟩
  obtain ⟨row', found', name, online, _⟩ := edits.profiles userId row found
  exact ⟨row', found', name, online⟩

theorem edits_projected (python : Interpreter) (delivery : Delivery) (isRecord : arrival = .record delivery)
    (grants : ∀ userId gameId, delivery.granted python = some (userId, gameId) →
      belongs delivery.io.rowId.text userId gameId)
    (before after : ReadModel) (projects : delivery.Projects python before after) :
    arrival.Edits provider may belongs before after where
  profiles := fun userId row found => ⟨row, projects.profiles userId row found, rfl, rfl, Or.inl rfl⟩
  newcomers := Or.inr ⟨delivery, isRecord⟩
  flags := fun id row row' found later => by
    refine Or.inl ?_
    have sameKey : key row' = key row := (Table.find_key _ _ _ later).trans (Table.find_key _ _ _ found).symm
    rcases projects.games row' (Table.find_mem _ _ _ later) with old | ⟨isNew, _⟩
    · have isOld := Table.find_self _ row' old
      rw [sameKey, Table.find_self _ row (Table.find_mem _ _ _ found)] at isOld
      exact (Option.some.inj isOld).symm
    · refine absurd ?_ isNew
      change key row' ∈ _
      rw [sameKey]
      exact List.mem_map_of_mem (Table.find_mem _ _ _ found)
  games := by
    by_cases isGame : delivery.topic = .gameEvents
    · exact Or.inr ⟨delivery, isRecord, isGame⟩
    · exact Or.inl (congrArg Table.keys (projects.touched.games isGame))
  items := by
    by_cases isTrade : delivery.topic = .tradeEvents
    · exact Or.inr ⟨delivery, isRecord, isTrade⟩
    · exact Or.inl (projects.touched.items isTrade)
  posts := by
    by_cases isCommunity : delivery.topic = .communityEvents
    · exact Or.inr ⟨delivery, isRecord, isCommunity⟩
    · exact Or.inl (projects.touched.posts isCommunity)
  belong := fun belong row member => by
    rcases projects.games row member with old | ⟨_, isId, granted⟩
    · exact belong row old
    · rw [isId]
      exact grants _ _ granted

-- Of two rows of one id, both are of the account and the game that the id was drawn for.
def DrawnOnce : Prop := ∀ id userId gameId userId' gameId', belongs id userId gameId → belongs id userId' gameId' →
    userId' = userId ∧ gameId' = gameId

theorem edits_hidden (once : DrawnOnce belongs) (id userId gameId : String) (drawn : belongs id userId gameId)
    (hidden : Bool) (isBy : arrival.By provider may userId (.marking hidden gameId)) (before after : ReadModel)
    (belong : before.Belong belongs)
    (run : before.updateHidden id hidden = .ok after) : arrival.Edits provider may belongs before after := by
  rw [ReadModel.updateHidden] at run
  split at run
  · cases run
  · rename_i row found
    cases run
    have isId : row.id.text = id := Table.find_key _ _ _ found
    have member := Table.find_mem _ _ _ found
    obtain ⟨isUser, isGame⟩ := once _ _ _ _ _ drawn (isId ▸ belong row member)
    refine ⟨fun _ row found => ⟨row, found, rfl, rfl, Or.inl rfl⟩, Or.inl rfl,
      fun other old new foundOld foundNew => ?_,
      Or.inl (Table.keys_replace _ _), Or.inl rfl, Or.inl rfl, fun _ other isRow => ?_⟩
    · dsimp only at foundNew
      by_cases same : other = id
      · subst same
        cases Option.some.inj (found.symm.trans foundOld)
        have replaced :=
          Table.find_replace_same { row with hidden := hidden } before.ownedGames (List.mem_map.mpr ⟨row, member, rfl⟩)
        have isNew : new = { row with hidden := hidden } := Option.some.inj (foundNew.symm.trans (isId ▸ replaced))
        exact Or.inr ⟨hidden, isUser.symm ▸ isGame.symm ▸ isBy, isNew⟩
      · rw [Table.find_replace_other _ _ _ (fun sameKey => same (sameKey.trans isId))] at foundNew
        exact Or.inl (Option.some.inj (foundNew.symm.trans foundOld))
    · obtain ⟨old, isOld, isSame⟩ := List.mem_map.mp isRow
      by_cases hit : key old = key { row with hidden := hidden }
      · rw [if_pos hit] at isSame
        rw [← isSame]
        exact belong row member
      · rw [if_neg hit] at isSame
        exact isSame ▸ belong old isOld

theorem scalar_mem {α : Type} (rows : List α) (row : α) (scalar : scalarOneOrNone rows = .ok (some row)) :
    row ∈ rows := by
  match rows with
  | [] => cases scalar
  | [only] =>
      cases scalar
      exact List.mem_singleton_self _
  | _ :: _ :: _ => cases scalar

theorem asks_assures {α β : Type} (post : Except Error β → ReadModel → Prop)
    (failed : ∀ error db, post (.error error) db)
    (parameters : List String) (view : ReadModel → α) (rest : α → Prog ReadModel Error β) (db : ReadModel)
    (later : ∀ seen, ReadModel.Stays belongs db seen →
      (rest (view seen)).Assures (ReadModel.Stays belongs) (arrival.Edits provider may belongs) post seen) :
    (select parameters view >>= rest).Assures (ReadModel.Stays belongs) (arrival.Edits provider may belongs) post db :=
  assures_select_bind _ _ _ _ _ _ (edits_still provider may belongs arrival) _ fun seen stays =>
    ⟨fun error => failed error seen, later seen stays⟩

theorem commit_assures (change : ReadModel → Except Error ReadModel) (db : ReadModel)
    (edits : ∀ now after, ReadModel.Stays belongs db now → change now = .ok after →
      arrival.Edits provider may belongs now after) :
    (commit change).Assures (ReadModel.Stays belongs) (arrival.Edits provider may belongs) (fun _ _ => True) db := by
  refine Prog.assures_atomic _ _ (edits_still provider may belongs arrival) _ _ _ _ fun now stays => ⟨trivial, ?_⟩
  cases run : change now with
  | error error => trivial
  | ok after => exact ⟨edits now after stays run, trivial, trivial⟩

theorem set_hidden_assures (once : DrawnOnce belongs) (userId gameId : String) (hidden : Bool)
    (isBy : arrival.By provider may userId (.marking hidden gameId)) (db : ReadModel) (belong : db.Belong belongs) :
    (setHidden userId gameId hidden).Assures (ReadModel.Stays belongs) (arrival.Edits provider may belongs)
      (fun _ _ => True) db := by
  refine asks_assures provider may belongs arrival _ (fun _ _ => trivial) _ _ _ db fun seen moved => ?_
  cases scalar : scalarOneOrNone (seen.gamesNamed userId gameId) with
  | error error => trivial
  | ok found =>
      cases found with
      | none => trivial
      | some row =>
          obtain ⟨member, named⟩ := List.mem_filter.mp (scalar_mem _ row scalar)
          obtain ⟨isUser, isGame⟩ := of_decide_eq_true named
          have drawn : belongs row.id.text userId gameId := isUser ▸ isGame ▸ moved.belong belong row member
          refine commit_assures provider may belongs arrival _ seen fun now after moved' run => ?_
          split at run
          · cases run
            exact edits_still provider may belongs arrival now
          · exact edits_hidden provider may belongs arrival once _ _ _ drawn hidden isBy now after
              (moved'.belong (moved.belong belong)) run

-- With the name and the presence as loaded, an UPDATE is of the avatar alone.
theorem store_avatar (io : Circumstances) (loaded : ProfileRow) (profile : Profile)
    (name : profile.displayName = loaded.displayName.text)
    (online : profile.online = loaded.online) (avatarUrl : String) (db after : ReadModel)
    (run : storeProfile io (profile.setAvatar avatarUrl) (some loaded) db = .ok after) :
    after = db ∨ ∃ old new : ProfileRow, db.profiles.find profile.userId = some old ∧ after = db.replaceProfile new ∧
      new.userId = old.userId ∧
      new.displayName = old.displayName ∧ new.online = old.online ∧
        (new.avatarUrl = old.avatarUrl ∨ new.avatarUrl.text = strip avatarUrl) := by
  change db.updateProfile io.now profile.userId (.between loaded (profile.setAvatar avatarUrl)) = .ok after at run
  have changes : ProfileChanges.between loaded (profile.setAvatar avatarUrl) =
      ⟨none, changed loaded.avatarUrl.text (strip avatarUrl), none⟩ := by
    simp [ProfileChanges.between, Profile.setAvatar, changed, name, online]
  rw [changes, ReadModel.updateProfile] at run
  split at run
  · cases run
    exact Or.inl rfl
  · cases found : db.profiles.find profile.userId with
    | none =>
        rw [found] at run
        cases run
    | some old =>
        rw [found] at run
        obtain ⟨new, applied, isAfter⟩ := (except_bind_ok _ _ _).mp run
        cases isAfter
        obtain ⟨displayName, isName, applied⟩ := (except_bind_ok _ _ _).mp applied
        obtain ⟨stored, isStored, isNew⟩ := (except_bind_ok _ _ _).mp applied
        cases isName
        cases isNew
        refine Or.inr ⟨old, _, rfl, rfl, rfl, rfl, rfl, ?_⟩
        by_cases same : strip avatarUrl = loaded.avatarUrl.text
        · rw [changed, if_pos same, Varchar.change] at isStored
          cases isStored
          exact Or.inl rfl
        · rw [changed, if_neg same, Varchar.change] at isStored
          obtain ⟨taken, isCut⟩ := (Varchar.store_ok 512 _ _ stored).mp isStored
          exact Or.inr (isCut.trans (Varchar.cut_short 512 _ (strip_kept 512 avatarUrl taken).1))

theorem edits_avatar (userId avatarUrl : String) (fits : avatarUrl.length ≤ 512)
    (isBy : arrival.By provider may userId (.setAvatar ⟨avatarUrl, fits⟩))
    (db : ReadModel) (old new : ProfileRow) (found : db.profiles.find userId = some old)
    (isUser : new.userId = old.userId) (name : new.displayName = old.displayName) (online : new.online = old.online)
    (avatar : new.avatarUrl = old.avatarUrl ∨ new.avatarUrl.text = strip avatarUrl) :
    arrival.Edits provider may belongs db (db.replaceProfile new) := by
  have isKey : key new = userId := (congrArg Varchar.text isUser).trans (Table.find_key _ _ _ found)
  have present : key new ∈ db.profiles.keys :=
    List.mem_map.mpr ⟨old, Table.find_mem _ _ _ found, congrArg Varchar.text isUser.symm⟩
  refine ⟨fun other row foundRow => ?_, Or.inl (Table.keys_replace _ _),
    fun _ _ _ found later => Or.inl (Option.some.inj (later.symm.trans found)),
    Or.inl rfl, Or.inl rfl, Or.inl rfl, id⟩
  by_cases same : other = userId
  · subst same
    cases Option.some.inj (found.symm.trans foundRow)
    refine ⟨new, isKey ▸ Table.find_replace_same new db.profiles present, name, online, avatar.imp_right fun text => ?_⟩
    exact ⟨⟨avatarUrl, fits⟩, isBy, text⟩
  · refine ⟨row, ?_, rfl, rfl, Or.inl rfl⟩
    exact (Table.find_replace_other new db.profiles other fun sameKey => same (sameKey.trans isKey)).trans foundRow

-- A profile as it was read, as far as nobody changes it.
def ProfileOf (userId : String) (profile : Profile) (db : ReadModel) : Prop :=
  profile.userId = userId ∧ ∃ row, db.profiles.find userId = some row ∧ profile.displayName = row.displayName.text ∧
    profile.online = row.online

theorem profile_of_stays (userId : String) (profile : Profile) (db after : ReadModel)
    (isOf : ProfileOf userId profile db)
    (stays : ReadModel.Stays belongs db after) : ProfileOf userId profile after := by
  obtain ⟨isUser, row, found, name, online⟩ := isOf
  obtain ⟨row', found', name', online'⟩ := stays.profiles userId row found
  exact ⟨isUser, row', found', name'.symm ▸ name, online'.symm ▸ online⟩

theorem get_profile_assures (io : Circumstances) (userId : String) (db : ReadModel) :
    (getByUserId io userId).Assures (ReadModel.Stays belongs) (arrival.Edits provider may belongs)
      (fun result seen => ∀ profile, result = .ok (some profile) → ProfileOf userId profile seen) db := by
  have asks := fun {α : Type} => asks_assures (α := α) provider may belongs arrival
    (fun result seen => ∀ profile, result = .ok (some profile) → ProfileOf userId profile seen) fun _ _ _ wrong =>
      by cases wrong
  refine asks _ _ _ db fun first _ => ?_
  cases found : first.profiles.find userId with
  | none =>
      intro profile wrong
      cases wrong
  | some row =>
      refine asks _ _ _ first fun second toSecond => asks _ _ _ second fun third toThird => asks _ _ _ third
        fun last toLast => ?_
      intro profile isProfile
      cases isProfile
      refine profile_of_stays belongs userId _ first last ⟨Table.find_key _ _ _ found, row, found, rfl, rfl⟩ ?_
      exact stays_trans belongs _ _ _ (stays_trans belongs _ _ _ toSecond toThird) toLast

theorem set_avatar_assures (io : Circumstances) (userId avatarUrl : String) (fits : avatarUrl.length ≤ 512)
    (isBy : arrival.By provider may userId (.setAvatar ⟨avatarUrl, fits⟩)) (db : ReadModel) :
    (setAvatar io userId avatarUrl).Assures (ReadModel.Stays belongs) (arrival.Edits provider may belongs)
      (fun _ _ => True) db := by
  refine Prog.assures_bind _ _ _ _ _ _ (Prog.assures_mono _ _ _ _ _ _ (fun result seen read => ?_)
    (get_profile_assures provider may belongs arrival io userId db))
  cases result with
  | error error => trivial
  | ok found =>
      cases found with
      | none => trivial
      | some profile =>
          refine asks_assures provider may belongs arrival _ (fun _ _ => trivial) _ _ _ seen fun again toAgain => ?_
          obtain ⟨isUser, loaded, found, name, online⟩ :=
            profile_of_stays belongs userId profile _ _ (read profile rfl) toAgain
          have isLoaded : again.profiles.find (profile.setAvatar avatarUrl).userId = some loaded :=
            (congrArg again.profiles.find isUser).trans found
          rw [isLoaded]
          refine commit_assures provider may belongs arrival _ again fun now after _ run => ?_
          rcases store_avatar io loaded profile name online avatarUrl now after run with
            same | ⟨old, new, isOld, isAfter, sameUser, sameName, sameOnline, avatar⟩
          · rw [same]
            exact edits_still provider may belongs arrival now
          · rw [isAfter]
            exact edits_avatar provider may belongs arrival userId avatarUrl fits isBy now old new
              (isUser ▸ isOld) sameUser sameName sameOnline avatar

end Edits

section Arrivals

variable (deployment : Deployment) (signed : List String)

theorem on_stores_apart {α : Type} (p : Prog Stores Error α) :
    (p.focus WireStores.onStores).Steps fun before after => after.profiles = before.profiles :=
  Prog.steps_focus WireStores.onStores (fun _ _ => True) _ (fun _ _ _ => rfl) p (Prog.steps_anything p)

theorem http_apart (request : HttpRequest) (draws : Draws)
    (other : ∀ credentials own, request ≠ .ownProfile credentials own) :
    (request.program deployment draws signed).Steps fun before after => after.profiles = before.profiles := by
  cases request with
  | register | login | refresh | logout | roleAdmin | directory =>
      exact Prog.steps_bind _ _ _ (on_stores_apart _) fun _ => trivial
  | ownProfile credentials own => exact absurd rfl (other credentials own)
  | profile credentials userId =>
      refine Prog.steps_bind _ _ _ ?_ fun _ => trivial
      exact Prog.steps_mono _ _ (fun _ _ same => congrArg WireStores.profiles same) _
        (profile_route_reads draws.read deployment.provider signed credentials userId).steps

theorem arrival_apart (arrival : Arrival)
    (noOwner : ∀ credentials own draws, arrival ≠ .http (.ownProfile credentials own) draws)
    (noRecord : ∀ delivery, arrival ≠ .record delivery) :
    (arrival.program deployment signed).Steps fun before after => after.profiles = before.profiles := by
  cases arrival with
  | http request draws =>
      refine Prog.steps_bind _ _ _ (http_apart deployment signed request draws fun credentials own same => ?_)
        fun _ => trivial
      exact noOwner credentials own draws (same ▸ rfl)
  | socket connection =>
      refine Prog.steps_bind _ _ _ (socket_steps (fun before after : WireStores => after.profiles = before.profiles)
        (fun _ => rfl) (fun _ _ => rfl) _ _ _ ?_) fun _ => trivial
      exact fun _ _ _ _ _ _ _ _ _ _ _ _ => rfl
  | record delivery => exact absurd rfl (noRecord delivery)
  | wallet message =>
      exact Prog.steps_mono _ _ (fun _ _ same => congrArg WireStores.profiles same) _
        (Prog.reads_bind _ _ (Prog.reads_focus _ _ (Prog.reads_focus _ _ (abuse_reads deployment.python message)))
          fun _ => Prog.reads_pure _).steps
  | relay polls =>
      refine Prog.steps_bind _ _ _ ?_ fun _ => trivial
      exact Prog.steps_focus WireStores.onRelay (fun _ _ => True) _ (fun _ _ _ => rfl) _ (Prog.steps_anything _)

variable (may : String → Role → Prop) (belongs : String → String → String → Prop)

def WireStores.Stays (before after : WireStores) : Prop := ReadModel.Stays belongs before.profiles after.profiles

def Arrival.EditsWire (arrival : Arrival) (before after : WireStores) : Prop :=
  arrival.Edits deployment.provider may belongs before.profiles after.profiles

theorem own_request_guarantees (documented : deployment.provider.jwt.Documented)
    (carried : ∀ token ∈ signed, Carries deployment.provider may token)
    (once : DrawnOnce belongs) (credentials : String) (request : OwnProfileRequest) (draws : Draws) (db : ReadModel)
    (belong : db.Belong belongs) :
    (request.route deployment.provider signed draws.read credentials).Guarantees (ReadModel.Stays belongs)
      ((Arrival.http (.ownProfile credentials request) draws).Edits deployment.provider may belongs) db := by
  rw [OwnProfileRequest.route]
  rcases caller_carries deployment.provider may documented signed carried draws.read.now credentials with
    ⟨detail, refused⟩ | ⟨caller, called, said⟩
  · rw [refused]
    trivial
  · rw [called]
    have isBy : (Arrival.http (.ownProfile credentials request) draws).By deployment.provider may
        caller.userId request :=
      ⟨credentials, draws, signed, caller, rfl, called, rfl, said⟩
    refine Prog.assures_guarantees _ _ (fun _ _ => True) _ _ ?_
    cases request with
    | hideGame body =>
        exact set_hidden_assures deployment.provider may belongs _ once caller.userId body.gameId true isBy db belong
    | unhideGame body =>
        exact set_hidden_assures deployment.provider may belongs _ once caller.userId body.gameId false isBy db belong
    | setAvatar body =>
        exact set_avatar_assures deployment.provider may belongs _ draws.read caller.userId body.avatarUrl body.fits
          isBy db

theorem arrival_guarantees (documented : deployment.provider.jwt.Documented)
    (carried : ∀ token ∈ signed, Carries deployment.provider may token)
    (once : DrawnOnce belongs) (arrival : Arrival) (grants : ∀ delivery userId gameId, arrival = .record delivery →
      delivery.granted deployment.python = some (userId, gameId) → belongs delivery.io.rowId.text userId gameId)
    (wire : WireStores) (belong : wire.profiles.Belong belongs) :
    (arrival.program deployment signed).Guarantees (WireStores.Stays belongs)
      (arrival.EditsWire deployment may belongs) wire := by
  by_cases isOwn : ∃ credentials own draws, arrival = .http (.ownProfile credentials own) draws
  · obtain ⟨credentials, own, draws, rfl⟩ := isOwn
    refine Prog.guarantees_rendered _ _ _ _ _ (Prog.guarantees_rendered _ _ _ _ _ ?_)
    exact Prog.guarantees_focus _ _ WireStores.onProfiles _ _ (fun _ _ stays => stays) (fun _ _ edits => edits) _ _
      (own_request_guarantees deployment signed may belongs documented carried once credentials own draws
        wire.profiles belong)
  by_cases isRecord : ∃ delivery, arrival = .record delivery
  · obtain ⟨delivery, rfl⟩ := isRecord
    refine Prog.steps_guarantees _ _ _ _
      (Prog.steps_bind _ _ _ (Prog.steps_focus WireStores.onProfiles (delivery.Projects deployment.python) _
      (fun before after projects => ?_) _ (handle_projects deployment.python delivery)) fun _ => trivial)
    exact edits_projected deployment.provider may belongs _ deployment.python delivery rfl
      (fun userId gameId => grants delivery userId gameId rfl) _ _ projects
  refine Prog.steps_guarantees _ _ _ _
    (Prog.steps_mono (fun before after => after.profiles = before.profiles) _ (fun before after same => ?_) _
    (arrival_apart deployment signed arrival (fun credentials own draws same => isOwn ⟨credentials, own, draws, same⟩)
      fun delivery same => isRecord ⟨delivery, same⟩))
  rw [Arrival.EditsWire, same]
  exact edits_still deployment.provider may belongs arrival before.profiles

end Arrivals

namespace App

variable (deployment : Deployment) (before : List String) (wire : WireStores)

-- The account and the game that a row id was drawn for.
def Drawn (events : List (ServerEvent Arrival)) (id userId gameId : String) : Prop :=
  (∃ row ∈ wire.profiles.ownedGames.rows, row.id.text = id ∧ row.userId.text = userId ∧ row.gameId.text = gameId) ∨
    ∃ delivery, .arrives (.record delivery) ∈ events ∧ delivery.io.rowId.text = id ∧
      delivery.granted deployment.python = some (userId, gameId)

-- uuid4 draws no row id twice.
structure FreshRows (events : List (ServerEvent Arrival)) : Prop where
  apart : ∀ delivery delivery', .arrives (.record delivery) ∈ events → .arrives (.record delivery') ∈ events →
    delivery.io.rowId.text = delivery'.io.rowId.text → delivery = delivery'
  unused : ∀ delivery, .arrives (.record delivery) ∈ events → delivery.io.rowId.text ∉ wire.profiles.ownedGames.keys

theorem drawn_once (events : List (ServerEvent Arrival)) (fresh : FreshRows wire events) :
    DrawnOnce (Drawn deployment wire events) := by
  have known : ∀ row ∈ wire.profiles.ownedGames.rows, ∀ delivery, .arrives (.record delivery) ∈ events →
      row.id.text ≠ delivery.io.rowId.text := by
    intro row member delivery arrives same
    refine fresh.unused delivery arrives ?_
    rw [← same]
    exact List.mem_map.mpr ⟨row, member, rfl⟩
  rintro id userId gameId userId' gameId' (⟨row, member, isId, isUser, isGame⟩ | ⟨delivery, arrives, isId, granted⟩)
    (⟨row', member', isId', isUser', isGame'⟩ | ⟨delivery', arrives', isId', granted'⟩)
  · have same : row' = row := by
      have found := Table.find_self _ row' member'
      rw [show key row' = key row from isId'.trans isId.symm, Table.find_self _ row member] at found
      exact (Option.some.inj found).symm
    exact ⟨isUser'.symm.trans (same ▸ isUser), isGame'.symm.trans (same ▸ isGame)⟩
  · exact absurd (isId.trans isId'.symm) (known row member delivery' arrives')
  · exact absurd (isId'.trans isId.symm) (known row' member' delivery arrives)
  · rw [fresh.apart delivery' delivery arrives' arrives (isId'.trans isId.symm)] at granted'
    obtain ⟨sameUser, sameGame⟩ := Prod.mk.inj (Option.some.inj (granted.symm.trans granted'))
    exact ⟨sameUser.symm, sameGame.symm⟩

variable (documented : deployment.provider.jwt.Documented) (earlier : String → Role → Prop)
  (known : ∀ token ∈ before, Carries deployment.provider earlier token) (events : List (ServerEvent Arrival))

include documented known

-- The tokens of what has been answered by some point of the run.
theorem shown_fits (unknown : ∀ request draws, .arrives (.http request draws) ∈ events →
    draws.io.Unknown wire.stores.db)
    (first later : List (ServerEvent Arrival)) (isPrefix : events = first ++ later) :
    ∀ pair ∈ (run deployment before wire first).answers, pair.1.Fit deployment.provider
      (Shown deployment before wire earlier events) pair.2 := by
  have member : ∀ event, event ∈ first → event ∈ events := fun event member => isPrefix ▸ List.mem_append_left _ member
  have served := shown_serves deployment before wire documented earlier known events first fun request draws arrives =>
    unknown request draws (member _ arrives)
  refine (Server.run_meeting (serve deployment before) (fun wire' => wire' ∈ stores deployment before wire events) _
    (fun arrival => arrival.Fit deployment.provider (Shown deployment before wire earlier events)) ⟨wire, [], []⟩
    (Server.idle_meeting _ _ _ wire) first (fun wire' seen => ?_) fun arrival answers arrives =>
      served arrival answers arrives).answers
  rw [stores, isPrefix]
  exact Server.stores_run_append _ _ first later wire' seen

variable (event : ServerEvent Arrival)

-- What the last action does, and what it may rely on.
def Editing (arrival : Arrival) : WireStores → WireStores → Prop :=
  arrival.EditsWire deployment (Shown deployment before wire earlier events) (Drawn deployment wire (events ++ [event]))

theorem editing_serves (fresh : FreshRows wire (events ++ [event])) (answers : List (Arrival × Except Error Outcome))
    (fits : ∀ pair ∈ answers, pair.1.Fit deployment.provider (Shown deployment before wire earlier events) pair.2)
    (arrival : Arrival) (arrives : .arrives arrival ∈ events ++ [event]) (wire' : WireStores)
    (stays : WireStores.Stays (Drawn deployment wire (events ++ [event])) wire wire') :
    (serve deployment before arrival answers).Guarantees (WireStores.Stays (Drawn deployment wire (events ++ [event])))
      (Editing deployment before wire earlier events event arrival) wire' := by
  refine arrival_guarantees deployment _ _ _ documented
    (shown_carries deployment before wire earlier known events answers fits)
    (drawn_once deployment wire _ fresh) arrival (fun delivery userId gameId isRecord granted => ?_) wire'
      (stays.belong fun row member => ?_)
  · exact Or.inr ⟨delivery, isRecord ▸ arrives, rfl, granted⟩
  · exact Or.inl ⟨row, member, rfl, rfl, rfl⟩

-- Every action leaves the profiles alone or is somebody's who may: names stay, an avatar is set and
-- a game hidden by a token of the owner's alone, and only what other services publish adds or removes.
theorem owners_edit (unknown : ∀ request draws, .arrives (.http request draws) ∈ events →
    draws.io.Unknown wire.stores.db)
    (fresh : FreshRows wire (events ++ [event])) :
    ((run deployment before wire events).step (serve deployment before) event).store.profiles =
      (run deployment before wire events).store.profiles ∨
      ∃ arrival, (run deployment before wire events).mover event = some arrival ∧
        Editing deployment before wire earlier events event arrival (run deployment before wire events).store
          ((run deployment before wire events).step (serve deployment before) event).store := by
  have fits := shown_fits deployment before wire documented earlier known events unknown
  have served := editing_serves deployment before wire documented earlier known events event fresh
  have refl := fun wire' : WireStores => stays_refl (Drawn deployment wire (events ++ [event])) wire'.profiles
  have trans := fun a b c : WireStores =>
    stays_trans (Drawn deployment wire (events ++ [event])) a.profiles b.profiles c.profiles
  have still := fun (arrival : Arrival) (wire' : WireStores) =>
    edits_still deployment.provider (Shown deployment before wire earlier events)
    (Drawn deployment wire (events ++ [event])) arrival wire'.profiles
  have settles := fun (arrival : Arrival) (a b : WireStores) =>
    edits_stay deployment.provider (Shown deployment before wire earlier events)
    (Drawn deployment wire (events ++ [event])) arrival a.profiles b.profiles
  obtain ⟨relied, guarding⟩ :=
    Server.run_guarding (serve deployment before) (WireStores.Stays (Drawn deployment wire (events ++ [event])))
    (Editing deployment before wire earlier events event) refl trans still settles ⟨wire, [], []⟩
      (Server.idle_guarding _ _ wire) events
    fun first arrival later isPrefix stays => served _ (fits first _ isPrefix) arrival (by simp [isPrefix]) _ stays
  obtain ⟨moved, _⟩ := Server.step_guarding (serve deployment before) _ _ refl trans still settles _ guarding event
    fun arrival isArrival => served _ (fits events [] (List.append_nil _).symm) arrival (by simp [isArrival]) _ relied
  exact moved.imp_left fun same => congrArg WireStores.profiles same

end App

def grantToAdmin : Delivery :=
  ⟨.gameEvents, .sample 1, wrapped "e1" CATALOG_OWNERSHIP_GRANTED [("owner_id", .str "s1"), ("game_id", .str "g1")]⟩

-- The admin signs in, a game is granted to it, and it is about to hide it.
def adminHides : List (ServerEvent Arrival) :=
  [.arrives (.http (.login ⟨"admin@arcadia.com", "admin-password"⟩ none) .sample), .moves 0 .none, .moves 0 .none,
    .arrives (.record grantToAdmin), .moves 0 .none, .moves 0 .none, .moves 0 .none, .moves 0 .none, .moves 0 .none,
      .moves 0 .none,
    .moves 0 .none, .moves 0 .none, .arrives (.http (.ownProfile sampleAccess (.hideGame ⟨"g1"⟩)) .sample),
      .moves 0 .none]

theorem hiding_draws (request : HttpRequest) (draws : Draws) (arrives : .arrives (.http request draws) ∈ adminHides) :
    draws = .sample := by
  simp only [adminHides, List.mem_cons, List.not_mem_nil, or_false, reduceCtorEq, false_or, ServerEvent.arrives.injEq,
    Arrival.http.injEq] at arrives
  rcases arrives with ⟨_, isSample⟩ | ⟨_, isSample⟩
  · exact isSample
  · exact isSample

theorem one_grant (delivery : Delivery) (arrives : .arrives (.record delivery) ∈ adminHides ++ [.moves 0 .none]) :
    delivery = grantToAdmin := by
  simpa [adminHides] using arrives

theorem hiding_fresh : App.FreshRows adminService (adminHides ++ [.moves 0 .none]) where
  apart := fun delivery delivery' arrives arrives' _ =>
    (one_grant delivery arrives).trans (one_grant delivery' arrives').symm
  unused := fun delivery arrives => by
    rw [one_grant delivery arrives]
    decide

theorem admin_hides_own_game :
    ((App.run sampleDeployment [] adminService adminHides).step (App.serve sampleDeployment [])
      (.moves 0 .none)).store.profiles =
        (App.run sampleDeployment [] adminService adminHides).store.profiles ∨
      ∃ arrival, (App.run sampleDeployment [] adminService adminHides).mover (.moves 0 .none) = some arrival ∧
        App.Editing sampleDeployment [] adminService (fun _ _ => False) adminHides (.moves 0 .none) arrival
          (App.run sampleDeployment [] adminService adminHides).store
          ((App.run sampleDeployment [] adminService adminHides).step (App.serve sampleDeployment [])
            (.moves 0 .none)).store :=
  App.owners_edit sampleDeployment [] adminService PyJwt.json_documented (fun _ _ => False)
    (fun _ member => absurd member List.not_mem_nil)
    adminHides (.moves 0 .none) (sample_unknown adminHides hiding_draws _ rfl rfl) hiding_fresh

end AuthProfile
