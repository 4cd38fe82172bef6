import AuthProfile.Db.Flush
import AuthProfile.Db.ProfileRepository
import AuthProfile.Process.Cut

set_option autoImplicit false

namespace AuthProfile

open Relation Process

theorem game_row_store_ok (game : OwnedGame) (row : OwnedGameRow) (stored : OwnedGameRow.store game = .ok row) :
    row.id.text = Varchar.cut 36 game.id ∧ row.userId.text = Varchar.cut 36 game.userId ∧
      row.gameId.text = Varchar.cut 36 game.gameId ∧ row.hidden = game.hidden := by
  simp only [OwnedGameRow.store, except_bind_ok, Varchar.store_ok] at stored
  obtain ⟨id, ⟨_, isId⟩, userId, ⟨_, isUser⟩, gameId, ⟨_, isGame⟩, same⟩ := stored
  cases same
  exact ⟨isId, isUser, isGame, rfl⟩

theorem game_row_store_iff (game : OwnedGame) :
    (∃ row, OwnedGameRow.store game = .ok row) ↔
      Varchar.Takes 36 game.id ∧ Varchar.Takes 36 game.userId ∧ Varchar.Takes 36 game.gameId := by
  constructor
  · intro ⟨row, stored⟩
    simp only [OwnedGameRow.store, except_bind_ok, Varchar.store_ok] at stored
    obtain ⟨_, ⟨idTaken, _⟩, _, ⟨userTaken, _⟩, _, ⟨gameTaken, _⟩, _⟩ := stored
    exact ⟨idTaken, userTaken, gameTaken⟩
  · intro ⟨idTaken, userTaken, gameTaken⟩
    rw [OwnedGameRow.store, Varchar.store, dif_pos idTaken, Varchar.store, dif_pos userTaken, Varchar.store,
      dif_pos gameTaken]
    exact ⟨_, rfl⟩

theorem bind_value_ok (width : Nat) (column : String) (value : Value) (stored : Varchar width)
    (bound : Varchar.bindValue width column value = .ok stored) :
    ∃ text, value = .str text ∧ Varchar.Takes width text ∧ stored.text = Varchar.cut width text := by
  cases value with
  | str text => exact ⟨text, rfl, (Varchar.store_ok width column text stored).mp bound⟩
  | none => cases bound
  | bool value => cases bound
  | int value => cases bound
  | float repr => cases bound
  | list items => cases bound
  | dict fields => cases bound

theorem bind_text_ok (width : Nat) (column text : String) (stored : Varchar width)
    (bound : Varchar.bindValue width column (.str text) = .ok stored) :
    Varchar.Takes width text ∧ stored.text = Varchar.cut width text :=
      (Varchar.store_ok width column text stored).mp bound

theorem profile_row_new_ok (io : Circumstances) (userId displayName : Value) (row : ProfileRow)
    (stored : ProfileRow.new io userId displayName = .ok row) :
    ∃ user name, userId = .str user ∧ displayName = .str name ∧ Varchar.Takes 36 user ∧ Varchar.Takes 64 name ∧
      row.userId.text = Varchar.cut 36 user ∧ row.displayName.text = Varchar.cut 64 name := by
  simp only [ProfileRow.new, except_bind_ok] at stored
  obtain ⟨owner, isOwner, name, isName, same⟩ := stored
  cases same
  obtain ⟨user, rfl, userTaken, userText⟩ := bind_value_ok 36 _ userId owner isOwner
  obtain ⟨text, rfl, nameTaken, nameText⟩ := bind_value_ok 64 _ displayName name isName
  exact ⟨user, text, rfl, rfl, userTaken, nameTaken, userText, nameText⟩

theorem profile_row_new_runs (io : Circumstances) (userId displayName : String) (userTaken : Varchar.Takes 36 userId)
    (nameTaken : Varchar.Takes 64 displayName) :
    ∃ row, ProfileRow.new io (.str userId) (.str displayName) = .ok row ∧ key row = Varchar.cut 36 userId ∧
      row.displayName.text = Varchar.cut 64 displayName := by
  rw [ProfileRow.new, Varchar.bindValue, Varchar.store, dif_pos userTaken, Varchar.bindValue, Varchar.store,
    dif_pos nameTaken]
  exact ⟨_, rfl, rfl, rfl⟩

namespace ReadModel

section Effects

variable (db : ReadModel)

@[simp] theorem insert_profile_games (row : ProfileRow) :
    (db.insertProfileOrNothing row).ownedGames = db.ownedGames := by
  simp only [insertProfileOrNothing]
  split <;> rfl

@[simp] theorem insert_profile_items (row : ProfileRow) :
    (db.insertProfileOrNothing row).ownedItems = db.ownedItems := by
  simp only [insertProfileOrNothing]
  split <;> rfl

@[simp] theorem insert_profile_posts (row : ProfileRow) : (db.insertProfileOrNothing row).topPosts = db.topPosts := by
  simp only [insertProfileOrNothing]
  split <;> rfl

-- The row that is there stays, whatever the new one says.
theorem find_insert_profile (row : ProfileRow) :
    (db.insertProfileOrNothing row).profiles.find (key row) = some ((db.profiles.find (key row)).getD row) := by
  simp only [insertProfileOrNothing]
  split
  · rename_i refused
    have taken := (Table.insert_none_iff row db.profiles).mp refused
    cases found : db.profiles.find (key row) with
    | none => exact absurd taken ((Table.find_none_iff _ _).mp found)
    | some old => rfl
  · rename_i profiles inserted
    have fresh := ((Table.insert_some_iff row db.profiles profiles).mp inserted).1
    rw [(Table.find_none_iff _ _).mpr fresh]
    exact Table.find_insert_same row db.profiles profiles inserted

theorem find_insert_other_profile (row : ProfileRow) (userId : String) (different : userId ≠ key row) :
    (db.insertProfileOrNothing row).profiles.find userId = db.profiles.find userId := by
  simp only [insertProfileOrNothing]
  split
  · rfl
  · rename_i profiles inserted
    exact Table.find_insert_other row db.profiles profiles userId inserted different

theorem insert_profile_known (row : ProfileRow) : key row ∈ (db.insertProfileOrNothing row).profiles.keys := by
  by_contra absent
  rw [← Table.find_none_iff, find_insert_profile] at absent
  cases absent

structure GameAdded (row : OwnedGameRow) (before after : ReadModel) : Prop where
  rows : after.ownedGames.rows = before.ownedGames.rows ++ [row]
  profiles : after.profiles = before.profiles
  items : after.ownedItems = before.ownedItems
  posts : after.topPosts = before.topPosts

theorem insert_owned_game_ok (row : OwnedGameRow) (after : ReadModel) (run : db.insertOwnedGame row = .ok after) :
    GameAdded row db after := by
  simp only [insertOwnedGame] at run
  split at run
  · cases run
  · rename_i games inserted
    split at run
    · cases run
      exact ⟨((Table.insert_some_iff row db.ownedGames games).mp inserted).2, rfl, rfl, rfl⟩
    · cases run

theorem insert_owned_game_runs (row : OwnedGameRow) (fresh : key row ∉ db.ownedGames.keys)
    (known : row.userId.text ∈ db.profiles.keys) : ∃ after, db.insertOwnedGame row = .ok after := by
  simp only [insertOwnedGame]
  split
  · rename_i refused
    exact absurd ((Table.insert_none_iff row db.ownedGames).mp refused) fresh
  · rw [dif_pos known]
    exact ⟨_, rfl⟩

theorem delete_owned_games_rows (gone : OwnedGameRow → Bool) :
    (db.deleteOwnedGames gone).ownedGames.rows = db.ownedGames.rows.filter fun row => !gone row := rfl

theorem update_hidden_runs (row : OwnedGameRow) (hidden : Bool) (member : row ∈ db.ownedGames.rows) :
    ∃ after, db.updateHidden row.id.text hidden = .ok after := by
  simp only [updateHidden]
  split
  · rename_i absent
    have found : db.ownedGames.find row.id.text = some row := Table.find_self db.ownedGames row member
    rw [found] at absent
    cases absent
  · exact ⟨_, rfl⟩

structure ItemAdded (row : OwnedItemRow) (before after : ReadModel) : Prop where
  rows : after.ownedItems.rows = before.ownedItems.rows ++ [row]
  profiles : after.profiles = before.profiles
  games : after.ownedGames = before.ownedGames
  posts : after.topPosts = before.topPosts

theorem insert_owned_item_ok (row : OwnedItemRow) (after : ReadModel) (run : db.insertOwnedItem row = .ok after) :
    ItemAdded row db after := by
  simp only [insertOwnedItem] at run
  split at run
  · cases run
  · rename_i items inserted
    split at run
    · cases run
      exact ⟨((Table.insert_some_iff row db.ownedItems items).mp inserted).2, rfl, rfl, rfl⟩
    · cases run

theorem insert_owned_item_runs (row : OwnedItemRow) (fresh : key row ∉ db.ownedItems.keys)
    (known : row.userId.text ∈ db.profiles.keys) : ∃ after, db.insertOwnedItem row = .ok after := by
  simp only [insertOwnedItem]
  split
  · rename_i refused
    exact absurd ((Table.insert_none_iff row db.ownedItems).mp refused) fresh
  · rw [dif_pos known]
    exact ⟨_, rfl⟩

-- A write of top_posts.
structure PostsOnly (after : ReadModel) : Prop where
  profiles : after.profiles = db.profiles
  games : after.ownedGames = db.ownedGames
  items : after.ownedItems = db.ownedItems

theorem insert_top_post_only (after : ReadModel) (row : TopPostRow) (run : db.insertTopPost row = .ok after) :
    PostsOnly db after := by
  simp only [insertTopPost] at run
  split at run
  · cases run
  · split at run
    · cases run
      exact ⟨rfl, rfl, rfl⟩
    · cases run

theorem update_score_only (after : ReadModel) (id : String) (score : Int4) (run : db.updateScore id score = .ok after) :
    PostsOnly db after ∧ after.topPosts.keys = db.topPosts.keys := by
  simp only [updateScore] at run
  split at run
  · cases run
  · cases run
    exact ⟨⟨rfl, rfl, rfl⟩, Table.keys_replace _ _⟩

theorem rank_posts_only (after : ReadModel) (loaded : List TopPostRow) (run : db.rankPosts loaded = .ok after) :
    PostsOnly db after ∧ ∀ id ∈ after.topPosts.keys, id ∈ db.topPosts.keys := by
  rw [rankPosts] at run
  split at run
  · cases run
    have sameKey : ∀ row row', settle loaded row = some row' → key row' = key row := fun row row' settled =>
      congrArg Varchar.text (settle_same loaded row row' settled).1
    exact ⟨⟨rfl, rfl, rfl⟩, fun id member => (Table.alter_keys (settle loaded) sameKey db.topPosts.rows).mem member⟩
  · cases run

end Effects

end ReadModel

namespace ProfileRepository

section Programs

variable {α : Type} (io : Circumstances) (post : Except Error α → ReadModel → Prop) (db : ReadModel)

theorem wp_commit (post : Except Error Unit → ReadModel → Prop) (change : ReadModel → Except Error ReadModel)
    (refused : ∀ error, post (.error error) db)
    (committed : ∀ after, change db = .ok after → post (.ok ()) after ∧ post (.error .connection) after) :
    (commit change).wp post db := by
  rw [commit, Prog.wp_atomic]
  refine ⟨refused _, ?_⟩
  cases run : change db with
  | error error => exact refused error
  | ok after => exact committed after run

theorem wp_get_by_user_id (post : Except Error (Option Profile) → ReadModel → Prop) (userId : String)
    (every : ∀ result, post result db) : (getByUserId io userId).wp post db := by
  rw [getByUserId]
  refine wp_select_bind _ _ _ _ _ (fun error => every _) ?_
  cases db.profiles.find userId with
  | none => exact every _
  | some row =>
      refine wp_select_bind _ _ _ _ _ (fun error => every _) ?_
      refine wp_select_bind _ _ _ _ _ (fun error => every _) ?_
      exact wp_select_bind _ _ _ _ _ (fun error => every _) (every _)

-- Whatever the handler goes on with, the profile is there.
theorem wp_create_if_missing (userId displayName : Value) (rest : Prog ReadModel Error α)
    (refused : ∀ error, post (.error error) db)
    (created : ∀ row, ProfileRow.new io userId displayName = .ok row →
      (∀ error, post (.error error) (db.insertProfileOrNothing row)) ∧ rest.wp post (db.insertProfileOrNothing row)) :
    (createIfMissing io userId displayName >>= fun _ => rest).wp post db := by
  rw [createIfMissing, bind_assoc, Prog.wp_of_except_bind]
  cases stored : ProfileRow.new io userId displayName with
  | error error => exact refused error
  | ok row =>
      obtain ⟨failed, later⟩ := created row stored
      dsimp only
      rw [bind_assoc, Prog.wp_query_bind]
      refine ⟨refused _, ?_⟩
      rw [bind_assoc, Prog.wp_bind]
      refine wp_commit _ _ _ refused fun after same => ?_
      cases same
      refine ⟨?_, failed _⟩
      dsimp only
      rw [bind_assoc, Prog.wp_of_except_bind]
      cases bindText "user_id" userId with
      | error error => exact failed error
      | ok user =>
          cases user with
          | none => exact later
          | some text =>
              dsimp only
              rw [Prog.wp_bind]
              refine wp_get_by_user_id _ _ _ _ fun result => ?_
              cases result with
              | ok profile => exact later
              | error error => exact failed error

theorem create_if_missing_keeps (keep : ReadModel → Prop) (userId displayName : Value) (start : keep db)
    (created : ∀ row, ProfileRow.new io userId displayName = .ok row → keep (db.insertProfileOrNothing row)) :
    (createIfMissing io userId displayName).wp (fun _ after => keep after) db := by
  have kept := wp_create_if_missing io (fun _ after => keep after) db userId displayName (.ret ()) (fun _ => start)
    fun row stored => ⟨fun _ => created row stored, created row stored⟩
  rw [Prog.wp_bind] at kept
  refine Prog.wp_mono _ _ _ db (fun result after holds => ?_) kept
  cases result with
  | ok profile => exact holds
  | error error => exact holds

end Programs

section Faultless

variable {α β : Type} (db : ReadModel)

theorem exec_commit_ok (change : ReadModel → Except Error ReadModel) (after : ReadModel) (run : change db = .ok after) :
    (commit change).exec [] db = ⟨.ok (), [], after⟩ := by
  rw [commit, Prog.exec_atomic_ok _ _ _ db after ()]
  · rfl
  · rw [run]
    rfl

theorem exec_get_by_user_id (io : Circumstances) (userId : String) (storable : Storable userId) :
    ∃ profile, (getByUserId io userId).exec [] db = ⟨.ok profile, [], db⟩ := by
  have legal := legal_one userId storable
  rw [getByUserId, exec_select_alone _ _ _ db legal]
  cases db.profiles.find userId with
  | none => exact ⟨none, rfl⟩
  | some row =>
      dsimp only
      rw [exec_select_alone _ _ _ db legal, exec_select_alone _ _ _ db legal, exec_select_alone _ _ _ db legal]
      exact ⟨_, rfl⟩

section CreateIfMissing

variable (io : Circumstances) (userId displayName : Value) (row : ProfileRow)
    (stored : ProfileRow.new io userId displayName = .ok row)

include stored

theorem create_if_missing_runs :
    ∃ profile, (createIfMissing io userId displayName).exec
    [] db = ⟨.ok profile, [], db.insertProfileOrNothing row⟩ := by
  obtain ⟨user, name, rfl, rfl, userTaken, _⟩ := profile_row_new_ok io userId displayName row stored
  obtain ⟨profile, found⟩ := exec_get_by_user_id (db.insertProfileOrNothing row) io user userTaken.1
  have committed : (commit fun db => .ok (db.insertProfileOrNothing row)).exec [] db =
      ⟨.ok (), [], db.insertProfileOrNothing row⟩ :=
    exec_commit_ok db _ _ rfl
  refine ⟨profile, ?_⟩
  rw [createIfMissing, Prog.exec_of_except_bind, stored]
  dsimp only
  rw [Prog.exec_query_alone, Prog.exec_bind, committed]
  exact found

theorem exec_create_if_missing (rest : Prog ReadModel Error α) :
    (createIfMissing io userId displayName >>= fun _ => rest).exec [] db =
      rest.exec [] (db.insertProfileOrNothing row) := by
  obtain ⟨profile, run⟩ := create_if_missing_runs db io userId displayName row stored
  rw [Prog.exec_bind, run]

end CreateIfMissing

-- The INSERT, its commit and the SELECT of the profile; where the column keeps the id, the profile
-- is there, and three more follow.
theorem create_if_missing_actions (io : Circumstances) (userId : String) (displayName : Value) (row : ProfileRow)
    (stored : ProfileRow.new io (.str userId) displayName = .ok row) :
    (createIfMissing io (.str userId) displayName).actions db = if userId.length ≤ 36 then 6 else 3 := by
  obtain ⟨_, _, sameUser, _, userTaken, _, isKey, _⟩ := profile_row_new_ok io _ _ row stored
  cases sameUser
  have legal := legal_one userId userTaken.1
  have counted : ∀ rest : Unit → Prog ReadModel Error (Option Profile),
      (commit (fun db => .ok (db.insertProfileOrNothing row)) >>= rest).actions db =
        (rest ()).actions (db.insertProfileOrNothing row) + 1 :=
    fun rest => Prog.actions_atomic_bind _ _ rest db _ () rfl
  rw [createIfMissing, stored, Prog.ofExcept, Prog.ret_bind, Prog.actions_query_bind, counted, bindText, Prog.ofExcept,
    Prog.ret_bind]
  dsimp only
  rw [getByUserId, select_legal _ legal, Prog.actions_query_bind]
  by_cases short : userId.length ≤ 36
  · have isUser : key row = userId := isKey.trans (Varchar.cut_short 36 userId short)
    have found := db.find_insert_profile row
    rw [isUser] at found
    rw [if_pos short, found]
    dsimp only
    rw [select_legal _ legal, Prog.actions_query_bind, select_legal _ legal, Prog.actions_query_bind,
      select_legal _ legal,
      Prog.actions_query_bind]
    rfl
  · have absent : (db.insertProfileOrNothing row).profiles.find userId = none := by
      refine (Table.find_none_iff _ _).mpr fun member => short ?_
      obtain ⟨profile, _, isUser⟩ := List.mem_map.mp member
      exact isUser ▸ profile.userId.fits.1
    rw [if_neg short, absent]
    rfl

end Faultless

section Scripts

variable {β : Type} (db after : ReadModel) (parameters : List String) (legal : Legal parameters) (view : ReadModel → β)
  (rest : β → Prog ReadModel Error Unit) (change : ReadModel → Except Error ReadModel)
  (isCommit : rest (view db) = commit change) (run : change db = .ok after)

include legal isCommit run

-- A transaction that reads and then writes.
theorem exec_transaction (script : List Fault) (passes : through 2 script = true) :
    (select parameters view >>= rest).exec script db = ⟨.ok (), script.drop 2, after⟩ := by
  rw [select_legal parameters legal]
  have counted : (Prog.query .connection view >>= rest).actions db = 2 := by
    rw [Prog.actions_query_bind, isCommit, commit, Prog.actions_atomic]
  rw [Prog.exec_through _ script db (counted.symm ▸ passes), counted, Prog.exec_query_alone, isCommit,
    exec_commit_ok db change after run]

theorem exec_transaction_cut (script : List Fault) (cut : through 2 script = false) :
    ((select parameters view >>= rest).exec script db).store = (if takesEffect 1 script then after else db) ∧
      ((select parameters view >>= rest).exec script db).result ≠ .ok () := by
  have isCut := Bool.eq_false_iff.mp cut
  rw [Ne, through_last, not_and_or] at isCut
  rw [exec_select_bind _ _ _ db legal, takesEffect]
  by_cases first : script.headD .none = .none
  · have passes : through 1 script = true := (through_head 0 script).mpr ⟨first, rfl⟩
    have second := isCut.resolve_left (not_not.mpr passes)
    rw [if_pos first, isCommit, commit, Prog.exec_atomic_ok _ _ _ db after () (by rw [run]; rfl), ← List.drop_one]
    cases fault : (script.drop 1).headD .none with
    | none => exact absurd fault second
    | before => simp
    | after => simp [passes]
  · have notPasses : through 1 script = false :=
      Bool.eq_false_iff.mpr fun passes => first ((through_head 0 script).mp passes).1
    rw [if_neg first, notPasses]
    refine ⟨rfl, ?_⟩
    intro wrong
    cases wrong

-- One such transaction after another: each lands or not on its own.
theorem exec_two_transactions {γ : Type} (last : ReadModel) (parameters' : List String) (legal' : Legal parameters')
    (view' : ReadModel → γ) (rest' : γ → Prog ReadModel Error Unit) (change' : ReadModel → Except Error ReadModel)
    (isCommit' : rest' (view' after) = commit change') (run' : change' after = .ok last) (script : List Fault) :
    ((select parameters view >>= rest >>= fun _ => select parameters' view' >>= rest').exec script db).store =
        (if takesEffect 3 script then last else if takesEffect 1 script then after else db) ∧
      (((select parameters view >>= rest >>= fun _ => select parameters' view' >>= rest').exec script db).result =
          .ok () ↔ through 4 script = true) := by
  rw [Prog.exec_bind, through_add 2 2, takes_effect_add 2 1]
  cases opened : through 2 script with
  | true =>
      rw [exec_transaction db after parameters legal view rest change isCommit run script opened,
        if_pos (takes_effect_of_through 1 script opened)]
      dsimp only
      cases second : through 2 (script.drop 2) with
      | true =>
          rw [exec_transaction after last parameters' legal' view' rest' change' isCommit' run' _ second]
          simp [takes_effect_of_through 1 _ second]
      | false =>
          obtain ⟨store, failed⟩ :=
            exec_transaction_cut after last parameters' legal' view' rest' change' isCommit' run' _ second
          simp [store, failed]
  | false =>
      obtain ⟨store, failed⟩ :=
        exec_transaction_cut db after parameters legal view rest change isCommit run script opened
      cases first : (select parameters view >>= rest).exec script db with
      | mk result later kept =>
          rw [first] at store failed
          cases result with
          | ok done => exact absurd rfl failed
          | error error => simpa using store

end Scripts

theorem commit_gives_up (change : ReadModel → Except Error ReadModel) : (commit change).GivesUp :=
  Prog.gives_up_atomic _ _

theorem get_by_user_id_gives_up (io : Circumstances) (userId : String) : (getByUserId io userId).GivesUp := by
  refine Prog.gives_up_bind _ _ (select_gives_up _ _) fun found => ?_
  cases found with
  | none => trivial
  | some row =>
      refine Prog.gives_up_bind _ _ (select_gives_up _ _) fun games => Prog.gives_up_bind _ _ (select_gives_up _ _)
        fun items => ?_
      exact Prog.gives_up_bind _ _ (select_gives_up _ _) fun posts => trivial

theorem create_if_missing_gives_up (io : Circumstances) (userId displayName : Value) :
    (createIfMissing io userId displayName).GivesUp := by
  refine Prog.gives_up_bind _ _ (Prog.gives_up_of_except _) fun row => ?_
  refine Prog.gives_up_bind _ _ (Prog.gives_up_query _ _) fun _ =>
    Prog.gives_up_bind _ _ (commit_gives_up _) fun _ => ?_
  refine Prog.gives_up_bind _ _ (Prog.gives_up_of_except _) fun user => ?_
  cases user with
  | none => trivial
  | some text => exact get_by_user_id_gives_up io text

end ProfileRepository

end AuthProfile
