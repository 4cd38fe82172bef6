import AuthProfile.Db.ProfileSteps
import AuthProfile.Messaging.Routing

set_option autoImplicit false

namespace AuthProfile

open Relation Process ProfileRepository

inductive OwnershipEvent where
  | granted (userId gameId : String)
  | revoked (userId gameId : String)
deriving DecidableEq, Repr

-- What a field of a payload tells: its value as a text, unless it is missing or empty.
def told (python : Interpreter) (payload : Value) (name : String) : Option String :=
  ((payload.get name).filter fun value => value.truthy).map (Value.toStr python.printable)

-- An ownership payload is about its owner, or for want of one its user, and about its game.
def pairTold (python : Interpreter) (payload : Value) : Option (String × String) := do
  let userId ← ((told python payload "owner_id").or (told python payload "user_id")).filter fun text => text ≠ ""
  let gameId ← (told python payload "game_id").filter fun text => text ≠ ""
  return (userId, gameId)

-- What a message of game-events says about ownership, if it is well formed.
def ownershipEvent (python : Interpreter) (message : Value) : Option OwnershipEvent :=
  match Envelope.parse python.printable message with
  | .error _ => none
  | .ok envelope =>
      if envelope.eventType = CATALOG_OWNERSHIP_GRANTED then
        (pairTold python envelope.payload).map fun (userId, gameId) => .granted userId gameId
      else if envelope.eventType = CATALOG_OWNERSHIP_REVOKED then
        (pairTold python envelope.payload).map fun (userId, gameId) => .revoked userId gameId
      else none

section Told

variable (python : Interpreter) (payload : Value)

theorem to_str_or_told (name : String) :
    Value.toStrOr python.printable (payload.get name) = (told python payload name).getD "" := by
  rw [told]
  cases payload.get name with
  | none => rfl
  | some value => cases truthy : value.truthy <;> simp [Value.toStrOr, Option.filter_some, truthy]

theorem owner_of_told :
    LibraryProjector.ownerOf python payload =
      ((told python payload "owner_id").or (told python payload "user_id")).getD "" := by
  rw [LibraryProjector.ownerOf, to_str_or_told]
  cases hasOwner : payload.get "owner_id" with
  | none => simp [told, hasOwner]
  | some owner => cases truthy : owner.truthy <;> simp [told, hasOwner, Option.filter_some, truthy]

theorem get_d_filter (text : Option String) :
    (text.filter fun text => text ≠ "") = if text.getD "" = "" then none else some (text.getD "") := by
  cases text with
  | none => rfl
  | some text => by_cases empty : text = "" <;> simp [empty]

-- The projector reads the owner and the game as the payload tells them.
theorem parties_told (className : String) :
    (LibraryProjector.parties python className payload).toOption = pairTold python payload := by
  rw [LibraryProjector.parties, owner_of_told, to_str_or_told, pairTold, get_d_filter, get_d_filter]
  by_cases noUser : ((told python payload "owner_id").or (told python payload "user_id")).getD "" = ""
  · rw [if_pos (Or.inl noUser), if_pos noUser]
    rfl
  · by_cases noGame : (told python payload "game_id").getD "" = ""
    · rw [if_pos (Or.inr noGame), if_neg noUser, if_pos noGame]
      rfl
    · rw [if_neg (not_or.mpr ⟨noUser, noGame⟩), if_neg noUser, if_neg noGame]
      rfl

theorem parties_ok (className : String) (parties : String × String)
    (isParties : LibraryProjector.parties python className payload = .ok parties) :
    pairTold python payload = some parties := by
  rw [← parties_told python payload className, isParties]
  rfl

theorem parties_error (className : String) (error : Error)
    (isParties : LibraryProjector.parties python className payload = .error error) :
    pairTold python payload = none := by
  rw [← parties_told python payload className, isParties]
  rfl

theorem parties_of_told (className : String) (parties : String × String)
    (isTold : pairTold python payload = some parties) :
    LibraryProjector.parties python className payload = .ok parties := by
  cases isParties : LibraryProjector.parties python className payload with
  | error error => cases (parties_error python payload className error isParties).symm.trans isTold
  | ok other => cases (parties_ok python payload className other isParties).symm.trans isTold; rfl

end Told

-- The columns keep the pair as it is.
def Fits (userId gameId : String) : Prop := Varchar.Fits 36 userId ∧ Varchar.Fits 36 gameId

instance (userId gameId : String) : Decidable (Fits userId gameId) := inferInstanceAs (Decidable (_ ∧ _))

-- The columns take the first pair and make the second one of it.
structure StoredAs (user game userId gameId : String) : Prop where
  userTaken : Varchar.Takes 36 user
  gameTaken : Varchar.Takes 36 game
  isUser : Varchar.cut 36 user = userId
  isGame : Varchar.cut 36 game = gameId

instance (user game userId gameId : String) : Decidable (StoredAs user game userId gameId) :=
  decidable_of_iff (Varchar.Takes 36 user ∧ Varchar.Takes 36 game ∧ Varchar.cut 36 user = userId ∧
    Varchar.cut 36 game = gameId)
    ⟨fun ⟨userTaken, gameTaken, isUser, isGame⟩ => ⟨userTaken, gameTaken, isUser, isGame⟩,
      fun ⟨userTaken, gameTaken, isUser, isGame⟩ => ⟨userTaken, gameTaken, isUser, isGame⟩⟩

theorem stored_as_self (userId gameId : String) (fits : Fits userId gameId) : StoredAs userId gameId userId gameId :=
  ⟨Varchar.takes_fits 36 userId fits.1, Varchar.takes_fits 36 gameId fits.2, Varchar.cut_short 36 userId fits.1.1,
    Varchar.cut_short 36 gameId fits.2.1⟩

theorem stored_as_kept (user game userId gameId : String) (fits : Fits user game)
    (stored : StoredAs user game userId gameId) :
    user = userId ∧ game = gameId :=
  ⟨(Varchar.cut_short 36 user fits.1.1).symm.trans stored.isUser,
    (Varchar.cut_short 36 game fits.2.1).symm.trans stored.isGame⟩

-- What an ownership event does to the rows of the pair: a grant goes by the pair that the
-- columns make of its own, a revocation by its own.
def OwnershipEvent.reaches (userId gameId : String) : OwnershipEvent → Option Bool
  | .granted user game => if StoredAs user game userId gameId then some true else none
  | .revoked user game => if user = userId ∧ game = gameId then some false else none

def reaching (userId gameId : String) (event : Option OwnershipEvent) : Option Bool :=
  event.bind (OwnershipEvent.reaches userId gameId)

theorem reached_granted_iff (userId gameId : String) (event : Option OwnershipEvent) :
    reaching userId gameId event = some true ↔ ∃ user game, event = some (.granted user game) ∧
      StoredAs user game userId gameId := by
  cases event with
  | none => exact ⟨(fun wrong => nomatch wrong), fun ⟨_, _, wrong, _⟩ => nomatch wrong⟩
  | some event =>
      rw [reaching, Option.bind_some]
      cases event with
      | granted user game => simp [OwnershipEvent.reaches]
      | revoked user game => simp [OwnershipEvent.reaches]

theorem reached_revoked_iff (userId gameId : String) (event : Option OwnershipEvent) :
    reaching userId gameId event = some false ↔ event = some (.revoked userId gameId) := by
  cases event with
  | none => exact ⟨(fun wrong => nomatch wrong), fun wrong => nomatch wrong⟩
  | some event =>
      rw [reaching, Option.bind_some]
      cases event with
      | granted user game => simp [OwnershipEvent.reaches]
      | revoked user game => simp [OwnershipEvent.reaches]

-- No grant of a pair that the columns do not keep.
def GrantsKept (event : Option OwnershipEvent) : Prop := ∀ user game, event = some (.granted user game) → Fits user game

theorem reached_kept (userId gameId : String) (event : Option OwnershipEvent) (kept : GrantsKept event)
    (granted : reaching userId gameId event = some true) : event = some (.granted userId gameId) := by
  obtain ⟨user, game, isGrant, stored⟩ := (reached_granted_iff userId gameId event).mp granted
  obtain ⟨rfl, rfl⟩ := stored_as_kept user game userId gameId (kept user game isGrant) stored
  exact isGrant

-- The hidden flags of the rows of a pair.
def ReadModel.flags (userId gameId : String) (db : ReadModel) : List Bool :=
  (db.gamesNamed userId gameId).map OwnedGameRow.hidden

-- What an attempt at a message may do to the pairs. A grant whose pair the columns do not
-- keep never finds its row, and adds one more.
inductive FlagsMove (userId gameId : String) (event : Option OwnershipEvent) (before after : List Bool) : Prop where
  | still (same : after = before)
  | added (granted : reaching userId gameId event = some true) (absent : before = []) (fresh : after = [false])
  | cut (granted : reaching userId gameId event = some true) (notKept : event ≠ some (.granted userId gameId))
      (grown : after = before ++ [false])
  | removed (revoked : reaching userId gameId event = some false) (gone : after = [])

def LibraryMoves (event : Option OwnershipEvent) (before after : ReadModel) : Prop :=
  ∀ userId gameId, FlagsMove userId gameId event (before.flags userId gameId) (after.flags userId gameId)

-- What is so once an attempt at the message has returned.
def Projected (event : Option OwnershipEvent) (db : ReadModel) : Prop :=
  match event with
  | none => True
  | some (.granted user game) => ∃ userId gameId, StoredAs user game userId gameId ∧ db.flags userId gameId ≠ []
  | some (.revoked userId gameId) => db.flags userId gameId = []

namespace ReadModel

theorem flags_nil (db : ReadModel) (userId gameId : String) :
    db.flags userId gameId = [] ↔ db.gamesNamed userId gameId = [] :=
  List.map_eq_nil_iff

theorem flags_fit (db : ReadModel) (userId gameId : String) (owned : db.flags userId gameId ≠ []) :
    Fits userId gameId := by
  obtain ⟨flag, member⟩ := List.exists_mem_of_ne_nil _ owned
  obtain ⟨row, named, _⟩ := List.mem_map.mp member
  have isPair : row ∈ db.ownedGames.rows ∧ row.userId.text = userId ∧ row.gameId.text = gameId := by
    simpa [ReadModel.gamesNamed] using named
  obtain ⟨_, rfl, rfl⟩ := isPair
  exact ⟨row.userId.fits, row.gameId.fits⟩

theorem flags_same (before after : ReadModel) (same : after.ownedGames = before.ownedGames) (userId gameId : String) :
    after.flags userId gameId = before.flags userId gameId := by
  rw [flags, gamesNamed, same, flags, gamesNamed]

theorem flags_added (row : OwnedGameRow) (before after : ReadModel) (added : GameAdded row before after)
    (userId gameId : String) :
    after.flags userId gameId =
      before.flags userId gameId ++ if row.userId.text = userId ∧ row.gameId.text = gameId then [row.hidden]
        else [] := by
  rw [flags, gamesNamed, added.rows, List.filter_append, List.map_append, flags, gamesNamed]
  by_cases here : row.userId.text = userId ∧ row.gameId.text = gameId <;> simp [here]

-- The rows that are gone are those the SELECT found.
theorem flags_deleted (db : ReadModel) (ownerId game userId gameId : String) :
    (db.deleteOwnedGames fun row => key row ∈ (db.gamesNamed ownerId game).map key).flags userId gameId =
      if ownerId = userId ∧ game = gameId then [] else db.flags userId gameId := by
  have picked : ∀ row ∈ db.ownedGames.rows,
      (key row ∈ (db.gamesNamed ownerId game).map key ↔ row.userId.text = ownerId ∧ row.gameId.text = game) := by
    intro row member
    constructor
    · intro isKey
      obtain ⟨other, otherMember, sameKey⟩ := List.mem_map.mp isKey
      have named := List.mem_filter.mp otherMember
      have same := List.inj_on_of_nodup_map db.ownedGames.distinct named.1 member sameKey
      exact same ▸ (by simpa using named.2)
    · intro named
      exact List.mem_map_of_mem (List.mem_filter.mpr ⟨member, by simpa using named⟩)
  rw [flags, gamesNamed, delete_owned_games_rows, List.filter_filter]
  by_cases here : ownerId = userId ∧ game = gameId
  · obtain ⟨rfl, rfl⟩ := here
    rw [if_pos ⟨rfl, rfl⟩, List.map_eq_nil_iff, List.filter_eq_nil_iff]
    intro row member kept
    simp only [Bool.and_eq_true, decide_eq_true_eq, Bool.not_eq_true', decide_eq_false_iff_not] at kept
    exact kept.2 ((picked row member).mpr kept.1)
  · rw [if_neg here, flags, gamesNamed]
    congr 1
    apply List.filter_congr
    intro row member
    by_cases named : row.userId.text = userId ∧ row.gameId.text = gameId
    · have stays : ¬ key row ∈ (db.gamesNamed ownerId game).map key := by
        rw [picked row member]
        rintro ⟨rfl, rfl⟩
        exact here named
      rw [decide_eq_true named, Bool.true_and, Bool.not_eq_true']
      exact decide_eq_false stays
    · simp [named]

-- The insert of a granted game.
theorem granted_moves (user game : String) (row : OwnedGameRow)
    (stored : StoredAs user game row.userId.text row.gameId.text)
    (isShown : row.hidden = false) (db before after : ReadModel) (same : before.ownedGames = db.ownedGames)
    (absent : before.flags user game = []) (added : GameAdded row before after) :
    LibraryMoves (some (.granted user game)) db after ∧ Projected (some (.granted user game)) after := by
  constructor
  · intro otherUser otherGame
    have flags := flags_added row before after added otherUser otherGame
    rw [flags_same db before same] at flags
    by_cases here : row.userId.text = otherUser ∧ row.gameId.text = otherGame
    · obtain ⟨rfl, rfl⟩ := here
      rw [if_pos ⟨rfl, rfl⟩, isShown] at flags
      have isReached := (reached_granted_iff row.userId.text row.gameId.text _).mpr ⟨user, game, rfl, stored⟩
      by_cases kept : Fits user game
      · obtain ⟨isUser, isGame⟩ := stored_as_kept user game _ _ kept stored
        rw [flags_same db before same, isUser, isGame] at absent
        rw [absent] at flags
        exact .added isReached absent flags
      · refine .cut isReached (fun isKept => kept ?_) flags
        cases isKept
        exact ⟨row.userId.fits, row.gameId.fits⟩
    · rw [if_neg here, List.append_nil] at flags
      exact .still flags
  · have flags := flags_added row before after added row.userId.text row.gameId.text
    rw [if_pos ⟨rfl, rfl⟩] at flags
    refine ⟨_, _, stored, ?_⟩
    rw [flags]
    exact List.append_ne_nil_of_right_ne_nil _ (List.cons_ne_nil _ _)

end ReadModel

namespace LibraryProjector

section Attempt

variable (python : Interpreter) (io : Circumstances) (db : ReadModel)

theorem handle_moves (payload : Value) (userId gameId : String)
    (isParties : parties python "OwnershipGranted" payload = .ok (userId, gameId)) :
    (handle python io payload).wp (fun result after =>
      LibraryMoves (some (.granted userId gameId)) db after ∧
        (result = .ok () → Projected (some (.granted userId gameId)) after)) db := by
  have still : ∀ after : ReadModel, after.ownedGames = db.ownedGames →
      LibraryMoves (some (.granted userId gameId)) db after :=
    fun after same userId gameId => .still (ReadModel.flags_same db after same userId gameId)
  have failed : ∀ (error : Error) (after : ReadModel), (Except.error error : Except Error Unit) = .ok () →
      Projected (some (.granted userId gameId)) after := by
    intro error after wrong
    cases wrong
  rw [handle, Prog.wp_of_except_bind, isParties]
  dsimp only
  refine wp_create_if_missing io _ db _ _ _ (fun error => ⟨still db rfl, failed error _⟩) fun profile stored => ?_
  have sameGames : (db.insertProfileOrNothing profile).ownedGames = db.ownedGames := db.insert_profile_games profile
  refine ⟨fun error => ⟨still _ sameGames, failed error _⟩, ?_⟩
  rw [ownsGame, bind_assoc]
  refine wp_select_bind _ _ _ _ _ (fun error => ⟨still _ sameGames, failed error _⟩) ?_
  rw [bind_assoc, Prog.wp_of_except_bind]
  cases found : (db.insertProfileOrNothing profile).gamesNamed userId gameId with
  | nil =>
      dsimp only [scalarOneOrNone]
      refine wp_commit _ _ _ (fun error => ⟨still _ sameGames, failed error _⟩) fun after run => ?_
      obtain ⟨row, rowStored, inserted⟩ := (except_bind_ok _ _ _).mp run
      obtain ⟨_, isUser, isGame, isHidden⟩ := game_row_store_ok _ row rowStored
      obtain ⟨_, userTaken, gameTaken⟩ := (game_row_store_iff _).mp ⟨row, rowStored⟩
      have added := ReadModel.insert_owned_game_ok _ row after inserted
      have absent := (ReadModel.flags_nil _ userId gameId).mpr found
      obtain ⟨moved, projected⟩ :=
        ReadModel.granted_moves userId gameId row ⟨userTaken, gameTaken, isUser.symm, isGame.symm⟩ isHidden
        db _ after sameGames absent added
      exact ⟨⟨moved, fun _ => projected⟩, moved, failed _ _⟩
  | cons first others =>
      cases others with
      | nil =>
          have owned : (db.insertProfileOrNothing profile).flags userId gameId ≠ [] := by
            rw [ReadModel.flags, found]
            exact List.cons_ne_nil _ _
          exact ⟨still _ sameGames,
            fun _ => ⟨userId, gameId, stored_as_self userId gameId (ReadModel.flags_fit _ _ _ owned), owned⟩⟩
      | cons second others => exact ⟨still _ sameGames, failed _ _⟩

theorem revoke_moves (payload : Value) (userId gameId : String)
    (isParties : parties python "OwnershipRevoked" payload = .ok (userId, gameId)) :
    (revoke python payload).wp (fun result after =>
      LibraryMoves (some (.revoked userId gameId)) db after ∧
        (result = .ok () → Projected (some (.revoked userId gameId)) after)) db := by
  have refused : ∀ error : Error, LibraryMoves (some (.revoked userId gameId)) db db ∧
      ((Except.error error : Except Error Unit) = .ok () → Projected (some (.revoked userId gameId)) db) :=
    fun error => ⟨fun _ _ => .still rfl, fun wrong => nomatch wrong⟩
  rw [revoke, Prog.wp_of_except_bind, isParties]
  refine wp_select_bind _ _ _ _ _ refused ?_
  refine wp_commit _ _ _ refused fun after run => ?_
  cases run
  have moved : LibraryMoves (some (.revoked userId gameId)) db
      (db.deleteOwnedGames fun row => key row ∈ (db.gamesNamed userId gameId).map key) := by
    intro otherUser otherGame
    have flags := ReadModel.flags_deleted db userId gameId otherUser otherGame
    by_cases here : userId = otherUser ∧ gameId = otherGame
    · obtain ⟨rfl, rfl⟩ := here
      rw [if_pos ⟨rfl, rfl⟩] at flags
      exact .removed ((reached_revoked_iff userId gameId _).mpr rfl) flags
    · rw [if_neg here] at flags
      exact .still flags
  refine ⟨⟨moved, fun _ => ?_⟩, moved, fun wrong => nomatch wrong⟩
  rw [Projected, ReadModel.flags_deleted, if_pos ⟨rfl, rfl⟩]

end Attempt

end LibraryProjector

-- A message that is not well formed leaves the library alone.
theorem handle_game_events_moves (python : Interpreter) (io : Circumstances) (message : Value) (db : ReadModel) :
    (handleGameEvents python io message).wp (fun result after =>
      LibraryMoves (ownershipEvent python message) db after ∧
        (result = .ok () → Projected (ownershipEvent python message) after)) db := by
  have still : ∀ (result : Except Error Unit), LibraryMoves none db db ∧ (result = .ok () → Projected none db) :=
    fun result => ⟨fun _ _ => .still rfl, fun _ => trivial⟩
  rw [handle_game_events_cases, ownershipEvent]
  cases Envelope.parse python.printable message with
  | error error => exact still _
  | ok envelope =>
      dsimp only
      by_cases granted : envelope.eventType = CATALOG_OWNERSHIP_GRANTED
      · rw [if_pos granted, if_pos granted]
        cases isParties : LibraryProjector.parties python "OwnershipGranted" envelope.payload with
        | error error =>
            rw [LibraryProjector.handle, Prog.wp_of_except_bind, isParties, parties_error python _ _ error isParties]
            exact still _
        | ok parties =>
            rw [parties_ok python _ _ parties isParties]
            exact LibraryProjector.handle_moves python io db envelope.payload parties.1 parties.2 isParties
      · rw [if_neg granted, if_neg granted]
        by_cases revoked : envelope.eventType = CATALOG_OWNERSHIP_REVOKED
        · rw [if_pos revoked, if_pos revoked]
          cases isParties : LibraryProjector.parties python "OwnershipRevoked" envelope.payload with
          | error error =>
              rw [LibraryProjector.revoke, Prog.wp_of_except_bind, isParties, parties_error python _ _ error isParties]
              exact still _
          | ok parties =>
              rw [parties_ok python _ _ parties isParties]
              exact LibraryProjector.revoke_moves python db envelope.payload parties.1 parties.2 isParties
        · rw [if_neg revoked, if_neg revoked]
          exact still _

end AuthProfile
