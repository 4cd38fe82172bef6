import AuthProfile.Library
import AuthProfile.Topics

set_option autoImplicit false

namespace AuthProfile

open Relation Process ProfileRepository

section Handled

variable (python : Interpreter) (io : Circumstances) (db : ReadModel)

theorem grant_adds (payload : Value) (user game : String)
    (isParties : LibraryProjector.parties python "OwnershipGranted" payload = .ok (user, game))
    (userTaken : Varchar.Takes 36 user) (gameTaken : Varchar.Takes 36 game) (absent : db.flags user game = [])
    (fresh : io.rowId.text ∉ db.ownedGames.keys) :
    ∃ after, (LibraryProjector.handle python io payload).exec [] db = ⟨.ok (), [], after⟩ ∧ ∀ userId gameId,
      after.flags userId gameId = db.flags userId gameId ++ if StoredAs user game userId gameId then [false]
        else [] := by
  obtain ⟨profile, isNew, isOwner, _⟩ :=
    profile_row_new_runs io user "" userTaken (Varchar.takes_fits 64 "" (by decide))
  have sameGames := db.insert_profile_games profile
  have found : (db.insertProfileOrNothing profile).gamesNamed user game = [] := by
    rw [ReadModel.gamesNamed, sameGames]
    exact (db.flags_nil user game).mp absent
  obtain ⟨row, stored⟩ := (game_row_store_iff ⟨io.rowId.text, user, game, false, io.now⟩).mpr
    ⟨Varchar.takes_fits 36 _ io.rowId.fits, userTaken, gameTaken⟩
  obtain ⟨isRow, isUser, isGame, isShown⟩ := game_row_store_ok _ row stored
  have isFresh : key row ∉ (db.insertProfileOrNothing profile).ownedGames.keys := by
    rw [sameGames, show key row = io.rowId.text from isRow.trans (Varchar.cut_text 36 io.rowId)]
    exact fresh
  have known : row.userId.text ∈ (db.insertProfileOrNothing profile).profiles.keys := by
    rw [isUser, ← isOwner]
    exact db.insert_profile_known profile
  obtain ⟨after, inserted⟩ := (db.insertProfileOrNothing profile).insert_owned_game_runs row isFresh known
  have added := (db.insertProfileOrNothing profile).insert_owned_game_ok row after inserted
  have change : (do (db.insertProfileOrNothing profile).insertOwnedGame (← OwnedGameRow.store ⟨io.rowId.text, user,
    game, false, io.now⟩)) =
      .ok after := by
    rw [stored]
    exact inserted
  refine ⟨after, ?_, fun userId gameId => ?_⟩
  · rw [LibraryProjector.handle, Prog.exec_of_except_bind, isParties]
    dsimp only
    rw [exec_create_if_missing db io _ _ _ isNew, ownsGame, bind_assoc,
      exec_select_alone _ _ _ _ (legal_two user game userTaken.1 gameTaken.1), found]
    exact exec_commit_ok _ _ after change
  · rw [ReadModel.flags_added row _ after added userId gameId, ReadModel.flags_same db _ sameGames, isShown]
    have isPair : (row.userId.text = userId ∧ row.gameId.text = gameId) ↔ StoredAs user game userId gameId := by
      rw [isUser, isGame]
      constructor
      · rintro ⟨sameUser, sameGame⟩
        exact ⟨userTaken, gameTaken, sameUser, sameGame⟩
      · intro here
        exact ⟨here.isUser, here.isGame⟩
    simp only [isPair]

theorem revoke_runs (payload : Value) (userId gameId : String) (legal : Legal [userId, gameId])
    (isParties : LibraryProjector.parties python "OwnershipRevoked" payload = .ok (userId, gameId)) :
    ((LibraryProjector.revoke python payload).exec [] db).result = .ok () := by
  rw [LibraryProjector.revoke, Prog.exec_of_except_bind, isParties]
  dsimp only
  rw [removeOwnedGame, exec_select_alone _ _ _ db legal]
  exact congrArg Outcome.result (exec_commit_ok db _ _ rfl)

theorem grant_routed (message : Value) (user game : String)
    (isGrant : ownershipEvent python message = some (.granted user game)) :
    ∃ payload, LibraryProjector.parties python "OwnershipGranted" payload = .ok (user, game) ∧
      ∀ io, handleGameEvents python io message = LibraryProjector.handle python io payload := by
  rw [ownershipEvent] at isGrant
  cases parsed : Envelope.parse python.printable message with
  | error error => rw [parsed] at isGrant; cases isGrant
  | ok envelope =>
      rw [parsed] at isGrant
      dsimp only at isGrant
      by_cases granted : envelope.eventType = CATALOG_OWNERSHIP_GRANTED
      · rw [if_pos granted, Option.map_eq_some_iff] at isGrant
        obtain ⟨parties, isTold, same⟩ := isGrant
        cases same
        refine ⟨envelope.payload, parties_of_told python _ _ parties isTold, fun io => ?_⟩
        rw [handle_game_events_cases, parsed]
        exact if_pos granted
      · rw [if_neg granted] at isGrant
        split at isGrant
        · obtain ⟨_, _, wrong⟩ := Option.map_eq_some_iff.mp isGrant
          cases wrong
        · cases isGrant

theorem revocation_routed (message : Value) (userId gameId : String)
    (isRevoke : ownershipEvent python message = some (.revoked userId gameId)) :
    ∃ payload, LibraryProjector.parties python "OwnershipRevoked" payload = .ok (userId, gameId) ∧
      ∀ io, handleGameEvents python io message = LibraryProjector.revoke python payload := by
  rw [ownershipEvent] at isRevoke
  cases parsed : Envelope.parse python.printable message with
  | error error => rw [parsed] at isRevoke; cases isRevoke
  | ok envelope =>
      rw [parsed] at isRevoke
      dsimp only at isRevoke
      by_cases granted : envelope.eventType = CATALOG_OWNERSHIP_GRANTED
      · rw [if_pos granted, Option.map_eq_some_iff] at isRevoke
        obtain ⟨_, _, wrong⟩ := isRevoke
        cases wrong
      · rw [if_neg granted] at isRevoke
        split at isRevoke
        · rename_i revoked
          obtain ⟨parties, isTold, same⟩ := Option.map_eq_some_iff.mp isRevoke
          cases same
          refine ⟨envelope.payload, parties_of_told python _ _ parties isTold, fun io => ?_⟩
          rw [handle_game_events_cases, parsed]
          exact (if_neg granted).trans (if_pos revoked)
        · cases isRevoke

-- What a message handled without a failure does to the rows of one pair.
def flagsAfter (message : Value) (userId gameId : String) (before : List Bool) : List Bool :=
  match reaching userId gameId (ownershipEvent python message) with
  | none => before
  | some false => []
  | some true =>
      if ownershipEvent python message = some (.granted userId gameId) then if before = [] then [false] else before
      else before ++ [false]

theorem handled_flags (message : Value) (userId gameId : String) (fresh : io.rowId.text ∉ db.ownedGames.keys) :
    ((handleGameEvents python io message).exec [] db).store.flags userId gameId =
      flagsAfter python message userId gameId (db.flags userId gameId) := by
  obtain ⟨moves, projected⟩ := Prog.wp_exec _ _ _ (handle_game_events_moves python io message db) []
  have move := moves userId gameId
  rw [flagsAfter]
  cases isReached : reaching userId gameId (ownershipEvent python message) with
  | none =>
      cases move with
      | still same => exact same
      | added granted _ _ => cases isReached.symm.trans granted
      | cut granted _ _ => cases isReached.symm.trans granted
      | removed revoked _ => cases isReached.symm.trans revoked
  | some granted =>
      cases granted with
      | false =>
          have isRevoke := (reached_revoked_iff userId gameId _).mp isReached
          by_contra owned
          have fits := ReadModel.flags_fit _ userId gameId owned
          obtain ⟨payload, isParties, routed⟩ := revocation_routed python message userId gameId isRevoke
          have ran := revoke_runs python db payload userId gameId (legal_two userId gameId fits.1.2 fits.2.2) isParties
          rw [← routed io] at ran
          have gone := projected ran
          rw [isRevoke] at gone
          exact owned gone
      | true =>
          dsimp only
          obtain ⟨user, game, isGrant, stored⟩ := (reached_granted_iff userId gameId _).mp isReached
          obtain ⟨payload, isParties, routed⟩ := grant_routed python message user game isGrant
          by_cases absent : db.flags user game = []
          · obtain ⟨after, run, flags⟩ :=
              grant_adds python io db payload user game isParties stored.userTaken stored.gameTaken absent fresh
            rw [routed io, run]
            dsimp only
            rw [flags, if_pos stored]
            by_cases kept : ownershipEvent python message = some (.granted userId gameId)
            · cases isGrant.symm.trans kept
              rw [if_pos kept, if_pos absent, absent, List.nil_append]
            · rw [if_neg kept]
          · obtain ⟨rfl, rfl⟩ := stored_as_kept user game userId gameId (ReadModel.flags_fit db user game absent) stored
            rw [if_pos isGrant, if_neg absent]
            cases move with
            | still same => exact same
            | added _ wasAbsent _ => exact absurd wasAbsent absent
            | cut _ notKept _ => exact absurd isGrant notKept
            | removed revoked _ => cases isReached.symm.trans revoked

-- The one id a message may bring in.
theorem game_events_keys (message : Value) :
    (handleGameEvents python io message).wp (fun _ after =>
      ∀ id ∈ after.ownedGames.keys, id ∈ db.ownedGames.keys ∨ id = io.rowId.text) db := by
  let grows (before after : ReadModel) : Prop :=
    ∀ id ∈ after.ownedGames.keys, id ∈ before.ownedGames.keys ∨ id = io.rowId.text
  have still : ∀ db, grows db db := fun db id member => Or.inl member
  have admits : Delivery.Admits ⟨.gameEvents, io, message⟩ grows := by
    constructor
    case still => exact still
    case game =>
      intro _ row before after isKey run id member
      have added := ReadModel.insert_owned_game_ok before row after run
      exact ((Table.mem_keys_added row before.ownedGames after.ownedGames added.rows id).mp member).imp_right
        fun same => same.trans isKey
    case gone =>
      intro _ gone before id member
      obtain ⟨row, left, isKey⟩ := List.mem_map.mp member
      exact Or.inl (isKey ▸ List.mem_map_of_mem (List.mem_of_mem_filter left))
    all_goals
      intro wrong
      cases wrong
  have profile : ∀ before row, grows before (ReadModel.insertProfileOrNothing row before) := by
    intro before row id member
    rw [before.insert_profile_games row] at member
    exact Or.inl member
  have trans : ∀ a b c, grows a b → grows b c → grows a c :=
    fun a b c ab bc id member => (bc id member).elim (ab id) Or.inr
  rw [Prog.wp_iff_exec]
  exact fun script => Prog.steps_exec grows still trans _
    (handle_steps python grows ⟨.gameEvents, io, message⟩ admits profile) script db

end Handled

end AuthProfile
