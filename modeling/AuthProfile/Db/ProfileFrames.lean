import AuthProfile.Db.ProfileSteps
import AuthProfile.Messaging.Routing
import AuthProfile.Process.Pool

set_option autoImplicit false

-- What the handlers do to the tables, one committed write at a time.
namespace AuthProfile

open Relation Process ProfileRepository

namespace ReadModel

section Writes

variable (db after : ReadModel)

def ids : List String := db.ownedGames.keys ++ db.ownedItems.keys ++ db.topPosts.keys

theorem ids_grow (rowId : String) (games : ∀ id ∈ after.ownedGames.keys, id ∈ db.ownedGames.keys ∨ id = rowId)
    (items : ∀ id ∈ after.ownedItems.keys, id ∈ db.ownedItems.keys ∨ id = rowId)
    (posts : ∀ id ∈ after.topPosts.keys, id ∈ db.topPosts.keys ∨ id = rowId) :
    ∀ id ∈ after.ids, id ∈ db.ids ∨ id = rowId := by
  intro id member
  simp only [ids, List.mem_append] at member ⊢
  rcases member with (game | item) | post
  · exact (games id game).imp_left fun old => Or.inl (Or.inl old)
  · exact (items id item).imp_left fun old => Or.inl (Or.inr old)
  · exact (posts id post).imp_left Or.inr

end Writes

end ReadModel

section Frames

variable (guar : ReadModel → ReadModel → Prop) (still : ∀ db, guar db db)

theorem of_except_steps {α : Type} (result : Except Error α) :
    (Prog.ofExcept result : Prog ReadModel Error α).Steps guar := by
  cases result <;> trivial

include still

theorem commit_steps (change : ReadModel → Except Error ReadModel)
    (writes : ∀ db after, change db = .ok after → guar db after) :
    (commit change).Steps guar := by
  refine Prog.steps_atomic guar still _ _ fun db answer after run => ?_
  cases changed : change db with
  | error error =>
      rw [changed] at run
      cases run
  | ok committed =>
      rw [changed] at run
      cases run
      exact writes db after changed

variable (io : Circumstances)

theorem get_by_user_id_steps (userId : String) : (getByUserId io userId).Steps guar := by
  refine Prog.steps_bind guar _ _ (select_steps _ _ guar still) fun found => ?_
  cases found with
  | none => trivial
  | some row =>
      refine Prog.steps_bind guar _ _ (select_steps _ _ guar still) fun games => ?_
      refine Prog.steps_bind guar _ _ (select_steps _ _ guar still) fun items => ?_
      exact Prog.steps_bind guar _ _ (select_steps _ _ guar still) fun posts => trivial

theorem create_row_steps (userId displayName : Value)
    (profile : ∀ row, ProfileRow.new io userId displayName = .ok row → ∀ db,
      guar db (ReadModel.insertProfileOrNothing row db)) :
    (createIfMissing io userId displayName).Steps guar := by
  rw [createIfMissing]
  cases stored : ProfileRow.new io userId displayName with
  | error error => trivial
  | ok row =>
      change (Prog.query .connection (fun _ : ReadModel => ()) >>= fun _ => _).Steps guar
      refine Prog.steps_bind guar _ _ (Prog.steps_query guar still _ _) fun _ => ?_
      refine Prog.steps_bind guar _ _ (commit_steps guar still _ fun db after run => ?_) fun _ => ?_
      · cases run
        exact profile row stored db
      · refine Prog.steps_bind guar _ _ (of_except_steps guar _) fun user => ?_
        cases user with
        | none => trivial
        | some userId => exact get_by_user_id_steps guar still io userId

theorem create_if_missing_steps (profile : ∀ db row, guar db (ReadModel.insertProfileOrNothing row db))
    (userId displayName : Value) :
    (createIfMissing io userId displayName).Steps guar :=
  create_row_steps guar still io userId displayName fun row _ db => profile db row

-- What each handler goes on with once it has made sure of the profile.
theorem library_steps (game : ∀ row db after, key row = io.rowId.text → ReadModel.insertOwnedGame row db = .ok after →
    guar db after)
    (userId gameId : String) :
    (do if ← ownsGame userId gameId then return ()
        addOwnedGame ⟨io.rowId.text, userId, gameId, false, io.now⟩ : Prog ReadModel Error Unit).Steps guar := by
  refine Prog.steps_bind guar _ _ ?_ fun owns => ?_
  · refine Prog.steps_bind guar _ _ (select_steps _ _ guar still) fun found => ?_
    exact Prog.steps_bind guar _ _ (of_except_steps guar _) fun row => trivial
  · cases owns with
    | true => trivial
    | false =>
        refine commit_steps guar still _ fun db after run => ?_
        obtain ⟨row, stored, inserted⟩ := (except_bind_ok _ _ _).mp run
        exact game row db after ((game_row_store_ok _ row stored).1.trans (Varchar.cut_text 36 io.rowId)) inserted

theorem inventory_steps (item : ∀ row db after, key row = io.rowId.text → ReadModel.insertOwnedItem row db = .ok after →
    guar db after)
    (userId itemId gameId : Value) : (addOwnedItem io userId itemId gameId).Steps guar := by
  refine commit_steps guar still _ fun db after run => ?_
  obtain ⟨row, stored, inserted⟩ := (except_bind_ok _ _ _).mp run
  simp only [OwnedItemRow.new, except_bind_ok] at stored
  obtain ⟨user, _, named, _, game, _, same⟩ := stored
  cases same
  exact item _ db after rfl inserted

theorem upsert_steps (python : Interpreter)
    (post : ∀ row db after, key row = io.rowId.text → ReadModel.insertTopPost row db = .ok after → guar db after)
    (score : ∀ id n db after, ReadModel.updateScore id n db = .ok after → guar db after)
    (rank : ∀ loaded db after, ReadModel.rankPosts loaded db = .ok after → guar db after)
    (userId postId feedbackScore : Value) :
    (upsertTopPost io python userId postId feedbackScore).Steps guar := by
  refine Prog.steps_bind guar _ _ ?_ fun _ => ?_
  · refine Prog.steps_bind guar _ _ (of_except_steps guar _) fun user => ?_
    refine Prog.steps_bind guar _ _ (of_except_steps guar _) fun named => ?_
    refine Prog.steps_bind guar _ _ (select_steps _ _ guar still) fun found => ?_
    refine Prog.steps_bind guar _ _ (of_except_steps guar _) fun existing => commit_steps guar still _
      fun db after run => ?_
    cases existing with
    | some row =>
        obtain ⟨n, _, written⟩ := (except_bind_ok _ _ _).mp run
        split at written
        · cases written
          exact still db
        · exact score _ _ db after written
    | none =>
        obtain ⟨n, _, written⟩ := (except_bind_ok _ _ _).mp run
        obtain ⟨row, isNew, inserted⟩ := (except_bind_ok _ _ _).mp written
        simp only [TopPostRow.new, except_bind_ok] at isNew
        obtain ⟨owner, _, text, _, same⟩ := isNew
        cases same
        exact post _ db after rfl inserted
  · refine Prog.steps_bind guar _ _ (of_except_steps guar _) fun user => ?_
    exact Prog.steps_bind guar _ _ (select_steps _ _ guar still) fun posts => commit_steps guar still _
      fun db after run => rank _ db after run

end Frames

end AuthProfile
