import AuthProfile.ShelfReads

set_option autoImplicit false

namespace AuthProfile

open Relation Process ProfileRepository TopList

-- The author's posts with their scores, best rank first.
def topEntries (author : String) (db : ReadModel) : List (String × Int) := (db.byRank author).map Placed.entry

theorem upsert_upserts (author : String) (entry : String × Int) (id : String) (db written settled : ReadModel)
    (upsert : Upsert author (Placed.write (db.shelf author) entry) id db written settled)
    (distinct : ((db.shelf author).map Placed.key).Nodup) :
    Upserts 5 (topEntries author db) entry (topEntries author settled) := by
  obtain ⟨entries, perm, sorted, isSettled⟩ := upsert_by_rank author _ id db written settled upsert
  refine ⟨entries, ?_, sorted, ?_⟩
  · have ranked := candidates_perm _ _ entry ((db.by_rank_perm author).map Placed.entry)
    exact (perm.trans (Placed.write_entries (db.shelf author) entry distinct)).trans ranked.symm
  · rw [topEntries, isSettled, Placed.place_entries]

def Returned (python : Interpreter) (db : ReadModel) (calls : List PostCall) : Prop :=
  AllReturn (PostCall.handle python) PostCall.script db calls

instance (python : Interpreter) (db : ReadModel) (calls : List PostCall) : Decidable (Returned python db calls) :=
  inferInstanceAs (Decidable (AllReturn ..))

-- The post and the score that an event tells of.
def scoreTold (event : Value) : Option (String × Int) :=
  match event.get "post_id", event.get "feedback_score" with
  | some (.str post), some (.int score) => some (post, score)
  | _, _ => none

theorem score_told_iff (event : Value) (entry : String × Int) :
    scoreTold event = some entry ↔ event.get "post_id" = some (.str entry.1) ∧
      event.get "feedback_score" = some (.int entry.2) := by
  rw [scoreTold]
  constructor
  · intro isTold
    split at isTold
    · rename_i isPost isScore
      cases isTold
      exact ⟨isPost, isScore⟩
    · cases isTold
  · rintro ⟨isPost, isScore⟩
    rw [isPost, isScore]

-- Every event tells an integer score of a post, and the columns keep the ids.
structure ScoresKept (author : String) (calls : List PostCall) : Prop where
  author : Varchar.Fits 36 author
  posts : ∀ call ∈ calls, ∃ entry, scoreTold call.event = some entry ∧ Varchar.Fits 36 entry.1

-- A call that returns is one upsert of what its event tells.
theorem returned_call (python : Interpreter) (author : String) (call : PostCall) (db : ReadModel) (entry : String × Int)
    (authored : call.event.get "author_id" = some (.str author)) (distinct : ((db.shelf author).map Placed.key).Nodup)
    (short : author.length ≤ 36) (isTold : scoreTold call.event = some entry) (kept : Varchar.Fits 36 entry.1)
    (returned : ((call.handle python).exec call.script db).result = .ok ()) :
    ((((call.store python db).shelf author).map Placed.key).Nodup) ∧
      Upserts 5 (topEntries author db) entry (topEntries author (call.store python db)) := by
  obtain ⟨rows, opened, written, isWritten, samePosts, upsert⟩ :=
    Prog.wp_exec _ _ _ (reaction_returned python author call.event authored short call.io db) call.script returned
  obtain ⟨⟨post, feedbackScore⟩, score, isPosting, bound, _, rfl⟩ :=
    (rows_written_iff python author call.event _ rows).mp isWritten
  obtain ⟨_, reports⟩ := (posting_some_iff author call.event _).mp isPosting
  obtain ⟨isPost, isScore⟩ := (score_told_iff call.event entry).mp isTold
  cases reports.hasPost.symm.trans isPost
  cases reports.hasScore.symm.trans isScore
  have sameShelf := ReadModel.shelf_same db opened author samePosts
  have isRows : Posting.written ⟨entry.1, .int entry.2⟩ (db.shelf author) score.value =
      Placed.write (opened.shelf author) entry := by
    rw [Posting.written_apart _ _ _ (fun _ => kept) (fun _ => kept),
      score_int python entry.1 entry.2 _ score bound, sameShelf]
    exact congrArg (fun id => Placed.write (db.shelf author) (id, entry.2)) (Varchar.cut_short 36 entry.1 kept.1)
  rw [isRows] at upsert
  have openedDistinct : ((opened.shelf author).map Placed.key).Nodup := sameShelf ▸ distinct
  have wellFormed :=
    upsert_well_formed author _ _ opened written _ upsert (Placed.write_distinct _ entry openedDistinct)
  have upserts := upsert_upserts author entry _ opened written _ upsert openedDistinct
  have sameEntries : topEntries author opened = topEntries author db := by
    rw [topEntries, ReadModel.byRank, sameShelf, topEntries, ReadModel.byRank]
  exact ⟨((ReadModel.by_rank_perm _ author).map Placed.key).nodup_iff.mp wellFormed.distinct, sameEntries ▸ upserts⟩

section Run

variable (python : Interpreter) (author : String) (db : ReadModel) (calls : List PostCall)
  (empty : db.shelf author = []) (authored : ∀ call ∈ calls, call.event.get "author_id" = some (.str author))
  (kept : ScoresKept author calls) (returned : Returned python db calls)

include empty authored kept returned

theorem returned_distinct (before : List PostCall) (isPrefix : before <+: calls) :
    (((runPosts python db before).shelf author).map Placed.key).Nodup := by
  induction before using List.reverseRecOn with
  | nil =>
      change ((db.shelf author).map Placed.key).Nodup
      rw [empty]
      exact List.nodup_nil
  | append_singleton before call ih =>
      have isCall : call ∈ calls := isPrefix.subset (List.mem_append_right _ (List.mem_singleton_self call))
      obtain ⟨entry, isTold, fits⟩ := kept.posts call isCall
      rw [run_posts_snoc]
      exact (returned_call python author call _ entry (authored call isCall)
        (ih ((List.prefix_append before [call]).trans isPrefix))
        kept.author.1 isTold fits (all_return_each _ _ db calls before call returned isPrefix)).1

theorem returned_runs :
    Runs 5 (fun call : PostCall => scoreTold call.event)
      (fun before => topEntries author (runPosts python db before)) calls := by
  refine ⟨?_, fun before call isPrefix => ?_⟩
  · change topEntries author db = []
    rw [topEntries, ReadModel.byRank, empty]
    rfl
  · have isCall : call ∈ calls := isPrefix.subset (List.mem_append_right _ (List.mem_singleton_self call))
    have distinct := returned_distinct python author db calls empty authored kept returned before
      ((List.prefix_append before [call]).trans isPrefix)
    obtain ⟨entry, isTold, fits⟩ := kept.posts call isCall
    refine ⟨entry, isTold, ?_⟩
    dsimp only
    rw [run_posts_snoc]
    exact (returned_call python author call _ entry (authored call isCall) distinct kept.author.1 isTold fits
      (all_return_each _ _ db calls before call returned isPrefix)).2

end Run

-- The rows are the real top five all along exactly when no event takes a post on the shelf
-- below one that the shelf has forgotten.
theorem top_five_iff (python : Interpreter) (author : String) (db : ReadModel) (calls : List PostCall)
    (empty : db.shelf author = [])
    (authored : ∀ call ∈ calls, call.event.get "author_id" = some (.str author)) (kept : ScoresKept author calls)
    (returned : Returned python db calls) :
    (∀ before : List PostCall, before <+: calls →
        IsTop 5 (before.filterMap fun call : PostCall => scoreTold call.event)
          (topEntries author (runPosts python db before))) ↔
      ∀ (before : List PostCall) call entry, before ++ [call] <+: calls → scoreTold call.event = some entry →
        ¬ Falls (before.filterMap fun call : PostCall => scoreTold call.event)
          (topEntries author (runPosts python db before)) entry :=
  run_top_iff 5 _ (fun before => topEntries author (runPosts python db before)) calls
    (returned_runs python author db calls empty authored kept returned)

-- Six posts, the last of them forgotten at once, and then a fall of the first.
def fallenFirst : List PostCall :=
  [⟨.sample 1, reaction "u1" "p1" 10, []⟩, ⟨.sample 2, reaction "u1" "p2" 9, []⟩, ⟨.sample 3, reaction "u1" "p3" 8, []⟩,
    ⟨.sample 4, reaction "u1" "p4" 7, []⟩, ⟨.sample 5, reaction "u1" "p5" 6, []⟩, ⟨.sample 6, reaction "u1" "p6" 5, []⟩,
    ⟨.sample 7, reaction "u1" "p1" 0, []⟩]

theorem fallen_first_not_top :
    Returned .sample .empty fallenFirst ∧
      ¬ IsTop 5 (fallenFirst.filterMap fun call : PostCall => scoreTold call.event)
        (topEntries "u1" (runPosts .sample .empty fallenFirst)) := by
  refine ⟨by decide, fun top => ?_⟩
  have forgotten := top.best "p6" 5 (by decide) (by decide) ("p1", 0) (by decide)
  exact absurd forgotten (by decide)

-- The first six of these calls keep to the condition.
theorem first_six_top :
    (∀ before : List PostCall, before <+: fallenFirst.take 6 →
        IsTop 5 (before.filterMap fun call : PostCall => scoreTold call.event)
          (topEntries "u1" (runPosts .sample .empty before))) ↔
      ∀ (before : List PostCall) call entry, before ++ [call] <+: fallenFirst.take 6 →
        scoreTold call.event = some entry →
        ¬ Falls (before.filterMap fun call : PostCall => scoreTold call.event)
          (topEntries "u1" (runPosts .sample .empty before)) entry :=
  top_five_iff .sample "u1" .empty (fallenFirst.take 6) rfl (by simp [fallenFirst, reaction, Value.get])
    ⟨by decide, fun call member => by
      simp only [fallenFirst, List.take_succ_cons, List.take_zero, List.mem_cons, List.not_mem_nil, or_false] at member
      rcases member with rfl | rfl | rfl | rfl | rfl | rfl <;> exact ⟨_, rfl, by decide⟩⟩ (by decide)

end AuthProfile
