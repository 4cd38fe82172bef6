import AuthProfile.TopFive

set_option autoImplicit false

namespace AuthProfile

open Relation Process ProfileRepository TopList

def Profile.topEntries (profile : Profile) : List (String × Int) :=
  (profile.topPosts.map TopPost.placed).map Placed.entry

-- A list of posts that have just been given their places.
theorem placed_posts (posts : List TopPost) :
    (Profile.rankPosts posts).map TopPost.placed = Placed.place (posts.map fun post => post.placed.entry) := by
  rw [Profile.rankPosts, Placed.place, List.zipIdx_map, List.map_map, List.map_map]
  rfl

theorem profile_upserts (profile : Profile) (candidate : TopPost) :
    Upserts 5 profile.topEntries candidate.placed.entry (profile.upsertTopPosts candidate).topEntries ∧
      (profile.upsertTopPosts candidate).topPosts.map TopPost.placed =
        Placed.place (profile.upsertTopPosts candidate).topEntries := by
  have total : Std.Total fun a b : TopPost => b.feedbackScore ≤ a.feedbackScore := ⟨fun a b => le_total _ _⟩
  have trans : IsTrans TopPost fun a b => b.feedbackScore ≤ a.feedbackScore := ⟨fun a b c ab bc => le_trans bc ab⟩
  let posts := (profile.topPosts.filter fun post => post.postId ≠ candidate.postId) ++ [candidate]
  let sorted := posts.insertionSort fun a b => b.feedbackScore ≤ a.feedbackScore
  have isCandidates : posts.map (fun post => post.placed.entry) =
      candidates profile.topEntries candidate.placed.entry := by
    simp only [posts, candidates, Profile.topEntries, List.map_map, List.map_append, List.filter_map]
    rfl
  have placed : (profile.upsertTopPosts candidate).topPosts.map TopPost.placed =
      Placed.place ((sorted.map fun post => post.placed.entry).take 5) := by
    rw [← List.map_take]
    exact placed_posts (sorted.take 5)
  have isEntries : (profile.upsertTopPosts candidate).topEntries =
      (sorted.map fun post => post.placed.entry).take 5 := by
    rw [Profile.topEntries, placed, Placed.place_entries]
  refine ⟨⟨_, isCandidates ▸ (List.perm_insertionSort _ posts).map _, ?_, isEntries⟩, isEntries ▸ placed⟩
  rw [List.pairwise_map]
  exact List.pairwise_insertionSort _ posts

-- A candidate for the shelf, with what the repository draws for it.
structure Candidate where
  io : Circumstances
  postId : String
  feedbackScore : Int
  script : List Fault

namespace Candidate

variable (userId : String) (python : Interpreter) (candidate : Candidate)

def entry : String × Int := (candidate.postId, candidate.feedbackScore)

def topPost : TopPost := ⟨candidate.io.rowId.text, userId, candidate.postId, candidate.feedbackScore, 0⟩

def upsert : Prog ReadModel Error Unit :=
  upsertTopPost candidate.io python (.str userId) (.str candidate.postId) (.int candidate.feedbackScore)

end Candidate

section Folds

variable (userId : String) (python : Interpreter)

def foldProfile (profile : Profile) (sequence : List Candidate) : Profile :=
  sequence.foldl (fun profile candidate => profile.upsertTopPosts (candidate.topPost userId)) profile

def foldTable (db : ReadModel) (sequence : List Candidate) : ReadModel :=
  runAll (Candidate.upsert userId python) Candidate.script db sequence

theorem top_entries_placed (db : ReadModel) (entries : List (String × Int))
    (placed : db.byRank userId = Placed.place entries) :
    db.byRank userId = Placed.place (topEntries userId db) := by
  rw [topEntries, placed, Placed.place_entries]

section Step

variable (candidate : Candidate) (db : ReadModel) (wellFormed : Placed.WellFormed 5 (db.byRank userId))
  (userFits : Varchar.Fits 36 userId)
  (returned : ((candidate.upsert userId python).exec candidate.script db).result = .ok ())

include wellFormed userFits returned

-- An upsert that returns, of a post whose id the column keeps.
theorem candidate_upserts (postFits : Varchar.Fits 36 candidate.postId) :
    let after := ((candidate.upsert userId python).exec candidate.script db).store
    Placed.WellFormed 5 (after.byRank userId) ∧
      Upserts 5 (topEntries userId db) candidate.entry (topEntries userId after) ∧
      after.byRank userId = Placed.place (topEntries userId after) := by
  obtain ⟨score, written, bound, _, _, upsert⟩ :=
    Prog.wp_exec _ _ _ (upsert_returned db candidate.io python userId ⟨candidate.postId,
      .int candidate.feedbackScore⟩ userFits.1)
      candidate.script returned
  have distinct : ((db.shelf userId).map Placed.key).Nodup :=
    ((db.by_rank_perm userId).map Placed.key).nodup_iff.mp wellFormed.distinct
  have isRows : Posting.written ⟨candidate.postId, .int candidate.feedbackScore⟩ (db.shelf userId) score.value =
      Placed.write (db.shelf userId) candidate.entry := by
    rw [Posting.written_apart _ _ _ (fun _ => postFits) (fun _ => postFits),
      score_int python candidate.postId _ _ score bound]
    exact congrArg (fun id => Placed.write (db.shelf userId) (id, candidate.feedbackScore))
      (Varchar.cut_short 36 _ postFits.1)
  rw [isRows] at upsert
  obtain ⟨entries, _, _, placed⟩ := upsert_by_rank userId _ _ db written _ upsert
  exact ⟨upsert_well_formed userId _ _ db written _ upsert (Placed.write_distinct _ candidate.entry distinct),
    upsert_upserts userId _ _ db written _ upsert distinct, top_entries_placed userId _ _ placed⟩

-- One of a post whose id is cut, and that is below the five that are there.
theorem candidate_refused (placed : db.byRank userId = Placed.place (topEntries userId db))
    (scoresDiffer : ((candidates (topEntries userId db) candidate.entry).map Prod.snd).Nodup)
    (cut : ¬ Varchar.Fits 36 candidate.postId) (refused : ¬ Enters 5 (topEntries userId db) candidate.entry) :
    ((candidate.upsert userId python).exec candidate.script db).store.byRank userId = db.byRank userId ∧
      ∀ after, Upserts 5 (topEntries userId db) candidate.entry after → after = topEntries userId db := by
  obtain ⟨score, written, bound, _, _, upsert⟩ :=
    Prog.wp_exec _ _ _ (upsert_returned db candidate.io python userId ⟨candidate.postId,
      .int candidate.feedbackScore⟩ userFits.1)
      candidate.script returned
  have isScore := score_int python candidate.postId candidate.feedbackScore _ score bound
  have unknown : candidate.postId ∉ (db.shelf userId).map Placed.key := fun member =>
    cut (ReadModel.shelf_key_fits db userId _ member)
  have sameKeys : (keys (topEntries userId db)).Perm ((db.shelf userId).map Placed.key) := by
    rw [keys, topEntries, List.map_map]
    exact (db.by_rank_perm userId).map Placed.key
  have absent : candidate.entry.1 ∉ keys (topEntries userId db) := fun member => unknown (sameKeys.mem_iff.mp member)
  have short : (topEntries userId db).length ≤ 5 := by
    rw [topEntries, List.length_map]
    exact wellFormed.short
  obtain ⟨full, lower⟩ := refused_lower 5 _ _ short absent scoresDiffer refused
  have scores : ((topEntries userId db).map Prod.snd).Nodup := by
    rw [candidates_fresh _ _ absent, List.map_append] at scoresDiffer
    exact (List.nodup_append.mp scoresDiffer).1
  have falling := falls_strictly (topEntries userId db) scores (List.pairwise_map.mpr wellFormed.falling)
  constructor
  · obtain ⟨entries, perm, sorted, settled⟩ := upsert_by_rank userId _ _ db written _ upsert
    have isRows : Posting.written ⟨candidate.postId, .int candidate.feedbackScore⟩ (db.shelf userId) score.value =
        db.shelf userId ++ [⟨Varchar.cut 36 candidate.postId, candidate.feedbackScore, 0⟩] := by
      rw [Posting.written, if_neg unknown, isScore]
    rw [isRows, List.map_append] at perm
    have arranged := perm.trans (((db.by_rank_perm userId).map Placed.entry).symm.append_right _)
    have first := first_of_lower (topEntries userId db) _ entries arranged sorted falling lower
    rw [full] at first
    rw [first, ← placed] at settled
    exact settled
  · rintro after ⟨arranged, perm, sorted, rfl⟩
    rw [candidates_fresh _ _ absent] at perm
    have first := first_of_lower (topEntries userId db) _ arranged perm sorted falling lower
    rwa [full] at first

end Step

variable (profile : Profile) (db : ReadModel) (sequence : List Candidate) (emptyList : profile.topPosts = [])
  (emptyTable : db.topPosts.rows = [])
  (scoresDiffer : ∀ before candidate, before ++ [candidate] <+: sequence →
    ((candidates (foldProfile userId profile before).topEntries candidate.entry).map Prod.snd).Nodup)
  (returned : AllReturn (Candidate.upsert userId python) Candidate.script db sequence)

-- The columns keep the ids of every candidate that gets into the list.
def EnteringKept : Prop := ∀ before candidate, before ++ [candidate] <+: sequence →
  Enters 5 (foldProfile userId profile before).topEntries candidate.entry →
    Varchar.Fits 36 userId ∧ Varchar.Fits 36 candidate.postId

structure FoldsAgree (before : List Candidate) : Prop where
  same : (foldProfile userId profile before).topPosts.map TopPost.placed =
    (foldTable userId python db before).byRank userId
  wellFormed : Placed.WellFormed 5 ((foldTable userId python db before).byRank userId)
  placed : (foldTable userId python db before).byRank userId =
    Placed.place (topEntries userId (foldTable userId python db before))

theorem fold_profile_snoc (before : List Candidate) (candidate : Candidate) :
    foldProfile userId profile (before ++ [candidate]) =
      (foldProfile userId profile before).upsertTopPosts (candidate.topPost userId) := List.foldl_append

theorem fold_table_snoc (before : List Candidate) (candidate : Candidate) :
    foldTable userId python db (before ++ [candidate]) =
      ((candidate.upsert userId python).exec candidate.script (foldTable userId python db before)).store :=
        run_all_snoc _ _ db before candidate

include emptyList emptyTable scoresDiffer returned

theorem folds_agree (kept : EnteringKept userId profile sequence) (before : List Candidate)
    (isPrefix : before <+: sequence) :
    FoldsAgree userId python profile db before := by
  induction before using List.reverseRecOn with
  | nil =>
      have emptyRank : db.byRank userId = [] := by
        rw [ReadModel.byRank, ReadModel.shelf, ReadModel.postsOf, emptyTable]
        rfl
      refine ⟨?_, ?_, ?_⟩
      · change profile.topPosts.map TopPost.placed = db.byRank userId
        rw [emptyList, emptyRank]
        rfl
      · change Placed.WellFormed 5 (db.byRank userId)
        rw [emptyRank]
        exact ⟨Nat.zero_le _, List.nodup_nil, List.Pairwise.nil, rfl⟩
      · change db.byRank userId = Placed.place ((db.byRank userId).map Placed.entry)
        rw [emptyRank]
        rfl
  | append_singleton before candidate ih =>
      have earlier := ih ((List.prefix_append before [candidate]).trans isPrefix)
      have returns := all_return_each _ _ db sequence before candidate returned isPrefix
      obtain ⟨profileUpserts, profilePlaced⟩ :=
        profile_upserts (foldProfile userId profile before) (candidate.topPost userId)
      rw [← fold_profile_snoc] at profileUpserts profilePlaced
      have sameEntries : (foldProfile userId profile before).topEntries =
          topEntries userId (foldTable userId python db before) := by
        rw [Profile.topEntries, earlier.same, topEntries]
      have oneArrangement := scoresDiffer before candidate isPrefix
      -- the first candidate of all gets into the list
      have userFits : Varchar.Fits 36 userId := by
        obtain ⟨first, rest, isFirst⟩ : ∃ first rest, before ++ [candidate] = first :: rest :=
          List.exists_cons_of_ne_nil (List.append_ne_nil_of_right_ne_nil before (List.cons_ne_nil _ _))
        have starts : [] ++ [first] <+: sequence := List.IsPrefix.trans ⟨rest, isFirst.symm⟩ isPrefix
        refine (kept [] first starts (Or.inl ?_)).1
        change (candidates profile.topEntries first.entry).length ≤ 5
        rw [Profile.topEntries, emptyList]
        exact Nat.le_add_left 1 4
      rw [sameEntries] at profileUpserts oneArrangement
      by_cases postFits : Varchar.Fits 36 candidate.postId
      · obtain ⟨wellFormed, upserts, placed⟩ :=
          candidate_upserts userId python candidate _ earlier.wellFormed userFits returns postFits
        have sameAfter := upserts_unique 5 _ _ candidate.entry _ oneArrangement profileUpserts upserts
        rw [← fold_table_snoc] at wellFormed placed sameAfter
        exact ⟨(profilePlaced.trans (congrArg Placed.place sameAfter)).trans placed.symm, wellFormed, placed⟩
      · have refused : ¬ Enters 5 (topEntries userId (foldTable userId python db before)) candidate.entry :=
          fun enters => postFits (kept before candidate isPrefix (sameEntries ▸ enters)).2
        obtain ⟨sameRank, unchanged⟩ :=
          candidate_refused userId python candidate _ earlier.wellFormed userFits returns earlier.placed
          oneArrangement postFits refused
        rw [← fold_table_snoc] at sameRank
        refine ⟨?_, sameRank ▸ earlier.wellFormed, ?_⟩
        · rw [profilePlaced, unchanged _ profileUpserts, sameRank]
          exact earlier.placed.symm
        · rw [topEntries, sameRank]
          exact earlier.placed

end Folds

section Listed

variable (userId : String) (profile : Profile)

theorem profile_short (emptyList : profile.topPosts = []) (before : List Candidate) :
    (foldProfile userId profile before).topEntries.length ≤ 5 := by
  cases before using List.reverseRecOn with
  | nil =>
      change profile.topEntries.length ≤ 5
      rw [Profile.topEntries, emptyList]
      exact Nat.zero_le _
  | append_singleton before candidate =>
      obtain ⟨⟨arranged, _, _, isTop⟩, _⟩ :=
        profile_upserts (foldProfile userId profile before) (candidate.topPost userId)
      rw [fold_profile_snoc, isTop]
      exact List.length_take_le 5 arranged

theorem listed_fits (db : ReadModel) (post : String) (listed : post ∈ (db.byRank userId).map Placed.key) :
    Varchar.Fits 36 userId ∧ Varchar.Fits 36 post := by
  have onShelf := ((db.by_rank_perm userId).map Placed.key).mem_iff.mp listed
  have postFits := ReadModel.shelf_key_fits db userId post onShelf
  rw [ReadModel.shelf_keys] at onShelf
  obtain ⟨row, isRow, _⟩ := List.mem_map.mp onShelf
  exact ⟨((ReadModel.mem_posts_of db userId row).mp isRow).2 ▸ row.userId.fits, postFits⟩

end Listed

-- The list in memory and the rows by rank are the same posts with the same scores and ranks all
-- along exactly when the columns keep the ids of what gets into the list.
theorem implementations_agree_iff (userId : String) (python : Interpreter) (profile : Profile) (db : ReadModel)
    (sequence : List Candidate) (emptyList : profile.topPosts = []) (emptyTable : db.topPosts.rows = [])
    (scoresDiffer : ∀ before candidate, before ++ [candidate] <+: sequence →
      ((candidates (foldProfile userId profile before).topEntries candidate.entry).map Prod.snd).Nodup)
    (returned : AllReturn (Candidate.upsert userId python) Candidate.script db sequence) :
    (∀ before, before <+: sequence →
        (foldProfile userId profile before).topPosts.map TopPost.placed =
          (foldTable userId python db before).byRank userId) ↔
      EnteringKept userId profile sequence := by
  constructor
  · intro agree before candidate isPrefix enters
    obtain ⟨upserts, _⟩ := profile_upserts (foldProfile userId profile before) (candidate.topPost userId)
    have entered := enters_member 5 _ _ candidate.entry (profile_short userId profile emptyList before) upserts enters
    rw [← fold_profile_snoc, Profile.topEntries, agree _ isPrefix] at entered
    obtain ⟨row, isRow, isEntry⟩ := List.mem_map.mp entered
    exact listed_fits userId _ candidate.postId (List.mem_map.mpr ⟨row, isRow, congrArg Prod.fst isEntry⟩)
  · intro kept before isPrefix
    exact (folds_agree userId python profile db sequence emptyList emptyTable scoresDiffer returned kept
      before isPrefix).same

-- Six posts and a later score for the first of them.
def sixAndAgain : List Candidate :=
  [⟨.sample 1, "p1", 10, []⟩, ⟨.sample 2, "p2", 9, []⟩, ⟨.sample 3, "p3", 8, []⟩, ⟨.sample 4, "p4", 7, []⟩,
    ⟨.sample 5, "p5", 6, []⟩,
    ⟨.sample 6, "p6", 5, []⟩, ⟨.sample 7, "p1", 1, []⟩]

def blankProfile : Profile := ⟨"u1", "", "", false, [], [], [], 0⟩

def oneProfile : ReadModel := ((createIfMissing (.sample 0) (.str "u1") (.str "")).exec [] .empty).store

theorem each_step {α : Type} (sequence : List α) (holds : List α → α → Prop)
    (each : ∀ i (inside : i < sequence.length), holds (sequence.take i) sequence[i]) (before : List α) (last : α)
    (isPrefix : before ++ [last] <+: sequence) : holds before last := by
  obtain ⟨later, rfl⟩ := isPrefix
  have here := each before.length (by simp)
  simpa using here

theorem six_and_again_agree :
    (foldProfile "u1" blankProfile sixAndAgain).topPosts.map TopPost.placed =
      (foldTable "u1" .sample oneProfile sixAndAgain).byRank "u1" :=
  (implementations_agree_iff "u1" .sample blankProfile oneProfile sixAndAgain rfl (by decide)
    (each_step sixAndAgain _ (by decide)) (by decide)).mpr
      (fun before candidate isPrefix _ => each_step sixAndAgain
        (fun _ candidate => Varchar.Fits 36 "u1" ∧ Varchar.Fits 36 candidate.postId)
          (by decide) before candidate isPrefix)
      sixAndAgain (List.prefix_refl _)

-- A post whose id has a space past the thirty-sixth character.
def spacedPost : Candidate := ⟨.sample 1, String.ofList (List.replicate 36 'p' ++ [' ']), 1, []⟩

theorem spaced_post_disagrees :
    AllReturn (Candidate.upsert "u1" .sample) Candidate.script oneProfile [spacedPost] ∧
      (foldProfile "u1" blankProfile [spacedPost]).topPosts.map TopPost.placed ≠
        (foldTable "u1" .sample oneProfile [spacedPost]).byRank "u1" := by
  decide +kernel

end AuthProfile
