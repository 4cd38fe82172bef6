import AuthProfile.Db.ProfileSteps
import AuthProfile.TopList

set_option autoImplicit false

namespace AuthProfile

open Relation Process ProfileRepository TopList

def TopPostRow.placed (row : TopPostRow) : Placed String Int := ⟨row.postId.text, row.feedbackScore.value, row.rank⟩

def TopPost.placed (post : TopPost) : Placed String Int := ⟨post.postId, post.feedbackScore, post.rank⟩

def TopPostRow.ranked (row : TopPostRow) (i : Nat) : TopPostRow := { row with rank := i }

theorem scalar_rows {α : Type} (found : List α) (existing : Option α) (one : scalarOneOrNone found = .ok existing) :
    found = existing.toList := by
  match found, one with
  | [], rfl => rfl
  | [_], rfl => rfl

theorem scalar_few {α : Type} (found : List α) (few : found.length ≤ 1) :
    ∃ existing, scalarOneOrNone found = .ok existing := by
  match found, few with
  | [], _ => exact ⟨none, rfl⟩
  | [row], _ => exact ⟨some row, rfl⟩

namespace ReadModel

-- The author's rows of top_posts, as the algorithm sees them.
def shelf (author : String) (db : ReadModel) : List (Placed String Int) :=
  (db.postsOf (some author)).map TopPostRow.placed

def byRank (author : String) (db : ReadModel) : List (Placed String Int) :=
  (db.shelf author).insertionSort fun a b => a.rank ≤ b.rank

section Effects

variable (db after : ReadModel)

structure PostAdded (row : TopPostRow) : Prop where
  rows : after.topPosts.rows = db.topPosts.rows ++ [row]
  profiles : after.profiles = db.profiles

theorem insert_top_post_runs (row : TopPostRow) (fresh : key row ∉ db.topPosts.keys)
    (known : row.userId.text ∈ db.profiles.keys) :
    ∃ after, db.insertTopPost row = .ok after ∧ PostAdded db after row := by
  simp only [insertTopPost]
  split
  · rename_i refused
    exact absurd ((Table.insert_none_iff row db.topPosts).mp refused) fresh
  · rename_i posts inserted
    rw [dif_pos known]
    exact ⟨_, rfl, ((Table.insert_some_iff row db.topPosts posts).mp inserted).2, rfl⟩

theorem insert_top_post_ok (row : TopPostRow) (run : db.insertTopPost row = .ok after) : PostAdded db after row := by
  simp only [insertTopPost] at run
  split at run
  · cases run
  · rename_i posts inserted
    split at run
    · cases run
      exact ⟨((Table.insert_some_iff row db.topPosts posts).mp inserted).2, rfl⟩
    · cases run

theorem update_score_runs (row : TopPostRow) (score : Int4) (member : row ∈ db.topPosts.rows) :
    ∃ after, db.updateScore row.id.text score = .ok after ∧ after.profiles = db.profiles ∧
      after.topPosts.rows = db.topPosts.rows.map fun old =>
        if key old = key row then { row with feedbackScore := score } else old := by
  have found : db.topPosts.find row.id.text = some row := Table.find_self db.topPosts row member
  simp only [updateScore]
  split
  · rename_i absent
    rw [found] at absent
    cases absent
  · rename_i other isOther
    rw [found, Option.some.injEq] at isOther
    subst isOther
    exact ⟨_, rfl, rfl, rfl⟩

theorem shelf_added (author : String) (row : TopPostRow) (added : PostAdded db after row)
    (isAuthor : row.userId.text = author) :
    after.shelf author = db.shelf author ++ [row.placed] := by
  rw [shelf, postsOf, added.rows, List.filter_append, List.map_append]
  simp [isAuthor, shelf, postsOf]

theorem shelf_same (author : String) (same : after.topPosts = db.topPosts) : after.shelf author = db.shelf author := by
  rw [shelf, postsOf, same, shelf, postsOf]

theorem by_rank_perm (author : String) : (db.byRank author).Perm (db.shelf author) := List.perm_insertionSort _ _

theorem by_rank_ordered (author : String) : (db.byRank author).Pairwise fun a b => a.rank ≤ b.rank := by
  have : Std.Total fun a b : Placed String Int => a.rank ≤ b.rank := ⟨fun a b => Nat.le_total _ _⟩
  have : IsTrans (Placed String Int) fun a b => a.rank ≤ b.rank := ⟨fun a b c => Nat.le_trans⟩
  exact List.pairwise_insertionSort _ _

theorem by_rank_settled (author : String) (settled : List (Placed String Int)) (perm : (db.shelf author).Perm settled)
    (ranks : settled.map Placed.rank = List.range' 1 settled.length) : db.byRank author = settled :=
  Placed.read_settled (db.shelf author) settled _ perm.symm ranks (db.by_rank_perm author) (db.by_rank_ordered author)

theorem mem_posts_of (author : String) (row : TopPostRow) :
    row ∈ db.postsOf (some author) ↔ row ∈ db.topPosts.rows ∧ row.userId.text = author := by
  simp [postsOf]

theorem shelf_keys (author : String) :
    (db.shelf author).map Placed.key = (db.postsOf (some author)).map fun row => row.postId.text := by
  rw [shelf, List.map_map]
  rfl

theorem posts_named_filter (author post : String) :
    db.postsNamed (some author) (some post) = (db.postsOf (some author)).filter fun row => row.postId.text = post := by
  rw [postsNamed, postsOf, List.filter_filter]
  apply List.filter_congr
  intro row _
  simp [Bool.and_comm]

theorem posts_named_length (author post : String) :
    (db.postsNamed (some author) (some post)).length = ((db.shelf author).map Placed.key).count post := by
  rw [shelf_keys, posts_named_filter, List.count_eq_countP, List.countP_map, List.countP_eq_length_filter]
  congr 1

theorem named_none (author post : String) (nobody : db.postsNamed (some author) (some post) = []) :
    post ∉ (db.shelf author).map Placed.key := by
  rw [← List.count_eq_zero, ← posts_named_length, nobody]
  rfl

-- The only row of the author that names the post.
structure Named (author : String) (row : TopPostRow) : Prop where
  listed : row ∈ db.postsOf (some author)
  only : ∀ old ∈ db.postsOf (some author), old.postId.text = row.postId.text → old = row

theorem named_one (author post : String) (row : TopPostRow) (found : db.postsNamed (some author) (some post) = [row]) :
    row.postId.text = post ∧ Named db author row := by
  rw [posts_named_filter] at found
  have isRow : row ∈ (db.postsOf (some author)).filter fun row => row.postId.text = post := by
    rw [found]
    exact List.mem_singleton_self row
  obtain ⟨listed, isPost⟩ := List.mem_filter.mp isRow
  have isText : row.postId.text = post := by simpa using isPost
  refine ⟨isText, listed, fun old isOld same => ?_⟩
  have isNamed : old ∈ (db.postsOf (some author)).filter fun row => row.postId.text = post :=
    List.mem_filter.mpr ⟨isOld, by simpa using same.trans isText⟩
  rw [found] at isNamed
  exact List.mem_singleton.mp isNamed

theorem named_key (author : String) (row : TopPostRow) (named : Named db author row) :
    row.postId.text ∈ (db.shelf author).map Placed.key := by
  rw [shelf_keys]
  exact List.mem_map_of_mem named.listed

theorem shelf_rescored (author : String) (row : TopPostRow) (score : Int4) (named : Named db author row)
    (rows : after.topPosts.rows =
      db.topPosts.rows.map fun old => if key old = key row then { row with feedbackScore := score } else old) :
    after.shelf author = Placed.write (db.shelf author) (row.postId.text, score.value) := by
  have listed := (mem_posts_of db author row).mp named.listed
  have only : ∀ old ∈ db.topPosts.rows, key old = key row → old = row := fun old oldMember same =>
    List.inj_on_of_nodup_map db.topPosts.distinct oldMember listed.1 same
  have moved : after.postsOf (some author) =
      (db.postsOf (some author)).map fun old => if key old = key row then { row with feedbackScore := score }
        else old := by
    rw [postsOf, rows, List.filter_map, postsOf]
    congr 1
    apply List.filter_congr
    intro old oldMember
    by_cases hit : key old = key row
    · simp [only old oldMember hit]
    · simp [hit]
  rw [Placed.write_known _ _ (named_key db author row named), shelf, moved, List.map_map, shelf, List.map_map]
  apply List.map_congr_left
  intro old isOld
  by_cases hit : key old = key row
  · have isRow := only old ((mem_posts_of db author old).mp isOld).1 hit
    simp [isRow, TopPostRow.placed]
  · have different : old.postId.text ≠ row.postId.text := fun same => hit (congrArg key (named.only old isOld same))
    simp [hit, TopPostRow.placed, different]

-- What a transaction on top_posts leaves as it was.
structure PostsKept (id : String) : Prop where
  profiles : after.profiles = db.profiles
  keys : ∀ other ∈ after.topPosts.keys, other ∈ db.topPosts.keys ∨ other = id

end Effects

end ReadModel

-- A post and the score reported for it.
structure Posting where
  post : String
  feedbackScore : Value

namespace Posting

variable (python : Interpreter) (posting : Posting) (rows : List (Placed String Int))

-- The score that an upsert would write: for a post without a row, None is the default.
def score : Except Error Int4 :=
  if posting.post ∈ rows.map Placed.key then Int4.bindValue "feedback_score" python.truncate posting.feedbackScore
  else Int4.bindNew "feedback_score" python.truncate TopPostRow.defaultScore posting.feedbackScore

-- What the first transaction makes of the author's rows. The post is looked up under its id as
-- given and inserted under its id as cut.
def written (n : Int) : List (Placed String Int) :=
  if posting.post ∈ rows.map Placed.key then Placed.write rows (posting.post, n)
  else rows ++ [⟨Varchar.cut 36 posting.post, n, 0⟩]

-- The id is not cut to that of a post among the rows.
def Apart : Prop := Varchar.cut 36 posting.post ∈ rows.map Placed.key → Varchar.Fits 36 posting.post

theorem written_apart (n : Int) (apart : posting.Apart rows)
    (known : posting.post ∈ rows.map Placed.key → Varchar.Fits 36 posting.post) :
    posting.written rows n = Placed.write rows (Varchar.cut 36 posting.post, n) := by
  rw [written]
  by_cases here : posting.post ∈ rows.map Placed.key
  · rw [if_pos here, Varchar.cut_short 36 posting.post (known here).1]
  · have unknown : Varchar.cut 36 posting.post ∉ rows.map Placed.key := fun member =>
      here (Varchar.cut_short 36 posting.post (apart member).1 ▸ member)
    rw [if_neg here, Placed.write, if_neg unknown]

end Posting

namespace ReadModel

section Score

variable (db after : ReadModel) (io : Circumstances) (python : Interpreter) (author : String) (posting : Posting)
    (score : Int4)

theorem shelf_key_fits (post : String) (known : post ∈ (db.shelf author).map Placed.key) : Varchar.Fits 36 post := by
  rw [shelf_keys] at known
  obtain ⟨row, _, rfl⟩ := List.mem_map.mp known
  exact row.postId.fits

theorem score_inserted (short : author.length ≤ 36)
    (stored : (TopPostRow.new io (.str author) (.str posting.post) score >>= fun row => db.insertTopPost row) =
      .ok after) :
    Varchar.Takes 36 posting.post ∧
      after.shelf author = db.shelf author ++ [⟨Varchar.cut 36 posting.post, score.value, 0⟩] ∧
      PostsKept db after io.rowId.text := by
  obtain ⟨row, isNew, inserted⟩ := (except_bind_ok _ _ _).mp stored
  have added := insert_top_post_ok db after row inserted
  simp only [TopPostRow.new, except_bind_ok] at isNew
  obtain ⟨owner, isOwner, named, isNamed, same⟩ := isNew
  cases same
  have ownerText : owner.text = author :=
    (bind_text_ok 36 _ author owner isOwner).2.trans (Varchar.cut_short 36 author short)
  obtain ⟨taken, postText⟩ := bind_text_ok 36 _ posting.post named isNamed
  refine ⟨taken, ?_, added.profiles, fun other =>
    (Table.mem_keys_added _ db.topPosts after.topPosts added.rows other).mp⟩
  rw [shelf_added db after author _ added ownerText, ← postText]
  rfl

-- To write the score that is there changes nothing.
theorem score_again (row : TopPostRow) (named : Named db author row) :
    Placed.write (db.shelf author) (row.postId.text, row.feedbackScore.value) = db.shelf author := by
  rw [Placed.write_known _ _ (named_key db author row named)]
  conv_rhs => rw [← List.map_id (db.shelf author)]
  apply List.map_congr_left
  intro placed isPlaced
  by_cases here : placed.key = row.postId.text
  · obtain ⟨old, isOld, rfl⟩ := List.mem_map.mp isPlaced
    have isSame := named.only old isOld here
    simp [isSame, TopPostRow.placed]
  · simp [here]

-- The first transaction of an upsert.
theorem score_stored (existing : Option TopPostRow) (short : author.length ≤ 36)
    (isExisting : scalarOneOrNone (db.postsNamed (some author) (some posting.post)) = .ok existing)
    (stored : storeScore io python (.str author) (.str posting.post) posting.feedbackScore existing db = .ok after) :
    ∃ score, posting.score python (db.shelf author) = .ok score ∧ Varchar.Takes 36 posting.post ∧
      after.shelf author = posting.written (db.shelf author) score.value ∧ PostsKept db after io.rowId.text := by
  have found := scalar_rows _ existing isExisting
  cases existing with
  | none =>
      have unknown := named_none db author posting.post found
      obtain ⟨score, bound, inserted⟩ := (except_bind_ok _ _ _).mp stored
      obtain ⟨taken, grown, kept⟩ := score_inserted db after io author posting score short inserted
      exact ⟨score, (if_neg unknown).trans bound, taken, grown.trans (if_neg unknown).symm, kept⟩
  | some row =>
      obtain ⟨isPost, named⟩ := named_one db author posting.post row found
      have known : posting.post ∈ (db.shelf author).map Placed.key := isPost ▸ named_key db author row named
      obtain ⟨score, bound, written⟩ := (except_bind_ok _ _ _).mp stored
      refine ⟨score, (if_pos known).trans bound, Varchar.takes_fits 36 _ (shelf_key_fits db author _ known), ?_⟩
      rw [Posting.written, if_pos known, ← isPost]
      by_cases same : score = row.feedbackScore
      · have unchanged : db = after := Except.ok.inj ((if_pos same).symm.trans written)
        subst unchanged same
        exact ⟨(score_again db author row named).symm, rfl, fun _ member => Or.inl member⟩
      · have listed := (mem_posts_of db author row).mp named.listed
        obtain ⟨later, updated, profiles, rows⟩ := db.update_score_runs row score listed.1
        have isLater : later = after := Except.ok.inj (updated.symm.trans ((if_neg same).symm.trans written))
        subst isLater
        have keys := (update_score_only db later row.id.text score updated).2
        exact ⟨shelf_rescored db later author row score named rows, profiles,
          fun other member => Or.inl (keys ▸ member)⟩

theorem store_score_runs (existing : Option TopPostRow) (bound : posting.score python (db.shelf author) = .ok score)
    (taken : Varchar.Takes 36 posting.post) (known : author ∈ db.profiles.keys)
    (fresh : io.rowId.text ∉ db.topPosts.keys)
    (isExisting : scalarOneOrNone (db.postsNamed (some author) (some posting.post)) = .ok existing) :
    ∃ after, storeScore io python (.str author) (.str posting.post) posting.feedbackScore existing db = .ok after := by
  have found := scalar_rows _ existing isExisting
  cases existing with
  | none =>
      have authorFits : Varchar.Fits 36 author := by
        obtain ⟨profile, _, isKey⟩ := List.mem_map.mp known
        exact isKey ▸ profile.userId.fits
      let row : TopPostRow :=
        ⟨io.rowId, ⟨author, authorFits⟩, ⟨Varchar.cut 36 posting.post, Varchar.cut_fits 36 _ taken.1⟩, score, 0⟩
      obtain ⟨after, inserted, _⟩ := db.insert_top_post_runs row fresh known
      have isNew : TopPostRow.new io (.str author) (.str posting.post) score = .ok row := by
        rw [TopPostRow.new, Varchar.bindValue, Varchar.store_fits 36 _ author authorFits, Varchar.bindValue,
          Varchar.store,
          dif_pos taken]
        rfl
      refine ⟨after, (except_bind_ok _ _ _).mpr ⟨score, (if_neg (named_none db author _ found)).symm.trans bound, ?_⟩⟩
      change (TopPostRow.new io (.str author) (.str posting.post) score >>= fun row => db.insertTopPost row) = .ok after
      rw [isNew]
      exact inserted
  | some row =>
      obtain ⟨isPost, named⟩ := named_one db author posting.post row found
      have onShelf : posting.post ∈ (db.shelf author).map Placed.key := isPost ▸ named_key db author row named
      have isBound := (if_pos onShelf).symm.trans bound
      obtain ⟨after, updated, _⟩ := db.update_score_runs row score ((mem_posts_of db author row).mp named.listed).1
      by_cases same : score = row.feedbackScore
      · exact ⟨db, (except_bind_ok _ _ _).mpr ⟨score, isBound, if_pos same⟩⟩
      · exact ⟨after, (except_bind_ok _ _ _).mpr ⟨score, isBound, (if_neg same).trans updated⟩⟩

end Score

section Rank

-- enumerate(…, start=1) up to the fifth.
theorem placed_first {α β : Type} (give : α → Nat → β) (rows : List α) (start : Nat) :
    (rows.zipIdx start).filterMap (fun place => if place.2 ≤ 5 then some (give place.1 place.2) else none) =
      ((rows.take (6 - start)).zipIdx start).map fun place => give place.1 place.2 := by
  induction rows generalizing start with
  | nil => simp
  | cons row rows ih =>
      by_cases inside : start ≤ 5
      · have counted : 6 - start = 6 - (start + 1) + 1 := by omega
        rw [counted, List.take_succ_cons, List.zipIdx_cons, List.zipIdx_cons, List.map_cons, ← ih]
        simp [inside]
      · have counted : 6 - start = 0 := by omega
        have later : 6 - (start + 1) = 0 := by omega
        have nothing := ih (start + 1)
        rw [later, List.take_zero] at nothing
        rw [List.zipIdx_cons, counted]
        simpa [inside] using nothing

section Loaded

variable (loaded : List TopPostRow) (distinct : (loaded.map key).Nodup)

include distinct

theorem place_of_loaded (row : TopPostRow) (i : Nat) (member : (row, i) ∈ loaded.zipIdx 1) :
    placeOf loaded row = some (row, i) := by
  have found : (loaded.zipIdx 1).find? (fun place => key place.1 = key row) ≠ none := by
    intro absent
    have wrong := List.find?_eq_none.mp absent (row, i) member
    simp at wrong
  obtain ⟨place, isPlace⟩ := Option.ne_none_iff_exists'.mp found
  have sameKey : key place.1 = key row := by simpa using List.find?_some isPlace
  have placesDistinct : ((loaded.zipIdx 1).map fun place => key place.1).Nodup := by
    have same : ((loaded.zipIdx 1).map fun place => key place.1) = loaded.map key := by
      conv_rhs => rw [← List.zipIdx_map_fst 1 loaded, List.map_map]
      rfl
    rwa [same]
  have isRow := List.inj_on_of_nodup_map placesDistinct (List.mem_of_find?_eq_some isPlace) member sameKey
  rw [placeOf, isPlace, isRow]

theorem settle_loaded (row : TopPostRow) (i : Nat) (member : (row, i) ∈ loaded.zipIdx 1) :
    settle loaded row = if i ≤ 5 then some (row.ranked i) else none := by
  rw [settle, place_of_loaded loaded distinct row i member]
  dsimp only
  by_cases inside : i ≤ 5
  · by_cases same : row.rank = i
    · subst same
      simp [inside, TopPostRow.ranked]
    · simp [inside, same, TopPostRow.ranked]
  · simp [inside]

theorem loaded_settled :
    loaded.filterMap (settle loaded) = ((loaded.take 5).zipIdx 1).map fun place => place.1.ranked place.2 := by
  rw [← placed_first TopPostRow.ranked loaded 1]
  conv_lhs => rw [← List.zipIdx_map_fst 1 loaded, List.filterMap_map]
  apply List.filterMap_congr
  rintro ⟨row, i⟩ member
  have same := settle_loaded loaded distinct row i member
  simpa [List.zipIdx_map_fst] using same

end Loaded

variable (db after : ReadModel) (author : String)
    (order : OrderBy fun row : TopPostRow => OrderDual.toDual row.feedbackScore.value)

theorem rank_posts_rows (loaded : List TopPostRow) (run : db.rankPosts loaded = .ok after) :
    after.postsOf (some author) = (db.postsOf (some author)).filterMap (settle loaded) := by
  have same : ∀ row row', settle loaded row = some row' → row'.userId = row.userId := fun row row' settled =>
    (settle_same loaded row row' settled).2.1
  rw [rankPosts] at run
  split at run
  · cases run
    dsimp only [postsOf, Table.alter]
    rw [List.filter_filterMap, List.filterMap_filter]
    apply List.filterMap_congr
    intro row _
    cases settled : settle loaded row with
    | none => simp
    | some row' => by_cases isAuthor : row.userId.text =
        author <;> simp [same row row' settled, isAuthor, Option.filter]
  · cases run

-- The second transaction of an upsert.
theorem shelf_ranked :
    ∃ after, db.rankPosts (order.arrange (db.postsOf (some author))) = .ok after ∧ after.profiles = db.profiles ∧
      (∀ id ∈ after.topPosts.keys, id ∈ db.topPosts.keys) ∧
      (after.shelf author).Perm
        (Placed.place (((order.arrange (db.postsOf (some author))).take 5).map fun row => row.placed.entry)) := by
  have isPerm := order.perm (db.postsOf (some author))
  generalize isLoaded : order.arrange (db.postsOf (some author)) = loaded at isPerm ⊢
  have distinct : (loaded.map key).Nodup :=
    (isPerm.map key).nodup_iff.mpr (db.topPosts.distinct.sublist (List.filter_sublist.map key))
  have there : ∀ place ∈ loaded.zipIdx 1, place.2 ≤ 5 → place.1.rank ≠ place.2 → key place.1 ∈ db.topPosts.keys := by
    intro place member _ _
    have isRow := (mem_posts_of db author place.1).mp (isPerm.mem_iff.mp (List.fst_mem_of_mem_zipIdx member))
    exact List.mem_map_of_mem isRow.1
  obtain ⟨after, run⟩ : ∃ after, db.rankPosts loaded = .ok after := by
    rw [rankPosts, if_pos there]
    exact ⟨_, rfl⟩
  have only := rank_posts_only db after loaded run
  refine ⟨after, run, only.1.profiles, only.2, ?_⟩
  have ranked := (isPerm.filterMap (settle loaded)).symm.map TopPostRow.placed
  rw [loaded_settled loaded distinct] at ranked
  have shelf : (((loaded.take 5).zipIdx 1).map fun place => place.1.ranked place.2).map TopPostRow.placed =
      Placed.place ((loaded.take 5).map fun row => row.placed.entry) := by
    rw [Placed.place, List.zipIdx_map, List.map_map, List.map_map]
    rfl
  rw [shelf] at ranked
  rw [ReadModel.shelf, rank_posts_rows db after author loaded run]
  exact ranked

-- The same row by row: the place of a row is its place in what was loaded.
theorem shelf_settled (distinct : (db.shelf author).Nodup)
    (run : db.rankPosts (order.arrange (db.postsOf (some author))) = .ok after) :
    after.shelf author = Placed.settle 5 ((order.arrange (db.postsOf (some author))).map TopPostRow.placed)
      (db.shelf author) := by
  have isPerm := order.perm (db.postsOf (some author))
  rw [shelf, rank_posts_rows db after author _ run, Placed.settle, shelf, List.filterMap_map, List.map_filterMap]
  generalize order.arrange (db.postsOf (some author)) = loaded at isPerm ⊢
  have idsDistinct : (loaded.map key).Nodup :=
    (isPerm.map key).nodup_iff.mpr (db.topPosts.distinct.sublist (List.filter_sublist.map key))
  have placedDistinct : (loaded.map TopPostRow.placed).Nodup := (isPerm.map TopPostRow.placed).nodup_iff.mpr distinct
  apply List.filterMap_congr
  intro row isRow
  obtain ⟨i, bound, isPlace⟩ := List.mem_iff_getElem.mp (isPerm.mem_iff.mpr isRow)
  have placed : (row, 1 + i) ∈ loaded.zipIdx 1 :=
    List.mk_add_mem_zipIdx_iff_getElem?.mpr (List.getElem?_eq_some_iff.mpr ⟨bound, isPlace⟩)
  have index : (loaded.map TopPostRow.placed).idxOf row.placed = i := by
    have found := placedDistinct.idxOf_getElem i (by simpa using bound)
    simpa [isPlace] using found
  rw [settle_loaded loaded idsDistinct row (1 + i) placed, Function.comp_apply, index]
  by_cases inside : i < 5
  · have first : 1 + i ≤ 5 := by omega
    rw [if_pos first, if_pos inside, Nat.add_comm]
    rfl
  · have beyond : ¬ 1 + i ≤ 5 := by omega
    rw [if_neg beyond, if_neg inside]
    rfl

end Rank

-- What is changed is not picked, before or after.
theorem filter_unchanged {α : Type} (picked : α → Bool) (change : α → α) (rows : List α)
    (unchanged : ∀ row ∈ rows, change row = row ∨ (picked row = false ∧ picked (change row) = false)) :
    (rows.map change).filter picked = rows.filter picked := by
  induction rows with
  | nil => rfl
  | cons row rows ih =>
      have rest := ih fun other member => unchanged other (List.mem_cons_of_mem _ member)
      rcases unchanged row (List.mem_cons_self ..) with same | ⟨before, after⟩
      · simp [same, List.filter_cons, rest]
      · simp [before, after, rest]

-- What an upsert for one author does to the shelf of another: nothing.
section Others

variable (db after : ReadModel) (author other : String) (different : other ≠ author)

include different

theorem score_stored_other (apart : Varchar.cut 36 other ≠ author) (io : Circumstances) (python : Interpreter)
    (postId feedbackScore : Value) (existing : Option TopPostRow)
    (isOther : ∀ row, existing = some row → row ∈ db.topPosts.rows ∧ row.userId.text = other)
    (stored : storeScore io python (.str other) postId feedbackScore existing db = .ok after) :
    after.shelf author = db.shelf author := by
  cases existing with
  | none =>
      obtain ⟨_, _, written⟩ := (except_bind_ok _ _ _).mp stored
      obtain ⟨row, isNew, inserted⟩ := (except_bind_ok _ _ _).mp written
      simp only [TopPostRow.new, except_bind_ok] at isNew
      obtain ⟨owner, isOwner, _, _, same⟩ := isNew
      cases same
      have elsewhere : owner.text ≠ author := (bind_text_ok 36 _ other owner isOwner).2.symm ▸ apart
      rw [shelf, postsOf, (insert_top_post_ok db after _ inserted).rows, List.filter_append]
      simp [elsewhere, shelf, postsOf]
  | some row =>
      obtain ⟨member, isRow⟩ := isOther row rfl
      obtain ⟨score, _, written⟩ := (except_bind_ok _ _ _).mp stored
      split at written
      · cases written
        rfl
      · obtain ⟨later, updated, _, rows⟩ := db.update_score_runs row score member
        have isLater : later = after := Except.ok.inj (updated.symm.trans written)
        subst isLater
        have only : ∀ old ∈ db.topPosts.rows, key old = key row → old = row := fun old isOld same =>
          List.inj_on_of_nodup_map db.topPosts.distinct isOld member same
        have elsewhere : row.userId.text ≠ author := isRow.symm ▸ different
        rw [shelf, postsOf, rows, filter_unchanged, shelf, postsOf]
        intro old isOld
        by_cases hit : key old = key row
        · right
          simp [only old isOld hit, elsewhere]
        · exact Or.inl (if_neg hit)

theorem rank_posts_other (loaded : List TopPostRow)
    (isOther : ∀ row ∈ loaded, row ∈ db.topPosts.rows ∧ row.userId.text = other)
    (run : db.rankPosts loaded = .ok after) : after.shelf author = db.shelf author := by
  rw [shelf, rank_posts_rows db after author loaded run, shelf]
  congr 1
  refine (List.filterMap_congr fun row isRow => ?_).trans List.filterMap_some
  obtain ⟨member, isAuthor⟩ := (mem_posts_of db author row).mp isRow
  have nowhere : placeOf loaded row = none := by
    refine List.find?_eq_none.mpr fun place isPlace => ?_
    obtain ⟨isLoaded, isOwner⟩ := isOther place.1 (List.fst_mem_of_mem_zipIdx isPlace)
    have apart : key place.1 ≠ key row := by
      intro sameKey
      have same := List.inj_on_of_nodup_map db.topPosts.distinct isLoaded member sameKey
      exact different (isOwner.symm.trans (same ▸ isAuthor))
    simpa using apart
  rw [settle, nowhere]

end Others

end ReadModel

end AuthProfile
