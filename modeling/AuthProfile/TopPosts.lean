import AuthProfile.Db.Shelf
import AuthProfile.UseCases.Profile

set_option autoImplicit false

namespace AuthProfile

open Relation Process ProfileRepository TopList

-- The two transactions of an upsert, the first of which makes the author's rows these.
structure Upsert (author : String) (rows : List (Placed String Int)) (id : String)
    (db written settled : ReadModel) : Prop where
  scored : written.shelf author = rows
  arranged : ∃ entries : List (String × Int), entries.Perm ((written.shelf author).map Placed.entry) ∧
    (entries.Pairwise fun a b => b.2 ≤ a.2) ∧ (settled.shelf author).Perm (Placed.place (entries.take 5))
  writtenKept : ReadModel.PostsKept db written id
  settledKept : ReadModel.PostsKept db settled id

section Upsert

variable (author : String) (rows : List (Placed String Int)) (id : String) (db written settled : ReadModel)
  (upsert : Upsert author rows id db written settled)

include upsert

theorem upsert_by_rank :
    ∃ entries : List (String × Int), entries.Perm (rows.map Placed.entry) ∧
      (entries.Pairwise fun a b => b.2 ≤ a.2) ∧ settled.byRank author = Placed.place (entries.take 5) := by
  obtain ⟨entries, perm, sorted, isSettled⟩ := upsert.arranged
  exact ⟨entries, upsert.scored ▸ perm, sorted,
    ReadModel.by_rank_settled settled author _ isSettled (Placed.place_ranks _)⟩

theorem upsert_ranks : (settled.byRank author).map Placed.rank = List.range' 1 (settled.byRank author).length := by
  obtain ⟨entries, _, _, isSettled⟩ := upsert_by_rank author rows id db written settled upsert
  rw [isSettled]
  exact Placed.place_ranks _

theorem upsert_well_formed (distinct : (rows.map Placed.key).Nodup) : Placed.WellFormed 5 (settled.byRank author) := by
  obtain ⟨entries, perm, sorted, isSettled⟩ := upsert_by_rank author rows id db written settled upsert
  have keysDistinct : (keys entries).Nodup := by
    rw [keys, (perm.map Prod.fst).nodup_iff, List.map_map]
    exact distinct
  rw [isSettled]
  exact Placed.place_well_formed 5 (entries.take 5) (List.length_take_le 5 entries)
    (keysDistinct.sublist ((List.take_sublist 5 entries).map _))
    (sorted.sublist (List.take_sublist 5 entries))

end Upsert

section Transactions

variable (db : ReadModel) (io : Circumstances) (python : Interpreter) (author : String) (posting : Posting)
    (score : Int4)

-- Whatever the first transaction left, the second one arranges it.
theorem upsert_settles (written : ReadModel) (rows : List (Placed String Int)) (id : String)
    (scored : written.shelf author = rows) (kept : ReadModel.PostsKept db written id) :
    ∃ settled, written.rankPosts (io.byScore.arrange (written.postsOf (some author))) = .ok settled ∧
      Upsert author rows id db written settled := by
  obtain ⟨settled, ranked, profiles, keys, perm⟩ := ReadModel.shelf_ranked written author io.byScore
  refine ⟨settled, ranked, scored, ⟨_, ?_, ?_, List.map_take ▸ perm⟩, kept, profiles.trans kept.profiles,
    fun id member => kept.keys id (keys id member)⟩
  · rw [ReadModel.shelf, List.map_map]
    exact (io.byScore.perm _).map _
  · rw [List.pairwise_map]
    exact io.byScore.sorted _

theorem upsert_runs (bound : posting.score python (db.shelf author) = .ok score) (taken : Varchar.Takes 36 posting.post)
    (few : ((db.shelf author).map Placed.key).count posting.post ≤ 1) (known : author ∈ db.profiles.keys)
    (fresh : io.rowId.text ∉ db.topPosts.keys) :
    ∃ existing written settled, scalarOneOrNone (db.postsNamed (some author) (some posting.post)) = .ok existing ∧
      storeScore io python (.str author) (.str posting.post) posting.feedbackScore existing db = .ok written ∧
      written.rankPosts (io.byScore.arrange (written.postsOf (some author))) = .ok settled ∧
      Upsert author (posting.written (db.shelf author) score.value) io.rowId.text db written settled := by
  obtain ⟨existing, found⟩ := scalar_few _ ((ReadModel.posts_named_length db author posting.post).symm ▸ few)
  have short : author.length ≤ 36 := by
    obtain ⟨profile, _, isKey⟩ := List.mem_map.mp known
    exact isKey ▸ profile.userId.fits.1
  obtain ⟨written, stored⟩ :=
    ReadModel.store_score_runs db io python author posting score existing bound taken known fresh found
  obtain ⟨other, isScore, _, scored, kept⟩ :=
    ReadModel.score_stored db written io python author posting existing short found stored
  cases Except.ok.inj (bound.symm.trans isScore)
  obtain ⟨settled, ranked, upsert⟩ := upsert_settles db io author written _ _ scored kept
  exact ⟨existing, written, settled, found, stored, ranked, upsert⟩

-- An upsert that returns has gone through both transactions.
theorem upsert_returned (short : author.length ≤ 36) :
    (upsertTopPost io python (.str author) (.str posting.post) posting.feedbackScore).wp
      (fun result after => result = .ok () →
      ∃ score written, posting.score python (db.shelf author) = .ok score ∧ Varchar.Takes 36 posting.post ∧
        ((db.shelf author).map Placed.key).count posting.post ≤ 1 ∧
        Upsert author (posting.written (db.shelf author) score.value) io.rowId.text db written after) db := by
  rw [upsertTopPost, Prog.wp_bind, writeScore]
  simp only [bindText]
  rw [Prog.wp_of_except_bind]
  dsimp only
  rw [Prog.wp_of_except_bind]
  refine wp_select_bind _ _ _ _ _ (fun error wrong => by cases wrong) ?_
  rw [Prog.wp_of_except_bind]
  cases found : scalarOneOrNone (db.postsNamed (some author) (some posting.post)) with
  | error error => exact fun wrong => by cases wrong
  | ok existing =>
      refine wp_commit _ _ _ (fun error wrong => by cases wrong) fun written stored => ⟨?_, fun wrong => by cases wrong⟩
      obtain ⟨score, bound, taken, scored, kept⟩ :=
        ReadModel.score_stored db written io python author posting existing short found stored
      have few : ((db.shelf author).map Placed.key).count posting.post ≤ 1 := by
        rw [← ReadModel.posts_named_length, scalar_rows _ existing found]
        exact Option.length_toList_le
      obtain ⟨settled, ranked, upsert⟩ := upsert_settles db io author written _ _ scored kept
      dsimp only
      rw [rankPosts, bindText, Prog.wp_of_except_bind]
      refine wp_select_bind _ _ _ _ _ (fun error wrong => by cases wrong) ?_
      refine wp_commit _ _ _ (fun error wrong => by cases wrong) fun after run =>
        ⟨fun _ => ?_, fun wrong => by cases wrong⟩
      have isSettled : settled = after := Except.ok.inj (ranked.symm.trans run)
      exact ⟨score, written, bound, taken, few, isSettled ▸ upsert⟩

-- How far an upsert gets under a script.
theorem exec_upsert (script : List Fault) (existing : Option TopPostRow) (written settled : ReadModel)
    (legal : Storable author ∧ Storable posting.post)
    (found : scalarOneOrNone (db.postsNamed (some author) (some posting.post)) = .ok existing)
    (stored : storeScore io python (.str author) (.str posting.post) posting.feedbackScore existing db = .ok written)
    (ranked : written.rankPosts (io.byScore.arrange (written.postsOf (some author))) = .ok settled) :
    ((upsertTopPost io python (.str author) (.str posting.post) posting.feedbackScore).exec script db).store =
        (if takesEffect 3 script then settled else if takesEffect 1 script then written else db) ∧
      (((upsertTopPost io python (.str author) (.str posting.post) posting.feedbackScore).exec script db).result =
          .ok () ↔ through 4 script = true) := by
  have isCommit : (Prog.ofExcept (scalarOneOrNone (db.postsNamed (some author) (some posting.post))) >>= fun existing =>
      commit (storeScore io python (.str author) (.str posting.post) posting.feedbackScore existing)) =
        commit (storeScore io python (.str author) (.str posting.post) posting.feedbackScore existing) := by
          rw [found]; rfl
  exact exec_two_transactions db written [author, posting.post] (legal_two author posting.post legal.1 legal.2)
    (fun db => db.postsNamed (some author) (some posting.post))
    (fun found => Prog.ofExcept (scalarOneOrNone found) >>= fun existing =>
      commit (storeScore io python (.str author) (.str posting.post) posting.feedbackScore existing))
    (storeScore io python (.str author) (.str posting.post) posting.feedbackScore existing) isCommit stored settled
    [author] (legal_one author legal.1) (fun db => io.byScore.arrange (db.postsOf (some author)))
    (fun posts => commit fun db => db.rankPosts posts)
    (fun db => db.rankPosts (io.byScore.arrange (written.postsOf (some author)))) rfl ranked script

end Transactions

theorem posts_named_null (author : String) (db : ReadModel) : db.postsNamed (some author) none = [] := by
  rw [ReadModel.postsNamed, List.filter_eq_nil_iff]
  intro row _
  simp

-- A post id or a score that cannot be stored is refused by the first transaction.
theorem score_refused (io : Circumstances) (python : Interpreter) (author : String) (postId feedbackScore : Value)
    (db : ReadModel) (short : author.length ≤ 36)
    (unfit : ∀ post score, postId = .str post → Varchar.Takes 36 post →
      ((db.shelf author).map Placed.key).count post ≤ 1 →
      Posting.score python ⟨post, feedbackScore⟩ (db.shelf author) ≠ .ok score) :
    (writeScore io python (.str author) postId feedbackScore).wp (fun result after => after = db ∧
      result ≠ .ok ()) db := by
  have failed : ∀ error : Error, db = db ∧ (Except.error error : Except Error Unit) ≠ .ok () :=
    fun error => ⟨rfl, fun wrong => nomatch wrong⟩
  rw [writeScore, bindText, Prog.wp_of_except_bind]
  dsimp only
  rw [Prog.wp_of_except_bind]
  cases postId with
  | str post =>
      refine wp_select_bind _ _ _ _ _ failed ?_
      rw [Prog.wp_of_except_bind]
      cases isExisting : scalarOneOrNone (db.postsNamed (some author) (some post)) with
      | error error => exact failed error
      | ok existing =>
          refine wp_commit _ _ _ failed fun after stored => ?_
          obtain ⟨score, bound, taken, _⟩ :=
            ReadModel.score_stored db after io python author ⟨post, feedbackScore⟩ existing short isExisting stored
          have few : ((db.shelf author).map Placed.key).count post ≤ 1 := by
            rw [← ReadModel.posts_named_length, scalar_rows _ existing isExisting]
            exact Option.length_toList_le
          exact absurd bound (unfit post score rfl taken few)
  | none =>
      refine wp_select_bind _ _ _ _ _ failed ?_
      rw [Prog.wp_of_except_bind, posts_named_null]
      refine wp_commit _ _ _ failed fun after stored => ?_
      obtain ⟨score, _, written⟩ := (except_bind_ok _ _ _).mp stored
      obtain ⟨row, isNew, _⟩ := (except_bind_ok _ _ _).mp written
      simp only [TopPostRow.new, except_bind_ok] at isNew
      obtain ⟨_, _, _, wrong, _⟩ := isNew
      cases wrong
  | bool _ => exact failed _
  | int _ => exact failed _
  | float _ => exact failed _
  | list _ => exact failed _
  | dict _ => exact failed _

-- An upsert for another author.
theorem foreign_upsert (author : String) (db : ReadModel) (io : Circumstances) (python : Interpreter) (other : String)
    (postId feedbackScore : Value) (different : other ≠ author) (apart : Varchar.cut 36 other ≠ author) :
    (upsertTopPost io python (.str other) postId feedbackScore).wp
      (fun _ after => after.shelf author = db.shelf author) db := by
  have ranks : ∀ written : ReadModel, written.shelf author = db.shelf author →
      (rankPosts io (.str other)).wp (fun _ after => after.shelf author = db.shelf author) written := by
    intro written sameShelf
    rw [rankPosts, bindText, Prog.wp_of_except_bind]
    refine wp_select_bind _ _ _ _ _ (fun _ => sameShelf) (wp_commit _ _ _ (fun _ => sameShelf) fun after run => ?_)
    have isOther : ∀ row ∈ io.byScore.arrange (written.postsOf (some other)), row ∈ written.topPosts.rows ∧
        row.userId.text = other :=
      fun row member => (ReadModel.mem_posts_of written other row).mp ((io.byScore.mem_arrange _ row).mp member)
    have still := (ReadModel.rank_posts_other written after author other different _ isOther run).trans sameShelf
    exact ⟨still, still⟩
  rw [upsertTopPost, Prog.wp_bind, writeScore, bindText, Prog.wp_of_except_bind]
  dsimp only
  rw [Prog.wp_of_except_bind]
  cases bindText "post_id" postId with
  | error error => rfl
  | ok post =>
      refine wp_select_bind _ _ _ _ _ (fun _ => rfl) ?_
      rw [Prog.wp_of_except_bind]
      cases isExisting : scalarOneOrNone (db.postsNamed (some other) post) with
      | error error => rfl
      | ok existing =>
          refine wp_commit _ _ _ (fun _ => rfl) fun written stored => ?_
          have same :=
            ReadModel.score_stored_other db written author other different apart io python postId feedbackScore existing
            (fun row isRow => ?_) stored
          · exact ⟨ranks written same, same⟩
          · have found := scalar_rows _ existing isExisting
            rw [isRow] at found
            have member : row ∈ db.postsNamed (some other) post := found ▸ List.mem_singleton_self row
            have named := (List.mem_filter.mp member).2
            simp only [decide_eq_true_eq, Option.some.injEq] at named
            exact ⟨(List.mem_filter.mp member).1, named.1⟩

-- What an event reports about a post of the author, if the columns take its texts.
def posting (author : String) (event : Value) : Option Posting :=
  match event.get "author_id", displayNameOf event, event.get "post_id", event.get "feedback_score" with
  | some (.str authorId), .str displayName, some (.str post), some feedbackScore =>
      if authorId = author ∧ Varchar.Fits 36 author ∧ Varchar.Takes 64 displayName ∧ Varchar.Takes 36 post then
        some ⟨post, feedbackScore⟩
      else none
  | _, _, _, _ => none

-- The author's rows once the first transaction of the handling is through, if it gets through.
def rowsWritten (python : Interpreter) (author : String) (event : Value) (rows : List (Placed String Int)) :
    Option (List (Placed String Int)) := do
  let posting ← posting author event
  let score ← (posting.score python rows).toOption
  if (rows.map Placed.key).count posting.post ≤ 1 then some (posting.written rows score.value) else none

theorem int4_bind_int (column : String) (truncate : String → Option Int) (n : Int) (score : Int4)
    (bound : Int4.bindValue column truncate (.int n) = .ok score) : score.value = n := by
  simp only [Int4.bindValue] at bound
  split at bound
  · cases bound
    rfl
  · cases bound

theorem score_int (python : Interpreter) (post : String) (n : Int) (rows : List (Placed String Int)) (score : Int4)
    (bound : Posting.score python ⟨post, .int n⟩ rows = .ok score) : score.value = n := by
  rw [Posting.score] at bound
  split at bound <;> exact int4_bind_int "feedback_score" python.truncate n score bound

section Reaction

variable (python : Interpreter) (author : String) (event : Value)

structure Reports (displayName : String) (posting : Posting) : Prop where
  hasAuthor : event.get "author_id" = some (.str author)
  hasName : displayNameOf event = .str displayName
  hasPost : event.get "post_id" = some (.str posting.post)
  hasScore : event.get "feedback_score" = some posting.feedbackScore
  authorFits : Varchar.Fits 36 author
  nameTaken : Varchar.Takes 64 displayName
  postTaken : Varchar.Takes 36 posting.post

theorem posting_some_iff (reported : Posting) :
    posting author event = some reported ↔ ∃ displayName, Reports author event displayName reported := by
  constructor
  · intro isPosting
    rw [posting] at isPosting
    split at isPosting
    · rename_i authorId displayName post feedbackScore hasAuthor hasName hasPost hasScore
      split at isPosting
      · rename_i fits
        obtain ⟨rfl, authorFits, nameTaken, postTaken⟩ := fits
        cases isPosting
        exact ⟨displayName, hasAuthor, hasName, hasPost, hasScore, authorFits, nameTaken, postTaken⟩
      · cases isPosting
    · cases isPosting
  · rintro ⟨displayName, reports⟩
    simp [posting, reports.hasAuthor, reports.hasName, reports.hasPost, reports.hasScore, reports.authorFits,
      reports.nameTaken,
      reports.postTaken]

theorem rows_written_iff (rows written : List (Placed String Int)) :
    rowsWritten python author event rows = some written ↔ ∃ reported score, posting author event = some reported ∧
      reported.score python rows = .ok score ∧ (rows.map Placed.key).count reported.post ≤ 1 ∧
      written = reported.written rows score.value := by
  rw [rowsWritten, Option.bind_eq_bind, Option.bind_eq_some_iff]
  constructor
  · rintro ⟨reported, isPosting, later⟩
    rw [Option.bind_eq_bind, Option.bind_eq_some_iff] at later
    obtain ⟨score, isScore, isWritten⟩ := later
    split at isWritten
    · rename_i few
      cases isWritten
      cases bound : reported.score python rows with
      | error error => rw [bound] at isScore; cases isScore
      | ok other => rw [bound] at isScore; cases isScore; exact ⟨reported, score, isPosting, bound, few, rfl⟩
    · cases isWritten
  · rintro ⟨reported, score, isPosting, bound, few, rfl⟩
    refine ⟨reported, isPosting, ?_⟩
    rw [bound]
    exact if_pos few

section Reported

variable (displayName : String) (reported : Posting) (score : Int4)
    (reports : Reports author event displayName reported)
  (io : Circumstances) (db : ReadModel)

include reports

theorem reaction_eq :
    TopPostsProjector.handle python io event = createIfMissing io (.str author) (.str displayName) >>= fun _ =>
      upsertTopPost io python (.str author) (.str reported.post) reported.feedbackScore := by
  rw [TopPostsProjector.handle, Value.item, reports.hasAuthor, reports.hasName]
  simp only [Value.item, reports.hasPost, reports.hasScore]
  rfl

variable (bound : reported.score python (db.shelf author) = .ok score)
  (few : ((db.shelf author).map Placed.key).count reported.post ≤ 1) (fresh : io.rowId.text ∉ db.topPosts.keys)

include bound few fresh

-- The profile is seen to first, and then the upsert runs on the same shelf.
theorem reaction_transactions :
    ∃ profile existing written settled, ProfileRow.new io (.str author) (.str displayName) = .ok profile ∧
      scalarOneOrNone ((db.insertProfileOrNothing profile).postsNamed (some author) (some reported.post)) =
        .ok existing ∧
      storeScore io python (.str author) (.str reported.post) reported.feedbackScore existing
        (db.insertProfileOrNothing profile) =
        .ok written ∧
      written.rankPosts (io.byScore.arrange (written.postsOf (some author))) = .ok settled ∧
      Upsert author (reported.written (db.shelf author) score.value) io.rowId.text
        (db.insertProfileOrNothing profile) written settled := by
  obtain ⟨profile, stored, isOwner, _⟩ :=
    profile_row_new_runs io author displayName (Varchar.takes_fits 36 author reports.authorFits) reports.nameTaken
  have samePosts := db.insert_profile_posts profile
  have sameShelf := ReadModel.shelf_same db (db.insertProfileOrNothing profile) author samePosts
  have isAuthor : key profile = author := isOwner.trans (Varchar.cut_short 36 author reports.authorFits.1)
  obtain ⟨existing, written, settled, isExisting, isWritten, isSettled, upsert⟩ :=
    upsert_runs (db.insertProfileOrNothing profile) io python author reported score
      (sameShelf ▸ bound) reports.postTaken
      (sameShelf ▸ few) (isAuthor ▸ db.insert_profile_known profile) (samePosts ▸ fresh)
  exact ⟨profile, existing, written, settled, stored, isExisting, isWritten, isSettled, sameShelf ▸ upsert⟩

-- Without a failure: the rows of the author, the new score among them, get their places.
theorem reaction_settles (distinct : (reported.written (db.shelf author) score.value).Nodup) :
    ∃ rows : List TopPostRow, rows.map TopPostRow.placed = reported.written (db.shelf author) score.value ∧
      ((TopPostsProjector.handle python io event).exec [] db).store.shelf author =
        Placed.settle 5 ((io.byScore.arrange rows).map TopPostRow.placed) (rows.map TopPostRow.placed) ∧
      (((TopPostsProjector.handle python io event).exec [] db).store.byRank author).map Placed.rank =
        List.range' 1 (((TopPostsProjector.handle python io event).exec [] db).store.byRank author).length := by
  obtain ⟨profile, existing, written, settled, stored, isExisting, isWritten, isSettled, upsert⟩ :=
    reaction_transactions python author event displayName reported score reports io db bound few fresh
  have isStore : ((TopPostsProjector.handle python io event).exec [] db).store = settled := by
    rw [reaction_eq python author event displayName reported reports io,
      exec_create_if_missing db io _ _ profile stored]
    exact (exec_upsert (db.insertProfileOrNothing profile) io python author reported [] existing written settled
      ⟨reports.authorFits.2, reports.postTaken.1⟩ isExisting isWritten isSettled).1
  refine ⟨written.postsOf (some author), upsert.scored, ?_, ?_⟩
  · rw [isStore]
    exact ReadModel.shelf_settled written settled author io.byScore (upsert.scored ▸ distinct) isSettled
  · rw [isStore]
    exact upsert_ranks author _ _ _ written settled upsert

end Reported

-- An event whose score is not written fails before it touches a post.
theorem unwritten_keeps (io : Circumstances) (db : ReadModel)
    (silent : rowsWritten python author event (db.shelf author) = none)
    (hasAuthor : event.get "author_id" = some (.str author)) (short : author.length ≤ 36) :
    (TopPostsProjector.handle python io event).wp (fun result after => after.topPosts = db.topPosts ∧
      result ≠ .ok ()) db := by
  have failed : ∀ (error : Error) (after : ReadModel), after.topPosts = db.topPosts →
      after.topPosts = db.topPosts ∧ (Except.error error : Except Error Unit) ≠ .ok () :=
        fun error after same => ⟨same, fun wrong => nomatch wrong⟩
  rw [TopPostsProjector.handle, Value.item, hasAuthor]
  refine wp_create_if_missing io _ db _ _ _ (fun error => failed error db rfl) fun profile stored => ?_
  have samePosts := db.insert_profile_posts profile
  have sameShelf := ReadModel.shelf_same db (db.insertProfileOrNothing profile) author samePosts
  refine ⟨fun error => failed error _ samePosts, ?_⟩
  rw [Prog.wp_of_except_bind]
  cases hasPost : Value.item "post_id" event with
  | error error => exact failed error _ samePosts
  | ok postId =>
      dsimp only
      rw [Prog.wp_of_except_bind]
      cases hasScore : Value.item "feedback_score" event with
      | error error => exact failed error _ samePosts
      | ok feedbackScore =>
          dsimp only
          rw [upsertTopPost, Prog.wp_bind]
          refine Prog.wp_mono _ _ _ _ (fun result after refused => ?_)
            (score_refused io python author postId feedbackScore _ short fun post score isPost taken few bound => ?_)
          · obtain ⟨rfl, notOk⟩ := refused
            cases result with
            | ok done => exact absurd rfl notOk
            | error error => exact failed error _ samePosts
          · obtain ⟨_, name, isAuthor, hasName, authorTaken, nameTaken, _⟩ := profile_row_new_ok io _ _ profile stored
            cases isAuthor
            have reports : Reports author event name ⟨post, feedbackScore⟩ :=
              ⟨hasAuthor, hasName, isPost ▸ item_ok _ _ _ hasPost, item_ok _ _ _ hasScore, ⟨short, authorTaken.1⟩,
                nameTaken, taken⟩
            have isPosting := (posting_some_iff author event _).mpr ⟨_, reports⟩
            rw [sameShelf] at bound few
            have isWritten := (rows_written_iff python author event _ _).mpr ⟨_, score, isPosting, bound, few, rfl⟩
            rw [silent] at isWritten
            cases isWritten

-- An event of another author, also by the id that the column makes of its own.
theorem foreign_keeps (short : author.length ≤ 36)
    (foreign : ∀ other, event.get "author_id" = some (.str other) → Varchar.cut 36 other ≠ author) (io : Circumstances)
    (db : ReadModel) :
    (TopPostsProjector.handle python io event).wp (fun _ after => after.shelf author = db.shelf author) db := by
  rw [TopPostsProjector.handle, Prog.wp_of_except_bind]
  cases hasAuthor : Value.item "author_id" event with
  | error error => rfl
  | ok authorId =>
      refine wp_create_if_missing io _ db _ _ _ (fun _ => rfl) fun profile stored => ?_
      have sameShelf := ReadModel.shelf_same db _ author (db.insert_profile_posts profile)
      obtain ⟨other, _, rfl, _⟩ := profile_row_new_ok io _ _ profile stored
      have apart := foreign other (item_ok _ _ _ hasAuthor)
      have different : other ≠ author := fun same => apart (same ▸ Varchar.cut_short 36 author short)
      refine ⟨fun _ => sameShelf, ?_⟩
      rw [Prog.wp_of_except_bind]
      cases Value.item "post_id" event with
      | error error => exact sameShelf
      | ok postId =>
          dsimp only
          rw [Prog.wp_of_except_bind]
          cases Value.item "feedback_score" event with
          | error error => exact sameShelf
          | ok feedbackScore =>
              refine Prog.wp_mono _ _ _ _ (fun _ after same => same.trans sameShelf)
                (foreign_upsert author (db.insertProfileOrNothing profile) io python other postId feedbackScore
                  different apart)

-- What a handler that returns has done.
def Reacted (id : String) (db : ReadModel) (result : Except Error Unit) (after : ReadModel) : Prop :=
  result = .ok () → ∃ rows opened written, rowsWritten python author event (db.shelf author) = some rows ∧
    opened.topPosts = db.topPosts ∧ Upsert author rows id opened written after

theorem reaction_returned (hasAuthor : event.get "author_id" = some (.str author)) (short : author.length ≤ 36)
    (io : Circumstances) (db : ReadModel) :
    (TopPostsProjector.handle python io event).wp (Reacted python author event io.rowId.text db) db := by
  have failed : ∀ (error : Error) (after : ReadModel), Reacted python author event io.rowId.text db
      (.error error) after :=
    fun error after wrong => nomatch wrong
  cases isWritten : rowsWritten python author event (db.shelf author) with
  | none =>
      exact Prog.wp_mono _ _ _ db (fun result after kept isOk => absurd isOk kept.2)
        (unwritten_keeps python author event io db isWritten hasAuthor short)
  | some rows =>
      obtain ⟨reported, score, isPosting, bound, few, rfl⟩ := (rows_written_iff python author event _ rows).mp isWritten
      obtain ⟨displayName, reports⟩ := (posting_some_iff author event reported).mp isPosting
      rw [reaction_eq python author event displayName reported reports io]
      refine wp_create_if_missing io _ db _ _ _ (fun error => failed error db) fun profile stored =>
        ⟨fun error => failed error _, ?_⟩
      have samePosts := db.insert_profile_posts profile
      have sameShelf := ReadModel.shelf_same db (db.insertProfileOrNothing profile) author samePosts
      refine Prog.wp_mono _ _ _ _ (fun result after returned isOk => ?_)
        (upsert_returned (db.insertProfileOrNothing profile) io python author reported short)
      obtain ⟨other, written, isScore, _, _, upsert⟩ := returned isOk
      rw [sameShelf] at isScore upsert
      cases Except.ok.inj (bound.symm.trans isScore)
      exact ⟨_, _, written, isWritten, samePosts, upsert⟩

end Reaction

end AuthProfile
