import AuthProfile.Interleaving
import AuthProfile.InventoryAttempts
import AuthProfile.LibraryRuns
import AuthProfile.TopPosts
import AuthProfile.Topics

set_option autoImplicit false

namespace AuthProfile

open Relation Process ProfileRepository TopList Interleaving

def runDeliveries (python : Interpreter) (db : ReadModel) (order : List Delivery) : ReadModel :=
  order.foldl (fun db delivery => delivery.store python db) db

def Delivery.rowId (delivery : Delivery) : String := delivery.io.rowId.text

structure FreshRows (db : ReadModel) (order : List Delivery) : Prop where
  distinct : (order.map Delivery.rowId).Nodup
  unused : ∀ delivery ∈ order, delivery.rowId ∉ db.ids

-- The author's rows once a handling of an event of community-events has written its score.
def rowsIn (python : Interpreter) (author : String) (message : Value) (rows : List (Placed String Int)) :
    Option (List (Placed String Int)) :=
  match Envelope.parse python.printable message with
  | .error _ => none
  | .ok envelope =>
      if envelope.eventType = COMMUNITY_POST_REACTED then rowsWritten python author envelope.payload rows else none

-- The message does not name its author by an id that the column cuts to the user's.
def AuthorApart (python : Interpreter) (userId : String) (message : Value) : Prop :=
  ∀ envelope, Envelope.parse python.printable message = .ok envelope →
    ∀ author, envelope.payload.get "author_id" = some (.str author) → Varchar.cut 36 author = userId → author = userId

section Moves

variable (python : Interpreter) (delivery : Delivery)

-- What a delivery of a topic does to the part of the read model that is the topic's.
def FlagsMoved (userId gameId : String) (before after : List Bool) : Prop :=
  after = flagsAfter python delivery.message userId gameId before

def ItemsMoved (before after : List Item) : Prop :=
  (∃ item, Grants python delivery.message item ∧ after = before ++ [item.cut]) ∨
    ((∀ item, ¬ Grants python delivery.message item) ∧ after = before)

def ShelfMoved (author : String) (before after : List (Placed String Int)) : Prop :=
  match rowsIn python author delivery.message before with
  | none => after = before
  | some written => ∃ rows : List TopPostRow, rows.map TopPostRow.placed = written ∧
      after = Placed.settle 5 ((delivery.io.byScore.arrange rows).map TopPostRow.placed) (rows.map TopPostRow.placed)

-- Rows with the same contents come out of both in the same order of contents.
def Circumstances.TiesAlike (io other : Circumstances) : Prop :=
  ∀ rows rows' : List TopPostRow, rows.map TopPostRow.placed = rows'.map TopPostRow.placed →
    (io.byScore.arrange rows).map TopPostRow.placed = (other.byScore.arrange rows').map TopPostRow.placed

end Moves

-- The ranks of the author's rows count from one.
def Ranked (author : String) (db : ReadModel) : Prop :=
  (db.byRank author).map Placed.rank = List.range' 1 (db.byRank author).length

section Ranks

variable (author : String) (db : ReadModel) (ranked : Ranked author db)

include ranked

theorem ranked_ranks : ((db.shelf author).map Placed.rank).Nodup ∧ 0 ∉ (db.shelf author).map Placed.rank := by
  have perm := ((db.by_rank_perm author).map Placed.rank).symm
  rw [ranked] at perm
  exact ⟨perm.nodup_iff.mpr List.nodup_range', fun member => by simpa using perm.mem_iff.mp member⟩

-- A row without a place is told apart by its rank.
theorem written_distinct (reported : Posting) (n : Int) : (reported.written (db.shelf author) n).Nodup := by
  obtain ⟨distinct, positive⟩ := ranked_ranks author db ranked
  refine List.Nodup.of_map Placed.rank ?_
  rw [Posting.written]
  by_cases known : reported.post ∈ (db.shelf author).map Placed.key
  · have sameRanks : (Placed.write (db.shelf author) (reported.post, n)).map Placed.rank =
        (db.shelf author).map Placed.rank := by
      rw [Placed.write_known _ _ known, List.map_map]
      apply List.map_congr_left
      intro row _
      by_cases here : row.key = reported.post <;> simp [here]
    rw [if_pos known, sameRanks]
    exact distinct
  · rw [if_neg known, List.map_append]
    refine List.nodup_append.mpr ⟨distinct, List.nodup_singleton _, fun rank member other single same => positive ?_⟩
    have isZero : other = 0 := List.mem_singleton.mp single
    exact isZero ▸ same ▸ member

end Ranks

section Step

variable (python : Interpreter) (delivery : Delivery) (db : ReadModel) (fresh : delivery.rowId ∉ db.ids)

include fresh

theorem store_flags (isTopic : delivery.topic = .gameEvents) (userId gameId : String) :
    FlagsMoved python delivery userId gameId (db.flags userId gameId)
      ((delivery.store python db).flags userId gameId) := by
  have isHandler : delivery.handle python = handleGameEvents python delivery.io delivery.message := by
    rw [Delivery.handle, isTopic]
  have freshGame : delivery.io.rowId.text ∉ db.ownedGames.keys := fun member =>
    fresh (List.mem_append_left _ (List.mem_append_left _ member))
  rw [FlagsMoved, Delivery.store, isHandler]
  exact handled_flags python delivery.io db delivery.message userId gameId freshGame

theorem store_items (isTopic : delivery.topic = .tradeEvents) :
    ItemsMoved python delivery db.items (delivery.store python db).items := by
  have isHandler : delivery.handle python = handleMarketplaceEvents python delivery.io delivery.message := by
    rw [Delivery.handle, isTopic]
  have freshItem : delivery.io.rowId.text ∉ db.ownedItems.keys := fun member =>
    fresh (List.mem_append_left _ (List.mem_append_right _ member))
  rw [Delivery.store, isHandler]
  by_cases grants : ∃ item, Grants python delivery.message item
  · obtain ⟨item, granted⟩ := grants
    exact Or.inl ⟨item, granted, granted_alone python delivery.message item granted delivery.io db freshItem⟩
  · refine Or.inr ⟨fun item granted => grants ⟨item, granted⟩, ?_⟩
    rcases Prog.wp_exec _ _ _ (marketplace_attempted python delivery.message delivery.io db) [] with
      ⟨same, _⟩ | ⟨_, item, granted, _⟩
    · rw [ReadModel.items, same, ReadModel.items]
    · exact absurd ⟨item, granted⟩ grants

theorem store_shelf (isTopic : delivery.topic = .communityEvents) (author : String) (short : author.length ≤ 36)
    (apart : AuthorApart python author delivery.message) (ranked : Ranked author db) :
    ShelfMoved python delivery author (db.shelf author) ((delivery.store python db).shelf author) ∧
      Ranked author (delivery.store python db) := by
  have isHandler : delivery.handle python = handleCommunityEvents python delivery.io delivery.message := by
    rw [Delivery.handle, isTopic]
  have freshPost : delivery.io.rowId.text ∉ db.topPosts.keys := fun member => fresh (List.mem_append_right _ member)
  have still : ∀ after : ReadModel, after.shelf author = db.shelf author → Ranked author after := by
    intro after same
    rw [Ranked, ReadModel.byRank, same]
    exact ranked
  rw [ShelfMoved, rowsIn, Delivery.store, isHandler, handle_community_events_cases]
  cases parsed : Envelope.parse python.printable delivery.message with
  | error error => exact ⟨rfl, ranked⟩
  | ok envelope =>
      dsimp only
      by_cases reacted : envelope.eventType = COMMUNITY_POST_REACTED
      · rw [if_pos reacted, if_pos reacted]
        cases isWritten : rowsWritten python author envelope.payload (db.shelf author) with
        | some written =>
            obtain ⟨reported, score, isPosting, bound, few, rfl⟩ :=
              (rows_written_iff python author envelope.payload _ written).mp isWritten
            obtain ⟨displayName, reports⟩ := (posting_some_iff author envelope.payload reported).mp isPosting
            obtain ⟨rows, isRows, settled, stays⟩ :=
              reaction_settles python author envelope.payload displayName reported score
              reports delivery.io db bound few freshPost (written_distinct author db ranked reported score.value)
            exact ⟨⟨rows, isRows, settled⟩, stays⟩
        | none =>
            have same : ((TopPostsProjector.handle python delivery.io envelope.payload).exec [] db).store.shelf author =
                db.shelf author := by
              by_cases hasAuthor : envelope.payload.get "author_id" = some (.str author)
              · exact ReadModel.shelf_same db _ author
                  (Prog.wp_exec _ _ _
                    (unwritten_keeps python author envelope.payload delivery.io db isWritten hasAuthor short) []).1
              · have foreign : ∀ other, envelope.payload.get "author_id" = some (.str other) →
                    Varchar.cut 36 other ≠ author :=
                  fun other isOther same => hasAuthor (isOther.trans (by rw [apart envelope parsed other isOther same]))
                exact Prog.wp_exec _ _ _ (foreign_keeps python author envelope.payload short foreign delivery.io db) []
            exact ⟨same, still _ same⟩
      · rw [if_neg reacted, if_neg reacted]
        exact ⟨rfl, ranked⟩

end Step

section Run

variable (python : Interpreter) (userId : String) (db : ReadModel)

theorem run_deliveries_snoc (order : List Delivery) (delivery : Delivery) :
    runDeliveries python db (order ++ [delivery]) = delivery.store python (runDeliveries python db order) :=
      List.foldl_append

theorem run_ids (order : List Delivery) :
    ∀ id ∈ (runDeliveries python db order).ids, id ∈ db.ids ∨ id ∈ order.map Delivery.rowId := by
  induction order using List.reverseRecOn with
  | nil => exact fun id member => Or.inl member
  | append_singleton order delivery ih =>
      intro id member
      rw [run_deliveries_snoc] at member
      rw [List.map_append, List.mem_append, ← or_assoc]
      exact ((store_touched python delivery _).ids id member).imp (ih id) List.mem_singleton.mpr

theorem fresh_here (order before : List Delivery) (delivery : Delivery) (fresh : FreshRows db order)
    (isPrefix : before ++ [delivery] <+: order) :
    delivery.rowId ∉ (runDeliveries python db before).ids := by
  intro member
  have isDelivery : delivery ∈ order := isPrefix.subset (List.mem_append_right _ (List.mem_singleton_self delivery))
  rcases run_ids python db before delivery.rowId member with old | earlier
  · exact fresh.unused delivery isDelivery old
  · have apart := fresh.distinct.sublist (isPrefix.sublist.map Delivery.rowId)
    rw [List.map_append, List.nodup_append] at apart
    exact apart.2.2 _ earlier _ (List.mem_singleton_self _) rfl

theorem run_name (order : List Delivery) :
    (runDeliveries python db order).nameOf userId =
      (db.nameOf userId).or (order.filterMap fun delivery =>
        nameFor python userId delivery.topic delivery.message).head? := by
  induction order generalizing db with
  | nil => exact (Option.or_none).symm
  | cons delivery order ih =>
      change (runDeliveries python (delivery.store python db) order).nameOf userId = _
      rw [ih, store_name, Option.or_assoc, List.filterMap_cons]
      cases nameFor python userId delivery.topic delivery.message <;> rfl

section Shelf

variable (order : List Delivery) (fresh : FreshRows db order) (start : Ranked userId db) (short : userId.length ≤ 36)
  (apart : ∀ delivery ∈ order, delivery.topic = .communityEvents → AuthorApart python userId delivery.message)

include fresh start short apart

theorem run_ranked (before : List Delivery) (isPrefix : before <+: order) :
    Ranked userId (runDeliveries python db before) := by
  induction before using List.reverseRecOn with
  | nil => exact start
  | append_singleton before delivery ih =>
      have ranked := ih ((List.prefix_append before [delivery]).trans isPrefix)
      have isDelivery : delivery ∈ order := isPrefix.subset (List.mem_append_right _ (List.mem_singleton_self delivery))
      rw [run_deliveries_snoc]
      by_cases isTopic : delivery.topic = .communityEvents
      · exact (store_shelf python delivery _
          (fresh_here python db order before delivery fresh isPrefix) isTopic userId short
          (apart delivery isDelivery isTopic) ranked).2
      · have same := (store_touched python delivery (runDeliveries python db before)).posts isTopic
        rw [Ranked, ReadModel.byRank, ReadModel.shelf_same _ _ userId same]
        exact ranked

theorem run_shelf :
    Carried (fun delivery => ShelfMoved python delivery userId) (share Delivery.topic .communityEvents order)
      (db.shelf userId)
      ((runDeliveries python db order).shelf userId) := by
  refine view_carried Delivery.topic (fun db (delivery : Delivery) => delivery.store python db) db order
    .communityEvents
    (ReadModel.shelf userId) _ (fun before delivery isPrefix isTopic => ?_) fun before delivery isPrefix other => ?_
  · have ranked := run_ranked python userId db order fresh start short apart before
      ((List.prefix_append before [delivery]).trans isPrefix)
    have isDelivery : delivery ∈ order := isPrefix.subset (List.mem_append_right _ (List.mem_singleton_self delivery))
    exact (store_shelf python delivery _
      (fresh_here python db order before delivery fresh isPrefix) isTopic userId short
      (apart delivery isDelivery isTopic) ranked).1
  · exact ReadModel.shelf_same _ _ userId ((store_touched python delivery _).posts other)

end Shelf

section Library

variable (order : List Delivery) (fresh : FreshRows db order)

include fresh

theorem run_flags (gameId : String) :
    Carried (fun delivery => FlagsMoved python delivery userId gameId) (share Delivery.topic .gameEvents order)
      (db.flags userId gameId)
      ((runDeliveries python db order).flags userId gameId) := by
  refine view_carried Delivery.topic (fun db (delivery : Delivery) => delivery.store python db) db order .gameEvents
    (ReadModel.flags userId gameId) _ (fun before delivery isPrefix isTopic => ?_)
      fun before delivery isPrefix other => ?_
  · exact store_flags python delivery _ (fresh_here python db order before delivery fresh isPrefix) isTopic
      userId gameId
  · exact ReadModel.flags_same _ _ ((store_touched python delivery _).games other) userId gameId

theorem run_items :
    Carried (ItemsMoved python) (share Delivery.topic .tradeEvents order) db.items
      (runDeliveries python db order).items := by
  refine view_carried Delivery.topic (fun db (delivery : Delivery) => delivery.store python db) db order .tradeEvents
    ReadModel.items _ (fun before delivery isPrefix isTopic => ?_) fun before delivery isPrefix other => ?_
  · exact store_items python delivery _ (fresh_here python db order before delivery fresh isPrefix) isTopic
  · have same := (store_touched python delivery (runDeliveries python db before)).items other
    change (delivery.store python (runDeliveries python db before)).items = (runDeliveries python db before).items
    rw [ReadModel.items, same, ReadModel.items]

end Library

end Run

-- What a profile shows of what its user has, ids and times aside.
def OwnedGame.content (game : OwnedGame) : String × Bool := (game.gameId, game.hidden)

def OwnedItem.content (item : OwnedItem) : String × String := (item.itemId, item.gameId)

structure Profile.SameHoldings (profile other : Profile) : Prop where
  games : (profile.ownedGames.map OwnedGame.content).Perm (other.ownedGames.map OwnedGame.content)
  items : (profile.ownedItems.map OwnedItem.content).Perm (other.ownedItems.map OwnedItem.content)
  posts : profile.topPosts.map TopPost.placed = other.topPosts.map TopPost.placed

section Read

variable (userId : String) (db : ReadModel)

theorem read_profile (io : Circumstances) (row : ProfileRow) (found : db.profiles.find userId = some row) :
    ((getByUserId io userId).exec [] db).result =
      .ok (some (toDomainProfile row (db.gamesOf userId) (db.itemsOf userId)
        (io.byRank.arrange (db.postsOf (some userId))))) := by
  have isUser : row.userId.text = userId := Table.find_key userId db.profiles row found
  have legal := legal_one userId (isUser ▸ row.userId.fits.2)
  rw [getByUserId, exec_select_alone _ _ _ _ legal, found]
  dsimp only
  rw [exec_select_alone _ _ _ _ legal, exec_select_alone _ _ _ _ legal, exec_select_alone _ _ _ _ legal]
  rfl

theorem games_count (gameId : String) (hidden : Bool) :
    (((db.gamesOf userId).map toDomainGame).map OwnedGame.content).count (gameId, hidden) =
      (db.flags userId gameId).count hidden := by
  rw [List.map_map, ReadModel.gamesOf, ReadModel.flags, ReadModel.gamesNamed, List.count_eq_countP,
    List.count_eq_countP, List.countP_map,
    List.countP_map, List.countP_filter, List.countP_filter]
  apply List.countP_congr
  intro row _
  simp [toDomainGame, OwnedGame.content, and_comm, and_left_comm]

theorem items_content :
    ((db.itemsOf userId).map toDomainItem).map OwnedItem.content =
      (db.items.filter fun item => item.userId = userId).map fun item => (item.itemId, item.gameId) := by
  rw [ReadModel.itemsOf, ReadModel.items, List.filter_map, List.map_map, List.map_map]
  rfl

theorem posts_content (io : Circumstances) (ranked : Ranked userId db) :
    ((io.byRank.arrange (db.postsOf (some userId))).map toDomainPost).map TopPost.placed = db.byRank userId := by
  have same : ((io.byRank.arrange (db.postsOf (some userId))).map toDomainPost).map TopPost.placed =
      (io.byRank.arrange (db.postsOf (some userId))).map TopPostRow.placed := List.map_map
  rw [same]
  exact Placed.read_settled (db.shelf userId) (db.byRank userId) _ (db.by_rank_perm userId) ranked
    ((io.byRank.perm _).map _) (List.pairwise_map.mpr (io.byRank.sorted _))

theorem missing_shelf (missing : userId ∉ db.profiles.keys) : db.shelf userId = [] := by
  rw [ReadModel.shelf, List.map_eq_nil_iff, List.eq_nil_iff_forall_not_mem]
  intro row member
  obtain ⟨isRow, isUser⟩ := (ReadModel.mem_posts_of db userId row).mp member
  exact missing (isUser ▸ db.postAuthors row isRow)

end Read

section Agree

variable (python : Interpreter) (userId : String)

theorem flags_determined (gameId : String) (a b : Delivery) (before first second : List Bool)
    (same : a.message = b.message) (moved : FlagsMoved python a userId gameId before first)
    (otherMoved : FlagsMoved python b userId gameId before second) :
    first = second := by
  rw [FlagsMoved, same] at moved
  exact moved.trans otherMoved.symm

theorem items_determined (a b : Delivery) (before first second : List Item) (same : a.message = b.message)
    (moved : ItemsMoved python a before first) (otherMoved : ItemsMoved python b before second) : first = second := by
  rw [ItemsMoved, same] at moved
  rcases moved with ⟨item, grants, rfl⟩ | ⟨nothing, rfl⟩
  · rcases otherMoved with ⟨other, otherGrants, rfl⟩ | ⟨nothing, _⟩
    · obtain ⟨_, _, _, isItem⟩ := grants
      obtain ⟨_, _, _, isOther⟩ := otherGrants
      rw [Option.some.inj (isItem.symm.trans isOther)]
    · exact absurd grants (nothing item)
  · rcases otherMoved with ⟨other, otherGrants, _⟩ | ⟨_, rfl⟩
    · exact absurd otherGrants (nothing other)
    · rfl

theorem shelf_determined (a b : Delivery) (before first second : List (Placed String Int))
    (alike : a.message = b.message ∧ a.io.TiesAlike b.io) (moved : ShelfMoved python a userId before first)
    (otherMoved : ShelfMoved python b userId before second) : first = second := by
  obtain ⟨same, ties⟩ := alike
  rw [ShelfMoved, same] at moved
  rw [ShelfMoved] at otherMoved
  cases isWritten : rowsIn python userId b.message before with
  | none =>
      rw [isWritten] at moved otherMoved
      exact moved.trans otherMoved.symm
  | some written =>
      rw [isWritten] at moved otherMoved
      obtain ⟨rows, isRows, rfl⟩ := moved
      obtain ⟨others, isOthers, rfl⟩ := otherMoved
      rw [ties rows others (isRows.trans isOthers.symm), isRows, isOthers]

theorem merged_apart (log : Topic → List Value) (order : List Delivery)
    (merges : Merges Delivery.topic Delivery.message log order)
    (apart : ∀ message ∈ log .communityEvents, AuthorApart python userId message) (delivery : Delivery)
    (member : delivery ∈ order)
    (isTopic : delivery.topic = .communityEvents) : AuthorApart python userId delivery.message := by
  refine apart _ ?_
  rw [← merges .communityEvents]
  exact List.mem_map_of_mem (List.mem_filter.mpr ⟨member, by simpa using isTopic⟩)

variable (db : ReadModel) (log : Topic → List Value) (order other : List Delivery)
  (merges : Merges Delivery.topic Delivery.message log order)
  (otherMerges : Merges Delivery.topic Delivery.message log other)
  (fresh : FreshRows db order) (otherFresh : FreshRows db other)
  (ties : List.Forall₂ (fun a b => a.io.TiesAlike b.io) (share Delivery.topic .communityEvents order)
    (share Delivery.topic .communityEvents other))
  (missing : userId ∉ db.profiles.keys) (apart : ∀ message ∈ log .communityEvents, AuthorApart python userId message)

include merges otherMerges fresh otherFresh ties missing apart

-- Whatever the interleaving, what the user has is the same.
theorem holdings_agree (io otherIo : Circumstances) (row otherRow : ProfileRow)
    (found : (runDeliveries python db order).profiles.find userId = some row)
    (otherFound : (runDeliveries python db other).profiles.find userId = some otherRow) :
    ∃ profile otherProfile, ((getByUserId io userId).exec [] (runDeliveries python db order)).result =
      .ok (some profile) ∧
      ((getByUserId otherIo userId).exec [] (runDeliveries python db other)).result = .ok (some otherProfile) ∧
      profile.displayName = row.displayName.text ∧ otherProfile.displayName = otherRow.displayName.text ∧
      profile.SameHoldings otherProfile := by
  have pairs := merges_pair Delivery.topic Delivery.message log order other merges otherMerges
  have start : Ranked userId db := by
    rw [Ranked, ReadModel.byRank, missing_shelf userId db missing]
    rfl
  have short : userId.length ≤ 36 := Table.find_key userId _ row found ▸ row.userId.fits.1
  have ownApart := merged_apart python userId log order merges apart
  have otherApart := merged_apart python userId log other otherMerges apart
  have flags : ∀ gameId, (runDeliveries python db order).flags userId gameId =
      (runDeliveries python db other).flags userId gameId := fun gameId =>
    carried_agree _ _ (flags_determined python userId gameId) _ _ (pairs .gameEvents) _ _ _
      (run_flags python userId db order fresh gameId)
      (run_flags python userId db other otherFresh gameId)
  have items := carried_agree _ _ (items_determined python) _ _ (pairs .tradeEvents) _ _ _
    (run_items python db order fresh)
    (run_items python db other otherFresh)
  have shelf := carried_agree _ _ (shelf_determined python userId) _ _
    ((pairs .communityEvents).mp (fun _ _ same alike => ⟨same, alike⟩) ties) _ _ _
      (run_shelf python userId db order fresh start short ownApart)
    (run_shelf python userId db other otherFresh start short otherApart)
  refine ⟨_, _, read_profile userId _ io row found, read_profile userId _ otherIo otherRow otherFound, rfl,
    rfl, ?_, ?_, ?_⟩
  · refine List.perm_iff_count.mpr fun content => ?_
    obtain ⟨gameId, hidden⟩ := content
    dsimp only [toDomainProfile]
    rw [games_count, games_count, flags]
  · dsimp only [toDomainProfile]
    rw [items_content, items_content, items]
  · dsimp only [toDomainProfile]
    rw [posts_content userId _ io
      (run_ranked python userId db order fresh start short ownApart order (List.prefix_refl _)),
      posts_content userId _ otherIo
        (run_ranked python userId db other otherFresh start short otherApart other (List.prefix_refl _)),
      ReadModel.byRank, shelf, ReadModel.byRank]

end Agree

-- The display names that the messages have for the profile, in the order they are handled.
def namesFor (python : Interpreter) (userId : String) (order : List Delivery) : List String :=
  order.filterMap fun delivery => nameFor python userId delivery.topic delivery.message

section Names

variable (python : Interpreter) (userId : String) (db : ReadModel) (missing : userId ∉ db.profiles.keys)

include missing

-- The profile is the one that the first of these messages creates.
theorem found_named (order : List Delivery) (named : namesFor python userId order ≠ []) :
    ∃ row, (runDeliveries python db order).profiles.find userId = some row ∧
      (namesFor python userId order).head? = some row.displayName.text := by
  have name := run_name python userId db order
  have nobody : db.nameOf userId = none := by
    rw [ReadModel.nameOf, (Table.find_none_iff _ _).mpr missing, Option.map_none]
  rw [nobody, Option.none_or, ReadModel.nameOf] at name
  cases found : (runDeliveries python db order).profiles.find userId with
  | none =>
      rw [found] at name
      exact absurd (List.head?_eq_none_iff.mp name.symm) named
  | some row =>
      rw [found] at name
      exact ⟨row, rfl, name.symm⟩

end Names

section Order

variable (python : Interpreter) (userId displayName : String) (db : ReadModel) (log : Topic → List Value)
    (order : List Delivery)
  (registered : Delivery) (later : List Delivery)

-- The profile comes out as if the registration was handled first exactly when the first
-- message with a display name for it has that of the registration.
theorem same_profile_iff (io firstIo : Circumstances) (missing : userId ∉ db.profiles.keys)
    (merges : Merges Delivery.topic Delivery.message log order)
    (firstMerges : Merges Delivery.topic Delivery.message log (registered :: later))
    (isRegistration : registered.topic = .userEvents ∧
      seeding python .userEvents registered.message = some (.str userId, .str displayName))
    (taken : Varchar.Fits 36 userId ∧ Varchar.Takes 64 displayName)
    (apart : ∀ message ∈ log .communityEvents, AuthorApart python userId message)
    (fresh : FreshRows db order) (firstFresh : FreshRows db (registered :: later))
    (ties : List.Forall₂ (fun a b => a.io.TiesAlike b.io) (share Delivery.topic .communityEvents order)
      (share Delivery.topic .communityEvents (registered :: later))) :
    ∃ profile first, ((getByUserId io userId).exec [] (runDeliveries python db order)).result = .ok (some profile) ∧
      ((getByUserId firstIo userId).exec [] (runDeliveries python db (registered :: later))).result = .ok (some first) ∧
      first.displayName = Varchar.cut 64 displayName ∧
      (profile.displayName = displayName ∧ profile.SameHoldings first ↔
        (namesFor python userId order).head? = some displayName) := by
  obtain ⟨isTopic, isSeed⟩ := isRegistration
  have isName : nameFor python userId .userEvents registered.message = some (Varchar.cut 64 displayName) := by
    have stored : Varchar.Takes 36 userId ∧ Varchar.cut 36 userId = userId ∧ Varchar.Takes 64 displayName :=
      ⟨Varchar.takes_fits 36 userId taken.1, Varchar.cut_short 36 userId taken.1.1, taken.2⟩
    rw [nameFor, isSeed]
    exact if_pos stored
  have firstNames : namesFor python userId (registered :: later) =
      Varchar.cut 64 displayName :: namesFor python userId later := by
    rw [namesFor, List.filterMap_cons, isTopic, isName]
    rfl
  have named : namesFor python userId order ≠ [] := by
    have logged : registered.message ∈ log .userEvents := by
      rw [← firstMerges .userEvents]
      exact List.mem_map_of_mem (List.mem_filter.mpr ⟨List.mem_cons_self .., by simpa using isTopic⟩)
    rw [← merges .userEvents] at logged
    obtain ⟨delivery, member, isMessage⟩ := List.mem_map.mp logged
    obtain ⟨isDelivery, onTopic⟩ := List.mem_filter.mp member
    have sameTopic : delivery.topic = .userEvents := by simpa using onTopic
    have hasName : nameFor python userId delivery.topic delivery.message = some (Varchar.cut 64 displayName) := by
      rw [sameTopic, isMessage]
      exact isName
    exact List.ne_nil_of_mem (List.mem_filterMap.mpr ⟨delivery, isDelivery, hasName⟩)
  obtain ⟨row, found, isHead⟩ := found_named python userId db missing order named
  obtain ⟨firstRow, firstFound, isFirst⟩ :=
    found_named python userId db missing (registered :: later) (firstNames ▸ List.cons_ne_nil _ _)
  rw [firstNames, List.head?_cons, Option.some.injEq] at isFirst
  obtain ⟨profile, first, read, firstRead, profileName, firstName, holdings⟩ :=
    holdings_agree python userId db log order
      (registered :: later) merges firstMerges fresh firstFresh ties missing apart io firstIo row firstRow
      found firstFound
  refine ⟨profile, first, read, firstRead, firstName.trans isFirst.symm, ?_⟩
  rw [isHead, Option.some.injEq, profileName]
  exact and_iff_left holdings

end Order

def annRegistered : Delivery :=
  ⟨.userEvents, .sample 1, wrapped "e1" AUTH_USER_REGISTERED [("user_id", .str "u1"), ("display_name", .str "Ann")]⟩

def annGranted : Delivery :=
  ⟨.gameEvents, .sample 2, wrapped "e2" CATALOG_OWNERSHIP_GRANTED [("owner_id", .str "u1"), ("game_id", .str "g1")]⟩

def annReacted : Delivery :=
  ⟨.communityEvents, .sample 3, wrapped "e3" COMMUNITY_POST_REACTED
    [("author_id", .str "u1"), ("display_name", .str "Ann"), ("post_id", .str "p1"), ("feedback_score", .int 3)]⟩

def annTopics : Topic → List Value
  | .userEvents => [annRegistered.message]
  | .gameEvents => [annGranted.message]
  | .tradeEvents => []
  | .communityEvents => [annReacted.message]

theorem sample_ties (first second : Nat) : (Circumstances.sample first).TiesAlike (.sample second) := by
  intro rows rows' same
  have sorted : ∀ rows : List TopPostRow, ((Circumstances.sample first).byScore.arrange rows).map TopPostRow.placed =
      (rows.map TopPostRow.placed).insertionSort fun a b => OrderDual.toDual a.score ≤ OrderDual.toDual b.score := by
    intro rows
    exact List.map_insertionSort _ _ TopPostRow.placed rows fun _ _ _ _ => Iff.rfl
  exact (sorted rows).trans (same ▸ (sorted rows').symm)

theorem ann_apart : ∀ message ∈ annTopics .communityEvents, AuthorApart .sample "u1" message := by
  intro message member envelope parsed author isAuthor _
  cases List.mem_singleton.mp member
  have isAnn : envelope.payload.get "author_id" = some (.str "u1") := by
    cases parsed
    rfl
  cases isAnn.symm.trans isAuthor
  rfl

-- A post with the display name comes first, and then the game.
theorem reacted_first_same_profile :
    ∃ profile first, ((getByUserId (.sample 0) "u1").exec []
      (runDeliveries .sample .empty [annReacted, annGranted, annRegistered])).result =
        .ok (some profile) ∧
      ((getByUserId (.sample 0) "u1").exec []
        (runDeliveries .sample .empty [annRegistered, annGranted, annReacted])).result =
        .ok (some first) ∧
      profile.displayName = "Ann" ∧ profile.SameHoldings first := by
  obtain ⟨profile, first, read, firstRead, _, same⟩ :=
    same_profile_iff .sample "u1" "Ann" .empty annTopics [annReacted, annGranted, annRegistered] annRegistered
      [annGranted, annReacted]
      (.sample 0) (.sample 0) List.not_mem_nil (fun topic => by cases topic <;> rfl)
        (fun topic => by cases topic <;> rfl) ⟨rfl, rfl⟩
      (by decide) ann_apart
      ⟨by decide, fun _ _ => List.not_mem_nil⟩ ⟨by decide, fun _ _ => List.not_mem_nil⟩ (.cons (sample_ties 3 3) .nil)
  exact ⟨profile, first, read, firstRead, same.mpr rfl⟩

-- A game granted before the registration is handled leaves the profile without a name.
theorem granted_first_unnamed :
    Merges Delivery.topic Delivery.message annTopics [annGranted, annRegistered, annReacted] ∧
      Merges Delivery.topic Delivery.message annTopics [annRegistered, annGranted, annReacted] ∧
      ∃ profile, ((getByUserId (.sample 0) "u1").exec []
        (runDeliveries .sample .empty [annGranted, annRegistered, annReacted])).result =
          .ok (some profile) ∧ profile.displayName ≠ "Ann" := by
  refine ⟨fun topic => ?_, fun topic => ?_, _, rfl, ?_⟩
  · cases topic <;> rfl
  · cases topic <;> rfl
  · decide

end AuthProfile
