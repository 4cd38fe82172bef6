import AuthProfile.InventoryAttempts
import AuthProfile.Messaging.Consumer

set_option autoImplicit false

namespace AuthProfile

open Relation Process ProfileRepository

-- A message with its deliveries, each with the attempts that its retries or a crash leave room for.
structure Delivered where
  message : Value
  deliveries : List (List (Attempt Circumstances))

section Run

variable (python : Interpreter) (maxRetries : Nat)

def inventoryConsumer : KafkaConsumerBase Circumstances Value ReadModel := ⟨handleMarketplaceEvents python, maxRetries⟩

def deliverAll (message : Value) (db : ReadModel) (deliveries : List (List (Attempt Circumstances))) : ReadModel :=
  deliveries.foldl (fun db attempts =>
    ((inventoryConsumer python maxRetries).handleWithRetry message attempts db).store) db

def runInventory (db : ReadModel) (log : List Delivered) : ReadModel :=
  log.foldl (fun db entry => deliverAll python maxRetries entry.message db entry.deliveries) db

-- Each message that grants an item gets one attempt that completes.
def Granting (db : ReadModel) (log : List Delivered) : Prop :=
  ∀ before entry after, log = before ++ entry :: after → itemOf python entry.message ≠ none →
    ∃ first attempts later, entry.deliveries = first ++ attempts :: later ∧
      .ok () ∈ ((inventoryConsumer python maxRetries).handleWithRetry entry.message attempts
        (deliverAll python maxRetries entry.message (runInventory python maxRetries db before) first)).results

end Run

-- How often the INSERT commits: every attempt until one returns.
def landings : List (Attempt Circumstances) → Nat
  | [] => 0
  | attempt :: later =>
      if completes attempt.script then 1 else (if lands attempt.script then 1 else 0) + landings later

def rowIds (attempts : List (Attempt Circumstances)) : List String := attempts.map fun attempt => attempt.io.rowId.text

def Delivered.rowIds (entry : Delivered) : List String := entry.deliveries.flatMap AuthProfile.rowIds

def Delivered.landings (maxRetries : Nat) (entry : Delivered) : Nat :=
  (entry.deliveries.map fun attempts => AuthProfile.landings (attempts.take maxRetries)).sum

section Fresh

-- uuid4 hands out ids that no row has.
def FreshItems (db : ReadModel) (ids : List String) : Prop := ids.Nodup ∧ ∀ id ∈ ids, id ∉ db.ownedItems.keys

def Takes (ids : List String) (before after : ReadModel) : Prop :=
  ∀ id ∈ after.ownedItems.keys, id ∈ before.ownedItems.keys ∨ id ∈ ids

theorem takes_refl (ids : List String) (db : ReadModel) : Takes ids db db := fun _ member => Or.inl member

theorem takes_append (first later : List String) (a b c : ReadModel) (ab : Takes first a b) (bc : Takes later b c) :
    Takes (first ++ later) a c := by
  intro id member
  rw [List.mem_append]
  rcases bc id member with old | isLater
  · rcases ab id old with older | isFirst
    · exact Or.inl older
    · exact Or.inr (Or.inl isFirst)
  · exact Or.inr (Or.inr isLater)

theorem takes_mono (ids more : List String) (a b : ReadModel) (sub : ∀ id ∈ ids, id ∈ more) (takes : Takes ids a b) :
    Takes more a b :=
  fun id member => (takes id member).imp_right (sub id)

theorem fresh_rest (first later : List String) (a b : ReadModel) (takes : Takes first a b)
    (fresh : FreshItems a (first ++ later)) :
    FreshItems b later := by
  obtain ⟨distinct, isNew⟩ := fresh
  obtain ⟨_, laterDistinct, apart⟩ := List.nodup_append.mp distinct
  refine ⟨laterDistinct, fun id member taken => ?_⟩
  rcases takes id taken with old | isFirst
  · exact isNew id (List.mem_append_right _ member) old
  · exact apart id isFirst id member rfl

end Fresh

section Deliveries

variable (python : Interpreter) (maxRetries : Nat) (message : Value)

theorem attempt_takes (attempt : Attempt Circumstances) (db : ReadModel) :
    Takes [attempt.io.rowId.text] db ((inventoryConsumer python maxRetries).attempt message attempt db).store := by
  rcases Prog.wp_exec _ _ _ (marketplace_attempted python message attempt.io db) attempt.script with
    ⟨same, _⟩ | ⟨row, _, _, _, isKey, added⟩
  · exact fun id member => Or.inl (same ▸ member)
  · intro id member
    have grown := (Table.mem_keys_added row _ _ added id).mp member
    exact grown.imp_right fun same => List.mem_singleton.mpr (same.trans isKey)

theorem try_all_takes (attempts : List (Attempt Circumstances)) (db : ReadModel) :
    Takes (rowIds attempts) db ((inventoryConsumer python maxRetries).tryAll message attempts db).store := by
  induction attempts generalizing db with
  | nil => exact takes_refl _ db
  | cons attempt later ih =>
      have first := attempt_takes python maxRetries message attempt db
      simp only [KafkaConsumerBase.tryAll]
      cases ((inventoryConsumer python maxRetries).attempt message attempt db).result with
      | ok done =>
          exact takes_mono _ _ _ _ (fun id member => List.mem_cons.mpr (Or.inl (List.mem_singleton.mp member))) first
      | error error => exact takes_append _ _ _ _ _ first (ih _)

theorem delivery_takes (attempts : List (Attempt Circumstances)) (db : ReadModel) :
    Takes (rowIds attempts) db ((inventoryConsumer python maxRetries).handleWithRetry message attempts db).store := by
  refine takes_mono _ _ _ _ (fun id member => ?_)
    (try_all_takes python maxRetries message (attempts.take maxRetries) db)
  obtain ⟨attempt, taken, isId⟩ := List.mem_map.mp member
  exact isId ▸ List.mem_map_of_mem (List.mem_of_mem_take taken)

theorem try_all_items (item : Item) (kept : item.Kept) (grants : Grants python message item)
    (attempts : List (Attempt Circumstances)) (db : ReadModel) (fresh : FreshItems db (rowIds attempts)) :
    ((inventoryConsumer python maxRetries).tryAll message attempts db).store.items =
        db.items ++ List.replicate (landings attempts) item ∧
      (.ok () ∈ ((inventoryConsumer python maxRetries).tryAll message attempts db).results →
        1 ≤ landings attempts) := by
  induction attempts generalizing db with
  | nil => exact ⟨(List.append_nil _).symm, fun wrong => nomatch wrong⟩
  | cons attempt later ih =>
      have isNew := fresh.2 attempt.io.rowId.text (List.mem_cons_self ..)
      have rest := fresh_rest [attempt.io.rowId.text] (rowIds later) db _
        (attempt_takes python maxRetries message attempt db) fresh
      obtain ⟨items, returns⟩ := granted_exec python message item kept grants attempt.io attempt.script db isNew
      change ((inventoryConsumer python maxRetries).attempt message attempt db).store.items = _ at items
      change ((inventoryConsumer python maxRetries).attempt message attempt db).result = _ ↔ _ at returns
      simp only [KafkaConsumerBase.tryAll, landings]
      cases result : ((inventoryConsumer python maxRetries).attempt message attempt db).result with
      | ok done =>
          have whole := returns.mp result
          have landed : lands attempt.script = true := lands_of_completes attempt.script whole
          rw [if_pos whole]
          refine ⟨?_, fun _ => Nat.le_refl 1⟩
          rw [items, if_pos landed]
          rfl
      | error error =>
          have notWhole : ¬ completes attempt.script = true := by
            intro whole
            rw [returns.mpr whole] at result
            cases result
          obtain ⟨later, counted⟩ := ih _ rest
          rw [if_neg notWhole]
          refine ⟨?_, fun member => ?_⟩
          · dsimp only
            rw [later, items, List.append_assoc, List.replicate_add]
            congr 2
            by_cases landed : lands attempt.script = true <;> simp [landed]
          · rcases List.mem_cons.mp member with wrong | there
            · cases wrong
            · exact Nat.le_trans (counted there) (Nat.le_add_left _ _)

theorem grants_item (item : Item) (grants : Grants python message item) : itemOf python message = some item :=
  grants.elim fun _ parts => parts.2.2

-- A message that grants nothing leaves every inventory alone.
theorem delivery_silent (nothing : itemOf python message = none) (attempts : List (Attempt Circumstances))
    (db : ReadModel) :
    ((inventoryConsumer python maxRetries).handleWithRetry message attempts db).store.items = db.items := by
  refine ((inventoryConsumer python maxRetries).try_all_rule message (fun after => after.items = db.items)
    (fun _ => True)
    (fun io s kept => ?_) (attempts.take maxRetries) db rfl).1
  refine Prog.wp_mono _ _ _ s (fun result after attempted => ?_) (marketplace_attempted python message io s)
  rcases attempted with ⟨same, _⟩ | ⟨_, item, grants, _⟩
  · exact ⟨by rw [ReadModel.items, same, ← kept, ReadModel.items], fun _ => trivial⟩
  · cases nothing.symm.trans (grants_item python message item grants)

theorem delivery_returns (attempts : List (Attempt Circumstances)) (db : ReadModel)
    (returned : .ok () ∈ ((inventoryConsumer python maxRetries).handleWithRetry message attempts db).results) :
    ∀ item, itemOf python message = some item → Grants python message item := by
  refine ((inventoryConsumer python maxRetries).try_all_rule message (fun _ => True)
    (fun _ => ∀ item, itemOf python message = some item → Grants python message item) (fun io s _ => ?_)
    (attempts.take maxRetries) db trivial).2 returned
  refine Prog.wp_mono _ _ _ s (fun result after attempted => ⟨trivial, fun isOk => ?_⟩)
    (marketplace_attempted python message io s)
  intro item isItem
  rcases attempted with ⟨_, silent⟩ | ⟨_, granted, grants, _⟩
  · cases (silent isOk).symm.trans isItem
  · cases (grants_item python message granted grants).symm.trans isItem
    exact grants

theorem row_ids_take (n : Nat) (attempts : List (Attempt Circumstances)) :
    (rowIds (attempts.take n)).Sublist (rowIds attempts) := (List.take_sublist n attempts).map _

theorem deliver_all_takes (deliveries : List (List (Attempt Circumstances))) (db : ReadModel) :
    Takes (deliveries.flatMap rowIds) db (deliverAll python maxRetries message db deliveries) := by
  induction deliveries generalizing db with
  | nil => exact takes_refl _ db
  | cons attempts later ih =>
      rw [List.flatMap_cons]
      exact takes_append _ _ _ _ _ (delivery_takes python maxRetries message attempts db) (ih _)

theorem deliver_all_items (item : Item) (kept : item.Kept) (grants : Grants python message item)
    (deliveries : List (List (Attempt Circumstances)))
    (db : ReadModel) (fresh : FreshItems db (deliveries.flatMap rowIds)) :
    (deliverAll python maxRetries message db deliveries).items =
      db.items ++ List.replicate (deliveries.map fun attempts => landings (attempts.take maxRetries)).sum item := by
  induction deliveries generalizing db with
  | nil => exact (List.append_nil _).symm
  | cons attempts later ih =>
      rw [List.flatMap_cons] at fresh
      have rest := fresh_rest _ _ db _ (delivery_takes python maxRetries message attempts db) fresh
      have here : FreshItems db (rowIds (attempts.take maxRetries)) :=
        ⟨(List.nodup_append.mp fresh.1).1.sublist (row_ids_take maxRetries attempts), fun id member =>
          fresh.2 id (List.mem_append_left _ ((row_ids_take maxRetries attempts).mem member))⟩
      have items := (try_all_items python maxRetries message item kept grants (attempts.take maxRetries) db here).1
      rw [List.map_cons, List.sum_cons, List.replicate_add, ← List.append_assoc]
      exact (ih _ rest).trans (congrArg (· ++ _) items)

theorem deliver_all_silent (nothing : itemOf python message = none) (deliveries : List (List (Attempt Circumstances)))
    (db : ReadModel) : (deliverAll python maxRetries message db deliveries).items = db.items := by
  induction deliveries generalizing db with
  | nil => rfl
  | cons attempts later ih => exact (ih _).trans (delivery_silent python maxRetries message nothing attempts db)

end Deliveries

section Log

variable (python : Interpreter) (maxRetries : Nat)

-- The rows that a message leaves behind.
def Delivered.rows (entry : Delivered) : List Item :=
  (itemOf python entry.message).elim [] (List.replicate (entry.landings maxRetries))

-- Every item that the log grants has ids that the columns keep.
def AllKept (log : List Delivered) : Prop := ∀ entry ∈ log, ∀ item, itemOf python entry.message = some item → item.Kept

theorem entry_items (entry : Delivered) (db : ReadModel) (fresh : FreshItems db entry.rowIds)
    (granting : ∀ item, itemOf python entry.message = some item → item.Kept ∧ Grants python entry.message item) :
    (deliverAll python maxRetries entry.message db entry.deliveries).items = db.items ++
      entry.rows python maxRetries := by
  rw [Delivered.rows]
  cases isItem : itemOf python entry.message with
  | none =>
      rw [Option.elim_none, List.append_nil]
      exact deliver_all_silent python maxRetries entry.message isItem entry.deliveries db
  | some item =>
      obtain ⟨kept, grants⟩ := granting item isItem
      exact deliver_all_items python maxRetries entry.message item kept grants entry.deliveries db fresh

theorem run_inventory_takes (log : List Delivered) (db : ReadModel) :
    Takes (log.flatMap Delivered.rowIds) db (runInventory python maxRetries db log) := by
  induction log generalizing db with
  | nil => exact takes_refl _ db
  | cons entry later ih =>
      rw [List.flatMap_cons]
      exact takes_append _ _ _ _ _ (deliver_all_takes python maxRetries entry.message entry.deliveries db) (ih _)

theorem granting_grants (db : ReadModel) (log : List Delivered) (granting : Granting python maxRetries db log)
    (entry : Delivered) (member : entry ∈ log) (item : Item) (isItem : itemOf python entry.message = some item) :
    Grants python entry.message item := by
  obtain ⟨before, after, split⟩ := List.append_of_mem member
  obtain ⟨first, attempts, later, _, returned⟩ := granting before entry after split (isItem ▸ Option.some_ne_none item)
  exact delivery_returns python maxRetries entry.message attempts _ returned item isItem

theorem run_inventory_items (log : List Delivered) (db : ReadModel)
    (fresh : FreshItems db (log.flatMap Delivered.rowIds))
    (granting : ∀ entry ∈ log, ∀ item, itemOf python entry.message = some item → item.Kept ∧
      Grants python entry.message item) :
    (runInventory python maxRetries db log).items = db.items ++ log.flatMap (Delivered.rows python maxRetries) := by
  induction log generalizing db with
  | nil => exact (List.append_nil _).symm
  | cons entry later ih =>
      rw [List.flatMap_cons] at fresh
      have rest := fresh_rest _ _ db _ (deliver_all_takes python maxRetries entry.message entry.deliveries db) fresh
      have here : FreshItems db entry.rowIds :=
        ⟨(List.nodup_append.mp fresh.1).1, fun id member => fresh.2 id (List.mem_append_left _ member)⟩
      have first := entry_items python maxRetries entry db here (granting entry (List.mem_cons_self ..))
      rw [List.flatMap_cons, ← List.append_assoc, ← first]
      exact ih _ rest fun other member => granting other (List.mem_cons_of_mem _ member)

-- A message that gets a completing attempt lands at least once.
theorem granting_lands (log : List Delivered) (db : ReadModel) (fresh : FreshItems db (log.flatMap Delivered.rowIds))
    (granting : Granting python maxRetries db log) (entry : Delivered) (member : entry ∈ log)
    (item : Item) (isItem : itemOf python entry.message = some item) (kept : item.Kept) :
    1 ≤ entry.landings maxRetries := by
  obtain ⟨before, after, rfl⟩ := List.append_of_mem member
  obtain ⟨first, attempts, later, split, returned⟩ :=
    granting before entry after rfl (isItem ▸ Option.some_ne_none item)
  have grants := granting_grants python maxRetries db _ granting entry member item isItem
  rw [List.flatMap_append, List.flatMap_cons, Delivered.rowIds, split, List.flatMap_append, List.flatMap_cons,
    List.append_assoc,
    List.append_assoc] at fresh
  have atMessage := fresh_rest _ _ db _ (run_inventory_takes python maxRetries before db) fresh
  have atDelivery := fresh_rest _ _ _ _ (deliver_all_takes python maxRetries entry.message first _) atMessage
  have here : FreshItems (deliverAll python maxRetries entry.message (runInventory python maxRetries db before) first)
      (rowIds (attempts.take maxRetries)) :=
    ⟨(List.nodup_append.mp atDelivery.1).1.sublist (row_ids_take maxRetries attempts), fun id isId =>
      atDelivery.2 id (List.mem_append_left _ ((row_ids_take maxRetries attempts).mem isId))⟩
  have landed := (try_all_items python maxRetries entry.message item kept grants _ _ here).2 returned
  rw [Delivered.landings, split, List.map_append, List.map_cons, List.sum_append, List.sum_cons]
  omega

end Log

section Counting

variable {α β : Type} (content : α → Option β) (times : α → Nat)

theorem repeated_length (entries : List α) (some : ∀ entry ∈ entries, content entry ≠ none → 1 ≤ times entry) :
    (entries.filterMap content).length ≤
      (entries.flatMap fun entry => (content entry).elim [] (List.replicate (times entry))).length ∧
      ((entries.flatMap fun entry => (content entry).elim [] (List.replicate (times entry))).length =
        (entries.filterMap content).length →
        ∀ entry ∈ entries, content entry ≠ none → times entry = 1) := by
  induction entries with
  | nil => exact ⟨Nat.le_refl _, fun _ entry member => nomatch member⟩
  | cons entry later ih =>
      obtain ⟨bound, exact⟩ := ih fun other member => some other (List.mem_cons_of_mem _ member)
      rw [List.flatMap_cons, List.length_append]
      cases isContent : content entry with
      | none =>
          rw [List.filterMap_cons_none isContent, Option.elim_none, List.length_nil, Nat.zero_add]
          refine ⟨bound, fun same other member isSome => ?_⟩
          rcases List.mem_cons.mp member with rfl | there
          · exact absurd isContent isSome
          · exact exact same other there isSome
      | some value =>
          have positive := some entry (List.mem_cons_self ..) (isContent ▸ Option.some_ne_none value)
          rw [List.filterMap_cons_some isContent, Option.elim_some, List.length_replicate, List.length_cons]
          refine ⟨by omega, fun same other member isSome => ?_⟩
          rcases List.mem_cons.mp member with rfl | there
          · omega
          · exact exact (by omega) other there isSome

theorem repeated_once (entries : List α) (once : ∀ entry ∈ entries, content entry ≠ none → times entry = 1) :
    (entries.flatMap fun entry => (content entry).elim [] (List.replicate (times entry))) =
      entries.filterMap content := by
  induction entries with
  | nil => rfl
  | cons entry later ih =>
      rw [List.flatMap_cons, ih fun other member => once other (List.mem_cons_of_mem _ member)]
      cases isContent : content entry with
      | none => rw [List.filterMap_cons_none isContent, Option.elim_none, List.nil_append]
      | some value =>
          rw [List.filterMap_cons_some isContent,
            once entry (List.mem_cons_self ..) (isContent ▸ Option.some_ne_none value)]
          rfl

theorem repeated_perm_iff (entries : List α) (some : ∀ entry ∈ entries, content entry ≠ none → 1 ≤ times entry) :
    (entries.flatMap fun entry => (content entry).elim [] (List.replicate (times entry))).Perm
      (entries.filterMap content) ↔
      ∀ entry ∈ entries, content entry ≠ none → times entry = 1 :=
  ⟨fun perm => (repeated_length content times entries some).2 perm.length_eq,
    fun once => List.Perm.of_eq (repeated_once content times entries once)⟩

end Counting

theorem items_kept (db : ReadModel) (item : Item) (member : item ∈ db.items) : item.Kept := by
  obtain ⟨row, _, rfl⟩ := List.mem_map.mp member
  exact row_item_kept row

-- Every granted item lands once exactly when the columns keep its ids and the INSERT of
-- its message commits in exactly one of the attempts at it.
theorem granted_once_iff (python : Interpreter) (maxRetries : Nat) (db : ReadModel) (log : List Delivered)
    (empty : db.ownedItems.rows = []) (distinct : (log.flatMap Delivered.rowIds).Nodup)
    (granting : Granting python maxRetries db log) :
    (runInventory python maxRetries db log).items.Perm (log.filterMap fun entry => itemOf python entry.message) ↔
      ∀ entry ∈ log, ∀ item, itemOf python entry.message = some item → item.Kept ∧ entry.landings maxRetries = 1 := by
  by_cases kept : AllKept python log
  · have fresh : FreshItems db (log.flatMap Delivered.rowIds) := ⟨distinct, fun id _ => by simp [Table.keys, empty]⟩
    have items := run_inventory_items python maxRetries log db fresh fun entry member item isItem =>
      ⟨kept entry member item isItem, granting_grants python maxRetries db log granting entry member item isItem⟩
    have start : db.items = [] := by rw [ReadModel.items, empty, List.map_nil]
    rw [items, start, List.nil_append]
    refine (repeated_perm_iff (fun entry : Delivered => itemOf python entry.message) (Delivered.landings maxRetries) log
      fun entry member isSome => ?_).trans ⟨fun once entry member item isItem => ?_, fun once entry member isSome => ?_⟩
    · obtain ⟨item, isItem⟩ := Option.ne_none_iff_exists'.mp isSome
      exact granting_lands python maxRetries log db fresh granting entry member item isItem
        (kept entry member item isItem)
    · exact ⟨kept entry member item isItem, once entry member (isItem ▸ Option.some_ne_none item)⟩
    · obtain ⟨item, isItem⟩ := Option.ne_none_iff_exists'.mp isSome
      exact (once entry member item isItem).2
  · refine iff_of_false (fun perm => kept fun entry member item isItem => ?_) fun once => kept
      fun entry member item isItem => (once entry member item isItem).1
    exact items_kept _ item (perm.mem_iff.mpr (List.mem_filterMap.mpr ⟨entry, member, isItem⟩))

def sampleGrant : Value :=
  wrapped "e1" MARKETPLACE_ITEM_GRANTED [("user_id", .str "u1"), ("item_id", .str "i1"), ("game_id", .str "g1")]

-- The first attempt loses its connection before the commit of the INSERT.
def refusedOnce : List Delivered :=
  [⟨sampleGrant, [[⟨.sample 1, List.replicate 6 .none ++ [.before]⟩, ⟨.sample 2, []⟩]]⟩]

theorem refused_once_granting : Granting .sample 3 .empty refusedOnce := by
  intro before entry after split _
  cases before with
  | nil =>
      cases split
      exact ⟨[], _, [], rfl, by decide⟩
  | cons first rest =>
      have lengths := congrArg List.length split
      simp only [refusedOnce, List.length_cons, List.length_append, List.length_nil] at lengths
      omega

theorem refused_once_lands :
    (runInventory .sample 3 .empty refusedOnce).items.Perm
      (refusedOnce.filterMap fun entry => itemOf .sample entry.message) ↔
      ∀ entry ∈ refusedOnce, ∀ item, itemOf .sample entry.message = some item → item.Kept ∧ entry.landings 3 = 1 :=
  granted_once_iff .sample 3 .empty refusedOnce rfl (by decide) refused_once_granting

-- The commit goes through and its answer is lost.
def answerLost : List Delivered :=
  [⟨sampleGrant, [[⟨.sample 1, List.replicate 6 .none ++ [.after]⟩, ⟨.sample 2, []⟩]]⟩]

theorem answer_lost_lands_twice :
    .ok () ∈ ((inventoryConsumer .sample 3).handleWithRetry sampleGrant
      [⟨.sample 1, List.replicate 6 .none ++ [.after]⟩, ⟨.sample 2, []⟩]
        .empty).results ∧
      ¬ (runInventory .sample 3 .empty answerLost).items.Perm
        (answerLost.filterMap fun entry => itemOf .sample entry.message) := by
  refine ⟨by decide, fun perm => ?_⟩
  have lengths := perm.length_eq
  revert lengths
  decide

end AuthProfile
