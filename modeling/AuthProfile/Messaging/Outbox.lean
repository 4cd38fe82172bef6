import AuthProfile.Db.OutboxGrowth
import AuthProfile.Messaging.Poll

set_option autoImplicit false

namespace AuthProfile

open Relation Process

namespace Db

-- Rows are only ever marked: each is as it was, or dispatched since.
def Marks (before after : Db) : Prop :=
  ∀ id, after.outbox.find id = before.outbox.find id ∨
    ∃ now, after.outbox.find id = (before.outbox.find id).map fun row => marked row now

theorem marks_refl (db : Db) : Marks db db := fun _ => Or.inl rfl

theorem marks_trans (a b c : Db) (ab : Marks a b) (bc : Marks b c) : Marks a c := by
  intro id
  rcases bc id with same | ⟨later, markedLater⟩
  · rw [same]
    exact ab id
  · right
    rcases ab id with same | ⟨earlier, markedEarlier⟩
    · exact ⟨later, by rw [markedLater, same]⟩
    · refine ⟨later, ?_⟩
      rw [markedLater, markedEarlier, Option.map_map]
      rfl

theorem marks_mark (id : String) (now : Time) (db : Db) : Marks db (db.markDispatched id now) := by
  intro other
  by_cases same : other = id
  · exact Or.inr ⟨now, same ▸ find_mark_same id now db⟩
  · exact Or.inl (find_mark_other id other now db same)

theorem marks_undispatched (before after : Db) (marks : Marks before after) (id : String) (row : OutboxRow)
    (found : after.outbox.find id = some row) (waiting : row.dispatched = false) :
    before.outbox.find id = some row := by
  rcases marks id with same | ⟨now, isMarked⟩
  · exact same ▸ found
  · rw [found] at isMarked
    cases old : before.outbox.find id with
    | none =>
        rw [old] at isMarked
        cases isMarked
    | some earlier =>
        rw [old, Option.map_some, Option.some.injEq] at isMarked
        rw [isMarked] at waiting
        cases waiting

theorem marks_found (before after : Db) (marks : Marks before after) (id : String) (row : OutboxRow)
    (found : before.outbox.find id = some row) :
    after.outbox.find id = some row ∨ ∃ now, after.outbox.find id = some (marked row now) := by
  rcases marks id with same | ⟨now, isMarked⟩
  · exact Or.inl (same.trans found)
  · exact Or.inr ⟨now, by rw [isMarked, found]; rfl⟩

theorem marks_dispatched (before after : Db) (marks : Marks before after) (id : String) (row : OutboxRow)
    (found : before.outbox.find id = some row) (sent : row.dispatched = true) :
    ∃ later, after.outbox.find id = some later ∧ later.dispatched = true := by
  rcases marks_found before after marks id row found with same | ⟨now, isMarked⟩
  · exact ⟨row, same, sent⟩
  · exact ⟨_, isMarked, rfl⟩

-- Rows stay, as they are or marked, while the dispatcher polls and other rows are added.
def Keeps (before after : Db) : Prop :=
  ∀ id row, before.outbox.find id = some row →
    after.outbox.find id = some row ∨ ∃ now, after.outbox.find id = some (marked row now)

theorem keeps_refl (db : Db) : Keeps db db := fun _ _ => Or.inl

theorem keeps_marks (a b c : Db) (ab : Keeps a b) (bc : Marks b c) : Keeps a c := by
  intro id row found
  rcases ab id row found with same | ⟨earlier, isMarked⟩
  · exact marks_found b c bc id row same
  · rcases marks_found b c bc id _ isMarked with same | ⟨later, again⟩
    · exact Or.inr ⟨earlier, same⟩
    · exact Or.inr ⟨later, again⟩

theorem keeps_grows (a b c : Db) (ab : Keeps a b) (bc : OutboxGrows b c) : Keeps a c := by
  intro id row found
  rcases ab id row found with same | ⟨earlier, isMarked⟩
  · exact Or.inl (grows_found b c bc id row same)
  · exact Or.inr ⟨earlier, grows_found b c bc id _ isMarked⟩

end Db

namespace RelayStores

def Published (stores : RelayStores) (id : String) : Prop := ∃ message ∈ stores.published, message.eventId = some id

def Dispatched (stores : RelayStores) (id : String) : Prop :=
  ∃ row, stores.db.outbox.find id = some row ∧ row.dispatched = true

def SentSince (start stores : RelayStores) : Prop :=
  ∀ id, stores.Dispatched id → start.Dispatched id ∨ stores.Published id

end RelayStores

namespace OutboxDispatcher

section Offer

variable (settings : RelaySettings) (poll : Poll)

theorem mem_undispatched (db : Db) (row : OutboxRow) :
    row ∈ db.undispatched ↔ db.outbox.find row.id.text = some row ∧ row.dispatched = false := by
  rw [Db.undispatched, List.mem_filter, Table.mem_iff_find, Bool.not_eq_true']
  exact Iff.rfl

theorem batch_waiting (db : Db) (row : OutboxRow) (member : row ∈ selectBatch settings poll db) :
    db.outbox.find row.id.text = some row ∧ row.dispatched = false :=
  (mem_undispatched db row).mp ((poll.order.mem_arrange db.undispatched row).mp (List.mem_of_mem_take member))

theorem offer_published (stores : RelayStores) (row : OutboxRow) :
    (offer settings poll stores row).published = stores.published ++ (outgoing settings poll.accepts row).toList := by
  rw [offer]
  cases outgoing settings poll.accepts row with
  | none => exact (List.append_nil _).symm
  | some message => rfl

theorem offer_marks (stores : RelayStores) (row : OutboxRow) :
    Db.Marks stores.db (offer settings poll stores row).db := by
  rw [offer]
  cases outgoing settings poll.accepts row with
  | none => exact Db.marks_refl stores.db
  | some message => exact Db.marks_mark _ _ stores.db

theorem offer_sent (start stores : RelayStores) (row : OutboxRow) (sent : start.SentSince stores) :
    start.SentSince (offer settings poll stores row) := by
  rw [offer]
  cases out : outgoing settings poll.accepts row with
  | none => exact sent
  | some message =>
      rintro id ⟨after, found, isSent⟩
      dsimp only at found
      by_cases here : id = row.id.text
      · obtain ⟨_, built⟩ := outgoing_ok settings poll.accepts row message out
        exact Or.inr ⟨message, List.mem_append_right _ (List.mem_singleton_self _),
          here ▸ message_event_id settings row message built⟩
      · rw [Db.find_mark_other row.id.text id _ _ here] at found
        rcases sent id ⟨after, found, isSent⟩ with before | ⟨old, member, isId⟩
        · exact Or.inl before
        · exact Or.inr ⟨old, List.mem_append_left _ member, isId⟩

theorem fold_published (rows : List OutboxRow) (stores : RelayStores) :
    (rows.foldl (offer settings poll) stores).published = stores.published ++
      rows.filterMap (outgoing settings poll.accepts) := by
  induction rows generalizing stores with
  | nil => exact (List.append_nil _).symm
  | cons row rows ih =>
      rw [List.foldl_cons, ih, offer_published, List.append_assoc, List.filterMap_cons]
      cases outgoing settings poll.accepts row <;> rfl

theorem fold_marks (rows : List OutboxRow) (stores : RelayStores) :
    Db.Marks stores.db (rows.foldl (offer settings poll) stores).db := by
  induction rows generalizing stores with
  | nil => exact Db.marks_refl stores.db
  | cons row rows ih => exact Db.marks_trans _ _ _ (offer_marks settings poll stores row) (ih _)

theorem fold_sent (rows : List OutboxRow) (start stores : RelayStores) (sent : start.SentSince stores) :
    start.SentSince (rows.foldl (offer settings poll) stores) := by
  induction rows generalizing stores with
  | nil => exact sent
  | cons row rows ih => exact ih _ (offer_sent settings poll start stores row sent)

theorem fold_dispatched (rows : List OutboxRow) (stores : RelayStores) (row : OutboxRow) (member : row ∈ rows)
    (message : Message)
    (out : outgoing settings poll.accepts row = some message) (stored : row.id.text ∈ stores.db.outbox.keys) :
    ∃ after, (rows.foldl (offer settings poll) stores).db.outbox.find row.id.text = some after ∧
      after.dispatched = true := by
  induction rows generalizing stores with
  | nil => exact nomatch member
  | cons first rows ih =>
      rw [List.foldl_cons]
      rcases List.mem_cons.mp member with isFirst | later
      · subst isFirst
        obtain ⟨old, found⟩ : ∃ old, stores.db.outbox.find row.id.text = some old :=
          Option.ne_none_iff_exists'.mp fun absent => (Table.find_none_iff _ _).mp absent stored
        have here : (offer settings poll stores row).db.outbox.find row.id.text =
            some (Db.marked old (poll.now row)) := by
          rw [offer, out]
          exact (Db.find_mark_same _ _ _).trans (by rw [found]; rfl)
        exact Db.marks_dispatched _ _ (fold_marks settings poll rows _) _ _ here rfl
      · have kept : row.id.text ∈ (offer settings poll stores first).db.outbox.keys := by
          rw [offer]
          cases outgoing settings poll.accepts first with
          | none => exact stored
          | some sent =>
              dsimp only
              rw [Db.mark_keys]
              exact stored
        exact ih _ later kept

theorem fold_untouched (rows : List OutboxRow) (stores : RelayStores) (id : String)
    (silent : ∀ row ∈ rows, outgoing settings poll.accepts row ≠ none → row.id.text ≠ id) :
    (rows.foldl (offer settings poll) stores).db.outbox.find id = stores.db.outbox.find id := by
  induction rows generalizing stores with
  | nil => rfl
  | cons row rows ih =>
      rw [List.foldl_cons, ih _ fun other member => silent other (List.mem_cons_of_mem _ member), offer]
      cases out : outgoing settings poll.accepts row with
      | none => rfl
      | some message =>
          have different := silent row (List.mem_cons_self ..) (by rw [out]; exact Option.some_ne_none _)
          exact Db.find_mark_other _ id _ _ different.symm

-- The first row of the batch goes out, and with it the batch.
def Leads (stores : RelayStores) (poll : Poll) : Prop :=
  ∃ row rows, selectBatch settings poll stores.db = row :: rows ∧ outgoing settings poll.accepts row ≠ none

theorem polled_leads (stores : RelayStores) (leads : Leads settings stores poll) :
    polled settings stores poll = (selectBatch settings poll stores.db).foldl (offer settings poll) stores := by
  obtain ⟨row, rows, isBatch, out⟩ := leads
  rw [polled, isBatch]
  dsimp only
  cases sent : outgoing settings poll.accepts row with
  | none => exact absurd sent out
  | some message => rfl

theorem polled_stays (stores : RelayStores) (blocked : ¬ Leads settings stores poll) :
    polled settings stores poll = stores := by
  rw [polled]
  cases isBatch : selectBatch settings poll stores.db with
  | nil => rfl
  | cons row rows =>
      dsimp only
      cases sent : outgoing settings poll.accepts row with
      | none => rfl
      | some message => exact absurd ⟨row, rows, isBatch, by rw [sent]; exact Option.some_ne_none _⟩ blocked

theorem polled_cases (stores : RelayStores) :
    (¬ Leads settings stores poll ∧ polled settings stores poll = stores) ∨
      (Leads settings stores poll ∧
        polled settings stores poll = (selectBatch settings poll stores.db).foldl (offer settings poll) stores) := by
  by_cases leads : Leads settings stores poll
  · exact Or.inr ⟨leads, polled_leads settings poll stores leads⟩
  · exact Or.inl ⟨leads, polled_stays settings poll stores leads⟩

theorem polled_marks (stores : RelayStores) : Db.Marks stores.db (polled settings stores poll).db := by
  rcases polled_cases settings poll stores with ⟨_, same⟩ | ⟨_, offered⟩
  · rw [same]
    exact Db.marks_refl stores.db
  · rw [offered]
    exact fold_marks settings poll _ stores

theorem polled_sent (start stores : RelayStores) (sent : start.SentSince stores) :
    start.SentSince (polled settings stores poll) := by
  rcases polled_cases settings poll stores with ⟨_, same⟩ | ⟨_, offered⟩
  · rw [same]
    exact sent
  · rw [offered]
    exact fold_sent settings poll _ start stores sent

theorem polled_published (stores : RelayStores) :
    ∃ added, (polled settings stores poll).published = stores.published ++ added := by
  rcases polled_cases settings poll stores with ⟨_, same⟩ | ⟨_, offered⟩
  · exact ⟨[], by rw [same, List.append_nil]⟩
  · exact ⟨_, by rw [offered, fold_published]⟩

end Offer

end OutboxDispatcher

end AuthProfile
