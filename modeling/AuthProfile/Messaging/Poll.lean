import AuthProfile.Messaging.Dispatcher
import AuthProfile.Process.Machine

set_option autoImplicit false

namespace AuthProfile

open Relation Process

-- The columns an UPDATE of the dispatcher leaves as they are.
def OutboxRow.content (row : OutboxRow) : OutboxRow := { row with dispatched := false, dispatchedAt := none }

theorem message_content (settings : RelaySettings) (a b : OutboxRow) (same : a.content = b.content) :
    messageFor settings a = messageFor settings b := by
  have ofContent : ∀ row : OutboxRow, messageFor settings row = messageFor settings row.content := fun _ => rfl
  rw [ofContent a, ofContent b, same]

theorem message_ok (settings : RelaySettings) (row : OutboxRow) (message : Message)
    (run : messageFor settings row = .ok message) :
    ∃ payload, settings.loads row.payload = some payload ∧ message.topic = row.topic.text ∧
      message.key = row.aggregateId.text ∧
      envelopeFor settings row = .ok message.value ∧ message.eventId = some row.id.text := by
  rw [messageFor, envelopeFor] at run
  cases parsed : settings.loads row.payload with
  | none =>
      rw [parsed] at run
      cases run
  | some payload =>
      rw [parsed] at run
      cases run
      exact ⟨payload, rfl, rfl, rfl, by rw [envelopeFor, parsed], rfl⟩

theorem message_event_id (settings : RelaySettings) (row : OutboxRow) (message : Message)
    (run : messageFor settings row = .ok message) : message.eventId = some row.id.text := by
  obtain ⟨_, _, _, _, _, isId⟩ := message_ok settings row message run
  exact isId

namespace Db

def marked (row : OutboxRow) (now : Time) : OutboxRow := { row with dispatched := true, dispatchedAt := some now }

theorem mark_found (id : String) (now : Time) (db : Db) (row : OutboxRow) (found : db.outbox.find id = some row) :
    db.markDispatched id now = { db with outbox := db.outbox.replace (marked row now) } := by
  rw [markDispatched, found]
  rfl

theorem mark_keys (id : String) (now : Time) (db : Db) : (db.markDispatched id now).outbox.keys = db.outbox.keys := by
  cases found : db.outbox.find id with
  | none => rw [markDispatched, found]
  | some row =>
      rw [mark_found id now db row found]
      exact Table.keys_replace _ _

theorem find_mark_same (id : String) (now : Time) (db : Db) :
    (db.markDispatched id now).outbox.find id = (db.outbox.find id).map fun row => marked row now := by
  cases found : db.outbox.find id with
  | none =>
      rw [markDispatched, found]
      exact found
  | some row =>
      rw [mark_found id now db row found]
      have isId : row.id.text = id := Table.find_key id db.outbox row found
      have present : key row ∈ db.outbox.keys := List.mem_map_of_mem (Table.find_mem id db.outbox row found)
      have here := Table.find_replace_same (marked row now) db.outbox present
      exact isId ▸ here

theorem find_mark_other (id other : String) (now : Time) (db : Db) (different : other ≠ id) :
    (db.markDispatched id now).outbox.find other = db.outbox.find other := by
  cases found : db.outbox.find id with
  | none => rw [markDispatched, found]
  | some row =>
      rw [mark_found id now db row found]
      have isId : key (marked row now) = id := Table.find_key id db.outbox row found
      exact Table.find_replace_other _ _ _ (isId ▸ different)

end Db

namespace OutboxDispatcher

section Poll

variable (settings : RelaySettings)

-- The message that goes out when the row is offered: none when the envelope cannot be
-- built or Kafka refuses it.
def outgoing (accepts : OutboxRow → Bool) (row : OutboxRow) : Option Message :=
  if accepts row then (messageFor settings row).toOption else none

def offer (poll : Poll) (stores : RelayStores) (row : OutboxRow) : RelayStores :=
  match outgoing settings poll.accepts row with
  | none => stores
  | some message => ⟨stores.db.markDispatched row.id.text (poll.now row), stores.published ++ [message]⟩

-- A poll whose database calls all go through: when the first row of the batch fails,
-- the whole batch is lost; later failures are skipped.
def polled (stores : RelayStores) (poll : Poll) : RelayStores :=
  match selectBatch settings poll stores.db with
  | [] => stores
  | row :: rows =>
      match outgoing settings poll.accepts row with
      | none => stores
      | some _ => (row :: rows).foldl (offer settings poll) stores

variable (poll : Poll)

theorem outgoing_ok (accepts : OutboxRow → Bool) (row : OutboxRow) (message : Message)
    (out : outgoing settings accepts row = some message) :
    accepts row = true ∧ messageFor settings row = .ok message := by
  rw [outgoing] at out
  split at out
  · rename_i accepted
    cases built : messageFor settings row with
    | error error =>
        rw [built] at out
        cases out
    | ok sent =>
        rw [built] at out
        cases out
        exact ⟨accepted, rfl⟩
  · cases out

theorem send_exec (row : OutboxRow) (stores : RelayStores) :
    (send settings poll row).exec [] stores =
      match outgoing settings poll.accepts row with
      | none => ⟨.error (match messageFor settings row with
          | .error error => error
          | .ok _ => .kafka), [], stores⟩
      | some message => ⟨.ok (), [], { stores with published := stores.published ++ [message] }⟩ := by
  rw [send, outgoing]
  cases messageFor settings row with
  | error error =>
      dsimp only [Except.toOption]
      rw [ite_self]
      rfl
  | ok message => cases accepted : poll.accepts row <;> simp only [publish, Prog.atomic, Prog.exec, List.headD_nil,
      List.tail_nil,
      Bool.false_eq_true, if_false, if_true, Except.toOption]

theorem mark_exec (row : OutboxRow) (stores : RelayStores) :
    (mark poll row).exec [] stores =
      ⟨.ok (), [], { stores with db := stores.db.markDispatched row.id.text (poll.now row) }⟩ := rfl

-- Out of a transaction: a failing row is skipped.
theorem dispatch_row_between (row : OutboxRow) (stores : RelayStores) :
    (dispatchRow settings poll ⟨false, false⟩ row).exec
    [] stores = ⟨.ok ⟨false, false⟩, [], offer settings poll stores row⟩ := by
  rw [dispatchRow, if_neg Bool.false_ne_true, Prog.exec_bind, Prog.exec_attempt, send_exec, offer]
  cases outgoing settings poll.accepts row with
  | none => rfl
  | some message =>
      dsimp only
      rw [Prog.exec_bind, Prog.exec_attempt, mark_exec]
      rfl

-- In the transaction of the SELECT: a failing row expires the batch.
theorem dispatch_row_first (row : OutboxRow) (stores : RelayStores) :
    (dispatchRow settings poll ⟨true, false⟩ row).exec [] stores =
      match outgoing settings poll.accepts row with
      | none => ⟨.ok ⟨false, true⟩, [], stores⟩
      | some _ => ⟨.ok ⟨false, false⟩, [], offer settings poll stores row⟩ := by
  rw [dispatchRow, if_neg Bool.false_ne_true, Prog.exec_bind, Prog.exec_attempt, send_exec, offer]
  cases outgoing settings poll.accepts row with
  | none => rfl
  | some message =>
      dsimp only
      rw [Prog.exec_bind, Prog.exec_attempt, mark_exec]
      rfl

theorem dispatch_rows_between (rows : List OutboxRow) (stores : RelayStores) :
    (dispatchRows settings poll ⟨false, false⟩ rows).exec [] stores =
      ⟨.ok (), [], rows.foldl (offer settings poll) stores⟩ := by
  induction rows generalizing stores with
  | nil => rfl
  | cons row rows ih =>
      rw [dispatchRows, Prog.exec_bind, dispatch_row_between]
      exact ih (offer settings poll stores row)

theorem dispatch_batch_store (stores : RelayStores) :
    ((dispatchBatch settings poll).exec [] stores).store = polled settings stores poll ∧
      ((dispatchBatch settings poll).exec [] stores).script = [] := by
  rw [dispatchBatch, Prog.exec_query_alone, polled]
  cases selectBatch settings poll stores.db with
  | nil => exact ⟨rfl, rfl⟩
  | cons row rows =>
      rw [dispatchRows, Prog.exec_bind, dispatch_row_first]
      dsimp only
      cases out : outgoing settings poll.accepts row with
      | none => cases rows <;> exact ⟨rfl, rfl⟩
      | some message =>
          dsimp only
          rw [dispatch_rows_between]
          exact ⟨rfl, rfl⟩

def machine (legal : RelayStores → Poll → Prop) : Machine RelayStores Poll := ⟨polled settings, legal⟩

theorem run_loop_store (legal : RelayStores → Poll → Prop) (polls : List Poll) (stores : RelayStores) :
    ((runLoop settings polls).exec [] stores).store = (machine settings legal).replay stores polls := by
  induction polls generalizing stores with
  | nil => rfl
  | cons poll polls ih =>
      obtain ⟨store, script⟩ := dispatch_batch_store settings poll stores
      rw [runLoop, Prog.exec_bind, Prog.exec_attempt]
      dsimp only
      rw [store, script, ih]
      rfl

end Poll

end OutboxDispatcher

end AuthProfile
