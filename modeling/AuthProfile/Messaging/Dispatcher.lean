import AuthProfile.Db.Flush
import AuthProfile.OrderBy
import AuthProfile.Process.Focus

set_option autoImplicit false

namespace AuthProfile

open Relation Process

structure Message where
  topic : String
  key : String
  value : Json

-- What the dispatcher works on: the database, and the messages Kafka has taken.
structure RelayStores where
  db : Db
  published : List Message

def RelayStores.onDb : Lens RelayStores Db where
  get := fun stores => stores.db
  set := fun stores db => { stores with db := db }
  get_set := fun _ _ => rfl
  set_get := fun _ => rfl
  set_set := fun _ _ _ => rfl

-- isoformat writes a moment as text, and loads is json.loads. Every function is allowed in the place of
-- the first, and in that of the second every one that undoes json.dumps on dictionaries of texts: on
-- other payloads (floats, NaN, the escape of a lone surrogate) it may do what it likes.
structure RelaySettings where
  appName : String
  outboxBatchSize : Nat
  isoformat : Time → String
  loads : String → Option Json
  loads_dumps : ∀ fields : List (String × String), (fields.map Prod.fst).Nodup →
    loads (Json.dumps (.obj (fields.map fun field => (field.1, .str field.2)))) =
      some (.obj (fields.map fun field => (field.1, .str field.2)))

theorem RelaySettings.loads_payload (settings : RelaySettings) (event : DomainEvent) :
    settings.loads (Json.dumps event.toPayload) = some event.toPayload := by
  refine settings.loads_dumps event.fields ?_
  cases event <;> simp [DomainEvent.fields]

def SCHEMA_VERSION : Int := 1

def envelopeFor (settings : RelaySettings) (row : OutboxRow) : Except Error Json :=
  match settings.loads row.payload with
  | none => .error (.jsonDecode row.payload)
  | some payload =>
      .ok (.obj [("event_id", .str row.id.text), ("event_type", .str row.eventType.text),
        ("schema_version", .num SCHEMA_VERSION),
        ("occurred_at", .str (settings.isoformat row.createdAt)), ("producer", .str settings.appName),
        ("aggregate_type", .str row.aggregateType.text), ("aggregate_id", .str row.aggregateId.text),
          ("payload", payload)])

def messageFor (settings : RelaySettings) (row : OutboxRow) : Except Error Message :=
  (envelopeFor settings row).map fun envelope => ⟨row.topic.text, row.aggregateId.text, envelope⟩

def Message.eventId (message : Message) : Option String := (message.value.get "event_id").bind Json.text

namespace Db

def undispatched (db : Db) : List OutboxRow := db.outbox.rows.filter fun row => !row.dispatched

-- UPDATE outbox SET dispatched = true, dispatched_at = now WHERE id = …
def markDispatched (id : String) (now : Time) (db : Db) : Db :=
  match db.outbox.find id with
  | none => db
  | some row => { db with outbox := db.outbox.replace { row with dispatched := true, dispatchedAt := some now } }

end Db

-- What one poll meets: how ties of created_at come out, which rows Kafka takes, and the clock.
structure Poll where
  order : OrderBy OutboxRow.createdAt
  accepts : OutboxRow → Bool
  now : OutboxRow → Time

-- A SELECT or an UPDATE opens a transaction, a commit or a rollback ends it. Rolling
-- an open one back expires the rows the session has loaded.
structure Session where
  inTransaction : Bool
  expired : Bool

namespace OutboxDispatcher

variable (settings : RelaySettings) (poll : Poll)

def selectBatch (db : Db) : List OutboxRow := (poll.order.arrange db.undispatched).take settings.outboxBatchSize

def publish (accepted : Bool) (message : Message) : Prog RelayStores Error Unit :=
  Prog.atomic .kafka fun stores =>
    if accepted then .ok ((), { stores with published := stores.published ++ [message] }) else .error .kafka

def send (row : OutboxRow) : Prog RelayStores Error Unit :=
  match messageFor settings row with
  | .error error => .raise error
  | .ok message => publish (poll.accepts row) message

-- The UPDATE is seen by nobody before its commit.
def mark (row : OutboxRow) : Prog RelayStores Error Unit := do
  Prog.query .connection fun _ : RelayStores => ()
  Prog.atomic .connection fun stores =>
    .ok ((), { stores with db := stores.db.markDispatched row.id.text (poll.now row) })

def rollback (session : Session) : Prog RelayStores Error Session :=
  if session.inTransaction then do
    Prog.query .connection fun _ : RelayStores => ()
    return ⟨false, true⟩
  else return session

-- Reading an expired row raises, in the try block and again in its handler.
def dispatchRow (session : Session) (row : OutboxRow) : Prog RelayStores Error Session :=
  if session.expired then .raise .missingGreenlet
  else do
    match ← (send settings poll row).attempt with
    | .error _ => rollback session
    | .ok _ =>
        match ← (mark poll row).attempt with
        | .error _ => rollback { session with inTransaction := true }
        | .ok _ => return { session with inTransaction := false }

def dispatchRows : Session → List OutboxRow → Prog RelayStores Error Unit
  | _, [] => return ()
  | session, row :: rows => do
      let session ← dispatchRow settings poll session row
      dispatchRows session rows

def dispatchBatch : Prog RelayStores Error Unit := do
  let rows ← Prog.query .connection fun stores : RelayStores => selectBatch settings poll stores.db
  dispatchRows settings poll ⟨true, false⟩ rows

-- What escapes a batch is logged, and the loop sleeps and polls again.
def runLoop : List Poll → Prog RelayStores Error Unit
  | [] => return ()
  | poll :: polls => do
      let _ ← (dispatchBatch settings poll).attempt
      runLoop polls

end OutboxDispatcher

end AuthProfile
