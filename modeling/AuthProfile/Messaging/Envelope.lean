import AuthProfile.Db.Schema
import AuthProfile.Python

set_option autoImplicit false

namespace AuthProfile

structure Envelope where
  eventId : String
  eventType : String
  aggregateId : String
  payload : Value
  producer : String
  occurredAt : String

-- A message with what a handler reads of it.
def wrapped (eventId eventType : String) (payload : List (String × Value)) : Value :=
  .dict [("event_id", .str eventId), ("event_type", .str eventType), ("payload", .dict payload)]

section Parse

variable (printable : Char → Bool)

def Envelope.parse (message : Value) : Except Error Envelope :=
  if message.isDict = false then .error (.malformedEnvelope ("expected a JSON object, got " ++ message.typeName))
  else
    let eventId := Value.toStrOr printable (message.get "event_id")
    let eventType := Value.toStrOr printable (message.get "event_type")
    if eventId = "" ∨ eventType = "" then
      .error (.malformedEnvelope ("event_id and event_type are required; got " ++
        String.ofList (Value.reprText printable eventId) ++ " / " ++
          String.ofList (Value.reprText printable eventType)))
    else
      match message.get "payload" with
      | some (.dict fields) =>
          .ok ⟨eventId, eventType, Value.toStrOr printable (message.get "aggregate_id"), .dict fields,
            Value.toStrOr printable (message.get "producer"), Value.toStrOr printable (message.get "occurred_at")⟩
      | _ =>
          .error (.malformedEnvelope (eventType ++ " has no `payload` object — a flat event is not a platform event"))

-- The handlers by event type, in the order of the source's dict. A type without one is not ours.
def route {α : Type} (message : Value) (handlers : List (String × α)) : Except Error (Option (Envelope × α)) := do
  let envelope ← Envelope.parse printable message
  return (handlers.lookup envelope.eventType).map fun handler => (envelope, handler)

end Parse

end AuthProfile
