import AuthProfile.Db.Profiles
import AuthProfile.Messaging.Dispatcher
import AuthProfile.UseCases.Sessions

set_option autoImplicit false

namespace AuthProfile

open Relation Process

namespace PresenceStore

def keyPrefix : String := "presence:online:"

def setOnline (now : Time) (userId : String) (ttlSeconds : Int) : Prog Redis Error Unit :=
  Prog.atomic .connection fun redis => (redis.set (keyPrefix ++ userId) now ttlSeconds).map fun after => ((), after)

def isOnline (now : Time) (userId : String) : Prog Redis Error Bool :=
  Prog.query .connection fun redis => redis.present (keyPrefix ++ userId) now

end PresenceStore

-- The stores of both halves with what the service hands to the publisher, whether or not
-- Kafka takes it: that Kafka refuses a message is an answer that gets lost.
structure WireStores where
  stores : Stores
  profiles : ReadModel
  handed : List Message

namespace WireStores

def onStores : Lens WireStores Stores where
  get := fun wire => wire.stores
  set := fun wire stores => { wire with stores := stores }
  get_set := fun _ _ => rfl
  set_get := fun _ => rfl
  set_set := fun _ _ _ => rfl

def onRedis : Lens WireStores Redis where
  get := fun wire => wire.stores.redis
  set := fun wire redis => { wire with stores := { wire.stores with redis := redis } }
  get_set := fun _ _ => rfl
  set_get := fun _ => rfl
  set_set := fun _ _ _ => rfl

def onProfiles : Lens WireStores ReadModel where
  get := fun wire => wire.profiles
  set := fun wire profiles => { wire with profiles := profiles }
  get_set := fun _ _ => rfl
  set_get := fun _ => rfl
  set_set := fun _ _ _ => rfl

def onRelay : Lens WireStores RelayStores where
  get := fun wire => ⟨wire.stores.db, wire.handed⟩
  set := fun wire relay => { wire with stores := { wire.stores with db := relay.db }, handed := relay.published }
  get_set := fun _ _ => rfl
  set_get := fun _ => rfl
  set_set := fun _ _ _ => rfl

end WireStores

def PRESENCE_TTL_SECONDS : Int := 30

-- A call of UpdatePresence, with the times of its two calls of Redis and what its event draws.
structure Heartbeat where
  userId : String
  askedAt : Time
  setAt : Time
  eventId : String
  occurredAt : String

def Heartbeat.event (beat : Heartbeat) : PresenceChanged := ⟨beat.eventId, beat.occurredAt, beat.userId, true⟩

def presenceMessage (event : PresenceChanged) : Message :=
  ⟨"presence-events", event.userId, .obj (("event_type", .str event.eventType) :: event.asDict)⟩

def hand (message : Message) : Prog WireStores Error Unit :=
  Prog.atomic .kafka fun wire => .ok ((), { wire with handed := wire.handed ++ [message] })

def updatePresence (beat : Heartbeat) : Prog WireStores Error Unit := do
  let wasOnline ← (PresenceStore.isOnline beat.askedAt beat.userId).focus WireStores.onRedis
  (PresenceStore.setOnline beat.setAt beat.userId PRESENCE_TTL_SECONDS).focus WireStores.onRedis
  if !wasOnline then hand (presenceMessage beat.event)

end AuthProfile
