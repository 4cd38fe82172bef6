import AuthProfile.Security.Deps
import AuthProfile.UseCases.Presence

set_option autoImplicit false

namespace AuthProfile

open Process

def CLOSE_UNAUTHENTICATED : Nat := 4401

-- How waiting for a frame ends: receive_text wants a text frame, and wait_for gives up.
inductive Frame where
  | text (content : String)
  | bytes
  | timeout
  | disconnect
deriving DecidableEq, Repr

-- A frame, what the heartbeat after it draws, and whether the answer to it gets through.
structure Tick where
  frame : Frame
  askedAt : Time
  setAt : Time
  eventId : String
  occurredAt : String
  delivered : Bool
deriving DecidableEq, Repr

def Tick.beat (tick : Tick) (userId : String) : Heartbeat :=
  ⟨userId, tick.askedAt, tick.setAt, tick.eventId, tick.occurredAt⟩

-- A connection as far as it has come.
structure PresenceConnection where
  authenticatedAt : Time
  first : Tick
  later : List Tick
deriving DecidableEq, Repr

-- What the client has been sent, and the code of a close.
structure SocketEnd where
  sent : List String
  closed : Option Nat
deriving DecidableEq, Repr

namespace PresenceController

-- A timeout lets go, and so does a client that is gone; other errors get out.
def heartbeats (userId : String) : List String → List Tick → Prog WireStores Error SocketEnd
  | sent, [] => return ⟨sent, none⟩
  | sent, tick :: ticks =>
      match tick.frame with
      | .timeout | .disconnect => return ⟨sent, none⟩
      | .bytes => .raise (.key "text")
      | .text _ => do
          updatePresence (tick.beat userId)
          if tick.delivered then heartbeats userId (sent ++ ["pong"]) ticks else return ⟨sent, none⟩

-- The token comes in the first frame.
def presenceHeartbeat (provider : JwtTokenProvider) (signed : List String) (connection : PresenceConnection) :
    Prog WireStores Error SocketEnd :=
  match connection.first.frame with
  | .timeout | .disconnect => return ⟨[], some CLOSE_UNAUTHENTICATED⟩
  | .bytes => .raise (.key "text")
  | .text token =>
      match provider.decodeAccessToken signed connection.authenticatedAt token with
      | .error _ => return ⟨[], some CLOSE_UNAUTHENTICATED⟩
      | .ok claims => do
          let userId ← Prog.ofExcept (claim "sub" claims.sub)
          updatePresence (connection.first.beat userId)
          if connection.first.delivered then heartbeats userId ["ok"] connection.later else return ⟨[], none⟩

end PresenceController

end AuthProfile
