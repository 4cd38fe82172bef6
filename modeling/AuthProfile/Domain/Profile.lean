import AuthProfile.Domain.Auth
import Mathlib.Data.List.Sort

set_option autoImplicit false

namespace AuthProfile

structure OwnedGame where
  id : String
  userId : String
  gameId : String
  hidden : Bool
  acquiredAt : Time
deriving DecidableEq, Repr

structure OwnedItem where
  id : String
  userId : String
  itemId : String
  gameId : String
  acquiredAt : Time
deriving DecidableEq, Repr

structure TopPost where
  id : String
  userId : String
  postId : String
  feedbackScore : Int
  rank : Nat
deriving DecidableEq, Repr

def MAX_TOP_POSTS : Nat := 5

structure Profile where
  userId : String
  displayName : String
  avatarUrl : String
  online : Bool
  ownedGames : List OwnedGame
  ownedItems : List OwnedItem
  topPosts : List TopPost
  updatedAt : Time
deriving DecidableEq, Repr

namespace Profile

def visibleGames (profile : Profile) : List OwnedGame := profile.ownedGames.filter fun game => !game.hidden

def setAvatar (profile : Profile) (avatarUrl : String) : Profile := { profile with avatarUrl := strip avatarUrl }

-- enumerate(posts, start=1), each post given its place.
def rankPosts (posts : List TopPost) : List TopPost := (posts.zipIdx 1).map fun (post, i) => { post with rank := i }

-- sort(reverse=True) keeps the order of equal scores.
def upsertTopPosts (profile : Profile) (candidate : TopPost) : Profile :=
  let posts := (profile.topPosts.filter fun post => post.postId ≠ candidate.postId) ++ [candidate]
  let sorted := posts.insertionSort fun a b => b.feedbackScore ≤ a.feedbackScore
  { profile with topPosts := rankPosts (sorted.take MAX_TOP_POSTS) }

end Profile

structure PresenceChanged where
  eventId : String
  occurredAt : String
  userId : String
  online : Bool

namespace PresenceChanged

def eventType (_event : PresenceChanged) : String := "arcadia.profile.v1.PresenceChanged"

-- event.__dict__
def asDict (event : PresenceChanged) : List (String × Json) :=
  [("event_id", .str event.eventId), ("occurred_at", .str event.occurredAt), ("user_id", .str event.userId),
    ("online", .bool event.online)]

def toPayload (event : PresenceChanged) : Json :=
  .obj (event.asDict.filter fun field => field.1 ≠ "event_id" && field.1 ≠ "occurred_at")

end PresenceChanged

end AuthProfile
