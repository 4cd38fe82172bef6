import AuthProfile.Process.Sequence
import AuthProfile.TopPosts
import Mathlib.Data.List.Induction

set_option autoImplicit false

namespace AuthProfile

open Relation Process ProfileRepository TopList

-- A call of TopPostsProjector.handle, be it the first try of an event or a later one.
structure PostCall where
  io : Circumstances
  event : Value
  script : List Fault

namespace PostCall

variable (python : Interpreter) (author : String) (call : PostCall)

def rowId : String := call.io.rowId.text

def handle : Prog ReadModel Error Unit := TopPostsProjector.handle python call.io call.event

def store (db : ReadModel) : ReadModel := ((call.handle python).exec call.script db).store

def cut (done : Nat) : PostCall := { call with script := cutAt done call.script }

-- What the call reports about a post of the author, as it would be written among these rows.
def entry (rows : List (Placed String Int)) : Option (String × Int) := do
  let posting ← posting author call.event
  let score ← (posting.score python rows).toOption
  return (Varchar.cut 36 posting.post, score.value)

-- The score that the eighth action of the call commits, and whether the tenth commits ranks.
def wrote (rows : List (Placed String Int)) : Option (String × Int) :=
  if takesEffect 7 call.script then call.entry python author rows else none

def ranked (rows : List (Placed String Int)) : Bool :=
  (call.entry python author rows).isSome && takesEffect 9 call.script

-- The post of the call is not named by an id that is cut to that of another one's row.
def Apart (rows : List (Placed String Int)) : Prop :=
  ∀ reported, posting author call.event = some reported → reported.Apart rows

end PostCall

-- The author's shelf as the last re-ranking left it, and the scores that none has followed.
structure Ledger where
  now : ReadModel
  settled : List (Placed String Int)
  pending : List (String × Int)

section Run

variable (python : Interpreter) (author : String)

def runPosts (db : ReadModel) (calls : List PostCall) : ReadModel :=
  runAll (PostCall.handle python) PostCall.script db calls

def Ledger.enter (ledger : Ledger) (call : PostCall) : Ledger :=
  let rows := ledger.now.shelf author
  let after := call.store python ledger.now
  if call.ranked python author rows then ⟨after, after.byRank author, []⟩
  else ⟨after, ledger.settled, ledger.pending ++ (call.wrote python author rows).toList⟩

section Step

variable (call : PostCall) (db : ReadModel)

variable (distinct : ((db.shelf author).map Placed.key).Nodup)

include distinct

variable (apart : call.Apart author (db.shelf author))

include apart

end Step

theorem run_posts_snoc (db : ReadModel) (calls : List PostCall) (call : PostCall) :
    runPosts python db (calls ++ [call]) = call.store python (runPosts python db calls) :=
      run_all_snoc _ _ db calls call

end Run

def reaction (author post : String) (score : Int) : Value :=
  .dict [("author_id", .str author), ("post_id", .str post), ("feedback_score", .int score)]

end AuthProfile
