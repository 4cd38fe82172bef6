import AuthProfile.Db.Profiles
import AuthProfile.Db.Statement

set_option autoImplicit false

namespace AuthProfile

open Relation Process

-- What is not computed here: which characters print as themselves, and int() of a float.
structure Interpreter where
  printable : Char → Bool
  truncate : String → Option Int

-- What an attempt at a message draws from its surroundings: the clock, a random row id,
-- and how PostgreSQL breaks ties.
structure Circumstances where
  now : Time
  rowId : Varchar 36
  byScore : OrderBy fun row : TopPostRow => OrderDual.toDual row.feedbackScore.value
  byRank : OrderBy TopPostRow.rank

-- Row ids that differ, and ties in the order of insertion.
def Circumstances.sample (n : Nat) : Circumstances where
  now := n
  rowId := ⟨String.ofList (List.replicate (n % 37) 'x'), by
    refine ⟨?_, by simp [Storable]⟩
    rw [String.length_ofList, List.length_replicate]
    omega⟩
  byScore := .stable _
  byRank := .stable _

def Interpreter.sample : Interpreter := ⟨fun _ => true, fun _ => none⟩

namespace ReadModel

def gamesOf (userId : String) (db : ReadModel) : List OwnedGameRow :=
  db.ownedGames.rows.filter fun row => row.userId.text = userId

def itemsOf (userId : String) (db : ReadModel) : List OwnedItemRow :=
  db.ownedItems.rows.filter fun row => row.userId.text = userId

def postsOf (userId : Option String) (db : ReadModel) : List TopPostRow :=
  db.topPosts.rows.filter fun row => some row.userId.text = userId

def gamesNamed (userId gameId : String) (db : ReadModel) : List OwnedGameRow :=
  db.ownedGames.rows.filter fun row => row.userId.text = userId ∧ row.gameId.text = gameId

-- A column compared with None is compared by IS NULL, and none of these is null.
def postsNamed (userId postId : Option String) (db : ReadModel) : List TopPostRow :=
  db.topPosts.rows.filter fun row => some row.userId.text = userId ∧ some row.postId.text = postId

end ReadModel

def scalarOneOrNone {α : Type} : List α → Except Error (Option α)
  | [] => .ok none
  | [row] => .ok (some row)
  | _ => .error .multipleResults

def bindText (column : String) : Value → Except Error (Option String)
  | .str text => .ok (some text)
  | .none => .ok none
  | _ => .error (.data column)

def toDomainGame (row : OwnedGameRow) : OwnedGame :=
  ⟨row.id.text, row.userId.text, row.gameId.text, row.hidden, row.acquiredAt⟩

def toDomainItem (row : OwnedItemRow) : OwnedItem :=
  ⟨row.id.text, row.userId.text, row.itemId.text, row.gameId.text, row.acquiredAt⟩

def toDomainPost (row : TopPostRow) : TopPost :=
  ⟨row.id.text, row.userId.text, row.postId.text, row.feedbackScore.value, row.rank⟩

def toDomainProfile (row : ProfileRow) (games : List OwnedGameRow) (items : List OwnedItemRow)
    (posts : List TopPostRow) : Profile :=
  ⟨row.userId.text, row.displayName.text, row.avatarUrl.text, row.online, games.map toDomainGame,
    items.map toDomainItem,
    posts.map toDomainPost, row.updatedAt⟩

def ProfileRow.new (io : Circumstances) (userId displayName : Value) : Except Error ProfileRow := do
  let userId ← Varchar.bindValue 36 "user_id" userId
  let displayName ← Varchar.bindValue 64 "display_name" displayName
  return ⟨userId, displayName, ⟨"", by decide⟩, false, io.now⟩

def OwnedGameRow.store (game : OwnedGame) : Except Error OwnedGameRow := do
  let id ← Varchar.store 36 "id" game.id
  let userId ← Varchar.store 36 "user_id" game.userId
  let gameId ← Varchar.store 36 "game_id" game.gameId
  return ⟨id, userId, gameId, game.hidden, game.acquiredAt⟩

def OwnedItemRow.new (io : Circumstances) (userId itemId gameId : Value) : Except Error OwnedItemRow := do
  let userId ← Varchar.bindValue 36 "user_id" userId
  let itemId ← Varchar.bindValue 36 "item_id" itemId
  let gameId ← Varchar.bindValue 36 "game_id" gameId
  return ⟨io.rowId, userId, itemId, gameId, io.now⟩

def TopPostRow.new (io : Circumstances) (userId postId : Value) (feedbackScore : Int4) : Except Error TopPostRow := do
  let userId ← Varchar.bindValue 36 "user_id" userId
  let postId ← Varchar.bindValue 36 "post_id" postId
  return ⟨io.rowId, userId, postId, feedbackScore, 0⟩

namespace ProfileRepository

def commit (change : ReadModel → Except Error ReadModel) : Prog ReadModel Error Unit :=
  Prog.atomic .connection fun db => (change db).map fun after => ((), after)

variable (io : Circumstances)

def getByUserId (userId : String) : Prog ReadModel Error (Option Profile) := do
  match ← select [userId] fun db : ReadModel => db.profiles.find userId with
  | none => return none
  | some row => do
      let games ← select [userId] fun db : ReadModel => db.gamesOf userId
      let items ← select [userId] fun db : ReadModel => db.itemsOf userId
      let posts ← select [userId] fun db : ReadModel => io.byRank.arrange (db.postsOf (some userId))
      return some (toDomainProfile row games items posts)

-- The INSERT is seen by nobody before its commit. What is read back is the profile of the
-- given id, not that of the id as the column has it.
def createIfMissing (userId displayName : Value) : Prog ReadModel Error (Option Profile) := do
  let row ← Prog.ofExcept (ProfileRow.new io userId displayName)
  Prog.query .connection fun _ : ReadModel => ()
  commit fun db => .ok (db.insertProfileOrNothing row)
  let user ← Prog.ofExcept (bindText "user_id" userId)
  match user with
  | none => return none
  | some userId => getByUserId io userId

def addOwnedGame (game : OwnedGame) : Prog ReadModel Error Unit :=
  commit fun db => do db.insertOwnedGame (← OwnedGameRow.store game)

def ownsGame (userId gameId : String) : Prog ReadModel Error Bool := do
  let found ← select [userId, gameId] fun db : ReadModel => db.gamesNamed userId gameId
  let row ← Prog.ofExcept (scalarOneOrNone found)
  return row.isSome

def removeOwnedGame (userId gameId : String) : Prog ReadModel Error Unit := do
  let gone ← select [userId, gameId] fun db : ReadModel => (db.gamesNamed userId gameId).map key
  commit fun db => .ok (db.deleteOwnedGames fun row => key row ∈ gone)

def addOwnedItem (userId itemId gameId : Value) : Prog ReadModel Error Unit :=
  commit fun db => do db.insertOwnedItem (← OwnedItemRow.new io userId itemId gameId)

-- A score that is as loaded gets no UPDATE.
def storeScore (python : Interpreter) (userId postId feedbackScore : Value) (existing : Option TopPostRow)
    (db : ReadModel) :
    Except Error ReadModel :=
  match existing with
  | some row => do
      let score ← Int4.bindValue "feedback_score" python.truncate feedbackScore
      if score = row.feedbackScore then .ok db else db.updateScore row.id.text score
  | none => do
      let score ← Int4.bindNew "feedback_score" python.truncate TopPostRow.defaultScore feedbackScore
      db.insertTopPost (← TopPostRow.new io userId postId score)

-- The first transaction of upsert_top_post.
def writeScore (python : Interpreter) (userId postId feedbackScore : Value) : Prog ReadModel Error Unit := do
  let user ← Prog.ofExcept (bindText "user_id" userId)
  let post ← Prog.ofExcept (bindText "post_id" postId)
  let found ← select (user.toList ++ post.toList) fun db : ReadModel => db.postsNamed user post
  let existing ← Prog.ofExcept (scalarOneOrNone found)
  commit (storeScore io python userId postId feedbackScore existing)

-- The second one.
def rankPosts (userId : Value) : Prog ReadModel Error Unit := do
  let user ← Prog.ofExcept (bindText "user_id" userId)
  let posts ← select user.toList fun db : ReadModel => io.byScore.arrange (db.postsOf user)
  commit fun db => db.rankPosts posts

def upsertTopPost (python : Interpreter) (userId postId feedbackScore : Value) : Prog ReadModel Error Unit := do
  writeScore io python userId postId feedbackScore
  rankPosts io userId

def setHidden (userId gameId : String) (hidden : Bool) : Prog ReadModel Error Unit := do
  let found ← select [userId, gameId] fun db : ReadModel => db.gamesNamed userId gameId
  match ← Prog.ofExcept (scalarOneOrNone found) with
  | none => return ()
  | some row => commit fun db => if hidden = row.hidden then .ok db else db.updateHidden row.id.text hidden

end ProfileRepository

end AuthProfile
