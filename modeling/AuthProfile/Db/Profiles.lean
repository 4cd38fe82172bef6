import AuthProfile.Db.Schema
import AuthProfile.Domain.Profile
import AuthProfile.OrderBy
import AuthProfile.Python

set_option autoImplicit false

namespace AuthProfile

open Relation

-- Integer: four bytes, a larger number cannot be stored.
structure Int4 where
  value : Int
  fits : -2147483648 ≤ value ∧ value ≤ 2147483647
deriving DecidableEq, Repr

-- A value bound to a String(n) column: the driver takes text only.
def Varchar.bindValue (width : Nat) (column : String) : Value → Except Error (Varchar width)
  | .str text => Varchar.store width column text
  | .none => .error (.integrity column)
  | _ => .error (.data column)

-- The driver cuts a float to an int; int() of one is not computed here.
def Int4.bindValue (column : String) (truncate : String → Option Int) (value : Value) : Except Error Int4 :=
  let store (n : Int) : Except Error Int4 :=
    if fits : -2147483648 ≤ n ∧ n ≤ 2147483647 then .ok ⟨n, fits⟩ else .error (.data column)
  match value with
  | .int n => store n
  | .bool b => store (if b then 1 else 0)
  | .float repr => (truncate repr).elim (.error (.data column)) store
  | .none => .error (.integrity column)
  | _ => .error (.data column)

-- An INSERT leaves out a column whose value is None, and the default comes in. An UPDATE does not.
def Int4.bindNew (column : String) (truncate : String → Option Int) (byDefault : Int4) : Value → Except Error Int4
  | .none => .ok byDefault
  | value => Int4.bindValue column truncate value

structure ProfileRow where
  userId : Varchar 36
  displayName : Varchar 64
  avatarUrl : Varchar 512
  online : Bool
  updatedAt : Time
deriving DecidableEq, Repr

structure OwnedGameRow where
  id : Varchar 36
  userId : Varchar 36
  gameId : Varchar 36
  hidden : Bool
  acquiredAt : Time
deriving DecidableEq, Repr

structure OwnedItemRow where
  id : Varchar 36
  userId : Varchar 36
  itemId : Varchar 36
  gameId : Varchar 36
  acquiredAt : Time
deriving DecidableEq, Repr

structure TopPostRow where
  id : Varchar 36
  userId : Varchar 36
  postId : Varchar 36
  feedbackScore : Int4
  rank : Nat
deriving DecidableEq, Repr

-- The column's default.
def TopPostRow.defaultScore : Int4 := ⟨0, by decide⟩

instance : Keyed ProfileRow String := ⟨fun row => row.userId.text⟩
instance : Keyed OwnedGameRow String := ⟨fun row => row.id.text⟩
instance : Keyed OwnedItemRow String := ⟨fun row => row.id.text⟩
instance : Keyed TopPostRow String := ⟨fun row => row.id.text⟩

-- The rows that belong to a profile.
class Owned (ρ : Type) where
  owner : ρ → String

export Owned (owner)

instance : Owned OwnedGameRow := ⟨fun row => row.userId.text⟩
instance : Owned OwnedItemRow := ⟨fun row => row.userId.text⟩
instance : Owned TopPostRow := ⟨fun row => row.userId.text⟩

-- The foreign key of a table on profiles.user_id.
def References {ρ : Type} [Keyed ρ String] [Owned ρ] (profiles : Table ProfileRow) (table : Table ρ) : Prop :=
  ∀ row ∈ table.rows, owner row ∈ profiles.keys

section References

variable {ρ : Type} [Keyed ρ String] [Owned ρ] (profiles : Table ProfileRow) (table : Table ρ)

theorem references_delete (gone : ρ → Bool) (valid : References profiles table) :
    References profiles (table.delete gone) :=
  fun row member => valid row (List.mem_of_mem_filter member)

theorem references_insert (row : ρ) (table' : Table ρ) (inserted : table.insert row = some table')
    (known : owner row ∈ profiles.keys) (valid : References profiles table) : References profiles table' := by
  intro other member
  rw [((Table.insert_some_iff row table table').mp inserted).2, List.mem_append, List.mem_singleton] at member
  rcases member with old | rfl
  · exact valid other old
  · exact known

theorem references_replace (row : ρ) (known : owner row ∈ profiles.keys) (valid : References profiles table) :
    References profiles (table.replace row) := by
  intro other member
  obtain ⟨old, oldMember, same⟩ := List.mem_map.mp member
  by_cases hit : key old = key row
  · rw [if_pos hit] at same
    exact same ▸ known
  · rw [if_neg hit] at same
    exact same ▸ valid old oldMember

theorem references_alter (f : ρ → Option ρ) (sameKey : ∀ row row', f row = some row' → key row' = key row)
    (sameOwner : ∀ row row', f row = some row' → owner row' = owner row) (valid : References profiles table) :
    References profiles (table.alter f sameKey) := by
  intro row member
  obtain ⟨old, oldMember, hit⟩ := List.mem_filterMap.mp member
  rw [sameOwner old row hit]
  exact valid old oldMember

theorem references_profile (row : ProfileRow) (profiles' : Table ProfileRow)
    (inserted : profiles.insert row = some profiles')
    (valid : References profiles table) : References profiles' table := by
  intro other member
  exact (Table.mem_keys_inserted row profiles profiles' inserted _).mpr (Or.inl (valid other member))

end References

-- The committed tables of the profile half, with the constraints PostgreSQL enforces on
-- them. No constraint keeps a (user, game) or a (user, post) pair from coming twice.
structure ReadModel where
  profiles : Table ProfileRow
  ownedGames : Table OwnedGameRow
  ownedItems : Table OwnedItemRow
  topPosts : Table TopPostRow
  gameOwners : References profiles ownedGames
  itemOwners : References profiles ownedItems
  postAuthors : References profiles topPosts

namespace ReadModel

def empty : ReadModel where
  profiles := Table.empty
  ownedGames := Table.empty
  ownedItems := Table.empty
  topPosts := Table.empty
  gameOwners := fun _ member => nomatch member
  itemOwners := fun _ member => nomatch member
  postAuthors := fun _ member => nomatch member

-- ON CONFLICT (user_id) DO NOTHING.
def insertProfileOrNothing (row : ProfileRow) (db : ReadModel) : ReadModel :=
  match inserted : db.profiles.insert row with
  | none => db
  | some profiles =>
      { db with
        profiles := profiles
        gameOwners := references_profile _ _ row profiles inserted db.gameOwners
        itemOwners := references_profile _ _ row profiles inserted db.itemOwners
        postAuthors := references_profile _ _ row profiles inserted db.postAuthors }

def insertOwnedGame (row : OwnedGameRow) (db : ReadModel) : Except Error ReadModel :=
  match inserted : db.ownedGames.insert row with
  | none => .error (.integrity "owned_games_pkey")
  | some ownedGames =>
      if known : row.userId.text ∈ db.profiles.keys then
        .ok { db with ownedGames := ownedGames, gameOwners :=
          references_insert _ _ row ownedGames inserted known db.gameOwners }
      else .error (.integrity "owned_games_user_id_fkey")

def insertOwnedItem (row : OwnedItemRow) (db : ReadModel) : Except Error ReadModel :=
  match inserted : db.ownedItems.insert row with
  | none => .error (.integrity "owned_items_pkey")
  | some ownedItems =>
      if known : row.userId.text ∈ db.profiles.keys then
        .ok { db with ownedItems := ownedItems, itemOwners :=
          references_insert _ _ row ownedItems inserted known db.itemOwners }
      else .error (.integrity "owned_items_user_id_fkey")

def insertTopPost (row : TopPostRow) (db : ReadModel) : Except Error ReadModel :=
  match inserted : db.topPosts.insert row with
  | none => .error (.integrity "top_posts_pkey")
  | some topPosts =>
      if known : row.userId.text ∈ db.profiles.keys then
        .ok { db with topPosts := topPosts, postAuthors :=
          references_insert _ _ row topPosts inserted known db.postAuthors }
      else .error (.integrity "top_posts_user_id_fkey")

def deleteOwnedGames (gone : OwnedGameRow → Bool) (db : ReadModel) : ReadModel :=
  { db with ownedGames := db.ownedGames.delete gone, gameOwners := references_delete _ _ gone db.gameOwners }

-- UPDATE owned_games SET hidden = … WHERE id = …: the row has to be there.
def updateHidden (id : String) (hidden : Bool) (db : ReadModel) : Except Error ReadModel :=
  match found : db.ownedGames.find id with
  | none => .error (.stale "owned_games")
  | some row =>
      .ok { db with
        ownedGames := db.ownedGames.replace { row with hidden := hidden }
        gameOwners := references_replace _ _ _ (db.gameOwners row (Table.find_mem id _ row found)) db.gameOwners }

def updateScore (id : String) (feedbackScore : Int4) (db : ReadModel) : Except Error ReadModel :=
  match found : db.topPosts.find id with
  | none => .error (.stale "top_posts")
  | some row =>
      .ok { db with
        topPosts := db.topPosts.replace { row with feedbackScore := feedbackScore }
        postAuthors := references_replace _ _ _ (db.postAuthors row (Table.find_mem id _ row found)) db.postAuthors }

-- The place, counted from one, that a row has in the list the session loaded.
def placeOf (loaded : List TopPostRow) (row : TopPostRow) : Option (TopPostRow × Nat) :=
  (loaded.zipIdx 1).find? fun place => key place.1 = key row

-- A rank that is as loaded gets no UPDATE.
def settle (loaded : List TopPostRow) (row : TopPostRow) : Option TopPostRow :=
  match placeOf loaded row with
  | none => some row
  | some (old, place) =>
      if place ≤ 5 then some (if old.rank = place then row else { row with rank := place }) else none

theorem settle_same (loaded : List TopPostRow) (row row' : TopPostRow) (settled : settle loaded row = some row') :
    row'.id = row.id ∧ row'.userId = row.userId ∧ row'.postId = row.postId ∧
      row'.feedbackScore = row.feedbackScore := by
  simp only [settle] at settled
  cases place : placeOf loaded row with
  | none =>
      rw [place, Option.some.injEq] at settled
      simp [settled]
  | some found =>
      rw [place] at settled
      dsimp only at settled
      split at settled
      · rw [Option.some.injEq] at settled
        split at settled <;> simp [← settled]
      · cases settled

def rankPosts (loaded : List TopPostRow) (db : ReadModel) : Except Error ReadModel :=
  if ∀ place ∈ loaded.zipIdx 1, place.2 ≤ 5 → place.1.rank ≠ place.2 → key place.1 ∈ db.topPosts.keys then
    .ok { db with
      topPosts := db.topPosts.alter (settle loaded) fun row row' settled =>
        congrArg Varchar.text (settle_same loaded row row' settled).1
      postAuthors := references_alter _ _ _ _
        (fun row row' settled => congrArg Varchar.text (settle_same loaded row row' settled).2.1) db.postAuthors }
  else .error (.stale "top_posts")

end ReadModel

end AuthProfile
