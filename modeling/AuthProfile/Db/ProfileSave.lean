import AuthProfile.Db.ProfileRepository

set_option autoImplicit false

namespace AuthProfile

open Relation Process

-- What save changes of a row it has loaded.
structure ProfileChanges where
  displayName : Option String
  avatarUrl : Option String
  online : Option Bool
deriving DecidableEq, Repr

namespace ProfileChanges

def between (loaded : ProfileRow) (profile : Profile) : ProfileChanges where
  displayName := changed loaded.displayName.text profile.displayName
  avatarUrl := changed loaded.avatarUrl.text profile.avatarUrl
  online := changed loaded.online profile.online

def nothing (changes : ProfileChanges) : Bool := changes = ⟨none, none, none⟩

-- An UPDATE sets updated_at too.
def apply (now : Time) (changes : ProfileChanges) (row : ProfileRow) : Except Error ProfileRow := do
  let displayName ← Varchar.change 64 "display_name" row.displayName changes.displayName
  let avatarUrl ← Varchar.change 512 "avatar_url" row.avatarUrl changes.avatarUrl
  return ⟨row.userId, displayName, avatarUrl, changes.online.getD row.online, now⟩

end ProfileChanges

def ProfileRow.store (now : Time) (profile : Profile) : Except Error ProfileRow := do
  let userId ← Varchar.store 36 "user_id" profile.userId
  let displayName ← Varchar.store 64 "display_name" profile.displayName
  let avatarUrl ← Varchar.store 512 "avatar_url" profile.avatarUrl
  return ⟨userId, displayName, avatarUrl, profile.online, now⟩

namespace ReadModel

theorem references_kept {ρ : Type} [Keyed ρ String] [Owned ρ] (profiles profiles' : Table ProfileRow) (table : Table ρ)
    (same : profiles'.keys = profiles.keys) (valid : References profiles table) : References profiles' table :=
  fun row member => same ▸ valid row member

def replaceProfile (row : ProfileRow) (db : ReadModel) : ReadModel :=
  { db with
    profiles := db.profiles.replace row
    gameOwners := references_kept _ _ _ (Table.keys_replace row db.profiles) db.gameOwners
    itemOwners := references_kept _ _ _ (Table.keys_replace row db.profiles) db.itemOwners
    postAuthors := references_kept _ _ _ (Table.keys_replace row db.profiles) db.postAuthors }

def updateProfile (now : Time) (userId : String) (changes : ProfileChanges) (db : ReadModel) : Except Error ReadModel :=
  if changes.nothing then .ok db
  else
    match db.profiles.find userId with
    | none => .error (.stale "profiles")
    | some row => do return db.replaceProfile (← changes.apply now row)

-- An INSERT that does not look away from a row that is there.
def insertProfile (row : ProfileRow) (db : ReadModel) : Except Error ReadModel :=
  if key row ∈ db.profiles.keys then .error (.integrity "profiles_pkey") else .ok (db.insertProfileOrNothing row)

end ReadModel

namespace ProfileRepository

variable (io : Circumstances)

def storeProfile (profile : Profile) (loaded : Option ProfileRow) (db : ReadModel) : Except Error ReadModel :=
  match loaded with
  | some row => db.updateProfile io.now profile.userId (.between row profile)
  | none => do db.insertProfile (← ProfileRow.store io.now profile)

-- The session holds its rows weakly, and nothing refers any more to the one get_by_user_id
-- read: session.get selects it again.
def save (profile : Profile) : Prog ReadModel Error Unit := do
  let row ← select [profile.userId] fun db : ReadModel => db.profiles.find profile.userId
  commit (storeProfile io profile row)

end ProfileRepository

def setAvatar (io : Circumstances) (userId avatarUrl : String) : Prog ReadModel Error Unit := do
  match ← ProfileRepository.getByUserId io userId with
  | none => .raise (.profileNotFound userId)
  | some profile => ProfileRepository.save io (profile.setAvatar avatarUrl)

end AuthProfile
