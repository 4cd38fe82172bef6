import AuthProfile.Seeding
import AuthProfile.UseCases.Recipients

set_option autoImplicit false

namespace AuthProfile

open Relation Process UserRepository

theorem domain_user_injective (a b : UserRow) (same : toDomainUser a = toDomainUser b) : a = b := by
  obtain ⟨id, email, passwordHash, displayName, role, state, createdAt⟩ := a
  obtain ⟨sameId, sameEmail, sameHash, sameName, sameRole, sameState, sameTime, _⟩ := User.mk.inj same
  rw [UserRow.mk.injEq]
  exact ⟨Varchar.ext 36 _ _ sameId, Varchar.ext 255 _ _ sameEmail, Varchar.ext 255 _ _ sameHash,
    Varchar.ext 64 _ _ sameName,
    sameRole, sameState, sameTime⟩

-- func.lower of the database is taken to be str.lower.
section Lookup

variable (lower : Lower) (db : Db)

-- The key a query is looked up by: an email when there is an @ in it, else a display name.
inductive Matches (query : String) (row : UserRow) : Prop where
  | email (isEmail : '@' ∈ (strip query).toList) (same : row.email.text = lower (strip query))
  | displayName (isName : '@' ∉ (strip query).toList) (same : lower row.displayName.text = lower (strip query))

structure SoleMatch (query : String) (row : UserRow) : Prop where
  member : row ∈ db.users.rows
  active : row.state = .active
  isMatch : Matches lower query row
  sole : ∀ other ∈ db.users.rows, other.state = .active → Matches lower query other → other = row

theorem matches_email (query : String) (row : UserRow) (isEmail : '@' ∈ (strip query).toList) :
    Matches lower query row ↔ row.email.text = lower (strip query) := by
  constructor
  · intro matched
    cases matched with
    | email _ same => exact same
    | displayName isName _ => exact absurd isEmail isName
  · exact .email isEmail

theorem matches_name (query : String) (row : UserRow) (isName : '@' ∉ (strip query).toList) :
    Matches lower query row ↔ lower row.displayName.text = lower (strip query) := by
  constructor
  · intro matched
    cases matched with
    | email isEmail _ => exact absurd isEmail isName
    | displayName _ same => exact same
  · exact .displayName isName

theorem same_email (row other : UserRow) (member : row ∈ db.users.rows) (otherMember : other ∈ db.users.rows)
    (same : other.email.text = row.email.text) : other = row :=
  List.inj_on_of_nodup_map db.uniqueEmail otherMember member (Varchar.ext 255 _ _ same)

def sole (candidate : String) : List UserRow → Except Error User
  | [] => .error (.domain (.recipientNotFound candidate))
  | [row] => .ok (toDomainUser row)
  | rows => .error (.domain (.recipientNotUnique candidate rows.length))

theorem sole_ok (candidate : String) (rows : List UserRow) (user : User) :
    sole candidate rows = .ok user ↔ ∃ row, toDomainUser row = user ∧ rows = [row] := by
  rcases rows with _ | ⟨row, _ | ⟨other, rows⟩⟩
  · exact iff_of_false (fun wrong => nomatch wrong) (fun ⟨_, _, wrong⟩ => nomatch wrong)
  · rw [sole, Except.ok.injEq]
    exact ⟨fun same => ⟨row, same, rfl⟩, fun ⟨_, same, isRow⟩ => (List.singleton_inj.mp isRow) ▸ same⟩
  · exact iff_of_false (fun wrong => nomatch wrong) (fun ⟨_, _, wrong⟩ => nomatch wrong)

def usable (candidate : String) : Option UserRow → Except Error User
  | none => .error (.domain (.recipientNotFound candidate))
  | some row => if row.state ≠ .active then .error (.domain (.recipientNotFound candidate)) else .ok (toDomainUser row)

theorem usable_ok (candidate : String) (found : Option UserRow) (user : User) :
    usable candidate found = .ok user ↔ ∃ row, toDomainUser row = user ∧ found = some row ∧ row.state = .active := by
  cases found with
  | none => exact iff_of_false (fun wrong => nomatch wrong) (fun ⟨_, _, wrong, _⟩ => nomatch wrong)
  | some row =>
      by_cases active : row.state = .active
      · rw [usable, if_neg (not_not.mpr active), Except.ok.injEq]
        exact ⟨fun same => ⟨row, same, rfl, active⟩, fun ⟨_, same, isRow, _⟩ => (Option.some.inj isRow) ▸ same⟩
      · rw [usable, if_pos active]
        exact iff_of_false (fun wrong => nomatch wrong)
          (fun ⟨_, _, isRow, wrong⟩ => active (Option.some.inj isRow ▸ wrong))

theorem find_recipient_run (script : List Fault) (query : String) (nonempty : strip query ≠ "")
    (storable : Storable (lower (strip query))) :
    ((findRecipient lower lower query).exec script db).result =
      if script.headD .none = .none then
        if '@' ∈ (strip query).toList then
          usable (strip query) (db.users.rows.find? fun row => row.email.text = lower (strip query))
        else sole (strip query) (db.users.rows.filter fun row =>
          lower row.displayName.text = lower (strip query) && row.state = .active)
      else .error .connection := by
  rw [findRecipient, if_neg nonempty]
  by_cases isEmail : '@' ∈ (strip query).toList
  · rw [if_pos isEmail, if_pos isEmail, getUserByEmail, bind_assoc,
      exec_select_bind _ _ _ _ (legal_one _ storable)]
    by_cases answered : script.headD .none = .none
    · rw [if_pos answered, if_pos answered]
      cases db.users.rows.find? fun row => row.email.text = lower (strip query) with
      | none => rfl
      | some row =>
          rw [usable]
          by_cases active : row.state = .active
          · simp [toDomainUser, active]
          · simp [toDomainUser, active]
    · rw [if_neg answered, if_neg answered]
  · rw [if_neg isEmail, if_neg isEmail, findActiveByDisplayName, strip_strip,
      exec_select_bind _ _ _ _ (legal_one _ storable)]
    by_cases answered : script.headD .none = .none
    · rw [if_pos answered, if_pos answered]
      generalize (db.users.rows.filter fun row => lower row.displayName.text = lower (strip query) &&
        row.state = .active) = found
      rcases found with _ | ⟨row, _ | ⟨other, rows⟩⟩
      · rfl
      · rfl
      · simp [sole]
    · rw [if_neg answered, if_neg answered]

theorem find_recipient_refused (script : List Fault) (query : String) (refused : ¬ Storable (lower (strip query))) :
    ∃ error, ((findRecipient lower lower query).exec script db).result = .error error := by
  have illegal : ¬ Legal [lower (strip query)] := fun legal => refused (legal _ List.mem_cons_self)
  rw [findRecipient]
  split
  · exact ⟨_, rfl⟩
  · split
    · rw [getUserByEmail, bind_assoc, exec_select_refused _ _ _ _ illegal]
      exact ⟨_, rfl⟩
    · rw [findActiveByDisplayName, strip_strip, exec_select_refused _ _ _ _ illegal]
      exact ⟨_, rfl⟩

-- What is found is the one active account that the query names.
theorem find_recipient_ok (script : List Fault) (query : String) (user : User) :
    ((findRecipient lower lower query).exec script db).result = .ok user ↔
      script.headD .none = .none ∧ strip query ≠ "" ∧ Storable (lower (strip query)) ∧
        ∃ row, toDomainUser row = user ∧ SoleMatch lower db query row := by
  by_cases empty : strip query = ""
  · rw [findRecipient, if_pos empty]
    exact iff_of_false (fun wrong => nomatch wrong) (fun both => both.2.1 empty)
  by_cases storable : Storable (lower (strip query))
  swap
  · obtain ⟨error, refused⟩ := find_recipient_refused lower db script query storable
    rw [refused]
    exact iff_of_false (fun wrong => nomatch wrong) fun both => storable both.2.2.1
  rw [find_recipient_run lower db script query empty storable]
  by_cases answered : script.headD .none = .none
  · rw [if_pos answered, and_iff_right answered, and_iff_right empty, and_iff_right storable]
    by_cases isEmail : '@' ∈ (strip query).toList
    · have isKey := fun row => matches_email lower query row isEmail
      rw [if_pos isEmail, usable_ok]
      refine exists_congr fun row => and_congr_right fun _ => ?_
      constructor
      · intro ⟨found, active⟩
        have member := List.mem_of_find?_eq_some found
        have isEmailOf : row.email.text = lower (strip query) := by simpa using List.find?_some found
        exact ⟨member, active, (isKey row).mpr isEmailOf, fun other otherMember _ matched =>
          same_email db row other member otherMember (((isKey other).mp matched).trans isEmailOf.symm)⟩
      · intro ⟨member, active, matched, _⟩
        exact ⟨find_email db row (lower (strip query)) member ((isKey row).mp matched), active⟩
    · have isKey := fun row => matches_name lower query row isEmail
      rw [if_neg isEmail, sole_ok]
      refine exists_congr fun row => and_congr_right fun _ => ?_
      rw [Table.filter_sole_iff]
      simp only [Bool.and_eq_true, decide_eq_true_eq, ← isKey]
      constructor
      · intro ⟨member, ⟨matched, active⟩, only⟩
        exact ⟨member, active, matched,
          fun other otherMember isActive otherMatched => only other otherMember ⟨otherMatched, isActive⟩⟩
      · intro ⟨member, active, matched, only⟩
        exact ⟨member, ⟨matched, active⟩, fun other otherMember both => only other otherMember both.2 both.1⟩
  · rw [if_neg answered]
    exact iff_of_false (fun wrong => nomatch wrong) (fun both => answered both.1)

-- No other active account has the display name, ignoring case.
def Unshared (row : UserRow) : Prop :=
  ∀ other ∈ db.users.rows, other.state = .active →
    lower other.displayName.text = lower row.displayName.text → other = row

structure RecipientsResolve : Prop where
  neverGuessed : ∀ script query user, ((findRecipient lower lower query).exec script db).result = .ok user →
    ∃ row, toDomainUser row = user ∧ SoleMatch lower db query row
  found : ∀ row ∈ db.users.rows, row.state = .active → Unshared lower db row →
    ((findRecipient lower lower row.displayName.text).exec [] db).result = .ok (toDomainUser row)

-- Whether a stored name, without the whitespace around it, still names its account: with
-- an @ in it, it has to be the account's own email, and without one its key has to be one
-- that PostgreSQL takes.
def NameLeadsBack (lower : Lower) (row : UserRow) : Prop :=
  strip row.displayName.text ≠ "" ∧
    if '@' ∈ (strip row.displayName.text).toList then row.email.text = lower (strip row.displayName.text)
    else lower (strip row.displayName.text) = lower row.displayName.text ∧ Storable (lower row.displayName.text)

theorem own_name_iff (row : UserRow) (member : row ∈ db.users.rows) (active : row.state = .active)
    (unshared : Unshared lower db row) :
    ((findRecipient lower lower row.displayName.text).exec [] db).result = .ok (toDomainUser row) ↔
      NameLeadsBack lower row := by
  have answered : ([] : List Fault).headD .none = .none := rfl
  rw [find_recipient_ok lower db, and_iff_right answered, NameLeadsBack]
  refine and_congr_right fun _ => ?_
  have isOwn : (∃ other, toDomainUser other = toDomainUser row ∧ SoleMatch lower db row.displayName.text other) ↔
      SoleMatch lower db row.displayName.text row := by
    constructor
    · rintro ⟨other, same, only⟩
      exact domain_user_injective other row same ▸ only
    · exact fun only => ⟨row, rfl, only⟩
  rw [isOwn]
  by_cases isEmail : '@' ∈ (strip row.displayName.text).toList
  · rw [if_pos isEmail]
    have isKey := fun other => matches_email lower row.displayName.text other isEmail
    constructor
    · intro ⟨_, _, _, matched, _⟩
      exact (isKey row).mp matched
    · intro isEmailOf
      exact ⟨isEmailOf ▸ row.email.fits.2, member, active, (isKey row).mpr isEmailOf, fun other otherMember _ matched =>
        same_email db row other member otherMember (((isKey other).mp matched).trans isEmailOf.symm)⟩
  · rw [if_neg isEmail]
    have isKey := fun other => matches_name lower row.displayName.text other isEmail
    constructor
    · intro ⟨storable, _, _, matched, _⟩
      have same := ((isKey row).mp matched).symm
      exact ⟨same, same ▸ storable⟩
    · intro ⟨isName, storable⟩
      exact ⟨isName ▸ storable, member, active, (isKey row).mpr isName.symm, fun other otherMember isActive matched =>
        unshared other otherMember isActive (((isKey other).mp matched).trans isName)⟩

-- Nobody is ever guessed, and an account that is alone with its name is found by it exactly
-- when the name leads back to it.
theorem recipients_resolve_iff :
    RecipientsResolve lower db ↔ ∀ row ∈ db.users.rows, row.state = .active → Unshared lower db row →
      NameLeadsBack lower row := by
  constructor
  · intro resolves row member active unshared
    exact (own_name_iff lower db row member active unshared).mp (resolves.found row member active unshared)
  · intro leadsBack
    refine ⟨fun script query user run => ?_, fun row member active unshared => ?_⟩
    · exact ((find_recipient_ok lower db script query user).mp run).2.2.2
    · exact (own_name_iff lower db row member active unshared).mpr (leadsBack row member active unshared)

end Lookup

-- One registration on an empty database, with a name typed between two spaces.
def spacedName (_call : Fin 1) : Call := .registerUser "bob@arcadia.com" "password" " Bob "

def spacedIo (_call : Fin 1) : Surroundings := sampleIo

def spacedDb : Db := reachedBy bcryptPlatform.toPlatform spacedName spacedIo (Pool.moves [0, 0, 0])

theorem spaced_account : spacedDb.users.rows.map (fun row => (row.displayName.text, row.state)) =
    [(" Bob ", .active)] := by
  decide +kernel

theorem spaced_not_found :
    ((findRecipient bcryptPlatform.lower bcryptPlatform.lower " Bob ").exec [] spacedDb).result =
      .error (.domain (.recipientNotFound "Bob")) := by
  decide +kernel

theorem spaced_name_lost :
    spacedDb = reachedBy bcryptPlatform.toPlatform spacedName spacedIo (Pool.moves [0, 0, 0]) ∧
      ¬ RecipientsResolve bcryptPlatform.lower spacedDb := by
  refine ⟨rfl, fun resolves => ?_⟩
  obtain ⟨row, isRow, isBob⟩ := List.map_eq_singleton_iff.mp spaced_account
  obtain ⟨isName, isActive⟩ := Prod.mk.inj isBob
  have member : row ∈ spacedDb.users.rows := isRow ▸ List.mem_singleton_self row
  have unshared : Unshared bcryptPlatform.lower spacedDb row :=
    fun other otherMember _ _ => List.mem_singleton.mp (isRow ▸ otherMember)
  have found := resolves.found row member isActive unshared
  rw [isName, spaced_not_found] at found
  cases found

end AuthProfile
