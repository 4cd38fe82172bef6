import AuthProfile.Credentials
import AuthProfile.Passwords
import AuthProfile.Process.Sequence
import AuthProfile.Strip

set_option autoImplicit false

namespace AuthProfile

open Relation Process UserRepository

-- settings.super_admin_email, super_admin_password and super_admin_display_name.
structure SuperAdmin where
  email : String
  password : String
  displayName : String

theorem no_emails : ((Table.empty : Table UserRow).rows.map UserRow.email).Nodup := List.nodup_nil

theorem no_requesters : ∀ request ∈ (Table.empty : Table RoleRequestRow).rows, request.userId.text ∈
    (Table.empty : Table UserRow).keys :=
  fun _ member => absurd member List.not_mem_nil

def Db.empty : Db := ⟨Table.empty, Table.empty, Table.empty, Table.empty, no_emails, no_requesters⟩

def normalised (lower : Lower) (email : String) : String := strip (lower email)

-- Earlier boots, registrations and whatever else was called, interleaved in any order.
def reachedBy {ι : Type} [DecidableEq ι] (platform : Platform) (calls : ι → Call) (ios : ι → Surroundings)
    (moves : List (Move ι)) : Db :=
  (Pool.run ⟨Db.empty, fun i => (calls i).program platform (ios i)⟩ moves).store

section Boots

variable (platform : Platform) (admin : SuperAdmin)

def boot (io : Surroundings) : Prog Db Error Unit :=
  seedSuperAdmin platform.lower platform.hasher io admin.email admin.password admin.displayName

def bootAll (db : Db) (boots : List Surroundings) : Db := runAll (boot platform admin) (fun _ => []) db boots

def SuperAdmin.account (io : Surroundings) : User :=
  newAccount .admin platform io admin.email admin.password admin.displayName

structure SeedsOnce (db : Db) (first : Surroundings) (later : List Surroundings) : Prop where
  noError : AllReturn (boot platform admin) (fun _ => []) db (first :: later)
  users : (bootAll platform admin db (first :: later)).users = (bootAll platform admin db [first]).users
  outbox : (bootAll platform admin db (first :: later)).outbox = (bootAll platform admin db [first]).outbox
  oneAccount : ∃ row, (bootAll platform admin db (first :: later)).users.rows.filter
    (fun row => row.email.text = normalised platform.lower admin.email) = [row]

theorem boot_known (io : Surroundings) (db : Db) (row : UserRow) (member : row ∈ db.users.rows)
    (isEmail : row.email.text = admin.email) :
    (boot platform admin io).exec [] db = ⟨.ok (), [], db⟩ := by
  have storable : Storable admin.email := isEmail ▸ row.email.fits.2
  rw [boot, seedSuperAdmin, getUserByEmail, bind_assoc, exec_select_alone _ _ _ _ (legal_one _ storable),
    find_email db row _ member isEmail]
  rfl

-- A boot that ends without an error has sent the configured address.
theorem boot_storable (io : Surroundings) (db : Db) (noError : ((boot platform admin io).exec [] db).result = .ok ()) :
    Storable admin.email := by
  rw [boot, seedSuperAdmin, getUserByEmail, bind_assoc] at noError
  exact (exec_select_ok _ _ _ db [] () noError).1 admin.email List.mem_cons_self

theorem boot_unknown (io : Surroundings) (db : Db) (storable : Storable admin.email)
    (unknown : ∀ row ∈ db.users.rows, row.email.text ≠ admin.email) :
    (boot platform admin io).exec [] db =
      (saveUser io (admin.account platform io) [(admin.account platform io).registeredEvent]).exec [] db := by
  rw [boot, seedSuperAdmin, getUserByEmail, bind_assoc, exec_select_alone _ _ _ _ (legal_one _ storable),
    (emails_unknown db _).mpr unknown]
  rfl

-- Once the looked up address is there, booting changes nothing any more.
theorem boots_known (db : Db) (boots : List Surroundings) (row : UserRow) (member : row ∈ db.users.rows)
    (isEmail : row.email.text = admin.email) :
    AllReturn (boot platform admin) (fun _ => []) db boots ∧ bootAll platform admin db boots = db := by
  induction boots with
  | nil => exact ⟨trivial, rfl⟩
  | cons io boots ih =>
      have run := boot_known platform admin io db row member isEmail
      rw [AllReturn, bootAll, runAll, List.foldl_cons, run]
      exact ⟨⟨rfl, ih.1⟩, ih.2⟩

theorem one_account (db : Db) (row : UserRow) (text : String) (member : row ∈ db.users.rows)
    (isEmail : row.email.text = text) :
    db.users.rows.filter (fun row => row.email.text = text) = [row] := by
  refine (Table.filter_sole_iff _ db.users row).mpr ⟨member, decide_eq_true isEmail, fun other isOther otherEmail => ?_⟩
  have sameEmail : other.email = row.email := Varchar.ext 255 _ _ ((of_decide_eq_true otherEmail).trans isEmail.symm)
  exact List.inj_on_of_nodup_map db.uniqueEmail isOther member sameEmail

theorem boot_admitted (io : Surroundings) (db : Db) (storable : Storable admin.email)
    (unknown : ∀ row ∈ db.users.rows, row.email.text ≠ admin.email)
    (admits : db.Admits io (admin.account platform io)) :
    ∃ row after, row.email.text = normalised platform.lower admin.email ∧ row.id = io.freshId ∧
      after.users.rows = db.users.rows ++ [row] ∧ (boot platform admin io).exec [] db = ⟨.ok (), [], after⟩ := by
  obtain ⟨row, after, same, created, run⟩ :=
    save_admitted io _ (admin.account platform io).registeredEvent db io.freshId.fits admits
  have isId : row.id = io.freshId := Varchar.ext 36 _ _ ((congrArg User.id same).trans (Varchar.cut_text 36 io.freshId))
  have kept := new_email_kept platform io admin.email admin.password admin.displayName .admin admits.taken
  have isEmail : row.email.text = Varchar.cut 255 (normalised platform.lower admin.email) := congrArg User.email same
  exact ⟨row, after, isEmail.trans (Varchar.cut_short 255 _ kept.1), isId,
    ((Table.insert_some_iff row _ _).mp created.users).2,
    (boot_unknown platform admin io db storable unknown).trans run⟩

theorem boot_admits (io : Surroundings) (db : Db) (unknown : ∀ row ∈ db.users.rows, row.email.text ≠ admin.email)
    (fresh : io.freshId.text ∉ db.users.keys) (noError : ((boot platform admin io).exec [] db).result = .ok ()) :
    db.Admits io (admin.account platform io) := by
  by_contra refused
  obtain ⟨error, run, _⟩ :=
    save_turned_away io _ (admin.account platform io).registeredEvent db io.freshId.fits fresh refused
  rw [boot_unknown platform admin io db (boot_storable platform admin io db noError) unknown, run] at noError
  cases noError

-- What the columns take, and whether a boot finds what the one before it stored.
def SuperAdmin.Settled (db : Db) (later : List Surroundings) : Prop :=
  let fits := Varchar.Fits 255 (normalised platform.lower admin.email) ∧ Varchar.Takes 64 admin.displayName
  if admin.email = normalised platform.lower admin.email then (∃ row ∈ db.users.rows, row.email.text = admin.email) ∨
    fits
  else (∀ row ∈ db.users.rows, row.email.text ≠ normalised platform.lower admin.email) ∧ Storable admin.email ∧
    fits ∧ later = []

structure FreshBoots (db : Db) (first : Surroundings) (later : List Surroundings) : Prop where
  ids : ∀ io ∈ first :: later, io.freshId.text ∉ db.users.keys
  row : (first.rowId 0).text ∉ db.outbox.keys
  apart : ∀ io ∈ later, io.freshId.text ≠ first.freshId.text

section Seeds

variable (db : Db) (first : Surroundings) (later : List Surroundings) (fresh : FreshBoots db first later)

theorem seeds_known (row : UserRow) (member : row ∈ db.users.rows) (isEmail : row.email.text = admin.email)
    (isNormal : admin.email = normalised platform.lower admin.email) : SeedsOnce platform admin db first later := by
  obtain ⟨all, allSame⟩ := boots_known platform admin db (first :: later) row member isEmail
  obtain ⟨_, oneSame⟩ := boots_known platform admin db [first] row member isEmail
  refine ⟨all, by rw [allSame, oneSame], by rw [allSame, oneSame], row, ?_⟩
  rw [allSame]
  exact one_account db row _ member (isEmail.trans isNormal)

theorem seeds_admitted (storable : Storable admin.email) (unknown : ∀ row ∈ db.users.rows, row.email.text ≠ admin.email)
    (admits : db.Admits first (admin.account platform first))
    (found : admin.email = normalised platform.lower admin.email ∨ later = []) :
    SeedsOnce platform admin db first later := by
  obtain ⟨row, after, isEmail, _, grown, run⟩ := boot_admitted platform admin first db storable unknown admits
  have member : row ∈ after.users.rows := grown ▸ List.mem_append_right _ (List.mem_singleton_self row)
  have oneBoot : bootAll platform admin db [first] = after := congrArg Outcome.store run
  have more : AllReturn (boot platform admin) (fun _ => []) after later ∧
      bootAll platform admin after later = after := by
    rcases found with isNormal | isNil
    · exact boots_known platform admin after later row member (isEmail.trans isNormal.symm)
    · subst isNil
      exact ⟨trivial, rfl⟩
  have allBoots : bootAll platform admin db (first :: later) = after := by
    rw [bootAll, runAll, List.foldl_cons, run]
    exact more.2
  refine ⟨⟨congrArg Outcome.result run, ?_⟩, by rw [allBoots, oneBoot], by rw [allBoots, oneBoot], row, ?_⟩
  · rw [run]
    exact more.1
  · rw [allBoots]
    exact one_account after row _ member isEmail

include fresh

-- With another spelling in the settings the second boot does not find the account of the first.
theorem second_boot_refused (storable : Storable admin.email)
    (other : admin.email ≠ normalised platform.lower admin.email)
    (unknown : ∀ row ∈ db.users.rows, row.email.text ≠ admin.email)
    (admits : db.Admits first (admin.account platform first))
    (noError : AllReturn (boot platform admin) (fun _ => []) db (first :: later)) : later = [] := by
  obtain ⟨row, after, isEmail, isId, grown, run⟩ := boot_admitted platform admin first db storable unknown admits
  cases later with
  | nil => rfl
  | cons second rest =>
      obtain ⟨_, again⟩ := noError
      rw [run] at again
      have stillUnknown : ∀ old ∈ after.users.rows, old.email.text ≠ admin.email := by
        intro old member
        rw [grown, List.mem_append, List.mem_singleton] at member
        rcases member with before | isRow
        · exact unknown old before
        · rw [isRow, isEmail]
          exact other.symm
      have stillFresh : second.freshId.text ∉ after.users.keys := by
        rw [Table.mem_keys_added row _ _ grown, not_or]
        refine ⟨fresh.ids second (List.mem_cons_of_mem _ List.mem_cons_self), fun same => ?_⟩
        exact fresh.apart second List.mem_cons_self (same.trans (congrArg Varchar.text isId))
      have admitsAgain := boot_admits platform admin second after stillUnknown stillFresh again.1
      have kept := new_email_kept platform second admin.email admin.password admin.displayName .admin admitsAgain.taken
      have isAgain : row.email.text = Varchar.cut 255 (admin.account platform second).email :=
        isEmail.trans (Varchar.cut_short 255 _ kept.1).symm
      exact absurd isAgain (admitsAgain.unknown row (grown ▸ List.mem_append_right _ (List.mem_singleton_self row)))

theorem seeds_once_iff (settles : ∀ text, platform.lower (strip (platform.lower text)) = strip (platform.lower text))
    (hashed : ∀ salt plain, Varchar.Fits 255 (platform.hasher.hash salt plain))
    (normal : ∀ row ∈ db.users.rows, ∃ text, row.email.text = normalised platform.lower text) :
    SeedsOnce platform admin db first later ↔ admin.Settled platform db later := by
  have twice : ∀ text, normalised platform.lower (normalised platform.lower text) = normalised platform.lower text := by
    intro text
    rw [normalised, normalised, settles, strip_strip]
  have admitted : Varchar.Fits 255 (normalised platform.lower admin.email) ∧ Varchar.Takes 64 admin.displayName →
      (∀ row ∈ db.users.rows, row.email.text ≠ normalised platform.lower admin.email) →
        db.Admits first (admin.account platform first) := by
    intro ⟨emailFits, nameFits⟩ unknown
    refine ⟨⟨Varchar.takes_fits 36 _ first.freshId.fits, Varchar.takes_fits 255 _ emailFits,
      Varchar.takes_fits 255 _ (hashed _ _),
      nameFits⟩, fresh.ids first List.mem_cons_self, ?_, fresh.row⟩
    change ∀ row ∈ db.users.rows, row.email.text ≠ Varchar.cut 255 (normalised platform.lower admin.email)
    rw [Varchar.cut_short 255 _ emailFits.1]
    exact unknown
  have fitting : db.Admits first (admin.account platform first) →
      Varchar.Fits 255 (normalised platform.lower admin.email) ∧ Varchar.Takes 64 admin.displayName := fun admits =>
    ⟨new_email_kept platform first admin.email admin.password admin.displayName .admin admits.taken,
      admits.taken.displayName⟩
  rw [SuperAdmin.Settled]
  by_cases isNormal : admin.email = normalised platform.lower admin.email
  · rw [if_pos isNormal]
    by_cases known : ∃ row ∈ db.users.rows, row.email.text = admin.email
    · obtain ⟨row, member, isEmail⟩ := known
      exact iff_of_true (seeds_known platform admin db first later row member isEmail isNormal)
        (Or.inl ⟨row, member, isEmail⟩)
    · have unknown : ∀ row ∈ db.users.rows, row.email.text ≠ admin.email :=
        fun row member isEmail => known ⟨row, member, isEmail⟩
      rw [or_iff_right known]
      constructor
      · intro seeds
        have admits := boot_admits platform admin first db unknown (fresh.ids first List.mem_cons_self) seeds.noError.1
        exact fitting admits
      · intro fits
        exact seeds_admitted platform admin db first later (isNormal ▸ fits.1.2) unknown
          (admitted fits (isNormal ▸ unknown))
          (Or.inl isNormal)
  · rw [if_neg isNormal]
    have unknown : ∀ row ∈ db.users.rows, row.email.text ≠ admin.email := by
      intro row member isEmail
      obtain ⟨text, isText⟩ := normal row member
      rw [isEmail] at isText
      exact isNormal (by rw [isText, twice])
    constructor
    · intro seeds
      have admits := boot_admits platform admin first db unknown (fresh.ids first List.mem_cons_self) seeds.noError.1
      have storable := boot_storable platform admin first db seeds.noError.1
      have fits := fitting admits
      have absent : ∀ row ∈ db.users.rows, row.email.text ≠ Varchar.cut 255 (normalised platform.lower admin.email) :=
        admits.unknown
      rw [Varchar.cut_short 255 _ fits.1.1] at absent
      exact ⟨absent, storable, fits,
        second_boot_refused platform admin db first later fresh storable isNormal unknown admits seeds.noError⟩
    · intro ⟨absent, storable, fits, isNil⟩
      exact seeds_admitted platform admin db first later storable unknown (admitted fits absent) (Or.inr isNil)

end Seeds

def spelledNormally (lower : Lower) : Vouching where
  present := fun _ => False
  email := fun _ text => ∃ typed, text = normalised lower typed
  passwordHash := fun _ _ => True

theorem reached_normal {ι : Type} [DecidableEq ι] (calls : ι → Call) (ios : ι → Surroundings) (moves : List (Move ι)) :
    (reachedBy platform calls ios moves).Vouched (spelledNormally platform.lower) := by
  have start : Db.empty.Vouched (spelledNormally platform.lower) :=
    ⟨fun _ wrong => False.elim wrong, fun _ member => nomatch member⟩
  refine Pool.run_keeps (Db.Vouched (spelledNormally platform.lower)) _ moves start fun i => ?_
  refine call_vouched _ _ platform (calls i) ?_
  have spelled : ∀ email, Varchar.Takes 255 (normalised platform.lower email) →
      ∃ typed, Varchar.cut 255 (normalised platform.lower email) = normalised platform.lower typed :=
    fun email taken => ⟨email, Varchar.cut_short 255 _ (strip_kept 255 _ taken).1⟩
  cases calls i with
  | registerUser email password displayName => exact ⟨spelled email, fun _ => trivial⟩
  | seedSuperAdmin email password displayName => exact ⟨spelled email, fun _ => trivial⟩
  | _ => trivial

-- From whatever database the service has got to, seeding is idempotent exactly when a boot
-- finds what the one before it stored.
theorem seed_idempotent_iff {ι : Type} [DecidableEq ι]
    (settles : ∀ text, platform.lower (strip (platform.lower text)) = strip (platform.lower text))
    (hashed : ∀ salt plain, Varchar.Fits 255 (platform.hasher.hash salt plain))
    (calls : ι → Call) (ios : ι → Surroundings) (moves : List (Move ι)) (db : Db)
    (reached : db = reachedBy platform calls ios moves)
    (first : Surroundings) (later : List Surroundings) (fresh : FreshBoots db first later) :
    SeedsOnce platform admin db first later ↔ admin.Settled platform db later := by
  refine seeds_once_iff platform admin db first later fresh settles hashed fun row member => ?_
  subst reached
  exact ((reached_normal platform calls ios moves).allowed row member).1

end Boots

theorem lower_char_other (c : Char) (other : ¬ ('A'.val ≤ c.val ∧ c.val ≤ 'Z'.val)) : c.toLower = c := by
  unfold Char.toLower
  rw [dif_neg other]

theorem lower_char_twice (c : Char) : c.toLower.toLower = c.toLower := by
  by_cases isUpper : 'A'.val ≤ c.val ∧ c.val ≤ 'Z'.val
  · have lowered : c.toLower.val = c.val + 32 := by
      unfold Char.toLower
      rw [dif_pos isUpper]
      rfl
    apply lower_char_other
    have first : 'A'.val = 65 := rfl
    have last : 'Z'.val = 90 := rfl
    rw [first, last] at isUpper ⊢
    rw [lowered]
    grind
  · rw [lower_char_other c isUpper, lower_char_other c isUpper]

theorem ascii_settles (text : String) :
    asciiPlatform.lower (strip (asciiPlatform.lower text)) = strip (asciiPlatform.lower text) := by
  have lowered : ∀ c ∈ (strip (asciiPlatform.lower text)).toList, c.toLower = c := by
    intro c member
    have isLowered := strip_mem _ c member
    rw [asciiPlatform, String.toList_ofList] at isLowered
    obtain ⟨original, _, same⟩ := List.mem_map.mp isLowered
    rw [← same, lower_char_twice]
  change String.ofList ((strip (asciiPlatform.lower text)).toList.map Char.toLower) = _
  rw [List.map_congr_left lowered, List.map_id', String.ofList_toList]

def defaultAdmin : SuperAdmin := ⟨"admin@arcadia.com", "admin-password", "Super Admin"⟩

def noCalls (n : Fin 0) : Call := n.elim0

def noIos (n : Fin 0) : Surroundings := n.elim0

theorem empty_fresh : FreshBoots Db.empty sampleIo [otherIo] := ⟨by decide, by decide, by decide⟩

theorem default_seeds : SeedsOnce bcryptPlatform.toPlatform defaultAdmin Db.empty sampleIo [otherIo] ↔
    defaultAdmin.Settled bcryptPlatform.toPlatform Db.empty [otherIo] :=
  seed_idempotent_iff bcryptPlatform.toPlatform defaultAdmin ascii_settles bcrypt_like_fits noCalls noIos
    [] Db.empty rfl sampleIo [otherIo]
    empty_fresh

def capitalAdmin : SuperAdmin := ⟨"Admin@arcadia.com", "admin-password", "Super Admin"⟩

-- The second boot looks for Admin@arcadia.com and cannot insert admin@arcadia.com again.
theorem capital_stops_boot :
    Db.empty = reachedBy bcryptPlatform.toPlatform noCalls noIos [] ∧ FreshBoots Db.empty sampleIo [otherIo] ∧
      ¬ SeedsOnce bcryptPlatform.toPlatform capitalAdmin Db.empty sampleIo [otherIo] := by
  refine ⟨rfl, empty_fresh, fun seeds => ?_⟩
  have admits : Db.empty.Admits sampleIo (capitalAdmin.account bcryptPlatform.toPlatform sampleIo) :=
    ⟨⟨by decide, by decide, Varchar.takes_fits 255 _ (bcrypt_like_fits sampleIo.salt capitalAdmin.password), by decide⟩,
      by decide, by decide, by decide⟩
  cases second_boot_refused bcryptPlatform.toPlatform capitalAdmin Db.empty sampleIo [otherIo] empty_fresh
    (by decide) (by decide)
    (by decide) admits seeds.noError

end AuthProfile
