import AuthProfile.Calls
import AuthProfile.Db.CreateCommit
import AuthProfile.Decision
import AuthProfile.Strip

set_option autoImplicit false

namespace AuthProfile

open Relation Process UserRepository

-- What register and register_super_admin hand to the repository.
def newAccount (role : Role) (platform : Platform) (io : Surroundings) (email password displayName : String) : User :=
  (User.create role platform.lower io.freshId.text io.now email
    (platform.hasher.hash io.salt password) displayName).pullEvents.2

def User.registeredEvent (user : User) : DomainEvent :=
  .userRegistered user.id user.email user.displayName user.role.value user.state.value

theorem registered_event_type (user : User) : user.registeredEvent.eventType = "arcadia.auth.v1.UserRegistered" := by
  change "arcadia.auth.v1." ++ "UserRegistered" = "arcadia.auth.v1.UserRegistered"
  decide

-- Nothing in the database stands in the way of the new account.
structure Db.Admits (db : Db) (io : Surroundings) (user : User) : Prop where
  taken : user.Taken
  fresh : user.id ∉ db.users.keys
  unknown : ∀ other ∈ db.users.rows, other.email.text ≠ Varchar.cut 255 user.email
  freshRow : (io.rowId 0).text ∉ db.outbox.keys

section Save

variable (io : Surroundings) (user : User) (event : DomainEvent) (db : Db) (kept : Varchar.Fits 36 user.id)

include kept

theorem save_new_user (fresh : user.id ∉ db.users.keys) :
    (saveUser io user [event]).exec [] db = (commit (createWrites io user event)).exec [] db := by
  have absent : db.users.find user.id = none := (Table.find_none_iff _ _).mpr fresh
  rw [saveUser, exec_select_alone _ _ _ _ (legal_one user.id kept.2), absent]
  rfl

theorem save_admitted (admits : db.Admits io user) : ∃ row after, toDomainUser row = user.settled ∧
    Db.AccountCreated io row event db after ∧ (saveUser io user [event]).exec [] db = ⟨.ok (), [], after⟩ := by
  obtain ⟨taken, fresh, unknown, freshRow⟩ := admits
  obtain ⟨after, run⟩ := (create_commits io db user event kept.1).mpr ⟨taken, fresh, unknown, freshRow⟩
  obtain ⟨row, stored⟩ := user_row_stores user taken
  refine ⟨row, after, (user_row_store_ok user row stored).2,
    (create_flush io db row user event stored kept.1 after).mp run, ?_⟩
  rw [save_new_user io user event db kept fresh, commit_ok _ _ db after run]
  rfl

theorem save_turned_away (fresh : user.id ∉ db.users.keys) (refused : ¬ db.Admits io user) : ∃ error,
    (saveUser io user [event]).exec [] db = ⟨.error error, [], db⟩ ∧ ∀ domainError, error ≠ .domain domainError := by
  rw [save_new_user io user event db kept fresh]
  cases run : Db.flush (createWrites io user event) db with
  | error error =>
      refine ⟨error, commit_error _ _ db error run, fun domainError isDomain => ?_⟩
      exact Db.flush_foreign _ db domainError (run.trans (congrArg Except.error isDomain))
  | ok after =>
      obtain ⟨taken, isFresh, unknown, freshRow⟩ := (create_commits io db user event kept.1).mp ⟨after, run⟩
      exact absurd ⟨taken, isFresh, unknown, freshRow⟩ refused

end Save

section Register

variable (platform : Platform) (io : Surroundings) (email password displayName : String)

theorem emails_unknown (db : Db) (text : String) :
    (db.users.rows.find? fun row => row.email.text = text) = none ↔ ∀ row ∈ db.users.rows, row.email.text ≠ text := by
  simp only [List.find?_eq_none, decide_eq_true_eq]

-- A new account's address is kept by its column or not taken at all.
theorem new_email_kept (role : Role) (taken : (newAccount role platform io email password displayName).Taken) :
    Varchar.Fits 255 (strip (platform.lower email)) := strip_kept 255 _ taken.email

theorem register_unknown (db : Db) (storable : Storable (strip (platform.lower email)))
    (unknown : ∀ row ∈ db.users.rows, row.email.text ≠ strip (platform.lower email)) :
    (registerUser platform.lower platform.hasher io email password displayName).exec [] db =
      (saveUser io (newAccount .basicUser platform io email password displayName)
          [(newAccount .basicUser platform io email password displayName).registeredEvent] >>= fun _ =>
        .ret (newAccount .basicUser platform io email password displayName)).exec [] db := by
  rw [registerUser, getUserByEmail, bind_assoc, exec_select_alone _ _ _ _ (legal_one _ storable),
    (emails_unknown db _).mpr unknown]
  rfl

theorem register_admitted (db : Db)
    (admits : db.Admits io (newAccount .basicUser platform io email password displayName)) :
    ∃ row after, toDomainUser row = (newAccount .basicUser platform io email password displayName).settled ∧
      Db.AccountCreated io row (newAccount .basicUser platform io email password displayName).registeredEvent db after ∧
        (registerUser platform.lower platform.hasher io email password displayName).exec [] db =
          ⟨.ok (newAccount .basicUser platform io email password displayName), [], after⟩ := by
  obtain ⟨row, after, same, created, run⟩ := save_admitted io _
    (newAccount .basicUser platform io email password displayName).registeredEvent db io.freshId.fits admits
  have kept := new_email_kept platform io email password displayName .basicUser admits.taken
  have unknown : ∀ row ∈ db.users.rows, row.email.text ≠ strip (platform.lower email) :=
    Varchar.cut_short 255 _ kept.1 ▸ admits.unknown
  refine ⟨row, after, same, created, ?_⟩
  rw [register_unknown platform io email password displayName db kept.2 unknown, Prog.exec_bind, run]
  rfl

-- Whoever registered stands in the database as registered.
theorem register_ok (script : List Fault) (db : Db) (user : User)
    (run : ((registerUser platform.lower platform.hasher io email password displayName).exec script db).result =
      .ok user) :
    user = newAccount .basicUser platform io email password displayName ∧ user.Taken ∧
      (((registerUser platform.lower platform.hasher io email password displayName).exec script db).store.users.find
        user.id).map
        toDomainUser = some user.settled := by
  have holds : (registerUser platform.lower platform.hasher io email password displayName).wp
    (fun result after => ∀ answer,
      result = .ok answer → answer = newAccount .basicUser platform io email password displayName ∧ answer.Taken ∧
        (after.users.find answer.id).map toDomainUser = some answer.settled) db := by
    refine wp_get_user_by_email _ _ _ db (fun _ _ wrong => nomatch wrong) fun found => ?_
    cases found with
    | some existing => exact fun _ wrong => nomatch wrong
    | none =>
        dsimp only
        rw [Prog.wp_bind]
        refine wp_save_user _ io _ io.freshId.fits.1 _ db (fun _ _ wrong => nomatch wrong) fun after saved =>
          ⟨fun answer isAnswer => ?_, fun _ wrong => nomatch wrong⟩
        cases isAnswer
        exact ⟨rfl, saved.taken, saved.row⟩
  exact Prog.wp_exec _ _ db holds script user run

end Register

end AuthProfile
