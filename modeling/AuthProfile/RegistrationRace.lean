import AuthProfile.Passwords
import AuthProfile.Process.Solo

set_option autoImplicit false

namespace AuthProfile

open Relation Process UserRepository

structure RegisterCall where
  email : String
  password : String
  displayName : String
  io : Surroundings

section Phases

variable (platform : Platform) (call : RegisterCall)

def RegisterCall.program : Prog Db Error User :=
  registerUser platform.lower platform.hasher call.io call.email call.password call.displayName

def RegisterCall.account : User := newAccount .basicUser platform call.io call.email call.password call.displayName

-- What is left of a call whose lookup found nobody, and of one that has made sure of its new id.
def RegisterCall.saving : Prog Db Error User := do
  saveUser call.io (call.account platform) [(call.account platform).registeredEvent]
  return call.account platform

def RegisterCall.committing : Prog Db Error User := do
  commit (createWrites call.io (call.account platform) (call.account platform).registeredEvent)
  return call.account platform

theorem advance_lookup (db : Db) (storable : Storable (strip (platform.lower call.email))) :
    (call.program platform).advance .none db =
    (if (∀ row ∈ db.users.rows, row.email.text ≠ strip (platform.lower call.email)) then call.saving platform
      else .raise (.domain (.duplicateEmail call.email)), db) := by
  rw [RegisterCall.program, registerUser, getUserByEmail, bind_assoc,
    advance_select _ _ _ _ (legal_one _ storable)]
  split
  · rename_i unknown
    rw [(emails_unknown db _).mpr unknown]
    rfl
  · rename_i known
    cases found : db.users.rows.find? fun row => row.email.text = strip (platform.lower call.email) with
    | none => exact absurd ((emails_unknown db _).mp found) known
    | some row => rfl

theorem advance_saving (db : Db) (fresh : call.io.freshId.text ∉ db.users.keys) :
    (call.saving platform).advance .none db = (call.committing platform, db) := by
  have absent : db.users.find call.io.freshId.text = none := (Table.find_none_iff _ _).mpr fresh
  rw [RegisterCall.saving, saveUser, bind_assoc,
    advance_select _ _ _ _ (legal_one (call.account platform).id call.io.freshId.fits.2)]
  change (commit (userWrite (db.users.find call.io.freshId.text) _ :: _) >>= _, db) = _
  rw [absent]
  rfl

theorem advance_committing (db : Db) (admits : db.Admits call.io (call.account platform)) :
    ∃ row after, toDomainUser row = (call.account platform).settled ∧
      Db.AccountCreated call.io row (call.account platform).registeredEvent db after ∧
        (call.committing platform).advance .none db = (.ret (call.account platform), after) := by
  obtain ⟨after, run⟩ :=
    (create_commits call.io db _ (call.account platform).registeredEvent call.io.freshId.fits.1).mpr
    ⟨admits.taken, admits.fresh, admits.unknown, admits.freshRow⟩
  obtain ⟨row, stored⟩ := user_row_stores _ admits.taken
  refine ⟨row, after, (user_row_store_ok _ row stored).2,
    (create_flush call.io db row _ _ stored call.io.freshId.fits.1 after).mp run, ?_⟩
  rw [RegisterCall.committing, commit, Prog.atomic, Prog.act_bind]
  simp only [Prog.advance, run]
  rfl

def NotDuplicate (result : Except Error User) : Prop := result ≠ .error (.domain (.duplicateEmail call.email))

-- Past its lookup a call has no way left to DuplicateEmailError.
theorem saving_leaves : (call.saving platform).Leaves (NotDuplicate call) := by
  have unsaid : NotDuplicate call (.error .connection) := fun wrong => by cases wrong
  refine Prog.leaves_bind _ _ _ (select_leaves _ _ _ _ ⟨unsaid, fun wrong => by cases wrong⟩ fun found => ?_)
    fun _ wrong => by cases wrong
  refine Prog.leaves_atomic _ _ _ unsaid (fun _ _ _ _ => trivial) fun before error run wrong => ?_
  have foreign := foreign_map _ (fun after => ((), after)) (Db.flush_foreign
    (userWrite found (call.account platform) ::
      (outboxDrafts call.io "User" (call.account platform).id [(call.account platform).registeredEvent]).map
        .insertOutbox) before)
  rw [Except.error.injEq] at wrong
  exact foreign (.duplicateEmail call.email) (run.trans (congrArg Except.error wrong))

end Phases

variable {ι : Type} [DecidableEq ι]

def atOnce (platform : Platform) (calls : ι → RegisterCall) (db : Db) : Pool ι Db Error User :=
  ⟨db, fun i => (calls i).program platform⟩

-- One account, announced once, and everybody else told that the address is taken.
structure ResolvesCleanly (address : String) (calls : ι → RegisterCall) (before : Db)
    (pool : Pool ι Db Error User) : Prop where
  account : ∃ row, pool.store.users.rows = before.users.rows ++ [row] ∧ row.email.text = address
  announced : ∃ row, pool.store.outbox.rows = before.outbox.rows ++ [row] ∧
    row.eventType.text = "arcadia.auth.v1.UserRegistered"
  answers : ∃ winner user, (pool.procs winner).finished = some (.ok user) ∧ ∀ other, other ≠ winner →
    (pool.procs other).finished = some (.error (.domain (.duplicateEmail (calls other).email)))

-- Calls for one address that nobody has yet, with names and hashes that their columns take
-- and ids that are not taken.
structure OneAddress (platform : Platform) (address : String) (calls : ι → RegisterCall) (db : Db) : Prop where
  same : ∀ i, strip (platform.lower (calls i).email) = address
  unknown : ∀ row ∈ db.users.rows, row.email.text ≠ address
  named : ∀ i, Varchar.Takes 64 (calls i).displayName
  hashed : ∀ salt plain, Varchar.Fits 255 (platform.hasher.hash salt plain)
  fresh : ∀ i, (calls i).io.freshId.text ∉ db.users.keys
  freshRow : ∀ i, ((calls i).io.rowId 0).text ∉ db.outbox.keys

section Race

variable (platform : Platform) (address : String) (calls : ι → RegisterCall) (db : Db)

section Alone

variable (one : OneAddress platform address calls db)

include one

omit [DecidableEq ι] in
theorem account_admitted (fits : Varchar.Fits 255 address) (i : ι) :
    db.Admits (calls i).io ((calls i).account platform) := by
  have isAddress : ((calls i).account platform).email = address := one.same i
  refine ⟨⟨Varchar.takes_fits 36 _ (calls i).io.freshId.fits, isAddress ▸ Varchar.takes_fits 255 _ fits,
    Varchar.takes_fits 255 _ (one.hashed _ _), one.named i⟩, one.fresh i, ?_, one.freshRow i⟩
  rw [isAddress, Varchar.cut_short 255 address fits.1]
  exact one.unknown

variable (pool : Pool ι Db Error User) (i : ι) (store : pool.store = db)

include store

theorem step_lookup (storable : Storable address) (starts : pool.procs i = (calls i).program platform) :
    (pool.step ⟨i, .none⟩).store = db ∧ (pool.step ⟨i, .none⟩).procs i = (calls i).saving platform := by
  have unknown : ∀ row ∈ db.users.rows, row.email.text ≠ strip (platform.lower (calls i).email) :=
    (one.same i).symm ▸ one.unknown
  have moved := advance_lookup platform (calls i) db ((one.same i).symm ▸ storable)
  rw [if_pos unknown] at moved
  have here := Pool.step_here pool ⟨i, .none⟩
  have there := Pool.step_store pool ⟨i, .none⟩
  rw [starts, store, moved] at here there
  exact ⟨there, here⟩

theorem step_saving (saves : pool.procs i = (calls i).saving platform) :
    (pool.step ⟨i, .none⟩).store = db ∧ (pool.step ⟨i, .none⟩).procs i = (calls i).committing platform := by
  have moved := advance_saving platform (calls i) db (one.fresh i)
  have here := Pool.step_here pool ⟨i, .none⟩
  have there := Pool.step_store pool ⟨i, .none⟩
  rw [saves, store, moved] at here there
  exact ⟨there, here⟩

end Alone

-- The winner has committed; everybody else has yet to look, or has found the account.
structure Decided (winner : ι) (after : Db) (pool : Pool ι Db Error User) : Prop where
  store : pool.store = after
  won : pool.procs winner = .ret ((calls winner).account platform)
  others : ∀ other, other ≠ winner → pool.procs other = (calls other).program platform ∨
    pool.procs other = .raise (.domain (.duplicateEmail (calls other).email))

theorem decided_step (winner : ι) (after : Db) (pool : Pool ι Db Error User)
    (decided : Decided platform calls winner after pool)
    (same : ∀ i, strip (platform.lower (calls i).email) = address) (row : UserRow) (member : row ∈ after.users.rows)
    (isAddress : row.email.text = address) (i : ι) :
    Decided platform calls winner after (pool.step ⟨i, .none⟩) := by
  obtain ⟨store, won, others⟩ := decided
  have turnedAway : ∀ j, (calls j).program platform = pool.procs j →
      (pool.procs j).advance .none pool.store = (.raise (.domain (.duplicateEmail (calls j).email)), after) := by
    intro j starts
    have known : ¬ ∀ row ∈ after.users.rows, row.email.text ≠ strip (platform.lower (calls j).email) :=
      fun unknown => unknown row member (isAddress.trans (same j).symm)
    have storable : Storable (strip (platform.lower (calls j).email)) := (same j).symm ▸ isAddress ▸ row.email.fits.2
    rw [← starts, store, advance_lookup platform (calls j) after storable, if_neg known]
  have moved : (pool.step ⟨i, .none⟩).store = after ∧ (i = winner → (pool.step ⟨i, .none⟩).procs i = pool.procs i) ∧
      (i ≠ winner → (pool.step ⟨i, .none⟩).procs i = .raise (.domain (.duplicateEmail (calls i).email))) := by
    have here := Pool.step_here pool ⟨i, .none⟩
    have there := Pool.step_store pool ⟨i, .none⟩
    dsimp only at here there
    by_cases isWinner : i = winner
    · subst isWinner
      rw [won] at here there
      exact ⟨there.trans store, fun _ => here.trans won.symm, fun wrong => absurd rfl wrong⟩
    · rcases others i isWinner with starts | refused
      · rw [turnedAway i starts.symm] at here there
        exact ⟨there, fun wrong => absurd wrong isWinner, fun _ => here⟩
      · rw [refused] at here there
        exact ⟨there.trans store, fun wrong => absurd wrong isWinner, fun _ => here⟩
  obtain ⟨stays, winnerStays, otherMoves⟩ := moved
  refine ⟨stays, ?_, fun other different => ?_⟩
  · by_cases here : winner = i
    · subst here
      exact (winnerStays rfl).trans won
    · exact (Pool.step_elsewhere pool ⟨i, .none⟩ winner here).trans won
  · by_cases here : other = i
    · subst here
      exact Or.inr (otherMoves different)
    · rw [Pool.step_elsewhere pool ⟨i, .none⟩ other here]
      exact others other different

theorem decided_play (winner : ι) (after : Db) (pool : Pool ι Db Error User)
    (decided : Decided platform calls winner after pool)
    (same : ∀ i, strip (platform.lower (calls i).email) = address) (row : UserRow) (member : row ∈ after.users.rows)
    (isAddress : row.email.text = address) (schedule : List ι) :
    Decided platform calls winner after (pool.play schedule) := by
  induction schedule generalizing pool with
  | nil => exact decided
  | cons i schedule ih =>
      exact ih _ (decided_step platform address calls winner after pool decided same row member isAddress i)

theorem resolves_of_alone (one : OneAddress platform address calls db) (fits : Varchar.Fits 255 address) (winner : ι)
    (schedule : List ι)
    (complete : ∀ i, (((atOnce platform calls db).play (winner :: winner :: winner :: schedule)).procs i).finished ≠
      none) :
    ResolvesCleanly address calls db ((atOnce platform calls db).play (winner :: winner :: winner :: schedule)) := by
  let start := atOnce platform calls db
  let looked := start.step ⟨winner, .none⟩
  let loaded := looked.step ⟨winner, .none⟩
  obtain ⟨lookedStore, saves⟩ := step_lookup platform address calls db one start winner rfl fits.2 rfl
  obtain ⟨loadedStore, commits⟩ := step_saving platform address calls db one looked winner lookedStore saves
  obtain ⟨row, after, isRow, created, moved⟩ := advance_committing platform (calls winner) db
    (account_admitted platform address calls db one fits winner)
  have grown := ((Table.insert_some_iff row _ _).mp created.users).2
  have isAddress : row.email.text = address := by
    have settled : row.email.text = Varchar.cut 255 ((calls winner).account platform).email := congrArg User.email isRow
    rw [settled, show ((calls winner).account platform).email = address from one.same winner,
      Varchar.cut_short 255 address fits.1]
  have member : row ∈ after.users.rows := grown ▸ List.mem_append_right _ (List.mem_singleton_self row)
  have decided : Decided platform calls winner after (loaded.step ⟨winner, .none⟩) := by
    have here := Pool.step_here loaded ⟨winner, .none⟩
    have there := Pool.step_store loaded ⟨winner, .none⟩
    rw [commits, loadedStore, moved] at here there
    refine ⟨there, here, fun other different => Or.inl ?_⟩
    rw [Pool.step_elsewhere loaded ⟨winner, .none⟩ other different,
      Pool.step_elsewhere looked ⟨winner, .none⟩ other different,
      Pool.step_elsewhere start ⟨winner, .none⟩ other different]
    rfl
  obtain ⟨store, won, others⟩ :=
    decided_play platform address calls winner after _ decided one.same row member isAddress schedule
  rw [Pool.play_cons, Pool.play_cons, Pool.play_cons] at complete ⊢
  refine ⟨⟨row, store ▸ grown, isAddress⟩,
    ⟨eventRow (calls winner).io row.id ((calls winner).account platform).registeredEvent, ?_,
    registered_event_type ((calls winner).account platform)⟩, winner, _, congrArg Prog.finished won,
      fun other different => ?_⟩
  · rw [store]
    exact ((Table.insert_some_iff _ _ _).mp created.outbox).2
  · rcases others other different with starts | refused
    · exact absurd (congrArg Prog.finished starts) (complete other)
    · exact congrArg Prog.finished refused

-- Whoever looked before there was an account is the one that made it.
theorem looked_first (pool : Pool ι Db Error User) (winner i : ι) (schedule : List ι)
    (saves : pool.procs i = (calls i).saving platform) (others : ∀ other, other ≠ winner →
      ((pool.play schedule).procs other).finished = some (.error (.domain (.duplicateEmail (calls other).email)))) : i =
        winner := by
  by_contra different
  have never : (pool.procs i).Leaves (NotDuplicate (calls i)) := by
    rw [saves]
    exact saving_leaves platform (calls i)
  exact Prog.leaves_finished _ _ _ (Pool.leaves_play _ pool schedule i never) (others i different) rfl

theorem two_looked (one : OneAddress platform address calls db) (storable : Storable address) (first second : ι)
    (different : second ≠ first) (later : List ι) :
    ¬ ResolvesCleanly address calls db ((atOnce platform calls db).play (first :: second :: later)) := by
  intro ⟨_, _, winner, _, _, others⟩
  let start := atOnce platform calls db
  let looked := start.step ⟨first, .none⟩
  rw [Pool.play_cons] at others
  obtain ⟨store, saves⟩ := step_lookup platform address calls db one start first rfl storable rfl
  have starts : looked.procs second = (calls second).program platform :=
    Pool.step_elsewhere start ⟨first, .none⟩ second different
  obtain ⟨_, secondSaves⟩ := step_lookup platform address calls db one looked second store storable starts
  have isFirst : first = winner := looked_first platform calls looked winner first (second :: later) saves others
  rw [Pool.play_cons] at others
  have isSecond : second = winner :=
    looked_first platform calls (looked.step ⟨second, .none⟩) winner second later secondSaves others
  exact different (isSecond.trans isFirst.symm)

-- Registrations of one address resolve cleanly exactly when its column keeps it and one of them makes
-- all its three moves (look up, load, commit) before any other has looked.
theorem registrations_resolve_iff (one : OneAddress platform address calls db) (schedule : List ι)
    (complete : ∀ i, (((atOnce platform calls db).play schedule).procs i).finished ≠ none) :
    ResolvesCleanly address calls db ((atOnce platform calls db).play schedule) ↔
      Varchar.Fits 255 address ∧ ∃ winner later, schedule = winner :: winner :: winner :: later := by
  constructor
  · intro resolves
    have ⟨⟨row, _, isAddress⟩, _, winner, user, won, others⟩ := resolves
    have storable : Storable address := isAddress ▸ row.email.fits.2
    refine ⟨isAddress ▸ row.email.fits, winner, ?_⟩
    cases schedule with
    | nil => cases won
    | cons first schedule =>
        let start := atOnce platform calls db
        let looked := start.step ⟨first, .none⟩
        rw [Pool.play_cons] at won others
        obtain ⟨lookedStore, saves⟩ := step_lookup platform address calls db one start first rfl storable rfl
        have isFirst : first = winner := looked_first platform calls looked winner first schedule saves others
        subst isFirst
        cases schedule with
        | nil =>
            rw [Pool.play_nil, saves] at won
            cases won
        | cons second schedule =>
            let loaded := looked.step ⟨second, .none⟩
            have isSecond : second = first :=
              by_contra fun different =>
                two_looked platform address calls db one storable first second different schedule resolves
            subst isSecond
            rw [Pool.play_cons] at won others
            obtain ⟨loadedStore, commits⟩ := step_saving platform address calls db one looked second lookedStore saves
            cases schedule with
            | nil =>
                rw [Pool.play_nil, commits] at won
                cases won
            | cons third schedule =>
                refine ⟨schedule, ?_⟩
                have isThird : third = second := by
                  by_contra different
                  have starts : loaded.procs third = (calls third).program platform :=
                    (Pool.step_elsewhere looked ⟨second, .none⟩ third different).trans
                      (Pool.step_elsewhere start ⟨second, .none⟩ third different)
                  obtain ⟨_, thirdSaves⟩ :=
                    step_lookup platform address calls db one loaded third loadedStore storable starts
                  rw [Pool.play_cons] at others
                  exact different
                    (looked_first platform calls (loaded.step ⟨third, .none⟩) second third schedule thirdSaves others)
                rw [isThird]
  · intro ⟨fits, winner, later, isSchedule⟩
    subst isSchedule
    exact resolves_of_alone platform address calls db one fits winner later complete

end Race

-- One person who presses the button twice.
def twoCalls (n : Fin 2) : RegisterCall :=
  if n = 0 then ⟨"bob@arcadia.com", "password", "Bob", sampleIo⟩ else ⟨"Bob@arcadia.com", "password", "Bob", otherIo⟩

theorem two_calls_one_address : OneAddress bcryptPlatform.toPlatform "bob@arcadia.com" twoCalls seededService.db where
  same := by decide
  unknown := by decide
  named := by decide
  hashed := bcrypt_like_fits
  fresh := by decide
  freshRow := by decide

theorem two_calls_resolve :
    ResolvesCleanly "bob@arcadia.com" twoCalls seededService.db
        ((atOnce bcryptPlatform.toPlatform twoCalls seededService.db).play [0, 0, 0, 1]) ↔
      Varchar.Fits 255 "bob@arcadia.com" ∧ ∃ (winner : Fin 2)
      (later : _), [0, 0, 0, 1] = winner :: winner :: winner :: later :=
  registrations_resolve_iff bcryptPlatform.toPlatform "bob@arcadia.com" twoCalls seededService.db
    two_calls_one_address [0, 0, 0, 1]
    (by decide +kernel)

-- Both look before either has committed: the second commit is an IntegrityError.
theorem both_looked_collide :
    OneAddress bcryptPlatform.toPlatform "bob@arcadia.com" twoCalls seededService.db ∧
      (∀ n, (((atOnce bcryptPlatform.toPlatform twoCalls seededService.db).play [0, 1, 0, 0, 1, 1]).procs n).finished ≠
        none) ∧
      ¬ ResolvesCleanly "bob@arcadia.com" twoCalls seededService.db
        ((atOnce bcryptPlatform.toPlatform twoCalls seededService.db).play [0, 1, 0, 0, 1, 1]) := by
  have complete : ∀ n,
      (((atOnce bcryptPlatform.toPlatform twoCalls seededService.db).play [0, 1, 0, 0, 1, 1]).procs n).finished ≠
        none := by
    decide +kernel
  exact ⟨two_calls_one_address, complete,
    two_looked _ _ twoCalls _ two_calls_one_address (by decide) 0 1 (by decide) [0, 0, 1, 1]⟩

end AuthProfile
