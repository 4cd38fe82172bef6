import AuthProfile.Atomicity
import AuthProfile.Db.AccountCommit
import AuthProfile.Process.Machine
import AuthProfile.Process.Solo

set_option autoImplicit false

namespace AuthProfile

open Relation Process UserRepository

inductive AdminAction where
  | approveRegistration (actorRole : Role) (approve : Bool) (decidedBy reason : String)
  | banUser (actorRole : Role) (ban : Bool) (actorId reason : String)
  | grantRole (actorRole : Role) (newRole : Role) (grantedBy : String)

structure AdminCall where
  io : Surroundings
  action : AdminAction

namespace AdminAction

def program (io : Surroundings) (targetUserId : String) : AdminAction → Prog Db Error Unit
  | .approveRegistration actorRole approve decidedBy reason =>
      AuthProfile.approveRegistration io actorRole targetUserId approve decidedBy reason
  | .banUser actorRole ban actorId reason => AuthProfile.banUser io actorRole targetUserId ban actorId reason
  | .grantRole actorRole newRole grantedBy => AuthProfile.grantRole io actorRole targetUserId newRole grantedBy

def allowed : AdminAction → Except DomainError Unit
  | .approveRegistration actorRole _ _ _ => RolePolicy.assertCanApproveRegistration actorRole
  | .banUser actorRole _ _ _ => RolePolicy.assertCanBan actorRole
  | .grantRole actorRole newRole _ => RolePolicy.assertCanGrant actorRole newRole

def change : AdminAction → User → Except DomainError User
  | .approveRegistration _ approve decidedBy reason => decideRegistration approve decidedBy reason
  | .banUser _ ban actorId reason => decideBan ban actorId reason
  | .grantRole _ newRole grantedBy => fun user => .ok (user.changeRole newRole grantedBy)

theorem program_eq (io : Surroundings) (targetUserId : String) (action : AdminAction) :
    action.program io targetUserId = liftDomain action.allowed >>= fun _ =>
      administer io targetUserId action.change := by
  cases action <;> rfl

-- What a call asks of the state it reads and what it makes of the account.
inductive Plan where
  | state (required target : UserState)
  | role (newRole : Role)
deriving DecidableEq, Repr

def plan : AdminAction → Plan
  | .approveRegistration _ true _ _ => .state .pending .active
  | .approveRegistration _ false _ _ => .state .pending .rejected
  | .banUser _ true _ _ => .state .active .banned
  | .banUser _ false _ _ => .state .banned .active
  | .grantRole _ newRole _ => .role newRole

def event (row : UserRow) : AdminAction → DomainEvent
  | .approveRegistration _ true decidedBy _ => .registrationApproved row.id.text decidedBy
  | .approveRegistration _ false decidedBy reason => .registrationRejected row.id.text decidedBy reason
  | .banUser _ true actorId reason => .userBanned row.id.text actorId reason
  | .banUser _ false actorId _ => .userUnbanned row.id.text actorId
  | .grantRole _ newRole grantedBy => .roleGranted row.id.text row.role.value newRole.value grantedBy

end AdminAction

namespace AdminAction.Plan

def ready (account : Account) : Plan → Prop
  | .state required _ => account.state = required
  | .role _ => True

def apply (account : Account) : Plan → Account
  | .state _ target => { account with state := target }
  | .role newRole => { account with role := newRole }

-- The commit does to the current account what the call would do to it alone: the
-- column the call decides on still holds what it read, its new value is written, and
-- the column it does not decide on is not carried back to an older value.
def Undisturbed (read reread current : Account) : Plan → Prop
  | .state _ target =>
      read.state = current.state ∧ (reread.state ≠ target ∨ current.state = target) ∧
        (read.role = reread.role ∨ read.role = current.role)
  | .role newRole =>
      read.role = current.role ∧ (reread.role ≠ newRole ∨ current.role = newRole) ∧
        (read.state = reread.state ∨ read.state = current.state)

theorem changed_kept {α : Type} [DecidableEq α] (read reread current : α) (kept : read = reread ∨ read = current) :
    (changed reread read).getD current = current := by
  rcases kept with same | same
  · rw [same, changed_self]
    rfl
  · by_cases unwritten : read = reread
    · rw [unwritten, changed_self]
      rfl
    · rw [changed, if_neg unwritten, same]
      rfl

theorem changed_written {α : Type} [DecidableEq α] (reread target current : α)
    (written : reread ≠ target ∨ current = target) :
    (changed reread target).getD current = target := by
  by_cases unwritten : target = reread
  · rcases written with different | same
    · exact absurd unwritten.symm different
    · rw [changed, if_pos unwritten, same]
      rfl
  · rw [changed, if_neg unwritten]
    rfl

theorem undisturbed_merge (read reread current : Account) (plan : Plan)
    (undisturbed : plan.Undisturbed read reread current) (ready : plan.ready read) :
    Account.merge reread (plan.apply read) current = plan.apply current ∧ plan.ready current := by
  cases plan with
  | state required target =>
      obtain ⟨decided, written, kept⟩ := undisturbed
      refine ⟨?_, decided.symm.trans ready⟩
      simp only [Account.merge, apply, changed_kept _ _ _ kept, changed_written _ _ _ written]
  | role newRole =>
      obtain ⟨_, written, kept⟩ := undisturbed
      refine ⟨?_, trivial⟩
      simp only [Account.merge, apply, changed_kept _ _ _ kept, changed_written _ _ _ written]

end AdminAction.Plan

inductive StateStep : UserState → UserState → Prop where
  | stay (state : UserState) : StateStep state state
  | approve : StateStep .pending .active
  | reject : StateStep .pending .rejected
  | ban : StateStep .active .banned
  | unban : StateStep .banned .active

theorem plan_state_step (action : AdminAction) (account : Account) (ready : action.plan.ready account) :
    StateStep account.state (action.plan.apply account).state := by
  cases action with
  | approveRegistration actorRole approve decidedBy reason =>
      cases approve with
      | true => exact (show account.state = .pending from ready) ▸ .approve
      | false => exact (show account.state = .pending from ready) ▸ .reject
  | banUser actorRole ban actorId reason =>
      cases ban with
      | true => exact (show account.state = .active from ready) ▸ .ban
      | false => exact (show account.state = .banned from ready) ▸ .unban
  | grantRole actorRole newRole grantedBy => exact .stay account.state

theorem transition_iff (user changed : User) (required target : UserState) (name : String) (event : DomainEvent) :
    user.transition required target name event = .ok changed ↔
      user.state = required ∧ changed = { user with state := target }.raise event := by
  constructor
  · exact transition_ok user changed required target name event
  · intro ⟨ready, same⟩
    simp only [User.transition, ready, ne_eq, not_true_eq_false, if_false, same]

theorem change_ok_iff (action : AdminAction) (row : UserRow) (changed : User) :
    action.change (toDomainUser row) = .ok changed ↔
      action.plan.ready row.account ∧
        changed = (toDomainUser (row.setAccount (action.plan.apply row.account))).raise (action.event row) := by
  cases action with
  | approveRegistration actorRole approve decidedBy reason =>
      cases approve with
      | true => exact transition_iff (toDomainUser row) changed _ _ _ _
      | false => exact transition_iff (toDomainUser row) changed _ _ _ _
  | banUser actorRole ban actorId reason =>
      cases ban with
      | true => exact transition_iff (toDomainUser row) changed _ _ _ _
      | false => exact transition_iff (toDomainUser row) changed _ _ _ _
  | grantRole actorRole newRole grantedBy =>
      exact ⟨fun run => ⟨trivial, by cases run; rfl⟩, fun ⟨_, same⟩ => by rw [same]; rfl⟩

def administration {ι : Type} (targetUserId : String) (calls : ι → AdminCall) (db : Db) : Pool ι Db Error Unit :=
  ⟨db, fun i => (calls i).action.program (calls i).io targetUserId⟩

def serialMachine {ι : Type} (targetUserId : String) (calls : ι → AdminCall) : Machine Db ι where
  follow := fun db i => (((calls i).action.program (calls i).io targetUserId).exec [] db).store
  legal := fun db i => (((calls i).action.program (calls i).io targetUserId).exec [] db).result = .ok ()

section Session

variable (targetUserId : String) (call : AdminCall)

def saveWrites (io : Surroundings) (loaded : UserRow) (changed : User) : List Write :=
  userWrite (some loaded) changed.pullEvents.2 ::
    (outboxDrafts io "User" changed.pullEvents.2.id changed.pullEvents.1).map .insertOutbox

-- Where a call stands, by the rows it has met in its moves so far.
inductive Phase : List (Option UserRow) → Prog Db Error Unit → Prop where
  | ended (seen : List (Option UserRow)) (p : Prog Db Error Unit) (result : Except Error Unit)
      (done : p.finished = some result) :
      Phase seen p
  | unmoved (allowed : call.action.allowed = .ok ()) : Phase [] (administer call.io targetUserId call.action.change)
  | read (row : UserRow) (changed : User) (allowed : call.action.allowed = .ok ())
      (isTarget : row.id.text = targetUserId)
      (run : call.action.change (toDomainUser row) = .ok changed) :
      Phase [some row] (saveUser call.io changed.pullEvents.2 changed.pullEvents.1)
  | loaded (row reread : UserRow) (changed : User) (allowed : call.action.allowed = .ok ())
      (run : call.action.change (toDomainUser row) = .ok changed) :
      Phase [some row, some reread] (commit (saveWrites call.io reread changed))

theorem phase_start : Phase targetUserId call [] (call.action.program call.io targetUserId) := by
  rw [AdminAction.program_eq]
  cases allowed : call.action.allowed with
  | error error => exact .ended [] _ (.error (.domain error)) rfl
  | ok done => exact .unmoved allowed

-- The rows a call has met are the account's, with another role or state perhaps.
def Linked (seen : List (Option UserRow)) (db : Db) : Prop :=
  ∀ row, some row ∈ seen → ∃ account, db.users.find targetUserId = some (row.setAccount account)

theorem advance_commit (writes : List Write) (db : Db) :
    (commit writes).advance .none db = match Db.flush writes db with
      | .ok after => (.ret (), after)
      | .error error => (.raise error, db) := by
  rw [commit, Prog.advance_atomic]
  cases Db.flush writes db with
  | error error => rfl
  | ok after => rfl

theorem phase_step (seen : List (Option UserRow)) (p : Prog Db Error Unit) (db : Db)
    (phase : Phase targetUserId call seen p) (linked : Linked targetUserId seen db) :
    (Phase targetUserId call (seen ++ [db.users.find targetUserId]) (p.advance .none db).1 ∧
      (p.advance .none db).2 = db ∧
        (p.finished ≠ some (.ok ()) → (p.advance .none db).1.finished ≠ some (.ok ()))) ∨
      ∃ row reread changed after, seen = [some row, some reread] ∧ call.action.allowed = .ok () ∧
        call.action.change (toDomainUser row) = .ok changed ∧
          Db.flush (saveWrites call.io reread changed) db = .ok after ∧
          p.finished = none ∧ p.advance .none db = (.ret (), after) := by
  cases phase with
  | ended _ _ result done =>
      left
      rw [Prog.finished_advance p .none db result done]
      exact ⟨.ended _ p result done, rfl, id⟩
  | unmoved allowed =>
      left
      rw [administer, getUserById, bind_assoc]
      by_cases legal : Legal [targetUserId]
      · rw [select_legal _ legal, Prog.advance_query_bind]
        cases found : db.users.find targetUserId with
        | none => exact ⟨.ended _ _ (.error (.domain (.userNotFound targetUserId))) rfl, rfl,
            fun _ => Prog.raise_not_ok _ _⟩
        | some row =>
            simp only [Option.map_some, pure_bind, List.nil_append]
            cases run : call.action.change (toDomainUser row) with
            | error error => exact ⟨.ended _ _ (.error (.domain error)) rfl, trivial, fun _ => Prog.raise_not_ok _ _⟩
            | ok changed =>
                exact ⟨.read row changed allowed (Table.find_key _ _ row found) run, trivial,
                  fun _ => Prog.act_not_ok _ _ _ _⟩
      · rw [advance_select_refused _ _ _ _ legal]
        exact ⟨.ended _ _ (.error (.data "parameter")) rfl, rfl, fun _ => Prog.raise_not_ok _ _⟩
  | read row changed allowed isTarget run =>
      left
      obtain ⟨account, found⟩ := linked row (List.mem_singleton_self _)
      obtain ⟨_, same⟩ := (change_ok_iff call.action row changed).mp run
      have sameId : changed.pullEvents.2.id = targetUserId := by rw [same]; exact isTarget
      have legal := legal_one targetUserId (isTarget ▸ row.id.fits.2)
      rw [saveUser, sameId, select_legal _ legal, Prog.advance_query_bind, found]
      refine ⟨?_, rfl, fun _ => Prog.act_not_ok _ _ _ _⟩
      have writes : userWrite (some (row.setAccount account)) changed.pullEvents.2 ::
          (outboxDrafts call.io "User" targetUserId changed.pullEvents.1).map .insertOutbox =
          saveWrites call.io (row.setAccount account) changed := by rw [saveWrites, sameId]
      rw [writes]
      exact .loaded row (row.setAccount account) changed allowed run
  | loaded row reread changed allowed run =>
      rw [advance_commit]
      cases flushed : Db.flush (saveWrites call.io reread changed) db with
      | error error => exact Or.inl ⟨.ended _ _ (.error error) rfl, rfl, fun _ => Prog.raise_not_ok _ _⟩
      | ok after => exact Or.inr ⟨row, reread, changed, after, rfl, allowed, run, flushed, rfl, rfl⟩

theorem event_same (action : AdminAction) (row : UserRow) (reread current : Account)
    (undisturbed : action.plan.Undisturbed row.account reread current) :
    action.event (row.setAccount current) = action.event row := by
  cases action with
  | approveRegistration actorRole approve decidedBy reason => cases approve <;> rfl
  | banUser actorRole ban actorId reason => cases ban <;> rfl
  | grantRole actorRole newRole grantedBy =>
      have sameRole : row.role = current.role := undisturbed.1
      simp only [AdminAction.event, UserRow.setAccount, sameRole]

theorem administer_missing (io : Surroundings) (change : User → Except DomainError User) (db : Db)
    (legal : Legal [targetUserId]) (missing : db.users.find targetUserId = none) :
    (administer io targetUserId change).exec [] db = ⟨.error (.domain (.userNotFound targetUserId)), [], db⟩ := by
  rw [administer, getUserById, bind_assoc, exec_select_alone _ _ _ _ legal, missing]
  rfl

theorem administer_found (io : Surroundings) (change : User → Except DomainError User) (db : Db) (row : UserRow)
    (found : db.users.find targetUserId = some row) :
    (administer io targetUserId change).exec [] db =
      (liftDomain (change (toDomainUser row)) >>= fun user => saveUser io user.pullEvents.2 user.pullEvents.1).exec
      [] db := by
  have legal := legal_one targetUserId (Table.find_key _ _ row found ▸ row.id.fits.2)
  rw [administer, getUserById, bind_assoc, exec_select_alone _ _ _ _ legal, found]
  rfl

theorem administer_alone (db after : Db) (row : UserRow) (allowed : call.action.allowed = .ok ())
    (found : db.users.find targetUserId = some row) (ready : call.action.plan.ready row.account)
    (committed : Db.AccountCommitted call.io row (call.action.plan.apply row.account)
      (call.action.event row) db after) :
    (call.action.program call.io targetUserId).exec [] db = ⟨.ok (), [], after⟩ := by
  have isTarget : row.id.text = targetUserId := Table.find_key _ _ row found
  have self : db.users.find row.id.text = some row := isTarget ▸ found
  have run := (change_ok_iff call.action row _).mpr ⟨ready, rfl⟩
  have shows : row.Shows ((toDomainUser (row.setAccount (call.action.plan.apply row.account))).raise
      (call.action.event row)).pullEvents.2 := ⟨rfl⟩
  have flushed := (account_flush call.io db row _ row.account (call.action.event row) shows self after).mpr
    (by rw [merge_self]; exact committed)
  rw [set_account_self] at flushed
  rw [AdminAction.program_eq, allowed]
  simp only [liftDomain, Prog.ret_bind]
  rw [administer_found targetUserId call.io _ db row found, run]
  simp only [liftDomain, Prog.ret_bind]
  have again : db.users.find ((toDomainUser (row.setAccount (call.action.plan.apply row.account))).raise
      (call.action.event row)).pullEvents.2.id = some row := self
  have legal : Legal [((toDomainUser (row.setAccount (call.action.plan.apply row.account))).raise
      (call.action.event row)).pullEvents.2.id] := legal_one row.id.text row.id.fits.2
  rw [saveUser, exec_select_alone _ _ _ _ legal, again, commit]
  have body : (Db.flush (accountWrites call.io row
    ((toDomainUser (row.setAccount (call.action.plan.apply row.account))).raise
      (call.action.event row)).pullEvents.2 (call.action.event row)) db).map (fun after => ((), after)) =
        .ok ((), after) := by
    rw [flushed]
    rfl
  exact Prog.exec_atomic_ok _ _ [] db after () body

theorem commit_alone (db after : Db) (row reread current : UserRow) (changed : User)
    (allowed : call.action.allowed = .ok ())
    (linked : Linked targetUserId [some row, some reread] db) (found : db.users.find targetUserId = some current)
    (run : call.action.change (toDomainUser row) = .ok changed)
    (flushed : Db.flush (saveWrites call.io reread changed) db = .ok after)
    (undisturbed : call.action.plan.Undisturbed row.account reread.account current.account) :
    (call.action.program call.io targetUserId).exec [] db = ⟨.ok (), [], after⟩ ∧
      after.users.find targetUserId = some (current.setAccount (call.action.plan.apply current.account)) ∧
      call.action.plan.ready current.account := by
  have isTarget : current.id.text = targetUserId := Table.find_key _ _ current found
  have self : db.users.find current.id.text = some current := isTarget ▸ found
  obtain ⟨ready, isChanged⟩ := (change_ok_iff call.action row changed).mp run
  obtain ⟨merged, readyNow⟩ := AdminAction.Plan.undisturbed_merge _ _ _ _ undisturbed ready
  have isRow : current = row.setAccount current.account := by
    obtain ⟨account, same⟩ := linked row (List.mem_cons_self ..)
    rw [found, Option.some.injEq] at same
    rw [same]
    rfl
  have isReread : reread = current.setAccount reread.account := by
    obtain ⟨account, same⟩ := linked reread (List.mem_cons_of_mem _ (List.mem_singleton_self _))
    rw [found, Option.some.injEq] at same
    rw [same]
    rfl
  have shows : current.Shows changed.pullEvents.2 := by
    rw [isChanged, isRow]
    exact ⟨rfl⟩
  have writes : saveWrites call.io reread changed =
      accountWrites call.io (current.setAccount reread.account) changed.pullEvents.2 (call.action.event row) := by
    rw [← isReread, isChanged]
    rfl
  rw [writes] at flushed
  have committed := (account_flush call.io db current _ reread.account _ shows self after).mp flushed
  have target : changed.pullEvents.2.account = call.action.plan.apply row.account := by rw [isChanged]; rfl
  have sameEvent := event_same call.action row reread.account current.account undisturbed
  rw [← isRow] at sameEvent
  rw [target, merged, ← sameEvent] at committed
  refine ⟨administer_alone targetUserId call db after current allowed found readyNow committed, ?_, readyNow⟩
  rw [committed.users]
  have present : key (current.setAccount (call.action.plan.apply current.account)) ∈ db.users.keys :=
    (List.mem_map_of_mem (Table.find_mem _ _ current found) : key current ∈ db.users.keys)
  exact isTarget ▸ Table.find_replace_same _ db.users present

end Session

section Runs

variable {ι : Type} [DecidableEq ι] (targetUserId : String) (calls : ι → AdminCall)

def sightings (pool : Pool ι Db Error Unit) : List ι → ι → List (Option UserRow)
  | [], _ => []
  | j :: schedule, i =>
      let later := sightings (pool.step ⟨j, .none⟩) schedule i
      if j = i then pool.store.users.find targetUserId :: later else later

-- Between a call's read, its re-read and its commit, nobody disturbed what it commits.
def Clean (action : AdminAction) : List (Option UserRow) → Prop
  | some row :: some reread :: some current :: _ => action.plan.Undisturbed row.account reread.account current.account
  | _ => True

def stateMachine : Machine (Pool ι Db Error Unit) ι where
  follow := fun pool i => pool.step ⟨i, .none⟩
  legal := fun pool i =>
    Option.Rel StateStep ((pool.store.account targetUserId).map Account.state)
      (((pool.step ⟨i, .none⟩).store.account targetUserId).map Account.state)

structure SerialSoFar (start : Db) (order : List ι) (seen : ι → List (Option UserRow))
    (pool : Pool ι Db Error Unit) : Prop where
  phases : ∀ i, Phase targetUserId (calls i) (seen i) (pool.procs i)
  linked : ∀ i, Linked targetUserId (seen i) pool.store
  distinct : order.Nodup
  committed : ∀ i, i ∈ order ↔ Pool.Succeeded pool i
  serial : (serialMachine targetUserId calls).Tracks start order pool.store

theorem linked_snoc (seen : List (Option UserRow)) (db : Db) (linked : Linked targetUserId seen db) :
    Linked targetUserId (seen ++ [db.users.find targetUserId]) db := by
  intro row member
  rcases List.mem_append.mp member with old | new
  · exact linked row old
  · exact ⟨row.account, (List.mem_singleton.mp new).symm⟩

theorem linked_commit (seen : List (Option UserRow)) (db after : Db) (current : UserRow) (account : Account)
    (found : db.users.find targetUserId = some current)
    (stored : after.users.find targetUserId = some (current.setAccount account))
    (linked : Linked targetUserId seen db) : Linked targetUserId seen after := by
  intro row member
  obtain ⟨before, same⟩ := linked row member
  rw [found, Option.some.injEq] at same
  exact ⟨account, by rw [stored, same, set_account_twice]⟩

def sight (seen : ι → List (Option UserRow)) (i : ι) (row : Option UserRow) : ι → List (Option UserRow) :=
  Function.update seen i (seen i ++ [row])

-- What the mover has now seen, and the others as before.
theorem sight_phases (seen : ι → List (Option UserRow)) (pool : Pool ι Db Error Unit) (i : ι) (row : Option UserRow)
    (before : ∀ j, Phase targetUserId (calls j) (seen j) (pool.procs j))
    (moved : Phase targetUserId (calls i) (seen i ++ [row]) ((pool.step ⟨i, .none⟩).procs i)) (j : ι) :
    Phase targetUserId (calls j) (sight seen i row j) ((pool.step ⟨i, .none⟩).procs j) := by
  by_cases isMover : j = i
  · rw [isMover, sight, Function.update_self]
    exact moved
  · rw [sight, Function.update_of_ne isMover, Pool.step_elsewhere pool ⟨i, .none⟩ j isMover]
    exact before j

theorem sight_linked (seen : ι → List (Option UserRow)) (i : ι) (db after : Db)
    (before : ∀ j, Linked targetUserId (seen j) db)
    (kept : ∀ rows, Linked targetUserId rows db → Linked targetUserId rows after) (j : ι) :
    Linked targetUserId (sight seen i (db.users.find targetUserId) j) after := by
  by_cases isMover : j = i
  · rw [isMover, sight, Function.update_self]
    exact kept _ (linked_snoc targetUserId _ _ (before i))
  · rw [sight, Function.update_of_ne isMover]
    exact kept _ (before j)

section Step

variable (start : Db) (order : List ι) (seen : ι → List (Option UserRow)) (pool : Pool ι Db Error Unit) (i : ι)
  (so : SerialSoFar targetUserId calls start order seen pool)

include so

-- A read, a refusal or no move at all: the database stays.
theorem serial_quiet
    (phase : Phase targetUserId (calls i) (seen i ++ [pool.store.users.find targetUserId])
      ((pool.procs i).advance .none pool.store).1)
    (same : ((pool.procs i).advance .none pool.store).2 = pool.store)
    (quiet : (pool.procs i).finished ≠ some (.ok ()) →
      ((pool.procs i).advance .none pool.store).1.finished ≠ some (.ok ())) :
    (stateMachine targetUserId).legal pool i ∧
      SerialSoFar targetUserId calls start order (sight seen i (pool.store.users.find targetUserId))
        (pool.step ⟨i, .none⟩) := by
  have here : (pool.step ⟨i, .none⟩).procs i = ((pool.procs i).advance .none pool.store).1 :=
    Pool.step_here pool ⟨i, .none⟩
  have store : (pool.step ⟨i, .none⟩).store = pool.store := (Pool.step_store pool ⟨i, .none⟩).trans same
  refine ⟨?_, sight_phases targetUserId calls seen pool i _ so.phases (here ▸ phase), ?_, so.distinct, fun j => ?_,
    by rw [store]; exact so.serial⟩
  · change Option.Rel _ _ _
    rw [store]
    cases (pool.store.account targetUserId).map Account.state with
    | none => exact .none
    | some state => exact .some (.stay state)
  · rw [store]
    exact sight_linked targetUserId seen i pool.store pool.store so.linked fun _ linked => linked
  · rw [so.committed j]
    by_cases isMover : j = i
    · rw [isMover, Pool.Succeeded, Pool.Succeeded, here]
      constructor
      · intro succeeded
        rw [Prog.finished_advance _ .none _ _ succeeded, succeeded]
      · exact fun succeeded => by_contra fun wasNot => quiet wasNot succeeded
    · rw [Pool.Succeeded, Pool.Succeeded, Pool.step_elsewhere pool ⟨i, .none⟩ j isMover]

-- The commit of a call that nobody disturbed goes to the end of the serial order.
theorem serial_commits (row reread current : UserRow) (changed : User) (after : Db)
    (isSeen : seen i = [some row, some reread])
    (allowed : (calls i).action.allowed = .ok ()) (run : (calls i).action.change (toDomainUser row) = .ok changed)
    (flushed : Db.flush (saveWrites (calls i).io reread changed) pool.store = .ok after)
    (running : (pool.procs i).finished = none) (advanced : (pool.procs i).advance .none pool.store = (.ret (), after))
    (found : pool.store.users.find targetUserId = some current)
    (undisturbed : (calls i).action.plan.Undisturbed row.account reread.account current.account) :
    (stateMachine targetUserId).legal pool i ∧
      SerialSoFar targetUserId calls start (order ++ [i]) (sight seen i (pool.store.users.find targetUserId))
        (pool.step ⟨i, .none⟩) := by
  have here : (pool.step ⟨i, .none⟩).procs i = .ret () :=
    (Pool.step_here pool ⟨i, .none⟩).trans (congrArg Prod.fst advanced)
  have store : (pool.step ⟨i, .none⟩).store = after :=
    (Pool.step_store pool ⟨i, .none⟩).trans (congrArg Prod.snd advanced)
  have notBefore : ¬ Pool.Succeeded pool i := by
    rw [Pool.Succeeded, running]
    exact fun wrong => nomatch wrong
  obtain ⟨alone, stored, ready⟩ :=
    commit_alone targetUserId (calls i) pool.store after row reread current changed allowed
    (isSeen ▸ so.linked i) found run flushed undisturbed
  refine ⟨?_, sight_phases targetUserId calls seen pool i _ so.phases ?_, ?_, ?_, fun j => ?_, ?_⟩
  · change Option.Rel _ _ _
    rw [store, Db.account, Db.account, found, stored]
    exact .some (plan_state_step (calls i).action _ ready)
  · rw [here]
    exact .ended _ _ (.ok ()) rfl
  · rw [store]
    exact sight_linked targetUserId seen i pool.store after so.linked fun rows =>
      linked_commit targetUserId rows pool.store after current _ found stored
  · refine List.nodup_append.mpr ⟨so.distinct, List.nodup_singleton i, fun a member b single same => ?_⟩
    rw [List.mem_singleton.mp single] at same
    exact notBefore ((so.committed i).mp (same ▸ member))
  · rw [List.mem_append, List.mem_singleton, so.committed j]
    by_cases isMover : j = i
    · have succeeds : Pool.Succeeded (pool.step ⟨i, .none⟩) i := by rw [Pool.Succeeded, here]; rfl
      rw [isMover]
      exact ⟨fun _ => succeeds, fun _ => Or.inr rfl⟩
    · rw [Pool.Succeeded, Pool.Succeeded, Pool.step_elsewhere pool ⟨i, .none⟩ j isMover]
      exact ⟨fun before => before.resolve_right isMover, Or.inl⟩
  · have succeedsAlone : (serialMachine targetUserId calls).legal pool.store i := congrArg Outcome.result alone
    have follows : (serialMachine targetUserId calls).follow pool.store i = after := congrArg Outcome.store alone
    have one := Machine.tracks_single (serialMachine targetUserId calls) pool.store i succeedsAlone
    rw [follows] at one
    rw [store]
    exact Machine.tracks_append _ _ _ _ _ _ so.serial one

theorem serial_step (clean : Pool.Succeeded (pool.step ⟨i, .none⟩) i →
    ∀ row reread current, seen i = [some row, some reread] → pool.store.users.find targetUserId = some current →
      (calls i).action.plan.Undisturbed row.account reread.account current.account) :
    (stateMachine targetUserId).legal pool i ∧
      ∃ order', SerialSoFar targetUserId calls start order' (sight seen i (pool.store.users.find targetUserId))
        (pool.step ⟨i, .none⟩) := by
  rcases phase_step targetUserId (calls i) (seen i) (pool.procs i) pool.store (so.phases i) (so.linked i) with
    ⟨phase, same, quiet⟩ | ⟨row, reread, changed, after, isSeen, allowed, run, flushed, running, advanced⟩
  · obtain ⟨legal, stays⟩ := serial_quiet targetUserId calls start order seen pool i so phase same quiet
    exact ⟨legal, order, stays⟩
  · have link := so.linked i
    rw [isSeen] at link
    obtain ⟨account, found⟩ := link row (List.mem_cons_self ..)
    have succeeds : Pool.Succeeded (pool.step ⟨i, .none⟩) i := by
      rw [Pool.Succeeded, Pool.step_here, advanced]
      rfl
    obtain ⟨legal, grows⟩ :=
      serial_commits targetUserId calls start order seen pool i so row reread _ changed after isSeen allowed run
      flushed running advanced found (clean succeeds row reread _ isSeen found)
    exact ⟨legal, order ++ [i], grows⟩

end Step

theorem serial_play (start : Db) (order : List ι) (seen : ι → List (Option UserRow)) (pool : Pool ι Db Error Unit)
    (schedule : List ι) (so : SerialSoFar targetUserId calls start order seen pool)
    (clean : ∀ i, Pool.Succeeded (pool.play schedule) i →
      Clean (calls i).action (seen i ++ sightings targetUserId pool schedule i)) :
    (stateMachine targetUserId).Lawful pool schedule ∧
      ∃ order' seen', SerialSoFar targetUserId calls start order' seen' (pool.play schedule) := by
  induction schedule generalizing order seen pool with
  | nil => exact ⟨trivial, order, seen, so⟩
  | cons i schedule ih =>
      have own : sightings targetUserId pool (i :: schedule) i =
          pool.store.users.find targetUserId :: sightings targetUserId (pool.step ⟨i, .none⟩) schedule i := if_pos rfl
      obtain ⟨legal, order', next⟩ :=
        serial_step targetUserId calls start order seen pool i so fun succeeds row reread current isSeen found => by
          have final : Pool.Succeeded (pool.play (i :: schedule)) i := by
            rw [Pool.Succeeded, Pool.play_cons, Pool.finished_play _ schedule i _ succeeds, succeeds]
          have isClean := clean i final
          rw [own, isSeen, found] at isClean
          exact isClean
      obtain ⟨lawful, final⟩ := ih order' _ _ next fun j succeeded => by
        have isClean := clean j succeeded
        by_cases isMover : j = i
        · rw [isMover] at isClean ⊢
          rw [own, ← List.singleton_append, ← List.append_assoc] at isClean
          rw [sight, Function.update_self]
          exact isClean
        · have foreign : sightings targetUserId pool (i :: schedule) j =
              sightings targetUserId (pool.step ⟨i, .none⟩) schedule j :=
            if_neg (Ne.symm isMover)
          rw [foreign] at isClean
          rw [sight, Function.update_of_ne isMover]
          exact isClean
      exact ⟨⟨legal, lawful⟩, final⟩

def Serializable (start : Db) (final : Pool ι Db Error Unit) : Prop :=
  ∃ order : List ι, order.Nodup ∧ (∀ i, i ∈ order ↔ Pool.Succeeded final i) ∧
    (serialMachine targetUserId calls).Tracks start order final.store

-- Concurrent administration of one account is serializable, and its committed states
-- follow the account state machine, in every run in which each commit is undisturbed.
theorem administration_serializable (start : Db) (schedule : List ι)
    (clean : ∀ i, Pool.Succeeded ((administration targetUserId calls start).play schedule) i →
      Clean (calls i).action (sightings targetUserId (administration targetUserId calls start) schedule i)) :
    Serializable targetUserId calls start ((administration targetUserId calls start).play schedule) ∧
      (stateMachine targetUserId).Lawful (administration targetUserId calls start) schedule := by
  have notYet : ∀ i, ¬ Pool.Succeeded (administration targetUserId calls start) i := by
    intro i succeeded
    change ((calls i).action.program (calls i).io targetUserId).finished = some (.ok ()) at succeeded
    rw [AdminAction.program_eq] at succeeded
    cases allowed : (calls i).action.allowed with
    | error error =>
        rw [allowed] at succeeded
        exact nomatch succeeded
    | ok done =>
        rw [allowed] at succeeded
        exact nomatch succeeded
  have so : SerialSoFar targetUserId calls start [] (fun _ => []) (administration targetUserId calls start) := by
    refine ⟨fun i => phase_start targetUserId (calls i), fun _ _ member => (nomatch member),
      List.nodup_nil, fun i => ?_,
      Machine.tracks_nil _ _⟩
    exact ⟨fun member => (nomatch member), fun succeeded => absurd succeeded (notYet i)⟩
  obtain ⟨lawful, order, seen, final⟩ := serial_play targetUserId calls start [] _ _ schedule so clean
  exact ⟨⟨order, final.distinct, final.committed, final.serial⟩, lawful⟩

end Runs

def banCalls : Bool → AdminCall
  | true => ⟨sampleIo, .banUser .support true "a1" "spam"⟩
  | false => ⟨otherIo, .banUser .admin true "a2" "fraud"⟩

-- Both calls read and load the account before either of them commits.
def racingBans : List Bool := [true, true, false, false, true, false]

theorem racing_bans_succeed (call : Bool) :
    Pool.Succeeded ((administration "u1" banCalls sampleDb).play racingBans) call := by
  cases call <;> rfl

theorem second_ban_fails (first second : Bool) (different : first ≠ second) :
    ¬ (serialMachine "u1" banCalls).legal ((serialMachine "u1" banCalls).follow sampleDb first) second := by
  intro legal
  cases first with
  | true =>
      cases second with
      | true => exact different rfl
      | false => exact nomatch legal
  | false =>
      cases second with
      | true => exact nomatch legal
      | false => exact different rfl

theorem bans_not_serializable :
    ¬ (Serializable "u1" banCalls sampleDb ((administration "u1" banCalls sampleDb).play racingBans) ∧
      (stateMachine "u1").Lawful (administration "u1" banCalls sampleDb) racingBans) := by
  rintro ⟨⟨order, distinct, committed, tracks⟩, _⟩
  have both : ∀ call, call ∈ order := fun call => (committed call).mpr (racing_bans_succeed call)
  match order, distinct, both, tracks.lawful with
  | [], _, both, _ => exact nomatch both true
  | [only], _, both, _ =>
      have isOnly := (List.mem_singleton.mp (both true)).trans (List.mem_singleton.mp (both false)).symm
      exact nomatch isOnly
  | first :: second :: rest, distinct, _, ⟨_, legal, _⟩ =>
      have different : first ≠ second := fun same =>
        (List.nodup_cons.mp distinct).1 (same ▸ List.mem_cons_self ..)
      exact second_ban_fails first second different legal

def serialBans : List Bool := [true, true, true, false]

theorem serial_bans_clean (call : Bool)
    (succeeded : Pool.Succeeded ((administration "u1" banCalls sampleDb).play serialBans) call) :
    Clean (banCalls call).action (sightings "u1" (administration "u1" banCalls sampleDb) serialBans call) := by
  cases call with
  | true => exact ⟨rfl, Or.inl (fun wrong => nomatch wrong), Or.inl rfl⟩
  | false => exact nomatch succeeded

theorem serial_bans_serializable :
    Serializable "u1" banCalls sampleDb ((administration "u1" banCalls sampleDb).play serialBans) ∧
      (stateMachine "u1").Lawful (administration "u1" banCalls sampleDb) serialBans :=
  administration_serializable "u1" banCalls sampleDb serialBans serial_bans_clean

end AuthProfile
