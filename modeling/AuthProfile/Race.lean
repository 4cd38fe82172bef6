import AuthProfile.Atomicity
import AuthProfile.Process.Solo

set_option autoImplicit false

namespace AuthProfile

open Relation Process UserRepository

-- One of several calls that decide the same request, each in a session of its own.
structure DecideCall where
  io : Surroundings
  actorRole : Role
  approve : Bool
  decidedBy : String
  note : String

def DecideCall.program (requestId : String) (call : DecideCall) : Prog Db Error Unit :=
  decideRoleRequest call.io call.actorRole requestId call.approve call.decidedBy call.note

def alreadyDecided (requestId : String) : Error := .domain (.roleRequestAlreadyDecided requestId)

variable {ι : Type}

def race (requestId : String) (calls : ι → DecideCall) (db : Db) : Pool ι Db Error Unit :=
  ⟨db, fun i => (calls i).program requestId⟩

def Complete (requestId : String) (pool : Pool ι Db Error Unit) : Prop :=
  ∀ i, Pool.Succeeded pool i ∨ (pool.procs i).finished = some (.error (alreadyDecided requestId))

def grantRows (before after : Db) : List OutboxRow :=
  (after.outbox.rows.drop before.outbox.rows.length).filter fun row =>
    row.eventType.text = "arcadia.auth.v1.RoleGranted"

structure DecidedOnce (requestId : String) (row : RoleRequestRow) (start : Db)
    (final : Pool ι Db Error Unit) : Prop where
  winner : ∃! i, Pool.Succeeded final i
  losers : ∀ i, ¬ Pool.Succeeded final i → (final.procs i).finished = some (.error (alreadyDecided requestId))
  oneGrant : (grantRows start final.store).length ≤ 1
  agrees : (final.store.roleRequests.find requestId).map RoleRequestRow.status = some .approved ↔
    grantRows start final.store ≠ [] ∧ (final.store.account row.userId.text).map Account.role = some row.requestedRole

section Programs

variable (requestId : String) (call : DecideCall)

-- Once a call has read the request as pending, it never answers that it is decided.
def NotRefused (requestId : String) (result : Except Error Unit) : Prop := result ≠ .error (alreadyDecided requestId)

theorem lost_not_refused : NotRefused requestId (.error .connection) := by
  intro wrong
  cases wrong

theorem commit_leaves (writes : List Write) : (commit writes).Leaves (NotRefused requestId) := by
  refine Prog.leaves_atomic _ _ _ (lost_not_refused requestId) (fun _ _ _ _ wrong => nomatch wrong)
    fun db error run wrong => ?_
  have foreign := foreign_map _ (fun after => ((), after)) (Db.flush_foreign writes db)
  rw [Except.error.injEq] at wrong
  exact foreign (.roleRequestAlreadyDecided requestId) (run.trans (congrArg Except.error wrong))

theorem refused_not_refused : NotRefused requestId (.error (.data "parameter")) := by
  intro wrong
  cases wrong

theorem select_not_refused {β : Type} (parameters : List String) (view : Db → β) (rest : β → Prog Db Error Unit)
    (later : ∀ answer, (rest answer).Leaves (NotRefused requestId)) :
    (select parameters view >>= rest).Leaves (NotRefused requestId) :=
  select_leaves parameters view rest _ ⟨lost_not_refused requestId, refused_not_refused requestId⟩ later

theorem save_user_leaves (io : Surroundings) (user : User) (events : List DomainEvent) :
    (saveUser io user events).Leaves (NotRefused requestId) :=
  select_not_refused requestId _ _ _ fun _ => commit_leaves requestId _

theorem save_role_request_leaves (io : Surroundings) (request : RoleRequest) (events : List DomainEvent) :
    (saveRoleRequest io request events).Leaves (NotRefused requestId) :=
  select_not_refused requestId _ _ _ fun _ => commit_leaves requestId _

theorem grant_requested_leaves (io : Surroundings) (request : RoleRequest) (decidedBy : String) :
    (grantRequested io request decidedBy).Leaves (NotRefused requestId) := by
  rw [grantRequested, getUserById, bind_assoc]
  refine select_not_refused requestId _ _ _ fun row => ?_
  cases row with
  | none =>
      intro wrong
      cases wrong
  | some row => exact save_user_leaves requestId io _ _

theorem decide_pending_leaves (row : RoleRequestRow) (pending : row.status = .pending) :
    (decideFound call.io (toDomainRoleRequest row) call.approve call.decidedBy call.note).Leaves
      (NotRefused requestId) := by
  rw [decide_pending call.io call.decidedBy call.note call.approve row pending]
  cases call.approve with
  | false => exact save_role_request_leaves requestId call.io _ _
  | true =>
      refine Prog.leaves_bind _ _ _ ?_ fun _ => save_role_request_leaves requestId call.io _ _
      have granted :=
        grant_requested_leaves requestId call.io (decidedRequest row .approved call.decidedBy call.note) call.decidedBy
      refine Prog.leaves_mono _ _ _ (fun result notRefused => ?_) granted
      cases result with
      | ok done => trivial
      | error error => exact notRefused

-- Nothing of the request is written before the call's last action.
def Waiting (requestId : String) (row : RoleRequestRow) (db : Db) : Prop := db.roleRequests.find requestId = some row

def OnSuccess (holds : Db → Prop) (result : Except Error Unit) (db : Db) : Prop :=
  match result with
  | .ok _ => holds db
  | .error _ => True

theorem along_commit (inv : Db → Prop) (holds : Db → Prop) (writes : List Write) (db : Db) (here : inv db)
    (committed : ∀ after, Db.flush writes db = .ok after → holds after) :
    (commit writes).Along inv (OnSuccess holds) db := by
  rw [commit, Prog.along_atomic]
  refine ⟨here, ?_⟩
  cases run : Db.flush writes db with
  | error error => exact trivial
  | ok after => exact committed after run

theorem save_request_along (io : Surroundings) (row : RoleRequestRow) (status : RoleRequestStatus)
    (decidedBy note : String) (db : Db) (isRequest : row.id.text = requestId) (waiting : Waiting requestId row db) :
    (saveRoleRequest io (decidedRequest row status decidedBy note) []).Along (Waiting requestId row)
      (OnSuccess (Db.RequestDecided row status decidedBy note db)) db := by
  have self : db.roleRequests.find row.id.text = some row := isRequest ▸ waiting
  have again : db.roleRequests.find (decidedRequest row status decidedBy note).id = some row := self
  rw [saveRoleRequest, select_legal _ (decided_legal row status decidedBy note), Prog.along_query_bind, again]
  refine ⟨waiting, along_commit _ _ _ db waiting fun after run => ?_⟩
  exact ((request_flush io row status decidedBy note db self after).mp run).2.1

theorem grant_along (io : Surroundings) (request : RoleRequest) (row : RoleRequestRow) (user : UserRow)
    (decidedBy : String)
    (db : Db) (userFound : db.users.find request.userId = some user) (waiting : Waiting requestId row db) :
    (grantRequested io request decidedBy).Along (Waiting requestId row)
      (OnSuccess (Db.AccountCommitted io user ⟨request.requestedRole, user.state⟩
        (grantEvent user request decidedBy) db)) db := by
  have isRequester : user.id.text = request.userId := Table.find_key _ db.users user userFound
  have self : db.users.find user.id.text = some user := isRequester ▸ userFound
  have again : db.users.find ((toDomainUser user).changeRole request.requestedRole decidedBy).pullEvents.2.id =
    some user := self
  rw [grantRequested, getUserById, bind_assoc, select_legal _ (legal_one request.userId (isRequester ▸ user.id.fits.2)),
    Prog.along_query_bind, userFound]
  refine ⟨waiting, ?_⟩
  simp only [Option.map_some, pure_bind]
  rw [saveUser, select_legal _ (change_role_legal user _ _), Prog.along_query_bind, again]
  refine ⟨waiting, along_commit _ _ _ db waiting fun after run => ?_⟩
  have committed := (account_flush io db user _ user.account (grantEvent user request decidedBy)
    (change_role_shows user request.requestedRole decidedBy) self after).mp run
  rw [merge_self] at committed
  exact committed

theorem decide_along (row : RoleRequestRow) (db : Db) (staff : call.actorRole = .support ∨ call.actorRole = .admin)
    (pending : row.status = .pending) (waiting : Waiting requestId row db) :
    (call.program requestId).Along (Waiting requestId row)
      (OnSuccess (WholeDecision call.io row call.approve call.decidedBy call.note db)) db := by
  have isRequest : row.id.text = requestId := Table.find_key _ _ row waiting
  rw [DecideCall.program, decide_staff _ _ _ _ _ _ staff,
    select_legal _ (legal_one requestId (isRequest ▸ row.id.fits.2)),
    Prog.along_query_bind]
  refine ⟨waiting, ?_⟩
  rw [show db.roleRequests.find requestId = some row from waiting]
  dsimp only
  rw [decide_pending call.io call.decidedBy call.note call.approve row pending]
  cases decision : call.approve with
  | false =>
      simp only [Bool.false_eq_true, if_false]
      refine Prog.along_mono _ _ _ _ db (fun result after ended => ?_)
        (save_request_along requestId call.io row .rejected call.decidedBy call.note db isRequest waiting)
      cases result with
      | error error => trivial
      | ok done => exact ⟨ended.stored, (fun wrong => nomatch wrong), fun _ => ⟨ended.users, ended.outbox⟩⟩
  | true =>
      obtain ⟨user, userFound⟩ := requester_found db requestId row waiting
      simp only [if_true]
      rw [Prog.along_bind]
      refine Prog.along_mono _ _ _ _ db (fun result between granted => ?_)
        (grant_along requestId call.io (decidedRequest row .approved call.decidedBy call.note) row user
          call.decidedBy db
          userFound waiting)
      cases result with
      | error error => trivial
      | ok done =>
          have still : Waiting requestId row between := by rw [Waiting, granted.roleRequests, waiting]
          refine Prog.along_mono _ _ _ _ between (fun result after ended => ?_)
            (save_request_along requestId call.io row .approved call.decidedBy call.note between isRequest still)
          cases result with
          | error error => trivial
          | ok done =>
              obtain ⟨stored, isDecided, replaced⟩ := ended.stored
              refine ⟨⟨stored, isDecided, by rw [replaced, granted.roleRequests]⟩, fun _ => ⟨user, userFound, ?_, ?_⟩,
                fun wrong => nomatch wrong⟩
              · rw [ended.users, granted.users]
                rfl
              · rw [ended.outbox]
                exact granted.outbox

end Programs

theorem whole_request (requestId : String) (call : DecideCall) (row : RoleRequestRow) (start after : Db)
    (waiting : Waiting requestId row start)
    (whole : WholeDecision call.io row call.approve call.decidedBy call.note start after) :
    ∃ stored, after.roleRequests.find requestId = some stored ∧ stored.status = decidedStatus call.approve := by
  obtain ⟨stored, isDecided, replaced⟩ := whole.request
  have storedKey : key stored = requestId :=
    (decided_key row stored _ _ _ isDecided).trans (Table.find_key _ _ row waiting)
  have present : key stored ∈ start.roleRequests.keys :=
    storedKey ▸ Table.find_key _ _ row waiting ▸ List.mem_map_of_mem (Table.find_mem _ _ row waiting)
  have here := Table.find_replace_same stored start.roleRequests present
  rw [storedKey] at here
  exact ⟨stored, by rw [replaced, here], congrArg RoleRequest.status isDecided⟩

theorem decided_not_pending (approve : Bool) : decidedStatus approve ≠ .pending := by
  cases approve <;> decide

theorem whole_grants (requestId : String) (call : DecideCall) (row : RoleRequestRow) (start after : Db)
    (waiting : Waiting requestId row start)
    (whole : WholeDecision call.io row call.approve call.decidedBy call.note start after) :
    (grantRows start after).length ≤ 1 ∧
      ((after.roleRequests.find requestId).map RoleRequestRow.status = some .approved ↔
        grantRows start after ≠ [] ∧ (after.account row.userId.text).map Account.role = some row.requestedRole) := by
  obtain ⟨stored, found, status⟩ := whole_request requestId call row start after waiting whole
  rw [found, Option.map_some, status]
  cases decision : call.approve with
  | false =>
      obtain ⟨_, outbox⟩ := whole.kept decision
      have none : grantRows start after = [] := by rw [grantRows, outbox, List.drop_length, List.filter_nil]
      rw [none]
      exact ⟨by decide, (fun wrong => nomatch wrong), fun ⟨wrong, _⟩ => absurd rfl wrong⟩
  | true =>
      obtain ⟨user, userFound, users, outbox⟩ := whole.granted decision
      have isUser : user.id.text = row.userId.text := Table.find_key _ _ user userFound
      have self : start.users.find user.id.text = some user := isUser ▸ userFound
      have one : grantRows start after =
          [eventRow call.io user.id (grantEvent user (toDomainRoleRequest row) call.decidedBy)] := by
        rw [grantRows, ((Table.insert_some_iff _ _ _).mp outbox).2, List.drop_left]
        rfl
      have account := account_replace user ⟨row.requestedRole, user.state⟩ start after self users row.userId.text
      rw [if_pos isUser.symm] at account
      rw [one, account]
      exact ⟨Nat.le_refl 1, fun _ => ⟨List.cons_ne_nil _ _, rfl⟩, fun _ => rfl⟩

section Runs

variable [DecidableEq ι] (requestId : String) (calls : ι → DecideCall) (start : Db) (schedule : List ι)
    (row : RoleRequestRow)

theorem complete_staff (complete : Complete requestId ((race requestId calls start).play schedule)) (i : ι) :
    (calls i).actorRole = .support ∨ (calls i).actorRole = .admin := by
  by_contra notStaff
  have refused := decide_not_staff (calls i).io (calls i).actorRole requestId (calls i).decidedBy (calls i).note
    (calls i).approve notStaff
  have still := Pool.finished_play (race requestId calls start) schedule i _ (congrArg Prog.finished refused)
  rw [show (race requestId calls start).procs i = _ from refused] at still
  rcases complete i with succeeded | decided
  · rw [Pool.Succeeded, still] at succeeded
    cases succeeded
  · rw [still] at decided
    cases decided

theorem first_move (pool : Pool ι Db Error Unit) (i : ι) (unmoved : pool.procs i = (calls i).program requestId)
    (staff : (calls i).actorRole = .support ∨ (calls i).actorRole = .admin) (stored : RoleRequestRow)
    (found : pool.store.roleRequests.find requestId = some stored) :
    (pool.step ⟨i, .none⟩).procs i =
        decideFound (calls i).io (toDomainRoleRequest stored) (calls i).approve (calls i).decidedBy (calls i).note ∧
      (pool.step ⟨i, .none⟩).store = pool.store := by
  have legal := legal_one requestId (Table.find_key _ _ stored found ▸ stored.id.fits.2)
  rw [Pool.step_here, Pool.step_store, unmoved, DecideCall.program, decide_staff _ _ _ _ _ _ staff,
    select_legal _ legal,
    Prog.advance_query_bind, found]
  exact ⟨rfl, rfl⟩

theorem succeeds_later (first later : List ι) (i : ι) (split : schedule = first ++ i :: later)
    (unmoved : ((race requestId calls start).play first).procs i = (calls i).program requestId)
    (pending : row.status = .pending) (waiting : Waiting requestId row ((race requestId calls start).play first).store)
    (complete : Complete requestId ((race requestId calls start).play schedule)) :
    Pool.Succeeded ((race requestId calls start).play schedule) i := by
  have staff := complete_staff requestId calls start schedule complete i
  have leaves : ((((race requestId calls start).play first).step ⟨i, .none⟩).procs i).Leaves
      (NotRefused requestId) := by
    rw [(first_move requestId calls _ i unmoved staff row waiting).1]
    exact decide_pending_leaves requestId (calls i) row pending
  have final := Pool.leaves_play _ _ later i leaves
  rw [← Pool.play_cons, ← Pool.play_append, ← split] at final
  rcases complete i with succeeded | decided
  · exact succeeded
  · exact absurd rfl (Prog.leaves_finished _ _ _ final decided)

structure Behind (winner : ι) (decided : Db) (pool : Pool ι Db Error Unit) : Prop where
  store : pool.store = decided
  won : (pool.procs winner).finished = some (.ok ())
  lost : ∀ j, j ≠ winner → pool.procs j = (calls j).program requestId ∨ ∃ error, pool.procs j = .raise error

theorem behind_step (winner : ι) (decided : Db) (stored : RoleRequestRow) (pool : Pool ι Db Error Unit) (i : ι)
    (staff : (calls i).actorRole = .support ∨ (calls i).actorRole = .admin)
    (found : decided.roleRequests.find requestId = some stored) (notPending : stored.status ≠ .pending)
    (behind : Behind requestId calls winner decided pool) :
    Behind requestId calls winner decided (pool.step ⟨i, .none⟩) := by
  obtain ⟨store, won, lost⟩ := behind
  by_cases isWinner : i = winner
  · subst isWinner
    have still := Prog.finished_advance (pool.procs i) .none pool.store _ won
    refine ⟨?_, ?_, fun j different => ?_⟩
    · rw [Pool.step_store, still, store]
    · rw [Pool.step_here, still, won]
    · rw [Pool.step_elsewhere pool ⟨i, .none⟩ j different]
      exact lost j different
  · have others : ∀ j, j ≠ i → (pool.step ⟨i, .none⟩).procs j = pool.procs j := Pool.step_elsewhere pool ⟨i, .none⟩
    have moved : (pool.step ⟨i, .none⟩).store = decided ∧ ∃ error, (pool.step ⟨i, .none⟩).procs i = .raise error := by
      rcases lost i isWinner with unmoved | ⟨error, raised⟩
      · obtain ⟨read, same⟩ := first_move requestId calls pool i unmoved staff stored (store ▸ found)
        rw [decide_decided _ _ _ _ stored notPending] at read
        exact ⟨same.trans store, _, read⟩
      · have still := Prog.finished_advance (pool.procs i) .none pool.store (.error error) (by rw [raised]; rfl)
        exact ⟨by rw [Pool.step_store, still, store], error, by rw [Pool.step_here, still, raised]⟩
    refine ⟨moved.1, by rw [others winner (Ne.symm isWinner), won], fun j different => ?_⟩
    by_cases same : j = i
    · exact Or.inr (same ▸ moved.2)
    · rw [others j same]
      exact lost j different

theorem behind_play (winner : ι) (decided : Db) (stored : RoleRequestRow) (pool : Pool ι Db Error Unit) (later : List ι)
    (staff : ∀ i, (calls i).actorRole = .support ∨ (calls i).actorRole = .admin)
    (found : decided.roleRequests.find requestId = some stored) (notPending : stored.status ≠ .pending)
    (behind : Behind requestId calls winner decided pool) :
    Behind requestId calls winner decided (pool.play later) := by
  induction later generalizing pool with
  | nil => exact behind
  | cons i later ih =>
      exact ih _ (behind_step requestId calls winner decided stored pool i (staff i) found notPending behind)

def FirstReturnsFirst : Prop :=
  ∀ first rest before j later, schedule = first :: rest → schedule = before ++ j :: later → j ≠ first →
    ∃ result, (((race requestId calls start).play before).procs first).finished = some result

theorem once_of_first (first : ι) (rest : List ι) (starts : schedule = first :: rest)
    (complete : Complete requestId ((race requestId calls start).play schedule)) (pending : row.status = .pending)
    (waiting : Waiting requestId row start) (condition : FirstReturnsFirst requestId calls start schedule) :
    DecidedOnce requestId row start ((race requestId calls start).play schedule) := by
  have staff := complete_staff requestId calls start schedule complete
  have firstWins := succeeds_later requestId calls start schedule row [] rest first starts rfl pending waiting complete
  obtain ⟨alone, others, split, isAlone, isOther⟩ := Pool.leading_run first schedule
  obtain ⟨along, unmoved⟩ := Pool.along_play _ _ (race requestId calls start) alone first isAlone
    (decide_along requestId (calls first) row start (staff first) pending waiting)
  have returned : ∃ result, (((race requestId calls start).play alone).procs first).finished = some result := by
    cases others with
    | nil =>
        rw [List.append_nil] at split
        exact ⟨_, split ▸ firstWins⟩
    | cons j later => exact condition first rest alone j later starts split (isOther j later rfl)
  obtain ⟨result, returned⟩ := returned
  have same : ((race requestId calls start).play schedule).procs first =
      ((race requestId calls start).play alone).procs first := by
    rw [split, Pool.play_append]
    exact Pool.finished_play _ others first result returned
  have won : (((race requestId calls start).play alone).procs first).finished = some (.ok ()) := same ▸ firstWins
  have whole := Prog.along_finished _ _ _ _ _ along won
  obtain ⟨stored, found, status⟩ := whole_request requestId (calls first) row start _ waiting whole
  have notPending : stored.status ≠ .pending := status ▸ decided_not_pending (calls first).approve
  have behind := behind_play requestId calls first _ stored _ others staff found notPending
    ⟨rfl, won, fun j different => Or.inl (unmoved j different)⟩
  rw [← Pool.play_append, ← split] at behind
  obtain ⟨oneGrant, agrees⟩ := whole_grants requestId (calls first) row start _ waiting whole
  refine ⟨⟨first, firstWins, fun j (succeeded : Pool.Succeeded _ j) => ?_⟩,
    fun j lost => (complete j).resolve_left lost, ?_, ?_⟩
  · by_contra different
    rcases behind.lost j different with unmovedStill | ⟨error, raised⟩
    · rw [Pool.Succeeded, unmovedStill, DecideCall.program, decide_staff _ _ _ _ _ _ (staff j)] at succeeded
      cases succeeded
    · rw [Pool.Succeeded, raised] at succeeded
      cases succeeded
  · rw [behind.store]
    exact oneGrant
  · rw [behind.store]
    exact agrees

theorem first_of_once (complete : Complete requestId ((race requestId calls start).play schedule))
    (pending : row.status = .pending) (waiting : Waiting requestId row start)
    (once : DecidedOnce requestId row start ((race requestId calls start).play schedule)) :
    FirstReturnsFirst requestId calls start schedule := by
  intro first rest before j later starts split different
  have staff := complete_staff requestId calls start schedule complete
  have firstWins := succeeds_later requestId calls start schedule row [] rest first starts rfl pending waiting complete
  obtain ⟨alone, others, isSplit, isAlone, isOther⟩ := Pool.leading_run first schedule
  have inside : ∃ middle, before = alone ++ middle := by
    rcases List.append_eq_append_iff.mp (split.symm.trans isSplit) with ⟨middle, longer, _⟩ | ⟨middle, shorter, rest⟩
    · cases middle with
      | nil => exact ⟨[], by rw [longer, List.append_nil, List.append_nil]⟩
      | cons k middle =>
          rename_i ends
          cases ends
          exact absurd (isAlone j (longer ▸ List.mem_append_right _ (List.mem_cons_self ..))) different
    · exact ⟨middle, shorter⟩
  obtain ⟨middle, isBefore⟩ := inside
  cases running : (((race requestId calls start).play alone).procs first).finished with
  | some result =>
      refine ⟨result, ?_⟩
      rw [isBefore, Pool.play_append, Pool.finished_play _ middle first result running, running]
  | none =>
      exfalso
      obtain ⟨along, unmoved⟩ := Pool.along_play _ _ (race requestId calls start) alone first isAlone
        (decide_along requestId (calls first) row start (staff first) pending waiting)
      have stillWaiting := Prog.along_unfinished _ _ _ _ along running
      cases others with
      | nil =>
          rw [List.append_nil] at isSplit
          rw [Pool.Succeeded, isSplit, running] at firstWins
          cases firstWins
      | cons second tail =>
          have secondWins := succeeds_later requestId calls start schedule row alone tail second isSplit
            (unmoved second (isOther second tail rfl)) pending stillWaiting complete
          exact isOther second tail rfl (once.winner.unique secondWins firstWins)

-- A role request is decided once exactly when the call that moves first has
-- returned before any other call moves.
theorem decided_once_iff [Nonempty ι] (found : start.roleRequests.find requestId = some row)
    (pending : row.status = .pending) (complete : Complete requestId ((race requestId calls start).play schedule)) :
    DecidedOnce requestId row start ((race requestId calls start).play schedule) ↔
      FirstReturnsFirst requestId calls start schedule := by
  refine ⟨first_of_once requestId calls start schedule row complete pending found, fun condition => ?_⟩
  cases starts : schedule with
  | nil =>
      obtain ⟨i⟩ := ‹Nonempty ι›
      have staff := complete_staff requestId calls start schedule complete i
      have unmoved : (((race requestId calls start).play schedule).procs i) = (calls i).program requestId := by
        rw [starts]
        rfl
      rw [DecideCall.program, decide_staff _ _ _ _ _ _ staff] at unmoved
      rcases complete i with succeeded | decided
      · rw [Pool.Succeeded, unmoved] at succeeded
        cases succeeded
      · rw [unmoved] at decided
        cases decided
  | cons first rest =>
      exact starts ▸ once_of_first requestId calls start schedule row first rest starts complete pending found condition

end Runs

def sampleCalls : Bool → DecideCall
  | true => ⟨sampleIo, .support, true, "a1", "welcome"⟩
  | false => ⟨otherIo, .admin, false, "a2", "not yet"⟩

def serialSchedule : List Bool := [true, true, true, true, true, true, false]

-- The approval reads the request, the rejection runs as a whole, and the approval goes on.
def racingSchedule : List Bool := [true, false, false, false, true, true, true, true, true]

theorem serial_complete : Complete "r1" ((race "r1" sampleCalls sampleDb).play serialSchedule) := by
  intro call
  cases call with
  | true => exact Or.inl rfl
  | false => exact Or.inr rfl

theorem racing_both_succeed (call : Bool) :
    Pool.Succeeded ((race "r1" sampleCalls sampleDb).play racingSchedule) call := by
  cases call <;> rfl

theorem decided_once_serial :
    DecidedOnce "r1" sampleRequest sampleDb ((race "r1" sampleCalls sampleDb).play serialSchedule) ↔
      FirstReturnsFirst "r1" sampleCalls sampleDb serialSchedule :=
  decided_once_iff "r1" sampleCalls sampleDb serialSchedule sampleRequest (by decide) rfl serial_complete

theorem decided_twice :
    Complete "r1" ((race "r1" sampleCalls sampleDb).play racingSchedule) ∧
      ¬ DecidedOnce "r1" sampleRequest sampleDb ((race "r1" sampleCalls sampleDb).play racingSchedule) :=
  ⟨fun call => Or.inl (racing_both_succeed call), fun once =>
    nomatch once.winner.unique (racing_both_succeed true) (racing_both_succeed false)⟩

end AuthProfile
