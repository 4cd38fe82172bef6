import AuthProfile.Online

set_option autoImplicit false

-- The audit of logins over whole runs: what it holds, and what was answered without it.
namespace AuthProfile

open Relation Process UserRepository

-- Everything a request writes beside the audit.
section Accounts

def SameAudit (before after : Db) : Prop := after.loginAudit = before.loginAudit

def Write.OnAccounts : Write → Prop
  | .insertLoginAudit _ => False
  | _ => True

theorem write_same_audit (write : Write) (onAccounts : write.OnAccounts) (db after : Db)
    (run : db.write write = .ok after) :
    SameAudit db after := by
  cases write with
  | insertUser user =>
      obtain ⟨row, _, inserted⟩ := (Db.write_insert_user user db after).mp run
      exact (Db.insert_user_row_ok row db after inserted).2.2.2
  | updateUser id changes =>
      cases found : db.users.find id with
      | none =>
          simp only [Db.write, found] at run
          split at run
          · cases run
            rfl
          · cases run
      | some old =>
          obtain ⟨row, _, replaced⟩ := (Db.write_update_user id changes db after old found).mp run
          exact (Db.replace_user_row_ok row db after replaced).2.2.2
  | insertRoleRequest request =>
      obtain ⟨row, _, inserted⟩ := (Db.write_insert_role_request request db after).mp run
      exact (Db.insert_role_request_row_ok row db after inserted).2.2.2
  | updateRoleRequest id changes =>
      cases found : db.roleRequests.find id with
      | none =>
          simp only [Db.write, found] at run
          split at run
          · cases run
            rfl
          · cases run
      | some old =>
          obtain ⟨row, _, _, _, _, loginAudit⟩ := (Db.write_update_role_request id changes db after old found).mp run
          exact loginAudit
  | insertOutbox draft =>
      obtain ⟨row, _, inserted⟩ := (Db.write_insert_outbox draft db after).mp run
      exact ((Db.insert_outbox_row_ok row db after).mp inserted).2.2.2
  | insertLoginAudit draft => exact absurd onAccounts id

theorem commit_same_audit (writes : List Write) (onAccounts : ∀ write ∈ writes, write.OnAccounts) :
    (commit writes).Steps SameAudit := by
  refine Prog.steps_atomic SameAudit (fun _ => rfl) _ _ fun db answer after run => ?_
  cases flushed : Db.flush writes db with
  | error error =>
      rw [flushed] at run
      cases run
  | ok next =>
      rw [flushed] at run
      cases run
      refine Db.flush_keeps (SameAudit db) Write.OnAccounts
        (fun one db' after may written same => ?_) writes db _ onAccounts flushed rfl
      exact (write_same_audit one may db' after written).trans same

theorem reads_same_audit {α : Type} (p : Prog Db Error α) (reads : p.Reads) : p.Steps SameAudit :=
  Prog.steps_mono _ _ (fun _ _ same => same ▸ rfl) p reads.steps

variable (io : Surroundings)

theorem saved_on_accounts (first : Write) (onAccounts : first.OnAccounts) (aggregateType aggregateId : String)
    (events : List DomainEvent)
    (write : Write) (member : write ∈ first :: (outboxDrafts io aggregateType aggregateId events).map .insertOutbox) :
    write.OnAccounts := by
  rcases List.mem_cons.mp member with isFirst | isDraft
  · exact isFirst ▸ onAccounts
  · obtain ⟨draft, _, rfl⟩ := List.mem_map.mp isDraft
    trivial

theorem save_user_same_audit (user : User) (events : List DomainEvent) : (saveUser io user events).Steps SameAudit := by
  refine Prog.steps_bind _ _ _ (select_steps _ _ SameAudit fun _ => rfl) fun row =>
    commit_same_audit _ (saved_on_accounts io _ ?_ _ _ _)
  cases row <;> trivial

theorem save_role_request_same_audit (request : RoleRequest) (events : List DomainEvent) :
    (saveRoleRequest io request events).Steps SameAudit := by
  refine Prog.steps_bind _ _ _ (select_steps _ _ SameAudit fun _ => rfl) fun row =>
    commit_same_audit _ (saved_on_accounts io _ ?_ _ _ _)
  cases row <;> trivial

theorem register_same_audit (lower : Lower) (hasher : PasswordHasher) (email password displayName : String) :
    (registerUser lower hasher io email password displayName).Steps SameAudit := by
  refine Prog.steps_bind _ _ _ (reads_same_audit _ (get_user_by_email_reads _)) fun found => ?_
  cases found with
  | some user => trivial
  | none => exact Prog.steps_bind _ _ _ (save_user_same_audit io _ _) fun _ => trivial

theorem administer_same_audit (targetUserId : String) (change : User → Except DomainError User) :
    (administer io targetUserId change).Steps SameAudit := by
  refine Prog.steps_bind _ _ _ (reads_same_audit _ (user_by_id_reads _)) fun found => ?_
  cases found with
  | none => trivial
  | some user => exact Prog.steps_bind _ _ _ (reads_same_audit _ (lift_domain_reads _)) fun changed =>
      save_user_same_audit io _ _

theorem grant_requested_same_audit (request : RoleRequest) (decidedBy : String) :
    (grantRequested io request decidedBy).Steps SameAudit := by
  refine Prog.steps_bind _ _ _ (reads_same_audit _ (user_by_id_reads _)) fun found => ?_
  cases found with
  | none => trivial
  | some user => exact save_user_same_audit io _ _

theorem decide_role_request_same_audit (actorRole : Role) (requestId : String) (approve : Bool)
    (decidedBy note : String) :
    (decideRoleRequest io actorRole requestId approve decidedBy note).Steps SameAudit := by
  refine Prog.steps_bind _ _ _ (reads_same_audit _ (lift_domain_reads _)) fun _ => ?_
  refine Prog.steps_bind _ _ _ (Prog.steps_bind _ _ _ (select_steps _ _ SameAudit fun _ => rfl) fun _ => trivial)
    fun found => ?_
  cases found with
  | none => trivial
  | some request =>
      refine Prog.steps_ite _ _ _ _ (Prog.steps_bind _ _ _ (reads_same_audit _ (lift_domain_reads _)) fun decided => ?_)
        (Prog.steps_bind _ _ _ (reads_same_audit _ (lift_domain_reads _)) fun decided =>
          save_role_request_same_audit io decided _)
      exact Prog.steps_bind _ _ _ (grant_requested_same_audit io decided decidedBy) fun _ =>
        save_role_request_same_audit io decided _

theorem request_role_same_audit (userId : String) (requestedRole : Role) :
    (requestRole io userId requestedRole).Steps SameAudit := by
  refine Prog.steps_bind _ _ _ (reads_same_audit _ (user_by_id_reads _)) fun found => ?_
  cases found with
  | none => trivial
  | some user =>
      refine Prog.steps_ite _ _ _ _ trivial ?_
      exact Prog.steps_bind _ _ _ (save_role_request_same_audit io _ _) fun _ => trivial

theorem role_admin_same_audit (provider : JwtTokenProvider) (signed : List String) (credentials : String)
    (request : RoleAdminRequest) :
    (request.route provider signed io credentials).Steps SameAudit := by
  have excepts {α : Type} (computed : Except Error α) : (Prog.ofExcept computed : Prog Db Error α).Steps SameAudit :=
    reads_same_audit _ (Prog.reads_of_except computed)
  have lifts {α : Type} (answer : Except DomainError α) : (liftDomain answer : Prog Db Error α).Steps SameAudit :=
    reads_same_audit _ (lift_domain_reads answer)
  refine Prog.steps_bind _ _ _ (excepts _) fun caller => Prog.steps_bind _ _ _ (excepts _) fun _ => ?_
  cases request with
  | requestRole body =>
      refine Prog.steps_bind _ _ _ (Prog.steps_bind _ _ _ (excepts _) fun requestedRole => ?_) fun _ => trivial
      exact Prog.steps_bind _ _ _ (request_role_same_audit io caller.userId requestedRole) fun _ => trivial
  | decideRoleRequest requestId body =>
      exact Prog.steps_bind _ _ _ (decide_role_request_same_audit io _ _ _ _ _) fun _ => trivial
  | grantRole userId body =>
      refine Prog.steps_bind _ _ _ (Prog.steps_bind _ _ _ (excepts _) fun newRole => ?_) fun _ => trivial
      exact Prog.steps_bind _ _ _ (lifts _) fun _ => administer_same_audit io userId _
  | decideRegistration userId body | banUser userId body | unbanUser userId =>
      exact Prog.steps_bind _ _ _ (Prog.steps_bind _ _ _ (lifts _) fun _ => administer_same_audit io userId _)
        fun _ => trivial

end Accounts

section Arrivals

variable (deployment : Deployment) (rely : WireStores → Prop)

-- What a database that was read makes of an attempt to log in.
def Arrival.Told (arrival : Arrival) (draft : LoginAuditDraft) : Prop :=
  ∃ body client draws wire, arrival = .http (.login body client) draws ∧ rely wire ∧
    draft = wire.stores.db.loginDraft deployment.lower deployment.hasher body.email body.password draws.io
      (AuthController.clientIp client)

def AuditGrows (told : LoginAuditDraft → Prop) (before after : Db) : Prop :=
  SameAudit before after ∨ ∃ draft row, told draft ∧ LoginAuditRow.store draft = .ok row ∧
    after.loginAudit.rows = before.loginAudit.rows ++ [row]

def Arrival.Audits (arrival : Arrival) (before after : WireStores) : Prop :=
  AuditGrows (arrival.Told deployment rely) before.stores.db after.stores.db

-- Tokens are answered when a row says that they were let in, a refusal when one says so.
structure LoginOnRecord (recorded : LoginAuditDraft → Prop) (body : LoginRequest) (client : Option String)
    (draws : Draws) (answer : Except Error Outcome) : Prop where
  accepted : ∀ response, answer = .ok (.response (.tokenPair response)) → ∃ wire row, rely wire ∧
    wire.stores.db.claimant deployment.lower body.email = some row ∧ row.state = .active ∧
    deployment.hasher.verify body.password row.passwordHash.text = true ∧
    response.accessToken = deployment.provider.createAccessToken draws.io.now draws.accessJti row.id.text
      row.role.value none ∧
    recorded ⟨draws.io.freshId.text, some row.id.text, AuthController.clientIp client, true, draws.io.now⟩
  refused : ∀ exc, answer = .error (.domain exc) → ∃ wire, rely wire ∧
    wire.stores.db.admits deployment.lower deployment.hasher body.email body.password = false ∧
    recorded ⟨draws.io.freshId.text, (wire.stores.db.claimant deployment.lower body.email).map fun row => row.id.text,
      AuthController.clientIp client, false, draws.io.now⟩

def Arrival.OnRecord (recorded : LoginAuditDraft → Prop) (arrival : Arrival) (answer : Except Error Outcome) : Prop :=
  ∀ body client draws, arrival = .http (.login body client) draws →
    LoginOnRecord deployment rely recorded body client draws answer

theorem on_record_mono (recorded later : LoginAuditDraft → Prop) (grows : ∀ draft, recorded draft → later draft)
    (arrival : Arrival) (answer : Except Error Outcome) (onRecord : arrival.OnRecord deployment rely recorded answer) :
    arrival.OnRecord deployment rely later answer := by
  intro body client draws isLogin
  obtain ⟨accepted, refused⟩ := onRecord body client draws isLogin
  refine ⟨fun response isOk => ?_, fun exc isDomain => ?_⟩
  · obtain ⟨wire, row, relied, found, active, verified, isToken, records⟩ := accepted response isOk
    exact ⟨wire, row, relied, found, active, verified, isToken, grows _ records⟩
  · obtain ⟨wire, relied, refuses, records⟩ := refused exc isDomain
    exact ⟨wire, relied, refuses, grows _ records⟩

-- A row that one of the stores of the run has.
def Recorded (draft : LoginAuditDraft) : Prop := ∃ wire, rely wire ∧ wire.stores.db.Records draft

theorem admits_some (db : Db) (lower : Lower) (hasher : PasswordHasher) (email password : String) (row : UserRow)
    (found : db.claimant lower email = some row) (admits : db.admits lower hasher email password = true) :
    hasher.verify password row.passwordHash.text = true := by
  rw [Db.admits, found] at admits
  exact (Bool.and_eq_true_iff.mp admits).1

theorem login_audits (signed : List String) (body : LoginRequest) (client : Option String) (draws : Draws) :
    ((Arrival.http (.login body client) draws).program deployment signed).Meets rely
      ((Arrival.http (.login body client) draws).Audits deployment rely)
        (LoginOnRecord deployment rely (Recorded rely) body client draws) := by
  refine Prog.meets_rendered _ _ _ _ _ (Prog.meets_rendered _ _ _ _ _ ?_)
  refine Prog.meets_focus (fun stores => ∃ wire, rely wire ∧ wire.stores = stores)
    (fun before after => AuditGrows ((Arrival.http (.login body client) draws).Told deployment rely) before.db after.db)
    WireStores.onStores rely _ (fun wire relied => ⟨wire, relied, rfl⟩) (fun _ _ _ grows => grows) _ _ ?_
  refine Prog.meets_focus (fun db => ∃ wire, rely wire ∧ wire.stores.db = db)
    (AuditGrows ((Arrival.http (.login body client) draws).Told deployment rely)) Stores.onDb _ _
      (fun stores relied => ?_)
    (fun _ _ _ grows => grows) _ _ ?_
  · obtain ⟨wire, relied, isStores⟩ := relied
    exact ⟨wire, relied, congrArg Stores.db isStores⟩
  refine Prog.meets_rendered _ _ _ _ _ ?_
  refine login_meets _ _ _ _ _ _ _ _ _ _ (fun _ => Or.inl rfl) (fun seen relied before after _ audited => ?_)
    (fun error foreign => ?_)
    (fun seen after exc relied refuses reliedAfter records => ?_)
      fun seen after row relied found active admits reliedAfter records => ?_
  · obtain ⟨wire, reliedWire, rfl⟩ := relied
    cases audited with
    | kept same => exact Or.inl (congrArg Db.loginAudit same)
    | added run =>
        obtain ⟨row, stored, rows⟩ := Db.audit_appends _ before after run
        exact Or.inr ⟨_, row, ⟨body, client, draws, wire, rfl, reliedWire, rfl⟩, stored, rows⟩
  · refine ⟨fun response isOk => ?_, fun exc isDomain => ?_⟩
    · cases isOk
    · exact absurd (Except.error.inj isDomain) (foreign exc)
  · obtain ⟨wire, reliedWire, rfl⟩ := relied
    obtain ⟨wireAfter, reliedWireAfter, rfl⟩ := reliedAfter
    refine ⟨fun response isOk => ?_, fun exc' _ => ⟨wire, reliedWire, refuses, wireAfter, reliedWireAfter, ?_⟩⟩
    · cases isOk
    · rw [Db.loginDraft, refuses] at records
      exact records
  · obtain ⟨wire, reliedWire, rfl⟩ := relied
    obtain ⟨wireAfter, reliedWireAfter, rfl⟩ := reliedAfter
    refine ⟨fun response isOk => ?_, fun exc isDomain => ?_⟩
    · cases isOk
      refine ⟨wire, row, reliedWire, found, active, admits_some _ _ _ _ _ row found admits, rfl, wireAfter,
        reliedWireAfter, ?_⟩
      rw [Db.loginDraft, admits, found] at records
      exact records
    · cases isDomain

theorem http_same_audit (signed : List String) (draws : Draws) (request : HttpRequest)
    (noLogin : ∀ body client, request ≠ .login body client) :
    (request.program deployment draws signed).Steps fun before after => SameAudit before.stores.db after.stores.db := by
  have onDb {α : Type} (p : Prog Db Error α)
    (steps : p.Steps SameAudit) : ((p.focus Stores.onDb).focus WireStores.onStores).Steps
      fun before after => SameAudit before.stores.db after.stores.db :=
    Prog.steps_focus WireStores.onStores (fun before after => SameAudit before.db after.db) _ (fun _ _ same => same) _
      (Prog.steps_focus Stores.onDb SameAudit _ (fun _ _ same => same) p steps)
  have reads {α : Type} (p : Prog WireStores Error α) (reads : p.Reads) : p.Steps
      fun before after => SameAudit before.stores.db after.stores.db :=
        Prog.steps_mono _ _ (fun _ _ same => same ▸ rfl) p reads.steps
  cases request with
  | login body client => exact absurd rfl (noLogin body client)
  | register body =>
      exact Prog.steps_bind _ _ _ (onDb _ (Prog.steps_bind _ _ _ (register_same_audit _ _ _ _ _ _) fun _ => trivial))
        fun _ => trivial
  | refresh body =>
      refine Prog.steps_bind _ _ _ (reads _ (Prog.reads_focus _ _ ?_)) fun _ => trivial
      exact Prog.reads_bind _ _ (refreshing_reads _ _ _) fun _ => Prog.reads_pure _
  | logout body =>
      refine Prog.steps_bind _ _ _ ?_ fun _ => trivial
      exact Prog.steps_focus WireStores.onStores (fun before after => SameAudit before.db after.db) _
        (fun _ _ same => same) _
        (Prog.steps_focus Stores.onRedis (fun _ _ => True) _ (fun _ _ _ => rfl) _ (Prog.steps_anything _))
  | roleAdmin credentials request =>
      exact Prog.steps_bind _ _ _ (onDb _ (role_admin_same_audit _ _ _ _ _)) fun _ => trivial
  | directory credentials request =>
      refine Prog.steps_bind _ _ _ (onDb _ (reads_same_audit _ ?_)) fun _ => trivial
      refine Prog.reads_bind _ _ (Prog.reads_of_except _) fun caller =>
        Prog.reads_bind _ _ (Prog.reads_of_except _) fun _ => ?_
      exact directory_reads deployment.collation deployment.lower caller request
  | ownProfile credentials request =>
      refine Prog.steps_bind _ _ _ ?_ fun _ => trivial
      exact Prog.steps_focus WireStores.onProfiles (fun _ _ => True) _ (fun _ _ _ => rfl) _ (Prog.steps_anything _)
  | profile credentials userId =>
      exact Prog.steps_bind _ _ _
        (reads _ (profile_route_reads draws.read deployment.provider signed credentials userId)) fun _ => trivial

theorem arrival_same_audit (signed : List String) (arrival : Arrival)
    (noLogin : ∀ body client draws, arrival ≠ .http (.login body client) draws) :
    (arrival.program deployment signed).Steps fun before after => SameAudit before.stores.db after.stores.db := by
  cases arrival with
  | http request draws =>
      exact Prog.steps_bind _ _ _ (http_same_audit deployment signed draws request fun body client isLogin =>
        noLogin body client draws (isLogin ▸ rfl)) fun _ => trivial
  | socket connection =>
      refine Prog.steps_bind _ _ _
        (socket_steps (fun before after : WireStores => SameAudit before.stores.db after.stores.db)
        (fun _ => rfl) (fun _ _ => rfl) _ _ _ ?_) fun _ => trivial
      exact fun _ _ _ _ _ _ _ _ _ _ _ _ => rfl
  | record delivery =>
      refine Prog.steps_bind _ _ _ ?_ fun _ => trivial
      exact Prog.steps_focus WireStores.onProfiles (fun _ _ => True) _ (fun _ _ _ => rfl) _ (Prog.steps_anything _)
  | wallet message =>
      refine Prog.steps_mono _ _ (fun _ _ same => same ▸ rfl) _
        (Prog.reads_bind _ _ ?_ fun _ => Prog.reads_pure _).steps
      exact Prog.reads_focus _ _ (Prog.reads_focus _ _ (abuse_reads deployment.python message))
  | relay polls =>
      refine Prog.steps_bind _ _ _ ?_ fun _ => trivial
      refine Prog.steps_focus WireStores.onRelay (fun before after => SameAudit before.db after.db) _
        (fun _ _ same => same) _ ?_
      exact run_loop_steps (fun before after : RelayStores => SameAudit before.db after.db) (fun _ => rfl)
        (fun _ _ => rfl)
        (fun relay id now => (mark_dispatched_frame relay.db id now).2.2) deployment.relay polls

theorem arrival_audits (signed : List String) (arrival : Arrival) :
    (arrival.program deployment signed).Meets rely (arrival.Audits deployment rely)
      (arrival.OnRecord deployment rely (Recorded rely)) := by
  by_cases isLogin : ∃ body client draws, arrival = .http (.login body client) draws
  · obtain ⟨body, client, draws, rfl⟩ := isLogin
    refine Prog.meets_mono _ _ _ _ _ (fun answer onRecord body' client' draws' same => ?_)
      (login_audits deployment rely signed body client draws)
    cases same
    exact onRecord
  · have noLogin : ∀ body client draws, arrival ≠ .http (.login body client) draws := fun body client draws same =>
      isLogin ⟨body, client, draws, same⟩
    refine Prog.meets_of_steps _ _ _ _ _ (arrival_same_audit deployment signed arrival noLogin) (fun _ _ _ => Or.inl)
      fun answer => ?_
    exact fun body client draws same => absurd same (noLogin body client draws)

end Arrivals

namespace App

variable (deployment : Deployment) (before : List String) (wire : WireStores) (events : List (ServerEvent Arrival))

-- Rows are added and never change; each says truly what became of somebody's attempt, and
-- no attempt is answered by tokens or a refusal without the row that says so.
structure AuditTells : Prop where
  keeps : ∀ wire' ∈ stores deployment before wire events,
    wire'.stores.db.loginAudit.rows <+: (run deployment before wire events).store.stores.db.loginAudit.rows
  told : ∀ row ∈ (run deployment before wire events).store.stores.db.loginAudit.rows, row ∈
    wire.stores.db.loginAudit.rows ∨
    ∃ arrival draft, .arrives arrival ∈ events ∧
      arrival.Told deployment (fun wire' => wire' ∈ stores deployment before wire events) draft ∧
      LoginAuditRow.store draft = .ok row
  answered : ∀ pair ∈ (run deployment before wire events).answers,
    pair.1.OnRecord deployment (fun wire' => wire' ∈ stores deployment before wire events)
      (run deployment before wire events).store.stores.db.Records pair.2

theorem login_audit_tells : AuditTells deployment before wire events := by
  have served : ∀ arrival answers, .arrives arrival ∈ events → (∀ pair ∈ answers, pair.1.OnRecord deployment
        (fun wire' => wire' ∈ stores deployment before wire events)
          (Recorded fun wire' => wire' ∈ stores deployment before wire events) pair.2) →
      (serve deployment before arrival answers).Meets (fun wire' => wire' ∈ stores deployment before wire events)
        (fun wire' next => .arrives arrival ∈ events ∧
          arrival.Audits deployment (fun wire' => wire' ∈ stores deployment before wire events) wire' next)
        (arrival.OnRecord deployment (fun wire' => wire' ∈ stores deployment before wire events)
          (Recorded fun wire' => wire' ∈ stores deployment before wire events)) := fun arrival answers arrives _ =>
    Prog.meets_widen _ _ _ (fun _ _ _ audits => ⟨arrives, audits⟩) _ _ (arrival_audits deployment _ _ arrival)
  have idle := Server.idle_meeting (fun wire' => wire' ∈ stores deployment before wire events)
    (fun arrival wire' next => .arrives arrival ∈ events ∧
      arrival.Audits deployment (fun wire' => wire' ∈ stores deployment before wire events) wire' next)
    (fun arrival => arrival.OnRecord deployment (fun wire' => wire' ∈ stores deployment before wire events)
      (Recorded fun wire' => wire' ∈ stores deployment before wire events)) wire
  have keeps := Server.run_reaches (serve deployment before) _ _ _
    (fun wire' next => wire'.stores.db.loginAudit.rows <+: next.stores.db.loginAudit.rows) (fun _ => List.prefix_rfl)
    (fun _ _ _ => List.IsPrefix.trans) (fun arrival wire' next _ moved => by
      rcases moved.2 with same | ⟨draft, row, _, _, rows⟩
      · rw [same]
      · rw [rows]
        exact List.prefix_append _ _) ⟨wire, [], []⟩ idle events (fun _ member => member) served
  have told := Server.run_kept (serve deployment before) _ _ _ (fun wire' => ∀ row ∈ wire'.stores.db.loginAudit.rows,
      row ∈ wire.stores.db.loginAudit.rows ∨ ∃ arrival draft, .arrives arrival ∈ events ∧
        arrival.Told deployment (fun wire' => wire' ∈ stores deployment before wire events) draft ∧
          LoginAuditRow.store draft = .ok row)
    (fun arrival wire' next _ moved told row member => by
      rcases moved.2 with same | ⟨draft, added, isTold, stored, rows⟩
      · exact told row (same ▸ member)
      · rw [rows] at member
        rcases List.mem_append.mp member with old | new
        · exact told row old
        · exact Or.inr ⟨arrival, draft, moved.1, isTold, List.mem_singleton.mp new ▸ stored⟩)
    ⟨wire, [], []⟩ (fun _ => Or.inl) idle events (fun _ member => member) served
  have meeting := Server.run_meeting (serve deployment before) _ _ _ ⟨wire, [], []⟩ idle events
    (fun _ member => member) served
  refine ⟨keeps, told _ (Server.mem_stores_run _ _ events), fun pair answered => ?_⟩
  refine on_record_mono _ _ _ _ (fun draft recorded => ?_) _ _ (meeting.answers pair answered)
  obtain ⟨wire', member, row, isRow, stored⟩ := recorded
  exact ⟨row, (keeps wire' member).subset isRow, stored⟩

end App

end AuthProfile
