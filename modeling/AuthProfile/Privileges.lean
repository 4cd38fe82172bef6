import AuthProfile.Bystanders
import AuthProfile.Harmless
import AuthProfile.RelayOrder
import AuthProfile.Seeding
import AuthProfile.Suggestions

set_option autoImplicit false

-- Who is behind what happens to the accounts, whatever requests come in, however they
-- interleave and whatever fails.
namespace AuthProfile

open Relation Process UserRepository

-- The roles behind require_roles, where a request has it.
def RoleAdminRequest.roles : RoleAdminRequest → Option (List Role)
  | .requestRole _ => none
  | .grantRole _ _ => some [.admin]
  | _ => some [.support, .admin]

def DirectoryRequest.roles : DirectoryRequest → Option (List Role)
  | .lookupRecipient _ => none
  | .suggestRecipients _ => none
  | _ => some [.support, .admin]

def HttpRequest.guarded : HttpRequest → Option (String × List Role)
  | .roleAdmin credentials request => request.roles.map fun roles => (credentials, roles)
  | .directory credentials request => request.roles.map fun roles => (credentials, roles)
  | _ => none

def Arrival.guarded : Arrival → Option (Time × String × List Role)
  | .http request draws => request.guarded.map fun guard => (draws.io.now, guard)
  | _ => none

theorem role_admin_dependencies (request : RoleAdminRequest) (caller : CurrentUser) :
    request.dependencies caller = match request.roles with
      | none => .ok caller
      | some roles => requireRoles roles caller := by
  cases request with
  | requestRole | grantRole | decideRoleRequest | decideRegistration | banUser | unbanUser => rfl

theorem directory_dependencies (request : DirectoryRequest) (caller : CurrentUser) :
    request.dependencies caller = match request.roles with
      | none => .ok caller
      | some roles => requireRoles roles caller := by
  cases request with
  | lookupRecipient | suggestRecipients | listUsers | listUserIds | listPendingRoleRequests => rfl

def Forbidden {α : Type} (answer : Except Error α) : Prop :=
  ∃ detail, answer = .error (.http 401 detail) ∨ answer = .error (.http 403 detail)

theorem forbidden_map {α β : Type} (answer : Except Error α) (render : α → β) (forbidden : Forbidden answer) :
    Forbidden (answer.map render) := by
  obtain ⟨detail, refused | refused⟩ := forbidden
  · exact ⟨detail, Or.inl (by rw [refused]; rfl)⟩
  · exact ⟨detail, Or.inr (by rw [refused]; rfl)⟩

section Arrivals

variable (provider : JwtTokenProvider) (may : String → Role → Prop) (arrival : Arrival)

-- A request that lets in whom its token says, with one of the roles it asks for.
def Arrival.Staffed : Prop :=
  ∃ now credentials roles signed caller, arrival.guarded = some (now, credentials, roles) ∧
    getCurrentUser provider signed now credentials = .ok caller ∧ caller.role ∈ roles ∧ may caller.userId caller.role

structure Arrival.Fit (answer : Except Error Outcome) : Prop where
  tokens : ∀ token ∈ arrival.minted answer, Carries provider may token
  staff : arrival.guarded ≠ none → Forbidden answer ∨ arrival.Staffed provider may

theorem fit_unminted (answer : Except Error Outcome) (unminted : arrival.minted answer = [])
    (staff : arrival.guarded ≠ none → Forbidden answer ∨ arrival.Staffed provider may) :
    arrival.Fit provider may answer :=
  ⟨fun _ member => absurd (unminted ▸ member) List.not_mem_nil, staff⟩

theorem fit_open (answer : Except Error Outcome) (unminted : arrival.minted answer = [])
    (isOpen : arrival.guarded = none) :
    arrival.Fit provider may answer :=
      fit_unminted provider may arrival answer unminted fun guarded => absurd isOpen guarded

theorem unminted (request : HttpRequest) (draws : Draws) (silent : ∀ answer, request.minted answer = [])
    (answer : Except Error Outcome) :
    (Arrival.http request draws).minted answer = [] := by
  cases answer with
  | error error => rfl
  | ok outcome =>
      cases outcome with
      | response response => exact silent (.ok response)
      | socket | flagged | done => rfl

-- What does not come in is forbidden and does nothing.
theorem guarded_meets {σ α : Type} (rely : σ → Prop) (guar : σ → σ → Prop) (staffed : Prop) (roles : Option (List Role))
    (caller : CurrentUser) (dependencies : Except Error CurrentUser) (handler : Prog σ Error α)
    (depends : dependencies = match roles with | none => .ok caller | some roles => requireRoles roles caller)
    (within : ∀ allowed, roles = some allowed → caller.role ∈ allowed → staffed)
    (unguarded : roles = none → handler.Meets rely (fun s s' => guar s s' ∨ staffed) fun _ => True) :
    (Prog.ofExcept dependencies >>= fun _ => handler).Meets rely (fun s s' => guar s s' ∨ staffed)
      fun answer => roles ≠ none → Forbidden answer ∨ staffed := by
  cases roles with
  | none =>
      rw [depends]
      exact Prog.meets_mono _ _ _ _ _ (fun _ _ wrong => absurd rfl wrong) (unguarded rfl)
  | some allowed =>
      by_cases member : caller.role ∈ allowed
      · have isStaffed := within allowed rfl member
        exact Prog.meets_of_steps _ _ _ _ _ (Prog.steps_anything _) (fun _ _ _ _ => Or.inr isStaffed) fun _ _ =>
          Or.inr isStaffed
      · obtain ⟨detail, refused⟩ := require_roles_refused allowed caller member
        rw [depends]
        dsimp only
        rw [refused]
        exact fun _ => Or.inl ⟨detail, Or.inr rfl⟩

end Arrivals

section Routes

variable (start : Db) (provider : JwtTokenProvider) (may : String → Role → Prop) (documented : provider.jwt.Documented)
  (signed : List String) (carried : ∀ token ∈ signed, Carries provider may token) (staffed : Prop) (rely : Db → Prop)

include documented carried

theorem role_admin_meets (io : Surroundings) (unknown : io.Unknown start) (credentials : String)
    (request : RoleAdminRequest)
    (within : ∀ caller allowed, getCurrentUser provider signed io.now credentials = .ok caller →
      may caller.userId caller.role →
      request.roles = some allowed → caller.role ∈ allowed → staffed) :
    (request.route provider signed io credentials).Meets rely (fun s s' => start.Harmless s s' ∨ staffed)
      fun answer => request.roles ≠ none → Forbidden answer ∨ staffed := by
  rw [RoleAdminRequest.route]
  rcases caller_carries provider may documented signed carried io.now credentials with
    ⟨detail, refused⟩ | ⟨caller, called, said⟩
  · rw [refused]
    exact fun _ => Or.inl ⟨detail, Or.inl rfl⟩
  · rw [called]
    refine guarded_meets rely start.Harmless staffed request.roles caller _ _ (role_admin_dependencies request caller)
      (fun allowed => within caller allowed called said) fun isOpen => ?_
    cases request with
    | requestRole body =>
        refine Prog.meets_of_steps _ _ start.Harmless _ _ ?_ (fun _ _ _ => Or.inl) fun _ => trivial
        have parses := Prog.reads_of_except (σ := Db) (Role.ofValue body.requestedRole)
        have asks : (RoleAdminController.requestRole io caller body).Steps start.Harmless :=
          Prog.steps_bind _ _ _ (Prog.steps_mono _ _ (fun _ _ same => same ▸ ReflTransGen.refl) _ parses.steps)
            fun requestedRole =>
              Prog.steps_bind _ _ _ (request_role_harmless start io unknown caller.userId requestedRole)
                fun _ => trivial
        exact Prog.steps_bind _ _ _ asks fun _ => trivial
    | decideRoleRequest | decideRegistration | grantRole | banUser | unbanUser => cases isOpen

theorem directory_meets (collation : Collation) (lower : Lower) (now : Time) (credentials : String)
    (request : DirectoryRequest)
    (within : ∀ caller allowed, getCurrentUser provider signed now credentials = .ok caller →
      may caller.userId caller.role →
      request.roles = some allowed → caller.role ∈ allowed → staffed) :
    (request.route collation lower provider signed now credentials).Meets rely
      (fun s s' => start.Harmless s s' ∨ staffed)
      fun answer => request.roles ≠ none → Forbidden answer ∨ staffed := by
  rw [DirectoryRequest.route]
  rcases caller_carries provider may documented signed carried now credentials with
    ⟨detail, refused⟩ | ⟨caller, called, said⟩
  · rw [refused]
    exact fun _ => Or.inl ⟨detail, Or.inl rfl⟩
  · rw [called]
    refine guarded_meets rely start.Harmless staffed request.roles caller _ _ (directory_dependencies request caller)
      (fun allowed => within caller allowed called said) fun _ => ?_
    refine Prog.reads_meets rely _ (fun db => ?_) _ _ (directory_reads collation lower caller request) fun _ => trivial
    exact Or.inl ReflTransGen.refl

omit documented carried

end Routes

section Programs

variable (deployment : Deployment) (may : String → Role → Prop) (start : Db) (rely : WireStores → Prop)

-- What an arrival does to the accounts.
def Arrival.Moves (arrival : Arrival) (before after : WireStores) : Prop :=
  start.Harmless before.stores.db after.stores.db ∨ arrival.Staffed deployment.provider may

theorem on_stores_meets {α : Type} (staffed : Prop) (p : Prog Stores Error α) (fit : Except Error α → Prop)
    (met : p.Meets (fun stores => ∃ wire, rely wire ∧ wire.stores = stores)
      (fun s s' => start.Harmless s.db s'.db ∨ staffed) fit) :
    (p.focus WireStores.onStores).Meets rely
      (fun before after => start.Harmless before.stores.db after.stores.db ∨ staffed) fit :=
  Prog.meets_focus _ _ WireStores.onStores rely _ (fun wire relied => ⟨wire, relied, rfl⟩)
    (fun _ _ _ moved => moved) fit p met

theorem on_db_meets {α : Type} (staffed : Prop) (p : Prog Db Error α) (fit : Except Error α → Prop)
    (met : p.Meets (fun db => ∃ wire, rely wire ∧ wire.stores.db = db)
      (fun s s' => start.Harmless s s' ∨ staffed) fit) :
    ((p.focus Stores.onDb).focus WireStores.onStores).Meets rely
      (fun before after => start.Harmless before.stores.db after.stores.db ∨ staffed) fit := by
  refine on_stores_meets start rely staffed _ fit ?_
  refine Prog.meets_focus _ _ Stores.onDb _ _ (fun stores relied => ?_) (fun _ _ _ moved => moved) fit p met
  obtain ⟨wire, relied, isStores⟩ := relied
  exact ⟨wire, relied, congrArg Stores.db isStores⟩

-- What leaves the accounts alone, hands out no token and is open to all.
theorem bystander_meets (signed : List String) (arrival : Arrival) (bystands : arrival.Bystands)
    (unminted : ∀ answer, arrival.minted answer = []) (isOpen : arrival.guarded = none) :
    (arrival.program deployment signed).Meets rely (arrival.Moves deployment may start)
      (arrival.Fit deployment.provider may) :=
  Prog.meets_of_steps _ _ _ _ _ (bystander_steps deployment signed arrival bystands)
    (fun _ _ _ same => Or.inl (.single (Or.inr same)))
    fun answer => fit_open _ _ _ _ (unminted answer) isOpen

section Requests

variable (draws : Draws) (signed : List String)

section Tokens

variable (vouched : ∀ wire, rely wire → ∀ row ∈ wire.stores.db.users.rows, row.state = .active →
    may row.id.text row.role)

include vouched

theorem login_request_meets (body : LoginRequest) (client : Option String) :
    ((Arrival.http (.login body client) draws).program deployment signed).Meets rely
      ((Arrival.http (.login body client) draws).Moves deployment may start)
      ((Arrival.http (.login body client) draws).Fit deployment.provider may) := by
  have failed : ∀ error, (Arrival.http (.login body client) draws).Fit deployment.provider may (.error error) :=
    fun error => fit_open _ _ _ _ rfl rfl
  refine Prog.meets_rendered _ _ _ _ _
    (Prog.meets_rendered _ _ _ _ _ (on_db_meets start rely _ _ _ (Prog.meets_rendered _ _ _ _ _ ?_)))
  refine login_meets _ _ _ _ _ _ _ _ _ _ (fun _ => Or.inl .refl) (fun _ _ before after _ audited => Or.inl ?_)
    (fun error _ => failed error)
    (fun _ _ exc _ _ _ _ => failed _) fun seen _ row relied found active _ _ _ =>
      ⟨fun token member => ?_, fun guarded => absurd rfl guarded⟩
  · exact audited_harmless start _ before after audited
  · obtain ⟨wire, relied, isDb⟩ := relied
    have said := vouched wire relied row (isDb ▸ List.mem_of_find?_eq_some found) active
    rcases List.mem_cons.mp member with isAccess | isRefresh
    · exact isAccess ▸ access_carries _ _ _ _ _ _ said
    · exact List.mem_singleton.mp isRefresh ▸ refresh_carries _ _ _ _ _

theorem refresh_request_meets (body : RefreshRequest) :
    ((Arrival.http (.refresh body) draws).program deployment signed).Meets rely
      ((Arrival.http (.refresh body) draws).Moves deployment may start)
      ((Arrival.http (.refresh body) draws).Fit deployment.provider may) := by
  refine Prog.meets_rendered _ _ _ _ _
    (Prog.meets_rendered _ _ _ _ _ (on_stores_meets start rely _ _ _ (Prog.meets_rendered _ _ _ _ _ ?_)))
  refine refresh_meets _ _ _ _ _ (fun _ => Or.inl .refl) _ (fun error => fit_open _ _ _ _ rfl rfl)
    fun seen userId row relied found active => ⟨fun token member => ?_, fun guarded => absurd rfl guarded⟩
  obtain ⟨wire, relied, isStores⟩ := relied
  have said := vouched wire relied row (isStores ▸ Table.find_mem _ _ row found) active
  exact List.mem_singleton.mp member ▸ access_carries _ _ _ _ _ _ said

end Tokens

theorem register_request_meets (unknown : draws.io.Unknown start) (body : RegisterRequest) :
    ((Arrival.http (.register body) draws).program deployment signed).Meets rely
      ((Arrival.http (.register body) draws).Moves deployment may start)
      ((Arrival.http (.register body) draws).Fit deployment.provider may) := by
  refine Prog.meets_rendered _ _ _ _ _ (Prog.meets_rendered _ _ _ _ _ (on_db_meets start rely _ _ _ ?_))
  refine Prog.meets_of_steps _ _ start.Harmless _ _ ?_ (fun _ _ _ => Or.inl) fun _ =>
    fit_open _ _ _ _ (unminted _ _ (fun _ => rfl) _) rfl
  exact Prog.steps_bind _ _ _ (register_user_harmless start draws.io _ _ unknown _ _ _) fun _ => trivial

variable (documented : deployment.provider.jwt.Documented)
    (carried : ∀ token ∈ signed, Carries deployment.provider may token)

include documented carried

theorem role_admin_request_meets (unknown : draws.io.Unknown start) (credentials : String)
    (request : RoleAdminRequest) :
    ((Arrival.http (.roleAdmin credentials request) draws).program deployment signed).Meets rely
      ((Arrival.http (.roleAdmin credentials request) draws).Moves deployment may start)
      ((Arrival.http (.roleAdmin credentials request) draws).Fit deployment.provider may) := by
  have isGuarded : (Arrival.http (.roleAdmin credentials request) draws).guarded =
      (request.roles.map fun roles => (credentials, roles)).map fun guard => (draws.io.now, guard) := rfl
  have met := role_admin_meets start deployment.provider may documented signed carried
    ((Arrival.http (.roleAdmin credentials request) draws).Staffed deployment.provider may) (fun db => ∃ wire,
      rely wire ∧ wire.stores.db = db)
    draws.io unknown credentials request fun caller allowed called said isRoles member =>
      ⟨draws.io.now, credentials, allowed, signed, caller, by rw [isGuarded, isRoles]; rfl, called, member, said⟩
  refine Prog.meets_rendered _ _ _ _ _ (Prog.meets_rendered _ _ _ _ _ (on_db_meets start rely _ _ _
    (Prog.meets_mono _ _ _ _ _ (fun answer forbidden => fit_unminted _ _ _ _ ?_ fun guarded => ?_) met)))
  · cases answer <;> rfl
  · rw [isGuarded, ne_eq, Option.map_eq_none_iff, Option.map_eq_none_iff] at guarded
    exact (forbidden guarded).imp_left fun forbidden => forbidden_map _ _ (forbidden_map _ _ forbidden)

theorem directory_request_meets (credentials : String) (request : DirectoryRequest) :
    ((Arrival.http (.directory credentials request) draws).program deployment signed).Meets rely
      ((Arrival.http (.directory credentials request) draws).Moves deployment may start)
      ((Arrival.http (.directory credentials request) draws).Fit deployment.provider may) := by
  have isGuarded : (Arrival.http (.directory credentials request) draws).guarded =
      (request.roles.map fun roles => (credentials, roles)).map fun guard => (draws.io.now, guard) := rfl
  have met := directory_meets start deployment.provider may documented signed carried
    ((Arrival.http (.directory credentials request) draws).Staffed deployment.provider may)
    (fun db => ∃ wire, rely wire ∧ wire.stores.db = db) deployment.collation deployment.lower draws.io.now credentials
    request fun caller allowed called said isRoles member =>
      ⟨draws.io.now, credentials, allowed, signed, caller, by rw [isGuarded, isRoles]; rfl, called, member, said⟩
  refine Prog.meets_rendered _ _ _ _ _ (Prog.meets_rendered _ _ _ _ _ (on_db_meets start rely _ _ _
    (Prog.meets_mono _ _ _ _ _ (fun answer forbidden => fit_unminted _ _ _ _ ?_ fun guarded => ?_) met)))
  · cases answer <;> rfl
  · rw [isGuarded, ne_eq, Option.map_eq_none_iff, Option.map_eq_none_iff] at guarded
    exact (forbidden guarded).imp_left fun forbidden => forbidden_map _ _ (forbidden_map _ _ forbidden)

end Requests

variable (vouched : ∀ wire, rely wire → ∀ row ∈ wire.stores.db.users.rows, row.state = .active →
    may row.id.text row.role)
  (documented : deployment.provider.jwt.Documented) (signed : List String)
  (carried : ∀ token ∈ signed, Carries deployment.provider may token)

include vouched documented carried

theorem http_meets (draws : Draws) (unknown : draws.io.Unknown start) (request : HttpRequest) :
    ((Arrival.http request draws).program deployment signed).Meets rely
      ((Arrival.http request draws).Moves deployment may start)
      ((Arrival.http request draws).Fit deployment.provider may) := by
  cases request with
  | register body => exact register_request_meets deployment may start rely draws signed unknown body
  | login body client => exact login_request_meets deployment may start rely draws signed vouched body client
  | refresh body => exact refresh_request_meets deployment may start rely draws signed vouched body
  | roleAdmin credentials request =>
      exact role_admin_request_meets deployment may start rely draws signed documented carried unknown
        credentials request
  | directory credentials request =>
      exact directory_request_meets deployment may start rely draws signed documented carried credentials request
  | logout | ownProfile | profile =>
      exact bystander_meets deployment may start rely signed _ ⟨(fun _ _ wrong => by cases wrong),
        fun _ _ _ wrong => by cases wrong⟩
        (fun answer => unminted _ _ (fun _ => rfl) answer) rfl

theorem arrival_meets (arrival : Arrival)
    (unknown : ∀ request draws, arrival = .http request draws → draws.io.Unknown start) :
    (arrival.program deployment signed).Meets rely (arrival.Moves deployment may start)
      (arrival.Fit deployment.provider may) := by
  cases arrival with
  | http request draws =>
      exact http_meets deployment may start rely vouched documented signed carried draws
        (unknown request draws rfl) request
  | socket | record | wallet | relay =>
      exact bystander_meets deployment may start rely signed _ ⟨(fun _ _ wrong => by cases wrong),
        fun _ _ _ wrong => by cases wrong⟩
        (fun _ => rfl) rfl

end Programs

def Role.staff (role : Role) : Prop := role ∈ [Role.support, .admin]

-- No ACTIVE account is staff at the start.
def Db.Unstaffed (db : Db) : Prop := ∀ row ∈ db.users.rows, row.state = .active → ¬ row.role.staff

theorem request_roles (request : HttpRequest) (credentials : String) (roles : List Role)
    (guarded : request.guarded = some (credentials, roles)) (role : Role) (member : role ∈ roles) : role.staff := by
  have admin : ∀ role ∈ [Role.admin], role.staff := fun role isAdmin => List.mem_cons_of_mem _ isAdmin
  cases request with
  | roleAdmin _ request =>
      cases request <;> cases guarded <;> first | exact member | exact admin role member
  | directory _ request =>
      cases request <;> cases guarded <;> exact member
  | register | login | refresh | logout | ownProfile | profile => cases guarded

theorem guarded_roles (arrival : Arrival) (now : Time) (credentials : String) (roles : List Role)
    (guarded : arrival.guarded = some (now, credentials, roles)) (role : Role) (member : role ∈ roles) :
    role.staff := by
  cases arrival with
  | http request draws =>
      obtain ⟨guard, isGuard, same⟩ := Option.map_eq_some_iff.mp guarded
      cases same
      exact request_roles request credentials roles isGuard role member
  | socket | record | wallet | relay => cases guarded

section Unstaffed

variable (start : Db) (unstaffed : start.Unstaffed)

theorem basic_not_staff : ¬ Role.basicUser.staff := by
  rw [Role.staff]
  decide

include unstaffed in
theorem active_not_staff (db : Db) (unattended : start.Unattended db) (row : UserRow) (member : row ∈ db.users.rows)
    (active : row.state = .active) : ¬ row.role.staff := by
  have may := unattended.accounts row member
  rw [Db.MayBe] at may
  cases known : start.account row.id.text with
  | none =>
      rw [known] at may
      rw [show row.role = .basicUser from congrArg Account.role may]
      exact basic_not_staff
  | some account =>
      rw [known] at may
      obtain ⟨before, found, isAccount⟩ := Option.map_eq_some_iff.mp known
      have same : before.account = row.account := isAccount.trans may.symm
      have wasActive : before.state = .active := (congrArg Account.state same).trans active
      rw [← show before.role = row.role from congrArg Account.role same]
      exact unstaffed before (Table.find_mem _ _ before found) wasActive

end Unstaffed

namespace App

variable (deployment : Deployment) (before : List String) (wire : WireStores)
    (documented : deployment.provider.jwt.Documented)
  (may : String → Role → Prop) (carried : ∀ token ∈ before, Carries deployment.provider may token)

include carried in
theorem signed_carries (answers : List (Arrival × Except Error Outcome))
    (fits : ∀ pair ∈ answers, pair.1.Fit deployment.provider may pair.2) :
    ∀ token ∈ before ++ signedBy answers, Carries deployment.provider may token := by
  intro token member
  rcases List.mem_append.mp member with old | new
  · exact carried token old
  · obtain ⟨pair, answered, isMinted⟩ := List.mem_flatMap.mp new
    exact (fits pair answered).tokens token isMinted

-- The run of a service whose tokens say what a store showed of an ACTIVE account.
section Run

variable (vouches : WireStores → Prop)
  (vouched : ∀ wire, vouches wire → ∀ row ∈ wire.stores.db.users.rows, row.state = .active → may row.id.text row.role)
  (events : List (ServerEvent Arrival))
  (unknown : ∀ request draws, .arrives (.http request draws) ∈ events → draws.io.Unknown wire.stores.db)

include documented carried vouched unknown

theorem serves (arrival : Arrival) (answers : List (Arrival × Except Error Outcome))
    (arrives : .arrives arrival ∈ events) (fits : ∀ pair ∈ answers, pair.1.Fit deployment.provider may pair.2) :
    (serve deployment before arrival answers).Meets vouches (arrival.Moves deployment may wire.stores.db)
      (arrival.Fit deployment.provider may) :=
  arrival_meets deployment may wire.stores.db vouches vouched documented _
    (signed_carries deployment before may carried answers fits) arrival
    fun request draws isRequest => unknown request draws (isRequest ▸ arrives)

end Run

include documented in
-- Nobody comes to be staff where nobody is: every account is as it was or as registering
-- made it, no request is decided, and what is for staff is refused.
theorem staff_comes_from_staff (unstaffed : wire.stores.db.Unstaffed)
    (unprivileged : ∀ token ∈ before, Carries deployment.provider (fun _ role => ¬ role.staff) token)
    (events : List (ServerEvent Arrival))
    (unknown : ∀ request draws, .arrives (.http request draws) ∈ events → draws.io.Unknown wire.stores.db) :
    wire.stores.db.Unattended (run deployment before wire events).store.stores.db ∧
      ∀ pair ∈ (run deployment before wire events).answers, pair.1.guarded ≠ none → Forbidden pair.2 := by
  have unstaffable : ∀ arrival : Arrival, ¬ arrival.Staffed deployment.provider fun _ role => ¬ role.staff := by
    rintro arrival ⟨now, credentials, roles, signed, caller, isGuarded, _, allowed, notStaff⟩
    exact notStaff (guarded_roles arrival now credentials roles isGuarded caller.role allowed)
  obtain ⟨unattended, fits⟩ := Server.run_sound (serve deployment before)
    (fun arrival => arrival.Fit deployment.provider fun _ role => ¬ role.staff)
    (fun wire' => wire.stores.db.Unattended wire'.stores.db) ⟨wire, [], []⟩ (unattended_refl _)
      (Server.idle_meeting _ _ _ wire) events
    fun arrival answers arrives fits => by
      have met := serves deployment before wire documented (fun _ role => ¬ role.staff) unprivileged
        (fun wire' => wire.stores.db.Unattended wire'.stores.db)
        (fun wire' unattended row member =>
          active_not_staff wire.stores.db unstaffed wire'.stores.db unattended row member)
        events unknown arrival answers arrives fits
      refine Prog.meets_widen _ _ _ (fun before after unattended moved => ?_) _ _ met
      rcases moved with harmless | staffed
      · exact harmless_unattended wire.stores.db _ _ harmless unattended
      · exact absurd staffed (unstaffable arrival)
  exact ⟨unattended _ (Server.mem_stores_run _ ⟨wire, [], []⟩ events),
    fun pair answered guarded => ((fits pair answered).staff guarded).resolve_right (unstaffable pair.1)⟩

-- What a token may say: what earlier tokens said, and what a store has shown.
def Shown (earlier : String → Role → Prop) (events : List (ServerEvent Arrival)) (userId : String)
    (role : Role) : Prop :=
  earlier userId role ∨ ∃ wire' ∈ stores deployment before wire events, wire'.stores.db.account userId =
    some ⟨role, .active⟩

section Shown

variable (earlier : String → Role → Prop) (known : ∀ token ∈ before, Carries deployment.provider earlier token)
  (events arrivals : List (ServerEvent Arrival))

include known in
theorem shown_carries (answers : List (Arrival × Except Error Outcome))
    (fits : ∀ pair ∈ answers, pair.1.Fit deployment.provider (Shown deployment before wire earlier events) pair.2) :
    ∀ token ∈ before ++ signedBy answers, Carries deployment.provider
      (Shown deployment before wire earlier events) token :=
  signed_carries deployment before _ (fun token member =>
    carries_mono _ _ _ (fun _ _ => Or.inl) token (known token member)) answers fits

include documented known in
theorem shown_serves (unknown : ∀ request draws, .arrives (.http request draws) ∈ arrivals →
    draws.io.Unknown wire.stores.db)
    (arrival : Arrival) (answers : List (Arrival × Except Error Outcome)) (arrives : .arrives arrival ∈ arrivals)
    (fits : ∀ pair ∈ answers, pair.1.Fit deployment.provider (Shown deployment before wire earlier events) pair.2) :
    (serve deployment before arrival answers).Meets (fun wire' => wire' ∈ stores deployment before wire events)
      (arrival.Moves deployment (Shown deployment before wire earlier events) wire.stores.db)
      (arrival.Fit deployment.provider (Shown deployment before wire earlier events)) := by
  refine serves deployment before wire documented _
    (fun token member => carries_mono _ _ _ (fun _ _ => Or.inl) token (known token member)) _
    (fun wire' member row isRow active => Or.inr ⟨wire', member, ?_⟩) arrivals unknown arrival answers arrives fits
  have found : wire'.stores.db.users.find row.id.text = some row := Table.find_self _ row isRow
  rw [Db.account, found, Option.map_some, UserRow.account, active]

end Shown

-- Behind every action that changes an account or a role request, and behind every answer to
-- staff, is a request with a token of somebody who was ACTIVE and of that role.
structure Accountable (earlier : String → Role → Prop) (events : List (ServerEvent Arrival))
    (event : ServerEvent Arrival) : Prop where
  users : ∀ id ∈ wire.stores.db.users.keys,
    ((run deployment before wire events).step (serve deployment before) event).store.stores.db.users.find id ≠
      (run deployment before wire events).store.stores.db.users.find id →
    ∃ arrival, (run deployment before wire events).mover event = some arrival ∧
      arrival.Staffed deployment.provider (Shown deployment before wire earlier events)
  roleRequests : ∀ id ∈ wire.stores.db.roleRequests.keys,
    ((run deployment before wire events).step (serve deployment before) event).store.stores.db.roleRequests.find id ≠
      (run deployment before wire events).store.stores.db.roleRequests.find id →
    ∃ arrival, (run deployment before wire events).mover event = some arrival ∧
      arrival.Staffed deployment.provider (Shown deployment before wire earlier events)
  answers : ∀ pair ∈ (run deployment before wire events).answers, pair.1.guarded ≠ none →
    Forbidden pair.2 ∨ pair.1.Staffed deployment.provider (Shown deployment before wire earlier events)

include documented in
theorem staff_is_accountable (earlier : String → Role → Prop)
    (known : ∀ token ∈ before, Carries deployment.provider earlier token)
    (events : List (ServerEvent Arrival)) (event : ServerEvent Arrival)
    (unknown : ∀ request draws, .arrives (.http request draws) ∈ events ++ [event] → draws.io.Unknown wire.stores.db) :
    Accountable deployment before wire earlier events event := by
  have served := shown_serves deployment before wire documented earlier known events (events ++ [event]) unknown
  have meeting := Server.run_meeting (serve deployment before) _ _ (fun arrival => arrival.Fit deployment.provider _)
    ⟨wire, [], []⟩
    (Server.idle_meeting _ _ _ wire) events (fun _ member => member) fun arrival answers arrives =>
      served arrival answers (List.mem_append_left _ arrives)
  have moved :=
    (Server.step_meeting (serve deployment before) _ _ _ _ (Server.mem_stores_run _ ⟨wire, [], []⟩ events) meeting event
    fun arrival isArrival => served arrival _
      (isArrival ▸ List.mem_append_right _ (List.mem_singleton_self _)) meeting.answers).1
  refine ⟨fun id member changed => ?_, fun id member changed => ?_,
    fun pair answered => (meeting.answers pair answered).staff⟩
  · rcases moved with same | ⟨arrival, isMover, harmless | staffed⟩
    · exact absurd (congrArg (fun wire' : WireStores => wire'.stores.db.users.find id) same) changed
    · exact absurd ((harmless_same_known _ _ _ harmless).users id member) changed
    · exact ⟨arrival, isMover, staffed⟩
  · rcases moved with same | ⟨arrival, isMover, harmless | staffed⟩
    · exact absurd (congrArg (fun wire' : WireStores => wire'.stores.db.roleRequests.find id) same) changed
    · exact absurd ((harmless_same_known _ _ _ harmless).roleRequests id member) changed
    · exact ⟨arrival, isMover, staffed⟩

end App

def Collation.sample : Collation where
  key := String
  order := inferInstance
  collate := id
  fold := id
  lower := asciiPlatform.lower
  byName := .stable _
  newestFirst := .stable _

def sampleDeployment : Deployment where
  lower := asciiPlatform.lower
  hasher := asciiPlatform.hasher
  provider := samplePlatform.provider
  collation := .sample
  python := .sample
  relay := sampleSettings

def emptyService : WireStores := ⟨⟨.empty, .empty⟩, .empty, []⟩

def Draws.sample : Draws where
  io := sampleIo
  read := .sample 0
  accessJti := sampleLogin.accessJti
  refreshJti := sampleLogin.refreshJti
  sameClock := rfl

-- Ann is a user and nobody is staff.
def annRow : UserRow where
  id := ⟨"u2", by decide⟩
  email := ⟨"ann@arcadia.com", by decide⟩
  passwordHash := ⟨"saltann-password", by decide⟩
  displayName := ⟨"Ann", by decide⟩
  role := .basicUser
  state := .active
  createdAt := 0

def annService : WireStores where
  stores := {
    db := {
      users := ⟨[annRow], by decide⟩
      roleRequests := .empty
      outbox := .empty
      loginAudit := .empty
      uniqueEmail := by decide
      requesters := by decide }
    redis := .empty }
  profiles := .empty
  handed := []

def annAccess : String :=
  sampleDeployment.provider.createAccessToken 0 sampleLogin.accessJti "u2" Role.basicUser.value none

-- Bob registers and, between his two actions, Ann asks for the pending requests.
def bobAndAnn : List (ServerEvent Arrival) :=
  [.arrives (.http (.register ⟨"bob@arcadia.com", "password", "Bob", by decide, by decide⟩) .sample), .moves 0 .none,
    .arrives (.http (.directory annAccess .listPendingRoleRequests) .sample), .moves 0 .none, .moves 0 .none]

theorem sample_unknown (events : List (ServerEvent Arrival))
    (sampled : ∀ request draws, .arrives (.http request draws) ∈ events → draws = .sample)
    (db : Db) (user : db.account "f1" = none) (noRequest : db.roleRequests.find "f1" = none) (request : HttpRequest)
    (draws : Draws) (arrives : .arrives (.http request draws) ∈ events) : draws.io.Unknown db := by
  rw [sampled request draws arrives]
  exact ⟨user, noRequest⟩

theorem bob_draws (request : HttpRequest) (draws : Draws) (arrives : .arrives (.http request draws) ∈ bobAndAnn) :
    draws = .sample := by
  simp only [bobAndAnn, List.mem_cons, List.not_mem_nil, or_false, reduceCtorEq, false_or, ServerEvent.arrives.injEq,
    Arrival.http.injEq] at arrives
  rcases arrives with ⟨_, isSample⟩ | ⟨_, isSample⟩
  · exact isSample
  · exact isSample

theorem ann_unstaffed : annService.stores.db.Unstaffed := by
  intro row member _
  rw [List.mem_singleton.mp member]
  exact basic_not_staff

theorem ann_unprivileged :
    ∀ token ∈ [annAccess], Carries sampleDeployment.provider (fun _ role => ¬ role.staff) token := by
  intro token member
  rw [List.mem_singleton.mp member]
  exact access_carries sampleDeployment.provider _ 0 sampleLogin.accessJti "u2" .basicUser basic_not_staff

def Outcome.turnedAway (answer : Except Error Outcome) : Bool :=
  match answer with
  | .error (.http 403 _) => true
  | _ => false

-- Ann's token is good, and its role is turned away.
theorem bob_is_no_staff :
    (annService.stores.db.Unattended (App.run sampleDeployment [annAccess] annService bobAndAnn).store.stores.db ∧
        ∀ pair ∈ (App.run sampleDeployment [annAccess] annService bobAndAnn).answers, pair.1.guarded ≠ none →
          Forbidden pair.2) ∧
      ∃ pair ∈ (App.run sampleDeployment [annAccess] annService bobAndAnn).answers,
        pair.1.guarded ≠ none ∧ Outcome.turnedAway pair.2 = true := by
  refine ⟨App.staff_comes_from_staff sampleDeployment
    [annAccess] annService PyJwt.json_documented ann_unstaffed ann_unprivileged bobAndAnn
    (sample_unknown bobAndAnn bob_draws _ rfl rfl), ?_⟩
  have answered : ((App.run sampleDeployment [annAccess] annService bobAndAnn).answers.any fun pair =>
      pair.1.guarded.isSome && Outcome.turnedAway pair.2) = true := by decide +kernel
  obtain ⟨pair, member, turned⟩ := List.any_eq_true.mp answered
  rw [Bool.and_eq_true] at turned
  exact ⟨pair, member, Option.isSome_iff_ne_none.mp turned.1, turned.2⟩

def adminService : WireStores := ⟨⟨seededService.db, .empty⟩, .empty, []⟩

-- The admin signs in and is about to be banned by itself.
def adminSignsIn : List (ServerEvent Arrival) :=
  [.arrives (.http (.login ⟨"admin@arcadia.com", "admin-password"⟩ none) .sample), .moves 0 .none, .moves 0 .none,
    .arrives (.http (.roleAdmin sampleAccess (.banUser "s1" ⟨"enough"⟩)) .sample), .moves 0 .none, .moves 0 .none]

theorem admin_draws (request : HttpRequest) (draws : Draws)
    (arrives : .arrives (.http request draws) ∈ adminSignsIn ++ [.moves 0 .none]) :
    draws = .sample := by
  simp only [adminSignsIn, List.cons_append, List.nil_append, List.mem_cons, List.not_mem_nil, or_false,
    reduceCtorEq, false_or,
    ServerEvent.arrives.injEq, Arrival.http.injEq] at arrives
  rcases arrives with ⟨_, isSample⟩ | ⟨_, isSample⟩
  · exact isSample
  · exact isSample

theorem admin_is_accountable :
    App.Accountable sampleDeployment [] adminService (fun _ _ => False) adminSignsIn (.moves 0 .none) :=
  App.staff_is_accountable sampleDeployment [] adminService PyJwt.json_documented (fun _ _ => False)
    (fun _ member => absurd member List.not_mem_nil) adminSignsIn (.moves 0 .none)
    (sample_unknown (adminSignsIn ++ [.moves 0 .none]) admin_draws _ rfl rfl)

end AuthProfile
