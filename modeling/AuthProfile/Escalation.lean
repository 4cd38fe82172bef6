import AuthProfile.Calls
import AuthProfile.Decision

set_option autoImplicit false

namespace AuthProfile

open Relation Process UserRepository

structure AccessToken where
  userId : String
  role : Role
deriving DecidableEq, Repr

structure Service where
  db : Db
  issued : List AccessToken

-- What a signed-in account asks for. The actor comes from its token.
inductive Command where
  | requestRole (requestedRole : Role)
  | decideRoleRequest (requestId : String) (approve : Bool) (note : String)
  | grantRole (targetUserId : String) (newRole : Role)
  | approveRegistration (targetUserId : String) (approve : Bool) (reason : String)
  | banUser (targetUserId : String) (ban : Bool) (reason : String)

def Command.call (token : AccessToken) : Command → Call
  | .requestRole requestedRole => .requestRole token.userId requestedRole
  | .decideRoleRequest requestId approve note => .decideRoleRequest token.role requestId approve token.userId note
  | .grantRole targetUserId newRole => .grantRole token.role targetUserId newRole token.userId
  | .approveRegistration targetUserId approve reason =>
      .approveRegistration token.role targetUserId approve token.userId reason
  | .banUser targetUserId ban reason => .banUser token.role targetUserId ban token.userId reason

inductive Step where
  | issue (userId : String)
  | register (email password displayName : String) (io : Surroundings) (script : List Fault)
  | act (token : AccessToken) (command : Command) (io : Surroundings) (script : List Fault)

namespace Service

-- A token is issued for the role its account has then; it is good for any later call.
def step (platform : Platform) (service : Service) : Step → Service
  | .issue userId =>
      match service.db.account userId with
      | some ⟨role, .active⟩ => { service with issued := ⟨userId, role⟩ :: service.issued }
      | _ => service
  | .register email password displayName io script =>
      { service with db :=
        (Invocation.outcome platform ⟨.registerUser email password displayName, io, script⟩ service.db).store }
  | .act token command io script =>
      if token ∈ service.issued then
        { service with db := (Invocation.outcome platform ⟨command.call token, io, script⟩ service.db).store }
      else service

end Service

def Promotes (before after : Db) (id : String) : Prop :=
  (after.account id).map Account.role = some .admin ∧ (before.account id).map Account.role ≠ some .admin

def Step.byAdmin : Step → Prop
  | .act token _ _ _ => token.role = .admin
  | _ => False

def AdminByAdmin (platform : Platform) (service : Service) (step : Step) : Prop :=
  ∀ id, Promotes service.db (service.step platform step).db id → step.byAdmin

-- A SUPPORT approves a pending request for ADMIN of someone who is not ADMIN, and
-- nothing keeps the grant from being committed.
inductive Escalates (service : Service) : Step → Prop where
  | approval (token : AccessToken) (requestId note : String) (io : Surroundings) (script : List Fault)
      (row : RoleRequestRow) (user : UserRow) (issued : token ∈ service.issued) (support : token.role = .support)
      (decides : Decides script service.db token.role requestId row) (asksAdmin : row.requestedRole = .admin)
      (requester : service.db.users.find row.userId.text = some user) (notYet : user.role ≠ .admin)
      (granted : GrantCommits io script.tail service.db) :
      Escalates service (.act token (.decideRoleRequest requestId true note) io script)

theorem same_users_promote (before after : Db) (id : String) (users : after.users = before.users) :
    ¬ Promotes before after id := by
  rintro ⟨promoted, notBefore⟩
  rw [Db.account, users] at promoted
  exact notBefore promoted

theorem save_request_users (io : Surroundings) (row : RoleRequestRow) (status : RoleRequestStatus)
    (decidedBy note : String) (script : List Fault) (db : Db) (found : db.roleRequests.find row.id.text = some row) :
    ((saveRoleRequest io (decidedRequest row status decidedBy note) []).exec script db).store.users = db.users := by
  by_cases commits : RequestCommits script decidedBy note
  · exact (save_request_commits io row status decidedBy note script db found commits).users
  · rw [save_request_refused io row status decidedBy note script db found commits]

section Decide

variable (io : Surroundings) (script : List Fault) (db : Db) (actorRole : Role) (requestId decidedBy note : String)

theorem approve_users (row : RoleRequestRow) (user : UserRow) (decides : Decides script db actorRole requestId row)
    (userFound : db.users.find row.userId.text = some user) (granted : GrantCommits io script.tail db) :
    ((decideRoleRequest io actorRole requestId true decidedBy note).exec script db).store.users =
      db.users.replace (user.setAccount ⟨row.requestedRole, user.state⟩) := by
  have isRequest : row.id.text = requestId := Table.find_key _ _ row decides.found
  obtain ⟨between, committed, store⟩ :=
    approve_granted io script db actorRole requestId decidedBy note row user decides userFound granted
  rw [store]
  split
  · have still : between.roleRequests.find row.id.text = some row := by
      rw [committed.roleRequests, isRequest, decides.found]
    rw [save_request_users io row .approved decidedBy note _ between still, committed.users]
  · exact committed.users

theorem approve_promotes_iff (row : RoleRequestRow) (user : UserRow)
    (decides : Decides script db actorRole requestId row)
    (userFound : db.users.find row.userId.text = some user) (granted : GrantCommits io script.tail db) (id : String) :
    Promotes db ((decideRoleRequest io actorRole requestId true decidedBy note).exec script db).store id ↔
      id = user.id.text ∧ row.requestedRole = .admin ∧ user.role ≠ .admin := by
  have isUser : user.id.text = row.userId.text := Table.find_key _ _ user userFound
  have self : db.users.find user.id.text = some user := by rw [isUser, userFound]
  have accounts := account_replace user ⟨row.requestedRole, user.state⟩ db _ self
    (approve_users io script db actorRole requestId decidedBy note row user decides userFound granted) id
  rw [Promotes, accounts]
  by_cases same : id = user.id.text
  · have before : db.account id = some user.account := by rw [Db.account, same, self, Option.map_some]
    rw [if_pos same, before]
    simp only [Option.map_some, Option.some.injEq, ne_eq, same, true_and, UserRow.account]
  · rw [if_neg same]
    constructor
    · rintro ⟨promoted, notBefore⟩
      exact absurd promoted notBefore
    · rintro ⟨isSame, _⟩
      exact absurd isSame same

theorem decide_promotes (approve : Bool) (id : String)
    (promotes : Promotes db
      ((decideRoleRequest io actorRole requestId approve decidedBy note).exec script db).store id) :
    ∃ row user, Decides script db actorRole requestId row ∧ approve = true ∧ row.requestedRole = .admin ∧
      db.users.find row.userId.text = some user ∧ user.role ≠ .admin ∧ GrantCommits io script.tail db := by
  by_cases decides : ∃ row, Decides script db actorRole requestId row
  · obtain ⟨row, here⟩ := decides
    obtain ⟨user, userFound⟩ := requester_found db requestId row here.found
    have isRequest : row.id.text = requestId := Table.find_key _ _ row here.found
    have self : db.roleRequests.find row.id.text = some row := by rw [isRequest, here.found]
    cases approve with
    | false =>
        refine absurd promotes (same_users_promote db _ id ?_)
        rw [decide_eq io script db actorRole requestId decidedBy note false row here]
        exact save_request_users io row .rejected decidedBy note _ db self
    | true =>
        by_cases granted : GrantCommits io script.tail db
        · obtain ⟨_, asksAdmin, notYet⟩ :=
            (approve_promotes_iff io script db actorRole requestId decidedBy note row user here userFound granted id).mp
              promotes
          exact ⟨row, user, here, rfl, asksAdmin, userFound, notYet, granted⟩
        · rw [approve_refused io script db actorRole
            requestId decidedBy note row user here userFound granted] at promotes
          exact absurd promotes (same_users_promote db db id rfl)
  · rw [decide_refused io script db actorRole requestId decidedBy note approve decides] at promotes
    exact absurd promotes (same_users_promote db db id rfl)

end Decide

theorem moved_promotes (may : String → AccountEvent → Prop) (before after : Db) (moved : Db.Moved may before after)
    (id : String) (promotes : Promotes before after id) :
    ∃ event, may id event ∧ ((∃ state, event = .registered .admin state) ∨ ∃ oldRole,
      event = .roleGranted oldRole .admin) := by
  cases moved with
  | still drafts users outbox readable silent => exact absurd promotes (same_users_promote before after id users)
  | account other event allowed saved =>
      obtain ⟨promoted, notBefore⟩ := promotes
      by_cases same : id = other
      · subst same
        rw [saved.follows] at promoted
        refine ⟨event, allowed, ?_⟩
        cases event with
        | registered role state =>
            simp only [Account.follow, Option.map_some, Option.some.injEq] at promoted
            exact Or.inl ⟨state, by rw [promoted]⟩
        | roleGranted oldRole newRole =>
            obtain ⟨known, _, isAdmin⟩ := Option.map_eq_some_iff.mp promoted
            obtain ⟨former, _, rfl⟩ := Option.map_eq_some_iff.mp ‹_›
            exact Or.inr ⟨oldRole, by rw [← isAdmin]⟩
        | approved | rejected | banned | unbanned =>
            simp only [Account.follow, Option.map_map] at promoted
            exact absurd promoted notBefore
      · rw [saved.others id same] at promoted
        exact absurd promoted notBefore

theorem step_admin_by_admin (platform : Platform) (service : Service) (step : Step) :
    AdminByAdmin platform service step ↔ ¬ Escalates service step := by
  constructor
  · rintro rule ⟨token, requestId, note, io, script, row, user, issued, support, decides, asksAdmin, requester,
      notYet, granted⟩
    have promotes :=
      (approve_promotes_iff io script service.db token.role requestId token.userId note row user decides requester
      granted user.id.text).mpr ⟨rfl, asksAdmin, notYet⟩
    have isAdmin : token.role = .admin := by
      refine rule user.id.text ?_
      rw [Service.step, if_pos issued]
      exact promotes
    rw [support] at isAdmin
    cases isAdmin
  · intro harmless id promotes
    cases step with
    | issue userId =>
        refine absurd promotes (same_users_promote _ _ id ?_)
        simp only [Service.step]
        split <;> rfl
    | register email password displayName io script =>
        obtain ⟨event, ⟨_, isBasic⟩, kind⟩ := moved_promotes _ _ _
          (call_moves platform io service.db (.registerUser email password displayName) script) id promotes
        subst isBasic
        rcases kind with ⟨state, wrong⟩ | ⟨oldRole, wrong⟩ <;> cases wrong
    | act token command io script =>
        rw [Service.step] at promotes
        by_cases issued : token ∈ service.issued
        · rw [if_pos issued] at promotes
          obtain ⟨event, allowed, kind⟩ :=
            moved_promotes _ _ _ (call_moves platform io service.db (command.call token) script) id promotes
          cases command with
          | requestRole requestedRole => exact False.elim allowed
          | grantRole targetUserId newRole => exact allowed.2.1
          | approveRegistration targetUserId approve reason =>
              obtain ⟨_, isDecision⟩ := allowed
              cases approve <;> rcases kind with ⟨_, wrong⟩ | ⟨_, wrong⟩ <;> cases isDecision.symm.trans wrong
          | banUser targetUserId ban reason =>
              obtain ⟨_, isBan⟩ := allowed
              cases ban <;> rcases kind with ⟨_, wrong⟩ | ⟨_, wrong⟩ <;> cases isBan.symm.trans wrong
          | decideRoleRequest requestId approve note =>
              obtain ⟨row, user, decides, isApproval, asksAdmin, requester, notYet, granted⟩ :=
                decide_promotes io script service.db token.role requestId token.userId note approve id promotes
              subst isApproval
              rcases decides.staff with support | admin
              · exact absurd
                  (.approval token requestId note io script row user issued support decides asksAdmin requester notYet
                  granted) harmless
              · exact admin
        · rw [if_neg issued] at promotes
          exact absurd promotes (same_users_promote _ _ id rfl)

-- Nobody becomes ADMIN without an ADMIN, in exactly the runs that meet no escalation.
theorem admin_by_admin (platform : Platform) (service : Service) (steps : List Step) :
    (Machine.mk (Service.step platform) (AdminByAdmin platform)).Lawful service steps ↔
      (Machine.mk (Service.step platform) fun service step => ¬ Escalates service step).Lawful service steps :=
  Machine.lawful_congr _ _ _ (step_admin_by_admin platform) service steps

-- A database as the first boot leaves it: every account was made by register_super_admin.
structure Seeded (lower : Lower) (db : Db) : Prop where
  admins : ∀ row ∈ db.users.rows, ∃ freshId now email passwordHash displayName,
    toDomainUser row = (User.registerSuperAdmin lower freshId now email passwordHash displayName).settled
  noRequests : db.roleRequests.rows = []

def asciiPlatform : Platform where
  lower := fun text => String.ofList (text.toList.map Char.toLower)
  hasher := ⟨fun salt plain => salt ++ plain, fun plain hash => hash = "salt" ++ plain⟩

def seededRow : UserRow where
  id := ⟨"s1", by decide⟩
  email := ⟨"admin@arcadia.com", by decide⟩
  passwordHash := ⟨"saltadmin-password", by decide⟩
  displayName := ⟨"Super Admin", by decide⟩
  role := .admin
  state := .active
  createdAt := 0

def seededService : Service where
  db := {
    users := ⟨[seededRow], by decide⟩
    roleRequests := Table.empty
    outbox := Table.empty
    loginAudit := Table.empty
    uniqueEmail := by decide
    requesters := by decide }
  issued := []

-- The super admin steps down to SUPPORT, asks for ADMIN and approves that itself.
def escalation : List Step :=
  [.issue "s1",
    .act ⟨"s1", .admin⟩ (.grantRole "s1" .support) (ioAt ⟨"f0", by decide⟩ ⟨"o0", by decide⟩) [],
    .issue "s1",
    .act ⟨"s1", .support⟩ (.requestRole .admin) (ioAt ⟨"q1", by decide⟩ ⟨"e1", by decide⟩) [],
    .act ⟨"s1", .support⟩ (.decideRoleRequest "q1" true "") otherIo []]

theorem seeded_service : Seeded asciiPlatform.lower seededService.db where
  admins := by
    intro row member
    cases List.mem_singleton.mp member
    exact ⟨"s1", 0, "admin@arcadia.com", "saltadmin-password", "Super Admin", by decide⟩
  noRequests := rfl

theorem support_makes_admin :
    Seeded asciiPlatform.lower seededService.db ∧
      ¬ (Machine.mk (Service.step asciiPlatform) (AdminByAdmin asciiPlatform)).Lawful seededService escalation := by
  refine ⟨seeded_service, fun lawful => ?_⟩
  obtain ⟨_, _, _, _, last, _⟩ := lawful
  have promotes : Step.byAdmin (.act ⟨"s1", .support⟩ (.decideRoleRequest "q1" true "") _ _) :=
    last "s1" ⟨by decide, by decide⟩
  cases promotes

end AuthProfile
