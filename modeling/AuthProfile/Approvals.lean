import AuthProfile.Escalation
import AuthProfile.Race
import AuthProfile.Seeding

set_option autoImplicit false

namespace AuthProfile

open Relation Process UserRepository

-- A committed RoleGranted row that tells a change of role its user could have asked for then.
def GrantedByPolicy (before after : Db) (granted : OutboxRow) : Prop :=
  ∃ oldRole newRole, granted.draft.accountEvent = some (.roleGranted oldRole newRole) ∧
    (before.account granted.aggregateId.text).map Account.role = some oldRole ∧
    (after.account granted.aggregateId.text).map Account.role = some newRole ∧
      RolePolicy.canRequest oldRole newRole = true

def Call.Approves : Call → Prop
  | .decideRoleRequest _ _ approve _ _ => approve = true
  | _ => False

def RespectsPolicy (platform : Platform) (db : Db) (invocation : Invocation) : Prop :=
  invocation.call.Approves → ∀ granted ∈ grantRows db (invocation.outcome platform db).store,
    GrantedByPolicy db (invocation.outcome platform db).store granted

-- A pending request that its user could no longer file is approved, and nothing keeps the
-- grant from being committed.
inductive ApprovesStale (db : Db) : Invocation → Prop where
  | approval (actorRole : Role) (requestId decidedBy note : String) (io : Surroundings) (script : List Fault)
      (row : RoleRequestRow) (user : UserRow) (decides : Decides script db actorRole requestId row)
      (requester : db.users.find row.userId.text = some user)
        (stale : RolePolicy.canRequest user.role row.requestedRole = false)
      (granted : GrantCommits io script.tail db) :
      ApprovesStale db ⟨.decideRoleRequest actorRole requestId true decidedBy note, io, script⟩

theorem save_request_outbox (io : Surroundings) (row : RoleRequestRow) (status : RoleRequestStatus)
    (decidedBy note : String) (script : List Fault) (db : Db) (found : db.roleRequests.find row.id.text = some row) :
    ((saveRoleRequest io (decidedRequest row status decidedBy note) []).exec script db).store.outbox = db.outbox := by
  by_cases commits : RequestCommits script decidedBy note
  · exact (save_request_commits io row status decidedBy note script db found commits).outbox
  · rw [save_request_refused io row status decidedBy note script db found commits]

theorem grant_row_tells (io : Surroundings) (user : UserRow) (request : RoleRequest) (decidedBy : String) :
    (eventRow io user.id (grantEvent user request decidedBy)).draft.accountEvent =
      some (.roleGranted user.role request.requestedRole) := by
  have told : (eventRow io user.id (grantEvent user request decidedBy)).draft.accountEvent =
      (grantEvent user request decidedBy).accountEvent :=
    draft_account_event _ _ rfl rfl
  rw [told, grantEvent]
  simp [DomainEvent.accountEvent, role_parse_value]

section Approval

variable (io : Surroundings) (script : List Fault) (db : Db) (actorRole : Role) (requestId decidedBy note : String)

theorem approve_grant_rows (row : RoleRequestRow) (user : UserRow) (decides : Decides script db actorRole requestId row)
    (userFound : db.users.find row.userId.text = some user) (granted : GrantCommits io script.tail db) :
    grantRows db ((decideRoleRequest io actorRole requestId true decidedBy note).exec script db).store =
      [eventRow io user.id (grantEvent user (toDomainRoleRequest row) decidedBy)] := by
  have isRequest : row.id.text = requestId := Table.find_key _ _ row decides.found
  obtain ⟨between, committed, store⟩ :=
    approve_granted io script db actorRole requestId decidedBy note row user decides userFound granted
  have outbox : ((decideRoleRequest io actorRole requestId true decidedBy note).exec script db).store.outbox =
      between.outbox := by
    rw [store]
    split
    · have still : between.roleRequests.find row.id.text = some row := by
        rw [committed.roleRequests, isRequest, decides.found]
      exact save_request_outbox io row .approved decidedBy note _ between still
    · rfl
  rw [grantRows, outbox, ((Table.insert_some_iff _ _ _).mp committed.outbox).2, List.drop_left]
  rfl

theorem grant_rows_same (after : Db) (outbox : after.outbox = db.outbox) : grantRows db after = [] := by
  rw [grantRows, outbox, List.drop_length, List.filter_nil]

theorem approve_by_policy_iff (row : RoleRequestRow) (user : UserRow)
    (decides : Decides script db actorRole requestId row)
    (userFound : db.users.find row.userId.text = some user) (granted : GrantCommits io script.tail db) :
    GrantedByPolicy db ((decideRoleRequest io actorRole requestId true decidedBy note).exec script db).store
        (eventRow io user.id (grantEvent user (toDomainRoleRequest row) decidedBy)) ↔
      RolePolicy.canRequest user.role row.requestedRole = true := by
  have isUser : user.id.text = row.userId.text := Table.find_key _ _ user userFound
  have self : db.users.find user.id.text = some user := by rw [isUser, userFound]
  have before : db.account user.id.text = some user.account := by rw [Db.account, self, Option.map_some]
  have after := account_replace user ⟨row.requestedRole, user.state⟩ db _ self
    (approve_users io script db actorRole requestId decidedBy note row user decides userFound granted) user.id.text
  have aggregate : (eventRow io user.id (grantEvent user (toDomainRoleRequest row) decidedBy)).aggregateId = user.id :=
    rfl
  have requested : (toDomainRoleRequest row).requestedRole = row.requestedRole := rfl
  rw [if_pos rfl] at after
  rw [GrantedByPolicy, grant_row_tells, aggregate, before, after, requested]
  constructor
  · rintro ⟨oldRole, newRole, tells, _, _, allowed⟩
    cases tells
    exact allowed
  · intro allowed
    exact ⟨_, _, rfl, rfl, rfl, allowed⟩

theorem approve_respects_iff :
    (∀ granted ∈ grantRows db ((decideRoleRequest io actorRole requestId true decidedBy note).exec script db).store,
        GrantedByPolicy db
          ((decideRoleRequest io actorRole requestId true decidedBy note).exec script db).store granted) ↔
      ¬ ApprovesStale db ⟨.decideRoleRequest actorRole requestId true decidedBy note, io, script⟩ := by
  constructor
  · rintro respects ⟨_, _, _, _, _, _, row, user, decides, requester, stale, granted⟩
    have allowed := respects _ (by
      rw [approve_grant_rows io script db actorRole requestId decidedBy note row user decides requester granted]
      exact List.mem_singleton_self _)
    rw [approve_by_policy_iff io script db actorRole requestId decidedBy note row user decides requester granted,
      stale] at allowed
    cases allowed
  · intro fresh grantedRow member
    by_cases decides : ∃ row, Decides script db actorRole requestId row
    · obtain ⟨row, here⟩ := decides
      obtain ⟨user, userFound⟩ := requester_found db requestId row here.found
      by_cases granted : GrantCommits io script.tail db
      · rw [approve_grant_rows io script db actorRole requestId decidedBy note row user here userFound granted,
          List.mem_singleton] at member
        rw [member, approve_by_policy_iff io script db actorRole requestId decidedBy note row user here
          userFound granted]
        by_contra refused
        exact fresh (.approval actorRole requestId decidedBy note io script row user here userFound
          (Bool.not_eq_true _ ▸ refused) granted)
      · rw [approve_refused io script db actorRole requestId decidedBy note row user here userFound granted,
          grant_rows_same db db rfl] at member
        cases member
    · rw [decide_refused io script db actorRole requestId decidedBy note true decides,
        grant_rows_same db db rfl] at member
      cases member

end Approval

theorem step_respects_iff (platform : Platform) (db : Db) (invocation : Invocation) :
    RespectsPolicy platform db invocation ↔ ¬ ApprovesStale db invocation := by
  obtain ⟨call, io, script⟩ := invocation
  have other : ¬ call.Approves →
      (RespectsPolicy platform db ⟨call, io, script⟩ ↔ ¬ ApprovesStale db ⟨call, io, script⟩) := by
    intro notApproval
    refine iff_of_true (fun approves => absurd approves notApproval) ?_
    rintro ⟨⟩
    exact notApproval rfl
  cases call with
  | decideRoleRequest actorRole requestId approve decidedBy note =>
      cases approve with
      | true => exact (forall_prop_of_true rfl).trans (approve_respects_iff io script db actorRole requestId
          decidedBy note)
      | false => exact other Bool.false_ne_true
  | _ => exact other id

def callMachine (platform : Platform) (legal : Db → Invocation → Prop) : Machine Db Invocation :=
  ⟨fun db invocation => (invocation.outcome platform db).store, legal⟩

-- Every grant that an approval commits was one its user could ask for at that moment, in
-- exactly the runs that approve no stale request.
theorem approvals_respect_policy (platform : Platform) (db : Db) (invocations : List Invocation) :
    (callMachine platform (RespectsPolicy platform)).Lawful db invocations ↔
      (callMachine platform fun db invocation => ¬ ApprovesStale db invocation).Lawful db invocations :=
  Machine.lawful_congr _ _ _ (step_respects_iff platform) db invocations

-- Bob is made a DEVELOPER, asks for ADMIN and is made a BASIC_USER again.
def bobAsks : List Invocation :=
  [⟨.registerUser "bob@arcadia.com" "password" "Bob", sampleIo, []⟩,
    ⟨.grantRole .admin "f1" .developer "s1", otherIo, []⟩,
    ⟨.requestRole "f1" .admin, ioAt ⟨"ask", by decide⟩ ⟨"ask-row", by decide⟩, []⟩,
    ⟨.grantRole .admin "f1" .basicUser "s1", ioAt ⟨"demote", by decide⟩ ⟨"demote-row", by decide⟩, []⟩]

def bobApproved : Invocation :=
  ⟨.decideRoleRequest .support "ask" true "s2" "", ioAt ⟨"grant", by decide⟩ ⟨"grant-row", by decide⟩, []⟩

def bobDemoted : Db := runCalls bcryptPlatform.toPlatform bobAsks Db.empty

theorem bob_request :
    (bobDemoted.roleRequests.find "ask").map (fun row => (row.status, row.userId.text, row.requestedRole)) =
    some (.pending, "f1", .admin) := by
  decide +kernel

theorem bob_basic : (bobDemoted.users.find "f1").map UserRow.role = some .basicUser := by
  decide +kernel

theorem bob_grant_commits : GrantCommits bobApproved.io bobApproved.script.tail bobDemoted := by
  decide +kernel

theorem bob_stale : ApprovesStale bobDemoted bobApproved := by
  obtain ⟨row, found, isRequest⟩ := Option.map_eq_some_iff.mp bob_request
  obtain ⟨user, userFound, isBasic⟩ := Option.map_eq_some_iff.mp bob_basic
  simp only [Prod.mk.injEq] at isRequest
  obtain ⟨pending, isBob, asksAdmin⟩ := isRequest
  refine .approval _ _ _ _ _ _ row user ⟨Or.inl rfl, rfl, found, pending⟩ (isBob ▸ userFound) ?_ bob_grant_commits
  rw [isBasic, asksAdmin]
  rfl

-- No BASIC_USER may ask for ADMIN, and the approval makes one of Bob.
theorem demoted_bob_becomes_admin :
    ¬ (callMachine bcryptPlatform.toPlatform (RespectsPolicy bcryptPlatform.toPlatform)).Lawful Db.empty
      (bobAsks ++ [bobApproved]) := by
  rw [Machine.lawful_snoc]
  intro ⟨_, respects⟩
  exact (step_respects_iff _ _ _).mp respects bob_stale

end AuthProfile
