import AuthProfile.Administration
import AuthProfile.Db.SaveCommit
import AuthProfile.Freshness
import AuthProfile.Rest.Exceptions
import AuthProfile.Rest.RoleAdminController

set_option autoImplicit false

namespace AuthProfile

open Relation Process UserRepository

theorem no_error_return {σ α β : Type} (p : Prog σ Error α) (f : α → β) (s : σ) :
    NoInternalError ((p >>= fun value => pure (f value)).exec [] s).result ↔ NoInternalError (p.exec [] s).result := by
  rw [Prog.exec_bind]
  obtain ⟨result, later, after⟩ := p.exec [] s
  cases result with
  | ok value => exact ⟨fun _ => no_error_ok value, fun _ => no_error_ok (f value)⟩
  | error exc => exact (no_error_client exc).trans (no_error_client exc).symm

section Account

variable (io : Surroundings) (targetUserId : String) (action : AdminAction) (db : Db)

-- PostgreSQL does not take the path, and nothing maps what it raises.
theorem refused_parameter {α β : Type} (parameters : List String) (view : Db → β) (rest : β → Prog Db Error α)
    (refused : ¬ Legal parameters) : ¬ NoInternalError ((select parameters view >>= rest).exec [] db).result := by
  rw [exec_select_refused parameters view rest db refused]
  exact fun answered => absurd ((no_error_client _).mp answered) unexpected_not_client

-- Deciding a registration, banning and granting end in a domain error or commit.
theorem administration_no_error_iff (allowed : action.allowed = .ok ()) (fresh : (io.rowId 0).text ∉ db.outbox.keys) :
    NoInternalError ((action.program io targetUserId).exec [] db).result ↔ Storable targetUserId := by
  have administers : action.program io targetUserId = administer io targetUserId action.change := by
    rw [AdminAction.program_eq, allowed]
    rfl
  rw [administers]
  by_cases storable : Storable targetUserId
  · refine iff_of_true ?_ storable
    cases found : db.users.find targetUserId with
    | none =>
        rw [administer_missing targetUserId io action.change db (legal_one targetUserId storable) found]
        exact no_error_domain _
    | some row =>
        cases run : action.change (toDomainUser row) with
        | error refused =>
            rw [administer_found targetUserId io action.change db row found, run]
            exact no_error_domain refused
        | ok changed =>
            obtain ⟨ready, isChanged⟩ := (change_ok_iff action row changed).mp run
            have isTarget : row.id.text = targetUserId := Table.find_key _ _ row found
            have self : db.users.find row.id.text = some row := isTarget ▸ found
            have shows : row.Shows changed.pullEvents.2 := ⟨by rw [isChanged]; rfl⟩
            obtain ⟨after, flushed⟩ := (account_commits io db row _ row.account (action.event row) shows self).mpr fresh
            have committed := (account_flush io db row _ row.account (action.event row) shows self after).mp flushed
            rw [merge_self, isChanged] at committed
            rw [← administers, administer_alone targetUserId ⟨io, action⟩ db after row allowed found ready committed]
            exact no_error_ok _
  · refine iff_of_false ?_ storable
    rw [administer, getUserById, bind_assoc]
    exact refused_parameter db [targetUserId] _ _ fun legal => storable (legal targetUserId List.mem_cons_self)

end Account

section Ask

variable (io : Surroundings) (db : Db) (row : UserRow) (requestedRole : Role)

-- The request of whoever asks is stored under its id, whether or not the id was drawn before.
theorem asked_taken (known : row.id.text ∈ db.users.keys) (fresh : (io.rowId 0).text ∉ db.outbox.keys) :
    db.TakesRequest io (RoleRequest.create io.freshId.text io.now row.id.text requestedRole) 1 := by
  refine ⟨⟨Varchar.takes_fits 36 _ row.id.fits, (fun _ member => nomatch member), (fun _ member => nomatch member)⟩, ?_,
    ?_, ?_⟩
  · rw [Db.requester]
    split
    · exact (Varchar.cut_text 36 row.id).symm ▸ known
    · rename_i old found
      exact db.requesters old (Table.find_mem _ _ old found)
  · intro n one
    cases Nat.lt_one_iff.mp one
    exact fresh
  · intro n m one single _
    rw [Nat.lt_one_iff.mp one, Nat.lt_one_iff.mp single]

theorem request_no_error (userId : String) (storable : Storable userId) (fresh : (io.rowId 0).text ∉ db.outbox.keys) :
    NoInternalError ((requestRole io userId requestedRole).exec [] db).result := by
  rw [requestRole, getUserById, bind_assoc, exec_select_alone _ _ _ _ (legal_one userId storable)]
  cases found : db.users.find userId with
  | none => exact no_error_domain _
  | some row =>
      have isUser : row.id.text = userId := Table.find_key _ _ row found
      subst isUser
      simp only [Option.map_some, pure_bind]
      split
      · exact no_error_domain _
      · have known : row.id.text ∈ db.users.keys := List.mem_map_of_mem (Table.find_mem _ _ row found)
        refine (no_error_return _ _ db).mpr ?_
        rw [save_role_request_runs io _ _ db io.freshId.fits (asked_taken io db row requestedRole known fresh)]
        exact no_error_ok ()

end Ask

section Decide

variable (io : Surroundings) (row : RoleRequestRow) (status : RoleRequestStatus) (decidedBy note : String) (db : Db)

-- decision_note is the column that does not take the note.
theorem note_refused (refused : ¬ Varchar.Takes 512 note) :
    (RoleRequestChanges.between row (decidedRequest row status decidedBy note)).apply row =
      .error (.data "decision_note") := by
  have different : some note ≠ row.decisionNote.map Varchar.text := by
    intro same
    obtain ⟨stored, _, isNote⟩ := Option.map_eq_some_iff.mp same.symm
    exact refused (isNote ▸ Varchar.takes_fits 512 _ stored.fits)
  have isChanged : changed (row.decisionNote.map Varchar.text) (some note) = some (some note) := if_neg different
  have raises : Varchar.changeOption 512 "decision_note" row.decisionNote (some (some note)) =
      .error (.data "decision_note") := by
    rw [Varchar.changeOption, Varchar.storeOption, Varchar.store, dif_neg refused]
    rfl
  simp only [RoleRequestChanges.apply, RoleRequestChanges.between, decidedRequest, isChanged, raises]
  rfl

theorem save_decided_iff (found : db.roleRequests.find row.id.text = some row) (decider : Varchar.Takes 36 decidedBy) :
    NoInternalError ((saveRoleRequest io (decidedRequest row status decidedBy note) []).exec [] db).result ↔
      Varchar.Takes 512 note := by
  rw [save_request_eq io row status decidedBy note [] db found rfl]
  by_cases taken : Varchar.Takes 512 note
  · obtain ⟨after, flushed⟩ := (request_commits io row status decidedBy note db found).mpr ⟨taken, decider⟩
    rw [commit_ok _ _ db after flushed]
    exact ⟨fun _ => taken, fun _ => no_error_ok ()⟩
  · have refused : db.write (roleRequestWrite (some row) (decidedRequest row status decidedBy note)) =
        .error (.data "decision_note") := by
      have isRow : db.roleRequests.find (decidedRequest row status decidedBy note).id = some row := found
      simp only [roleRequestWrite, Db.write, isRow, note_refused row status decidedBy note taken]
      rfl
    have flushed : Db.flush (roleRequestWrite (some row) (decidedRequest row status decidedBy note) ::
        (outboxDrafts io "RoleRequest" row.id.text []).map .insertOutbox) db = .error (.data "decision_note") := by
      rw [Db.flush, refused]
      rfl
    rw [commit_error _ _ db _ flushed]
    exact ⟨fun answered => absurd ((no_error_client _).mp answered) unexpected_not_client,
      fun takes => absurd takes taken⟩

variable (actorRole : Role) (requestId : String)

theorem decide_refusal (approve : Bool) (storable : Storable requestId)
    (refused : ¬ ∃ row, Decides [] db actorRole requestId row) :
    ∃ exc, ((decideRoleRequest io actorRole requestId approve decidedBy note).exec [] db).result =
      .error (.domain exc) := by
  by_cases staff : actorRole = .support ∨ actorRole = .admin
  · rw [decide_staff io actorRole requestId decidedBy note approve staff,
      exec_select_alone _ _ _ _ (legal_one requestId storable)]
    cases found : db.roleRequests.find requestId with
    | none => exact ⟨_, rfl⟩
    | some row =>
        have decided : row.status ≠ .pending := fun pending => refused ⟨row, staff, rfl, found, pending⟩
        dsimp only
        rw [decide_decided io decidedBy note approve row decided]
        exact ⟨_, rfl⟩
  · rw [decide_not_staff io actorRole requestId decidedBy note approve staff]
    exact ⟨_, rfl⟩

-- An approval whose note the column does not take fails behind its grant.
theorem decided_iff (approve : Bool) (row : RoleRequestRow) (decides : Decides [] db actorRole requestId row)
    (decider : Varchar.Takes 36 decidedBy) (fresh : (io.rowId 0).text ∉ db.outbox.keys) :
    NoInternalError ((decideRoleRequest io actorRole requestId approve decidedBy note).exec [] db).result ↔
      Varchar.Takes 512 note := by
  have isRequest : row.id.text = requestId := Table.find_key _ _ row decides.found
  have self : db.roleRequests.find row.id.text = some row := isRequest ▸ decides.found
  rw [decide_eq io [] db actorRole requestId decidedBy note approve row decides]
  cases approve with
  | false => exact save_decided_iff io row .rejected decidedBy note db self decider
  | true =>
      obtain ⟨user, userFound⟩ := requester_found db requestId row decides.found
      obtain ⟨between, granted, run⟩ :=
        grant_commits io (decidedRequest row .approved decidedBy note) decidedBy user [] db userFound
        ⟨rfl, rfl, by decide, fresh⟩
      have still : between.roleRequests.find row.id.text = some row := granted.roleRequests ▸ self
      rw [if_pos rfl, List.tail_nil, Prog.exec_bind, run]
      exact save_decided_iff io row .approved decidedBy note between still decider

theorem decide_no_error_iff (approve : Bool) (staff : actorRole = .support ∨ actorRole = .admin)
    (decider : Varchar.Takes 36 decidedBy) (fresh : (io.rowId 0).text ∉ db.outbox.keys) :
    NoInternalError ((decideRoleRequest io actorRole requestId approve decidedBy note).exec [] db).result ↔
      Storable requestId ∧ ∀ row, Decides [] db actorRole requestId row → Varchar.Takes 512 note := by
  by_cases storable : Storable requestId
  · rw [and_iff_right storable]
    by_cases decides : ∃ row, Decides [] db actorRole requestId row
    · obtain ⟨row, decides⟩ := decides
      have decided := decided_iff io decidedBy note db actorRole requestId approve row decides decider fresh
      exact ⟨fun answered _ _ => decided.mp answered, fun takes => decided.mpr (takes row decides)⟩
    · obtain ⟨exc, refusal⟩ := decide_refusal io decidedBy note db actorRole requestId approve storable decides
      rw [refusal]
      exact ⟨fun _ row wrong => absurd ⟨row, wrong⟩ decides, fun _ => no_error_domain exc⟩
  · refine iff_of_false ?_ fun both => storable both.1
    rw [decide_staff io actorRole requestId decidedBy note approve staff]
    exact refused_parameter db [requestId] _ _ fun legal => storable (legal requestId List.mem_cons_self)

end Decide

-- A token of the service names an account, with the role it had when the token was issued.
theorem current_user_of_token (provider : JwtTokenProvider) (documented : provider.jwt.Documented)
    (signed : List String)
    (now issuedAt : Time) (jti : Uuid) (row : UserRow) (scopes : Option (List String)) (claims : Claims)
    (valid : provider.decodeAccessToken signed now
      (provider.createAccessToken issuedAt jti row.id.text row.role.value scopes) = .ok claims) :
    getCurrentUser provider signed now (provider.createAccessToken issuedAt jti row.id.text row.role.value scopes) =
      .ok ⟨row.id.text, row.role⟩ := by
  obtain ⟨accepted, _⟩ := (provider.decode_ok_iff _ _ _ _ _).mp valid
  obtain ⟨_, isToken, _⟩ := documented.decoded _ _ _ _ _ _ accepted
  have minted := documented.injective isToken
  have named : Role.ofValue row.role.value = .ok row.role := by rw [Role.ofValue, role_parse_value]
  rw [getCurrentUser, valid, ← minted]
  change (Role.ofValue row.role.value >>= fun role => .ok (CurrentUser.mk row.id.text role)) = _
  rw [named]
  rfl

theorem named_role_iff {α : Type} (text : String) (rest : Role → Prog Db Error α) (db : Db) (answerable : Prop)
    (answered : ∀ role, NoInternalError ((rest role).exec [] db).result ↔ answerable) :
    NoInternalError ((Prog.ofExcept (Role.ofValue text) >>= rest).exec [] db).result ↔
      (Role.parse text).isSome = true ∧ answerable := by
  rw [Prog.exec_of_except_bind, Role.ofValue]
  cases Role.parse text with
  | none => exact ⟨fun answered => absurd ((no_error_client _).mp answered) unexpected_not_client,
      fun wrong => nomatch wrong.1⟩
  | some role => exact (answered role).trans (and_iff_right rfl).symm

theorem require_roles_allowed (allowed : List Role) (currentUser : CurrentUser)
    (isAllowed : currentUser.role ∈ allowed) :
    requireRoles allowed currentUser = .ok currentUser := if_neg (not_not.mpr isAllowed)

theorem require_roles_refused (allowed : List Role) (currentUser : CurrentUser) (refused : currentUser.role ∉ allowed) :
    ∃ detail, requireRoles allowed currentUser = .error (.http 403 detail) := ⟨_, if_pos refused⟩

namespace RoleAdminRequest

-- The role the request names exists, PostgreSQL takes the id in its path, and the column takes
-- the note it leaves on a request that is still pending.
def Answerable (db : Db) (role : Role) : RoleAdminRequest → Prop
  | .requestRole body => (Role.parse body.requestedRole).isSome = true
  | .decideRoleRequest requestId body =>
      role ∈ [Role.support, .admin] → Storable requestId ∧ ∀ row, db.roleRequests.find requestId = some row →
        row.status = .pending → Varchar.Takes 512 (RoleAdminController.orEmpty body.note)
  | .decideRegistration userId _ => role ∈ [Role.support, .admin] → Storable userId
  | .grantRole userId body => role = .admin → (Role.parse body.newRole).isSome = true ∧ Storable userId
  | .banUser userId _ => role ∈ [Role.support, .admin] → Storable userId
  | .unbanUser userId => role ∈ [Role.support, .admin] → Storable userId

section Route

variable (provider : JwtTokenProvider) (signed : List String) (io : Surroundings) (credentials : String)
    (currentUser : CurrentUser) (db : Db)

theorem unknown_role_run (body : RequestRoleRequest) (exc : Error)
    (unknown : Role.ofValue body.requestedRole = .error exc) :
    ((RoleAdminRequest.requestRole body).handler io currentUser).exec [] db = ⟨.error exc, [], db⟩ := by
  rw [handler, RoleAdminController.requestRole, unknown]
  rfl

theorem no_content_iff (handler : Prog Db Error Unit) :
    NoInternalError ((noContent handler).exec [] db).result ↔ NoInternalError (handler.exec [] db).result :=
  no_error_return handler (fun _ => none) db

theorem route_called (request : RoleAdminRequest)
    (called : getCurrentUser provider signed io.now credentials = .ok currentUser) :
    (request.route provider signed io credentials).exec [] db =
      (Prog.ofExcept (request.dependencies currentUser) >>= fun _ => request.handler io currentUser).exec [] db := by
  rw [route, Prog.exec_of_except_bind, called]

-- Behind require_roles only the roles it allows reach the handler, the others get its 403.
theorem route_behind (request : RoleAdminRequest) (allowed : List Role)
    (called : getCurrentUser provider signed io.now credentials = .ok currentUser)
    (behind : request.dependencies currentUser = requireRoles allowed currentUser) :
    NoInternalError ((request.route provider signed io credentials).exec [] db).result ↔
      (currentUser.role ∈ allowed → NoInternalError ((request.handler io currentUser).exec [] db).result) := by
  rw [route_called provider signed io credentials currentUser db request called, Prog.exec_of_except_bind, behind]
  by_cases isAllowed : currentUser.role ∈ allowed
  · rw [require_roles_allowed allowed currentUser isAllowed]
    exact ⟨fun answered _ => answered, fun answered => answered isAllowed⟩
  · obtain ⟨detail, refused⟩ := require_roles_refused allowed currentUser isAllowed
    rw [refused]
    refine ⟨fun _ wrong => absurd wrong isAllowed, fun _ => (no_error_client _).mpr ?_⟩
    simp [ErrorResponse.clientError, Error.response]

theorem handler_administers (fresh : (io.rowId 0).text ∉ db.outbox.keys) (request : RoleAdminRequest)
    (targetUserId : String)
    (action : AdminAction) (administers : request.handler io currentUser = noContent (action.program io targetUserId))
    (allowed : action.allowed = .ok ()) :
    NoInternalError ((request.handler io currentUser).exec [] db).result ↔ Storable targetUserId := by
  rw [administers, no_content_iff]
  exact administration_no_error_iff io targetUserId action db allowed fresh

-- For every database, every token of the service and every request: no internal error
-- exactly when it is answerable.
theorem no_internal_error_iff (documented : provider.jwt.Documented) (issuedAt : Time) (jti : Uuid) (row : UserRow)
    (scopes : Option (List String)) (claims : Claims)
    (valid : provider.decodeAccessToken signed io.now
      (provider.createAccessToken issuedAt jti row.id.text row.role.value scopes) = .ok claims)
    (fresh : (io.rowId 0).text ∉ db.outbox.keys) (request : RoleAdminRequest) :
    NoInternalError ((request.route provider signed io
      (provider.createAccessToken issuedAt jti row.id.text row.role.value scopes)).exec [] db).result ↔
        request.Answerable db row.role := by
  have called := current_user_of_token provider documented signed io.now issuedAt jti row scopes claims valid
  generalize provider.createAccessToken issuedAt jti row.id.text row.role.value scopes = token at called
  have behind := fun request allowed => route_behind provider signed io token
    ⟨row.id.text, row.role⟩ db request allowed called
  have administers := handler_administers io ⟨row.id.text, row.role⟩ db fresh
  have staffOf : row.role ∈ [Role.support, .admin] → row.role = .support ∨ row.role = .admin :=
    fun member => by simpa using member
  cases request with
  | requestRole body =>
      rw [route_called provider signed io token _ db _ called]
      refine (no_error_return _ some db).trans ?_
      refine (named_role_iff body.requestedRole _ db True fun requestedRole => ?_).trans (and_iff_left trivial)
      exact iff_of_true ((no_error_return _ _ db).mpr
        (request_no_error io db requestedRole row.id.text row.id.fits.2 fresh)) trivial
  | decideRoleRequest requestId body =>
      rw [behind _ [.support, .admin] rfl]
      refine imp_congr_right fun staff => (no_content_iff db _).trans ?_
      refine (decide_no_error_iff io row.id.text _ db row.role requestId body.approve (staffOf staff)
        (Varchar.takes_fits 36 _ row.id.fits) fresh).trans (and_congr_right fun _ => ?_)
      exact ⟨fun takes found isFound pending => takes found ⟨staffOf staff, rfl, isFound, pending⟩,
        fun takes found decides => takes found decides.found decides.pending⟩
  | decideRegistration userId body =>
      refine (behind _ [.support, .admin] rfl).trans (imp_congr_right fun staff => ?_)
      exact administers _ userId
        (.approveRegistration row.role body.approve row.id.text (RoleAdminController.orEmpty body.note)) rfl
        ((RolePolicy.assert_staff_ok _ row.role).mpr (staffOf staff))
  | grantRole userId body =>
      rw [behind _ [.admin] rfl, List.mem_singleton]
      refine imp_congr_right fun isAdmin => (no_content_iff db _).trans ?_
      have isAdmin : row.role = .admin := isAdmin
      refine named_role_iff body.newRole _ db (Storable userId) fun newRole => ?_
      refine administration_no_error_iff io userId (.grantRole row.role newRole row.id.text) db ?_ fresh
      rw [isAdmin]
      rfl
  | banUser userId body =>
      refine (behind _ [.support, .admin] rfl).trans (imp_congr_right fun staff => ?_)
      exact administers _ userId (.banUser row.role true row.id.text (RoleAdminController.orEmpty body.reason)) rfl
        ((RolePolicy.assert_staff_ok _ row.role).mpr (staffOf staff))
  | unbanUser userId =>
      refine (behind _ [.support, .admin] rfl).trans (imp_congr_right fun staff => ?_)
      exact administers _ userId (.banUser row.role false row.id.text "") rfl
        ((RolePolicy.assert_staff_ok _ row.role).mpr (staffOf staff))

end Route

end RoleAdminRequest

-- A minute after the super admin logged in.
def minuteLater : Surroundings := { otherIo with now := 60 }

def minuteLaterIssued : List String := ((sessionMachine samplePlatform).replay sampleState [sampleLogin]).issued

theorem minute_later_fresh : (minuteLater.rowId 0).text ∉ seededService.db.outbox.keys := by decide

theorem grant_answerable :
    NoInternalError ((RoleAdminRequest.route samplePlatform.provider minuteLaterIssued minuteLater sampleAccess
      (.grantRole "s1" ⟨"SUPPORT"⟩)).exec [] seededService.db).result ↔
      RoleAdminRequest.Answerable seededService.db .admin (.grantRole "s1" ⟨"SUPPORT"⟩) :=
  RoleAdminRequest.no_internal_error_iff samplePlatform.provider minuteLaterIssued minuteLater seededService.db
    PyJwt.json_documented 0 sampleLogin.accessJti seededRow none sampleAccessClaims sample_accepted minute_later_fresh _

theorem moderator_unknown : Role.ofValue "MODERATOR" = .error (.notAMember "Role" "MODERATOR") := by
  have noRole : Role.parse "MODERATOR" = none := by decide
  rw [Role.ofValue, noRole]

-- The super admin asks for a role that does not exist.
theorem unknown_role_is_internal :
    samplePlatform.provider.decodeAccessToken minuteLaterIssued 60 sampleAccess = .ok sampleAccessClaims ∧
      (minuteLater.rowId 0).text ∉ seededService.db.outbox.keys ∧
      ∃ exc, ((RoleAdminRequest.route samplePlatform.provider minuteLaterIssued minuteLater sampleAccess
        (.requestRole ⟨"MODERATOR"⟩)).exec [] seededService.db).result = .error exc ∧
          exc.response = handleUnexpectedError := by
  have called : getCurrentUser samplePlatform.provider minuteLaterIssued minuteLater.now sampleAccess =
      .ok ⟨"s1", .admin⟩ :=
    current_user_of_token samplePlatform.provider PyJwt.json_documented minuteLaterIssued 60 0 sampleLogin.accessJti
      seededRow none
      sampleAccessClaims sample_accepted
  have run := RoleAdminRequest.route_called samplePlatform.provider minuteLaterIssued minuteLater sampleAccess
    ⟨"s1", .admin⟩ seededService.db
    (.requestRole ⟨"MODERATOR"⟩) called
  have refused := RoleAdminRequest.unknown_role_run minuteLater ⟨"s1", .admin⟩ seededService.db
    ⟨"MODERATOR"⟩ _ moderator_unknown
  exact ⟨sample_accepted, minute_later_fresh, _,
    (congrArg Outcome.result run).trans (congrArg Outcome.result refused), rfl⟩

end AuthProfile
