import AuthProfile.Process.Keeps
import AuthProfile.Sessions

set_option autoImplicit false

namespace AuthProfile

open Relation Process UserRepository

-- uuid4 never answers with an empty text.
structure Surroundings.Minted (io : Surroundings) : Prop where
  fresh : io.freshId.text ≠ ""
  rows : ∀ n, (io.rowId n).text ≠ ""

-- What a row of the outbox has to hold for its envelope to be one.
structure OutboxDraft.Announces (draft : OutboxDraft) : Prop where
  id : draft.id ≠ ""
  aggregateType : draft.aggregateType ≠ ""
  aggregateId : draft.aggregateId ≠ ""
  event : ∃ event : DomainEvent, draft.eventType = event.eventType ∧ draft.payload = Json.dumps event.toPayload

namespace Db

-- Nobody is without an id, and every row of the outbox announces an event.
structure Announcing (db : Db) : Prop where
  users : ∀ id ∈ db.users.keys, id ≠ ""
  roleRequests : ∀ id ∈ db.roleRequests.keys, id ≠ ""
  outbox : ∀ row ∈ db.outbox.rows, row.draft.Announces

end Db

def Write.Named : Write → Prop
  | .insertUser user => user.id ≠ ""
  | .insertRoleRequest request => request.id ≠ ""
  | .insertOutbox draft => draft.Announces
  | _ => True

theorem drafts_named (io : Surroundings) (minted : io.Minted) (aggregateType aggregateId : String)
    (events : List DomainEvent) (isType : aggregateType ≠ "") (isId : aggregateId ≠ "") (write : Write)
    (member : write ∈ (outboxDrafts io aggregateType aggregateId events).map .insertOutbox) : write.Named := by
  obtain ⟨draft, isDraft, rfl⟩ := List.mem_map.mp member
  obtain ⟨⟨event, n⟩, _, rfl⟩ := List.mem_map.mp isDraft
  exact ⟨minted.rows n, isType, isId, event, rfl, rfl⟩

theorem settled_announces (draft : OutboxDraft) (announces : draft.Announces) : draft.settled.Announces := by
  obtain ⟨id, aggregateType, aggregateId, event, isType, payload⟩ := announces
  refine ⟨Varchar.cut_not_empty 36 _ (by decide) id, Varchar.cut_not_empty 64 _ (by decide) aggregateType,
    Varchar.cut_not_empty 36 _ (by decide) aggregateId, event, ?_, payload⟩
  rw [OutboxDraft.settled, isType]
  exact Varchar.cut_short 128 event.eventType (event_type_kept event).1

section Writes

variable (db after : Db)

theorem insert_keys {ρ : Type} [Keyed ρ String] (row : ρ) (table table' : Table ρ)
    (inserted : table.insert row = some table')
    (named : ∀ id ∈ table.keys, id ≠ "") (isNamed : key row ≠ "") : ∀ id ∈ table'.keys, id ≠ "" := by
  intro id member
  rcases (Table.mem_keys_inserted row table table' inserted id).mp member with old | rfl
  · exact named id old
  · exact isNamed

theorem write_announcing (write : Write) (named : write.Named) (run : db.write write = .ok after)
    (announcing : db.Announcing) :
    after.Announcing := by
  obtain ⟨users, roleRequests, outbox⟩ := announcing
  cases Db.write_written write db after run with
  | userKept _ _ same => exact same ▸ ⟨users, roleRequests, outbox⟩
  | requestKept _ _ same => exact same ▸ ⟨users, roleRequests, outbox⟩
  | userInserted user row taken settled added sameRequests sameOutbox =>
      have isId : key row = Varchar.cut 36 user.id := congrArg User.id settled
      exact ⟨insert_keys row _ _ added users (isId ▸ Varchar.cut_not_empty 36 user.id (by decide) named),
        sameRequests ▸ roleRequests, sameOutbox ▸ outbox⟩
  | userUpdated id changes old row found applied sameUsers sameRequests sameOutbox =>
      exact ⟨by rw [sameUsers, Table.keys_replace]; exact users, sameRequests ▸ roleRequests, sameOutbox ▸ outbox⟩
  | requestInserted request row same sameUsers added sameOutbox =>
      have isId : key row = Varchar.cut 36 request.id := congrArg RoleRequest.id same
      exact ⟨sameUsers ▸ users, insert_keys row _ _ added roleRequests
        (isId ▸ Varchar.cut_not_empty 36 request.id (by decide) named), sameOutbox ▸ outbox⟩
  | requestUpdated id changes row sameUsers replaced sameOutbox =>
      exact ⟨sameUsers ▸ users, by rw [replaced, Table.keys_replace]; exact roleRequests, sameOutbox ▸ outbox⟩
  | outboxInserted draft row isDraft unsent sameUsers sameRequests added =>
      refine ⟨sameUsers ▸ users, sameRequests ▸ roleRequests, fun other member => ?_⟩
      rw [((Table.insert_some_iff row _ _).mp added).2, List.mem_append] at member
      rcases member with old | new
      · exact outbox other old
      · rw [List.mem_singleton.mp new, isDraft]
        exact settled_announces draft named
  | auditInserted draft sameUsers sameRequests sameOutbox =>
      exact ⟨sameUsers ▸ users, sameRequests ▸ roleRequests, sameOutbox ▸ outbox⟩

theorem flush_announcing (writes : List Write) (named : ∀ write ∈ writes, write.Named)
    (run : Db.flush writes db = .ok after) (announcing : db.Announcing) : after.Announcing :=
  Db.flush_keeps Db.Announcing Write.Named
    (fun one db after => write_announcing db after one) writes db after named run announcing

end Writes

section Programs

variable (io : Surroundings) (minted : io.Minted)

theorem commit_announcing (writes : List Write) (named : ∀ write ∈ writes, write.Named) :
    (commit writes).Keeps Db.Announcing := by
  refine Prog.keeps_atomic _ _ _ fun db answer after announcing run => ?_
  cases flushed : Db.flush writes db with
  | error error =>
      rw [flushed] at run
      cases run
  | ok next =>
      rw [flushed] at run
      cases run
      exact flush_announcing db _ writes named flushed announcing

theorem login_audit_announcing (userId : Option String) (ip : String) (success : Bool) :
    (recordLoginAudit io userId ip success).Keeps Db.Announcing := by
  refine commit_announcing _ fun write member => ?_
  rw [List.mem_singleton.mp member]
  trivial

theorem get_user_by_id_announcing {α : Type} (userId : String) (rest : Option User → Prog Db Error α)
    (missing : (rest none).Keeps Db.Announcing)
    (found : ∀ user : User, user.id ≠ "" → (rest (some user)).Keeps Db.Announcing) :
    (getUserById userId >>= rest).Keeps Db.Announcing := by
  rw [getUserById, bind_assoc]
  refine keeps_select_bind _ _ _ _ fun db announcing => ?_
  cases isRow : db.users.find userId with
  | none => exact missing
  | some row =>
      exact found (toDomainUser row) (announcing.users _ (List.mem_map_of_mem (Table.find_mem userId _ row isRow)))

theorem get_user_by_email_announcing {α : Type} (email : String) (rest : Option User → Prog Db Error α)
    (later : ∀ found, (rest found).Keeps Db.Announcing) : (getUserByEmail email >>= rest).Keeps Db.Announcing := by
  rw [getUserByEmail, bind_assoc]
  exact keeps_select_bind _ _ _ _ fun db _ => later _

theorem lift_domain_announcing {α β : Type} (answer : Except DomainError α) (rest : α → Prog Db Error β)
    (later : ∀ value, answer = .ok value → (rest value).Keeps Db.Announcing) :
    (liftDomain answer >>= rest).Keeps Db.Announcing := by
  cases answer with
  | error error => trivial
  | ok value => exact later value rfl

theorem login_announcing (lower : Lower) (hasher : PasswordHasher) (signer : Signer) (email password ip : String) :
    (login lower hasher io signer email password ip).Keeps Db.Announcing := by
  refine get_user_by_email_announcing _ _ fun found => ?_
  cases found with
  | none => exact Prog.keeps_bind _ _ _ (login_audit_announcing io none ip false) fun _ => trivial
  | some user =>
      dsimp only
      split
      · exact Prog.keeps_bind _ _ _ (login_audit_announcing io _ ip false) fun _ => trivial
      · split
        · exact Prog.keeps_bind _ _ _ (login_audit_announcing io _ ip false) fun _ => trivial
        · exact Prog.keeps_bind _ _ _ (login_audit_announcing io _ ip true) fun _ => trivial

include minted

theorem save_user_announcing (user : User) (events : List DomainEvent) (named : user.id ≠ "") :
    (saveUser io user events).Keeps Db.Announcing := by
  refine keeps_select_bind _ _ _ _ fun db _ => commit_announcing _ fun write member => ?_
  rcases List.mem_cons.mp member with isUser | isDraft
  · rw [isUser]
    cases db.users.find user.id with
    | none => exact named
    | some row => trivial
  · exact drafts_named io minted "User" user.id events (by decide) named write isDraft

theorem save_role_request_announcing (request : RoleRequest) (events : List DomainEvent) (named : request.id ≠ "") :
    (saveRoleRequest io request events).Keeps Db.Announcing := by
  refine keeps_select_bind _ _ _ _ fun db _ => commit_announcing _ fun write member => ?_
  rcases List.mem_cons.mp member with isRequest | isDraft
  · rw [isRequest]
    cases db.roleRequests.find request.id with
    | none => exact named
    | some row => trivial
  · exact drafts_named io minted "RoleRequest" request.id events (by decide) named write isDraft

theorem administer_announcing (targetUserId : String) (change : User → Except DomainError User)
    (sameId : ∀ user changed, change user = .ok changed → changed.id = user.id) :
    (administer io targetUserId change).Keeps Db.Announcing := by
  refine get_user_by_id_announcing targetUserId _ trivial fun user named => lift_domain_announcing _ _
    fun changed run => ?_
  exact save_user_announcing io minted _ _ (show changed.id ≠ "" from sameId user changed run ▸ named)

theorem grant_requested_announcing (request : RoleRequest) (decidedBy : String) :
    (grantRequested io request decidedBy).Keeps Db.Announcing :=
  get_user_by_id_announcing request.userId _ trivial fun _ named => save_user_announcing io minted _ _ named

theorem decide_found_announcing (request : RoleRequest) (approve : Bool) (decidedBy note : String)
    (named : request.id ≠ "") :
    (decideFound io request approve decidedBy note).Keeps Db.Announcing := by
  have stillNamed : ∀ status decided, request.decide status decidedBy note = .ok decided → decided.id ≠ "" := by
    intro status decided run
    rw [(role_request_decide_ok request decided status decidedBy note run).2]
    exact named
  cases approve with
  | false =>
      exact lift_domain_announcing _ _ fun decided run =>
        save_role_request_announcing io minted _ _ (stillNamed _ decided run)
  | true =>
      refine lift_domain_announcing _ _ fun decided run => ?_
      exact Prog.keeps_bind _ _ _ (grant_requested_announcing io minted decided decidedBy) fun _ =>
        save_role_request_announcing io minted _ _ (stillNamed _ decided run)

theorem decide_role_request_announcing (actorRole : Role) (requestId : String) (approve : Bool)
    (decidedBy note : String) :
    (decideRoleRequest io actorRole requestId approve decidedBy note).Keeps Db.Announcing := by
  refine lift_domain_announcing _ _ fun _ _ => ?_
  rw [getRoleRequestById, bind_assoc]
  refine keeps_select_bind _ _ _ _ fun db announcing => ?_
  cases found : db.roleRequests.find requestId with
  | none => trivial
  | some row =>
      have named := announcing.roleRequests _ (List.mem_map_of_mem (Table.find_mem requestId _ row found))
      exact decide_found_announcing io minted (toDomainRoleRequest row) approve decidedBy note named

theorem call_announcing (platform : Platform) (call : Call) : (call.program platform io).Keeps Db.Announcing := by
  cases call with
  | registerUser email password displayName =>
      refine Prog.keeps_bind _ _ _ (get_user_by_email_announcing _ _ fun found => ?_) fun _ => trivial
      cases found with
      | some user => trivial
      | none => exact Prog.keeps_bind _ _ _ (save_user_announcing io minted _ _ minted.fresh) fun _ => trivial
  | seedSuperAdmin email password displayName =>
      refine get_user_by_email_announcing _ _ fun found => ?_
      cases found with
      | some user => trivial
      | none => exact save_user_announcing io minted _ _ minted.fresh
  | approveRegistration actorRole targetUserId approve decidedBy reason =>
      refine lift_domain_announcing _ _ fun _ _ => administer_announcing io minted targetUserId _
        fun user changed run => ?_
      cases approve with
      | true => exact (approve_registration_raises user changed decidedBy run).id
      | false => exact (reject_registration_raises user changed decidedBy reason run).id
  | banUser actorRole targetUserId ban actorId reason =>
      refine lift_domain_announcing _ _ fun _ _ => administer_announcing io minted targetUserId _
        fun user changed run => ?_
      cases ban with
      | true => exact (ban_raises user changed actorId reason run).id
      | false => exact (unban_raises user changed actorId run).id
  | grantRole actorRole targetUserId newRole grantedBy =>
      refine lift_domain_announcing _ _ fun _ _ => administer_announcing io minted targetUserId _
        fun user changed run => ?_
      cases run
      exact (change_role_raises user newRole grantedBy).id
  | requestRole userId requestedRole =>
      refine Prog.keeps_bind _ _ _ (get_user_by_id_announcing userId _ trivial fun user _ => ?_) fun _ => trivial
      dsimp only
      split
      · trivial
      · exact Prog.keeps_bind _ _ _ (save_role_request_announcing io minted _ _ minted.fresh) fun _ => trivial
  | decideRoleRequest actorRole requestId approve decidedBy note =>
      exact decide_role_request_announcing io minted actorRole requestId approve decidedBy note

end Programs

namespace Stores

def Announcing (stores : Stores) : Prop := stores.db.Announcing

end Stores

section Sessions

variable (io : Surroundings) (minted : io.Minted)

theorem on_db_announcing {α : Type} (p : Prog Db Error α) (kept : p.Keeps Db.Announcing) :
    (p.focus Stores.onDb).Keeps Stores.Announcing :=
  Prog.keeps_focus Db.Announcing Stores.onDb Stores.Announcing (fun _ announcing => announcing)
    (fun _ _ _ announcing => announcing) p kept

theorem on_redis_announcing {α : Type} (p : Prog Redis Error α) : (p.focus Stores.onRedis).Keeps Stores.Announcing :=
  Prog.keeps_focus (fun _ => True) Stores.onRedis Stores.Announcing (fun _ _ => trivial)
    (fun _ _ announcing _ => announcing) p
    (Prog.keeps_always _ (fun _ => trivial) p)

theorem refresh_announcing (now : Time) (signer : Signer) (refreshToken : String) :
    (refresh now signer refreshToken).Keeps Stores.Announcing := by
  rw [refresh]
  split
  · trivial
  · refine Prog.keeps_bind _ _ _ (on_redis_announcing _) fun revoked => ?_
    split
    · trivial
    · split
      · trivial
      · refine Prog.keeps_bind _ _ _ (on_db_announcing _ (keeps_select_bind _ _ _ _ fun _ _ => trivial)) fun found => ?_
        split
        · trivial
        · split <;> trivial

include minted

theorem session_announcing (platform : SessionPlatform) (signer : Signer) (call : SessionCall) :
    (call.program platform io signer).Keeps Stores.Announcing := by
  cases call with
  | login email password ip =>
      refine Prog.keeps_bind _ _ _ (on_db_announcing _ ?_) fun _ => trivial
      exact login_announcing io platform.lower platform.hasher signer email password ip
  | refresh refreshToken => exact Prog.keeps_bind _ _ _ (refresh_announcing io.now signer refreshToken) fun _ => trivial
  | logout refreshToken => exact Prog.keeps_bind _ _ _ (on_redis_announcing _) fun _ => trivial
  | account call =>
      exact Prog.keeps_bind _ _ _ (on_db_announcing _ (call_announcing io minted platform.toPlatform call))
        fun _ => trivial

end Sessions

end AuthProfile
