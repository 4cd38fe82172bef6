import AuthProfile.Announcements
import AuthProfile.CallSteps
import AuthProfile.Credentials
import AuthProfile.Harmless
import AuthProfile.Rest.AuthController
import AuthProfile.Rest.RoleAdminController

set_option autoImplicit false

-- Accounts and their announcements: whose registration the outbox tells of.
namespace AuthProfile

open Relation Process UserRepository

-- The account and the display name of a registration.
def DomainEvent.enrols : DomainEvent → Option (String × String)
  | .userRegistered userId _ displayName _ _ => some (userId, displayName)
  | _ => none

-- The draft of an event.
def OutboxDraft.Tells (draft : OutboxDraft) (event : DomainEvent) : Prop :=
  ∃ id aggregateType aggregateId createdAt, id ≠ "" ∧
    draft = ⟨id, aggregateType, aggregateId, "user-events", event.eventType, Json.dumps event.toPayload, createdAt⟩

theorem tells_settled (draft : OutboxDraft) (event : DomainEvent) (tells : draft.Tells event) :
    draft.settled.Tells event := by
  obtain ⟨id, aggregateType, aggregateId, createdAt, hasId, rfl⟩ := tells
  refine ⟨Varchar.cut 36 id, Varchar.cut 64 aggregateType, Varchar.cut 36 aggregateId, createdAt,
    Varchar.cut_not_empty 36 id (by decide) hasId, ?_⟩
  have topicShort : "user-events".length ≤ 128 := by decide
  simp only [OutboxDraft.settled, Varchar.cut_short _ _ topicShort, Varchar.cut_short _ _ event.event_type_fits]

-- A user that its columns keep, as far as it is announced.
structure User.Short (user : User) : Prop where
  id : user.id.length ≤ 36
  displayName : user.displayName.length ≤ 64

theorem row_short (row : UserRow) : (toDomainUser row).Short := ⟨row.id.fits.1, row.displayName.fits.1⟩

-- With the display name of each account fixed: the outbox tells of events only, of no registration
-- but of accounts there are, and of the registration of each of them.
structure Db.Enrolled (names : String → String → Prop) (db : Db) : Prop where
  named : ∀ row ∈ db.users.rows, names row.id.text row.displayName.text
  told : ∀ row ∈ db.outbox.rows, ∃ event, row.draft.Tells event ∧
    ∀ userId displayName, event.enrols = some (userId, displayName) → names userId displayName ∧ userId ∈ db.users.keys
  announced : ∀ id ∈ db.users.keys, ∃ row ∈ db.outbox.rows, ∃ event displayName,
    row.draft.Tells event ∧ event.enrols = some (id, displayName) ∧ names id displayName

-- What a use case may rely on between its actions.
structure Db.Heeds (names : String → String → Prop) (before after : Db) : Prop where
  accounts : ∀ id ∈ before.users.keys, id ∈ after.users.keys
  enrolled : before.Enrolled names → after.Enrolled names

structure Db.Enrols (names : String → String → Prop) (before after : Db) :
    Prop extends Db.Heeds names before after where
  outbox : Db.OutboxGrows before after

section Enrols

variable (names : String → String → Prop)

theorem enrols_refl (db : Db) : Db.Enrols names db db := ⟨⟨fun _ => id, id⟩, Db.grows_refl db⟩

-- No display name but the account's own.
def Write.Names : Write → Prop
  | .insertUser user => names user.id user.displayName ∧ user.Short
  | .updateUser id changes =>
      ∀ displayName, changes.displayName = some displayName → names id displayName ∧ displayName.length ≤ 64
  | .insertOutbox _ => False
  | _ => True

structure Named (write : Write) (before after : Db) : Prop where
  accounts : ∀ id ∈ before.users.keys, id ∈ after.users.keys
  newcomers : ∀ id ∈ after.users.keys, id ∈ before.users.keys ∨ ∃ user, write = .insertUser user ∧ user.id = id
  named : (∀ row ∈ before.users.rows, names row.id.text row.displayName.text) →
    ∀ row ∈ after.users.rows, names row.id.text row.displayName.text
  added : ∀ user, write = .insertUser user → user.id ∈ after.users.keys
  outbox : after.outbox = before.outbox

theorem same_users_named (write : Write) (other : ∀ user, write ≠ .insertUser user) (before after : Db)
    (users : after.users = before.users) (outbox : after.outbox = before.outbox) :
    Named names write before after where
  accounts := fun _ member => users ▸ member
  newcomers := fun _ member => Or.inl (users ▸ member)
  named := fun named row member => named row (users ▸ member)
  added := fun user isInsert => absurd isInsert (other user)
  outbox := outbox

theorem write_named (write : Write) (may : write.Names names) (before after : Db)
    (run : before.write write = .ok after) :
    Named names write before after := by
  cases Db.write_written write before after run with
  | userKept _ _ same =>
      exact same_users_named names _ (fun _ wrong => by cases wrong) before after (same ▸ rfl) (same ▸ rfl)
  | requestKept _ _ same =>
      exact same_users_named names _ (fun _ wrong => by cases wrong) before after (same ▸ rfl) (same ▸ rfl)
  | userInserted user row taken settled added roleRequests outbox =>
      obtain ⟨isName, short⟩ := may
      have isKey : key row = user.id := user_row_key row user short.id settled
      refine ⟨fun id member => (Table.mem_keys_inserted row _ _ added id).mpr (Or.inl member), fun id member => ?_,
        fun named other member => ?_, fun other isInsert => ?_, outbox⟩
      · exact ((Table.mem_keys_inserted row _ _ added id).mp member).imp_right fun isRow =>
          ⟨user, rfl, (isRow.trans isKey).symm⟩
      · rw [((Table.insert_some_iff row _ _).mp added).2, List.mem_append, List.mem_singleton] at member
        rcases member with old | rfl
        · exact named other old
        · have stored : other.displayName.text = Varchar.cut 64 user.displayName := congrArg User.displayName settled
          rw [stored, Varchar.cut_short 64 _ short.displayName, show other.id.text = user.id from isKey]
          exact isName
      · cases isInsert
        exact (Table.mem_keys_inserted row _ _ added _).mpr (Or.inr isKey.symm)
  | userUpdated id changes old row found applied users roleRequests outbox =>
      have isId := user_changes_keep_id changes old row applied
      simp only [UserChanges.apply, except_bind_ok] at applied
      obtain ⟨email, _, passwordHash, _, displayName, newName, same⟩ := applied
      have sameKeys : after.users.keys = before.users.keys := by rw [users, Table.keys_replace]
      refine ⟨fun _ member => sameKeys ▸ member, fun _ member => Or.inl (sameKeys ▸ member),
        fun named other member => ?_, (fun _ wrong => by cases wrong), outbox⟩
      rw [users] at member
      obtain ⟨was, isWas, isOther⟩ := List.mem_map.mp member
      split at isOther
      · rw [← isOther, isId]
        have isKey : old.id.text = id := Table.find_key id _ old found
        have isName : row.displayName = displayName := by
          cases same
          rfl
        rw [isName]
        refine change_column 64 _ _ displayName _ _ newName (named old (Table.find_mem id _ old found))
          fun text given _ => ?_
        obtain ⟨isNew, short⟩ := may text given
        rw [Varchar.cut_short 64 text short, isKey]
        exact isNew
      · exact isOther ▸ named was isWas
  | requestInserted _ _ _ users _ outbox =>
      exact same_users_named names _ (fun _ wrong => by cases wrong) before after users outbox
  | requestUpdated _ _ _ users _ outbox =>
      exact same_users_named names _ (fun _ wrong => by cases wrong) before after users outbox
  | outboxInserted _ _ _ _ _ _ _ => exact may.elim
  | auditInserted _ users _ outbox =>
      exact same_users_named names _ (fun _ wrong => by cases wrong) before after users outbox

-- A unit of work: a write, and what is to be told of it.
theorem flush_enrols (first : Write) (drafts : List OutboxDraft) (before after : Db) (may : first.Names names)
    (announces : ∀ user, first = .insertUser user → ∃ draft ∈ drafts, ∃ event, draft.Tells event ∧
      event.enrols = some (user.id, user.displayName))
    (tells : ∀ draft ∈ drafts, ∃ event, draft.Tells event ∧ ∀ userId displayName,
      event.enrols = some (userId, displayName) →
      names userId displayName ∧ (userId ∈ before.users.keys ∨ ∃ user, first = .insertUser user ∧ user.id = userId))
    (run : Db.flush (first :: drafts.map .insertOutbox) before = .ok after) : Db.Enrols names before after := by
  have grows := Db.flush_grows _ before after run
  obtain ⟨next, written, flushed⟩ := (Db.flush_cons _ _ _ _).mp run
  obtain ⟨accounts, newcomers, named, added, outbox⟩ := write_named names first may before next written
  obtain ⟨appended, kept⟩ := Db.flush_outbox drafts next after flushed
  obtain ⟨rows, isAfter, isDrafts, _⟩ := appended.rows
  rw [outbox] at isAfter
  have fromNext : ∀ id ∈ next.users.keys, id ∈ after.users.keys := fun id member => kept.users ▸ member
  have stays : ∀ id ∈ before.users.keys, id ∈ after.users.keys := fun id member => fromNext id (accounts id member)
  refine ⟨⟨stays, fun enrolled => ⟨fun row member => named enrolled.named row (kept.users ▸ member),
    fun row member => ?_, fun id member => ?_⟩⟩, grows⟩
  · rw [isAfter] at member
    rcases List.mem_append.mp member with old | new
    · obtain ⟨event, tellsEvent, ofAccount⟩ := enrolled.told row old
      exact ⟨event, tellsEvent, fun userId displayName isNew =>
        (ofAccount userId displayName isNew).imp_right (stays userId)⟩
    · have isDraft : row.draft ∈ drafts.map OutboxDraft.settled := isDrafts ▸ List.mem_map_of_mem new
      obtain ⟨draft, given, same⟩ := List.mem_map.mp isDraft
      obtain ⟨event, tellsEvent, ofAccount⟩ := tells draft given
      refine ⟨event, same ▸ tells_settled draft event tellsEvent,
        fun userId displayName isNew => (ofAccount userId displayName isNew).imp_right fun known => ?_⟩
      rcases known with old | ⟨user, isInsert, isUser⟩
      · exact stays userId old
      · exact fromNext userId (isUser ▸ added user isInsert)
  · rcases newcomers id (kept.users ▸ member) with old | ⟨user, isInsert, isUser⟩
    · obtain ⟨row, isRow, rest⟩ := enrolled.announced id old
      exact ⟨row, isAfter ▸ List.mem_append_left _ isRow, rest⟩
    · obtain ⟨draft, isDraft, event, tellsEvent, isEvent⟩ := announces user isInsert
      have isSettled : draft.settled ∈ rows.map OutboxRow.draft := isDrafts ▸ List.mem_map_of_mem isDraft
      obtain ⟨row, isRow, same⟩ := List.mem_map.mp isSettled
      have isName : names user.id user.displayName := by
        rw [isInsert] at may
        exact may.1
      exact ⟨row, isAfter ▸ List.mem_append_right _ isRow, event, user.displayName,
        same.symm ▸ tells_settled draft event tellsEvent,
        isUser ▸ isEvent, isUser ▸ isName⟩

end Enrols

-- A change of an account that is told by events, none of which is a registration.
structure User.KeepsName (user changed : User) : Prop where
  id : changed.id = user.id
  displayName : changed.displayName = user.displayName
  events : ∀ event ∈ changed.pendingEvents, event ∈ user.pendingEvents ∨ event.enrols = none

theorem transition_keeps_name (user changed : User) (required target : UserState) (action : String)
    (event : DomainEvent)
    (other : event.enrols = none) (run : user.transition required target action event = .ok changed) :
    user.KeepsName changed := by
  obtain ⟨_, same⟩ := transition_ok user changed _ _ _ _ run
  subst same
  refine ⟨rfl, rfl, fun raised member => ?_⟩
  rcases List.mem_append.mp member with old | new
  · exact Or.inl old
  · exact Or.inr (List.mem_singleton.mp new ▸ other)

theorem change_role_keeps_name (user : User) (newRole : Role) (grantedBy : String) :
    user.KeepsName (user.changeRole newRole grantedBy) := by
  refine ⟨rfl, rfl, fun raised member => ?_⟩
  rcases List.mem_append.mp member with old | new
  · exact Or.inl old
  · exact Or.inr (List.mem_singleton.mp new ▸ rfl)

section Programs

variable (names : String → String → Prop) (io : Surroundings) (db : Db)

theorem commit_enrols (writes : List Write)
    (within : ∀ now after, Db.Heeds names db now → Db.flush writes now = .ok after → Db.Enrols names now after) :
    (commit writes).Assures (Db.Heeds names) (Db.Enrols names) (fun _ _ => True) db := by
  refine Prog.assures_atomic _ _ (enrols_refl names) _ _ _ _ fun now moved => ⟨trivial, ?_⟩
  cases run : Db.flush writes now with
  | error error => trivial
  | ok after => exact ⟨within now after moved run, trivial, trivial⟩

theorem login_audit_enrols (userId : Option String) (ip : String) (success : Bool) :
    (recordLoginAudit io userId ip success).Assures (Db.Heeds names) (Db.Enrols names) (fun _ _ => True) db :=
  commit_enrols names db _ fun now after _ run =>
    flush_enrols names (.insertLoginAudit _) [] now after trivial (fun _ wrong => by cases wrong)
      (fun _ member => absurd member List.not_mem_nil) run

theorem draft_tells (minted : io.Minted) (aggregateType aggregateId : String) (events : List DomainEvent)
    (draft : OutboxDraft)
    (member : draft ∈ outboxDrafts io aggregateType aggregateId events) : ∃ event ∈ events, draft.Tells event := by
  obtain ⟨⟨event, n⟩, isEvent, same⟩ := List.mem_map.mp member
  refine ⟨event, List.fst_mem_of_mem_zipIdx isEvent, ?_⟩
  exact ⟨(io.rowId n).text, aggregateType, aggregateId, io.now, minted.rows n, same.symm⟩

theorem event_drafted (minted : io.Minted) (aggregateType aggregateId : String) (events : List DomainEvent)
    (event : DomainEvent)
    (member : event ∈ events) : ∃ draft ∈ outboxDrafts io aggregateType aggregateId events, draft.Tells event := by
  obtain ⟨n, isEvent⟩ := List.mem_iff_getElem?.mp member
  refine ⟨_, List.mem_map.mpr ⟨(event, n), ?_, rfl⟩,
    ⟨(io.rowId n).text, aggregateType, aggregateId, io.now, minted.rows n, rfl⟩⟩
  rw [List.mk_mem_zipIdx_iff_getElem?]
  exact isEvent

theorem lift_domain_enrols {α β : Type} (answer : Except DomainError α) (rest : α → Prog Db Error β)
    (later : ∀ value, answer = .ok value →
      (rest value).Assures (Db.Heeds names) (Db.Enrols names) (fun _ _ => True) db) :
    (liftDomain answer >>= rest).Assures (Db.Heeds names) (Db.Enrols names) (fun _ _ => True) db := by
  cases answer with
  | error error => trivial
  | ok value => exact later value rfl

theorem then_enrols {α β : Type} (p : Prog Db Error α) (rest : α → Prog Db Error β)
    (first : p.Assures (Db.Heeds names) (Db.Enrols names) (fun _ _ => True) db)
    (later : ∀ value seen, (rest value).Assures (Db.Heeds names) (Db.Enrols names) (fun _ _ => True) seen) :
    (p >>= rest).Assures (Db.Heeds names) (Db.Enrols names) (fun _ _ => True) db := by
  refine Prog.assures_bind _ _ _ _ _ _ (Prog.assures_mono _ _ _ _ _ _ (fun result seen _ => ?_) first)
  cases result with
  | ok value => exact later value seen
  | error error => trivial

variable (minted : io.Minted) (enrolled : db.Enrolled names)

include minted

-- An account is there already, or its registration is among the events it is saved with.
theorem save_user_enrols (user : User) (events : List DomainEvent) (short : user.Short)
    (named : names user.id user.displayName)
    (known : user.id ∈ db.users.keys ∨ ∃ event ∈ events, event.enrols = some (user.id, user.displayName))
    (own : ∀ event ∈ events, ∀ pair, event.enrols = some pair → pair = (user.id, user.displayName)) :
    (saveUser io user events).Assures (Db.Heeds names) (Db.Enrols names) (fun _ _ => True) db := by
  refine assures_select_bind _ _ _ _ _ _ (enrols_refl names) _ fun seen toSeen => ⟨fun _ => trivial, ?_⟩
  refine commit_enrols names seen _ fun now after toNow run =>
    flush_enrols names _ _ now after ?_ (fun other isInsert => ?_) (fun draft member => ?_) run
  · cases found : seen.users.find user.id with
    | none => exact ⟨named, short⟩
    | some row => exact fun displayName differs => changed_some _ _ _ differs ▸ ⟨named, short.displayName⟩
  · cases found : seen.users.find user.id with
    | some row =>
        rw [found] at isInsert
        cases isInsert
    | none =>
        rw [found] at isInsert
        cases isInsert
        rcases known with isKnown | ⟨event, member, isEvent⟩
        · exact absurd (toSeen.accounts _ isKnown) ((Table.find_none_iff _ _).mp found)
        · obtain ⟨draft, isDraft, tells⟩ := event_drafted io minted "User" user.id events event member
          exact ⟨draft, isDraft, event, tells, isEvent⟩
  · obtain ⟨event, isEvent, tells⟩ := draft_tells io minted _ _ _ draft member
    refine ⟨event, tells, fun userId displayName isPair => ?_⟩
    cases own event isEvent _ isPair
    refine ⟨named, ?_⟩
    cases found : seen.users.find user.id with
    | none => exact Or.inr ⟨user, rfl, rfl⟩
    | some row =>
        have isKey : row.id.text = user.id := Table.find_key _ _ _ found
        exact Or.inl (toNow.accounts _ (isKey ▸ List.mem_map_of_mem (Table.find_mem _ _ _ found)))

theorem save_role_request_enrols (request : RoleRequest) (events : List DomainEvent)
    (other : ∀ event ∈ events, event.enrols = none) :
    (saveRoleRequest io request events).Assures (Db.Heeds names) (Db.Enrols names) (fun _ _ => True) db := by
  refine assures_select_bind _ _ _ _ _ _ (enrols_refl names) _ fun seen _ => ⟨fun _ => trivial, ?_⟩
  refine commit_enrols names seen _ fun now after _ run =>
    flush_enrols names _ _ now after ?_ (fun user isInsert => ?_) (fun draft member => ?_) run
  · cases seen.roleRequests.find request.id <;> trivial
  · cases found : seen.roleRequests.find request.id with
    | none =>
        rw [found] at isInsert
        cases isInsert
    | some row =>
        rw [found] at isInsert
        cases isInsert
  · obtain ⟨event, isEvent, tells⟩ := draft_tells io minted _ _ _ draft member
    refine ⟨event, tells, fun userId displayName isPair => ?_⟩
    rw [other event isEvent] at isPair
    cases isPair

omit minted in
include enrolled in
theorem get_user_enrols {α : Type} (userId : String) (rest : Option User → Prog Db Error α)
    (missing : ∀ seen, (rest none).Assures (Db.Heeds names) (Db.Enrols names) (fun _ _ => True) seen)
    (found : ∀ seen : Db, ∀ user : User, Db.Heeds names db seen → user.Short → user.id ∈ seen.users.keys →
      names user.id user.displayName →
      user.pendingEvents = [] → (rest (some user)).Assures (Db.Heeds names) (Db.Enrols names) (fun _ _ => True) seen) :
    (getUserById userId >>= rest).Assures (Db.Heeds names) (Db.Enrols names) (fun _ _ => True) db := by
  rw [getUserById, bind_assoc]
  refine assures_select_bind _ _ _ _ _ _ (enrols_refl names) _ fun seen toSeen => ⟨fun _ => trivial, ?_⟩
  cases isRow : seen.users.find userId with
  | none => exact missing seen
  | some row =>
      have member := Table.find_mem _ _ _ isRow
      exact found seen (toDomainUser row) toSeen (row_short row) (List.mem_map_of_mem member)
        ((toSeen.enrolled enrolled).named row member) rfl

theorem save_changed_enrols (user changed : User) (keeps : user.KeepsName changed) (short : user.Short)
    (known : user.id ∈ db.users.keys)
    (named : names user.id user.displayName) (settled : user.pendingEvents = []) :
    (saveUser io changed.pullEvents.2 changed.pullEvents.1).Assures (Db.Heeds names) (Db.Enrols names)
      (fun _ _ => True) db := by
  refine save_user_enrols names io db minted changed.pullEvents.2 _ ⟨?_, ?_⟩ ?_ (Or.inl ?_)
    fun event member pair isPair => ?_
  · rw [show changed.pullEvents.2.id = user.id from keeps.id]
    exact short.id
  · rw [show changed.pullEvents.2.displayName = user.displayName from keeps.displayName]
    exact short.displayName
  · rw [show changed.pullEvents.2.id = user.id from keeps.id,
      show changed.pullEvents.2.displayName = user.displayName from keeps.displayName]
    exact named
  · rw [show changed.pullEvents.2.id = user.id from keeps.id]
    exact known
  · rcases keeps.events event member with old | other
    · rw [settled] at old
      cases old
    · rw [other] at isPair
      cases isPair

include enrolled

theorem administer_enrols (targetUserId : String) (change : User → Except DomainError User)
    (keeps : ∀ user changed, change user = .ok changed → user.KeepsName changed) :
    (administer io targetUserId change).Assures (Db.Heeds names) (Db.Enrols names) (fun _ _ => True) db := by
  refine get_user_enrols names db enrolled targetUserId _ (fun _ => trivial)
    fun seen user _ short known named settled => ?_
  refine lift_domain_enrols names seen _ _ fun changed run => ?_
  exact save_changed_enrols names io seen minted user changed (keeps user changed run) short known named settled

theorem grant_requested_enrols (request : RoleRequest) (decidedBy : String) :
    (grantRequested io request decidedBy).Assures (Db.Heeds names) (Db.Enrols names) (fun _ _ => True) db :=
  get_user_enrols names db enrolled request.userId _ (fun _ => trivial) fun seen user _ short known named settled =>
    save_changed_enrols names io seen minted user _ (change_role_keeps_name user _ _) short known named settled

theorem decide_role_request_enrols (actorRole : Role) (requestId : String) (approve : Bool) (decidedBy note : String) :
    (decideRoleRequest io actorRole requestId approve decidedBy note).Assures (Db.Heeds names) (Db.Enrols names)
      (fun _ _ => True) db := by
  refine lift_domain_enrols names db _ _ fun _ _ => ?_
  rw [getRoleRequestById, bind_assoc]
  refine assures_select_bind _ _ _ _ _ _ (enrols_refl names) _ fun seen toSeen => ⟨fun _ => trivial, ?_⟩
  have saves : ∀ (request : RoleRequest) (now : Db), (saveRoleRequest io request []).Assures (Db.Heeds names)
      (Db.Enrols names) (fun _ _ => True) now :=
    fun request now => save_role_request_enrols names io now minted request [] fun _ member =>
      absurd member List.not_mem_nil
  cases seen.roleRequests.find requestId with
  | none => trivial
  | some row =>
      cases approve with
      | false => exact lift_domain_enrols names seen _ _ fun decided _ => saves decided seen
      | true =>
          refine lift_domain_enrols names seen _ _ fun decided _ => ?_
          refine then_enrols names seen _ _
            (grant_requested_enrols names io seen minted (toSeen.enrolled enrolled) decided decidedBy) ?_
          exact fun _ now => saves decided now

theorem request_role_enrols (userId : String) (requestedRole : Role) :
    (AuthProfile.requestRole io userId requestedRole).Assures (Db.Heeds names) (Db.Enrols names)
      (fun _ _ => True) db := by
  refine get_user_enrols names db enrolled userId _ (fun _ => trivial) fun seen user _ _ _ _ _ => ?_
  dsimp only
  split
  · trivial
  · refine then_enrols names seen _ _ (save_role_request_enrols names io seen minted _ _ fun event member => ?_)
      fun _ _ => trivial
    rw [List.mem_singleton.mp member]
    rfl

omit enrolled in
theorem register_user_enrols (lower : Lower) (hasher : PasswordHasher) (email password displayName : String)
    (named : names io.freshId.text displayName) (short : displayName.length ≤ 64) :
    (registerUser lower hasher io email password displayName).Assures (Db.Heeds names) (Db.Enrols names)
      (fun _ _ => True) db := by
  rw [registerUser, getUserByEmail, bind_assoc]
  refine assures_select_bind _ _ _ _ _ _ (enrols_refl names) _ fun seen _ => ⟨fun _ => trivial, ?_⟩
  cases seen.users.rows.find? fun row => row.email.text = strip (lower email) with
  | some row => trivial
  | none =>
      let user := User.register lower io.freshId.text io.now email (hasher.hash io.salt password) displayName
      change (saveUser io user.pullEvents.2 user.pullEvents.1 >>= fun _ => _).Assures _ _ _ seen
      refine then_enrols names seen _ _ (save_user_enrols names io seen minted _ _ ⟨io.freshId.fits.1, short⟩ named
        (Or.inr ?_) fun event member pair isPair => ?_)
        fun _ _ => trivial
      · exact ⟨_, List.mem_singleton_self _, rfl⟩
      · cases List.mem_singleton.mp member
        exact (Option.some.inj isPair).symm

omit minted enrolled in
theorem login_enrols (lower : Lower) (hasher : PasswordHasher) (signer : Signer) (email password ip : String) :
    (login lower hasher io signer email password ip).Assures (Db.Heeds names) (Db.Enrols names)
      (fun _ _ => True) db := by
  have audits : ∀ (userId : Option String) (success : Bool) (rest : Unit → Prog Db Error (String × String)) (now : Db),
      (∀ seen, (rest ()).Assures (Db.Heeds names) (Db.Enrols names) (fun _ _ => True) seen) →
      (recordLoginAudit io userId ip success >>= rest).Assures (Db.Heeds names) (Db.Enrols names)
        (fun _ _ => True) now :=
    fun userId success rest now later => then_enrols names now _ _ (login_audit_enrols names io now userId ip success)
      fun _ => later
  rw [login, getUserByEmail, bind_assoc]
  refine assures_select_bind _ _ _ _ _ _ (enrols_refl names) _ fun seen _ => ⟨fun _ => trivial, ?_⟩
  cases seen.users.rows.find? fun row => row.email.text = strip (lower email) with
  | none => exact audits none false _ seen fun _ => trivial
  | some row =>
      change (if !hasher.verify password row.passwordHash.text then _
        else _ : Prog Db Error (String × String)).Assures _ _ _ seen
      split
      · exact audits _ false _ seen fun _ => trivial
      · split
        · exact audits _ false _ seen fun _ => trivial
        · exact audits _ true _ seen fun _ => trivial

omit minted enrolled in
theorem of_except_enrols {α β : Type} (answer : Except Error α) (rest : α → Prog Db Error β)
    (later : ∀ value, (rest value).Assures (Db.Heeds names) (Db.Enrols names) (fun _ _ => True) db) :
    (Prog.ofExcept answer >>= rest).Assures (Db.Heeds names) (Db.Enrols names) (fun _ _ => True) db := by
  cases answer with
  | error error => trivial
  | ok value => exact later value

theorem decide_registration_enrols (actorRole : Role) (targetUserId : String) (approve : Bool)
    (decidedBy reason : String) :
    (approveRegistration io actorRole targetUserId approve decidedBy reason).Assures (Db.Heeds names) (Db.Enrols names)
      (fun _ _ => True) db := by
  refine lift_domain_enrols names db _ _ fun _ _ => administer_enrols names io db minted enrolled targetUserId _
    fun user changed run => ?_
  cases approve with
  | true => exact transition_keeps_name user changed _ _ _ _ rfl run
  | false => exact transition_keeps_name user changed _ _ _ _ rfl run

theorem ban_user_enrols (actorRole : Role) (targetUserId : String) (ban : Bool) (actorId reason : String) :
    (AuthProfile.banUser io actorRole targetUserId ban actorId reason).Assures (Db.Heeds names) (Db.Enrols names)
      (fun _ _ => True) db := by
  refine lift_domain_enrols names db _ _ fun _ _ => administer_enrols names io db minted enrolled targetUserId _
    fun user changed run => ?_
  cases ban with
  | true => exact transition_keeps_name user changed _ _ _ _ rfl run
  | false => exact transition_keeps_name user changed _ _ _ _ rfl run

theorem role_admin_enrols (provider : JwtTokenProvider) (signed : List String) (credentials : String)
    (request : RoleAdminRequest) :
    (request.route provider signed io credentials).Assures (Db.Heeds names) (Db.Enrols names) (fun _ _ => True) db := by
  refine of_except_enrols names db _ _ fun caller => of_except_enrols names db _ _ fun _ => ?_
  have silent : ∀ handler : Prog Db Error Unit, handler.Assures (Db.Heeds names) (Db.Enrols names)
    (fun _ _ => True) db →
      (RoleAdminRequest.noContent handler).Assures (Db.Heeds names) (Db.Enrols names) (fun _ _ => True) db :=
    fun handler holds => then_enrols names db _ _ holds fun _ _ => trivial
  cases request with
  | requestRole body =>
      refine then_enrols names db _ _ (of_except_enrols names db _ _ fun role => ?_) fun _ _ => trivial
      exact then_enrols names db _ _ (request_role_enrols names io db minted enrolled caller.userId role)
        fun _ _ => trivial
  | decideRoleRequest requestId body =>
      exact silent _ (decide_role_request_enrols names io db minted enrolled _ requestId _ _ _)
  | decideRegistration userId body =>
      exact silent _ (decide_registration_enrols names io db minted enrolled _ userId _ _ _)
  | grantRole userId body =>
      refine silent _ (of_except_enrols names db _ _ fun role => lift_domain_enrols names db _ _ fun _ _ => ?_)
      refine administer_enrols names io db minted enrolled userId _ fun user changed run => ?_
      cases run
      exact change_role_keeps_name user _ _
  | banUser userId body => exact silent _ (ban_user_enrols names io db minted enrolled _ userId true _ _)
  | unbanUser userId => exact silent _ (ban_user_enrols names io db minted enrolled _ userId false _ _)

end Programs

end AuthProfile
