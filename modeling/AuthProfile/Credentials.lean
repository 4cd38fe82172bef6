import AuthProfile.Calls
import AuthProfile.Process.Keeps

set_option autoImplicit false

namespace AuthProfile

open Relation Process UserRepository

-- Which accounts there are for good, and what their address and password hash may be.
structure Vouching where
  present : String → Prop
  email : String → String → Prop
  passwordHash : String → String → Prop

def Vouching.Allows (vouching : Vouching) (user : User) : Prop :=
  vouching.email user.id user.email ∧ vouching.passwordHash user.id user.passwordHash

-- What the columns make of an account is allowed.
def Vouching.Admits (vouching : Vouching) (user : User) : Prop :=
  (Varchar.Takes 255 user.email → vouching.email (Varchar.cut 36 user.id) (Varchar.cut 255 user.email)) ∧
    (Varchar.Takes 255 user.passwordHash →
      vouching.passwordHash (Varchar.cut 36 user.id) (Varchar.cut 255 user.passwordHash))

structure Db.Vouched (vouching : Vouching) (db : Db) : Prop where
  present : ∀ id, vouching.present id → id ∈ db.users.keys
  allowed : ∀ row ∈ db.users.rows, vouching.Allows (toDomainUser row)

section Writes

variable (vouching : Vouching)

def Write.Vouched : Write → Prop
  | .insertUser user => vouching.Admits user
  | .updateUser id changes =>
      (∀ email, changes.email = some email → Varchar.Takes 255 email → vouching.email id (Varchar.cut 255 email)) ∧
      ∀ hash, changes.passwordHash = some hash → Varchar.Takes 255 hash →
        vouching.passwordHash id (Varchar.cut 255 hash)
  | _ => True

theorem changed_some {α : Type} [DecidableEq α] (loaded value column : α)
    (differs : changed loaded value = some column) :
    column = value := by
  rw [changed] at differs
  split at differs
  · cases differs
  · exact (Option.some.inj differs).symm

theorem user_write_vouched (db : Db) (user : User) (allowed : vouching.Admits user) :
    (userWrite (db.users.find user.id) user).Vouched vouching := by
  cases found : db.users.find user.id with
  | none => exact allowed
  | some row =>
      have kept : Varchar.cut 36 user.id = user.id :=
        Table.find_key user.id db.users row found ▸ Varchar.cut_text 36 row.id
      refine ⟨fun email differs => ?_, fun hash differs => ?_⟩
      · exact changed_some _ _ _ differs ▸ kept ▸ allowed.1
      · exact changed_some _ _ _ differs ▸ kept ▸ allowed.2

theorem change_column (width : Nat) (column : String) (old stored : Varchar width) (change : Option String)
    (may : String → Prop) (run : Varchar.change width column old change = .ok stored) (kept : may old.text)
    (new : ∀ text, change = some text → Varchar.Takes width text → may (Varchar.cut width text)) : may stored.text := by
  cases change with
  | none =>
      cases run
      exact kept
  | some text =>
      obtain ⟨taken, same⟩ := (Varchar.store_ok width column text stored).mp run
      exact same ▸ new text rfl taken

theorem changes_vouched (id : String) (changes : UserChanges) (old row : UserRow) (isId : old.id.text = id)
    (vouched : (Write.updateUser id changes).Vouched vouching) (allowed : vouching.Allows (toDomainUser old))
    (run : changes.apply old = .ok row) : row.id = old.id ∧ vouching.Allows (toDomainUser row) := by
  simp only [UserChanges.apply, except_bind_ok] at run
  obtain ⟨email, newEmail, passwordHash, newHash, displayName, _, same⟩ := run
  cases same
  subst isId
  refine ⟨rfl, ?_, ?_⟩
  · exact change_column 255 _ _ email _ _ newEmail allowed.1 vouched.1
  · exact change_column 255 _ _ passwordHash _ _ newHash allowed.2 vouched.2

variable (db after : Db)

theorem same_users_vouched (same : after.users = db.users) (vouched : db.Vouched vouching) : after.Vouched vouching :=
  ⟨same ▸ vouched.present, same ▸ vouched.allowed⟩

theorem write_vouched (write : Write) (may : write.Vouched vouching) (run : db.write write = .ok after)
    (vouched : db.Vouched vouching) : after.Vouched vouching := by
  cases Db.write_written write db after run with
  | userKept _ _ same => exact same ▸ vouched
  | requestKept _ _ same => exact same ▸ vouched
  | userInserted user row taken settled added =>
      refine ⟨fun id present => (Table.mem_keys_inserted row _ _ added id).mpr (Or.inl (vouched.present id present)),
        ?_⟩
      intro other member
      rw [((Table.insert_some_iff row _ _).mp added).2, List.mem_append, List.mem_singleton] at member
      rcases member with old | rfl
      · exact vouched.allowed other old
      · exact settled ▸ ⟨may.1 taken.email, may.2 taken.passwordHash⟩
  | userUpdated id changes old row found applied users =>
      have allowed := vouched.allowed old (Table.find_mem id _ old found)
      obtain ⟨_, stillAllowed⟩ :=
        changes_vouched vouching id changes old row (Table.find_key id _ old found) may allowed applied
      refine ⟨fun id present => ?_, fun other member => ?_⟩
      · rw [users, Table.keys_replace]
        exact vouched.present id present
      · rw [users] at member
        obtain ⟨before, isBefore, isOther⟩ := List.mem_map.mp member
        split at isOther
        · exact isOther ▸ stillAllowed
        · exact isOther ▸ vouched.allowed before isBefore
  | requestInserted _ _ _ users => exact same_users_vouched vouching db after users vouched
  | requestUpdated _ _ _ users => exact same_users_vouched vouching db after users vouched
  | outboxInserted _ _ _ _ users => exact same_users_vouched vouching db after users vouched
  | auditInserted _ users => exact same_users_vouched vouching db after users vouched

theorem flush_vouched (writes : List Write) (may : ∀ write ∈ writes, write.Vouched vouching)
    (run : Db.flush writes db = .ok after) (vouched : db.Vouched vouching) : after.Vouched vouching :=
  Db.flush_keeps (Db.Vouched vouching) (Write.Vouched vouching)
    (fun one db after => write_vouched vouching db after one) writes db after
    may run vouched

end Writes

section Programs

variable (vouching : Vouching) (io : Surroundings)

theorem commit_vouched (writes : List Write) (may : ∀ write ∈ writes, write.Vouched vouching) :
    (commit writes).Keeps (Db.Vouched vouching) := by
  refine Prog.keeps_atomic _ _ _ fun db answer after vouched run => ?_
  cases flushed : Db.flush writes db with
  | error error =>
      rw [flushed] at run
      cases run
  | ok next =>
      rw [flushed] at run
      cases run
      exact flush_vouched vouching db _ writes may flushed vouched

theorem drafts_vouched (aggregateType aggregateId : String) (events : List DomainEvent) (write : Write)
    (member : write ∈ (outboxDrafts io aggregateType aggregateId events).map .insertOutbox) :
    write.Vouched vouching := by
  obtain ⟨draft, _, rfl⟩ := List.mem_map.mp member
  trivial

theorem save_user_vouched (user : User) (events : List DomainEvent) (allowed : vouching.Admits user) :
    (saveUser io user events).Keeps (Db.Vouched vouching) := by
  refine keeps_select_bind _ _ _ _ fun db _ => commit_vouched vouching _ fun write member => ?_
  rcases List.mem_cons.mp member with isUser | isDraft
  · exact isUser ▸ user_write_vouched vouching db user allowed
  · exact drafts_vouched vouching io _ _ _ write isDraft

theorem save_role_request_vouched (request : RoleRequest) (events : List DomainEvent) :
    (saveRoleRequest io request events).Keeps (Db.Vouched vouching) := by
  refine keeps_select_bind _ _ _ _ fun db _ => commit_vouched vouching _ fun write member => ?_
  rcases List.mem_cons.mp member with isRequest | isDraft
  · rw [isRequest]
    cases db.roleRequests.find request.id <;> trivial
  · exact drafts_vouched vouching io _ _ _ write isDraft

theorem login_audit_vouched (userId : Option String) (ip : String) (success : Bool) :
    (recordLoginAudit io userId ip success).Keeps (Db.Vouched vouching) := by
  refine commit_vouched vouching _ fun write member => ?_
  rw [List.mem_singleton.mp member]
  trivial

theorem row_admitted (row : UserRow) (allowed : vouching.Allows (toDomainUser row)) :
    vouching.Admits (toDomainUser row) := by
  have id : Varchar.cut 36 (toDomainUser row).id = row.id.text := Varchar.cut_text 36 row.id
  have email : Varchar.cut 255 (toDomainUser row).email = row.email.text := Varchar.cut_text 255 row.email
  have hash : Varchar.cut 255 (toDomainUser row).passwordHash = row.passwordHash.text :=
    Varchar.cut_text 255 row.passwordHash
  constructor
  · rw [id, email]
    exact fun _ => allowed.1
  · rw [id, hash]
    exact fun _ => allowed.2

theorem get_user_by_id_vouched {α : Type} (userId : String) (rest : Option User → Prog Db Error α)
    (missing : (rest none).Keeps (Db.Vouched vouching))
    (found : ∀ user, vouching.Admits user → (rest (some user)).Keeps (Db.Vouched vouching)) :
    (getUserById userId >>= rest).Keeps (Db.Vouched vouching) := by
  rw [getUserById, bind_assoc]
  refine keeps_select_bind _ _ _ _ fun db vouched => ?_
  cases isRow : db.users.find userId with
  | none => exact missing
  | some row => exact found _ (row_admitted vouching row (vouched.allowed row (Table.find_mem userId _ row isRow)))

theorem get_user_by_email_vouched {α : Type} (email : String) (rest : Option User → Prog Db Error α)
    (later : ∀ found, (rest found).Keeps (Db.Vouched vouching)) :
    (getUserByEmail email >>= rest).Keeps (Db.Vouched vouching) := by
  rw [getUserByEmail, bind_assoc]
  exact keeps_select_bind _ _ _ _ fun db _ => later _

theorem lift_domain_vouched {α β : Type} (answer : Except DomainError α) (rest : α → Prog Db Error β)
    (later : ∀ value, answer = .ok value → (rest value).Keeps (Db.Vouched vouching)) :
    (liftDomain answer >>= rest).Keeps (Db.Vouched vouching) := by
  cases answer with
  | error error => trivial
  | ok value => exact later value rfl

-- A change of an account that touches neither its id nor its credentials.
structure User.SameCredentials (user changed : User) : Prop where
  id : changed.id = user.id
  email : changed.email = user.email
  passwordHash : changed.passwordHash = user.passwordHash

theorem same_credentials_admitted (user changed : User) (same : user.SameCredentials changed)
    (allowed : vouching.Admits user) :
    vouching.Admits changed := by
  constructor
  · rw [same.id, same.email]
    exact allowed.1
  · rw [same.id, same.passwordHash]
    exact allowed.2

theorem transition_credentials (user changed : User) (required target : UserState) (action : String)
    (event : DomainEvent)
    (run : user.transition required target action event = .ok changed) : user.SameCredentials changed := by
  obtain ⟨_, same⟩ := transition_ok user changed _ _ _ _ run
  subst same
  exact ⟨rfl, rfl, rfl⟩

theorem administer_vouched (targetUserId : String) (change : User → Except DomainError User)
    (same : ∀ user changed, change user = .ok changed → user.SameCredentials changed) :
    (administer io targetUserId change).Keeps (Db.Vouched vouching) := by
  refine get_user_by_id_vouched vouching targetUserId _ trivial fun user allowed => ?_
  refine lift_domain_vouched vouching _ _ fun changed run => save_user_vouched vouching io _ _ ?_
  exact same_credentials_admitted vouching user changed (same user changed run) allowed

theorem grant_requested_vouched (request : RoleRequest) (decidedBy : String) :
    (grantRequested io request decidedBy).Keeps (Db.Vouched vouching) :=
  get_user_by_id_vouched vouching request.userId _ trivial fun _ allowed => save_user_vouched vouching io _ _ allowed

theorem decide_role_request_vouched (actorRole : Role) (requestId : String) (approve : Bool) (decidedBy note : String) :
    (decideRoleRequest io actorRole requestId approve decidedBy note).Keeps (Db.Vouched vouching) := by
  refine lift_domain_vouched vouching _ _ fun _ _ => ?_
  rw [getRoleRequestById, bind_assoc]
  refine keeps_select_bind _ _ _ _ fun db _ => ?_
  cases db.roleRequests.find requestId with
  | none => trivial
  | some row =>
      cases approve with
      | false => exact lift_domain_vouched vouching _ _ fun _ _ => save_role_request_vouched vouching io _ _
      | true =>
          refine lift_domain_vouched vouching _ _ fun decided _ => ?_
          exact Prog.keeps_bind _ _ _ (grant_requested_vouched vouching io decided decidedBy) fun _ =>
            save_role_request_vouched vouching io _ _

-- The accounts a call can make are allowed.
def Call.Vouched (platform : Platform) : Call → Prop
  | .registerUser email password displayName => vouching.Admits
      (User.register platform.lower io.freshId.text io.now email (platform.hasher.hash io.salt password) displayName)
  | .seedSuperAdmin email password displayName => vouching.Admits
      (User.registerSuperAdmin platform.lower io.freshId.text io.now email
        (platform.hasher.hash io.salt password) displayName)
  | _ => True

theorem register_user_vouched (platform : Platform) (email password displayName : String)
    (may : (Call.registerUser email password displayName).Vouched vouching io platform) :
    (registerUser platform.lower platform.hasher io email password displayName).Keeps (Db.Vouched vouching) := by
  refine get_user_by_email_vouched vouching _ _ fun found => ?_
  cases found with
  | some user => trivial
  | none => exact Prog.keeps_bind _ _ _ (save_user_vouched vouching io _ _ may) fun _ => trivial

theorem seed_super_admin_vouched (platform : Platform) (email password displayName : String)
    (may : (Call.seedSuperAdmin email password displayName).Vouched vouching io platform) :
    (seedSuperAdmin platform.lower platform.hasher io email password displayName).Keeps (Db.Vouched vouching) := by
  refine get_user_by_email_vouched vouching _ _ fun found => ?_
  cases found with
  | some user => trivial
  | none => exact save_user_vouched vouching io _ _ may

theorem call_vouched (platform : Platform) (call : Call) (may : call.Vouched vouching io platform) :
    (call.program platform io).Keeps (Db.Vouched vouching) := by
  cases call with
  | registerUser email password displayName =>
      exact Prog.keeps_bind _ _ _ (register_user_vouched vouching io platform _ _ _ may) fun _ => trivial
  | seedSuperAdmin email password displayName => exact seed_super_admin_vouched vouching io platform _ _ _ may
  | approveRegistration actorRole targetUserId approve decidedBy reason =>
      refine lift_domain_vouched vouching _ _ fun _ _ => administer_vouched vouching io targetUserId _
        fun user changed run => ?_
      cases approve with
      | true => exact transition_credentials user changed _ _ _ _ run
      | false => exact transition_credentials user changed _ _ _ _ run
  | banUser actorRole targetUserId ban actorId reason =>
      refine lift_domain_vouched vouching _ _ fun _ _ => administer_vouched vouching io targetUserId _
        fun user changed run => ?_
      cases ban with
      | true => exact transition_credentials user changed _ _ _ _ run
      | false => exact transition_credentials user changed _ _ _ _ run
  | grantRole actorRole targetUserId newRole grantedBy =>
      refine lift_domain_vouched vouching _ _ fun _ _ => administer_vouched vouching io targetUserId _
        fun user changed run => ?_
      cases run
      exact ⟨rfl, rfl, rfl⟩
  | requestRole userId requestedRole =>
      refine Prog.keeps_bind _ _ _ (get_user_by_id_vouched vouching userId _ trivial fun user _ => ?_) fun _ => trivial
      dsimp only
      split
      · trivial
      · exact Prog.keeps_bind _ _ _ (save_role_request_vouched vouching io _ _) fun _ => trivial
  | decideRoleRequest actorRole requestId approve decidedBy note =>
      exact decide_role_request_vouched vouching io actorRole requestId approve decidedBy note

end Programs

end AuthProfile
