import AuthProfile.Credentials
import AuthProfile.Freshness
import AuthProfile.Registration

set_option autoImplicit false

namespace AuthProfile

open Relation Process UserRepository

-- All that bcrypt looks at of a password.
def bcryptInput (plain : String) : List UInt8 := (plain.toList.flatMap String.utf8EncodeChar).take 72

-- What passlib documents of bcrypt, for passwords without NUL. A hash is 60 characters long.
structure PasswordHasher.Bcrypt (hasher : PasswordHasher) : Prop where
  kept : ∀ salt plain, '\x00' ∉ plain.toList → Varchar.Fits 255 (hasher.hash salt plain)
  verifies : ∀ salt plain attempt, '\x00' ∉ plain.toList → '\x00' ∉ attempt.toList →
    (hasher.verify attempt (hasher.hash salt plain) = true ↔ bcryptInput attempt = bcryptInput plain)

-- The password field of RegisterRequest.
def RegisterRequest.acceptsPassword (password : String) : Bool := 8 ≤ password.length && password.length ≤ 128

-- A call of this service that comes after the registration.
structure LaterCall where
  call : SessionCall
  io : Surroundings
  signer : Signer

structure Registration where
  email : String
  password : String
  displayName : String
  io : Surroundings
  script : List Fault

def Registration.outcome (platform : Platform) (registration : Registration) (db : Db) : Outcome Db Error User :=
  (registerUser platform.lower platform.hasher registration.io registration.email registration.password
    registration.displayName).exec
    registration.script db

structure SignIn where
  email : String
  password : String
  ip : String
  io : Surroundings
  signer : Signer

section SignIns

variable (platform : SessionPlatform) (attempt : SignIn)

def SignIn.tokens (userId role : String) : String × String :=
  (attempt.signer.provider.createAccessToken attempt.io.now attempt.signer.accessJti userId role none,
    attempt.signer.provider.createRefreshToken attempt.io.now attempt.signer.refreshJti userId)

def SignIn.outcome (db : Db) : Outcome Db Error (String × String) :=
  (login platform.lower platform.hasher attempt.io attempt.signer attempt.email attempt.password attempt.ip).exec [] db

def SignIn.SignsInAs (userId : String) (db : Db) : Prop :=
  ∃ role, (attempt.outcome platform db).result = .ok (attempt.tokens userId role)

theorem login_audit_flush (row : UserRow) (success : Bool) (db : Db) (member : row ∈ db.users.rows)
    (fresh : attempt.io.freshId.text ∉ db.loginAudit.keys) :
    (∃ after, Db.flush [.insertLoginAudit ⟨attempt.io.freshId.text, some row.id.text, attempt.ip, success,
      attempt.io.now⟩] db = .ok after) ↔
      Varchar.Takes 64 attempt.ip := by
  constructor
  · intro ⟨after, run⟩
    obtain ⟨next, written, _⟩ := (Db.flush_cons _ [] db after).mp run
    obtain ⟨audit, stored, _⟩ := (Db.write_insert_login_audit _ db next).mp written
    simp only [LoginAuditRow.store, except_bind_ok, Varchar.store_ok] at stored
    obtain ⟨_, _, _, _, _, ⟨taken, _⟩, _⟩ := stored
    exact taken
  · intro taken
    let ip : Varchar 64 := ⟨Varchar.cut 64 attempt.ip, Varchar.cut_fits 64 attempt.ip taken.1⟩
    let audit : LoginAuditRow := ⟨attempt.io.freshId, some row.id, ip, success, attempt.io.now⟩
    have stored : LoginAuditRow.store ⟨attempt.io.freshId.text, some row.id.text, attempt.ip, success, attempt.io.now⟩ =
        .ok audit := by
      have ip : Varchar.store 64 "ip" attempt.ip = .ok ip := dif_pos taken
      simp only [LoginAuditRow.store, Varchar.store_text, Varchar.storeOption, ip]
      rfl
    have known : (audit.userId.all fun userId => userId.text ∈ db.users.keys) = true :=
      decide_eq_true (List.mem_map_of_mem member)
    cases inserted : db.loginAudit.insert audit with
    | none => exact absurd ((Table.insert_none_iff audit _).mp inserted) fresh
    | some loginAudit =>
        refine ⟨{ db with loginAudit := loginAudit }, ?_⟩
        refine (Db.flush_cons _ [] db _).mpr ⟨_, (Db.write_insert_login_audit _ db _).mpr ⟨audit, stored, ?_⟩, rfl⟩
        rw [Db.insertLoginAuditRow, inserted]
        dsimp only
        rw [if_pos known]

def SignIn.audit (userId : String) : LoginAuditDraft :=
  ⟨attempt.io.freshId.text, some userId, attempt.ip, true, attempt.io.now⟩

theorem login_outcome (row : UserRow) (db : Db) (logsIn : LogsIn platform row attempt.email attempt.password db) :
    attempt.outcome platform db =
      (commit [.insertLoginAudit (attempt.audit row.id.text)] >>= fun _ =>
        .ret (attempt.tokens row.id.text row.role.value)).exec [] db := by
  obtain ⟨found, verified, active⟩ := logsIn
  have canLogin : (toDomainUser row).canLogin = true := decide_eq_true active
  have isVerified : platform.hasher.verify attempt.password (toDomainUser row).passwordHash = true := verified
  have isEmail : row.email.text = strip (platform.lower attempt.email) := by simpa using List.find?_some found
  rw [SignIn.outcome, login, getUserByEmail, bind_assoc,
    exec_select_alone _ _ _ _ (legal_one _ (isEmail ▸ row.email.fits.2)), found]
  simp only [Option.map_some, pure_bind, canLogin, Bool.not_true, Bool.false_eq_true, if_false]
  rw [isVerified, Bool.not_true, if_neg Bool.false_ne_true]
  rfl

theorem login_answers (row : UserRow) (db : Db) (logsIn : LogsIn platform row attempt.email attempt.password db)
    (fresh : attempt.io.freshId.text ∉ db.loginAudit.keys) :
    (attempt.outcome platform db).result = .ok (attempt.tokens row.id.text row.role.value) ↔
      Varchar.Takes 64 attempt.ip := by
  rw [login_outcome platform attempt row db logsIn, Prog.exec_bind,
    ← login_audit_flush attempt row true db (List.mem_of_find?_eq_some logsIn.found) fresh]
  cases run : Db.flush [.insertLoginAudit (attempt.audit row.id.text)] db with
  | ok after =>
      rw [commit_ok _ [] db after run]
      exact iff_of_true rfl ⟨after, run⟩
  | error error =>
      rw [commit_error _ [] db error run]
      refine iff_of_false (fun wrong => nomatch wrong) fun ⟨after, wrong⟩ => ?_
      cases run.symm.trans wrong

end SignIns

-- An account that keeps its address and its password hash for good.
def User.vouching (user : User) : Vouching where
  present := fun id => id = user.id
  email := fun id text => id = user.id → text = user.email
  passwordHash := fun id text => id = user.id → text = user.passwordHash

theorem saved_vouched (db : Db) (user : User) (saved : (db.users.find user.id).map toDomainUser = some user) :
    db.Vouched user.vouching := by
  obtain ⟨row, found, same⟩ := Option.map_eq_some_iff.mp saved
  refine ⟨fun id isUser => ?_, fun other member => ?_⟩
  · by_contra absent
    rw [isUser] at absent
    rw [(Table.find_none_iff _ _).mpr absent] at found
    cases found
  · have self : ∀ isUser : (toDomainUser other).id = user.id, toDomainUser other = user := by
      intro isUser
      have isRow : db.users.find user.id = some other := isUser ▸ Table.find_self db.users other member
      rw [found] at isRow
      exact Option.some.inj isRow ▸ same
    exact ⟨fun isUser => congrArg User.email (self isUser), fun isUser => congrArg User.passwordHash (self isUser)⟩

-- The columns keep the address and the hash of a registered account.
theorem registered_vouched (platform : Platform) (bcrypt : platform.hasher.Bcrypt) (io : Surroundings)
    (email password displayName : String) (plain : '\x00' ∉ password.toList) (db : Db)
    (taken : (newAccount .basicUser platform io email password displayName).Taken)
    (saved : (db.users.find (newAccount .basicUser platform io email password displayName).id).map toDomainUser =
      some (newAccount .basicUser platform io email password displayName).settled) :
    db.Vouched (newAccount .basicUser platform io email password displayName).vouching := by
  have isId : Varchar.cut 36 io.freshId.text = io.freshId.text := Varchar.cut_text 36 io.freshId
  have isEmail := Varchar.cut_short 255 _ (new_email_kept platform io email password displayName .basicUser taken).1
  have isHash := Varchar.cut_short 255 _ (bcrypt.kept io.salt password plain).1
  have settled : (newAccount .basicUser platform io email password displayName).settled.vouching =
      (newAccount .basicUser platform io email password displayName).vouching := by
    change User.vouching { newAccount .basicUser platform io email password displayName with
      id := Varchar.cut 36 io.freshId.text
      email := Varchar.cut 255 (strip (platform.lower email))
      passwordHash := Varchar.cut 255 (platform.hasher.hash io.salt password)
      displayName := Varchar.cut 64 displayName } = _
    rw [isId, isEmail, isHash]
    rfl
  rw [← settled]
  refine saved_vouched db _ ?_
  have sameId : (newAccount .basicUser platform io email password displayName).settled.id =
      (newAccount .basicUser platform io email password displayName).id := isId
  rw [sameId]
  exact saved

section Later

variable (vouching : Vouching) (io : Surroundings)

def Stores.Vouched (stores : Stores) : Prop := stores.db.Vouched vouching

theorem on_db_vouched {α : Type} (p : Prog Db Error α) (kept : p.Keeps (Db.Vouched vouching)) :
    (p.focus Stores.onDb).Keeps (Stores.Vouched vouching) :=
  Prog.keeps_focus (Db.Vouched vouching) Stores.onDb (Stores.Vouched vouching) (fun _ vouched => vouched)
    (fun _ _ _ vouched => vouched) p kept

theorem on_redis_vouched {α : Type} (p : Prog Redis Error α) :
    (p.focus Stores.onRedis).Keeps (Stores.Vouched vouching) :=
  Prog.keeps_focus (fun _ => True) Stores.onRedis (Stores.Vouched vouching) (fun _ _ => trivial)
    (fun _ _ vouched _ => vouched) p
    (Prog.keeps_always _ (fun _ => trivial) p)

theorem login_vouched (lower : Lower) (hasher : PasswordHasher) (signer : Signer) (email password ip : String) :
    (login lower hasher io signer email password ip).Keeps (Db.Vouched vouching) := by
  refine get_user_by_email_vouched vouching _ _ fun found => ?_
  cases found with
  | none => exact Prog.keeps_bind _ _ _ (login_audit_vouched vouching io none ip false) fun _ => trivial
  | some user =>
      dsimp only
      split
      · exact Prog.keeps_bind _ _ _ (login_audit_vouched vouching io _ ip false) fun _ => trivial
      · split
        · exact Prog.keeps_bind _ _ _ (login_audit_vouched vouching io _ ip false) fun _ => trivial
        · exact Prog.keeps_bind _ _ _ (login_audit_vouched vouching io _ ip true) fun _ => trivial

theorem refresh_vouched (now : Time) (signer : Signer) (refreshToken : String) :
    (refresh now signer refreshToken).Keeps (Stores.Vouched vouching) := by
  rw [refresh]
  split
  · trivial
  · refine Prog.keeps_bind _ _ _ (on_redis_vouched vouching _) fun revoked => ?_
    split
    · trivial
    · split
      · trivial
      · refine Prog.keeps_bind _ _ _ (on_db_vouched vouching _ (keeps_select_bind _ _ _ _ fun _ _ => trivial))
          fun found => ?_
        split
        · trivial
        · split <;> trivial

theorem session_vouched (platform : SessionPlatform) (signer : Signer) (call : SessionCall)
    (may : ∀ account, call = .account account → account.Vouched vouching io platform.toPlatform) :
    (call.program platform io signer).Keeps (Stores.Vouched vouching) := by
  cases call with
  | login email password ip =>
      refine Prog.keeps_bind _ _ _ (on_db_vouched vouching _ ?_) fun _ => trivial
      exact login_vouched vouching io platform.lower platform.hasher signer email password ip
  | refresh refreshToken =>
      exact Prog.keeps_bind _ _ _ (refresh_vouched vouching io.now signer refreshToken) fun _ => trivial
  | logout refreshToken => exact Prog.keeps_bind _ _ _ (on_redis_vouched vouching _) fun _ => trivial
  | account call =>
      exact Prog.keeps_bind _ _ _
        (on_db_vouched vouching _ (call_vouched vouching io platform.toPlatform call (may call rfl)))
        fun _ => trivial

-- A call with an id of its own leaves the account's credentials alone.
theorem other_account_vouched (user : User) (platform : Platform) (call : Call)
    (different : io.freshId.text ≠ user.id) :
    call.Vouched user.vouching io platform := by
  have elsewhere : Varchar.cut 36 io.freshId.text ≠ user.id := (Varchar.cut_text 36 io.freshId).symm ▸ different
  cases call with
  | registerUser email password displayName =>
      exact ⟨fun _ same => absurd same elsewhere, fun _ same => absurd same elsewhere⟩
  | seedSuperAdmin email password displayName =>
      exact ⟨fun _ same => absurd same elsewhere, fun _ same => absurd same elsewhere⟩
  | _ => trivial

end Later

section Passwords

variable {ι : Type} [DecidableEq ι] (platform : SessionPlatform) (attempt : SignIn)

-- Any calls after the registration, their actions in any order and with any faults.
def laterOn (later : ι → LaterCall) (moves : List (Move ι)) (stores : Stores) : Stores :=
  (Pool.run ⟨stores, fun i => (later i).call.program platform (later i).io (later i).signer⟩ moves).store

theorem later_on_alone (later : ι → LaterCall) (stores : Stores) : laterOn platform later [] stores = stores :=
  rfl

theorem later_on_vouched (user : User) (later : ι → LaterCall) (unrepeated : ∀ i, (later i).io.freshId.text ≠ user.id)
    (moves : List (Move ι)) (stores : Stores) (vouched : stores.db.Vouched user.vouching) :
    (laterOn platform later moves stores).db.Vouched user.vouching := by
  refine Pool.run_keeps (Stores.Vouched user.vouching) _ moves vouched fun i => ?_
  exact session_vouched user.vouching _ platform _ _ fun account _ =>
    other_account_vouched _ user _ account (unrepeated i)

theorem tokens_injective (documented : attempt.signer.provider.jwt.Documented)
    (first second firstRole secondRole : String)
    (same : attempt.tokens first firstRole = attempt.tokens second secondRole) : first = second := by
  have claims := documented.injective (congrArg Prod.snd same)
  exact Option.some.inj (congrArg Claims.sub claims)

theorem find_email (db : Db) (row : UserRow) (text : String) (member : row ∈ db.users.rows)
    (isEmail : row.email.text = text) :
    (db.users.rows.find? fun row => row.email.text = text) = some row := by
  cases found : db.users.rows.find? fun row => row.email.text = text with
  | none => exact absurd isEmail ((emails_unknown db text).mp found row member)
  | some other =>
      have isOther : other.email.text = text := by simpa using List.find?_some found
      have sameEmail : other.email = row.email := Varchar.ext 255 _ _ (isOther.trans isEmail.symm)
      exact congrArg some (List.inj_on_of_nodup_map db.uniqueEmail (List.mem_of_find?_eq_some found) member sameEmail)

theorem signs_in_iff (documented : attempt.signer.provider.jwt.Documented) (bcrypt : platform.hasher.Bcrypt)
    (io : Surroundings) (email password displayName : String) (plain : '\x00' ∉ password.toList)
    (plainAttempt : '\x00' ∉ attempt.password.toList) (db : Db)
    (vouched : db.Vouched (newAccount .basicUser platform.toPlatform io email password displayName).vouching)
    (active : ∃ row, db.users.find io.freshId.text = some row ∧ row.state = .active)
    (fresh : attempt.io.freshId.text ∉ db.loginAudit.keys) :
    attempt.SignsInAs platform io.freshId.text db ↔
      strip (platform.lower attempt.email) = strip (platform.lower email) ∧
      bcryptInput attempt.password = bcryptInput password ∧ Varchar.Takes 64 attempt.ip := by
  constructor
  · intro ⟨role, signedIn⟩
    obtain ⟨row, logsIn, tokens⟩ := login_ok platform _ _ _ _ _ [] db _ signedIn
    have isId : row.id.text = io.freshId.text := (tokens_injective attempt documented _ _ _ _ tokens).symm
    have member : row ∈ db.users.rows := List.mem_of_find?_eq_some logsIn.found
    obtain ⟨isEmail, isHash⟩ := vouched.allowed row member
    have stored : row.email.text = strip (platform.lower attempt.email) := by simpa using List.find?_some logsIn.found
    have verified := logsIn.verified
    have hashed : row.passwordHash.text = platform.hasher.hash io.salt password := isHash isId
    rw [hashed, bcrypt.verifies io.salt password attempt.password plain plainAttempt] at verified
    refine ⟨stored.symm.trans (isEmail isId), verified, (login_answers platform attempt row db logsIn fresh).mp ?_⟩
    exact signedIn.trans (congrArg Except.ok tokens)
  · intro ⟨sameEmail, sameInput, fits⟩
    obtain ⟨row, found, isActive⟩ := active
    have isId : row.id.text = io.freshId.text := Table.find_key _ db.users row found
    have member : row ∈ db.users.rows := Table.find_mem _ db.users row found
    obtain ⟨isEmail, isHash⟩ := vouched.allowed row member
    have stored : row.email.text = strip (platform.lower attempt.email) := (isEmail isId).trans sameEmail.symm
    have hashed : row.passwordHash.text = platform.hasher.hash io.salt password := isHash isId
    have verified : platform.hasher.verify attempt.password row.passwordHash.text = true := by
      rw [hashed]
      exact (bcrypt.verifies io.salt password attempt.password plain plainAttempt).mpr sameInput
    have logsIn : LogsIn platform row attempt.email attempt.password db :=
      ⟨find_email db row _ member stored, verified, isActive⟩
    exact ⟨row.role.value, isId ▸ (login_answers platform attempt row db logsIn fresh).mpr fits⟩

-- How a login can go wrong: another password that bcrypt cannot tell from the registered
-- one, or the right one from an address that the audit's column does not take.
def SignIn.Mistaken (registration : Registration) : Prop :=
  strip (platform.lower attempt.email) = strip (platform.lower registration.email) ∧
    if Varchar.Takes 64 attempt.ip then attempt.password ≠ registration.password ∧
      bcryptInput attempt.password = bcryptInput registration.password
    else attempt.password = registration.password

-- A registration that is answered, any calls after it, and a login to the account while
-- it is active: only the registered password signs in, unless the login is mistaken.
theorem only_password_iff (documented : attempt.signer.provider.jwt.Documented) (bcrypt : platform.hasher.Bcrypt)
    (registration : Registration) (stores : Stores) (user : User)
    (registered : (registration.outcome platform.toPlatform stores.db).result = .ok user)
    (plain : '\x00' ∉ registration.password.toList) (plainAttempt : '\x00' ∉ attempt.password.toList)
    (later : ι → LaterCall) (unrepeated : ∀ i, (later i).io.freshId.text ≠ user.id) (moves : List (Move ι)) (db : Db)
    (reached : db = (laterOn platform later moves ⟨(registration.outcome platform.toPlatform stores.db).store,
      stores.redis⟩).db)
    (active : ∃ row, db.users.find user.id = some row ∧ row.state = .active)
    (fresh : attempt.io.freshId.text ∉ db.loginAudit.keys) :
    (attempt.SignsInAs platform user.id db ↔
      strip (platform.lower attempt.email) = strip (platform.lower registration.email) ∧
        attempt.password = registration.password) ↔ ¬ attempt.Mistaken platform registration := by
  obtain ⟨isUser, taken, saved⟩ :=
    register_ok platform.toPlatform registration.io registration.email registration.password
    registration.displayName registration.script stores.db user registered
  subst isUser
  have vouched : db.Vouched
    (newAccount .basicUser platform.toPlatform registration.io registration.email registration.password
      registration.displayName).vouching := by
    rw [reached]
    exact later_on_vouched platform _ later unrepeated moves _
      (registered_vouched platform.toPlatform bcrypt registration.io _ _ _ plain _ taken saved)
  rw [show (newAccount .basicUser platform.toPlatform registration.io registration.email registration.password
      registration.displayName).id = registration.io.freshId.text from rfl] at active ⊢
  rw [signs_in_iff platform attempt documented bcrypt registration.io _ _ registration.displayName plain plainAttempt db
    vouched active
    fresh, SignIn.Mistaken]
  have input : attempt.password = registration.password →
      bcryptInput attempt.password = bcryptInput registration.password :=
    fun same => congrArg bcryptInput same
  by_cases fits : Varchar.Takes 64 attempt.ip
  · rw [if_pos fits]
    constructor
    · intro same ⟨sameEmail, differ, sameInput⟩
      exact differ (same.mp ⟨sameEmail, sameInput, fits⟩).2
    · intro sound
      refine ⟨fun ⟨sameEmail, sameInput, _⟩ => ⟨sameEmail, ?_⟩,
        fun ⟨sameEmail, samePassword⟩ => ⟨sameEmail, input samePassword, fits⟩⟩
      exact by_contra fun differ => sound ⟨sameEmail, differ, sameInput⟩
  · rw [if_neg fits]
    constructor
    · intro same right
      exact fits (same.mpr right).2.2
    · intro sound
      exact ⟨fun ⟨_, _, wrong⟩ => absurd wrong fits, fun right => absurd right sound⟩

end Passwords

-- A hash that holds what bcrypt looks at, one character a byte and none of them NUL.
def latin1 (bytes : List UInt8) : String := String.ofList (bytes.map fun byte => Char.ofNat (byte.toNat + 256))

def bcryptLike : PasswordHasher where
  hash := fun _ plain => latin1 (bcryptInput plain)
  verify := fun plain hash => hash = latin1 (bcryptInput plain)

theorem byte_char (byte : UInt8) : (Char.ofNat (byte.toNat + 256)).toNat = byte.toNat + 256 := by
  have bound := UInt8.toNat_lt byte
  have valid : (byte.toNat + 256).isValidChar := Or.inl (by omega)
  rw [Char.ofNat, dif_pos valid]
  rfl

theorem latin1_injective : Function.Injective latin1 := by
  intro first second same
  refine List.map_injective_iff.mpr (fun a b sameChar => ?_) (String.ofList_injective same)
  have codes := congrArg Char.toNat sameChar
  rw [byte_char, byte_char] at codes
  exact UInt8.toNat_inj.mp (Nat.add_right_cancel codes)

theorem bcrypt_like_fits (salt plain : String) : Varchar.Fits 255 (bcryptLike.hash salt plain) := by
  change Varchar.Fits 255 (latin1 (bcryptInput plain))
  refine ⟨?_, fun here => ?_⟩
  · rw [latin1, String.length_ofList, List.length_map, bcryptInput, List.length_take]
    omega
  · rw [latin1, String.toList_ofList] at here
    obtain ⟨byte, _, isNul⟩ := List.mem_map.mp here
    have code := byte_char byte
    rw [isNul] at code
    change 0 = byte.toNat + 256 at code
    omega

theorem bcrypt_like : bcryptLike.Bcrypt where
  kept := fun salt plain _ => bcrypt_like_fits salt plain
  verifies := fun salt plain attempt _ _ => by
    simp only [bcryptLike, decide_eq_true_eq]
    exact ⟨fun same => (latin1_injective same).symm, fun same => congrArg latin1 same.symm⟩

def bcryptPlatform : SessionPlatform where
  toPlatform := ⟨asciiPlatform.lower, bcryptLike⟩
  provider := samplePlatform.provider

def longRegistration : Registration where
  email := "bob@arcadia.com"
  password := String.ofList (List.replicate 72 'x' ++ ['1'])
  displayName := "Bob"
  io := sampleIo
  script := []

def otherPassword : SignIn where
  email := "bob@arcadia.com"
  password := String.ofList (List.replicate 72 'x' ++ ['2'])
  ip := "127.0.0.1"
  io := otherIo
  signer := ⟨samplePlatform.provider, [], sampleLogin.accessJti, sampleLogin.refreshJti⟩

def bob : User :=
  newAccount .basicUser bcryptPlatform.toPlatform longRegistration.io longRegistration.email longRegistration.password
  longRegistration.displayName

def bobDb : Db := (longRegistration.outcome bcryptPlatform.toPlatform seededService.db).store

theorem bob_admitted : seededService.db.Admits sampleIo bob :=
  ⟨⟨by decide, by decide, Varchar.takes_fits 255 _
    (bcrypt_like_fits longRegistration.io.salt longRegistration.password), by decide⟩,
    by decide, by decide, by decide⟩

theorem Registration.outcome_admitted (registration : Registration) (platform : Platform) (db : Db)
    (faultless : registration.script = [])
    (admits : db.Admits registration.io (newAccount .basicUser platform registration.io registration.email
      registration.password registration.displayName)) :
    (registration.outcome platform db).result = .ok (newAccount .basicUser platform registration.io registration.email
        registration.password registration.displayName) ∧
      (registration.outcome platform db).store.loginAudit = db.loginAudit := by
  obtain ⟨_, _, _, created, run⟩ := register_admitted platform _ _ _ _ db admits
  rw [Registration.outcome, faultless, run]
  exact ⟨rfl, created.loginAudit⟩

theorem bob_registered : (longRegistration.outcome bcryptPlatform.toPlatform seededService.db).result = .ok bob ∧
    bobDb.loginAudit = seededService.db.loginAudit := by
  rw [bobDb]
  exact longRegistration.outcome_admitted bcryptPlatform.toPlatform seededService.db rfl bob_admitted

theorem Registration.outcome_ok (registration : Registration) (platform : Platform) (db : Db) (user : User)
    (registered : (registration.outcome platform db).result = .ok user) : user.Taken ∧
      ((registration.outcome platform db).store.users.find user.id).map toDomainUser = some user.settled :=
  (register_ok platform _ _ _ _ _ db user registered).2

theorem bob_saved : bob.Taken ∧ (bobDb.users.find bob.id).map toDomainUser = some bob.settled := by
  rw [bobDb]
  exact longRegistration.outcome_ok bcryptPlatform.toPlatform seededService.db bob bob_registered.1

theorem settled_state (user : User) : user.settled.state = user.state :=
  rfl

theorem bob_active : ∃ row, bobDb.users.find bob.id = some row ∧ row.state = .active := by
  obtain ⟨row, found, same⟩ := Option.map_eq_some_iff.mp bob_saved.2
  exact ⟨row, found, (congrArg User.state same).trans (settled_state bob)⟩

theorem other_audit_fresh : otherPassword.io.freshId.text ∉ bobDb.loginAudit.keys := by
  rw [bob_registered.2]
  decide

theorem long_passwords : RegisterRequest.acceptsPassword longRegistration.password = true ∧
    '\x00' ∉ longRegistration.password.toList ∧ '\x00' ∉ otherPassword.password.toList ∧
    bcryptInput otherPassword.password = bcryptInput longRegistration.password ∧
    otherPassword.password ≠ longRegistration.password := by
  decide +kernel

theorem bob_alone : bobDb = (laterOn bcryptPlatform (fun i : Fin 0 => i.elim0) []
    ⟨(longRegistration.outcome bcryptPlatform.toPlatform seededService.db).store, .empty⟩).db := by
  rw [later_on_alone, bobDb]

theorem bob_only_password :
    (otherPassword.SignsInAs bcryptPlatform bob.id bobDb ↔
        strip (bcryptPlatform.lower otherPassword.email) = strip (bcryptPlatform.lower longRegistration.email) ∧
          otherPassword.password = longRegistration.password) ↔
      ¬ otherPassword.Mistaken bcryptPlatform longRegistration :=
  only_password_iff bcryptPlatform otherPassword PyJwt.json_documented bcrypt_like longRegistration
    ⟨seededService.db, .empty⟩ bob
    bob_registered.1 long_passwords.2.1 long_passwords.2.2.1 (fun i : Fin 0 => i.elim0) (fun i => i.elim0)
      [] bobDb bob_alone bob_active
    other_audit_fresh

-- The registered password and the other one part at their 73rd character.
theorem other_password_signs_in :
    RegisterRequest.acceptsPassword longRegistration.password = true ∧
      (longRegistration.outcome bcryptPlatform.toPlatform seededService.db).result = .ok bob ∧
      ¬ (otherPassword.SignsInAs bcryptPlatform bob.id bobDb ↔
        strip (bcryptPlatform.lower otherPassword.email) = strip (bcryptPlatform.lower longRegistration.email) ∧
          otherPassword.password = longRegistration.password) := by
  obtain ⟨accepted, plain, plainAttempt, sameInput, differ⟩ := long_passwords
  refine ⟨accepted, bob_registered.1, fun claimed => differ (claimed.mp ?_).2⟩
  have answered := signs_in_iff bcryptPlatform otherPassword PyJwt.json_documented bcrypt_like longRegistration.io
    longRegistration.email
    longRegistration.password longRegistration.displayName plain plainAttempt bobDb
    (registered_vouched bcryptPlatform.toPlatform bcrypt_like _ _ _ _ plain _ bob_saved.1 bob_saved.2) bob_active
      other_audit_fresh
  exact answered.mpr ⟨rfl, sameInput, by decide⟩

end AuthProfile
