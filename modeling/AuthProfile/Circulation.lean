import AuthProfile.Credentials
import AuthProfile.Frames

set_option autoImplicit false

-- What a login and a refresh hand out, over databases that others change meanwhile.
namespace AuthProfile

open Relation Process UserRepository

namespace Db

def Records (draft : LoginAuditDraft) (db : Db) : Prop :=
  ∃ row ∈ db.loginAudit.rows, LoginAuditRow.store draft = .ok row

-- A row of the audit comes to the others, or nothing does.
inductive Audited (draft : LoginAuditDraft) (before after : Db) : Prop where
  | kept (same : after = before)
  | added (run : flush [.insertLoginAudit draft] before = .ok after)

-- Whom a login finds, and whether it lets in.
section Login

variable (lower : Lower) (hasher : PasswordHasher) (email password : String) (db : Db)

def claimant : Option UserRow := db.users.rows.find? fun row => row.email.text = strip (lower email)

def admits : Bool :=
  (db.claimant lower email).any fun row => hasher.verify password row.passwordHash.text && row.state = .active

def loginDraft (io : Surroundings) (ip : String) : LoginAuditDraft :=
  ⟨io.freshId.text, (db.claimant lower email).map fun row => row.id.text, ip,
    db.admits lower hasher email password, io.now⟩

end Login

theorem audit_appends (draft : LoginAuditDraft) (db after : Db) (run : flush [.insertLoginAudit draft] db = .ok after) :
    ∃ row, LoginAuditRow.store draft = .ok row ∧ after.loginAudit.rows = db.loginAudit.rows ++ [row] := by
  obtain ⟨next, written, isNext⟩ := (flush_cons _ [] db after).mp run
  cases isNext
  obtain ⟨row, stored, inserted⟩ := (write_insert_login_audit draft db after).mp written
  refine ⟨row, stored, ?_⟩
  rw [insertLoginAuditRow] at inserted
  cases grown : db.loginAudit.insert row with
  | none =>
      rw [grown] at inserted
      cases inserted
  | some loginAudit =>
      rw [grown] at inserted
      dsimp only at inserted
      split at inserted
      · cases inserted
        exact ((Table.insert_some_iff row _ _).mp grown).2
      · cases inserted

theorem audit_records (draft : LoginAuditDraft) (db after : Db) (run : flush [.insertLoginAudit draft] db = .ok after) :
    after.Records draft := by
  obtain ⟨row, stored, rows⟩ := audit_appends draft db after run
  refine ⟨row, ?_, stored⟩
  rw [rows]
  exact List.mem_append_right _ (List.mem_singleton_self row)

end Db

theorem connection_foreign (exc : DomainError) : Error.connection ≠ .domain exc := by
  intro wrong
  cases wrong

theorem data_foreign (column : String) (exc : DomainError) : Error.data column ≠ .domain exc := by
  intro wrong
  cases wrong

-- An action of the audit, and what follows once the row is there.
theorem record_meets {α : Type} (rely : Db → Prop) (guar : Db → Db → Prop) (fit : Except Error α → Prop)
    (io : Surroundings) (userId : Option String) (ip : String) (success : Bool) (rest : Prog Db Error α)
    (within : ∀ s s', rely s → Db.Audited ⟨io.freshId.text, userId, ip, success, io.now⟩ s s' → guar s s')
    (lost : ∀ error, (∀ exc, error ≠ .domain exc) → fit (.error error))
    (later : ∀ after, rely after → after.Records ⟨io.freshId.text, userId, ip, success, io.now⟩ →
      rest.Meets rely guar fit) :
    (recordLoginAudit io userId ip success >>= fun _ => rest).Meets rely guar fit := by
  intro s relied
  dsimp only
  cases flushed : Db.flush [.insertLoginAudit ⟨io.freshId.text, userId, ip, success, io.now⟩] s with
  | error error =>
      refine ⟨within s s relied (.kept rfl), fun _ => lost error fun exc isDomain => ?_, lost _ connection_foreign⟩
      exact Db.flush_foreign _ s exc (isDomain ▸ flushed)
  | ok after =>
      exact ⟨within s after relied (.added flushed),
        fun still => later after still (Db.audit_records _ s after flushed),
        lost _ connection_foreign⟩

section Login

variable (lower : Lower) (hasher : PasswordHasher) (io : Surroundings) (signer : Signer) (email password ip : String)
  (rely : Db → Prop) (guar : Db → Db → Prop) (fit : Except Error (String × String) → Prop)

-- Tokens go out, and refusals, once the audit says so of a database that was read.
theorem login_meets (still : ∀ s, guar s s)
    (within : ∀ seen, rely seen → ∀ s s', rely s →
      Db.Audited (seen.loginDraft lower hasher email password io ip) s s' → guar s s')
    (lost : ∀ error, (∀ exc, error ≠ .domain exc) → fit (.error error))
    (refused : ∀ seen after exc, rely seen → seen.admits lower hasher email password = false → rely after →
      after.Records (seen.loginDraft lower hasher email password io ip) → fit (.error (.domain exc)))
    (accepted : ∀ seen after row, rely seen → seen.claimant lower email = some row → row.state = .active →
      seen.admits lower hasher email password = true → rely after →
      after.Records (seen.loginDraft lower hasher email password io ip) →
      fit (.ok (signer.provider.createAccessToken io.now signer.accessJti row.id.text row.role.value none,
        signer.provider.createRefreshToken io.now signer.refreshJti row.id.text))) :
    (login lower hasher io signer email password ip).Meets rely guar fit := by
  rw [login, getUserByEmail, bind_assoc]
  refine meets_select_bind _ _ _ _ _ still _ ⟨lost _ connection_foreign, lost _ (data_foreign _)⟩ fun seen relied => ?_
  have draws := within seen relied
  have refuses := fun after exc => refused seen after exc relied
  have admitted := fun after row => accepted seen after row relied
  rw [Db.loginDraft] at draws
  simp only [Db.loginDraft] at refuses admitted
  rw [show (seen.users.rows.find? fun row => row.email.text = strip (lower email)) = seen.claimant lower email from rfl]
  cases found : seen.claimant lower email with
  | none =>
      have admits : seen.admits lower hasher email password = false := by
        rw [Db.admits, found]
        rfl
      rw [found, admits] at draws refuses
      exact record_meets rely guar fit io none ip false _ draws lost fun after relied records =>
        refuses after _ rfl relied records
  | some row =>
      have admits : seen.admits lower hasher email password =
          (hasher.verify password row.passwordHash.text && row.state = .active) := by
        rw [Db.admits, found]
        rfl
      rw [found, admits] at draws refuses
      simp only [Option.map_some, pure_bind]
      have isVerified : hasher.verify password (toDomainUser row).passwordHash =
        hasher.verify password row.passwordHash.text := rfl
      by_cases verified : hasher.verify password row.passwordHash.text = true
      · by_cases active : row.state = .active
        · have canLogin : (toDomainUser row).canLogin = true := decide_eq_true active
          rw [verified, decide_eq_true active] at admits draws
          rw [isVerified, verified, canLogin]
          refine record_meets rely guar fit io _ ip true _ draws lost fun after relied records => ?_
          refine admitted after row found active admits relied ?_
          rw [found, admits]
          exact records
        · have canLogin : (toDomainUser row).canLogin = false := decide_eq_false active
          rw [verified, decide_eq_false active] at admits draws refuses
          rw [isVerified, verified, canLogin]
          exact record_meets rely guar fit io _ ip false _ draws lost fun after relied records =>
            refuses after _ rfl relied records
      · rw [Bool.not_eq_true] at verified
        rw [verified, Bool.false_and] at admits draws refuses
        rw [isVerified, verified]
        exact record_meets rely guar fit io _ ip false _ draws lost fun after relied records =>
          refuses after _ rfl relied records

end Login

-- Nothing goes out but for an account that a store showed ACTIVE, with the role it had there.
theorem refresh_meets (now : Time) (signer : Signer) (refreshToken : String) (rely : Stores → Prop)
    (guar : Stores → Stores → Prop)
    (still : ∀ s, guar s s) (fit : Except Error String → Prop) (failed : ∀ error, fit (.error error))
    (accepted : ∀ seen userId row, rely seen → seen.db.users.find userId = some row → row.state = .active →
      fit (.ok (signer.provider.createAccessToken now signer.accessJti row.id.text row.role.value none))) :
    (refresh now signer refreshToken).Meets rely guar fit := by
  have within : ∀ s s', rely s → s' = s → guar s s' := fun s s' _ same => same ▸ still s
  rw [refresh]
  cases signer.provider.decodeRefreshToken signer.signed now refreshToken with
  | error exc => exact failed _
  | ok claims =>
      have revokes := (Prog.reads_focus Stores.onRedis _ (revocation_check_reads now claims.jti)).steps
      refine Prog.meets_steps_bind rely guar _ fit _ _ revokes within failed fun revoked => ?_
      cases revoked with
      | true => exact failed _
      | false =>
          cases claims.sub with
          | none => exact failed _
          | some userId =>
              simp only [Bool.false_eq_true, if_false, getUserById]
              by_cases legal : Legal [userId]
              swap
              · rw [select_refused _ legal]
                exact fun seen relied => ⟨within _ _ relied (Stores.onDb.set_get seen), fun _ => failed _, failed _⟩
              rw [select_legal _ legal]
              intro seen relied
              refine ⟨within _ _ relied (Stores.onDb.set_get seen), fun _ => ?_, failed _⟩
              have selected : (Stores.onDb.get seen).users = seen.db.users := rfl
              dsimp only
              rw [selected]
              cases found : seen.db.users.find userId with
              | none => exact failed _
              | some row =>
                  change Prog.Meets rely guar fit (if (!(toDomainUser row).canLogin) = true then .raise _ else pure _)
                  by_cases active : row.state = .active
                  · have canLogin : (toDomainUser row).canLogin = true := decide_eq_true active
                    rw [canLogin]
                    exact accepted seen userId row relied found active
                  · have canLogin : (toDomainUser row).canLogin = false := decide_eq_false active
                    rw [canLogin]
                    exact failed _

-- A token that the service signed; an access token says of an account what may be said.
def Carries (provider : JwtTokenProvider) (may : String → Role → Prop) (token : String) : Prop :=
  ∃ claims, token = provider.jwt.encode claims ∧ (claims.typ = some JwtTokenProvider.ACCESS →
    ∃ userId role, claims.sub = some userId ∧ claims.role = some (Role.value role) ∧ may userId role)

section Tokens

variable (provider : JwtTokenProvider) (may : String → Role → Prop)

theorem access_carries (now : Time) (jti : Uuid) (userId : String) (role : Role) (said : may userId role) :
    Carries provider may (provider.createAccessToken now jti userId role.value none) :=
  ⟨_, rfl, fun _ => ⟨userId, role, rfl, rfl, said⟩⟩

theorem refresh_carries (now : Time) (jti : Uuid) (userId : String) :
    Carries provider may (provider.createRefreshToken now jti userId) :=
  ⟨_, rfl, fun isAccess => absurd isAccess.symm JwtTokenProvider.access_not_refresh⟩

theorem carries_mono (more : String → Role → Prop) (within : ∀ userId role, may userId role → more userId role)
    (token : String) (carried : Carries provider may token) : Carries provider more token := by
  obtain ⟨claims, isToken, said⟩ := carried
  refine ⟨claims, isToken, fun typed => ?_⟩
  obtain ⟨userId, role, isUser, isRole, may⟩ := said typed
  exact ⟨userId, role, isUser, isRole, within _ _ may⟩

section Decode

variable (documented : provider.jwt.Documented) (signed : List String)
    (carried : ∀ token ∈ signed, Carries provider may token) (now : Time)

include documented carried

theorem decoded_carries (token : String) (claims : Claims)
    (decoded : provider.decodeAccessToken signed now token = .ok claims) :
    ∃ userId role, claims.sub = some userId ∧ claims.role = some (Role.value role) ∧ may userId role := by
  obtain ⟨accepted, typed⟩ := (provider.decode_ok_iff _ _ _ _ _).mp decoded
  obtain ⟨isSigned, isToken, _⟩ := documented.decoded _ _ _ _ _ _ accepted
  obtain ⟨origin, isOrigin, said⟩ := carried token isSigned
  have same : claims = origin := documented.injective (isToken.symm.trans isOrigin)
  exact same ▸ said (same ▸ typed)

-- Who presents such a token is refused or comes in as what it says.
theorem caller_carries (credentials : String) :
    (∃ detail, getCurrentUser provider signed now credentials = .error (.http 401 detail)) ∨
      ∃ caller, getCurrentUser provider signed now credentials = .ok caller ∧ may caller.userId caller.role := by
  rw [getCurrentUser]
  cases decoded : provider.decodeAccessToken signed now credentials with
  | error exc => exact Or.inl ⟨_, rfl⟩
  | ok claims =>
      obtain ⟨userId, role, isUser, isRole, may⟩ :=
        decoded_carries provider may documented signed carried now credentials claims decoded
      refine Or.inr ⟨⟨userId, role⟩, ?_, may⟩
      dsimp only
      rw [Claims.currentUser, isUser, isRole]
      simp only [claim, bind, Except.bind, Role.ofValue, role_parse_value, pure, Except.pure]

end Decode

end Tokens

end AuthProfile
