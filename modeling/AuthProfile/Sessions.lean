import AuthProfile.Calls
import AuthProfile.Process.Machine
import AuthProfile.Process.Solo
import AuthProfile.UseCases.Sessions

set_option autoImplicit false

namespace AuthProfile

open Relation Process UserRepository

inductive SessionCall where
  | login (email password ip : String)
  | refresh (refreshToken : String)
  | logout (refreshToken : String)
  | account (call : Call)

structure SessionStep where
  call : SessionCall
  io : Surroundings
  accessJti : Uuid
  refreshJti : Uuid
  script : List Fault

structure SessionPlatform extends Platform where
  provider : JwtTokenProvider

-- The stores, the tokens issued so far and the time of the last step.
structure SessionState where
  stores : Stores
  issued : List String
  clock : Time

def SessionCall.program (platform : SessionPlatform) (io : Surroundings) (signer : Signer) :
    SessionCall → Prog Stores Error (List String)
  | .login email password ip => do
      let tokens ← (AuthProfile.login platform.lower platform.hasher io signer email password ip).focus Stores.onDb
      return [tokens.1, tokens.2]
  | .refresh refreshToken => do
      let access ← AuthProfile.refresh io.now signer refreshToken
      return [access]
  | .logout refreshToken => do
      (AuthProfile.logout io.now signer refreshToken).focus Stores.onRedis
      return []
  | .account call => do
      (call.program platform.toPlatform io).focus Stores.onDb
      return []

def SessionStep.signer (platform : SessionPlatform) (step : SessionStep) (state : SessionState) : Signer :=
  ⟨platform.provider, state.issued, step.accessJti, step.refreshJti⟩

def SessionStep.outcome (platform : SessionPlatform) (step : SessionStep) (state : SessionState) :
    Outcome Stores Error (List String) :=
  (step.call.program platform step.io (step.signer platform state)).exec step.script state.stores

def handedOut : Except Error (List String) → List String
  | .ok tokens => tokens
  | .error _ => []

def SessionState.step (platform : SessionPlatform) (state : SessionState) (step : SessionStep) : SessionState :=
  ⟨(step.outcome platform state).store, state.issued ++ handedOut (step.outcome platform state).result, step.io.now⟩

-- Steps at non-decreasing times, each call one step.
def sessionMachine (platform : SessionPlatform) : Machine SessionState SessionStep where
  follow := SessionState.step platform
  legal := fun state step => state.clock ≤ step.io.now

def SessionState.Holds (userId role : String) (state : SessionState) : Prop :=
  ∃ row, state.stores.db.users.find userId = some row ∧ row.state = .active ∧ row.role.value = role

-- A login by the account's own e-mail address, with its password verified, that answers with tokens.
structure LogsIn (platform : SessionPlatform) (row : UserRow) (email password : String) (db : Db) : Prop where
  found : (db.users.rows.find? fun row => row.email.text = strip (platform.lower email)) = some row
  verified : platform.hasher.verify password row.passwordHash.text = true
  active : row.state = .active

theorem login_ok (platform : SessionPlatform) (io : Surroundings) (signer : Signer) (email password ip : String)
    (script : List Fault) (db : Db) (tokens : String × String)
    (run : ((login platform.lower platform.hasher io signer email password ip).exec script db).result = .ok tokens) :
    ∃ row, LogsIn platform row email password db ∧
      tokens = (signer.provider.createAccessToken io.now signer.accessJti row.id.text row.role.value none,
        signer.provider.createRefreshToken io.now signer.refreshJti row.id.text) := by
  rw [login, getUserByEmail, bind_assoc] at run
  obtain ⟨_, sent⟩ := exec_select_ok _ _ _ _ _ _ run
  rw [sent] at run
  cases found : db.users.rows.find? fun row => row.email.text = strip (platform.lower email) with
  | none =>
      rw [found] at run
      simp only [Option.map_none, pure_bind] at run
      obtain ⟨_, _, refused⟩ := Prog.exec_bind_ok _ _ _ _ _ run
      rw [refused] at run
      cases run
  | some row =>
      rw [found] at run
      simp only [Option.map_some, pure_bind] at run
      split at run
      · obtain ⟨_, _, refused⟩ := Prog.exec_bind_ok _ _ _ _ _ run
        rw [refused] at run
        cases run
      · split at run
        · obtain ⟨_, _, refused⟩ := Prog.exec_bind_ok _ _ _ _ _ run
          rw [refused] at run
          cases run
        · rename_i verified canLogin
          obtain ⟨_, _, answered⟩ := Prog.exec_bind_ok _ _ _ _ _ run
          rw [answered] at run
          cases run
          have isVerified : platform.hasher.verify password (toDomainUser row).passwordHash = true := by
            simpa using verified
          have isActive : (toDomainUser row).state = .active := by simpa [User.canLogin] using canLogin
          exact ⟨row, ⟨found, isVerified, isActive⟩, rfl⟩

theorem is_revoked_reads (now : Time) (jti : Option String) (script : List Fault) (redis : Redis) :
    ((isRevokedIfNamed now jti).exec script redis).store = redis := by
  cases jti with
  | none => rfl
  | some jti =>
      rw [isRevokedIfNamed]
      split
      · rfl
      · simp only [TokenBlacklist.isRevoked, Prog.query, Prog.atomic, Prog.exec]
        cases script.headD .none <;> rfl

theorem get_user_by_id_ok (userId : String) (script : List Fault) (db : Db) (user : Option User)
    (run : ((getUserById userId).exec script db).result = .ok user) :
    user = (db.users.find userId).map toDomainUser ∧ ((getUserById userId).exec script db).store = db := by
  rw [getUserById] at run ⊢
  obtain ⟨_, sent⟩ := exec_select_ok _ _ _ _ _ _ run
  rw [sent] at run ⊢
  cases run
  exact ⟨rfl, rfl⟩

theorem refresh_ok (now : Time) (signer : Signer) (refreshToken : String) (script : List Fault) (stores : Stores)
    (access : String) (run : ((refresh now signer refreshToken).exec script stores).result = .ok access) :
    ∃ claims row, signer.provider.decodeRefreshToken signer.signed now refreshToken = .ok claims ∧
      claims.sub = some row.id.text ∧ stores.db.users.find row.id.text = some row ∧ row.state = .active ∧
        access = signer.provider.createAccessToken now signer.accessJti row.id.text row.role.value none := by
  rw [refresh] at run
  cases decoded : signer.provider.decodeRefreshToken signer.signed now refreshToken with
  | error error =>
      rw [decoded] at run
      cases run
  | ok claims =>
      rw [decoded] at run
      obtain ⟨revoked, _, looked⟩ := Prog.exec_bind_ok _ _ _ _ _ run
      rw [looked, Prog.exec_focus, is_revoked_reads] at run
      dsimp only at run
      rw [Stores.onRedis.set_get] at run
      split at run
      · cases run
      · cases named : claims.sub with
        | none =>
            rw [named] at run
            cases run
        | some userId =>
            rw [named] at run
            dsimp only at run
            obtain ⟨user, read, found⟩ := Prog.exec_bind_ok _ _ _ _ _ run
            rw [found, Prog.exec_focus] at run
            rw [Prog.exec_focus] at read
            obtain ⟨isRead, kept⟩ := get_user_by_id_ok userId _ _ user read
            dsimp only at run
            rw [kept, Stores.onDb.set_get, isRead] at run
            cases isRow : stores.db.users.find userId with
            | none =>
                have absent : Table.find userId (Stores.onDb.get stores).users = none := isRow
                rw [absent] at run
                cases run
            | some row =>
                have present : Table.find userId (Stores.onDb.get stores).users = some row := isRow
                rw [present] at run
                simp only [Option.map_some] at run
                split at run
                · cases run
                · rename_i canLogin
                  cases run
                  have isActive : (toDomainUser row).state = .active := by simpa [User.canLogin] using canLogin
                  have isId : row.id.text = userId := Table.find_key userId _ row isRow
                  exact ⟨claims, row, rfl, named.trans (congrArg some isId.symm), isId ▸ isRow, isActive, rfl⟩

theorem logs_in_row (platform : SessionPlatform) (row : UserRow) (email password : String) (db : Db)
    (logsIn : LogsIn platform row email password db) : db.users.find row.id.text = some row :=
  Table.find_self db.users row (List.mem_of_find?_eq_some logsIn.found)

def SessionStep.LogsInAs (platform : SessionPlatform) (userId : String) (state : SessionState)
    (step : SessionStep) : Prop :=
  ∃ row email password ip, step.call = .login email password ip ∧ row.id.text = userId ∧
    LogsIn platform row email password state.stores.db ∧ ∃ tokens, (step.outcome platform state).result = .ok tokens

def SessionStep.RefreshesAs (platform : SessionPlatform) (userId : String) (state : SessionState)
    (step : SessionStep) : Prop :=
  ∃ refreshToken claims, step.call = .refresh refreshToken ∧
    platform.provider.decodeRefreshToken state.issued step.io.now refreshToken = .ok claims ∧ claims.sub = some userId

-- All a step can issue: an access token for an account as it stands, or a refresh token to who logs in.
inductive Issues (platform : SessionPlatform) (state : SessionState) (step : SessionStep) : String → Prop where
  | access (userId role : String) (holds : state.Holds userId role)
      (by_whom : step.LogsInAs platform userId state ∨ step.RefreshesAs platform userId state) :
      Issues platform state step (platform.provider.createAccessToken step.io.now step.accessJti userId role none)
  | refresh (userId : String) (logsIn : step.LogsInAs platform userId state) :
      Issues platform state step (platform.provider.createRefreshToken step.io.now step.refreshJti userId)

theorem step_issues (platform : SessionPlatform) (state : SessionState) (step : SessionStep) (token : String)
    (issued : token ∈ handedOut (step.outcome platform state).result) : Issues platform state step token := by
  cases result : (step.outcome platform state).result with
  | error error =>
      rw [result] at issued
      exact nomatch issued
  | ok tokens =>
      rw [result] at issued
      have run := result
      rw [SessionStep.outcome] at run
      cases isCall : step.call with
      | login email password ip =>
          rw [isCall, SessionCall.program] at run
          obtain ⟨pair, logged, answered⟩ := Prog.exec_bind_ok _ _ _ _ _ run
          rw [answered] at run
          cases run
          rw [Prog.exec_focus] at logged
          obtain ⟨row, logsIn, isPair⟩ := login_ok platform _ _ _ _ _ _ _ _ logged
          have here : step.LogsInAs platform row.id.text state :=
            ⟨row, email, password, ip, isCall, rfl, logsIn, _, result⟩
          subst isPair
          rcases List.mem_cons.mp issued with isAccess | isRefresh
          · rw [isAccess]
            exact .access row.id.text row.role.value ⟨row, logs_in_row platform row _ _ _ logsIn, logsIn.active, rfl⟩
              (Or.inl here)
          · rw [List.mem_singleton.mp isRefresh]
            exact .refresh row.id.text here
      | refresh refreshToken =>
          rw [isCall, SessionCall.program] at run
          obtain ⟨access, refreshed, answered⟩ := Prog.exec_bind_ok _ _ _ _ _ run
          rw [answered] at run
          cases run
          obtain ⟨claims, row, decoded, named, found, active, isAccess⟩ := refresh_ok _ _ _ _ _ _ refreshed
          rw [List.mem_singleton.mp issued, isAccess]
          exact .access row.id.text row.role.value ⟨row, found, active, rfl⟩
            (Or.inr ⟨refreshToken, claims, isCall, decoded, named⟩)
      | logout refreshToken =>
          rw [isCall, SessionCall.program] at run
          obtain ⟨_, _, answered⟩ := Prog.exec_bind_ok _ _ _ _ _ run
          rw [answered] at run
          cases run
          exact nomatch issued
      | account call =>
          rw [isCall, SessionCall.program] at run
          obtain ⟨_, _, answered⟩ := Prog.exec_bind_ok _ _ _ _ _ run
          rw [answered] at run
          cases run
          exact nomatch issued

section Runs

variable (platform : SessionPlatform) (start : SessionState)

def IssuedAt (time : Time) (token userId role : String) (past : List SessionStep) : Prop :=
  (sessionMachine platform).Met (fun state step => step.io.now = time ∧
    token ∈ handedOut (step.outcome platform state).result ∧
    state.Holds userId role) start past

def LoggedInAt (time : Time) (userId : String) (past : List SessionStep) : Prop :=
  (sessionMachine platform).Met (fun state step => step.io.now = time ∧ step.LogsInAs platform userId state) start past

inductive Minted (past : List SessionStep) (clock : Time) : Claims → Prop where
  | access (issuedAt loggedInAt : Time) (jti : Uuid) (userId role : String) (held : IssuedAt platform start issuedAt
        (platform.provider.createAccessToken issuedAt jti userId role none) userId role past)
      (loggedIn : LoggedInAt platform start loggedInAt userId past) (ordered : loggedInAt ≤ issuedAt)
      (refreshable : issuedAt = loggedInAt ∨ issuedAt < loggedInAt + platform.provider.refreshTtl)
        (before : issuedAt ≤ clock) :
      Minted past clock (platform.provider.claimsOf (JwtTokenProvider.accessClaims userId role none) issuedAt jti
        platform.provider.accessTtl)
  | refresh (loggedInAt : Time) (jti : Uuid) (userId : String)
      (loggedIn : LoggedInAt platform start loggedInAt userId past)
      (before : loggedInAt ≤ clock) :
      Minted past clock (platform.provider.claimsOf (JwtTokenProvider.refreshClaims userId) loggedInAt jti
        platform.provider.refreshTtl)

theorem minted_later (past : List SessionStep) (clock later : Time) (step : SessionStep) (claims : Claims)
    (ordered : clock ≤ later)
    (minted : Minted platform start past clock claims) : Minted platform start (past ++ [step]) later claims := by
  cases minted with
  | access issuedAt loggedInAt jti userId role held loggedIn order refreshable before =>
      exact .access issuedAt loggedInAt jti userId role (Machine.met_before _ _ _ _ step held)
        (Machine.met_before _ _ _ _ step loggedIn) order refreshable (before.trans ordered)
  | refresh loggedInAt jti userId loggedIn before =>
      exact .refresh loggedInAt jti userId (Machine.met_before _ _ _ _ step loggedIn) (before.trans ordered)

theorem expires_in_time (issuedAt ttl now : Time) (valid : now < (⌊issuedAt + ttl⌋ : Int)) : now < issuedAt + ttl :=
  lt_of_lt_of_le valid (Int.floor_le _)

def AllMinted (past : List SessionStep) (state : SessionState) : Prop :=
  ∀ token ∈ state.issued, ∃ claims, token = platform.provider.jwt.encode claims ∧
    Minted platform start past state.clock claims

theorem refresh_login (documented : platform.provider.jwt.Documented) (past : List SessionStep) (state : SessionState)
    (minted : AllMinted platform start past state) (now : Time) (token : String) (claims : Claims)
    (decoded : platform.provider.decodeRefreshToken state.issued now token = .ok claims) :
    ∃ loggedInAt jti userId, claims = platform.provider.claimsOf (JwtTokenProvider.refreshClaims userId) loggedInAt jti
        platform.provider.refreshTtl ∧ LoggedInAt platform start loggedInAt userId past ∧ loggedInAt ≤ state.clock ∧
        now < (⌊loggedInAt + platform.provider.refreshTtl⌋ : Int) := by
  obtain ⟨accepted, typed⟩ := (platform.provider.decode_ok_iff _ _ _ _ _).mp decoded
  obtain ⟨signed, isToken, _, _, exp, isExp, valid⟩ := documented.decoded _ _ _ _ _ _ accepted
  obtain ⟨origin, isOrigin, source⟩ := minted token signed
  have same : claims = origin := documented.injective (isToken.symm.trans isOrigin)
  subst same
  cases source with
  | access issuedAt loggedInAt jti userId role held loggedIn order refreshable before =>
      exact absurd typed JwtTokenProvider.access_not_refresh
  | refresh loggedInAt jti userId loggedIn before =>
      cases isExp
      exact ⟨loggedInAt, jti, userId, rfl, loggedIn, before, valid⟩

theorem access_login (documented : platform.provider.jwt.Documented) (past : List SessionStep) (state : SessionState)
    (minted : AllMinted platform start past state) (now : Time) (token : String) (claims : Claims)
    (decoded : platform.provider.decodeAccessToken state.issued now token = .ok claims) :
    ∃ issuedAt loggedInAt jti userId role, claims =
      platform.provider.claimsOf (JwtTokenProvider.accessClaims userId role none)
        issuedAt jti platform.provider.accessTtl ∧ IssuedAt platform start issuedAt token userId role past ∧
        LoggedInAt platform start loggedInAt userId past ∧ loggedInAt ≤ issuedAt ∧
        (issuedAt = loggedInAt ∨ issuedAt < loggedInAt + platform.provider.refreshTtl) ∧ issuedAt ≤ state.clock ∧
        now < (⌊issuedAt + platform.provider.accessTtl⌋ : Int) := by
  obtain ⟨accepted, typed⟩ := (platform.provider.decode_ok_iff _ _ _ _ _).mp decoded
  obtain ⟨signed, isToken, _, _, exp, isExp, valid⟩ := documented.decoded _ _ _ _ _ _ accepted
  obtain ⟨origin, isOrigin, source⟩ := minted token signed
  have same : claims = origin := documented.injective (isToken.symm.trans isOrigin)
  subst same
  cases source with
  | access issuedAt loggedInAt jti userId role held loggedIn order refreshable before =>
      cases isExp
      exact ⟨issuedAt, loggedInAt, jti, userId, role, rfl, isOrigin ▸ held, loggedIn, order, refreshable, before, valid⟩
  | refresh loggedInAt jti userId loggedIn before => exact absurd typed.symm JwtTokenProvider.access_not_refresh

theorem all_minted_step (documented : platform.provider.jwt.Documented) (past : List SessionStep) (step : SessionStep)
    (minted : AllMinted platform start past ((sessionMachine platform).replay start past))
    (ordered : (sessionMachine platform).legal ((sessionMachine platform).replay start past) step) :
    AllMinted platform start (past ++ [step])
      ((sessionMachine platform).follow ((sessionMachine platform).replay start past) step) := by
  intro token issued
  rcases List.mem_append.mp issued with old | new
  · obtain ⟨claims, isToken, source⟩ := minted token old
    exact ⟨claims, isToken, minted_later platform start past _ _ step claims ordered source⟩
  · have loggedIn : ∀ userId, step.LogsInAs platform userId ((sessionMachine platform).replay start past) →
        LoggedInAt platform start step.io.now userId (past ++ [step]) :=
      fun userId logsIn => Machine.met_here _ _ _ past step ⟨rfl, logsIn⟩
    cases step_issues platform _ step token new with
    | access userId role holds byWhom =>
        have held : IssuedAt platform start step.io.now
            (platform.provider.createAccessToken step.io.now step.accessJti userId role none) userId role
              (past ++ [step]) :=
          Machine.met_here _ _ _ past step ⟨rfl, new, holds⟩
        refine ⟨_, rfl, ?_⟩
        rcases byWhom with logsIn | ⟨refreshToken, claims, _, decoded, named⟩
        · exact .access _ step.io.now _ userId role held (loggedIn userId logsIn) le_rfl (Or.inl rfl) le_rfl
        · obtain ⟨loggedInAt, jti, subject, isClaims, since, before, valid⟩ :=
            refresh_login platform start documented past _ minted _ _ _ decoded
          subst isClaims
          cases named
          exact .access _ loggedInAt _ userId role held (Machine.met_before _ _ _ _ step since) (before.trans ordered)
            (Or.inr (expires_in_time _ _ _ valid)) le_rfl
    | refresh userId logsIn => exact ⟨_, rfl, .refresh step.io.now _ userId (loggedIn userId logsIn) le_rfl⟩

theorem all_minted (documented : platform.provider.jwt.Documented) (unissued : start.issued = [])
    (steps : List SessionStep) (lawful : (sessionMachine platform).Lawful start steps) :
    AllMinted platform start steps ((sessionMachine platform).replay start steps) := by
  refine (sessionMachine platform).lawful_history start (AllMinted platform start) ?_ ?_ steps lawful
  · intro token issued
    rw [unissued] at issued
    exact nomatch issued
  · exact fun past step minted ordered => all_minted_step platform start documented past step minted ordered

end Runs

end AuthProfile
