import AuthProfile.Freshness
import AuthProfile.Reads
import Mathlib.Tactic.Linarith

set_option autoImplicit false

namespace AuthProfile

open Relation Process UserRepository

-- The instant from which Redis no longer holds a jti that was revoked now.
def revokedUntil (exp : Int) (now : Time) : Time := now + revocationTtl exp now

def Covered (exp : Int) (now : Time) : Prop := (exp : Time) - now ≤ 1 ∨ ∃ second : Int, now = second

theorem covered_iff (exp : Int) (now : Time) (valid : now < exp) :
    (exp : Time) ≤ revokedUntil exp now ↔ Covered exp now := by
  have positive : (0 : ℚ) ≤ exp - now := by linarith
  rw [revokedUntil, revocationTtl, toInt, if_pos positive]
  constructor
  · intro outlives
    by_cases short : (exp : Time) - now ≤ 1
    · exact Or.inl short
    · right
      have long : (1 : Int) ≤ ⌊(exp : Time) - now⌋ := by
        rw [Int.le_floor]
        push_cast
        linarith
      rw [max_eq_left long] at outlives
      have isWhole : ((⌊(exp : Time) - now⌋ : Int) : ℚ) = exp - now :=
        le_antisymm (Int.floor_le _) (by linarith)
      exact ⟨exp - ⌊(exp : Time) - now⌋, by push_cast; linarith⟩
  · rintro (short | ⟨second, whole⟩)
    · have atLeast : ((1 : Int) : ℚ) ≤ (max ⌊(exp : Time) - now⌋ 1 : Int) := Int.cast_le.mpr (le_max_right _ _)
      push_cast at atLeast ⊢
      linarith
    · have floor : ⌊(exp : Time) - now⌋ = exp - second := by
        rw [whole, ← Int.cast_sub, Int.floor_intCast]
      have atLeast : (((exp - second : Int)) : ℚ) ≤ (max ⌊(exp : Time) - now⌋ 1 : Int) :=
        Int.cast_le.mpr (floor ▸ le_max_left _ _)
      push_cast at atLeast ⊢
      linarith

theorem revocation_ttl_pos (exp : Int) (now : Time) : 0 < revocationTtl exp now :=
  lt_of_lt_of_le Int.one_pos (le_max_right _ _)

theorem refresh_reads (now : Time) (signer : Signer) (refreshToken : String) (script : List Fault) (stores : Stores) :
    ((refresh now signer refreshToken).exec script stores).store = stores :=
  Prog.reads_exec _ (refreshing_reads now signer refreshToken) script stores

def Redis.revoked (redis : Redis) (jti : String) (exp : Int) (now : Time) : Redis :=
  ⟨Function.update redis.expiries (TokenBlacklist.keyPrefix ++ jti) (some (revokedUntil exp now))⟩

theorem revoke_exec (now : Time) (jti : String) (exp : Int) (script : List Fault) (redis : Redis) :
    (TokenBlacklist.revoke now jti (revocationTtl exp now)).exec script redis =
      match script.headD .none with
      | .none => ⟨.ok (), script.tail, redis.revoked jti exp now⟩
      | .before => ⟨.error .connection, script.tail, redis⟩
      | .after => ⟨.error .connection, script.tail, redis.revoked jti exp now⟩ := by
  rw [TokenBlacklist.revoke]
  apply Prog.exec_atomic_ok
  rw [Redis.set_ok _ _ _ _ (revocation_ttl_pos exp now)]
  rfl

theorem logout_eq (now : Time) (signer : Signer) (token jti : String) (exp : Int) (claims : Claims)
    (decoded : signer.provider.decodeRefreshToken signer.signed now token = .ok claims) (named : claims.jti = some jti)
    (expires : claims.exp = some exp) :
    logout now signer token =
      if jti = "" ∨ exp = 0 then .ret () else TokenBlacklist.revoke now jti (revocationTtl exp now) := by
  rw [logout, decoded]
  simp only [liftDomain, Prog.ret_bind, named, expires]
  rfl

theorem logout_writes (now : Time) (signer : Signer) (token : String) (script : List Fault) (redis : Redis) :
    ((logout now signer token).exec script redis).store = redis ∨
      ∃ claims jti exp, signer.provider.decodeRefreshToken signer.signed now token = .ok claims ∧
        claims.jti = some jti ∧
        claims.exp = some exp ∧ ((logout now signer token).exec script redis).store = redis.revoked jti exp now := by
  cases decoded : signer.provider.decodeRefreshToken signer.signed now token with
  | error error =>
      left
      rw [logout, decoded]
      rfl
  | ok claims =>
      cases named : claims.jti with
      | none =>
          left
          rw [logout, decoded]
          simp only [liftDomain, Prog.ret_bind, named]
          rfl
      | some jti =>
          cases expires : claims.exp with
          | none =>
              left
              rw [logout, decoded]
              simp only [liftDomain, Prog.ret_bind, named, expires]
              rfl
          | some exp =>
              rw [logout_eq now signer token jti exp claims decoded named expires]
              split
              · exact Or.inl rfl
              · rw [revoke_exec]
                cases script.headD .none with
                | none => exact Or.inr ⟨claims, jti, exp, rfl, named, expires, rfl⟩
                | before => exact Or.inl rfl
                | after => exact Or.inr ⟨claims, jti, exp, rfl, named, expires, rfl⟩

section Runs

variable (platform : SessionPlatform)

def SessionStep.LogsOut (jti : String) (exp : Int) (state : SessionState) (step : SessionStep) : Prop :=
  ∃ token claims, step.call = .logout token ∧
    platform.provider.decodeRefreshToken state.issued step.io.now token = .ok claims ∧ claims.jti = some jti ∧
      claims.exp = some exp

theorem step_redis (state : SessionState) (step : SessionStep) :
    (state.step platform step).stores.redis = state.stores.redis ∨
      ∃ jti exp, step.LogsOut platform jti exp state ∧
        (state.step platform step).stores.redis = state.stores.redis.revoked jti exp step.io.now := by
  rw [SessionState.step, SessionStep.outcome]
  cases isCall : step.call with
  | login email password ip =>
      left
      rw [SessionCall.program, Prog.exec_pure_store, Prog.exec_focus]
      rfl
  | refresh refreshToken =>
      left
      rw [SessionCall.program, Prog.exec_pure_store, refresh_reads]
  | logout refreshToken =>
      rw [SessionCall.program, Prog.exec_pure_store, Prog.exec_focus]
      rcases logout_writes step.io.now (step.signer platform state) refreshToken step.script state.stores.redis with
        same | ⟨claims, jti, exp, decoded, named, expires, written⟩
      · exact Or.inl same
      · exact Or.inr ⟨jti, exp, ⟨refreshToken, claims, isCall, decoded, named, expires⟩, written⟩
  | account call =>
      left
      rw [SessionCall.program, Prog.exec_pure_store, Prog.exec_focus]
      rfl

def Refused (state : SessionState) (now : Time) (token : String) : Prop :=
  ∀ db accessJti refreshJti, ∃ message,
    ((refresh now ⟨platform.provider, state.issued, accessJti, refreshJti⟩ token).exec [] ⟨db,
      state.stores.redis⟩).result =
      .error (.domain (.token message))

-- Later steps, none of which logs the same jti out again until an earlier instant than exp.
def laterMachine (jti : String) (exp : Int) : Machine SessionState SessionStep where
  follow := SessionState.step platform
  legal := fun state step => state.clock ≤ step.io.now ∧
    ∀ otherExp, step.LogsOut platform jti otherExp state → (exp : Time) ≤ revokedUntil otherExp step.io.now

def StaysDead (state : SessionState) (token jti : String) (exp : Int) : Prop :=
  ∀ later, (laterMachine platform jti exp).Lawful state later →
    ∀ now, ((laterMachine platform jti exp).replay state later).clock ≤ now →
      Refused platform ((laterMachine platform jti exp).replay state later) now token

def Redis.Holds (jti : String) (exp : Int) (redis : Redis) : Prop :=
  ∃ expiry, redis.expiries (TokenBlacklist.keyPrefix ++ jti) = some expiry ∧ (exp : Time) ≤ expiry

theorem revoked_here (redis : Redis) (jti : String) (exp : Int) (now : Time) :
    (redis.revoked jti exp now).expiries (TokenBlacklist.keyPrefix ++ jti) = some (revokedUntil exp now) :=
  Function.update_self _ _ _

theorem revoked_elsewhere (redis : Redis) (jti other : String) (exp : Int) (now : Time) (different : other ≠ jti) :
    (redis.revoked other exp now).expiries (TokenBlacklist.keyPrefix ++ jti) =
      redis.expiries (TokenBlacklist.keyPrefix ++ jti) :=
  Function.update_of_ne (fun same => different (TokenBlacklist.key_injective _ _ same).symm) _ _

theorem holds_step (jti : String) (exp : Int) (state : SessionState) (step : SessionStep)
    (legal : (laterMachine platform jti exp).legal state step) (holds : state.stores.redis.Holds jti exp) :
    (state.step platform step).stores.redis.Holds jti exp := by
  rcases step_redis platform state step with same | ⟨otherJti, otherExp, logsOut, written⟩
  · rw [same]
    exact holds
  · rw [written]
    by_cases again : otherJti = jti
    · subst again
      exact ⟨_, revoked_here _ _ _ _, legal.2 otherExp logsOut⟩
    · obtain ⟨expiry, kept, outlives⟩ := holds
      exact ⟨expiry, (revoked_elsewhere _ _ _ _ _ again).trans kept, outlives⟩

theorem holds_later (jti : String) (exp : Int) (state : SessionState) (later : List SessionStep)
    (lawful : (laterMachine platform jti exp).Lawful state later) (holds : state.stores.redis.Holds jti exp) :
    ((laterMachine platform jti exp).replay state later).stores.redis.Holds jti exp :=
  (laterMachine platform jti exp).lawful_history state (fun _ state => state.stores.redis.Holds jti exp) holds
    (fun _ step kept legal => holds_step platform jti exp _ step legal kept) later lawful

def Redis.revokedNow (redis : Redis) (now : Time) : Option String → Bool
  | none => false
  | some jti => if jti = "" then false else redis.present (TokenBlacklist.keyPrefix ++ jti) now

def refreshAnswer (now : Time) (signer : Signer) (stores : Stores) (claims : Claims) : Except Error String :=
  if stores.redis.revokedNow now claims.jti then .error (.domain (.token "Refresh token has been revoked."))
  else
    match claims.sub with
    | none => .error (.key "sub")
    | some userId =>
        match answered [userId] (stores.db.users.find userId) with
        | .error error => .error error
        | .ok none => .error (.domain (.userNotFound userId))
        | .ok (some row) =>
            if row.state = .active then
              .ok (signer.provider.createAccessToken now signer.accessJti row.id.text row.role.value none)
            else .error (.domain (.token "Account is not active."))

theorem is_revoked_exec (now : Time) (jti : Option String) (redis : Redis) :
    (isRevokedIfNamed now jti).exec [] redis = ⟨.ok (redis.revokedNow now jti), [], redis⟩ := by
  cases jti with
  | none => rfl
  | some jti =>
      rw [isRevokedIfNamed, Redis.revokedNow]
      split
      · rfl
      · rfl

theorem refresh_exec (now : Time) (signer : Signer) (token : String) (stores : Stores) (claims : Claims)
    (decoded : signer.provider.decodeRefreshToken signer.signed now token = .ok claims) :
    (refresh now signer token).exec [] stores = ⟨refreshAnswer now signer stores claims, [], stores⟩ := by
  rw [refresh, decoded]
  dsimp only
  rw [Prog.exec_bind, Prog.exec_focus, is_revoked_exec]
  dsimp only
  rw [Stores.onRedis.set_get, refreshAnswer]
  have looked : (Stores.onRedis.get stores).revokedNow now claims.jti = stores.redis.revokedNow now claims.jti := rfl
  rw [looked]
  cases stores.redis.revokedNow now claims.jti with
  | true => rfl
  | false =>
      cases claims.sub with
      | none => rfl
      | some userId =>
          simp only [Bool.false_eq_true, if_false]
          have read : ((getUserById userId).focus Stores.onDb).exec [] stores =
              ⟨(answered [userId] (stores.db.users.find userId)).map (Option.map toDomainUser), [], stores⟩ := by
            rw [Prog.exec_focus, getUserById]
            by_cases legal : Legal [userId]
            · rw [exec_select_alone _ _ _ _ legal, answered_legal _ legal]
              rfl
            · rw [exec_select_refused _ _ _ _ legal, answered_refused _ legal]
              rfl
          rw [Prog.exec_bind, read]
          cases answered [userId] (stores.db.users.find userId) with
          | error error => rfl
          | ok found =>
            cases found with
            | none => rfl
            | some row =>
              dsimp only [Except.map, Option.map_some]
              have sameState : (toDomainUser row).canLogin = decide (row.state = .active) := rfl
              rw [sameState]
              by_cases active : row.state = .active
              · simp only [active, decide_true, Bool.not_true, Bool.false_eq_true, if_false, if_true]
                rfl
              · simp only [active, decide_false, Bool.not_false, if_true, if_false]
                rfl

-- While the entry is kept until exp, the token is dead: revoked before exp, expired from then on.
theorem refused_of_holds (documented : platform.provider.jwt.Documented) (jti : String) (exp : Int)
    (state : SessionState) (now : Time) (claims : Claims) (named : claims.jti = some jti) (nonempty : jti ≠ "")
    (expires : claims.exp = some exp)
    (holds : state.stores.redis.Holds jti exp) : Refused platform state now (platform.provider.jwt.encode claims) := by
  intro db accessJti refreshJti
  cases decoded : platform.provider.decodeRefreshToken state.issued now (platform.provider.jwt.encode claims) with
  | error error =>
      refine ⟨"Invalid refresh token.", ?_⟩
      rw [refresh, decoded]
      rfl
  | ok read =>
      obtain ⟨accepted, _⟩ := (platform.provider.decode_ok_iff _ _ _ _ _).mp decoded
      obtain ⟨_, isToken, _, _, readExp, isExp, valid⟩ := documented.decoded _ _ _ _ _ _ accepted
      have same : claims = read := documented.injective isToken
      subst same
      rw [expires, Option.some.injEq] at isExp
      subst isExp
      obtain ⟨expiry, kept, outlives⟩ := holds
      have revoked : state.stores.redis.revokedNow now claims.jti = true := by
        rw [named, Redis.revokedNow, if_neg nonempty, Redis.present, kept]
        exact decide_eq_true (lt_of_lt_of_le valid outlives)
      refine ⟨"Refresh token has been revoked.", ?_⟩
      rw [refresh_exec now _ _ ⟨db, state.stores.redis⟩ claims decoded, refreshAnswer]
      exact if_pos revoked

structure AcceptedLogout (state : SessionState) (step : SessionStep) (token : String) (claims : Claims) (jti : String)
    (exp : Int) :
    Prop where
  isCall : step.call = .logout token
  answered : (step.outcome platform state).result = .ok []
  decoded : platform.provider.decodeRefreshToken state.issued step.io.now token = .ok claims
  named : claims.jti = some jti
  expires : claims.exp = some exp

theorem logout_step (state : SessionState) (step : SessionStep) (token : String) (claims : Claims)
    (jti : String) (exp : Int)
    (accepted : AcceptedLogout platform state step token claims jti exp) (nonempty : jti ≠ "") (later : exp ≠ 0) :
    (state.step platform step).stores.redis = state.stores.redis.revoked jti exp step.io.now := by
  obtain ⟨isCall, answered, decoded, named, expires⟩ := accepted
  have writes : logout step.io.now (step.signer platform state) token =
      TokenBlacklist.revoke step.io.now jti (revocationTtl exp step.io.now) := by
    rw [logout_eq _ _ _ _ _ _ decoded named expires]
    exact if_neg (not_or.mpr ⟨nonempty, later⟩)
  rw [SessionStep.outcome, isCall, SessionCall.program] at answered
  obtain ⟨_, through, _⟩ := Prog.exec_bind_ok _ _ _ _ _ answered
  rw [SessionState.step, SessionStep.outcome, isCall, SessionCall.program, Prog.exec_pure_store, Prog.exec_focus]
  rw [Prog.exec_focus] at through
  rw [writes, revoke_exec] at through ⊢
  cases fault : step.script.headD .none with
  | none => rfl
  | before =>
      rw [fault] at through
      cases through
  | after =>
      rw [fault] at through
      cases through

theorem logout_keeps_accounts (state : SessionState) (step : SessionStep) (token : String)
    (isCall : step.call = .logout token) :
    (state.step platform step).stores.db = state.stores.db := by
  rw [SessionState.step, SessionStep.outcome, isCall, SessionCall.program, Prog.exec_pure_store, Prog.exec_focus]
  rfl

theorem clock_monotone (start : SessionState) (steps : List SessionStep)
    (lawful : (sessionMachine platform).Lawful start steps) :
    start.clock ≤ ((sessionMachine platform).replay start steps).clock :=
  (sessionMachine platform).lawful_history start (fun _ state => start.clock ≤ state.clock) le_rfl
    (fun _ _ reached ordered => reached.trans ordered) steps lawful

-- A refresh token as login mints it, between the instant its entry is gone and its expiry.
theorem revived (documented : platform.provider.jwt.Documented) (state : SessionState) (row : UserRow)
    (loggedInAt now : Time) (refreshJti accessJti : Uuid) (db : Db) (claims : Claims)
    (isClaims : claims = platform.provider.claimsOf (JwtTokenProvider.refreshClaims row.id.text) loggedInAt refreshJti
      platform.provider.refreshTtl)
    (signed : platform.provider.jwt.encode claims ∈ state.issued) (since : loggedInAt ≤ now)
    (valid : now < (⌊loggedInAt + platform.provider.refreshTtl⌋ : Int)) (found : db.users.find row.id.text = some row)
    (active : row.state = .active)
    (gone : state.stores.redis.present (TokenBlacklist.keyPrefix ++ refreshJti.text) now = false) :
    ((refresh now ⟨platform.provider, state.issued, accessJti, refreshJti⟩
      (platform.provider.jwt.encode claims)).exec [] ⟨db, state.stores.redis⟩).result =
      .ok (platform.provider.createAccessToken now accessJti row.id.text row.role.value none) := by
  have reached : ((⌊loggedInAt⌋ : Int) : ℚ) ≤ now := (Int.floor_le loggedInAt).trans since
  have decoded : platform.provider.decodeRefreshToken state.issued now (platform.provider.jwt.encode claims) =
      .ok claims := by
    subst isClaims
    refine (platform.provider.decode_ok_iff _ _ _ _ _).mpr ⟨?_, rfl⟩
    exact documented.accepted _ _ _ _ _ _ _ _ signed rfl rfl rfl rfl rfl reached reached valid
  rw [refresh_exec now _ _ ⟨db, state.stores.redis⟩ claims decoded, refreshAnswer]
  subst isClaims
  have unnamed : state.stores.redis.revokedNow now (some refreshJti.text) = false := by
    rw [Redis.revokedNow]
    split
    · rfl
    · exact gone
  have notRevoked : state.stores.redis.revokedNow now (platform.provider.claimsOf
      (JwtTokenProvider.refreshClaims row.id.text) loggedInAt refreshJti platform.provider.refreshTtl).jti =
        false := unnamed
  dsimp only
  rw [notRevoked]
  have isSub : (platform.provider.claimsOf (JwtTokenProvider.refreshClaims row.id.text) loggedInAt refreshJti
      platform.provider.refreshTtl).sub = some row.id.text := rfl
  rw [isSub]
  dsimp only
  rw [answered_legal _ (legal_one _ row.id.fits.2), found]
  dsimp only
  rw [if_pos active]
  rfl

theorem uuid_nonempty (uuid : Uuid) : uuid.text ≠ "" := by
  intro empty
  have length := uuid.length
  rw [empty] at length
  exact absurd length (by decide)

-- A logged-out refresh token stays dead exactly when the logout falls on a whole second
-- or within the token's last second.
theorem logged_out_stays_dead (documented : platform.provider.jwt.Documented) (start : SessionState)
    (unissued : start.issued = [])
    (epoch : 0 ≤ start.clock) (past : List SessionStep) (step : SessionStep) (token : String) (claims : Claims)
    (jti : String) (exp : Int) (lawful : (sessionMachine platform).Lawful start (past ++ [step]))
    (accepted : AcceptedLogout platform ((sessionMachine platform).replay start past) step token claims jti exp) :
    StaysDead platform ((sessionMachine platform).replay start (past ++ [step])) token jti exp ↔
      Covered exp step.io.now := by
  obtain ⟨lawfulPast, ordered⟩ := (Machine.lawful_snoc _ _ _ _).mp lawful
  have minted := all_minted platform start documented unissued past lawfulPast
  obtain ⟨loggedInAt, refreshJti, userId, isClaims, loggedIn, before, valid⟩ :=
    refresh_login platform start documented past _ minted _ _ _ accepted.decoded
  have isExp : exp = ⌊loggedInAt + platform.provider.refreshTtl⌋ := by
    have expires := accepted.expires
    rw [isClaims] at expires
    exact (Option.some.inj expires).symm
  have isJti : jti = refreshJti.text := by
    have named := accepted.named
    rw [isClaims] at named
    exact (Option.some.inj named).symm
  obtain ⟨signed, isToken, _⟩ := documented.decoded _ _ _ _ _ _
    ((platform.provider.decode_ok_iff _ _ _ _ _).mp accepted.decoded).1
  rw [← isExp] at valid
  have nonempty : jti ≠ "" := isJti ▸ uuid_nonempty refreshJti
  have notZero : exp ≠ 0 := by
    have started : (0 : ℚ) ≤ step.io.now := (epoch.trans (clock_monotone platform start past lawfulPast)).trans ordered
    intro zero
    rw [zero, Int.cast_zero] at valid
    exact absurd valid (not_lt.mpr started)
  have written := logout_step platform _ step token claims jti exp accepted nonempty notZero
  rw [Machine.replay_snoc, ← covered_iff exp step.io.now valid, isToken]
  constructor
  · intro dead
    by_contra short
    obtain ⟨beforeLogin, login, afterLogin, _, _, row, email, password, ip, _, isRow, logsIn, _⟩ := loggedIn
    have untilLater : step.io.now ≤ revokedUntil exp step.io.now := by
      have positive : (0 : ℚ) ≤ (revocationTtl exp step.io.now : Int) :=
        Int.cast_nonneg (revocation_ttl_pos exp step.io.now).le
      rw [revokedUntil]
      linarith
    obtain ⟨message, refused⟩ := dead [] trivial (revokedUntil exp step.io.now) untilLater
      ((sessionMachine platform).replay start beforeLogin).stores.db refreshJti refreshJti
    have gone : (((sessionMachine platform).replay start past).step platform step).stores.redis.present
        (TokenBlacklist.keyPrefix ++ refreshJti.text) (revokedUntil exp step.io.now) = false := by
      rw [written, ← isJti, Redis.present, revoked_here]
      exact decide_eq_false (lt_irrefl _)
    have answered :=
      revived platform documented (((sessionMachine platform).replay start past).step platform step) row loggedInAt
      (revokedUntil exp step.io.now) refreshJti refreshJti
      ((sessionMachine platform).replay start beforeLogin).stores.db claims (isRow ▸ isClaims)
      (isToken ▸ List.mem_append_left _ signed) ((before.trans ordered).trans untilLater) (isExp ▸ not_le.mp short)
      (logs_in_row platform row email password _ logsIn) logsIn.active gone
    rw [Machine.replay, List.foldl_nil] at refused
    exact nomatch answered.symm.trans refused
  · intro outlives later lawfulLater now _
    have holds : ((((sessionMachine platform).replay start past).step platform step)).stores.redis.Holds jti exp := by
      rw [written]
      exact ⟨_, revoked_here _ _ _ _, outlives⟩
    exact refused_of_holds platform documented jti exp _ now claims accepted.named nonempty accepted.expires
      (holds_later platform jti exp _ later lawfulLater holds)

theorem logout_answers (state : SessionState) (step : SessionStep) (token : String) (claims : Claims)
    (jti : String) (exp : Int) (isCall : step.call = .logout token) (unfailing : step.script = [])
    (decoded : platform.provider.decodeRefreshToken state.issued step.io.now token = .ok claims)
    (named : claims.jti = some jti)
    (expires : claims.exp = some exp) : AcceptedLogout platform state step token claims jti exp := by
  refine ⟨isCall, ?_, decoded, named, expires⟩
  have answers : ((logout step.io.now (step.signer platform state) token).exec [] state.stores.redis).result =
      .ok () := by
    rw [logout_eq step.io.now (step.signer platform state) token jti exp claims decoded named expires]
    split
    · rfl
    · rw [revoke_exec]
      rfl
  have focused : (((logout step.io.now (step.signer platform state) token).focus Stores.onRedis).exec
    [] state.stores).result =
      .ok () := by
    rw [Prog.exec_focus]
    exact answers
  rw [SessionStep.outcome, isCall, SessionCall.program, unfailing, Prog.exec_bind]
  cases ended : ((logout step.io.now (step.signer platform state) token).focus Stores.onRedis).exec [] state.stores with
  | mk result later stores =>
      rw [ended] at focused
      dsimp only at focused
      subst focused
      rfl

end Runs

def sampleRefresh : String := samplePlatform.provider.createRefreshToken 0 sampleLogin.refreshJti "s1"

def sampleRefreshClaims : Claims :=
  samplePlatform.provider.claimsOf (JwtTokenProvider.refreshClaims "s1") 0 sampleLogin.refreshJti
    samplePlatform.provider.refreshTtl

-- The super admin logs out half a second after a whole second.
def sampleLogout : SessionStep where
  call := .logout sampleRefresh
  io := { sampleLogin.io with now := 1 / 2 }
  accessJti := sampleLogin.accessJti
  refreshJti := sampleLogin.refreshJti
  script := []

theorem sample_refresh_expires : ⌊(0 : Time) + samplePlatform.provider.refreshTtl⌋ = 604800 := by
  rw [sample_refresh_ttl, zero_add, Int.floor_ofNat]

theorem sample_refresh_signed :
    sampleRefresh ∈ ((sessionMachine samplePlatform).replay sampleState [sampleLogin]).issued := by
  change sampleRefresh ∈ (sampleState.step samplePlatform sampleLogin).issued
  rw [sample_issued]
  exact List.mem_cons_of_mem _ (List.mem_cons_self ..)

theorem sample_logout : AcceptedLogout samplePlatform ((sessionMachine samplePlatform).replay sampleState [sampleLogin])
    sampleLogout sampleRefresh sampleRefreshClaims sampleLogin.refreshJti.text 604800 := by
  have expires : sampleRefreshClaims.exp = some 604800 := congrArg some sample_refresh_expires
  have since : ((0 : Int) : ℚ) ≤ sampleLogout.io.now := by
    change ((0 : Int) : ℚ) ≤ 1 / 2
    norm_num
  have valid : sampleLogout.io.now < ((604800 : Int) : ℚ) := by
    change (1 / 2 : ℚ) < ((604800 : Int) : ℚ)
    norm_num
  have decoded : samplePlatform.provider.decodeRefreshToken
      ((sessionMachine samplePlatform).replay sampleState [sampleLogin]).issued sampleLogout.io.now sampleRefresh =
      .ok sampleRefreshClaims :=
    (JwtTokenProvider.decode_ok_iff _ _ _ _ _ _).mpr
      ⟨PyJwt.json_documented.accepted _ sampleLogout.io.now _ _ sampleRefreshClaims
      0 0 604800 sample_refresh_signed rfl rfl (by decide) (by decide) expires since since valid, rfl⟩
  exact logout_answers samplePlatform _ sampleLogout sampleRefresh sampleRefreshClaims _ _ rfl rfl decoded rfl expires

theorem sample_order : (0 : Time) ≤ sampleLogout.io.now := by
  change (0 : ℚ) ≤ 1 / 2
  norm_num

theorem sample_entry : ((sessionMachine samplePlatform).replay sampleState [sampleLogin, sampleLogout]).stores.redis =
    (((sessionMachine samplePlatform).replay sampleState [sampleLogin]).stores.redis).revoked
      sampleLogin.refreshJti.text 604800
      (1 / 2) :=
  logout_step samplePlatform _ sampleLogout sampleRefresh sampleRefreshClaims _ _ sample_logout
    (uuid_nonempty _) (by decide)

theorem sample_revoked_until : revokedUntil 604800 (1 / 2) = 604799 + 1 / 2 := by
  have remaining : ((604800 : Int) : ℚ) - 1 / 2 = 604799 + 1 / 2 := by norm_num
  have floor : ⌊(604799 + 1 / 2 : ℚ)⌋ = 604799 := by
    rw [Int.floor_eq_iff]
    norm_num
  have ttl : revocationTtl 604800 (1 / 2) = 604799 := by
    rw [revocationTtl, remaining, toInt, if_pos (by norm_num), floor]
    rfl
  rw [revokedUntil, ttl]
  norm_num

theorem sample_stays_dead :
    StaysDead samplePlatform ((sessionMachine samplePlatform).replay sampleState [sampleLogin, sampleLogout])
      sampleRefresh
      sampleLogin.refreshJti.text 604800 ↔ Covered 604800 (1 / 2) :=
  logged_out_stays_dead samplePlatform PyJwt.json_documented sampleState rfl le_rfl
    [sampleLogin] sampleLogout sampleRefresh
    sampleRefreshClaims _ 604800 ⟨le_rfl, sample_order, trivial⟩ sample_logout

-- The entry is gone half a second before the token expires, and the token is good again.
theorem logged_out_token_revives :
    AcceptedLogout samplePlatform ((sessionMachine samplePlatform).replay sampleState [sampleLogin]) sampleLogout
      sampleRefresh
        sampleRefreshClaims sampleLogin.refreshJti.text 604800 ∧
      ∃ now ≥ sampleLogout.io.now, ∃ access,
        ((refresh now ⟨samplePlatform.provider,
          ((sessionMachine samplePlatform).replay sampleState [sampleLogin, sampleLogout]).issued,
            sampleLogin.accessJti, sampleLogin.refreshJti⟩ sampleRefresh).exec []
          ⟨((sessionMachine samplePlatform).replay sampleState [sampleLogin, sampleLogout]).stores.db,
            ((sessionMachine samplePlatform).replay sampleState [sampleLogin, sampleLogout]).stores.redis⟩).result =
          .ok access := by
  have afterLogout : sampleLogout.io.now ≤ 604799 + 1 / 2 := by
    change (1 / 2 : ℚ) ≤ 604799 + 1 / 2
    norm_num
  have beforeExpiry : (604799 + 1 / 2 : ℚ) < (⌊(0 : Time) + samplePlatform.provider.refreshTtl⌋ : Int) := by
    rw [sample_refresh_expires]
    norm_num
  have gone : ((sessionMachine samplePlatform).replay sampleState [sampleLogin, sampleLogout]).stores.redis.present
      (TokenBlacklist.keyPrefix ++ sampleLogin.refreshJti.text) (604799 + 1 / 2) = false := by
    rw [sample_entry, Redis.present, revoked_here, sample_revoked_until]
    exact decide_eq_false (lt_irrefl _)
  have signed : PyJwt.json.encode sampleRefreshClaims ∈
      ((sessionMachine samplePlatform).replay sampleState [sampleLogin, sampleLogout]).issued :=
    List.mem_append_left _ sample_refresh_signed
  have found : ((sessionMachine samplePlatform).replay sampleState [sampleLogin, sampleLogout]).stores.db.users.find
      seededRow.id.text = some seededRow := by
    have kept := logout_keeps_accounts samplePlatform
      (sampleState.step samplePlatform sampleLogin) sampleLogout sampleRefresh rfl
    exact (congrArg (fun db : Db => db.users.find seededRow.id.text) kept).trans rfl
  have answer := revived samplePlatform PyJwt.json_documented
    ((sessionMachine samplePlatform).replay sampleState [sampleLogin, sampleLogout]) seededRow 0 (604799 + 1 / 2)
    sampleLogin.refreshJti sampleLogin.accessJti
    ((sessionMachine samplePlatform).replay sampleState [sampleLogin, sampleLogout]).stores.db
      sampleRefreshClaims rfl signed
    (by norm_num) beforeExpiry found rfl gone
  exact ⟨sample_logout, 604799 + 1 / 2, afterLogout, _, answer⟩

end AuthProfile
