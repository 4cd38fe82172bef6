import AuthProfile.Escalation
import AuthProfile.Sessions
import Mathlib.Tactic.NormNum

set_option autoImplicit false

namespace AuthProfile

open Relation Process

section Fresh

variable (platform : SessionPlatform) (start : SessionState) (steps : List SessionStep)

-- The token was issued less than accessTtl ago, to an account that was ACTIVE and had
-- the role, and that had logged in with its password less than refreshTtl before that.
structure FreshAuthority (now : Time) (token userId role : String) (issuedAt loggedInAt : Time) : Prop where
  issued : IssuedAt platform start issuedAt token userId role steps
  begun : issuedAt ≤ now
  unexpired : now < issuedAt + platform.provider.accessTtl
  loggedIn : LoggedInAt platform start loggedInAt userId steps
  ordered : loggedInAt ≤ issuedAt
  refreshable : issuedAt < loggedInAt + platform.provider.refreshTtl

theorem never_confused (documented : platform.provider.jwt.Documented) (minted : Claims) (signed : List String)
    (now : Time) (mintedType expectedType : String) (typed : minted.typ = some mintedType)
    (different : mintedType ≠ expectedType) (claims : Claims) :
    platform.provider.decode signed now (platform.provider.jwt.encode minted) expectedType ≠ .ok claims := by
  intro run
  obtain ⟨accepted, isExpected⟩ := (platform.provider.decode_ok_iff _ _ _ _ _).mp run
  obtain ⟨_, isToken, _⟩ := documented.decoded _ _ _ _ _ _ accepted
  have same : minted = claims := documented.injective isToken
  rw [← same, typed, Option.some.injEq] at isExpected
  exact different isExpected

-- In every run: an accepted access token has a fresh authority, and the two types of
-- token are never taken for each other.
theorem access_is_fresh (documented : platform.provider.jwt.Documented) (positive : 0 < platform.provider.refreshTtl)
    (unissued : start.issued = []) (lawful : (sessionMachine platform).Lawful start steps) :
    (∀ now token claims, ((sessionMachine platform).replay start steps).clock ≤ now →
      platform.provider.decodeAccessToken ((sessionMachine platform).replay start steps).issued now token = .ok claims →
      ∃ userId role issuedAt loggedInAt, claims.sub = some userId ∧ claims.role = some role ∧
        FreshAuthority platform start steps now token userId role issuedAt loggedInAt) ∧
    (∀ signed now claims issuedAt jti userId, platform.provider.decodeAccessToken signed now
      (platform.provider.createRefreshToken issuedAt jti userId) ≠ .ok claims) ∧
    (∀ signed now claims issuedAt jti userId role scopes, platform.provider.decodeRefreshToken signed now
      (platform.provider.createAccessToken issuedAt jti userId role scopes) ≠ .ok claims) := by
  refine ⟨fun now token claims later decoded => ?_, ?_, ?_⟩
  · have minted := all_minted platform start documented unissued steps lawful
    obtain ⟨issuedAt, loggedInAt, jti, userId, role, isClaims, issued, loggedIn, ordered, refreshable, before, valid⟩ :=
      access_login platform start documented steps _ minted now token claims decoded
    subst isClaims
    have recent : issuedAt < loggedInAt + platform.provider.refreshTtl := by
      rcases refreshable with same | recent
      · rw [same]
        exact lt_add_of_pos_right _ positive
      · exact recent
    exact ⟨userId, role, issuedAt, loggedInAt, rfl, rfl, issued, before.trans later,
      expires_in_time _ _ _ valid, loggedIn,
      ordered, recent⟩
  · intro signed now claims issuedAt jti userId
    exact never_confused platform documented _ signed now _ _ rfl (by decide) claims
  · intro signed now claims issuedAt jti userId role scopes
    exact never_confused platform documented _ signed now _ _ rfl (by decide) claims

end Fresh

-- The seeded super admin logs in with the default password, and later presents the access token.
def samplePlatform : SessionPlatform where
  toPlatform := asciiPlatform
  provider := ⟨.json, "arcadia-auth", "arcadia", 15, 7⟩

def sampleState : SessionState := ⟨⟨seededService.db, .empty⟩, [], 0⟩

def sampleLogin : SessionStep where
  call := .login "admin@arcadia.com" "admin-password" "127.0.0.1"
  io := sampleIo
  accessJti := ⟨"00000000-0000-4000-8000-000000000001", by decide⟩
  refreshJti := ⟨"00000000-0000-4000-8000-000000000002", by decide⟩
  script := []

def sampleAccess : String := samplePlatform.provider.createAccessToken 0 sampleLogin.accessJti "s1" "ADMIN" none

def sampleAccessClaims : Claims :=
  samplePlatform.provider.claimsOf (JwtTokenProvider.accessClaims "s1" "ADMIN" none) 0 sampleLogin.accessJti
    samplePlatform.provider.accessTtl

theorem sample_access_ttl : samplePlatform.provider.accessTtl = 900 := by
  change ((15 : Int) : ℚ) * 60 = 900
  norm_num

theorem sample_refresh_ttl : samplePlatform.provider.refreshTtl = 604800 := by
  change ((7 : Int) : ℚ) * 86400 = 604800
  norm_num

theorem sample_refresh_positive : 0 < samplePlatform.provider.refreshTtl := by
  rw [sample_refresh_ttl]
  norm_num

theorem sample_issued : (sampleState.step samplePlatform sampleLogin).issued =
    [sampleAccess, samplePlatform.provider.createRefreshToken 0 sampleLogin.refreshJti "s1"] := rfl

theorem sample_accepted : samplePlatform.provider.decodeAccessToken
    ((sessionMachine samplePlatform).replay sampleState [sampleLogin]).issued 60 sampleAccess =
      .ok sampleAccessClaims := by
  refine (JwtTokenProvider.decode_ok_iff _ _ _ _ _ _).mpr ⟨?_, rfl⟩
  have signed : PyJwt.json.encode sampleAccessClaims ∈ (sampleState.step samplePlatform sampleLogin).issued := by
    rw [sample_issued]
    exact List.mem_cons_self ..
  have expires : sampleAccessClaims.exp = some 900 := by
    change some ⌊0 + samplePlatform.provider.accessTtl⌋ = some 900
    rw [sample_access_ttl, zero_add, Int.floor_ofNat]
  exact PyJwt.json_documented.accepted _ 60 _ _ sampleAccessClaims 0 0 900 signed rfl rfl (by decide)
    (by decide) expires
    (by norm_num) (by norm_num) (by norm_num)

theorem sample_access_is_fresh : ∃ userId role issuedAt loggedInAt,
    sampleAccessClaims.sub = some userId ∧ sampleAccessClaims.role = some role ∧
      FreshAuthority samplePlatform sampleState [sampleLogin] 60 sampleAccess userId role issuedAt loggedInAt :=
  (access_is_fresh samplePlatform sampleState [sampleLogin] PyJwt.json_documented sample_refresh_positive rfl
    ⟨le_rfl, trivial⟩).1 60 sampleAccess
    sampleAccessClaims (by decide) sample_accepted

end AuthProfile
