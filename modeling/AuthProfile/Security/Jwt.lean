import AuthProfile.Domain.Auth
import Mathlib.Algebra.Order.Floor.Defs
import Mathlib.Data.Rat.Floor

set_option autoImplicit false

namespace AuthProfile

-- The claims this service writes or reads. A NumericDate is in whole seconds.
structure Claims where
  sub : Option String
  role : Option String
  scopes : Option (List String)
  typ : Option String
  iss : Option String
  aud : Option String
  iat : Option Int
  nbf : Option Int
  exp : Option Int
  jti : Option String
deriving DecidableEq, Repr

-- PyJWT with the service's secret and algorithm. That nobody signs without the secret
-- is in the first argument of decode: the tokens signed with it so far.
structure PyJwt where
  encode : Claims → String
  decode : List String → Time → String → String → String → Except String Claims

-- What PyJWT documents: a token holds its claims, decode gives them back for a token
-- signed with the secret, with this issuer and audience, between nbf, iat and exp.
structure PyJwt.Documented (jwt : PyJwt) : Prop where
  injective : Function.Injective jwt.encode
  decoded : ∀ signed now token issuer audience claims, jwt.decode signed now token issuer audience = .ok claims →
    token ∈ signed ∧ token = jwt.encode claims ∧ claims.iss = some issuer ∧ claims.aud = some audience ∧
      ∃ exp : Int, claims.exp = some exp ∧ now < exp
  accepted : ∀ signed (now : Time) issuer audience claims (iat nbf exp : Int), jwt.encode claims ∈ signed →
    claims.iss = some issuer → claims.aud = some audience → claims.iat = some iat → claims.nbf = some nbf →
      claims.exp = some exp → iat ≤ now → nbf ≤ now → now < exp →
        jwt.decode signed now (jwt.encode claims) issuer audience = .ok claims

-- A JWT body is the JSON text of its claims; `signed` takes the place of the signature.
namespace Claims

def optional {α : Type} (write : α → Json) : Option α → Json
  | none => .null
  | some value => write value

def ofText : Json → Option (Option String)
  | .null => some none
  | .str text => some (some text)
  | _ => none

def ofNumber : Json → Option (Option Int)
  | .null => some none
  | .num value => some (some value)
  | _ => none

def ofTexts : Json → Option (Option (List String))
  | .null => some none
  | .arr items => (items.mapM Json.text).map some
  | _ => none

def toJson (claims : Claims) : Json :=
  .obj [("sub", optional .str claims.sub), ("role", optional .str claims.role),
    ("scopes", optional (fun scopes => .arr (scopes.map .str)) claims.scopes), ("typ", optional .str claims.typ),
    ("iss", optional .str claims.iss), ("aud", optional .str claims.aud), ("iat", optional .num claims.iat),
    ("nbf", optional .num claims.nbf), ("exp", optional .num claims.exp), ("jti", optional .str claims.jti)]

def ofJson : Json → Option Claims
  | .obj [(_, sub), (_, role), (_, scopes), (_, typ), (_, iss), (_, aud), (_, iat), (_, nbf), (_, exp), (_, jti)] => do
      return ⟨← ofText sub, ← ofText role, ← ofTexts scopes, ← ofText typ, ← ofText iss, ← ofText aud, ← ofNumber iat,
        ← ofNumber nbf, ← ofNumber exp, ← ofText jti⟩
  | _ => none

theorem of_text_optional (text : Option String) : ofText (optional .str text) = some text := by
  cases text <;> rfl

theorem of_number_optional (value : Option Int) : ofNumber (optional .num value) = some value := by
  cases value <;> rfl

theorem texts_str (texts : List String) : (texts.map Json.str).mapM Json.text = some texts := by
  induction texts with
  | nil => rfl
  | cons text texts ih =>
      rw [List.map_cons, List.mapM_cons, ih]
      rfl

theorem of_texts_optional (texts : Option (List String)) :
    ofTexts (optional (fun scopes => .arr (scopes.map .str)) texts) = some texts := by
  cases texts with
  | none => rfl
  | some texts =>
      rw [optional, ofTexts, texts_str]
      rfl

theorem of_json_to_json (claims : Claims) : ofJson claims.toJson = some claims := by
  simp only [toJson, ofJson, of_text_optional, of_number_optional, of_texts_optional]
  rfl

end Claims

namespace PyJwt

def checked (now : Time) (issuer audience : String) (claims : Claims) : Except String Claims :=
  match claims.iat, claims.nbf, claims.exp with
  | some iat, some nbf, some exp =>
      if now < iat ∨ now < nbf then .error "The token is not yet valid"
      else if exp ≤ now then .error "Signature has expired"
      else if claims.iss ≠ some issuer then .error "Invalid issuer"
      else if claims.aud ≠ some audience then .error "Audience doesn't match"
      else .ok claims
  | _, _, _ => .error "Token is missing a required claim"

def json : PyJwt where
  encode := fun claims => Json.dumps claims.toJson
  decode := fun signed now token issuer audience =>
    match (Json.loads token).bind Claims.ofJson with
    | none => .error "Not enough segments"
    | some claims =>
        if token ≠ Json.dumps claims.toJson ∨ token ∉ signed then .error "Signature verification failed"
        else checked now issuer audience claims

theorem checked_ok (now : Time) (issuer audience : String) (claims read : Claims)
    (run : checked now issuer audience claims = .ok read) :
    read = claims ∧ claims.iss = some issuer ∧ claims.aud = some audience ∧ ∃ exp :
    Int, claims.exp = some exp ∧ now < exp := by
  rw [checked] at run
  split at run
  · rename_i iat nbf exp _ _ isExp
    split at run
    · cases run
    · split at run
      · cases run
      · rename_i valid
        split at run
        · cases run
        · rename_i issued
          split at run
          · cases run
          · rename_i meant
            cases run
            exact ⟨rfl, not_not.mp issued, not_not.mp meant, exp, isExp, not_le.mp valid⟩
  · cases run

theorem json_documented : json.Documented where
  injective := by
    intro first second same
    have parsed := congrArg (fun token => (Json.loads token).bind Claims.ofJson) same
    simp only [json, Json.loads_dumps, Option.bind_some, Claims.of_json_to_json, Option.some.injEq] at parsed
    exact parsed
  decoded := by
    intro signed now token issuer audience claims run
    simp only [json] at run
    split at run
    · cases run
    · split at run
      · cases run
      · rename_i read _ genuine
        obtain ⟨isText, isSigned⟩ := not_or.mp genuine
        obtain ⟨isRead, issued, meant, valid⟩ := checked_ok _ _ _ _ _ run
        subst isRead
        exact ⟨not_not.mp isSigned, not_not.mp isText, issued, meant, valid⟩
  accepted := by
    intro signed now issuer audience claims iat nbf exp isSigned issued meant isIat isNbf isExp since started valid
    have isClaims : (Json.loads (json.encode claims)).bind Claims.ofJson = some claims := by
      rw [json, Json.loads_dumps, Option.bind_some, Claims.of_json_to_json]
    have genuine : ¬ (json.encode claims ≠ Json.dumps claims.toJson ∨ json.encode claims ∉ signed) :=
      not_or.mpr ⟨not_not.mpr rfl, not_not.mpr isSigned⟩
    change (match (Json.loads (json.encode claims)).bind Claims.ofJson with
      | none => .error "Not enough segments"
      | some read =>
          if json.encode claims ≠ Json.dumps read.toJson ∨
            json.encode claims ∉ signed then .error "Signature verification failed"
          else checked now issuer audience read) = Except.ok claims
    rw [isClaims]
    dsimp only
    rw [if_neg genuine, checked, isIat, isNbf, isExp]
    dsimp only
    rw [if_neg (not_or.mpr ⟨not_lt.mpr since, not_lt.mpr started⟩), if_neg (not_le.mpr valid),
      if_neg (not_not.mpr issued),
      if_neg (not_not.mpr meant)]

end PyJwt

-- str(uuid.uuid4())
structure Uuid where
  text : String
  length : text.length = 36

structure JwtTokenProvider where
  jwt : PyJwt
  issuer : String
  audience : String
  accessTokenTtlMinutes : Int
  refreshTokenTtlDays : Int

namespace JwtTokenProvider

def ACCESS : String := "access"

def REFRESH : String := "refresh"

theorem access_not_refresh : some ACCESS ≠ some REFRESH := by decide

variable (provider : JwtTokenProvider)

def accessTtl : Time := provider.accessTokenTtlMinutes * 60

def refreshTtl : Time := provider.refreshTokenTtlDays * 86400

def claimsOf (claims : Claims) (now : Time) (jti : Uuid) (ttl : Time) : Claims :=
  { claims with
    iss := some provider.issuer
    aud := some provider.audience
    iat := some ⌊now⌋
    nbf := some ⌊now⌋
    exp := some ⌊now + ttl⌋
    jti := some jti.text }

def sign (claims : Claims) (now : Time) (jti : Uuid) (ttl : Time) : String :=
  provider.jwt.encode (provider.claimsOf claims now jti ttl)

def accessClaims (userId role : String) (scopes : Option (List String)) : Claims :=
  ⟨some userId, some role, some (scopes.getD []), some ACCESS, none, none, none, none, none, none⟩

def refreshClaims (userId : String) : Claims :=
  ⟨some userId, none, none, some REFRESH, none, none, none, none, none, none⟩

def createAccessToken (now : Time) (jti : Uuid) (userId role : String) (scopes : Option (List String)) : String :=
  provider.sign (accessClaims userId role scopes) now jti provider.accessTtl

def createRefreshToken (now : Time) (jti : Uuid) (userId : String) : String :=
  provider.sign (refreshClaims userId) now jti provider.refreshTtl

def decode (signed : List String) (now : Time) (token expectedType : String) : Except DomainError Claims :=
  match provider.jwt.decode signed now token provider.issuer provider.audience with
  | .error exc => .error (.token ("Invalid token: " ++ exc))
  | .ok claims =>
      if claims.typ ≠ some expectedType then .error (.token ("Expected a '" ++ expectedType ++ "' token."))
      else .ok claims

def decodeAccessToken (signed : List String) (now : Time) (token : String) : Except DomainError Claims :=
  provider.decode signed now token ACCESS

def decodeRefreshToken (signed : List String) (now : Time) (token : String) : Except DomainError Claims :=
  provider.decode signed now token REFRESH

theorem decode_ok_iff (signed : List String) (now : Time) (token expectedType : String) (claims : Claims) :
    provider.decode signed now token expectedType = .ok claims ↔
      provider.jwt.decode signed now token provider.issuer provider.audience = .ok claims ∧
        claims.typ = some expectedType := by
  rw [decode]
  cases provider.jwt.decode signed now token provider.issuer provider.audience with
  | error exc => exact ⟨fun wrong => (nomatch wrong), fun ⟨wrong, _⟩ => nomatch wrong⟩
  | ok read =>
      dsimp only
      by_cases typed : read.typ = some expectedType
      · rw [if_neg (not_not.mpr typed)]
        exact ⟨fun same => by cases same; exact ⟨rfl, typed⟩, fun ⟨same, _⟩ => by cases same; rfl⟩
      · rw [if_pos typed]
        exact ⟨fun wrong => (nomatch wrong), fun ⟨same, isTyped⟩ => by cases same; exact absurd isTyped typed⟩

end JwtTokenProvider

end AuthProfile
