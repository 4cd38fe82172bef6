import AuthProfile.Db.Schema

set_option autoImplicit false

namespace AuthProfile

structure ErrorResponse where
  status : Nat
  detail : String
deriving DecidableEq, Repr

-- _STATUS_MAP, by the type of the exception.
def statusMap : Error → Option Nat
  | .domain (.duplicateEmail _) => some 409
  | .domain .invalidCredentials => some 401
  | .domain (.accountNotUsable _) => some 403
  | .domain (.token _) => some 401
  | .domain (.invalidStateTransition _ _) => some 409
  | .domain (.invalidRoleTransition _) => some 403
  | .domain (.userNotFound _) => some 404
  | .domain (.roleRequestNotFound _) => some 404
  | .domain (.roleRequestAlreadyDecided _) => some 409
  | .profileNotFound _ => some 404
  | .domain (.recipientNotFound _) => some 404
  | .domain (.recipientNotUnique _ _) => some 409
  | _ => none

def handleDomainError (exc : DomainError) : ErrorResponse := ⟨(statusMap (.domain exc)).getD 400, exc.message⟩

def handleProfileDomainError (userId : String) : ErrorResponse :=
  ⟨(statusMap (.profileNotFound userId)).getD 400, "Profile for user '" ++ userId ++ "' was not found."⟩

def handleUnexpectedError : ErrorResponse := ⟨500, "Internal server error."⟩

-- Which handler an exception meets; an HTTPException is answered by FastAPI itself.
def Error.response : Error → ErrorResponse
  | .domain exc => handleDomainError exc
  | .profileNotFound userId => handleProfileDomainError userId
  | .http status detail => ⟨status, detail⟩
  | _ => handleUnexpectedError

def ErrorResponse.clientError (response : ErrorResponse) : Prop := 400 ≤ response.status ∧ response.status < 500

theorem unexpected_not_client : ¬ handleUnexpectedError.clientError := by
  simp [ErrorResponse.clientError, handleUnexpectedError]

theorem domain_client (exc : DomainError) : (handleDomainError exc).clientError := by
  cases exc <;> simp [ErrorResponse.clientError, handleDomainError, statusMap]

-- What a route answers is a result or a response of the 4xx.
def NoInternalError {α : Type} (answer : Except Error α) : Prop := ∀ exc, answer = .error exc → exc.response.clientError

theorem no_error_ok {α : Type} (value : α) : NoInternalError (.ok value : Except Error α) :=
  fun _ wrong => nomatch wrong

theorem no_error_client {α : Type} (exc : Error) :
    NoInternalError (.error exc : Except Error α) ↔ exc.response.clientError := by
  constructor
  · exact fun answered => answered exc rfl
  · intro client other same
    cases same
    exact client

theorem no_error_domain {α : Type} (exc : DomainError) : NoInternalError (.error (.domain exc) : Except Error α) :=
  (no_error_client (.domain exc)).mpr (domain_client exc)

end AuthProfile
