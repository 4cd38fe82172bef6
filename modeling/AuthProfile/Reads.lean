import AuthProfile.Process.Server
import AuthProfile.Rest.Api

set_option autoImplicit false

namespace AuthProfile

open Relation Process UserRepository ProfileRepository

theorem lift_domain_reads {σ α : Type} (answer : Except DomainError α) :
    (liftDomain answer : Prog σ Error α).Reads := by
  cases answer with
  | ok value => exact Prog.reads_pure _
  | error exc => exact Prog.reads_raise _

theorem get_user_by_email_reads (email : String) : (getUserByEmail email).Reads :=
  Prog.reads_bind _ _ (select_reads _ _) fun _ => Prog.reads_pure _

theorem user_by_id_reads (userId : String) : (getUserById userId).Reads :=
  Prog.reads_bind _ _ (select_reads _ _) fun _ => Prog.reads_pure _

theorem find_recipient_reads (dbLower lower : Lower) (query : String) : (findRecipient dbLower lower query).Reads := by
  rw [findRecipient]
  split
  · exact Prog.reads_raise _
  · split
    · refine Prog.reads_bind _ _ (get_user_by_email_reads _) fun found => ?_
      cases found with
      | none => exact Prog.reads_raise _
      | some user => exact Prog.reads_ite _ _ _ (Prog.reads_raise _) (Prog.reads_pure _)
    · refine Prog.reads_bind _ _ (select_reads _ _) fun found => ?_
      match found with
      | [] => exact Prog.reads_raise _
      | [user] => exact Prog.reads_pure _
      | _ :: _ :: _ => exact Prog.reads_raise _

section Search

variable {κ : Type} [Preorder κ] {collate : String → κ} (fold : Char → Char)
  (byName : OrderBy fun row : UserRow => collate row.displayName.text)

theorem search_active_reads (query : String) (limit : Nat) (excludeUserId : String) :
    (searchActive fold byName query limit excludeUserId).Reads :=
  Prog.reads_bind _ _ (select_reads _ _) fun _ => Prog.reads_of_except _

theorem suggest_recipients_reads (query excludeUserId : String) :
    (suggestRecipients fold byName query excludeUserId).Reads :=
  Prog.reads_ite _ _ _ (Prog.reads_pure _) (search_active_reads fold byName _ _ _)

end Search

-- Asking the directory changes nothing.
theorem directory_reads (collation : Collation) (lower : Lower) (currentUser : CurrentUser)
    (request : DirectoryRequest) :
    (request.handler collation lower currentUser).Reads := by
  cases request with
  | lookupRecipient q => exact Prog.reads_bind _ _ (find_recipient_reads _ _ q) fun _ => Prog.reads_pure _
  | suggestRecipients q => exact Prog.reads_bind _ _ (suggest_recipients_reads _ _ q _) fun _ => Prog.reads_pure _
  | listUsers | listUserIds | listPendingRoleRequests =>
      exact Prog.reads_bind _ _ (Prog.reads_bind _ _ (lift_domain_reads _) fun _ => Prog.reads_query _ _) fun _ =>
        Prog.reads_pure _

theorem revocation_check_reads (now : Time) (jti : Option String) : (isRevokedIfNamed now jti).Reads := by
  cases jti with
  | none => exact Prog.reads_pure _
  | some jti => exact Prog.reads_ite _ _ _ (Prog.reads_pure _) (Prog.reads_query _ _)

-- A refresh is paid for by nothing that is stored.
theorem refreshing_reads (now : Time) (signer : Signer) (refreshToken : String) :
    (refresh now signer refreshToken).Reads := by
  rw [refresh]
  cases signer.provider.decodeRefreshToken signer.signed now refreshToken with
  | error exc => exact Prog.reads_raise _
  | ok claims =>
      refine Prog.reads_bind _ _ (Prog.reads_focus _ _ (revocation_check_reads now claims.jti)) fun revoked => ?_
      refine Prog.reads_ite _ _ _ (Prog.reads_raise _) ?_
      cases claims.sub with
      | none => exact Prog.reads_raise _
      | some userId =>
          refine Prog.reads_bind _ _ (Prog.reads_focus _ _ (user_by_id_reads userId)) fun found => ?_
          cases found with
          | none => exact Prog.reads_raise _
          | some user => exact Prog.reads_ite _ _ _ (Prog.reads_raise _) (Prog.reads_pure _)

theorem get_by_user_id_reads (io : Circumstances) (userId : String) : (getByUserId io userId).Reads := by
  refine Prog.reads_bind _ _ (select_reads _ _) fun found => ?_
  cases found with
  | none => exact Prog.reads_pure _
  | some row =>
      refine Prog.reads_bind _ _ (select_reads _ _) fun games => Prog.reads_bind _ _ (select_reads _ _) fun items => ?_
      exact Prog.reads_bind _ _ (select_reads _ _) fun posts => Prog.reads_pure _

theorem get_profile_reads (io : Circumstances) (userId : String) : (getProfile io userId).Reads := by
  refine Prog.reads_bind _ _ (Prog.reads_focus _ _ (get_by_user_id_reads io userId)) fun found => ?_
  cases found with
  | none => exact Prog.reads_raise _
  | some profile => exact Prog.reads_bind _ _ (Prog.reads_focus _ _ (Prog.reads_query _ _)) fun online =>
      Prog.reads_pure _

-- Neither does asking for a profile.
theorem profile_route_reads (io : Circumstances) (provider : JwtTokenProvider) (signed : List String)
    (credentials : Option String)
    (userId : String) : (ProfileController.profileRoute io provider signed credentials userId).Reads := by
  refine Prog.reads_bind _ _ (Prog.reads_of_except _) fun currentUser => ?_
  exact Prog.reads_bind _ _ (get_profile_reads io userId) fun profile => Prog.reads_pure _

end AuthProfile
