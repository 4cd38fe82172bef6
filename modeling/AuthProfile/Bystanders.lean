import AuthProfile.App
import AuthProfile.Circulation
import AuthProfile.Frames
import AuthProfile.Reads
import AuthProfile.Seeding

set_option autoImplicit false

-- What comes in without touching the accounts.
namespace AuthProfile

open Relation Process UserRepository

def Db.SameAccounts (before after : Db) : Prop := after.users = before.users ∧ after.roleRequests = before.roleRequests

theorem elsewhere_focus {σ α : Type} (lens : Lens WireStores σ) (p : Prog σ Error α) (small : σ → σ → Prop)
    (steps : p.Steps small)
    (apart : ∀ wire s, small (lens.get wire) s → Db.SameAccounts wire.stores.db (lens.set wire s).stores.db) :
    (p.focus lens).Steps fun before after => Db.SameAccounts before.stores.db after.stores.db :=
  Prog.steps_focus lens small _ apart p steps

-- An audit row is all that a login leaves.
theorem login_bystands (lower : Lower) (hasher : PasswordHasher) (io : Surroundings) (signer : Signer)
    (email password ip : String) :
    (login lower hasher io signer email password ip).Steps Db.SameAccounts := by
  refine Prog.steps_of_meets .empty _ _ _
    (login_meets lower hasher io signer email password ip (fun _ => True) _ (fun _ => True) (fun _ => ⟨rfl, rfl⟩)
    (fun _ _ before after _ audited => ?_) (fun _ _ => trivial) (fun _ _ _ _ _ _ _ => trivial)
      fun _ _ _ _ _ _ _ _ _ => trivial)
  cases audited with
  | kept same => exact same ▸ ⟨rfl, rfl⟩
  | added run =>
      obtain ⟨users, roleRequests, _⟩ := Db.flush_login_audit _ _ _ run
      exact ⟨users, roleRequests⟩

-- Everything but a registration and the role and admin routes.
structure Arrival.Bystands (arrival : Arrival) : Prop where
  register : ∀ body draws, arrival ≠ .http (.register body) draws
  roleAdmin : ∀ credentials request draws, arrival ≠ .http (.roleAdmin credentials request) draws

theorem bystander_steps (deployment : Deployment) (signed : List String) (arrival : Arrival)
    (bystands : arrival.Bystands) :
    (arrival.program deployment signed).Steps fun before after => Db.SameAccounts before.stores.db after.stores.db := by
  have reads : ∀ p : Prog WireStores Error Outcome, p.Reads →
      p.Steps fun before after => Db.SameAccounts before.stores.db after.stores.db :=
    fun p reads => Prog.steps_mono _ _ (fun _ _ same => same ▸ ⟨rfl, rfl⟩) p reads.steps
  cases arrival with
  | http request draws =>
      cases request with
      | register body => exact absurd rfl (bystands.register body draws)
      | roleAdmin credentials request => exact absurd rfl (bystands.roleAdmin credentials request draws)
      | login body client =>
          refine Prog.steps_bind _ _ _ (Prog.steps_bind _ _ _ (elsewhere_focus WireStores.onStores _
            (fun before after => Db.SameAccounts before.db after.db)
              (Prog.steps_focus Stores.onDb _ _ (fun _ _ same => same) _ ?_)
            fun _ _ same => same) fun _ => trivial) fun _ => trivial
          exact Prog.steps_bind _ _ _ (login_bystands deployment.lower deployment.hasher _ _ _ _ _) fun _ => trivial
      | refresh body =>
          refine reads _ (Prog.reads_bind _ _ (Prog.reads_bind _ _ (Prog.reads_focus _ _ ?_) fun _ => Prog.reads_pure _)
            fun _ => Prog.reads_pure _)
          exact Prog.reads_bind _ _ (refreshing_reads _ _ _) fun _ => Prog.reads_pure _
      | logout body =>
          refine Prog.steps_bind _ _ _
            (Prog.steps_bind _ _ _ (elsewhere_focus WireStores.onStores _ (fun before after => after.db = before.db) ?_
            fun _ _ same => ⟨congrArg Db.users same, congrArg Db.roleRequests same⟩) fun _ => trivial) fun _ => trivial
          exact Prog.steps_focus Stores.onRedis (fun _ _ => True) _ (fun _ _ _ => rfl) _ (Prog.steps_anything _)
      | directory credentials request =>
          refine reads _ (Prog.reads_bind _ _
            (Prog.reads_bind _ _ (Prog.reads_focus _ _ (Prog.reads_focus _ _ ?_)) fun _ => Prog.reads_pure _)
            fun _ => Prog.reads_pure _)
          exact Prog.reads_bind _ _ (Prog.reads_of_except _) fun caller =>
            Prog.reads_bind _ _ (Prog.reads_of_except _) fun _ =>
              directory_reads deployment.collation deployment.lower caller request
      | ownProfile credentials request =>
          exact Prog.steps_bind _ _ _
            (Prog.steps_bind _ _ _ (elsewhere_focus WireStores.onProfiles _ (fun _ _ => True) (Prog.steps_anything _)
            fun _ _ _ => ⟨rfl, rfl⟩) fun _ => trivial) fun _ => trivial
      | profile credentials userId =>
          refine reads _ (Prog.reads_bind _ _ (Prog.reads_bind _ _ ?_ fun _ => Prog.reads_pure _) fun _ =>
            Prog.reads_pure _)
          exact profile_route_reads draws.read deployment.provider signed credentials userId
  | socket connection =>
      refine Prog.steps_bind _ _ _ (socket_steps _ (fun _ => ⟨rfl, rfl⟩) (fun _ _ => ⟨rfl, rfl⟩) _ _ _ ?_)
        fun _ => trivial
      exact fun _ _ _ _ _ _ _ _ _ _ _ _ => ⟨rfl, rfl⟩
  | record delivery =>
      exact Prog.steps_bind _ _ _ (elsewhere_focus WireStores.onProfiles _ (fun _ _ => True) (Prog.steps_anything _)
        fun _ _ _ => ⟨rfl, rfl⟩) fun _ => trivial
  | wallet message =>
      refine reads _ (Prog.reads_bind _ _ ?_ fun _ => Prog.reads_pure _)
      exact Prog.reads_focus _ _ (Prog.reads_focus _ _ (abuse_reads deployment.python message))
  | relay polls =>
      refine Prog.steps_bind _ _ _
        (elsewhere_focus WireStores.onRelay _ (fun before after => Db.SameAccounts before.db after.db)
        (run_loop_steps _ (fun _ => ⟨rfl, rfl⟩) (fun _ _ => ⟨rfl, rfl⟩) (fun relay id now => ?_) deployment.relay polls)
          fun _ _ same => same)
        fun _ => trivial
      obtain ⟨users, roleRequests, _⟩ := mark_dispatched_frame relay.db id now
      exact ⟨users, roleRequests⟩

end AuthProfile
