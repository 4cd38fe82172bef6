import AuthProfile.Privileges
import AuthProfile.Visitors

set_option autoImplicit false

-- Who shows as online: the keys in Redis over whole runs, and what profiles say of them.
namespace AuthProfile

open Relation Process ProfileRepository

def Redis.online (redis : Redis) (userId : String) : Option Time := redis.expiries (PresenceStore.keyPrefix ++ userId)

section Keys

variable (redis after : Redis) (now : Time) (ex : Int)

-- No entry of the blacklist is ever taken for somebody online.
theorem revoked_not_online (jti userId : String)
    (isSet : redis.set (TokenBlacklist.keyPrefix ++ jti) now ex = .ok after) :
    after.online userId = redis.online userId := by
  rw [Redis.set] at isSet
  split at isSet
  · cases isSet
    have apart : PresenceStore.keyPrefix ++ userId ≠ TokenBlacklist.keyPrefix ++ jti := by
      intro same
      have firsts := congrArg (fun key : String => key.toList.head?) same
      simp [PresenceStore.keyPrefix, TokenBlacklist.keyPrefix] at firsts
    exact Function.update_of_ne apart (some (now + (ex : Time))) redis.expiries
  · cases isSet

theorem set_online (userId : String) (isSet : redis.set (PresenceStore.keyPrefix ++ userId) now ex = .ok after)
    (other : String) :
    after.online other = redis.online other ∨ other = userId ∧ after.online other = some (now + ex) := by
  rw [Redis.set] at isSet
  split at isSet
  · cases isSet
    by_cases same : other = userId
    · subst same
      exact Or.inr ⟨rfl, by simp [Redis.online]⟩
    · refine Or.inl (Function.update_of_ne (fun sameKey => same ?_) _ _)
      exact (String.append_right_inj PresenceStore.keyPrefix).mp sameKey
  · cases isSet

end Keys

-- A socket that let the user in by an access token in its first frame.
def PresenceConnection.Of (provider : JwtTokenProvider) (may : String → Role → Prop) (connection : PresenceConnection)
    (userId : String) : Prop :=
  ∃ token signed claims role, connection.first.frame = .text token ∧
    provider.decodeAccessToken signed connection.authenticatedAt token = .ok claims ∧ claims.sub = some userId ∧
      may userId role

-- A text frame of the user's socket puts the key off by the TTL.
def Arrival.Extends (provider : JwtTokenProvider) (may : String → Role → Prop) (userId : String) (expiry : Time) :
    Arrival → Prop
  | .socket connection => connection.Of provider may userId ∧ ∃ tick ∈ connection.first :: connection.later,
      (∃ content, tick.frame = .text content) ∧ expiry = tick.setAt + PRESENCE_TTL_SECONDS
  | _ => False

section Moves

variable (deployment : Deployment) (may : String → Role → Prop)

def Arrival.KeyMoves (arrival : Arrival) (before after : WireStores) : Prop :=
  ∀ userId, after.stores.redis.online userId = before.stores.redis.online userId ∨
    ∃ expiry, after.stores.redis.online userId = some expiry ∧ arrival.Extends deployment.provider may userId expiry

theorem same_redis_moves (arrival : Arrival) (before after : WireStores)
    (same : after.stores.redis = before.stores.redis) :
    arrival.KeyMoves deployment may before after := fun _ => Or.inl (same ▸ rfl)

section Apart

variable {α : Type}

theorem db_redis (p : Prog Db Error α) : ((p.focus Stores.onDb).focus WireStores.onStores).Steps fun before after =>
    after.stores.redis = before.stores.redis :=
  Prog.steps_focus WireStores.onStores (fun before after => after.redis = before.redis) _ (fun _ _ same => same) _
    (Prog.steps_focus Stores.onDb (fun _ _ => True) _ (fun _ _ _ => rfl) p (Prog.steps_anything p))

theorem profiles_redis (p : Prog ReadModel Error α) : (p.focus WireStores.onProfiles).Steps fun before after =>
    after.stores.redis = before.stores.redis :=
  Prog.steps_focus WireStores.onProfiles (fun _ _ => True) _ (fun _ _ _ => rfl) p (Prog.steps_anything p)

theorem relay_redis (p : Prog RelayStores Error α) : (p.focus WireStores.onRelay).Steps fun before after =>
    after.stores.redis = before.stores.redis :=
  Prog.steps_focus WireStores.onRelay (fun _ _ => True) _ (fun _ _ _ => rfl) p (Prog.steps_anything p)

theorem reads_redis (p : Prog WireStores Error α) (reads : p.Reads) : p.Steps fun before after =>
    after.stores.redis = before.stores.redis := Prog.steps_mono _ _ (fun _ _ same => same ▸ rfl) p reads.steps

end Apart

-- A request moves no key; logging out sets one of the blacklist.
theorem http_key_moves (signed : List String) (draws : Draws) (request : HttpRequest) :
    (request.program deployment draws signed).Steps ((Arrival.http request draws).KeyMoves deployment may) := by
  have kept {α : Type} (p : Prog WireStores Error α)
    (steps : p.Steps fun before after => after.stores.redis = before.stores.redis) :
      p.Steps ((Arrival.http request draws).KeyMoves deployment may) :=
        Prog.steps_mono _ _ (same_redis_moves deployment may _) p steps
  cases request with
  | register | login | roleAdmin | directory => exact Prog.steps_bind _ _ _ (kept _ (db_redis _)) fun _ => trivial
  | refresh body =>
      refine Prog.steps_bind _ _ _ (kept _ (reads_redis _ (Prog.reads_focus _ _ ?_))) fun _ => trivial
      exact Prog.reads_bind _ _ (refreshing_reads _ _ _) fun _ => Prog.reads_pure _
  | ownProfile => exact Prog.steps_bind _ _ _ (kept _ (profiles_redis _)) fun _ => trivial
  | profile credentials userId =>
      exact Prog.steps_bind _ _ _
        (kept _ (reads_redis _ (profile_route_reads draws.read deployment.provider signed credentials userId)))
        fun _ => trivial
  | logout body =>
      refine Prog.steps_bind _ _ _ ?_ fun _ => trivial
      refine Prog.steps_focus WireStores.onStores (fun before after => ∀ userId,
        after.redis.online userId = before.redis.online userId) _
        (fun _ _ same userId => Or.inl (same userId)) _ ?_
      refine Prog.steps_focus Stores.onRedis (fun before after => ∀ userId,
        after.online userId = before.online userId) _ (fun _ _ same => same) _ ?_
      refine Prog.steps_bind _ _ _ (Prog.steps_mono _ _ (fun _ _ same _ => same ▸ rfl) _ (lift_domain_reads _).steps)
        fun claims => ?_
      cases claims.jti with
      | none => trivial
      | some jti =>
          cases claims.exp with
          | none => trivial
          | some exp =>
              refine Prog.steps_ite _ _ _ _ trivial
                (Prog.steps_mono _ _ (fun before after moved userId => ?_) _ (redis_set_steps _ _ _))
              rcases moved with same | isSet
              · rw [same]
              · exact revoked_not_online before after _ _ jti userId isSet

-- A socket puts off the key of its own user only, by its text frames.
theorem socket_key_moves (signed : List String) (carried : ∀ token ∈ signed, Carries deployment.provider may token)
    (documented : deployment.provider.jwt.Documented) (connection : PresenceConnection) :
    (PresenceController.presenceHeartbeat deployment.provider signed connection).Steps
      ((Arrival.socket connection).KeyMoves deployment may) := by
  refine socket_steps _ (fun wire => same_redis_moves _ _ _ wire wire rfl)
    (fun wire message => same_redis_moves _ _ _ wire _ rfl) _ _ _
    fun token claims userId isFrame decoded isUser tick member isText wire redis isSet other => ?_
  obtain ⟨subject, role, isSubject, _, said⟩ := decoded_carries _ may documented signed carried _ token claims decoded
  rcases set_online wire.stores.redis redis tick.setAt _ userId isSet other with same | ⟨isUser', isOnline⟩
  · exact Or.inl same
  · refine Or.inr ⟨_, isOnline, ⟨token, signed, claims, role, isFrame, decoded, isUser' ▸ isUser, ?_⟩, tick,
      member, isText, rfl⟩
    have same : subject = userId := Option.some.inj (isSubject.symm.trans isUser)
    rw [isUser', ← same]
    exact said

theorem arrival_key_moves (signed : List String) (carried : ∀ token ∈ signed, Carries deployment.provider may token)
    (documented : deployment.provider.jwt.Documented) (arrival : Arrival) :
    (arrival.program deployment signed).Steps (arrival.KeyMoves deployment may) := by
  have kept {α : Type} (p : Prog WireStores Error α)
    (steps : p.Steps fun before after => after.stores.redis = before.stores.redis) :
      p.Steps (arrival.KeyMoves deployment may) := Prog.steps_mono _ _ (same_redis_moves deployment may _) p steps
  cases arrival with
  | http request draws =>
      exact Prog.steps_bind _ _ _ (http_key_moves deployment may signed draws request) fun _ => trivial
  | socket connection => exact Prog.steps_bind _ _ _ (socket_key_moves deployment may signed carried
      documented connection) fun _ => trivial
  | record delivery => exact Prog.steps_bind _ _ _ (kept _ (profiles_redis _)) fun _ => trivial
  | wallet message => exact Prog.steps_bind _ _ _ (kept _ (db_redis _)) fun _ => trivial
  | relay polls => exact Prog.steps_bind _ _ _ (kept _ (relay_redis _)) fun _ => trivial

end Moves

theorem present_iff (redis : Redis) (userId : String) (now : Time) :
    redis.present (PresenceStore.keyPrefix ++ userId) now = true ↔ ∃ expiry, redis.online userId = some expiry ∧
      now < expiry := by
  rw [Redis.present, ← Redis.online]
  cases redis.online userId with
  | none => simp
  | some expiry => simp

section Answers

variable (rely : WireStores → Prop)

-- A profile that says online was read when the key was there.
def TellsOnline (userId : String) (now : Time) {α : Type} (online : α → Bool) (answer : Except Error α) : Prop :=
  ∀ value, answer = .ok value → online value = true →
    ∃ wire, rely wire ∧ wire.stores.redis.present (PresenceStore.keyPrefix ++ userId) now = true

theorem error_tells (userId : String) (now : Time) {α : Type} (online : α → Bool) (error : Error) :
    TellsOnline rely userId now online (.error error) := by
  intro value isOk
  cases isOk

theorem get_profile_tells (io : Circumstances) (userId : String) :
    (getProfile io userId).Meets rely (fun s s' => s' = s) (TellsOnline rely userId io.now Profile.online) := by
  have fails := error_tells rely userId io.now Profile.online
  refine Prog.meets_steps_bind _ _ _ _ _ _ (Prog.reads_focus _ _ (get_by_user_id_reads io userId)).steps
    (fun _ _ _ same => same)
    fails fun found => ?_
  cases found with
  | none => exact fails _
  | some profile =>
      refine fun wire relied => ⟨WireStores.onRedis.set_get wire, fun _ => ?_, fails _⟩
      intro value isOk online
      cases isOk
      exact ⟨wire, relied, online⟩

theorem profile_route_tells (io : Circumstances) (provider : JwtTokenProvider) (signed : List String)
    (credentials : Option String) (userId : String) :
    (ProfileController.profileRoute io provider signed credentials userId).Meets rely (fun s s' => s' = s)
      (TellsOnline rely userId io.now ProfileResponse.online) := by
  rw [ProfileController.profileRoute]
  cases getOptionalUser provider signed io.now credentials with
  | error error => exact error_tells rely userId io.now _ error
  | ok currentUser =>
      change (ProfileController.getProfile io userId currentUser).Meets _ _ _
      refine Prog.meets_bind _ _ _ _ _
        (Prog.meets_mono _ _ _ _ _ (fun answer tells => ?_) (get_profile_tells rely io userId))
      cases answer with
      | error error => exact error_tells rely userId io.now _ error
      | ok profile =>
          intro response isOk online
          cases isOk
          exact tells profile rfl online

def Arrival.Tells (arrival : Arrival) (answer : Except Error Outcome) : Prop :=
  ∀ credentials userId draws response, arrival = .http (.profile credentials userId) draws →
    answer = .ok (.response (.profile response)) →
    response.online = true → ∃ wire, rely wire ∧
      wire.stores.redis.present (PresenceStore.keyPrefix ++ userId) draws.read.now = true

theorem arrival_tells (deployment : Deployment) (signed : List String) (arrival : Arrival) :
    (arrival.program deployment signed).Meets rely (fun _ _ => True) (arrival.Tells rely) := by
  by_cases isProfile : ∃ credentials userId draws, arrival = .http (.profile credentials userId) draws
  · obtain ⟨credentials, userId, draws, rfl⟩ := isProfile
    refine Prog.meets_rendered _ _ _ _ _ (Prog.meets_rendered _ _ _ _ _ ?_)
    refine Prog.meets_widen _ _ _ (fun _ _ _ _ => trivial) _ _ (Prog.meets_mono _ _ _ _ _ (fun answer tells => ?_)
      (profile_route_tells rely draws.read deployment.provider signed credentials userId))
    intro credentials' userId' draws' response sameArrival isOk online
    cases sameArrival
    cases answer with
    | error error => cases isOk
    | ok value =>
        cases isOk
        exact tells response rfl online
  · refine Prog.meets_of_steps _ _ _ _ _ (Prog.steps_anything _) (fun _ _ _ _ => trivial) fun answer => ?_
    exact fun credentials userId draws _ isArrival => absurd ⟨credentials, userId, draws, isArrival⟩ isProfile

end Answers

namespace App

variable (deployment : Deployment) (before : List String) (wire : WireStores)
    (documented : deployment.provider.jwt.Documented)
  (earlier : String → Role → Prop) (known : ∀ token ∈ before, Carries deployment.provider earlier token)
  (events : List (ServerEvent Arrival))
  (unknown : ∀ request draws, .arrives (.http request draws) ∈ events → draws.io.Unknown wire.stores.db)

-- Less than a TTL before, a socket of the user's own got a frame, or the key was there at the start.
def Beaten (userId : String) (now : Time) : Prop :=
  wire.stores.redis.present (PresenceStore.keyPrefix ++ userId) now = true ∨
    ∃ connection, .arrives (.socket connection) ∈ events ∧
      connection.Of deployment.provider (Shown deployment before wire earlier events) userId ∧
      ∃ tick ∈ connection.first :: connection.later, (∃ content, tick.frame = .text content) ∧
        now < tick.setAt + PRESENCE_TTL_SECONDS

-- The same of a store's keys.
def KeysBeaten (wire' : WireStores) : Prop :=
  ∀ userId expiry, wire'.stores.redis.online userId = some expiry → wire.stores.redis.online userId = some expiry ∨
    ∃ arrival, .arrives arrival ∈ events ∧
      arrival.Extends deployment.provider (Shown deployment before wire earlier events) userId expiry

theorem keys_beaten (wire' : WireStores) (keys : KeysBeaten deployment before wire earlier events wire')
    (userId : String) (now : Time)
    (present : wire'.stores.redis.present (PresenceStore.keyPrefix ++ userId) now = true) :
    Beaten deployment before wire earlier events userId now := by
  obtain ⟨expiry, isKey, later⟩ := (present_iff _ _ _).mp present
  rcases keys userId expiry isKey with atStart | ⟨arrival, arrives, extends_⟩
  · exact Or.inl ((present_iff _ _ _).mpr ⟨expiry, atStart, later⟩)
  · cases arrival with
    | socket connection =>
        obtain ⟨own, tick, member, isText, isExpiry⟩ := extends_
        exact Or.inr ⟨connection, arrives, own, tick, member, isText, isExpiry ▸ later⟩
    | http | record | wallet | relay => cases extends_

def KeysMove (arrival : Arrival) (wire' next : WireStores) : Prop :=
  .arrives arrival ∈ events ∧ arrival.KeyMoves deployment (Shown deployment before wire earlier events) wire' next

structure OnlineFit (arrival : Arrival) (answer : Except Error Outcome) : Prop where
  tokens : arrival.Fit deployment.provider (Shown deployment before wire earlier events) answer
  tells : arrival.Tells (fun wire' => wire' ∈ stores deployment before wire events) answer

include documented known unknown

theorem online_serves (arrival : Arrival) (answers : List (Arrival × Except Error Outcome))
    (arrives : .arrives arrival ∈ events)
    (fits : ∀ pair ∈ answers, OnlineFit deployment before wire earlier events pair.1 pair.2) :
    (serve deployment before arrival answers).Meets (fun wire' => wire' ∈ stores deployment before wire events)
      (KeysMove deployment before wire earlier events arrival)
        (OnlineFit deployment before wire earlier events arrival) := by
  have carry : ∀ pair ∈ answers, pair.1.Fit deployment.provider (Shown deployment before wire earlier events) pair.2 :=
    fun pair answered => (fits pair answered).tokens
  have accounts :=
    shown_serves deployment before wire documented earlier known events events unknown arrival answers arrives carry
  have tells := arrival_tells (fun wire' => wire' ∈ stores deployment before wire events) deployment
    (before ++ signedBy answers) arrival
  have keys := Prog.meets_of_steps (fun wire' => wire' ∈ stores deployment before wire events)
    (KeysMove deployment before wire earlier events arrival) _ (fun _ => True) _
    (arrival_key_moves deployment _ _ (shown_carries deployment before wire earlier known events answers carry)
      documented arrival)
    (fun _ _ _ moved => ⟨arrives, moved⟩) fun _ => trivial
  refine Prog.meets_widen _ _ _ (fun _ _ _ moved => moved.2.2) _ _ (Prog.meets_mono _ _ _ _ _ (fun answer fit => ?_)
    (Prog.meets_and _ _ _ _ _ _ accounts (Prog.meets_and _ _ _ _ _ _ tells keys)))
  exact ⟨fit.1, fit.2.1⟩

-- Who shows as online has sent a frame in the last seconds, on a socket that took the own
-- access token of an account that was ACTIVE; a profile says so of nobody else.
theorem online_by_heartbeat :
    (∀ wire' ∈ stores deployment before wire events, ∀ userId now,
      wire'.stores.redis.present (PresenceStore.keyPrefix ++ userId) now = true →
        Beaten deployment before wire earlier events userId now) ∧
    ∀ pair ∈ (run deployment before wire events).answers, ∀ credentials userId draws response,
      pair = (.http (.profile credentials userId) draws, .ok (.response (.profile response))) → response.online = true →
      Beaten deployment before wire earlier events userId draws.read.now := by
  have served := online_serves deployment before wire documented earlier known events unknown
  have idle := Server.idle_meeting (fun wire' => wire' ∈ stores deployment before wire events)
    (KeysMove deployment before wire earlier events) (OnlineFit deployment before wire earlier events) wire
  have keys := Server.run_kept (serve deployment before) _ _ _ (KeysBeaten deployment before wire earlier events)
    (fun arrival wire' next _ moved beaten userId expiry isKey => by
      rcases moved.2 userId with same | ⟨extended, isExtended, extends_⟩
      · exact beaten userId expiry (same ▸ isKey)
      · have isExpiry : extended = expiry := Option.some.inj (isExtended.symm.trans isKey)
        exact Or.inr ⟨arrival, moved.1, isExpiry ▸ extends_⟩)
    ⟨wire, [], []⟩ (fun _ _ => Or.inl) idle events (fun _ member => member) served
  have meeting := Server.run_meeting (serve deployment before) _ _ _ ⟨wire, [], []⟩ idle events
    (fun _ member => member) served
  refine ⟨fun wire' member userId now present => keys_beaten _ _ _ _ _ wire' (keys wire' member) userId now present, ?_⟩
  rintro pair answered credentials userId draws response rfl online
  obtain ⟨wire', member, present⟩ := (meeting.answers _ answered).tells credentials userId draws response rfl rfl online
  exact keys_beaten _ _ _ _ _ wire' (keys wire' member) userId _ present

end App

-- The seeded admin, with a profile.
def knownAdmin : WireStores :=
  ⟨⟨seededService.db, .empty⟩, runProfiles .sample
    [⟨.userSynced (.dict [("user_id", .str "s1"), ("display_name", .str "Admin")]), .sample 0, []⟩], []⟩

-- The admin signs in, opens a socket with the token it got, and asks for its own profile.
def adminComesOnline : List (ServerEvent Arrival) :=
  [.arrives (.http (.login ⟨"admin@arcadia.com", "admin-password"⟩ none) .sample), .moves 0 .none, .moves 0 .none,
    .arrives (.socket ⟨0, ⟨.text sampleAccess, 0, 0, "h1", "2026-01-01T00:00:00+00:00", true⟩, []⟩), .moves 0 .none,
      .moves 0 .none,
    .arrives (.http (.profile sampleAccess "s1") .sample),
    .moves 0 .none, .moves 0 .none, .moves 0 .none, .moves 0 .none, .moves 0 .none, .moves 0 .none]

theorem online_draws (request : HttpRequest) (draws : Draws)
    (arrives : .arrives (.http request draws) ∈ adminComesOnline) : draws = .sample := by
  simp only [adminComesOnline, List.mem_cons, List.not_mem_nil, or_false, reduceCtorEq, false_or,
    ServerEvent.arrives.injEq,
    Arrival.http.injEq] at arrives
  rcases arrives with ⟨_, isSample⟩ | ⟨_, isSample⟩
  · exact isSample
  · exact isSample

theorem admin_beats :
    (∀ wire' ∈ App.stores sampleDeployment [] knownAdmin adminComesOnline, ∀ userId now,
      wire'.stores.redis.present (PresenceStore.keyPrefix ++ userId) now = true →
      App.Beaten sampleDeployment [] knownAdmin (fun _ _ => False) adminComesOnline userId now) ∧
    ∀ pair ∈ (App.run sampleDeployment [] knownAdmin adminComesOnline).answers, ∀ credentials userId draws response,
      pair = (.http (.profile credentials userId) draws, .ok (.response (.profile response))) → response.online = true →
      App.Beaten sampleDeployment [] knownAdmin (fun _ _ => False) adminComesOnline userId draws.read.now :=
  App.online_by_heartbeat sampleDeployment [] knownAdmin PyJwt.json_documented (fun _ _ => False)
    (fun _ member => absurd member List.not_mem_nil) adminComesOnline
      (sample_unknown adminComesOnline online_draws _ rfl rfl)

end AuthProfile
