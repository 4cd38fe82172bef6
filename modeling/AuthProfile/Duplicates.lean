import AuthProfile.LibraryRuns

set_option autoImplicit false

namespace AuthProfile

open Relation Process

section FirstOccurrences

variable {α κ : Type} [DecidableEq κ] (name : α → κ)

-- What a consumer that deduplicates by name would handle.
def firstOccurrences (seen : List κ) : List α → List α
  | [] => []
  | item :: rest =>
      if name item ∈ seen then firstOccurrences seen rest else item :: firstOccurrences (name item :: seen) rest

theorem first_occurrences_sublist (seen : List κ) (items : List α) :
    (firstOccurrences name seen items).Sublist items := by
  induction items generalizing seen with
  | nil => exact List.Sublist.slnil
  | cons item rest ih =>
      by_cases known : name item ∈ seen
      · simpa only [firstOccurrences, if_pos known] using (ih seen).cons item
      · simpa only [firstOccurrences, if_neg known] using (ih (name item :: seen)).cons_cons item

theorem first_occurrence (seen : List κ) (items : List α) (item : α) (member : item ∈ items)
    (isNew : name item ∉ seen) :
    ∃ first ∈ firstOccurrences name seen items, name first = name item := by
  induction items generalizing seen with
  | nil => cases member
  | cons head rest ih =>
      by_cases known : name head ∈ seen
      · rw [firstOccurrences, if_pos known]
        rcases List.mem_cons.mp member with rfl | later
        · exact absurd known isNew
        · exact ih seen later isNew
      · rw [firstOccurrences, if_neg known]
        by_cases same : name head = name item
        · exact ⟨head, List.mem_cons_self .., same⟩
        · rcases List.mem_cons.mp member with rfl | later
          · exact absurd rfl same
          · obtain ⟨first, isFirst, sameName⟩ := ih (name head :: seen) later (by simp [isNew, Ne.symm same])
            exact ⟨first, List.mem_cons_of_mem _ isFirst, sameName⟩

end FirstOccurrences

def eventIdOf (python : Interpreter) (message : Value) : Option String :=
  (Envelope.parse python.printable message).toOption.map Envelope.eventId

-- Two messages with one event_id tell the same.
def Copies (python : Interpreter) (messages : List Value) : Prop :=
  ∀ a ∈ messages, ∀ b ∈ messages, eventIdOf python a = eventIdOf python b →
    ownershipEvent python a = ownershipEvent python b

-- uuid4 gives every message a row id of its own.
def FreshIds (db : ReadModel) (events : List (Circumstances × Value)) : Prop :=
  (events.map fun event => event.1.rowId.text).Nodup ∧ ∀ event ∈ events, event.1.rowId.text ∉ db.ownedGames.keys

instance (python : Interpreter) (messages : List Value) : Decidable (Copies python messages) :=
  inferInstanceAs (Decidable (∀ a ∈ messages, ∀ b ∈ messages, _ → _))

instance (db : ReadModel) (events : List (Circumstances × Value)) : Decidable (FreshIds db events) :=
  inferInstanceAs (Decidable (_ ∧ _))

def handleAll (python : Interpreter) (db : ReadModel) (events : List (Circumstances × Value)) : ReadModel :=
  events.foldl (fun db event => ((handleGameEvents python event.1 event.2).exec [] db).store) db

def ReadModel.pairs (db : ReadModel) : List (String × String) :=
  db.ownedGames.rows.map fun row => (row.userId.text, row.gameId.text)

theorem pair_owned (db : ReadModel) (userId gameId : String) :
    (userId, gameId) ∈ db.pairs ↔ db.flags userId gameId ≠ [] := by
  simp [ReadModel.pairs, ReadModel.flags, ReadModel.gamesNamed, List.filter_eq_nil_iff]

-- The last thing that the messages do to the rows of the pair.
def lastEffect (python : Interpreter) (userId gameId : String) (log : List Value) : Option Bool :=
  (log.filterMap fun message => reaching userId gameId (ownershipEvent python message)).getLast?

section Handling

variable (python : Interpreter) (userId gameId : String)

theorem handle_all_fresh (db : ReadModel) (event : Circumstances × Value) (events : List (Circumstances × Value))
    (fresh : FreshIds db (event :: events)) :
    FreshIds ((handleGameEvents python event.1 event.2).exec [] db).store events := by
  obtain ⟨distinct, isNew⟩ := fresh
  rw [List.map_cons, List.nodup_cons] at distinct
  refine ⟨distinct.2, fun later member taken => ?_⟩
  rcases Prog.wp_exec _ _ _ (game_events_keys python event.1 db event.2) [] _ taken with old | same
  · exact isNew later (List.mem_cons_of_mem _ member) old
  · exact distinct.1 (same ▸ List.mem_map_of_mem member)

theorem last_effect_cons (message : Value) (log : List Value) :
    lastEffect python userId gameId (message :: log) =
      (lastEffect python userId gameId log).or (reaching userId gameId (ownershipEvent python message)) := by
  rw [lastEffect, List.filterMap_cons, lastEffect]
  cases reaching userId gameId (ownershipEvent python message) with
  | none => simp
  | some granted =>
      rw [List.getLast?_cons]
      cases (log.filterMap fun message => reaching userId gameId (ownershipEvent python message)).getLast? <;> rfl

theorem flags_after_owned (message : Value) (before : List Bool) :
    flagsAfter python message userId gameId before ≠ [] ↔
      match reaching userId gameId (ownershipEvent python message) with
      | none => before ≠ []
      | some granted => granted = true := by
  rw [flagsAfter]
  cases reaching userId gameId (ownershipEvent python message) with
  | none => exact Iff.rfl
  | some granted =>
      cases granted with
      | false => simp
      | true =>
          dsimp only
          by_cases kept : ownershipEvent python message = some (.granted userId gameId)
          · rw [if_pos kept]
            by_cases absent : before = [] <;> simp [absent]
          · rw [if_neg kept]
            simp

-- The last effect decides, from any table.
theorem handle_all_owned (db : ReadModel) (events : List (Circumstances × Value)) (fresh : FreshIds db events) :
    (handleAll python db events).flags userId gameId ≠ [] ↔
      match lastEffect python userId gameId (events.map Prod.snd) with
      | none => db.flags userId gameId ≠ []
      | some granted => granted = true := by
  induction events generalizing db with
  | nil => exact Iff.rfl
  | cons event events ih =>
      refine (ih _ (handle_all_fresh python db event events fresh)).trans ?_
      rw [List.map_cons, last_effect_cons]
      cases lastEffect python userId gameId (events.map Prod.snd) with
      | some granted => exact Iff.rfl
      | none =>
          rw [Option.none_or]
          dsimp only
          rw [handled_flags python event.1 db event.2 userId gameId (fresh.2 event (List.mem_cons_self ..))]
          exact flags_after_owned python userId gameId event.2 _

theorem last_effect_none_iff (log : List Value) :
    lastEffect python userId gameId log = none ↔
      ∀ message ∈ log, reaching userId gameId (ownershipEvent python message) = none := by
  simp [lastEffect]

-- What is said of a pair is said among the first occurrences too.
theorem first_occurrences_say (messages : List Value) (copies : Copies python messages) :
    lastEffect python userId gameId (firstOccurrences (eventIdOf python) [] messages) = none ↔
      lastEffect python userId gameId messages = none := by
  rw [last_effect_none_iff, last_effect_none_iff]
  constructor
  · intro silent message member
    obtain ⟨first, isFirst, sameId⟩ :=
      first_occurrence (eventIdOf python) [] messages message member (fun known => nomatch known)
    have original := (first_occurrences_sublist (eventIdOf python) [] messages).mem isFirst
    have sameEvent := copies first original message member sameId
    have isSilent := silent first isFirst
    rwa [sameEvent] at isSilent
  · intro silent message member
    exact silent message ((first_occurrences_sublist (eventIdOf python) [] messages).mem member)

end Handling

-- Duplicates leave the library as it is exactly when, for every pair, what the sequence
-- does to it last and what the events that came for the first time do to it last is the same.
theorem duplicates_harmless_iff (python : Interpreter) (db : ReadModel) (events firsts : List (Circumstances × Value))
    (copies : Copies python (events.map Prod.snd))
    (isFirsts : firsts.map Prod.snd = firstOccurrences (eventIdOf python) [] (events.map Prod.snd))
    (fresh : FreshIds db events) (freshFirsts : FreshIds db firsts) :
    (∀ pair, pair ∈ (handleAll python db events).pairs ↔ pair ∈ (handleAll python db firsts).pairs) ↔
      ∀ userId gameId, Fits userId gameId →
        lastEffect python userId gameId (events.map Prod.snd) =
          lastEffect python userId gameId (firsts.map Prod.snd) := by
  have say := fun userId gameId => first_occurrences_say python userId gameId _ copies
  constructor
  · intro same userId gameId fits
    have owned := same (userId, gameId)
    rw [pair_owned, pair_owned, handle_all_owned python userId gameId db events fresh,
      handle_all_owned python userId gameId db firsts freshFirsts, isFirsts] at owned
    rw [isFirsts]
    cases whole : lastEffect python userId gameId (events.map Prod.snd) with
    | none => rw [(say userId gameId).mpr whole]
    | some granted =>
        cases once : lastEffect python userId gameId (firstOccurrences (eventIdOf python) [] (events.map Prod.snd)) with
        | none => rw [(say userId gameId).mp once] at whole; cases whole
        | some other =>
            rw [whole, once] at owned
            rw [Bool.eq_iff_iff.mpr owned]
  · rintro same ⟨userId, gameId⟩
    rw [pair_owned, pair_owned]
    by_cases fits : Fits userId gameId
    · rw [handle_all_owned python userId gameId db events fresh,
        handle_all_owned python userId gameId db firsts freshFirsts,
        same userId gameId fits]
    · have nowhere : ∀ table : ReadModel, ¬ table.flags userId gameId ≠ [] :=
        fun table owned => fits (table.flags_fit userId gameId owned)
      exact iff_of_false (nowhere _) (nowhere _)

def ownership (eventId eventType : String) : Value :=
  wrapped eventId eventType [("owner_id", .str "u1"), ("game_id", .str "g1")]

-- A grant, and the relay publishes it once more at once.
def repeatedGrant : List (Circumstances × Value) :=
  [(.sample 1, ownership "e1" CATALOG_OWNERSHIP_GRANTED), (.sample 2, ownership "e1" CATALOG_OWNERSHIP_GRANTED)]

theorem repeated_grant_harmless :
    ("u1", "g1") ∈ (handleAll .sample .empty repeatedGrant).pairs ∧
      ∀ pair, pair ∈ (handleAll .sample .empty repeatedGrant).pairs ↔
        pair ∈ (handleAll .sample .empty (repeatedGrant.take 1)).pairs := by
  refine ⟨by decide, (duplicates_harmless_iff .sample .empty repeatedGrant (repeatedGrant.take 1) ?_ rfl ?_ ?_).mpr
    fun userId gameId _ => ?_⟩
  · decide
  · decide
  · decide
  · simp only [repeatedGrant, List.map_cons, List.map_nil, List.take_succ_cons, List.take_zero, last_effect_cons]
    cases reaching userId gameId (ownershipEvent .sample (ownership "e1" CATALOG_OWNERSHIP_GRANTED)) <;> rfl

-- The game is given back, and then the relay publishes the grant once more.
def staleGrant : List (Circumstances × Value) :=
  [(.sample 1, ownership "e1" CATALOG_OWNERSHIP_GRANTED), (.sample 2, ownership "e2" CATALOG_OWNERSHIP_REVOKED),
    (.sample 3, ownership "e1" CATALOG_OWNERSHIP_GRANTED)]

theorem stale_grant_returns :
    Copies .sample (staleGrant.map Prod.snd) ∧
      (staleGrant.take 2).map Prod.snd = firstOccurrences (eventIdOf .sample) [] (staleGrant.map Prod.snd) ∧
      FreshIds .empty staleGrant ∧ FreshIds .empty (staleGrant.take 2) ∧
      ¬ ∀ pair, pair ∈ (handleAll .sample .empty staleGrant).pairs ↔
        pair ∈ (handleAll .sample .empty (staleGrant.take 2)).pairs := by
  have returned : ("u1", "g1") ∈ (handleAll .sample .empty staleGrant).pairs := by decide
  have given : ("u1", "g1") ∉ (handleAll .sample .empty (staleGrant.take 2)).pairs := by decide
  exact ⟨by decide, rfl, by decide, by decide, fun same => given ((same _).mp returned)⟩

end AuthProfile
