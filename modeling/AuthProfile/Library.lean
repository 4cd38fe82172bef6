import AuthProfile.LibraryAttempts
import AuthProfile.Messaging.Consumer

set_option autoImplicit false

namespace AuthProfile

open Relation Process ProfileRepository

-- Between two messages of the log: deliveries of the first one, each with the attempts
-- that its retries or a crash leave room for, and calls of HideGame.
inductive Happening where
  | delivered (attempts : List (Attempt Circumstances))
  | hid (userId gameId : String) (hidden : Bool)

structure Logged where
  message : Value
  happenings : List Happening

section Run

variable (python : Interpreter) (maxRetries : Nat)

def libraryConsumer : KafkaConsumerBase Circumstances Value ReadModel := ⟨handleGameEvents python, maxRetries⟩

def happen (db : ReadModel) : Value × Happening → ReadModel
  | (message, .delivered attempts) => ((libraryConsumer python maxRetries).handleWithRetry message attempts db).store
  | (_, .hid userId gameId hidden) => ((hideGame userId gameId hidden).exec [] db).store

def Logged.steps (entry : Logged) : List (Value × Happening) :=
  entry.happenings.map fun happening => (entry.message, happening)

def runLibrary (db : ReadModel) (steps : List (Value × Happening)) : ReadModel :=
  steps.foldl (happen python maxRetries) db

-- Each well-formed ownership message gets one attempt that completes.
def Completed (db : ReadModel) (log : List Logged) : Prop :=
  ∀ before entry after, log = before ++ entry :: after → ownershipEvent python entry.message ≠ none →
    ∃ first attempts later, entry.happenings = first ++ .delivered attempts :: later ∧
      .ok () ∈ ((libraryConsumer python maxRetries).handleWithRetry entry.message attempts
        (runLibrary python maxRetries db
          (before.flatMap Logged.steps ++ first.map fun happening => (entry.message, happening)))).results

end Run

-- Whether an ownership event about the pair grants it.
def OwnershipEvent.grants (userId gameId : String) : OwnershipEvent → Option Bool
  | .granted user game => if user = userId ∧ game = gameId then some true else none
  | .revoked user game => if user = userId ∧ game = gameId then some false else none

def ownershipOf (python : Interpreter) (userId gameId : String) (message : Value) : Option Bool :=
  (ownershipEvent python message).bind (OwnershipEvent.grants userId gameId)

-- The last well-formed ownership event of the pair.
def lastOwnership (python : Interpreter) (userId gameId : String) (log : List Value) : Option Bool :=
  (log.filterMap (ownershipOf python userId gameId)).getLast?

def Happening.hides (userId gameId : String) : Happening → Option Bool
  | .delivered _ => none
  | .hid user game hidden => if user = userId ∧ game = gameId then some hidden else none

-- The argument of the last call on the pair.
def lastHidden (userId gameId : String) (steps : List (Value × Happening)) : Option Bool :=
  (steps.filterMap fun step => step.2.hides userId gameId).getLast?

def ReadModel.Single (db : ReadModel) : Prop := ∀ userId gameId, (db.flags userId gameId).length ≤ 1

section Hide

theorem find_named (db : ReadModel) (userId gameId : String) (row : OwnedGameRow)
    (found : db.gamesNamed userId gameId = [row]) :
    row ∈ db.ownedGames.rows ∧ row.userId.text = userId ∧ row.gameId.text = gameId := by
  have member : row ∈ db.gamesNamed userId gameId := found ▸ List.mem_singleton_self row
  simpa [ReadModel.gamesNamed] using member

theorem flags_updated (db after : ReadModel) (row : OwnedGameRow) (hidden : Bool)
    (userId gameId otherUser otherGame : String)
    (found : db.gamesNamed userId gameId = [row]) (run : db.updateHidden row.id.text hidden = .ok after) :
    after.flags otherUser otherGame =
      if userId = otherUser ∧ gameId = otherGame then [hidden] else db.flags otherUser otherGame := by
  obtain ⟨member, isUser, isGame⟩ := find_named db userId gameId row found
  have self : db.ownedGames.find row.id.text = some row := Table.find_self db.ownedGames row member
  have rows : after.ownedGames.rows =
      db.ownedGames.rows.map fun old => if key old = key row then { row with hidden := hidden } else old := by
    simp only [ReadModel.updateHidden] at run
    split at run
    · cases run
    · rename_i found' isFound
      rw [self, Option.some.injEq] at isFound
      subst isFound
      cases run
      rfl
  have only : ∀ old ∈ db.ownedGames.rows, key old = key row → old = row := fun old oldMember same =>
    List.inj_on_of_nodup_map db.ownedGames.distinct oldMember member same
  have moved : after.gamesNamed otherUser otherGame =
      (db.gamesNamed otherUser otherGame).map fun old => if key old = key row then { row with hidden := hidden }
        else old := by
    rw [ReadModel.gamesNamed, rows, List.filter_map, ReadModel.gamesNamed]
    congr 1
    apply List.filter_congr
    intro old oldMember
    by_cases hit : key old = key row
    · simp [only old oldMember hit]
    · simp [hit]
  rw [ReadModel.flags, moved, List.map_map]
  by_cases here : userId = otherUser ∧ gameId = otherGame
  · obtain ⟨rfl, rfl⟩ := here
    simp [found]
  · rw [if_neg here, ReadModel.flags]
    apply List.map_congr_left
    intro old oldMember
    have named : old ∈ db.ownedGames.rows ∧ old.userId.text = otherUser ∧ old.gameId.text = otherGame := by
      simpa [ReadModel.gamesNamed] using oldMember
    have different : key old ≠ key row := by
      intro same
      have isRow := only old named.1 same
      subst isRow
      exact here ⟨isUser.symm.trans named.2.1, isGame.symm.trans named.2.2⟩
    simp [different]

theorem named_legal (db : ReadModel) (userId gameId : String) (row : OwnedGameRow)
    (found : db.gamesNamed userId gameId = [row]) :
    Legal [userId, gameId] := by
  obtain ⟨_, rfl, rfl⟩ := find_named db userId gameId row found
  exact legal_two _ _ row.userId.fits.2 row.gameId.fits.2

theorem hide_absent (db : ReadModel) (userId gameId : String) (hidden : Bool)
    (found : db.gamesNamed userId gameId = []) :
    ((hideGame userId gameId hidden).exec [] db).store = db := by
  rw [hideGame, setHidden]
  by_cases legal : Legal [userId, gameId]
  · rw [exec_select_alone _ _ _ db legal, found]
    rfl
  · rw [exec_select_refused _ _ _ db legal]

-- The one row is updated, unless its flag is the wanted one already.
theorem hide_present (db : ReadModel) (userId gameId : String) (hidden : Bool) (row : OwnedGameRow)
    (found : db.gamesNamed userId gameId = [row]) :
    ∃ after, (hideGame userId gameId hidden).exec [] db = ⟨.ok (), [], after⟩ ∧ ∀ otherUser otherGame,
      after.flags otherUser otherGame = if userId = otherUser ∧ gameId = otherGame then [hidden]
        else db.flags otherUser otherGame := by
  rw [hideGame, setHidden, exec_select_alone _ _ _ db (named_legal db userId gameId row found), found, scalarOneOrNone,
    Prog.exec_of_except_bind]
  dsimp only
  by_cases same : hidden = row.hidden
  · refine ⟨db, exec_commit_ok db _ db (if_pos same), fun otherUser otherGame => ?_⟩
    by_cases here : userId = otherUser ∧ gameId = otherGame
    · obtain ⟨rfl, rfl⟩ := here
      simp [ReadModel.flags, found, same]
    · rw [if_neg here]
  · obtain ⟨after, run⟩ := db.update_hidden_runs row hidden (find_named db userId gameId row found).1
    refine ⟨after, exec_commit_ok db _ after (by rw [if_neg same, run]), fun otherUser otherGame => ?_⟩
    exact flags_updated db after row hidden userId gameId otherUser otherGame found run

theorem hide_flags (db : ReadModel) (single : db.Single) (userId gameId : String) (hidden : Bool)
    (otherUser otherGame : String) :
    ((hideGame userId gameId hidden).exec [] db).store.flags otherUser otherGame =
      if userId = otherUser ∧ gameId = otherGame then (db.flags otherUser otherGame).map fun _ => hidden
      else db.flags otherUser otherGame := by
  have length := single userId gameId
  cases found : db.gamesNamed userId gameId with
  | nil =>
      rw [hide_absent db userId gameId hidden found]
      by_cases here : userId = otherUser ∧ gameId = otherGame
      · obtain ⟨rfl, rfl⟩ := here
        simp [ReadModel.flags, found]
      · rw [if_neg here]
  | cons row others =>
      cases others with
      | cons second others =>
          simp only [ReadModel.flags, found, List.map_cons, List.length_cons] at length
          omega
      | nil =>
          obtain ⟨after, run, flags⟩ := hide_present db userId gameId hidden row found
          rw [run, flags]
          by_cases here : userId = otherUser ∧ gameId = otherGame
          · obtain ⟨rfl, rfl⟩ := here
            simp [ReadModel.flags, found]
          · rw [if_neg here, if_neg here]

end Hide

theorem flags_move_trans (userId gameId : String) (event : Option OwnershipEvent) (kept : GrantsKept event)
    (a b c : List Bool) (ab : FlagsMove userId gameId event a b) (bc : FlagsMove userId gameId event b c) :
    FlagsMove userId gameId event a c := by
  cases bc with
  | still same => exact same ▸ ab
  | removed revoked gone => exact .removed revoked gone
  | cut granted notKept _ => exact absurd (reached_kept userId gameId event kept granted) notKept
  | added granted absent fresh =>
      cases ab with
      | still same => exact .added granted (same ▸ absent) fresh
      | added _ _ earlier => exact absurd (absent.symm.trans earlier) (List.cons_ne_nil _ _).symm
      | cut granted notKept _ => exact absurd (reached_kept userId gameId event kept granted) notKept
      | removed revoked _ =>
          rw [granted] at revoked
          cases revoked

theorem flags_move_length (userId gameId : String) (event : Option OwnershipEvent) (kept : GrantsKept event)
    (before after : List Bool)
    (moves : FlagsMove userId gameId event before after) (single : before.length ≤ 1) : after.length ≤ 1 := by
  cases moves with
  | still same => exact same ▸ single
  | added _ _ fresh => simp [fresh]
  | cut granted notKept _ => exact absurd (reached_kept userId gameId event kept granted) notKept
  | removed _ gone => simp [gone]

section Steps

variable (python : Interpreter) (maxRetries : Nat)

-- Every message that the steps are made at.
def StepsKept (steps : List (Value × Happening)) : Prop := ∀ step ∈ steps, GrantsKept (ownershipEvent python step.1)

theorem delivered_moves (message : Value) (kept : GrantsKept (ownershipEvent python message))
    (attempts : List (Attempt Circumstances)) (db : ReadModel) :
    let handled := (libraryConsumer python maxRetries).handleWithRetry message attempts db
    LibraryMoves (ownershipEvent python message) db handled.store ∧
      (.ok () ∈ handled.results → Projected (ownershipEvent python message) handled.store) := by
  refine (libraryConsumer python maxRetries).try_all_rule message
    (LibraryMoves (ownershipEvent python message) db) (Projected (ownershipEvent python message))
      (fun io between moved => ?_)
    (attempts.take maxRetries) db fun _ _ => .still rfl
  refine Prog.wp_mono _ _ _ between (fun result after step => ⟨fun userId gameId => ?_, step.2⟩)
    (handle_game_events_moves python io message between)
  exact flags_move_trans userId gameId _ kept _ _ _ (moved userId gameId) (step.1 userId gameId)

-- A step moves the pair as its message tells, or sets the flag of the row that is there.
theorem happen_flags (db : ReadModel) (single : db.Single) (step : Value × Happening)
    (kept : GrantsKept (ownershipEvent python step.1)) (userId gameId : String) :
    let after := happen python maxRetries db step
    (step.2.hides userId gameId = none ∧
      FlagsMove userId gameId (ownershipEvent python step.1) (db.flags userId gameId) (after.flags userId gameId)) ∨
    ∃ hidden, step.2.hides userId gameId = some hidden ∧
      after.flags userId gameId = (db.flags userId gameId).map fun _ => hidden := by
  obtain ⟨message, happening⟩ := step
  cases happening with
  | delivered attempts =>
      exact Or.inl ⟨rfl, (delivered_moves python maxRetries message kept attempts db).1 userId gameId⟩
  | hid user game hidden =>
      have flags := hide_flags db single user game hidden userId gameId
      by_cases here : user = userId ∧ game = gameId
      · rw [if_pos here] at flags
        exact Or.inr ⟨hidden, if_pos here, flags⟩
      · rw [if_neg here] at flags
        exact Or.inl ⟨if_neg here, .still flags⟩

theorem happen_single (db : ReadModel) (single : db.Single) (step : Value × Happening)
    (kept : GrantsKept (ownershipEvent python step.1)) : (happen python maxRetries db step).Single := by
  intro userId gameId
  rcases happen_flags python maxRetries db single step kept userId gameId with ⟨_, moves⟩ | ⟨hidden, _, flags⟩
  · exact flags_move_length userId gameId _ kept _ _ moves (single userId gameId)
  · rw [flags, List.length_map]
    exact single userId gameId

theorem run_library_snoc (db : ReadModel) (steps : List (Value × Happening)) (step : Value × Happening) :
    runLibrary python maxRetries db (steps ++ [step]) =
      happen python maxRetries (runLibrary python maxRetries db steps) step := by
  rw [runLibrary, List.foldl_append]
  rfl

theorem run_library_append (db : ReadModel) (first later : List (Value × Happening)) :
    runLibrary python maxRetries db (first ++ later) =
      runLibrary python maxRetries (runLibrary python maxRetries db first) later :=
  List.foldl_append

theorem run_single (db : ReadModel) (single : db.Single) (steps : List (Value × Happening))
    (kept : StepsKept python steps) :
    (runLibrary python maxRetries db steps).Single := by
  induction steps generalizing db with
  | nil => exact single
  | cons step steps ih =>
      have here := happen_single python maxRetries db single step (kept step (List.mem_cons_self ..))
      exact ih _ here fun later member => kept later (List.mem_cons_of_mem _ member)

end Steps

section Hidden

variable (python : Interpreter) (maxRetries : Nat) (db : ReadModel) (userId gameId : String)

-- The pair is not owned after the first steps, and owned ever since.
structure OwnedSince (first later : List (Value × Happening)) : Prop where
  absent : (runLibrary python maxRetries db first).flags userId gameId = []
  owned : ∀ shown, shown <+: later → shown ≠ [] →
    (runLibrary python maxRetries db (first ++ shown)).flags userId gameId ≠ []

theorem last_hidden_snoc (steps : List (Value × Happening)) (step : Value × Happening) :
    lastHidden userId gameId (steps ++ [step]) = (step.2.hides userId gameId).or (lastHidden userId gameId steps) := by
  rw [lastHidden, List.filterMap_append]
  cases hides : step.2.hides userId gameId with
  | none => simp [hides, lastHidden]
  | some hidden => simp [hides]

-- The run's invariant on one pair, by what the last step did to it.
theorem run_hidden (empty : ∀ user game, db.flags user game = []) (steps : List (Value × Happening))
    (kept : StepsKept python steps) :
    (runLibrary python maxRetries db steps).flags userId gameId = [] ∨
      ∃ first later, steps = first ++ later ∧ OwnedSince python maxRetries db userId gameId first later ∧
        (runLibrary python maxRetries db steps).flags userId gameId =
          [(lastHidden userId gameId later).getD false] := by
  induction steps using List.reverseRecOn with
  | nil => exact Or.inl (empty userId gameId)
  | append_singleton steps step ih =>
      have earlierKept : StepsKept python steps := fun other member => kept other (List.mem_append_left _ member)
      have stepKept := kept step (List.mem_append_right _ (List.mem_singleton_self step))
      have single := run_single python maxRetries db (fun user game => by simp [empty]) steps earlierKept
      have ih := ih earlierKept
      have stays : ∀ first later, steps = first ++ later → OwnedSince python maxRetries db userId gameId first later →
          (runLibrary python maxRetries db (steps ++ [step])).flags userId gameId ≠ [] →
          OwnedSince python maxRetries db userId gameId first (later ++ [step]) := by
        intro first later split since owned
        refine ⟨since.absent, fun shown isPrefix nonempty => ?_⟩
        rcases List.prefix_concat_iff.mp isPrefix with whole | earlier
        · rw [whole, ← List.append_assoc, ← split]
          exact owned
        · exact since.owned shown earlier nonempty
      rcases happen_flags python maxRetries _ single step stepKept userId gameId with
        ⟨silent, moves⟩ | ⟨hidden, hides, flags⟩
      · cases moves with
        | cut granted notKept _ => exact absurd (reached_kept userId gameId _ stepKept granted) notKept
        | removed _ gone => exact Or.inl (by rw [run_library_snoc, gone])
        | added _ absent fresh =>
            refine Or.inr ⟨steps, [step], rfl, ⟨absent, fun shown isPrefix nonempty => ?_⟩, ?_⟩
            · have short : shown <+: [] ++ [step] := isPrefix
              rcases List.prefix_concat_iff.mp short with whole | earlier
              · rw [whole, List.nil_append, run_library_snoc, fresh]
                exact List.cons_ne_nil _ _
              · exact absurd (List.prefix_nil.mp earlier) nonempty
            · rw [run_library_snoc, fresh, ← List.nil_append [step], last_hidden_snoc, silent]
              rfl
        | still same =>
            rcases ih with absent | ⟨first, later, split, since, flags⟩
            · exact Or.inl (by rw [run_library_snoc, same, absent])
            · have now : (runLibrary python maxRetries db (steps ++ [step])).flags userId gameId =
                  [(lastHidden userId gameId (later ++ [step])).getD false] := by
                rw [run_library_snoc, same, flags, last_hidden_snoc, silent, Option.none_or]
              refine Or.inr ⟨first, later ++ [step], by rw [split, List.append_assoc], ?_, now⟩
              exact stays first later split since (by rw [now]; exact List.cons_ne_nil _ _)
      · rcases ih with absent | ⟨first, later, split, since, earlier⟩
        · exact Or.inl (by rw [run_library_snoc, flags, absent, List.map_nil])
        · have now : (runLibrary python maxRetries db (steps ++ [step])).flags userId gameId =
              [(lastHidden userId gameId (later ++ [step])).getD false] := by
            rw [run_library_snoc, flags, earlier, last_hidden_snoc, hides]
            rfl
          refine Or.inr ⟨first, later ++ [step], by rw [split, List.append_assoc], ?_, now⟩
          exact stays first later split since (by rw [now]; exact List.cons_ne_nil _ _)

end Hidden

section Log

variable (python : Interpreter) (maxRetries : Nat) (userId gameId : String)

theorem ownership_of_cases (message : Value) (granted : Bool)
    (isSaid : ownershipOf python userId gameId message = some granted) :
    ownershipEvent python message = some (if granted then .granted userId gameId else .revoked userId gameId) := by
  rw [ownershipOf, Option.bind_eq_some_iff] at isSaid
  obtain ⟨event, isEvent, grants⟩ := isSaid
  rw [isEvent]
  cases event with
  | granted user game =>
      rw [OwnershipEvent.grants] at grants
      split at grants
      · rename_i here
        obtain ⟨rfl, rfl⟩ := here
        cases grants
        rfl
      · cases grants
  | revoked user game =>
      rw [OwnershipEvent.grants] at grants
      split at grants
      · rename_i here
        obtain ⟨rfl, rfl⟩ := here
        cases grants
        rfl
      · cases grants

theorem happen_owned (db : ReadModel) (single : db.Single) (step : Value × Happening)
    (kept : GrantsKept (ownershipEvent python step.1)) :
    let after := happen python maxRetries db step
    (after.flags userId gameId = [] ↔ db.flags userId gameId = []) ∨
      ∃ granted, ownershipOf python userId gameId step.1 = some granted ∧
        (after.flags userId gameId ≠ [] ↔ granted = true) := by
  rcases happen_flags python maxRetries db single step kept userId gameId with ⟨_, moves⟩ | ⟨hidden, _, flags⟩
  · cases moves with
    | still same => exact Or.inl (by rw [same])
    | cut granted notKept _ => exact absurd (reached_kept userId gameId _ kept granted) notKept
    | added granted absent fresh =>
        have isGrant := reached_kept userId gameId _ kept granted
        exact Or.inr ⟨true, by simp [ownershipOf, isGrant, OwnershipEvent.grants], by simp [fresh]⟩
    | removed revoked gone =>
        have isRevoke := (reached_revoked_iff userId gameId _).mp revoked
        exact Or.inr ⟨false, by simp [ownershipOf, isRevoke, OwnershipEvent.grants], by simp [gone]⟩
  · exact Or.inl (by rw [flags, List.map_eq_nil_iff])

section Message

variable (message : Value) (kept : GrantsKept (ownershipEvent python message))

include kept

theorem run_silent (silent : ownershipOf python userId gameId message = none) (happenings : List Happening)
    (db : ReadModel) (single : db.Single) :
    (runLibrary python maxRetries db (happenings.map fun happening => (message, happening))).flags userId gameId = [] ↔
      db.flags userId gameId = [] := by
  induction happenings generalizing db with
  | nil => exact Iff.rfl
  | cons happening happenings ih =>
      refine (ih _ (happen_single python maxRetries db single (message, happening) kept)).trans ?_
      rcases happen_owned python maxRetries userId gameId db single (message, happening) kept with
        same | ⟨granted, isSaid, _⟩
      · exact same
      · rw [silent] at isSaid
        cases isSaid

theorem run_settled (granted : Bool) (isSaid : ownershipOf python userId gameId message = some granted)
    (happenings : List Happening) (db : ReadModel) (single : db.Single)
    (settled : db.flags userId gameId ≠ [] ↔ granted = true) :
    (runLibrary python maxRetries db (happenings.map fun happening => (message, happening))).flags userId gameId ≠ [] ↔
      granted = true := by
  induction happenings generalizing db with
  | nil => exact settled
  | cons happening happenings ih =>
      refine ih _ (happen_single python maxRetries db single (message, happening) kept) ?_
      rcases happen_owned python maxRetries userId gameId db single (message, happening) kept with
        same | ⟨other, isOther, owned⟩
      · exact (not_congr same).trans settled
      · rw [isSaid, Option.some.injEq] at isOther
        exact isOther ▸ owned

-- One attempt that completes decides the pair for the whole message.
theorem run_completed (granted : Bool) (isSaid : ownershipOf python userId gameId message = some granted)
    (first later : List Happening) (attempts : List (Attempt Circumstances)) (db : ReadModel) (single : db.Single)
    (completes : .ok () ∈ ((libraryConsumer python maxRetries).handleWithRetry message attempts
      (runLibrary python maxRetries db (first.map fun happening => (message, happening)))).results) :
    (runLibrary python maxRetries db ((first ++ .delivered attempts :: later).map fun happening =>
      (message, happening))).flags
      userId gameId ≠ [] ↔ granted = true := by
  have singleFirst := run_single python maxRetries db single (first.map fun happening => (message, happening))
      fun step member => by
    obtain ⟨_, _, rfl⟩ := List.mem_map.mp member
    exact kept
  have projected := (delivered_moves python maxRetries message kept attempts _).2 completes
  have event := ownership_of_cases python userId gameId message granted isSaid
  rw [event] at projected
  rw [List.map_append, run_library_append]
  refine run_settled python maxRetries userId gameId message kept granted isSaid later _
    (happen_single python maxRetries _ singleFirst (message, .delivered attempts) kept) ?_
  cases granted with
  | true =>
      obtain ⟨user, game, stored, owned⟩ := projected
      obtain ⟨rfl, rfl⟩ := stored_as_kept userId gameId user game (kept userId gameId event) stored
      exact iff_of_true owned rfl
  | false => exact iff_of_false (not_not.mpr projected) Bool.false_ne_true

end Message

theorem last_ownership_snoc (log : List Value) (message : Value) :
    lastOwnership python userId gameId (log ++ [message]) =
      (ownershipOf python userId gameId message).or (lastOwnership python userId gameId log) := by
  rw [lastOwnership, List.filterMap_append]
  cases isSaid : ownershipOf python userId gameId message with
  | none => simp [isSaid, lastOwnership]
  | some granted => simp [isSaid]

def LogKept (log : List Logged) : Prop := ∀ entry ∈ log, GrantsKept (ownershipEvent python entry.message)

theorem log_steps_kept (log : List Logged) (kept : LogKept python log) :
    StepsKept python (log.flatMap Logged.steps) := by
  intro step member
  obtain ⟨entry, isEntry, isStep⟩ := List.mem_flatMap.mp member
  obtain ⟨_, _, rfl⟩ := List.mem_map.mp isStep
  exact kept entry isEntry

theorem completed_before (db : ReadModel) (log before after : List Logged) (split : log = before ++ after)
    (completed : Completed python maxRetries db log) : Completed python maxRetries db before := by
  intro earlier entry later isBefore
  exact completed earlier entry (later ++ after) (by rw [split, isBefore, List.append_assoc, List.cons_append])

theorem run_log (db : ReadModel) (empty : ∀ user game, db.flags user game = []) (log : List Logged)
    (kept : LogKept python log) (completed : Completed python maxRetries db log) :
    (runLibrary python maxRetries db (log.flatMap Logged.steps)).flags userId gameId ≠ [] ↔
      lastOwnership python userId gameId (log.map Logged.message) = some true := by
  induction log using List.reverseRecOn with
  | nil => exact iff_of_false (not_not.mpr (empty userId gameId)) (fun wrong => nomatch wrong)
  | append_singleton log entry ih =>
      have earlierKept : LogKept python log := fun other member => kept other (List.mem_append_left _ member)
      have entryKept := kept entry (List.mem_append_right _ (List.mem_singleton_self entry))
      have earlier := ih earlierKept (completed_before python maxRetries db _ log [entry] rfl completed)
      have single := run_single python maxRetries db (fun user game => by simp [empty]) _
        (log_steps_kept python log earlierKept)
      rw [List.flatMap_append, List.flatMap_singleton, run_library_append, List.map_append, List.map_singleton,
        last_ownership_snoc]
      cases isSaid : ownershipOf python userId gameId entry.message with
      | none =>
          rw [Option.none_or]
          have silent :=
            run_silent python maxRetries userId gameId entry.message entryKept isSaid entry.happenings _ single
          exact (not_congr silent).trans earlier
      | some granted =>
          have wellFormed : ownershipEvent python entry.message ≠ none := by
            rw [ownership_of_cases python userId gameId _ granted isSaid]
            exact Option.some_ne_none _
          obtain ⟨first, attempts, later, split, completes⟩ := completed log entry [] rfl wellFormed
          rw [run_library_append] at completes
          rw [Option.some_or, Option.some.injEq, Logged.steps, split]
          exact run_completed python maxRetries userId gameId entry.message entryKept granted isSaid first later
            attempts _ single completes

end Log

-- The library is what the log tells of the pair, and its row is hidden as the owner last asked.
structure FollowsLog (python : Interpreter) (maxRetries : Nat) (db : ReadModel) (log : List Logged)
    (userId gameId : String) : Prop where
  listed : lastOwnership python userId gameId (log.map Logged.message) = some true →
    ∃ row, (runLibrary python maxRetries db (log.flatMap Logged.steps)).gamesNamed userId gameId = [row] ∧
      ∃ first later, log.flatMap Logged.steps = first ++ later ∧
        OwnedSince python maxRetries db userId gameId first later ∧
        row.hidden = (lastHidden userId gameId later).getD false
  missing : lastOwnership python userId gameId (log.map Logged.message) ≠ some true →
    (runLibrary python maxRetries db (log.flatMap Logged.steps)).gamesNamed userId gameId = []

section Follows

variable (python : Interpreter) (maxRetries : Nat) (db : ReadModel) (log : List Logged)

theorem kept_follows_log (empty : db.ownedGames.rows = []) (completed : Completed python maxRetries db log)
    (kept : LogKept python log) (userId gameId : String) : FollowsLog python maxRetries db log userId gameId := by
  have noFlags : ∀ user game, db.flags user game = [] := by simp [ReadModel.flags_nil, ReadModel.gamesNamed, empty]
  have owned := run_log python maxRetries userId gameId db noFlags log kept completed
  refine ⟨fun granted => ?_, fun notGranted => ?_⟩
  · rcases run_hidden python maxRetries db userId gameId noFlags _ (log_steps_kept python log kept) with
      absent | ⟨first, later, split, since, flags⟩
    · exact absurd absent (owned.mpr granted)
    · obtain ⟨row, isRow, isHidden⟩ := List.map_eq_singleton_iff.mp flags
      exact ⟨row, isRow, first, later, split, since, isHidden⟩
  · have absent := not_not.mp fun isOwned => notGranted (owned.mp isOwned)
    exact (ReadModel.flags_nil _ userId gameId).mp absent

-- No row has a pair that the columns do not keep.
theorem cut_grant_missing (before : List Logged) (entry : Logged) (user game : String)
    (granted : ownershipEvent python entry.message = some (.granted user game)) (cut : ¬ Fits user game) :
    ¬ FollowsLog python maxRetries db (before ++ [entry]) user game := by
  intro follows
  have last : lastOwnership python user game ((before ++ [entry]).map Logged.message) = some true := by
    rw [List.map_append, List.map_singleton, last_ownership_snoc, ownershipOf, granted]
    simp [OwnershipEvent.grants]
  obtain ⟨row, isRow, _⟩ := follows.listed last
  refine cut (ReadModel.flags_fit (runLibrary python maxRetries db ((before ++ [entry]).flatMap Logged.steps))
    user game ?_)
  rw [ReadModel.flags, isRow]
  exact List.cons_ne_nil _ _

-- The library follows the log all the way exactly when the columns keep every pair that is granted.
theorem library_follows_log_iff (empty : db.ownedGames.rows = []) (completed : Completed python maxRetries db log) :
    (∀ before after, log = before ++ after → ∀ userId gameId, FollowsLog python maxRetries db before userId gameId) ↔
      ∀ entry ∈ log, ∀ userId gameId, ownershipEvent python entry.message = some (.granted userId gameId) →
        Fits userId gameId := by
  constructor
  · intro follows entry member userId gameId granted
    by_contra cut
    obtain ⟨before, after, split⟩ := List.append_of_mem member
    refine cut_grant_missing python maxRetries db before entry userId gameId granted cut
      (follows _ after ?_ userId gameId)
    rw [split, List.append_assoc, List.singleton_append]
  · intro kept before after split
    refine kept_follows_log python maxRetries db before empty
      (completed_before python maxRetries db log before after split completed) ?_
    exact fun entry member => kept entry (split ▸ List.mem_append_left _ member)

end Follows

-- A grant whose first attempt loses the answer of its last commit, and a hidden row.
def sampleLog : List Logged :=
  [⟨wrapped "e1" CATALOG_OWNERSHIP_GRANTED [("owner_id", .str "u1"), ("game_id", .str "g1")],
    [.delivered [⟨.sample 1, [.none, .none, .none, .none, .none, .none, .none, .after]⟩, ⟨.sample 2, []⟩],
      .hid "u1" "g1" true, .delivered [⟨.sample 3, []⟩]]⟩]

theorem one_entry_completed (entry : Logged) (attempts : List (Attempt Circumstances)) (later : List Happening)
    (happenings : entry.happenings = .delivered attempts :: later)
    (completes : .ok () ∈ ((libraryConsumer .sample 3).handleWithRetry entry.message attempts .empty).results) :
    Completed .sample 3 .empty [entry] := by
  intro before other after split _
  cases before with
  | nil =>
      cases split
      exact ⟨[], attempts, later, happenings, completes⟩
  | cons first rest =>
      have lengths := congrArg List.length split
      simp only [List.length_cons, List.length_append, List.length_nil] at lengths
      omega

theorem library_follows_sample_log :
    (∀ before after, sampleLog = before ++ after → ∀ userId gameId, FollowsLog .sample 3 .empty before userId gameId) ↔
      ∀ entry ∈ sampleLog, ∀ userId gameId, ownershipEvent .sample entry.message = some (.granted userId gameId) →
        Fits userId gameId :=
  library_follows_log_iff .sample 3 .empty sampleLog rfl (one_entry_completed _ _ _ rfl (by decide))

def longGame : String := String.ofList (List.replicate 36 'g' ++ [' '])

-- The column drops the last character of the game, and the log's pair has no row.
def cutLog : List Logged :=
  [⟨wrapped "e1" CATALOG_OWNERSHIP_GRANTED [("owner_id", .str "u1"), ("game_id", .str longGame)],
    [.delivered [⟨.sample 1, []⟩]]⟩]

theorem cut_log_not_followed : Completed .sample 3 .empty cutLog ∧
    ¬ ∀ userId gameId, FollowsLog .sample 3 .empty cutLog userId gameId := by
  refine ⟨one_entry_completed _ _ _ rfl (by decide +kernel), fun follows => ?_⟩
  exact cut_grant_missing .sample 3 .empty [] _ "u1" longGame (by decide +kernel) (by decide +kernel)
    (follows "u1" longGame)

end AuthProfile
