import AuthProfile.LibraryRuns
import AuthProfile.Process.Solo

set_option autoImplicit false

namespace AuthProfile

open Relation Process ProfileRepository

variable {ι : Type}

-- Handlers of one grant in sessions of their own, such as two replicas during a rebalance.
structure GrantCall where
  io : Circumstances
  payload : Value

def overlap (python : Interpreter) (calls : ι → GrantCall) (db : ReadModel) : Pool ι ReadModel Error Unit :=
  ⟨db, fun i => LibraryProjector.handle python (calls i).io (calls i).payload⟩

section Handler

variable (io : Circumstances) (userId gameId : String)

def addGame : Prog ReadModel Error Unit := addOwnedGame ⟨io.rowId.text, userId, gameId, false, io.now⟩

-- What is left of a handler that has made sure of the profile.
def checkGame : Prog ReadModel Error Unit := do
  if ← ownsGame userId gameId then return ()
  addGame io userId gameId

end Handler

-- The later calls on the pair, and what comes of them.
inductive ShelfCall where
  | owns
  | hide (hidden : Bool)

def ShelfCall.result (userId gameId : String) (db : ReadModel) : ShelfCall → Except Error Unit
  | .owns => ((ownsGame userId gameId).exec [] db).result.map fun _ => ()
  | .hide hidden => ((hideGame userId gameId hidden).exec [] db).result

def ShelfCall.store (userId gameId : String) (db : ReadModel) : ShelfCall → ReadModel
  | .owns => ((ownsGame userId gameId).exec [] db).store
  | .hide hidden => ((hideGame userId gameId hidden).exec [] db).store

structure ListedOnce (userId gameId : String) (db : ReadModel) : Prop where
  one : ∃ row, db.gamesNamed userId gameId = [row]
  usable : ∀ (earlier : List ShelfCall) (call : ShelfCall),
    call.result userId gameId (earlier.foldl (ShelfCall.store userId gameId) db) = .ok ()

theorem exec_owns_game (userId gameId : String) (legal : Legal [userId, gameId]) (db : ReadModel) :
    (ownsGame userId gameId).exec [] db = ⟨(scalarOneOrNone (db.gamesNamed userId gameId)).map Option.isSome,
    [], db⟩ := by
  rw [ownsGame, exec_select_alone _ _ _ _ legal, Prog.exec_of_except_bind]
  cases scalarOneOrNone (db.gamesNamed userId gameId) <;> rfl

theorem shelf_call_one (userId gameId : String) (db : ReadModel) (row : OwnedGameRow)
    (one : db.gamesNamed userId gameId = [row]) (call : ShelfCall) :
    call.result userId gameId db = .ok () ∧
      ∃ row', (call.store userId gameId db).gamesNamed userId gameId = [row'] := by
  cases call with
  | owns =>
      rw [ShelfCall.result, ShelfCall.store, exec_owns_game userId gameId (named_legal db userId gameId row one), one]
      exact ⟨rfl, row, rfl⟩
  | hide hidden =>
      obtain ⟨after, run, flags⟩ := hide_present db userId gameId hidden row one
      have single := flags userId gameId
      rw [if_pos ⟨rfl, rfl⟩] at single
      obtain ⟨row', isRow, _⟩ := List.map_eq_singleton_iff.mp single
      rw [ShelfCall.result, ShelfCall.store, run]
      exact ⟨rfl, row', isRow⟩

theorem listed_once_of_one (userId gameId : String) (db : ReadModel)
    (one : ∃ row, db.gamesNamed userId gameId = [row]) :
    ListedOnce userId gameId db := by
  refine ⟨one, fun earlier call => ?_⟩
  induction earlier generalizing db with
  | nil =>
      obtain ⟨row, isRow⟩ := one
      exact (shelf_call_one userId gameId db row isRow call).1
  | cons first earlier ih =>
      obtain ⟨row, isRow⟩ := one
      exact ih _ (shelf_call_one userId gameId db row isRow first).2

section Steps

variable (io : Circumstances) (userId gameId : String)

variable (legal : Legal [userId, gameId])

include legal

theorem check_game_cases :
    checkGame io userId gameId = (Prog.query .connection fun db : ReadModel => db.gamesNamed userId gameId) >>=
      fun found => match found with
      | [] => addGame io userId gameId
      | [_] => .ret ()
      | _ => .raise .multipleResults := by
  rw [checkGame, ownsGame, select_legal _ legal, bind_assoc]
  congr 1
  funext found
  cases found with
  | nil => rfl
  | cons row rest => cases rest <;> rfl

theorem advance_check_game (db : ReadModel) :
    (checkGame io userId gameId).advance .none db =
      (match db.gamesNamed userId gameId with
        | [] => addGame io userId gameId
        | [_] => .ret ()
        | _ => .raise .multipleResults, db) := by
  rw [check_game_cases io userId gameId legal]
  rfl

omit legal

-- The profile a handler has made sure of is there from then on.
def Knows (userId : String) (db : ReadModel) : Prop := userId ∈ db.profiles.keys

def Grows (before after : ReadModel) : Prop := ∀ id ∈ before.profiles.keys, id ∈ after.profiles.keys

structure Opens (before after : ReadModel) : Prop where
  games : after.ownedGames = before.ownedGames
  profiles : Grows before after

theorem opens_refl (db : ReadModel) : Opens db db := ⟨rfl, fun _ member => member⟩

theorem opens_insert_profile (row : ProfileRow) (db : ReadModel) : Opens db (db.insertProfileOrNothing row) := by
  refine ⟨db.insert_profile_games row, fun id member => ?_⟩
  simp only [ReadModel.insertProfileOrNothing]
  split
  · exact member
  · rename_i profiles inserted
    exact (Table.mem_keys_inserted row db.profiles profiles inserted id).mpr (Or.inl member)

theorem get_by_user_id_returns (db : ReadModel) (known : Knows userId db) (reader : String)
    (storable : Storable reader) :
    (getByUserId io reader).Returns Grows Opens (fun _ after => Knows userId after) db := by
  rw [getByUserId]
  simp only [select_legal _ (legal_one reader storable)]
  refine Prog.returns_query_bind _ _ opens_refl _ _ _ _ _ fun first grown => ?_
  have still : Knows userId first := grown _ known
  cases first.profiles.find reader with
  | none => exact still
  | some row =>
      refine Prog.returns_query_bind _ _ opens_refl _ _ _ _ _ fun second grown => ?_
      have still : Knows userId second := grown _ still
      refine Prog.returns_query_bind _ _ opens_refl _ _ _ _ _ fun third grown => ?_
      have still : Knows userId third := grown _ still
      refine Prog.returns_query_bind _ _ opens_refl _ _ _ _ _ fun last grown => ?_
      exact grown _ still

theorem create_if_missing_returns (db : ReadModel) (fits : Varchar.Fits 36 userId) :
    (createIfMissing io (.str userId) (.str "")).Returns Grows Opens (fun _ after => Knows userId after) db := by
  obtain ⟨row, isNew, isOwner, _⟩ :=
    profile_row_new_runs io userId "" (Varchar.takes_fits 36 userId fits) (Varchar.takes_fits 64 "" (by decide))
  have isUser : key row = userId := isOwner.trans (Varchar.cut_short 36 userId fits.1)
  rw [createIfMissing, isNew]
  refine Prog.returns_query_bind _ _ opens_refl _ _ _ _ _ fun first _ => ?_
  refine fun second _ => ⟨opens_insert_profile row second, ?_⟩
  exact get_by_user_id_returns io userId _ (isUser ▸ second.insert_profile_known row) userId fits.2

-- The row that a handler adds.
structure Granted (row : OwnedGameRow) : Prop where
  id : key row = io.rowId.text
  user : row.userId.text = userId
  game : row.gameId.text = gameId

theorem advance_add_game (db : ReadModel) (fits : Fits userId gameId) (known : Knows userId db)
    (fresh : io.rowId.text ∉ db.ownedGames.keys) :
    ∃ row after, (addGame io userId gameId).advance .none db = (.ret (), after) ∧ Granted io userId gameId row ∧
      ReadModel.GameAdded row db after := by
  obtain ⟨row, stored⟩ := (game_row_store_iff ⟨io.rowId.text, userId, gameId, false, io.now⟩).mpr
    ⟨Varchar.takes_fits 36 _ io.rowId.fits, Varchar.takes_fits 36 userId fits.1, Varchar.takes_fits 36 gameId fits.2⟩
  obtain ⟨rowText, userText, gameText, _⟩ := game_row_store_ok _ row stored
  have isRow : key row = io.rowId.text := rowText.trans (Varchar.cut_text 36 io.rowId)
  have isUser : row.userId.text = userId := userText.trans (Varchar.cut_short 36 userId fits.1.1)
  have isGame : row.gameId.text = gameId := gameText.trans (Varchar.cut_short 36 gameId fits.2.1)
  obtain ⟨after, inserted⟩ := db.insert_owned_game_runs row (isRow ▸ fresh) (isUser ▸ known)
  refine ⟨row, after, ?_, ⟨isRow, isUser, isGame⟩, db.insert_owned_game_ok row after inserted⟩
  rw [addGame, addOwnedGame, commit, Prog.advance_atomic, stored]
  dsimp only [bind, Except.bind]
  rw [inserted]
  rfl

theorem add_game_done (db : ReadModel) : ((addGame io userId gameId).advance .none db).1.finished ≠ none := by
  rw [addGame, addOwnedGame, commit, Prog.advance_atomic]
  split <;> exact Option.some_ne_none _

include legal

theorem check_not_add : checkGame io userId gameId ≠ addGame io userId gameId := by
  intro same
  apply add_game_done io userId gameId ReadModel.empty
  rw [← same, advance_check_game io userId gameId legal]
  rfl

section Opening

variable (post : Option Profile → ReadModel → Prop) (db : ReadModel)

theorem opening_running (p : Prog ReadModel Error (Option Profile)) (returns : p.Returns Grows Opens post db) :
    (p >>= fun _ => checkGame io userId gameId).finished = none := by
  cases p with
  | ret profile =>
      change (checkGame io userId gameId).finished = none
      rw [check_game_cases io userId gameId legal]
      rfl
  | raise error => exact returns.elim
  | act effect next failed => rfl

theorem opening_not_add (p : Prog ReadModel Error (Option Profile)) (returns : p.Returns Grows Opens post db) :
    (p >>= fun _ => checkGame io userId gameId) ≠ addGame io userId gameId := by
  cases p with
  | ret profile => exact check_not_add io userId gameId legal
  | raise error => exact returns.elim
  | act effect next failed =>
      intro same
      have later := (returns db fun _ member => member).2
      have running := opening_running io userId gameId legal post _ (next db) later
      apply add_game_done io userId gameId db
      rw [← same]
      exact running

-- A handler that has not come to its check does not look as if it had.
theorem opening_not_at_check (effect : ReadModel → ReadModel) (next : ReadModel → Prog ReadModel Error (Option Profile))
    (failed : Prog ReadModel Error (Option Profile))
    (returns : (Prog.act effect next failed).Returns Grows Opens post db) :
    (Prog.act effect next failed >>= fun _ => checkGame io userId gameId) ≠ checkGame io userId gameId := by
  intro same
  have later := (returns db fun _ member => member).2
  have running := opening_running io userId gameId legal post _ (next db) later
  have step : (next db >>= fun _ => checkGame io userId gameId) = _ := congrArg (fun p => (p.advance .none db).1) same
  rw [advance_check_game io userId gameId legal] at step
  cases found : db.gamesNamed userId gameId with
  | nil =>
      rw [found] at step
      exact opening_not_add io userId gameId legal post _ (next db) later step
  | cons row others =>
      rw [step, found] at running
      cases others <;> cases running

end Opening

end Steps

theorem fits_legal (userId gameId : String) (fits : Fits userId gameId) : Legal [userId, gameId] :=
  legal_two userId gameId fits.1.2 fits.2.2

section Race

variable (calls : ι → GrantCall) (userId gameId : String)

def AtCheck (pool : Pool ι ReadModel Error Unit) (i : ι) : Prop := pool.procs i = checkGame (calls i).io userId gameId

-- Where a handler stands, with what it relies on there.
inductive GrantPhase (pool : Pool ι ReadModel Error Unit) (i : ι) : Prop where
  | opening (p : Prog ReadModel Error (Option Profile))
      (isOpening : pool.procs i = p >>= fun _ => checkGame (calls i).io userId gameId)
      (returns : p.Returns Grows Opens (fun _ after => Knows userId after) pool.store)
      (fresh : (calls i).io.rowId.text ∉ pool.store.ownedGames.keys)
  | adding (isAdding : pool.procs i = addGame (calls i).io userId gameId) (known : Knows userId pool.store)
      (fresh : (calls i).io.rowId.text ∉ pool.store.ownedGames.keys)
  | done (result : Except Error Unit) (finished : (pool.procs i).finished = some result)

-- What one move of a handler does.
inductive Moved (before after : Pool ι ReadModel Error Unit) (i : ι) : Prop where
  | opened (earlier : ¬ AtCheck calls userId gameId before i) (same : after.store.ownedGames = before.store.ownedGames)
      (running : (after.procs i).finished = none) (later : after.procs i ≠ addGame (calls i).io userId gameId)
  | cleared (checks : AtCheck calls userId gameId before i) (missing : before.store.gamesNamed userId gameId = [])
      (same : after.store = before.store) (running : (after.procs i).finished = none)
  | listed (checks : AtCheck calls userId gameId before i) (present : before.store.gamesNamed userId gameId ≠ [])
      (same : after.store = before.store) (result : Except Error Unit)
        (finished : (after.procs i).finished = some result)
  | added (row : OwnedGameRow) (adds : before.procs i = addGame (calls i).io userId gameId)
      (granted : Granted (calls i).io userId gameId row) (rows : ReadModel.GameAdded row before.store after.store)
      (finished : (after.procs i).finished = some (.ok ()))
  | still (result : Except Error Unit) (finished : (before.procs i).finished = some result) (same : after = before)

-- What the others see of a move.
structure Extends (id : String) (before after : ReadModel) : Prop where
  profiles : Grows before after
  games : ∀ row ∈ before.ownedGames.rows, row ∈ after.ownedGames.rows
  keys : ∀ other ∈ after.ownedGames.keys, other ∈ before.ownedGames.keys ∨ other = id

theorem extends_same_games (id : String) (before after : ReadModel) (opens : Opens before after) :
    Extends id before after :=
  ⟨opens.profiles, fun _ member => opens.games ▸ member, fun _ member => Or.inl (opens.games ▸ member)⟩

theorem extends_added (row : OwnedGameRow) (before after : ReadModel) (added : ReadModel.GameAdded row before after) :
    Extends (key row) before after := by
  refine ⟨fun id member => added.profiles ▸ member, fun old member => ?_, fun other => ?_⟩
  · rw [added.rows]
    exact List.mem_append_left _ member
  · exact (Table.mem_keys_added row before.ownedGames after.ownedGames added.rows other).mp

theorem phase_stable (before after : Pool ι ReadModel Error Unit) (i : ι) (id : String)
    (same : after.procs i = before.procs i)
    (grown : Extends id before.store after.store) (different : (calls i).io.rowId.text ≠ id)
    (phase : GrantPhase calls userId gameId before i) : GrantPhase calls userId gameId after i := by
  have stillFresh : (calls i).io.rowId.text ∉ before.store.ownedGames.keys →
      (calls i).io.rowId.text ∉ after.store.ownedGames.keys :=
    fun fresh taken => (grown.keys _ taken).elim fresh different
  cases phase with
  | opening p isOpening returns fresh =>
      refine .opening p (same.trans isOpening) ?_ (stillFresh fresh)
      exact Prog.returns_rely _ _ (fun a b c ab bc id member => bc id (ab id member)) _
        (fun _ a b ab known => ab _ known) p _ _ grown.profiles returns
  | adding isAdding known fresh => exact .adding (same.trans isAdding) (grown.profiles _ known) (stillFresh fresh)
  | done result finished => exact .done result (same ▸ finished)

-- The one place that takes a handler apart: at its check, before it, at its insert.
theorem check_moved [DecidableEq ι] (fits : Fits userId gameId) (pool : Pool ι ReadModel Error Unit) (i : ι)
    (checks : AtCheck calls userId gameId pool i)
    (known : Knows userId pool.store) (fresh : (calls i).io.rowId.text ∉ pool.store.ownedGames.keys) :
    Moved calls userId gameId pool (pool.step ⟨i, .none⟩) i ∧ GrantPhase calls userId gameId (pool.step ⟨i, .none⟩) i ∧
      Extends (calls i).io.rowId.text pool.store (pool.step ⟨i, .none⟩).store := by
  have here : (pool.step ⟨i, .none⟩).procs i = ((pool.procs i).advance .none pool.store).1 :=
    Pool.step_here pool ⟨i, .none⟩
  have store : (pool.step ⟨i, .none⟩).store = ((pool.procs i).advance .none pool.store).2 := rfl
  rw [checks, advance_check_game _ _ _ (fits_legal userId gameId fits)] at here store
  have noGrowth := extends_same_games (calls i).io.rowId.text pool.store _ (opens_refl _)
  rw [store]
  cases found : pool.store.gamesNamed userId gameId with
  | nil =>
      rw [found] at here
      exact ⟨.cleared checks found store (by rw [here]; rfl), .adding here (store ▸ known) (store ▸ fresh), noGrowth⟩
  | cons row others =>
      have present : pool.store.gamesNamed userId gameId ≠ [] := by rw [found]; exact List.cons_ne_nil _ _
      rw [found] at here
      obtain ⟨result, finished⟩ : ∃ result, ((pool.step ⟨i, .none⟩).procs i).finished = some result := by
        rw [here]
        cases others <;> exact ⟨_, rfl⟩
      exact ⟨.listed checks present store result finished, .done result finished, noGrowth⟩

theorem opening_moved [DecidableEq ι] (fits : Fits userId gameId) (pool : Pool ι ReadModel Error Unit) (i : ι)
    (effect : ReadModel → ReadModel)
    (next : ReadModel → Prog ReadModel Error (Option Profile)) (failed : Prog ReadModel Error (Option Profile))
    (isOpening : pool.procs i = Prog.act effect next failed >>= fun _ => checkGame (calls i).io userId gameId)
    (returns : (Prog.act effect next failed).Returns Grows Opens (fun _ after => Knows userId after) pool.store)
    (fresh : (calls i).io.rowId.text ∉ pool.store.ownedGames.keys) :
    Moved calls userId gameId pool (pool.step ⟨i, .none⟩) i ∧ GrantPhase calls userId gameId (pool.step ⟨i, .none⟩) i ∧
      Extends (calls i).io.rowId.text pool.store (pool.step ⟨i, .none⟩).store := by
  have here : (pool.step ⟨i, .none⟩).procs i = ((pool.procs i).advance .none pool.store).1 :=
    Pool.step_here pool ⟨i, .none⟩
  have store : (pool.step ⟨i, .none⟩).store = ((pool.procs i).advance .none pool.store).2 := rfl
  obtain ⟨opens, later⟩ := returns pool.store fun _ member => member
  have moved : ((Prog.act effect next failed >>= fun _ => checkGame (calls i).io userId gameId).advance .none
    pool.store) =
      (next pool.store >>= fun _ => checkGame (calls i).io userId gameId, effect pool.store) := rfl
  rw [isOpening, moved] at here store
  have running := opening_running (calls i).io userId gameId (fits_legal userId gameId fits) _ _ _ later
  have earlier : ¬ AtCheck calls userId gameId pool i := by
    rw [AtCheck, isOpening]
    exact opening_not_at_check (calls i).io userId gameId (fits_legal userId gameId fits) _ _ effect next failed returns
  have notAdding : (pool.step ⟨i, .none⟩).procs i ≠ addGame (calls i).io userId gameId := by
    rw [here]
    exact opening_not_add (calls i).io userId gameId (fits_legal userId gameId fits) _ _ _ later
  refine ⟨.opened earlier (by rw [store, opens.games]) (by rw [here, running]) notAdding,
    .opening _ here (store ▸ later) (by rwa [store, opens.games]), ?_⟩
  rw [store]
  exact extends_same_games _ _ _ opens

theorem step_moved [DecidableEq ι] (fits : Fits userId gameId) (pool : Pool ι ReadModel Error Unit) (i : ι)
    (phase : GrantPhase calls userId gameId pool i) :
    Moved calls userId gameId pool (pool.step ⟨i, .none⟩) i ∧ GrantPhase calls userId gameId (pool.step ⟨i, .none⟩) i ∧
      Extends (calls i).io.rowId.text pool.store (pool.step ⟨i, .none⟩).store := by
  have here : (pool.step ⟨i, .none⟩).procs i = ((pool.procs i).advance .none pool.store).1 :=
    Pool.step_here pool ⟨i, .none⟩
  have store : (pool.step ⟨i, .none⟩).store = ((pool.procs i).advance .none pool.store).2 := rfl
  cases phase with
  | done result finished =>
      have still : pool.step ⟨i, .none⟩ = pool := by
        rw [Pool.step, Prog.finished_advance _ _ _ result finished]
        exact congrArg (Pool.mk pool.store) (Function.update_eq_self i pool.procs)
      rw [still]
      exact ⟨.still result finished rfl, .done result finished, extends_same_games _ _ _ (opens_refl _)⟩
  | adding isAdding known fresh =>
      obtain ⟨row, after, run, granted, added⟩ :=
        advance_add_game (calls i).io userId gameId pool.store fits known fresh
      rw [isAdding, run] at here store
      have finished : ((pool.step ⟨i, .none⟩).procs i).finished = some (.ok ()) := by rw [here]; rfl
      refine ⟨.added row isAdding granted (store ▸ added) finished, .done (.ok ()) finished, ?_⟩
      rw [store, ← granted.id]
      exact extends_added row pool.store after added
  | opening p isOpening returns fresh =>
      cases p with
      | raise error => exact returns.elim
      | ret profile => exact check_moved calls userId gameId fits pool i isOpening returns fresh
      | act effect next failed =>
          exact opening_moved calls userId gameId fits pool i effect next failed isOpening returns fresh

theorem step_adds [DecidableEq ι] (fits : Fits userId gameId) (pool : Pool ι ReadModel Error Unit) (i : ι)
    (phase : GrantPhase calls userId gameId pool i) (adds : pool.procs i = addGame (calls i).io userId gameId) :
    ∃ row ∈ (pool.step ⟨i, .none⟩).store.ownedGames.rows, Granted (calls i).io userId gameId row := by
  cases phase with
  | opening p isOpening returns fresh =>
      rw [isOpening] at adds
      exact absurd adds (opening_not_add (calls i).io userId gameId (fits_legal userId gameId fits) _ _ p returns)
  | done result finished =>
      rw [adds] at finished
      cases finished
  | adding isAdding known fresh =>
      obtain ⟨row, after, run, granted, added⟩ :=
        advance_add_game (calls i).io userId gameId pool.store fits known fresh
      refine ⟨row, ?_, granted⟩
      rw [Pool.step_store, adds, run, added.rows]
      exact List.mem_append_right _ (List.mem_singleton_self row)

end Race

section Runs

variable [DecidableEq ι] (python : Interpreter) (calls : ι → GrantCall) (start : ReadModel) (userId gameId : String)

-- The row ids that uuid4 hands to the calls.
structure FreshCalls : Prop where
  distinct : ∀ i j, (calls i).io.rowId.text = (calls j).io.rowId.text → i = j
  isNew : ∀ i, (calls i).io.rowId.text ∉ start.ownedGames.keys

-- The call has found the pair missing and has not moved since.
def Cleared (before : List ι) (i : ι) : Prop :=
  ∃ earlier later, before = earlier ++ i :: later ∧ i ∉ later ∧
    AtCheck calls userId gameId ((overlap python calls start).play earlier) i ∧
    ((overlap python calls start).play earlier).store.gamesNamed userId gameId = []

-- No call checks for a missing row while another one is about to add it.
def ChecksApart (schedule : List ι) : Prop :=
  ∀ before i after, schedule = before ++ i :: after →
    AtCheck calls userId gameId ((overlap python calls start).play before) i →
    ((overlap python calls start).play before).store.gamesNamed userId gameId = [] →
    ∀ j, j ≠ i → ¬ Cleared python calls start userId gameId before j

theorem play_snoc (pool : Pool ι ReadModel Error Unit) (before : List ι) (i : ι) :
    pool.play (before ++ [i]) = (pool.play before).step ⟨i, .none⟩ := by
  rw [Pool.play_append]
  rfl

theorem snoc_elsewhere (pool : Pool ι ReadModel Error Unit) (before : List ι) (i j : ι) (different : j ≠ i) :
    (pool.play (before ++ [i])).procs j = (pool.play before).procs j := by
  rw [play_snoc, Pool.step_elsewhere _ ⟨i, .none⟩ j different]

theorem play_elsewhere (pool : Pool ι ReadModel Error Unit) (later : List ι) (i : ι) (absent : i ∉ later) :
    (pool.play later).procs i = pool.procs i := by
  induction later generalizing pool with
  | nil => rfl
  | cons j later ih =>
      rw [List.mem_cons, not_or] at absent
      rw [Pool.play_cons, ih _ absent.2, Pool.step_elsewhere pool ⟨j, .none⟩ i absent.1]

theorem cleared_snoc (before : List ι) (i j : ι) :
    Cleared python calls start userId gameId (before ++ [i]) j ↔
      (j ≠ i ∧ Cleared python calls start userId gameId before j) ∨
        (j = i ∧ AtCheck calls userId gameId ((overlap python calls start).play before) i ∧
          ((overlap python calls start).play before).store.gamesNamed userId gameId = []) := by
  constructor
  · rintro ⟨earlier, later, split, unmoved, checks, missing⟩
    rcases List.eq_nil_or_concat later with rfl | ⟨later, last, rfl⟩
    · obtain ⟨rfl, same⟩ := List.append_inj' split rfl
      cases same
      exact Or.inr ⟨rfl, checks, missing⟩
    · rw [List.concat_eq_append] at split unmoved
      rw [← List.cons_append, ← List.append_assoc] at split
      obtain ⟨rfl, same⟩ := List.append_inj' split rfl
      cases same
      simp only [List.mem_append, List.mem_singleton, not_or] at unmoved
      exact Or.inl ⟨unmoved.2, earlier, later, rfl, unmoved.1, checks, missing⟩
  · rintro (⟨different, earlier, later, rfl, unmoved, checks, missing⟩ | ⟨rfl, checks, missing⟩)
    · exact ⟨earlier, later ++ [i], by simp, by simp [unmoved, different], checks, missing⟩
    · exact ⟨before, [], rfl, List.not_mem_nil, checks, missing⟩

theorem cleared_adds (fits : Fits userId gameId) (before : List ι) (i : ι)
    (cleared : Cleared python calls start userId gameId before i) :
    ((overlap python calls start).play before).procs i = addGame (calls i).io userId gameId := by
  obtain ⟨earlier, later, rfl, unmoved, checks, missing⟩ := cleared
  rw [Pool.play_append, Pool.play_cons, play_elsewhere _ later i unmoved, Pool.step_here, checks,
    advance_check_game _ _ _ (fits_legal userId gameId fits), missing]

section Phases

variable (same : ∀ i, LibraryProjector.parties python "OwnershipGranted" (calls i).payload = .ok (userId, gameId))
  (fresh : FreshCalls calls start) (fits : Fits userId gameId)

include same fresh fits

omit [DecidableEq ι] fresh in
theorem starts_opening (i : ι) :
    ∃ p : Prog ReadModel Error (Option Profile),
      (overlap python calls start).procs i = (p >>= fun _ => checkGame (calls i).io userId gameId) ∧
        p.Returns Grows Opens (fun _ after => Knows userId after) start := by
  refine ⟨createIfMissing (calls i).io (.str userId) (.str ""), ?_,
    create_if_missing_returns (calls i).io userId start fits.1⟩
  have starts : (overlap python calls start).procs i = LibraryProjector.handle python (calls i).io (calls i).payload :=
    rfl
  rw [starts, LibraryProjector.handle, same i]
  rfl

theorem play_phases (schedule : List ι) (i : ι) :
    GrantPhase calls userId gameId ((overlap python calls start).play schedule) i := by
  induction schedule using List.reverseRecOn generalizing i with
  | nil =>
      obtain ⟨p, isOpening, returns⟩ := starts_opening python calls start userId gameId same fits i
      exact .opening p isOpening returns (fresh.isNew i)
  | append_singleton before j ih =>
      obtain ⟨_, phase, grown⟩ := step_moved calls userId gameId fits _ j (ih j)
      rw [play_snoc]
      by_cases here : i = j
      · exact here ▸ phase
      · exact phase_stable calls userId gameId _ _ i _ (Pool.step_elsewhere _ ⟨j, .none⟩ i here) grown
          (fun taken => here (fresh.distinct i j taken)) (ih i)

-- A call about to add its row adds it before it is done.
theorem adds_lands (before later : List ι) (i : ι)
    (adds : ((overlap python calls start).play before).procs i = addGame (calls i).io userId gameId) :
    ((overlap python calls start).play (before ++ later)).procs i = addGame (calls i).io userId gameId ∨
      ∃ row ∈ ((overlap python calls start).play (before ++ later)).store.ownedGames.rows, Granted
        (calls i).io userId gameId row := by
  induction later using List.reverseRecOn with
  | nil => exact Or.inl (by rwa [List.append_nil])
  | append_singleton later j ih =>
      have phases := play_phases python calls start userId gameId same fresh fits (before ++ later)
      rw [← List.append_assoc, play_snoc]
      rcases ih with waiting | ⟨row, member, granted⟩
      · by_cases here : i = j
        · subst here
          exact Or.inr (step_adds calls userId gameId fits _ i (phases i) waiting)
        · exact Or.inl (by rw [Pool.step_elsewhere _ ⟨j, .none⟩ i here, waiting])
      · obtain ⟨_, _, grown⟩ := step_moved calls userId gameId fits _ j (phases j)
        exact Or.inr ⟨row, grown.games row member, granted⟩

-- While no two calls are between check and insert: whoever is there meets no row.
structure Apart (before : List ι) : Prop where
  alone : ∀ i j, Cleared python calls start userId gameId before i →
    Cleared python calls start userId gameId before j → i = j
  missing : ∀ i, Cleared python calls start userId gameId before i →
    ((overlap python calls start).play before).store.flags userId gameId = []
  adding : ∀ i, ((overlap python calls start).play before).procs i = addGame (calls i).io userId gameId →
    Cleared python calls start userId gameId before i
  listed : ∀ i result, (((overlap python calls start).play before).procs i).finished = some result →
    ((overlap python calls start).play before).store.flags userId gameId ≠ []
  single : (((overlap python calls start).play before).store.flags userId gameId).length ≤ 1

omit fresh in
theorem apart_start (single : (start.flags userId gameId).length ≤ 1) : Apart python calls start userId gameId [] := by
  have nobody : ∀ i, ¬ Cleared python calls start userId gameId [] i := by
    rintro i ⟨earlier, later, split, _⟩
    cases earlier <;> cases split
  refine ⟨fun i j cleared => absurd cleared (nobody i), fun i cleared => absurd cleared (nobody i), fun i adds => ?_,
    fun i result finished => ?_, single⟩
  · obtain ⟨p, isOpening, returns⟩ := starts_opening python calls start userId gameId same fits i
    rw [Pool.play_nil, isOpening] at adds
    exact absurd adds (opening_not_add (calls i).io userId gameId (fits_legal userId gameId fits) _ _ p returns)
  · obtain ⟨p, isOpening, returns⟩ := starts_opening python calls start userId gameId same fits i
    rw [Pool.play_nil, isOpening,
      opening_running (calls i).io userId gameId (fits_legal userId gameId fits) _ _ p returns] at finished
    cases finished

omit same fresh fits in
-- A move that neither clears a call nor adds a row.
theorem apart_kept (before : List ι) (i : ι) (apart : Apart python calls start userId gameId before)
    (sameFlags : ((overlap python calls start).play (before ++ [i])).store.flags userId gameId =
      ((overlap python calls start).play before).store.flags userId gameId)
    (notCleared : ¬ (AtCheck calls userId gameId ((overlap python calls start).play before) i ∧
      ((overlap python calls start).play before).store.gamesNamed userId gameId = []))
    (notAdding : ((overlap python calls start).play (before ++ [i])).procs i ≠ addGame (calls i).io userId gameId)
    (listed : ∀ result, (((overlap python calls start).play (before ++ [i])).procs i).finished = some result →
      ((overlap python calls start).play before).store.flags userId gameId ≠ []) :
    Apart python calls start userId gameId (before ++ [i]) := by
  have others := snoc_elsewhere (overlap python calls start) before i
  have earlier : ∀ j, Cleared python calls start userId gameId (before ++ [i]) j →
      Cleared python calls start userId gameId before j := by
    intro j cleared
    rcases (cleared_snoc python calls start userId gameId before i j).mp cleared with ⟨_, old⟩ | ⟨_, isNew⟩
    · exact old
    · exact absurd isNew notCleared
  refine ⟨fun j k first second => apart.alone j k (earlier j first) (earlier k second),
    fun j cleared => sameFlags ▸ apart.missing j (earlier j cleared), fun j adds => ?_, fun j result finished => ?_,
    sameFlags ▸ apart.single⟩
  · by_cases here : j = i
    · exact absurd (here ▸ adds) notAdding
    · exact (cleared_snoc python calls start userId gameId before i j).mpr
        (Or.inl ⟨here, apart.adding j (others j here ▸ adds)⟩)
  · rw [sameFlags]
    by_cases here : j = i
    · exact listed result (here ▸ finished)
    · exact apart.listed j result (others j here ▸ finished)

omit same fresh fits in
-- A check that finds no row, with nobody else past theirs.
theorem apart_cleared (before : List ι) (i : ι) (apart : Apart python calls start userId gameId before)
    (checks : AtCheck calls userId gameId ((overlap python calls start).play before) i)
    (missing : ((overlap python calls start).play before).store.gamesNamed userId gameId = [])
    (sameStore : ((overlap python calls start).play (before ++ [i])).store =
      ((overlap python calls start).play before).store)
    (running : (((overlap python calls start).play (before ++ [i])).procs i).finished = none)
    (alone : ∀ j, j ≠ i → ¬ Cleared python calls start userId gameId before j) :
    Apart python calls start userId gameId (before ++ [i]) := by
  have others := snoc_elsewhere (overlap python calls start) before i
  have only : ∀ j, Cleared python calls start userId gameId (before ++ [i]) j → j = i := by
    intro j cleared
    rcases (cleared_snoc python calls start userId gameId before i j).mp cleared with ⟨different, old⟩ | ⟨here, _⟩
    · exact absurd old (alone j different)
    · exact here
  have noFlags := (ReadModel.flags_nil _ userId gameId).mpr missing
  refine ⟨fun j k first second => (only j first).trans (only k second).symm, fun _ _ => sameStore ▸ noFlags,
    fun j adds => ?_,
    fun j result finished => ?_, sameStore ▸ apart.single⟩
  · by_cases here : j = i
    · exact (cleared_snoc python calls start userId gameId before i j).mpr (Or.inr ⟨here, checks, missing⟩)
    · exact (cleared_snoc python calls start userId gameId before i j).mpr
        (Or.inl ⟨here, apart.adding j (others j here ▸ adds)⟩)
  · by_cases here : j = i
    · rw [here, running] at finished
      cases finished
    · exact absurd noFlags (apart.listed j result (others j here ▸ finished))

omit same fresh in
-- The insert of the one call that is past its check.
theorem apart_added (before : List ι) (i : ι) (apart : Apart python calls start userId gameId before)
    (row : OwnedGameRow)
    (adds : ((overlap python calls start).play before).procs i = addGame (calls i).io userId gameId)
    (granted : Granted (calls i).io userId gameId row)
    (rows : ReadModel.GameAdded row ((overlap python calls start).play before).store
      ((overlap python calls start).play (before ++ [i])).store)
    (finished : (((overlap python calls start).play (before ++ [i])).procs i).finished = some (.ok ())) :
    Apart python calls start userId gameId (before ++ [i]) := by
  have others := snoc_elsewhere (overlap python calls start) before i
  have cleared := apart.adding i adds
  have nobody : ∀ j, ¬ Cleared python calls start userId gameId (before ++ [i]) j := by
    intro j isCleared
    rcases (cleared_snoc python calls start userId gameId before i j).mp isCleared with
      ⟨different, old⟩ | ⟨_, checks, _⟩
    · exact different (apart.alone j i old cleared)
    · exact check_not_add (calls i).io userId gameId (fits_legal userId gameId fits) (checks.symm.trans adds)
  have flags := ReadModel.flags_added row _ _ rows userId gameId
  rw [apart.missing i cleared, if_pos ⟨granted.user, granted.game⟩, List.nil_append] at flags
  refine ⟨fun j k first => absurd first (nobody j), fun j isCleared => absurd isCleared (nobody j),
    fun j isAdding => ?_,
    fun _ _ _ => by rw [flags]; exact List.cons_ne_nil _ _, by rw [flags]; exact Nat.le_refl 1⟩
  by_cases here : j = i
  · rw [here] at isAdding
    rw [isAdding] at finished
    cases finished
  · exact absurd (apart.alone j i (apart.adding j (others j here ▸ isAdding)) cleared) here

theorem apart_step (before : List ι) (i : ι) (apart : Apart python calls start userId gameId before)
    (checksApart : AtCheck calls userId gameId ((overlap python calls start).play before) i →
      ((overlap python calls start).play before).store.gamesNamed userId gameId = [] →
      ∀ j, j ≠ i → ¬ Cleared python calls start userId gameId before j) :
    Apart python calls start userId gameId (before ++ [i]) := by
  have phase := play_phases python calls start userId gameId same fresh fits before i
  have snoc := play_snoc (overlap python calls start) before i
  obtain ⟨moved, _, _⟩ := step_moved calls userId gameId fits _ i phase
  rw [← snoc] at moved
  cases moved with
  | opened earlier sameGames running later =>
      refine apart_kept python calls start userId gameId before i apart
        (ReadModel.flags_same _ _ sameGames userId gameId)
        (fun cleared => earlier cleared.1) later fun result finished => ?_
      rw [running] at finished
      cases finished
  | listed checks present sameStore result finished =>
      refine apart_kept python calls start userId gameId before i apart (by rw [sameStore])
        (fun cleared => present cleared.2) ?_
        fun _ _ isMissing => present ((ReadModel.flags_nil _ userId gameId).mp isMissing)
      intro adds
      rw [adds] at finished
      cases finished
  | still result finished same =>
      refine apart_kept python calls start userId gameId before i apart (by rw [same]) ?_ ?_
        fun _ _ => apart.listed i result finished
      · rintro ⟨checks, _⟩
        rw [checks] at finished
        cases finished
      · intro adds
        rw [same] at adds
        rw [adds] at finished
        cases finished
  | cleared checks missing sameStore running =>
      exact apart_cleared python calls start userId gameId before i apart checks missing sameStore running
        (checksApart checks missing)
  | added row adds granted rows finished =>
      exact apart_added python calls start userId gameId fits before i apart row adds granted rows finished

theorem play_apart (schedule : List ι) (single : (start.flags userId gameId).length ≤ 1)
    (checksApart : ChecksApart python calls start userId gameId schedule) (before : List ι)
    (isPrefix : before <+: schedule) :
    Apart python calls start userId gameId before := by
  induction before using List.reverseRecOn with
  | nil => exact apart_start python calls start userId gameId same fits single
  | append_singleton before i ih =>
      obtain ⟨after, split⟩ := isPrefix
      rw [List.append_assoc, List.singleton_append] at split
      exact apart_step python calls start userId gameId same fresh fits before i (ih ⟨i :: after, split⟩)
        (checksApart before i after split.symm)

theorem play_rows (schedule : List ι) (row : OwnedGameRow) (member : row ∈ start.ownedGames.rows) :
    row ∈ ((overlap python calls start).play schedule).store.ownedGames.rows := by
  induction schedule using List.reverseRecOn with
  | nil => exact member
  | append_singleton before i ih =>
      have phase := play_phases python calls start userId gameId same fresh fits before i
      obtain ⟨_, _, grown⟩ := step_moved calls userId gameId fits _ i phase
      rw [play_snoc]
      exact grown.games row ih

theorem started_single (schedule : List ι) (row : OwnedGameRow)
    (one : ((overlap python calls start).play schedule).store.gamesNamed userId gameId = [row]) :
    (start.flags userId gameId).length ≤ 1 := by
  have only : ∀ old ∈ start.gamesNamed userId gameId, old = row := by
    intro old member
    have later : old ∈ ((overlap python calls start).play schedule).store.gamesNamed userId gameId :=
      List.mem_filter.mpr ⟨play_rows python calls start userId gameId same fresh fits schedule old
        (List.mem_of_mem_filter member),
        (List.mem_filter.mp member).2⟩
    rw [one] at later
    exact List.mem_singleton.mp later
  have distinct : (start.gamesNamed userId gameId).Nodup :=
    (start.ownedGames.distinct.of_map).sublist List.filter_sublist
  rw [ReadModel.flags, List.length_map]
  cases found : start.gamesNamed userId gameId with
  | nil => exact Nat.zero_le 1
  | cons first others =>
      cases others with
      | nil => exact Nat.le_refl 1
      | cons second others =>
          rw [found] at only distinct
          have isFirst := only first (List.mem_cons_self ..)
          have isSecond := only second (List.mem_cons_of_mem _ (List.mem_cons_self ..))
          rw [isFirst, isSecond] at distinct
          exact absurd (List.mem_cons_self ..) (List.nodup_cons.mp distinct).1

-- Two calls that both find no row both add one.
theorem checks_apart_of_one (schedule : List ι) (row : OwnedGameRow)
    (one : ((overlap python calls start).play schedule).store.gamesNamed userId gameId = [row])
    (complete : ∀ i, ∃ result, (((overlap python calls start).play schedule).procs i).finished = some result) :
    ChecksApart python calls start userId gameId schedule := by
  intro before i after split checks missing j different cleared
  have whole : schedule = (before ++ [i]) ++ after := by rw [split, List.append_assoc, List.singleton_append]
  have here := cleared_adds python calls start userId gameId fits (before ++ [i]) i
    ((cleared_snoc python calls start userId gameId before i i).mpr (Or.inr ⟨rfl, checks, missing⟩))
  have there := cleared_adds python calls start userId gameId fits (before ++ [i]) j
    ((cleared_snoc python calls start userId gameId before i j).mpr (Or.inl ⟨different, cleared⟩))
  have lands : ∀ k, ((overlap python calls start).play (before ++ [i])).procs k = addGame (calls k).io userId gameId →
      Granted (calls k).io userId gameId row := by
    intro k adds
    rcases adds_lands python calls start userId gameId same fresh fits (before ++ [i]) after k adds with
      waiting | ⟨added, member, granted⟩
    · obtain ⟨result, finished⟩ := complete k
      rw [whole, waiting] at finished
      cases finished
    · rw [← whole] at member
      have named : added ∈ ((overlap python calls start).play schedule).store.gamesNamed userId gameId :=
        List.mem_filter.mpr ⟨member, by simp [granted.user, granted.game]⟩
      rw [one] at named
      exact List.mem_singleton.mp named ▸ granted
  exact different (fresh.distinct j i ((lands j there).id.symm.trans (lands i here).id))

end Phases

-- However many calls overlap, the game is listed once exactly when no call checks for
-- the missing row while another one is between its check and its insert.
theorem listed_once_iff [Nonempty ι] (schedule : List ι)
    (same : ∀ i, LibraryProjector.parties python "OwnershipGranted" (calls i).payload = .ok (userId, gameId))
    (fresh : FreshCalls calls start)
    (complete : ∀ i, ∃ result, (((overlap python calls start).play schedule).procs i).finished = some result) :
    ListedOnce userId gameId ((overlap python calls start).play schedule).store ↔
      Fits userId gameId ∧ (start.flags userId gameId).length ≤ 1 ∧
        ChecksApart python calls start userId gameId schedule := by
  constructor
  · rintro ⟨⟨row, one⟩, _⟩
    have fits : Fits userId gameId :=
      ReadModel.flags_fit _ userId gameId (by rw [ReadModel.flags, one]; exact List.cons_ne_nil _ _)
    exact ⟨fits, started_single python calls start userId gameId same fresh fits schedule row one,
      checks_apart_of_one python calls start userId gameId same fresh fits schedule row one complete⟩
  · rintro ⟨fits, single, checksApart⟩
    have apart := play_apart python calls start userId gameId same fresh fits schedule single checksApart schedule
      (List.prefix_refl _)
    obtain ⟨i⟩ := ‹Nonempty ι›
    obtain ⟨result, finished⟩ := complete i
    have listed := apart.listed i result finished
    obtain ⟨flag, one⟩ := List.length_eq_one_iff.mp (Nat.le_antisymm apart.single (List.length_pos_iff.mpr listed))
    obtain ⟨row, isRow, _⟩ := List.map_eq_singleton_iff.mp one
    exact listed_once_of_one userId gameId _ ⟨row, isRow⟩

end Runs

-- One grant, handled by two replicas.
def replicas (first : Bool) : GrantCall :=
  ⟨if first then .sample 1 else .sample 2, .dict [("owner_id", .str "u1"), ("game_id", .str "g1")]⟩

theorem replicas_fresh : FreshCalls replicas .empty := by
  refine ⟨fun i j same => ?_, fun i => List.not_mem_nil⟩
  revert i j
  decide

-- The second replica starts when the first one is done.
def handoverSchedule : List Bool := List.replicate 8 true ++ List.replicate 7 false

-- Both check before either one adds.
def rebalanceSchedule : List Bool := List.replicate 7 true ++ List.replicate 7 false ++ [true, false]

theorem handover_lists_once :
    ListedOnce "u1" "g1" ((overlap .sample replicas .empty).play handoverSchedule).store ↔
      Fits "u1" "g1" ∧ (ReadModel.empty.flags "u1" "g1").length ≤ 1 ∧
        ChecksApart .sample replicas .empty "u1" "g1" handoverSchedule := by
  refine listed_once_iff .sample replicas .empty "u1" "g1" handoverSchedule
    (fun i => by cases i <;> rfl) replicas_fresh fun i => ?_
  cases i <;> exact ⟨.ok (), rfl⟩

theorem rebalance_lists_twice :
    (∀ i, (((overlap .sample replicas .empty).play rebalanceSchedule).procs i).finished = some (.ok ())) ∧
      ¬ ListedOnce "u1" "g1" ((overlap .sample replicas .empty).play rebalanceSchedule).store := by
  refine ⟨fun i => by cases i <;> rfl, fun once => ?_⟩
  have usable := once.usable [] .owns
  cases usable

end AuthProfile
