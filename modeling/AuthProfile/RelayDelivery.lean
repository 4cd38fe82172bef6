import AuthProfile.CallSteps
import AuthProfile.Messaging.Outbox

set_option autoImplicit false

namespace AuthProfile

open Relation Process OutboxDispatcher

-- What works on the outbox at the same time: replicas of the dispatcher, and calls that
-- add rows to it.
inductive Worker where
  | replica (polls : List Poll)
  | caller (platform : Platform) (io : Surroundings) (call : Call)

def Worker.program (settings : RelaySettings) : Worker → Prog RelayStores Error Unit
  | .replica polls => runLoop settings polls
  | .caller platform io call => (call.program platform io).focus RelayStores.onDb

def relayPool {ι : Type} (settings : RelaySettings) (workers : ι → Worker) (db : Db) : Pool ι RelayStores Error Unit :=
  ⟨⟨db, []⟩, fun i => (workers i).program settings⟩

namespace RelayStores

section Moves

variable (settings : RelaySettings)

def Genuine (stores : RelayStores) (message : Message) : Prop :=
  ∃ id row, stores.db.outbox.find id = some row ∧ messageFor settings row = .ok message

-- The row of a batch is still in the outbox, whatever has become of its flag.
def Selected (stores : RelayStores) (row : OutboxRow) : Prop :=
  ∃ current, stores.db.outbox.find row.id.text = some current ∧ current.content = row.content

structure Relayed (before after : RelayStores) : Prop where
  log : ∃ added, after.published = before.published ++ added ∧ ∀ message ∈ added, after.Genuine settings message
  rows : ∀ id row, before.db.outbox.find id = some row →
    ∃ later, after.db.outbox.find id = some later ∧ later.content = row.content
  stays : ∀ id, before.Dispatched id → after.Dispatched id
  sent : before.SentSince after

structure Acts (before after : RelayStores) : Prop where
  relayed : Relayed settings before after
  earlier : ∀ id, after.Dispatched id → before.Dispatched id ∨ before.Published id

theorem published_grows (before after : RelayStores) (relayed : Relayed settings before after) (id : String)
    (published : before.Published id) : after.Published id := by
  obtain ⟨added, isAfter, _⟩ := relayed.log
  obtain ⟨message, member, isId⟩ := published
  exact ⟨message, by rw [isAfter]; exact List.mem_append_left _ member, isId⟩

theorem genuine_grows (before after : RelayStores) (relayed : Relayed settings before after) (message : Message)
    (genuine : before.Genuine settings message) : after.Genuine settings message := by
  obtain ⟨id, row, found, built⟩ := genuine
  obtain ⟨later, foundLater, sameContent⟩ := relayed.rows id row found
  exact ⟨id, later, foundLater, by rw [message_content settings later row sameContent, built]⟩

theorem selected_grows (before after : RelayStores) (relayed : Relayed settings before after) (row : OutboxRow)
    (selected : before.Selected row) : after.Selected row := by
  obtain ⟨current, found, sameContent⟩ := selected
  obtain ⟨later, foundLater, same⟩ := relayed.rows _ current found
  exact ⟨later, foundLater, same.trans sameContent⟩

theorem relayed_refl (stores : RelayStores) : Relayed settings stores stores :=
  ⟨⟨[], (List.append_nil _).symm, fun _ member => nomatch member⟩, fun _ row found => ⟨row, found, rfl⟩, fun _ => id,
    fun _ => Or.inl⟩

theorem relayed_trans (a b c : RelayStores) (ab : Relayed settings a b) (bc : Relayed settings b c) :
    Relayed settings a c := by
  constructor
  · obtain ⟨first, isB, genuineFirst⟩ := ab.log
    obtain ⟨second, isC, genuineSecond⟩ := bc.log
    refine ⟨first ++ second, by rw [isC, isB, List.append_assoc], fun message member => ?_⟩
    rcases List.mem_append.mp member with early | late
    · exact genuine_grows settings b c bc message (genuineFirst message early)
    · exact genuineSecond message late
  · intro id row found
    obtain ⟨middle, foundMiddle, sameMiddle⟩ := ab.rows id row found
    obtain ⟨later, foundLater, sameLater⟩ := bc.rows id middle foundMiddle
    exact ⟨later, foundLater, sameLater.trans sameMiddle⟩
  · exact fun id dispatched => bc.stays id (ab.stays id dispatched)
  · intro id dispatched
    rcases bc.sent id dispatched with middle | published
    · rcases ab.sent id middle with start | published
      · exact Or.inl start
      · exact Or.inr (published_grows settings b c bc id published)
    · exact Or.inr published

theorem acts_refl (stores : RelayStores) : Acts settings stores stores :=
  ⟨relayed_refl settings stores, fun _ => Or.inl⟩

theorem acts_publish (stores : RelayStores) (row : OutboxRow) (message : Message) (selected : stores.Selected row)
    (built : messageFor settings row = .ok message) :
    Acts settings stores { stores with published := stores.published ++ [message] } := by
  obtain ⟨current, found, sameContent⟩ := selected
  refine ⟨⟨⟨[message], rfl, fun other member => ?_⟩, fun _ row found => ⟨row, found, rfl⟩, fun _ => id,
    fun _ => Or.inl⟩,
    fun _ => Or.inl⟩
  cases List.mem_singleton.mp member
  exact ⟨_, current, found, by rw [message_content settings current row sameContent, built]⟩

theorem acts_mark (stores : RelayStores) (id : String) (now : Time) (published : stores.Published id) :
    Acts settings stores { stores with db := stores.db.markDispatched id now } := by
  have marks := Db.marks_mark id now stores.db
  have marked : ∀ other, Dispatched { stores with db := stores.db.markDispatched id now } other →
      stores.Dispatched other ∨ stores.Published other := by
    intro other ⟨row, found, sent⟩
    by_cases here : other = id
    · exact Or.inr (here ▸ published)
    · exact Or.inl ⟨row, (Db.find_mark_other id other now stores.db here).symm.trans found, sent⟩
  refine ⟨⟨⟨[], (List.append_nil _).symm, fun _ member => nomatch member⟩, fun other row found => ?_,
    fun other dispatched => ?_,
    marked⟩, marked⟩
  · rcases Db.marks_found _ _ marks other row found with same | ⟨now, isMarked⟩
    · exact ⟨row, same, rfl⟩
    · exact ⟨_, isMarked, rfl⟩
  · obtain ⟨row, found, sent⟩ := dispatched
    exact Db.marks_dispatched _ _ marks other row found sent

theorem acts_grow (stores : RelayStores) (db : Db) (grows : Db.OutboxGrows stores.db db) :
    Acts settings stores { stores with db := db } := by
  have same : ∀ id, Dispatched { stores with db := db } id → stores.Dispatched id := fun id ⟨row, found, sent⟩ =>
    ⟨row, Db.grows_dispatched stores.db db grows id row found sent, sent⟩
  refine ⟨⟨⟨[], (List.append_nil _).symm, fun _ member => nomatch member⟩, fun id row found => ?_,
    fun id dispatched => ?_,
    fun id dispatched => Or.inl (same id dispatched)⟩, fun id dispatched => Or.inl (same id dispatched)⟩
  · exact ⟨row, Db.grows_found stores.db db grows id row found, rfl⟩
  · obtain ⟨row, found, sent⟩ := dispatched
    exact ⟨row, Db.grows_found stores.db db grows id row found, sent⟩

end Moves

end RelayStores

namespace OutboxDispatcher

open RelayStores

section Replica

variable (settings : RelaySettings) (poll : Poll)

theorem send_assures (row : OutboxRow) (stores : RelayStores) (selected : stores.Selected row) :
    (send settings poll row).Assures (Relayed settings) (Acts settings)
      (fun result after => result = .ok () → after.Published row.id.text) stores := by
  have refused : ∀ (error : Error) (after : RelayStores), (Except.error error : Except Error Unit) = .ok () →
      after.Published row.id.text := by
    intro error after wrong
    cases wrong
  rw [send]
  cases built : messageFor settings row with
  | error error => exact refused error stores
  | ok message =>
      refine Prog.assures_atomic _ _ (acts_refl settings) _ _ _ _ fun s' moved => ⟨refused _ s', ?_⟩
      cases poll.accepts row with
      | false => exact refused _ s'
      | true =>
          have still := selected_grows settings stores s' moved row selected
          refine ⟨acts_publish settings s' row message still built, fun _ => ?_, refused _ _⟩
          exact ⟨message, List.mem_append_right _ (List.mem_singleton_self _),
            message_event_id settings row message built⟩

theorem mark_assures (row : OutboxRow) (stores : RelayStores) (published : stores.Published row.id.text) :
    (mark poll row).Assures (Relayed settings) (Acts settings) (fun _ _ => True) stores := by
  refine Prog.assures_query_bind _ _ (acts_refl settings) _ _ _ _ _ fun between moved => ⟨trivial, ?_⟩
  refine Prog.assures_atomic _ _ (acts_refl settings) _ _ _ _ fun s' later => ⟨trivial, ?_, trivial, trivial⟩
  have still := published_grows settings between s' later _ (published_grows settings stores between moved _ published)
  exact acts_mark settings s' row.id.text (poll.now row) still

theorem rollback_assures (session : Session) (stores : RelayStores) :
    (rollback session).Assures (Relayed settings) (Acts settings) (fun _ _ => True) stores := by
  rw [rollback]
  split
  · exact Prog.assures_query_bind _ _ (acts_refl settings) _ _ _ _ _ fun _ _ => ⟨trivial, trivial⟩
  · trivial

theorem dispatch_row_assures (session : Session) (row : OutboxRow) (stores : RelayStores)
    (selected : stores.Selected row) :
    (dispatchRow settings poll session row).Assures (Relayed settings) (Acts settings) (fun _ _ => True) stores := by
  rw [dispatchRow]
  split
  · trivial
  · apply Prog.assures_bind
    apply Prog.assures_attempt
    refine Prog.assures_mono _ _ _ _ _ _ (fun result after published => ?_)
      (send_assures settings poll row stores selected)
    cases result with
    | error error => exact rollback_assures settings session after
    | ok done =>
        apply Prog.assures_bind
        apply Prog.assures_attempt
        refine Prog.assures_mono _ _ _ _ _ _ (fun result final _ => ?_)
          (mark_assures settings poll row after (published rfl))
        cases result with
        | error error => exact rollback_assures settings _ final
        | ok done => trivial

-- Rows of a batch may be marked by others before their turn: they are published once more.
theorem dispatch_rows_assures (session : Session) (rows : List OutboxRow) (stores : RelayStores)
    (selected : ∀ row ∈ rows, stores.Selected row) :
    (dispatchRows settings poll session rows).Assures (Relayed settings) (Acts settings) (fun _ _ => True) stores := by
  induction rows generalizing session stores with
  | nil => trivial
  | cons row rows ih =>
      rw [dispatchRows]
      apply Prog.assures_bind
      have here := dispatch_row_assures settings poll session row stores (selected row (List.mem_cons_self ..))
      have framed := Prog.assures_frame _ _ (fun after => ∀ row ∈ rows, after.Selected row)
        (fun a b moved kept row member => selected_grows settings a b moved row (kept row member))
        (fun _ _ acts => acts.relayed) _ _ stores (fun row member => selected row (List.mem_cons_of_mem _ member)) here
      refine Prog.assures_mono _ _ _ _ _ _ (fun result after kept => ?_) framed
      cases result with
      | error error => trivial
      | ok next => exact ih next after kept.2

theorem dispatch_batch_assures (stores : RelayStores) :
    (dispatchBatch settings poll).Assures (Relayed settings) (Acts settings) (fun _ _ => True) stores := by
  refine Prog.assures_query_bind _ _ (acts_refl settings) _ _ _ _ _ fun s' _ => ⟨trivial, ?_⟩
  refine dispatch_rows_assures settings poll _ _ s' fun row member => ?_
  exact ⟨row, (batch_waiting settings poll s'.db row member).1, rfl⟩

theorem run_loop_assures (polls : List Poll) (stores : RelayStores) :
    (runLoop settings polls).Assures (Relayed settings) (Acts settings) (fun _ _ => True) stores := by
  induction polls generalizing stores with
  | nil => trivial
  | cons poll polls ih =>
      rw [runLoop]
      apply Prog.assures_bind
      apply Prog.assures_attempt
      exact Prog.assures_mono _ _ _ _ _ _ (fun result after _ => ih after) (dispatch_batch_assures settings poll stores)

end Replica

end OutboxDispatcher

section Delivery

open RelayStores

variable (settings : RelaySettings)

theorem worker_guarantees (worker : Worker) (stores : RelayStores) :
    (worker.program settings).Guarantees (Relayed settings) (Acts settings) stores := by
  cases worker with
  | replica polls => exact Prog.assures_guarantees _ _ _ _ _ (run_loop_assures settings polls stores)
  | caller platform io call =>
      refine Prog.steps_guarantees _ _ _ _ (Prog.steps_focus _ Db.OutboxGrows _ ?_ _ (call_steps platform io call))
      exact fun stores db grows => acts_grow settings stores db grows

variable {ι : Type} [DecidableEq ι]

theorem run_relayed (pool : Pool ι RelayStores Error Unit) (moves : List (Move ι))
    (kept : ∀ i, (pool.procs i).Guarantees (Relayed settings) (Acts settings) pool.store) :
    Relayed settings pool.store (pool.run moves).store ∧
      ∀ i, ((pool.run moves).procs i).Guarantees (Relayed settings) (Acts settings) (pool.run moves).store :=
  Pool.run_guarantees _ _ (relayed_refl settings) (relayed_trans settings) (acts_refl settings)
    (fun _ _ acts => acts.relayed) pool
    moves kept

theorem genuine_same (stores : RelayStores) (a b : Message) (genuineA : stores.Genuine settings a)
    (genuineB : stores.Genuine settings b) (sameId : a.eventId = b.eventId) : a = b := by
  obtain ⟨idA, rowA, foundA, builtA⟩ := genuineA
  obtain ⟨idB, rowB, foundB, builtB⟩ := genuineB
  rw [message_event_id settings rowA a builtA, message_event_id settings rowB b builtB, Option.some.injEq] at sameId
  have isA : rowA.id.text = idA := Table.find_key idA _ rowA foundA
  have isB : rowB.id.text = idB := Table.find_key idB _ rowB foundB
  have sameKey : idA = idB := isA.symm.trans (sameId.trans isB)
  subst sameKey
  rw [foundA, Option.some.injEq] at foundB
  rw [foundB, builtB] at builtA
  exact (Except.ok.inj builtA).symm

structure LogGenuine (stores : RelayStores) : Prop where
  genuine : ∀ message ∈ stores.published, stores.Genuine settings message
  same : ∀ first ∈ stores.published, ∀ second ∈ stores.published, first.eventId = second.eventId → first = second

-- The relay marks a row only after its message is out, never unmarks one, and publishes
-- for a row one and the same message.
structure Delivers (pool : Pool ι RelayStores Error Unit) (moves : List (Move ι)) : Prop where
  published : ∀ move id, ¬ (pool.run moves).store.Dispatched id → ((pool.run moves).step move).store.Dispatched id →
    (pool.run moves).store.Published id
  stays : ∀ later id, (pool.run moves).store.Dispatched id → (pool.run (moves ++ later)).store.Dispatched id
  log : LogGenuine settings (pool.run moves).store

-- Whatever the number of replicas and calls, the order of their actions and the failures.
theorem relay_delivers (workers : ι → Worker) (db : Db) (moves : List (Move ι)) :
    Delivers settings (relayPool settings workers db) moves := by
  have started : ∀ i, ((relayPool settings workers db).procs i).Guarantees (Relayed settings) (Acts settings)
      (relayPool settings workers db).store := fun i => worker_guarantees settings (workers i) _
  obtain ⟨relayed, kept⟩ := run_relayed settings (relayPool settings workers db) moves started
  constructor
  · intro move id waits dispatched
    have step := Prog.guarantees_advance _ _ (relayed_refl settings) (acts_refl settings) _ move.fault _
      (kept move.proc)
    exact (step.1.earlier id dispatched).resolve_left waits
  · intro later id dispatched
    rw [Pool.run_append]
    exact (run_relayed settings _ later kept).1.stays id dispatched
  · obtain ⟨added, isLog, genuine⟩ := relayed.log
    have onLog : ∀ message ∈ ((relayPool settings workers db).run moves).store.published,
        ((relayPool settings workers db).run moves).store.Genuine settings message := by
      intro message member
      rw [isLog] at member
      exact genuine message member
    exact ⟨onLog, fun first firstMember second secondMember =>
      genuine_same settings _ first second (onLog first firstMember)
      (onLog second secondMember)⟩

end Delivery

end AuthProfile
