import AuthProfile.Messaging.Outbox

set_option autoImplicit false

namespace AuthProfile

open Relation Process OutboxDispatcher

def PublishedAfter (first second : String) (published : List Message) : Prop :=
  ∀ earlier message later, published = earlier ++ message :: later → message.eventId = some second →
    ∃ before ∈ earlier, before.eventId = some first

-- Of two rows of one aggregate the older one goes out first, unless the older one was
-- dispatched or the younger one was out before the run.
def OrderKept (start : RelayStores) (published : List Message) : Prop :=
  ∀ a ∈ start.db.outbox.rows, ∀ b ∈ start.db.outbox.rows, a.aggregateId = b.aggregateId → a.createdAt < b.createdAt →
    a.dispatched = false → ¬ start.Published b.id.text → PublishedAfter a.id.text b.id.text published

section Order

variable (settings : RelaySettings)

-- A turn of the dispatcher's loop, or a transaction that use cases commit between two of them.
inductive RelayStep where
  | turn (poll : Poll)
  | commit (writes : List Write)

def relayStep (stores : RelayStores) : RelayStep → RelayStores
  | .turn poll => ((runLoop settings [poll]).exec [] stores).store
  | .commit writes =>
      match Db.flush writes stores.db with
      | .ok db => { stores with db := db }
      | .error _ => stores

-- Of two rows from before the run, in one batch and neither of them ever out, the older
-- one fails and the younger one goes out.
def Overtakes (start stores : RelayStores) (poll : Poll) : Prop :=
  Leads settings stores poll ∧ ∃ a ∈ start.db.outbox.rows, ∃ b ∈ start.db.outbox.rows,
    a ∈ selectBatch settings poll stores.db ∧ b ∈ selectBatch settings poll stores.db ∧
      a.aggregateId = b.aggregateId ∧ a.createdAt < b.createdAt ∧ outgoing settings poll.accepts a = none ∧
        outgoing settings poll.accepts b ≠ none ∧ ¬ stores.Published a.id.text ∧ ¬ stores.Published b.id.text

def Orderly (start stores : RelayStores) : RelayStep → Prop
  | .turn poll => ¬ Overtakes settings start stores poll
  | .commit _ => True

def relayMachine (start : RelayStores) : Machine RelayStores RelayStep := ⟨relayStep settings, Orderly settings start⟩

theorem turn_polled (stores : RelayStores) (poll : Poll) :
    relayStep settings stores (.turn poll) = polled settings stores poll :=
  run_loop_store settings (fun _ _ => True) [poll] stores

theorem commit_cases (stores : RelayStores) (writes : List Write) :
    ∃ db, relayStep settings stores (.commit writes) = { stores with db := db } ∧ Db.OutboxGrows stores.db db := by
  rw [relayStep]
  cases run : Db.flush writes stores.db with
  | error error => exact ⟨stores.db, rfl, Db.grows_refl stores.db⟩
  | ok db => exact ⟨db, rfl, Db.flush_grows writes stores.db db run⟩

theorem published_after_left (first second : String) (published added : List Message)
    (after : PublishedAfter first second (published ++ added)) : PublishedAfter first second published := by
  intro earlier message later split isSecond
  exact after earlier message (later ++ added) (by rw [split, List.append_assoc, List.cons_append]) isSecond

theorem split_append (first second earlier later : List Message) (message : Message)
    (split : first ++ second = earlier ++ message :: later) :
    (∃ rest, first = earlier ++ message :: rest) ∨
      ∃ front, earlier = first ++ front ∧ second = front ++ message :: later := by
  rcases List.append_eq_append_iff.mp split with ⟨front, isEarlier, isSecond⟩ | ⟨more, isFirst, isRest⟩
  · exact Or.inr ⟨front, isEarlier, isSecond⟩
  · cases more with
    | nil =>
        rw [List.append_nil] at isFirst
        exact Or.inr ⟨[], by rw [isFirst, List.append_nil], isRest.symm⟩
    | cons head tail =>
        obtain ⟨isHead, _⟩ := List.cons.inj isRest
        exact Or.inl ⟨tail, by rw [isFirst, isHead]⟩

theorem out_split (accepts : OutboxRow → Bool) (rows : List OutboxRow) (earlier later : List Message)
    (message : Message) (split : rows.filterMap (outgoing settings accepts) = earlier ++ message :: later) :
    ∃ before row after, rows = before ++ row :: after ∧ before.filterMap (outgoing settings accepts) = earlier ∧
      outgoing settings accepts row = some message := by
  obtain ⟨before, rest, isRows, isBefore, isRest⟩ := List.filterMap_eq_append_iff.mp split
  obtain ⟨skipped, row, after, isSplit, silent, out, _⟩ := List.filterMap_eq_cons_iff.mp isRest
  refine ⟨before ++ skipped, row, after, by rw [isRows, isSplit, List.append_assoc], ?_, out⟩
  have nothing : skipped.filterMap (outgoing settings accepts) = [] := List.filterMap_eq_nil_iff.mpr silent
  rw [List.filterMap_append, isBefore, nothing, List.append_nil]

theorem outgoing_event_id (accepts : OutboxRow → Bool) (row : OutboxRow) (message : Message)
    (out : outgoing settings accepts row = some message) : message.eventId = some row.id.text :=
  message_event_id settings row message (outgoing_ok settings accepts row message out).2

-- What a run has done to the stores so far.
structure Since (start stores : RelayStores) : Prop where
  keeps : Db.Keeps start.db stores.db
  sent : start.SentSince stores
  grown : ∀ id, start.Published id → stores.Published id
  kept : OrderKept start stores.published

theorem waiting_of_unpublished (start stores : RelayStores) (since : Since start stores) (row : OutboxRow)
    (stored : row ∈ start.db.outbox.rows) (waits : row.dispatched = false)
    (unpublished : ¬ stores.Published row.id.text) :
    stores.db.outbox.find row.id.text = some row := by
  have found : start.db.outbox.find row.id.text = some row := Table.find_self start.db.outbox row stored
  rcases since.keeps _ row found with same | ⟨now, isMarked⟩
  · exact same
  · rcases since.sent _ ⟨_, isMarked, rfl⟩ with ⟨old, foundOld, sent⟩ | published
    · rw [found, Option.some.injEq] at foundOld
      rw [← foundOld, waits] at sent
      cases sent
    · exact absurd published unpublished

theorem same_row (db : Db) (a b : OutboxRow) (aStored : a ∈ db.outbox.rows) (bStored : b ∈ db.outbox.rows)
    (same : a.id.text = b.id.text) : a = b := by
  have aFound : db.outbox.find a.id.text = some a := Table.find_self db.outbox a aStored
  have bFound : db.outbox.find b.id.text = some b := Table.find_self db.outbox b bStored
  rw [same, bFound] at aFound
  exact (Option.some.inj aFound).symm

theorem batch_stored (poll : Poll) (db : Db) (row : OutboxRow) (member : row ∈ selectBatch settings poll db) :
    row ∈ db.outbox.rows :=
  Table.find_mem _ _ row (batch_waiting settings poll db row member).1

-- A row of a batch with the id of a row from before the run is that row.
theorem batch_row (start stores : RelayStores) (since : Since start stores) (poll : Poll) (row old : OutboxRow)
    (member : row ∈ selectBatch settings poll stores.db) (stored : old ∈ start.db.outbox.rows)
    (same : row.id.text = old.id.text) :
    row = old := by
  obtain ⟨found, waits⟩ := batch_waiting settings poll stores.db row member
  have foundOld : start.db.outbox.find old.id.text = some old := Table.find_self start.db.outbox old stored
  rw [same] at found
  rcases since.keeps _ old foundOld with isOld | ⟨now, isMarked⟩
  · exact Option.some.inj (found.symm.trans isOld)
  · have isRow : row = Db.marked old now := Option.some.inj (found.symm.trans isMarked)
    rw [isRow] at waits
    cases waits

theorem overtakes_breaks (start stores : RelayStores) (since : Since start stores) (poll : Poll)
    (overtakes : Overtakes settings start stores poll) : ¬ OrderKept start (polled settings stores poll).published := by
  obtain ⟨leads, a, aStored, b, bStored, aMember, bMember, sameAggregate, older, fails, goesOut, aUnpublished,
    bUnpublished⟩ := overtakes
  intro kept
  obtain ⟨message, out⟩ := Option.ne_none_iff_exists'.mp goesOut
  obtain ⟨before, after, isBatch⟩ := List.append_of_mem bMember
  have log : (polled settings stores poll).published =
      (stores.published ++ before.filterMap (outgoing settings poll.accepts)) ++ message ::
        after.filterMap (outgoing settings poll.accepts) := by
    rw [polled_leads settings poll stores leads, fold_published, isBatch, List.filterMap_append,
      List.filterMap_cons_some out,
      List.append_assoc]
  have aWaits := (batch_waiting settings poll stores.db a aMember).2
  have new : ¬ start.Published b.id.text := fun was => bUnpublished (since.grown _ was)
  obtain ⟨first, member, isFirst⟩ := kept a aStored b bStored sameAggregate older aWaits new _ _ _ log
    (outgoing_event_id settings poll.accepts b message out)
  rcases List.mem_append.mp member with old | new
  · exact aUnpublished ⟨first, old, isFirst⟩
  · obtain ⟨row, rowMember, rowOut⟩ := List.mem_filterMap.mp new
    have inBatch : row ∈ selectBatch settings poll stores.db := by
      rw [isBatch]
      exact List.mem_append_left _ rowMember
    have isId := (outgoing_event_id settings poll.accepts row first rowOut).symm.trans isFirst
    have same := batch_row settings start stores since poll row a inBatch aStored (Option.some.inj isId)
    rw [same, fails] at rowOut
    cases rowOut

theorem order_step (start stores : RelayStores) (since : Since start stores) (poll : Poll)
    (orderly : ¬ Overtakes settings start stores poll) : OrderKept start (polled settings stores poll).published := by
  rcases polled_cases settings poll stores with ⟨_, same⟩ | ⟨leads, offered⟩
  · rw [same]
    exact since.kept
  · rw [offered, fold_published]
    intro a aStored b bStored sameAggregate older aWaits new earlier message later split isB
    rcases split_append _ _ _ _ _ split with ⟨rest, wasOut⟩ | ⟨front, isEarlier, isOut⟩
    · exact since.kept a aStored b bStored sameAggregate older aWaits new earlier message rest wasOut isB
    · -- the message goes out in this poll
      obtain ⟨before, row, after, isBatch, isBefore, out⟩ := out_split settings poll.accepts _ _ _ _ isOut
      have rowMember : row ∈ selectBatch settings poll stores.db := by
        rw [isBatch]
        exact List.mem_append_right _ (List.mem_cons_self ..)
      have isId := (outgoing_event_id settings poll.accepts row message out).symm.trans isB
      have same := batch_row settings start stores since poll row b rowMember bStored (Option.some.inj isId)
      subst same
      rw [isEarlier]
      by_cases aOut : stores.Published a.id.text
      · obtain ⟨first, member, isFirst⟩ := aOut
        exact ⟨first, List.mem_append_left _ member, isFirst⟩
      · by_cases bOut : stores.Published row.id.text
        · obtain ⟨second, member, isSecond⟩ := bOut
          obtain ⟨front, back, isSplit⟩ := List.append_of_mem member
          obtain ⟨first, firstMember, isFirst⟩ :=
            since.kept a aStored row bStored sameAggregate older aWaits new front second back
            isSplit isSecond
          refine absurd ⟨first, ?_, isFirst⟩ aOut
          rw [isSplit]
          exact List.mem_append_left _ firstMember
        · have aFound := waiting_of_unpublished start stores since a aStored aWaits aOut
          have aBefore : a ∈ before :=
            OrderBy.before_in_take poll.order _ before after settings.outboxBatchSize a row isBatch
            ((mem_undispatched stores.db a).mpr ⟨aFound, aWaits⟩) older
          have aMember : a ∈ selectBatch settings poll stores.db := by
            rw [isBatch]
            exact List.mem_append_left _ aBefore
          cases aGoes : outgoing settings poll.accepts a with
          | none =>
              exact absurd ⟨leads, a, aStored, row, bStored, aMember, rowMember, sameAggregate, older, aGoes,
                by rw [out]; exact Option.some_ne_none _, aOut, bOut⟩ orderly
          | some first =>
              refine ⟨first, List.mem_append_right _ ?_, outgoing_event_id settings poll.accepts a first aGoes⟩
              rw [← isBefore]
              exact List.mem_filterMap.mpr ⟨a, aBefore, aGoes⟩

theorem order_kept_left (start : RelayStores) (published added : List Message)
    (kept : OrderKept start (published ++ added)) :
    OrderKept start published :=
  fun a aStored b bStored sameAggregate older aWaits new =>
    published_after_left _ _ _ added (kept a aStored b bStored sameAggregate older aWaits new)

theorem since_start (start : RelayStores) : Since start start := by
  refine ⟨Db.keeps_refl start.db, fun _ => Or.inl, fun _ => id, ?_⟩
  intro a _ b _ _ _ _ new earlier message later split isB
  refine absurd ⟨message, ?_, isB⟩ new
  rw [split]
  exact List.mem_append_right _ (List.mem_cons_self ..)

theorem since_turn (start stores : RelayStores) (since : Since start stores) (poll : Poll)
    (orderly : ¬ Overtakes settings start stores poll) : Since start (polled settings stores poll) := by
  obtain ⟨added, isPublished⟩ := polled_published settings poll stores
  refine ⟨Db.keeps_marks _ _ _ since.keeps (polled_marks settings poll stores),
    polled_sent settings poll start stores since.sent, ?_, order_step settings start stores since poll orderly⟩
  intro id was
  obtain ⟨message, member, isId⟩ := since.grown id was
  exact ⟨message, by rw [isPublished]; exact List.mem_append_left _ member, isId⟩

theorem since_commit (start stores : RelayStores) (since : Since start stores) (db : Db)
    (grows : Db.OutboxGrows stores.db db) :
    Since start { stores with db := db } := by
  refine ⟨Db.keeps_grows _ _ _ since.keeps grows, ?_, since.grown, since.kept⟩
  intro id ⟨row, found, isSent⟩
  exact since.sent id ⟨row, Db.grows_dispatched stores.db db grows id row found isSent, isSent⟩

theorem since_step (start stores : RelayStores) (since : Since start stores) (step : RelayStep)
    (orderly : Orderly settings start stores step) : Since start (relayStep settings stores step) := by
  cases step with
  | turn poll =>
      rw [turn_polled]
      exact since_turn settings start stores since poll orderly
  | commit writes =>
      obtain ⟨db, isStep, grows⟩ := commit_cases settings stores writes
      rw [isStep]
      exact since_commit start stores since db grows

theorem step_published (stores : RelayStores) (step : RelayStep) :
    ∃ added, (relayStep settings stores step).published = stores.published ++ added := by
  cases step with
  | turn poll =>
      rw [turn_polled]
      exact polled_published settings poll stores
  | commit writes =>
      obtain ⟨db, isStep, _⟩ := commit_cases settings stores writes
      rw [isStep]
      exact ⟨[], (List.append_nil _).symm⟩

theorem replay_published (start stores : RelayStores) (steps : List RelayStep) :
    ∃ added, ((relayMachine settings start).replay stores steps).published = stores.published ++ added := by
  induction steps generalizing stores with
  | nil => exact ⟨[], (List.append_nil _).symm⟩
  | cons step steps ih =>
      obtain ⟨first, isFirst⟩ := step_published settings stores step
      obtain ⟨rest, isRest⟩ := ih (relayStep settings stores step)
      exact ⟨first ++ rest, by rw [← List.append_assoc, ← isFirst]; exact isRest⟩

theorem disorderly_breaks (start stores : RelayStores) (since : Since start stores) (step : RelayStep)
    (disorderly : ¬ Orderly settings start stores step) :
    ¬ OrderKept start (relayStep settings stores step).published := by
  cases step with
  | turn poll =>
      rw [turn_polled]
      exact overtakes_breaks settings start stores since poll (not_not.mp disorderly)
  | commit writes => exact absurd trivial disorderly

theorem order_from (start stores : RelayStores) (since : Since start stores) (steps : List RelayStep) :
    OrderKept start ((relayMachine settings start).replay stores steps).published ↔
      (relayMachine settings start).Lawful stores steps := by
  induction steps generalizing stores with
  | nil => exact ⟨fun _ => trivial, fun _ => since.kept⟩
  | cons step steps ih =>
      change OrderKept start ((relayMachine settings start).replay (relayStep settings stores step) steps).published ↔
        Orderly settings start stores step ∧ (relayMachine settings start).Lawful (relayStep settings stores step) steps
      by_cases orderly : Orderly settings start stores step
      · rw [ih _ (since_step settings start stores since step orderly)]
        exact ⟨fun lawful => ⟨orderly, lawful⟩, And.right⟩
      · obtain ⟨added, isPublished⟩ := replay_published settings start (relayStep settings stores step) steps
        refine ⟨fun kept => ?_, fun ⟨isOrderly, _⟩ => absurd isOrderly orderly⟩
        rw [isPublished] at kept
        exact absurd (order_kept_left start _ added kept) (disorderly_breaks settings start stores since step orderly)

-- One dispatcher keeps the order of each aggregate exactly when no poll of its run lets a
-- row overtake an older one.
theorem relay_keeps_order (start : RelayStores) (steps : List RelayStep) :
    OrderKept start ((relayMachine settings start).replay start steps).published ↔
      (relayMachine settings start).Lawful start steps :=
  order_from settings start start (since_start start) steps

end Order

-- Three rows a second apart, the last two of one account. Kafka refuses the middle one.
def sampleOutboxRow (id aggregateId : Varchar 36) (createdAt : Time) : OutboxRow where
  id := id
  aggregateType := OutboxRow.userType
  aggregateId := aggregateId
  topic := OutboxRow.userEvents
  eventType := ⟨"arcadia.auth.v1.UserBanned", by decide⟩
  payload := "{}"
  dispatched := false
  createdAt := createdAt
  dispatchedAt := none

def otherRow : OutboxRow := sampleOutboxRow ⟨"m1", by decide⟩ ⟨"p1", by decide⟩ 0

def olderRow : OutboxRow := sampleOutboxRow ⟨"m2", by decide⟩ ⟨"p2", by decide⟩ 1

def youngerRow : OutboxRow := sampleOutboxRow ⟨"m3", by decide⟩ ⟨"p2", by decide⟩ 2

def sampleRelay : RelayStores where
  db := {
    users := Table.empty
    roleRequests := Table.empty
    outbox := ⟨[otherRow, olderRow, youngerRow], by decide⟩
    loginAudit := Table.empty
    uniqueEmail := by decide
    requesters := by decide }
  published := []

def sampleSettings : RelaySettings where
  appName := "auth-profile-service"
  outboxBatchSize := 50
  isoformat := fun _ => "1970-01-01T00:00:00+00:00"
  loads := Json.loads
  loads_dumps := fun _ _ => Json.loads_dumps _

def refusingOlder : Poll := ⟨.stable _, fun row => row ≠ olderRow, fun _ => 3⟩

theorem sample_batch : selectBatch sampleSettings refusingOlder sampleRelay.db = [otherRow, olderRow, youngerRow] := by
    decide

theorem younger_overtakes : Overtakes sampleSettings sampleRelay sampleRelay refusingOlder := by
  have unpublished : ∀ id, ¬ sampleRelay.Published id := fun id ⟨_, member, _⟩ => nomatch member
  refine ⟨⟨otherRow, [olderRow, youngerRow], sample_batch, fun wrong => nomatch wrong⟩, olderRow, by decide,
    youngerRow, by decide,
    ?_, ?_, rfl, by decide, rfl, fun wrong => (nomatch wrong), unpublished _, unpublished _⟩
  · rw [sample_batch]
    decide
  · rw [sample_batch]
    decide

theorem order_broken :
    ¬ OrderKept sampleRelay ((relayMachine sampleSettings sampleRelay).replay sampleRelay
      [.turn refusingOlder]).published :=
  disorderly_breaks sampleSettings sampleRelay sampleRelay (since_start sampleRelay) (.turn refusingOlder)
    (not_not.mpr younger_overtakes)

end AuthProfile
