import AuthProfile.Batches
import AuthProfile.RelayOrder
import Mathlib.Data.Finset.Card
import Mathlib.Data.Finset.Filter

set_option autoImplicit false

namespace AuthProfile

open Relation Process OutboxDispatcher

section Progress

variable (settings : RelaySettings) (accepts : OutboxRow → Bool) (polls : Nat → Poll) (start : RelayStores)

def reached (n : Nat) : RelayStores := ((runLoop settings ((List.range n).map polls)).exec [] start).store

def DeliversBatch (poll : Poll) (before after : RelayStores) : Prop :=
  ∀ row ∈ selectBatch settings poll before.db, ∀ message, outgoing settings poll.accepts row = some message →
    message ∈ after.published.drop before.published.length ∧
      ∃ later, after.db.outbox.find row.id.text = some later ∧ later.dispatched = true

def Drained (stores : RelayStores) : Prop :=
  ∀ row ∈ stores.db.outbox.rows, row.dispatched = false → outgoing settings accepts row = none

def NeverHeldUp : Prop :=
  (∀ n, DeliversBatch settings (polls n) (reached settings polls start n) (reached settings polls start (n + 1))) ∧
    ∃ n, Drained settings accepts (reached settings polls start n)

-- No row that fails comes first in a batch with one that can go out, and while such a
-- row waits a later batch begins with one.
structure NeverBlocked : Prop where
  leads : ∀ n, (∃ row ∈ selectBatch settings (polls n) (reached settings polls start n).db,
    outgoing settings accepts row ≠ none) → Leads settings (reached settings polls start n) (polls n)
  again : ∀ n, ¬ Drained settings accepts (reached settings polls start n) →
    ∃ m ≥ n, Leads settings (reached settings polls start m) (polls m)

theorem reached_succ (n : Nat) :
    reached settings polls start (n + 1) = polled settings (reached settings polls start n) (polls n) := by
  rw [reached, reached, run_loop_store settings (fun _ _ => True), run_loop_store settings (fun _ _ => True),
    List.range_succ,
    List.map_append, List.map_singleton, Machine.replay_snoc]
  rfl

theorem leads_delivers (poll : Poll) (stores : RelayStores) (leads : Leads settings stores poll) :
    DeliversBatch settings poll stores (polled settings stores poll) := by
  intro row member message out
  rw [polled_leads settings poll stores leads]
  constructor
  · rw [fold_published, List.drop_left]
    exact List.mem_filterMap.mpr ⟨row, member, out⟩
  · obtain ⟨found, _⟩ := batch_waiting settings poll stores.db row member
    have stored : row.id.text ∈ stores.db.outbox.keys := List.mem_map_of_mem (Table.find_mem _ _ row found)
    exact fold_dispatched settings poll _ stores row member message out stored

-- A poll delivers its batch exactly when its first row goes out if any does.
theorem delivers_iff (poll : Poll) (stores : RelayStores) :
    DeliversBatch settings poll stores (polled settings stores poll) ↔
      ((∃ row ∈ selectBatch settings poll stores.db, outgoing settings poll.accepts row ≠ none) →
        Leads settings stores poll) := by
  constructor
  · intro delivers ⟨row, member, goesOut⟩
    by_contra blocked
    obtain ⟨message, out⟩ := Option.ne_none_iff_exists'.mp goesOut
    obtain ⟨published, _⟩ := delivers row member message out
    rw [polled_stays settings poll stores blocked, List.drop_length] at published
    exact nomatch published
  · intro leads row member message out
    exact leads_delivers settings poll stores
      (leads ⟨row, member, by rw [out]; exact Option.some_ne_none _⟩) row member message out

open Classical in
noncomputable def waiting (stores : RelayStores) : Finset String :=
  stores.db.outbox.keys.toFinset.filter fun id =>
    ∃ row, stores.db.outbox.find id = some row ∧ row.dispatched = false ∧ outgoing settings accepts row ≠ none

theorem mem_waiting (stores : RelayStores) (id : String) :
    id ∈ waiting settings accepts stores ↔
      ∃ row, stores.db.outbox.find id = some row ∧ row.dispatched = false ∧ outgoing settings accepts row ≠ none := by
  rw [waiting, Finset.mem_filter, List.mem_toFinset]
  refine ⟨And.right, fun holds => ⟨?_, holds⟩⟩
  obtain ⟨row, found, _⟩ := holds
  have isId : row.id.text = id := Table.find_key id _ row found
  exact isId ▸ List.mem_map_of_mem (Table.find_mem id _ row found)

theorem drained_iff (stores : RelayStores) : Drained settings accepts stores ↔ waiting settings accepts stores = ∅ := by
  rw [Finset.eq_empty_iff_forall_notMem]
  constructor
  · intro drained id member
    obtain ⟨row, found, isWaiting, goesOut⟩ := (mem_waiting settings accepts stores id).mp member
    exact goesOut (drained row (Table.find_mem id _ row found) isWaiting)
  · intro none row member isWaiting
    by_contra goesOut
    have found : stores.db.outbox.find row.id.text = some row := Table.find_self stores.db.outbox row member
    exact none row.id.text ((mem_waiting settings accepts stores _).mpr ⟨row, found, isWaiting, goesOut⟩)

theorem waiting_shrinks (poll : Poll) (stores : RelayStores) :
    waiting settings accepts (polled settings stores poll) ⊆ waiting settings accepts stores := by
  intro id member
  obtain ⟨row, found, isWaiting, goesOut⟩ := (mem_waiting settings accepts _ id).mp member
  have before := Db.marks_undispatched _ _ (polled_marks settings poll stores) id row found isWaiting
  exact (mem_waiting settings accepts stores id).mpr ⟨row, before, isWaiting, goesOut⟩

theorem waiting_drops (poll : Poll) (stores : RelayStores) (same : poll.accepts = accepts)
    (leads : Leads settings stores poll) :
    (waiting settings accepts (polled settings stores poll)).card < (waiting settings accepts stores).card := by
  apply Finset.card_lt_card
  refine ⟨waiting_shrinks settings accepts poll stores, fun grows => ?_⟩
  have delivers := leads_delivers settings poll stores leads
  obtain ⟨row, rows, isBatch, goesOut⟩ := leads
  have member : row ∈ selectBatch settings poll stores.db := isBatch ▸ List.mem_cons_self ..
  obtain ⟨message, out⟩ := Option.ne_none_iff_exists'.mp goesOut
  obtain ⟨found, isWaiting⟩ := batch_waiting settings poll stores.db row member
  have wasWaiting : row.id.text ∈ waiting settings accepts stores :=
    (mem_waiting settings accepts stores _).mpr ⟨row, found, isWaiting, same ▸ goesOut⟩
  obtain ⟨_, later, foundLater, sent⟩ := delivers row member message out
  obtain ⟨still, foundStill, stillWaiting, _⟩ := (mem_waiting settings accepts _ _).mp (grows wasWaiting)
  rw [foundLater, Option.some.injEq] at foundStill
  rw [← foundStill, sent] at stillWaiting
  cases stillWaiting

theorem stuck (n : Nat) (blocked : ∀ m ≥ n, ¬ Leads settings (reached settings polls start m) (polls m)) (m : Nat)
    (later : n ≤ m) :
    reached settings polls start m = reached settings polls start n := by
  induction m, later using Nat.le_induction with
  | base => rfl
  | succ m later ih => rw [reached_succ, polled_stays settings (polls m) _ (blocked m later), ih]

theorem drained_later (n m : Nat) (later : n ≤ m)
    (drained : Drained settings accepts (reached settings polls start n)) :
    Drained settings accepts (reached settings polls start m) := by
  induction m, later using Nat.le_induction with
  | base => exact drained
  | succ m later ih =>
      rw [drained_iff] at ih ⊢
      have shrinks := waiting_shrinks settings accepts (polls m) (reached settings polls start m)
      rw [← reached_succ, ih] at shrinks
      exact Finset.subset_empty.mp shrinks

-- In one run a row that cannot be published holds up no other exactly when it never
-- leads a batch that one of the others could lead.
theorem run_never_held_up_iff (fixed : ∀ n, (polls n).accepts = accepts) :
    NeverHeldUp settings accepts polls start ↔ NeverBlocked settings accepts polls start := by
  constructor
  · rintro ⟨delivers, last, drained⟩
    constructor
    · intro n
      have delivered := delivers n
      rw [reached_succ, delivers_iff, fixed n] at delivered
      exact delivered
    · intro n undrained
      by_contra never
      push Not at never
      have same := stuck settings polls start n never (max n last) (le_max_left _ _)
      exact undrained (same ▸ drained_later settings accepts polls start last (max n last) (le_max_right _ _) drained)
  · intro unblocked
    constructor
    · intro n
      rw [reached_succ, delivers_iff, fixed n]
      exact unblocked.leads n
    · apply done_of_progress _ fun n => (waiting settings accepts (reached settings polls start n)).card
      · intro n
        rw [reached_succ]
        exact Finset.card_le_card (waiting_shrinks settings accepts (polls n) _)
      · intro n undrained
        obtain ⟨m, later, leads⟩ := unblocked.again n undrained
        refine ⟨m, later, ?_⟩
        rw [reached_succ]
        exact waiting_drops settings accepts (polls m) _ (fixed m) leads

def goes (row : OutboxRow) : Bool := (outgoing settings accepts row).isSome

theorem goes_iff (row : OutboxRow) : goes settings accepts row = true ↔ outgoing settings accepts row ≠ none := by
  rw [goes, Option.isSome_iff_ne_none]

theorem leads_iff (poll : Poll) (stores : RelayStores) :
    Leads settings stores poll ↔
      poll.order.Leads (goes settings poll.accepts) settings.outboxBatchSize stores.db.undispatched := by
  simp only [Leads, OrderBy.Leads, goes_iff]
  rfl

theorem drained_undispatched (stores : RelayStores) :
    Drained settings accepts stores ↔ ∀ row ∈ stores.db.undispatched, goes settings accepts row = false := by
  simp only [Drained, Db.undispatched, List.mem_filter, Bool.not_eq_true', and_imp, goes, Option.isSome_eq_false_iff,
    Option.isNone_iff_eq_none]

theorem undispatched_nodup (db : Db) : db.undispatched.Nodup := (List.Nodup.of_map _ db.outbox.distinct).filter _

theorem polled_left (poll : Poll) (stores : RelayStores) (leads : Leads settings stores poll) :
    (poll.order.left (goes settings poll.accepts) settings.outboxBatchSize stores.db.undispatched).Perm
      (polled settings stores poll).db.undispatched := by
  have arranged : (poll.order.first settings.outboxBatchSize stores.db.undispatched ++
      poll.order.rest settings.outboxBatchSize stores.db.undispatched).Nodup := by
    rw [OrderBy.first_rest]
    exact (poll.order.perm _).nodup_iff.mpr (undispatched_nodup stores.db)
  have distinct : (poll.order.left (goes settings poll.accepts) settings.outboxBatchSize
      stores.db.undispatched).Nodup :=
    arranged.sublist (List.filter_sublist.append_right _)
  have inQueue := poll.order.mem_rows settings.outboxBatchSize stores.db.undispatched
  refine (List.perm_ext_iff_of_nodup distinct (undispatched_nodup _)).mpr fun row => ?_
  rw [mem_undispatched, polled_leads settings poll stores leads]
  constructor
  · intro member
    have before : row ∈ stores.db.undispatched := by
      rcases List.mem_append.mp member with early | late
      · exact (inQueue row).mpr (Or.inl (List.mem_filter.mp early).1)
      · exact (inQueue row).mpr (Or.inr late)
    obtain ⟨found, waits⟩ := (mem_undispatched stores.db row).mp before
    refine ⟨?_, waits⟩
    rw [fold_untouched settings poll _ stores row.id.text, found]
    intro other inBatch goesOut sameId
    have same : other = row :=
      same_row stores.db other row (Table.find_mem _ _ other (batch_waiting settings poll stores.db other inBatch).1)
      (Table.find_mem _ _ row found) sameId
    subst same
    rcases List.mem_append.mp member with early | late
    · have stays := (List.mem_filter.mp early).2
      rw [(goes_iff settings poll.accepts other).mpr goesOut] at stays
      cases stays
    · exact (List.nodup_append.mp arranged).2.2 other inBatch other late rfl
  · intro ⟨found, waits⟩
    have before := Db.marks_undispatched _ _ (fold_marks settings poll _ stores) row.id.text row found waits
    rcases (inQueue row).mp ((mem_undispatched stores.db row).mpr ⟨before, waits⟩) with early | late
    · refine List.mem_append_left _ (List.mem_filter.mpr ⟨early, ?_⟩)
      cases out : outgoing settings poll.accepts row with
      | none => rw [goes, out]; rfl
      | some message =>
          have stored : row.id.text ∈ stores.db.outbox.keys := List.mem_map_of_mem (Table.find_mem _ _ row before)
          obtain ⟨later, foundLater, sent⟩ := fold_dispatched settings poll _ stores row early message out stored
          have same : later = row := Option.some.inj (foundLater.symm.trans found)
          rw [same, waits] at sent
          cases sent
    · exact List.mem_append_right _ late

def Clear (stores : RelayStores) : Prop :=
  Unblocked OutboxRow.createdAt (goes settings accepts) settings.outboxBatchSize stores.db.undispatched

theorem clear_leads (poll : Poll) (stores : RelayStores) (same : poll.accepts = accepts)
    (clear : Clear settings accepts stores)
    (row : OutboxRow) (member : row ∈ stores.db.undispatched) (isGoing : goes settings accepts row = true) :
    Leads settings stores poll := by
  rw [leads_iff, same]
  exact poll.order.unblocked_leads _ _ _ clear row member isGoing

theorem clear_step (poll : Poll) (stores : RelayStores) (same : poll.accepts = accepts)
    (clear : Clear settings accepts stores) :
    Clear settings accepts (polled settings stores poll) := by
  rcases polled_cases settings poll stores with ⟨_, stays⟩ | ⟨leads, _⟩
  · rw [stays]
    exact clear
  · have left := polled_left settings poll stores leads
    rw [same] at left
    exact unblocked_perm _ _ _ _ _ left (poll.order.unblocked_left _ _ _ clear)

theorem clear_reached (fixed : ∀ n, (polls n).accepts = accepts) (clear : Clear settings accepts start) (n : Nat) :
    Clear settings accepts (reached settings polls start n) := by
  induction n with
  | zero => exact clear
  | succ n ih =>
      rw [reached_succ]
      exact clear_step settings accepts (polls n) _ (fixed n) ih

theorem drained_clear (stores : RelayStores) (drained : Drained settings accepts stores) :
    Clear settings accepts stores := by
  have fails := (drained_undispatched settings accepts stores).mp drained
  exact ⟨fun row member isGoing => absurd ((fails row member).symm.trans isGoing) Bool.false_ne_true,
    fun row member isGoing => absurd ((fails row member).symm.trans isGoing) Bool.false_ne_true⟩

-- The poll that puts failing rows in front of the others of their age.
def worstPoll : Poll := ⟨failingFirst OutboxRow.createdAt (goes settings accepts), accepts, fun _ => 0⟩

theorem clear_before (stores : RelayStores)
    (clear : Clear settings accepts (polled settings stores (worstPoll settings accepts))) :
    Clear settings accepts stores := by
  rcases polled_cases settings (worstPoll settings accepts) stores with ⟨_, stays⟩ | ⟨leads, _⟩
  · rw [stays] at clear
    exact clear
  · have left := polled_left settings (worstPoll settings accepts) stores leads
    have leadsQueue := (leads_iff settings (worstPoll settings accepts) stores).mp leads
    exact unblocked_of_left _ _ _ _ leadsQueue (unblocked_perm _ _ _ _ _ left.symm clear)

theorem clear_from (n : Nat)
    (clear : Clear settings accepts (reached settings (fun _ => worstPoll settings accepts) start n)) :
    Clear settings accepts start := by
  induction n with
  | zero => exact clear
  | succ n ih =>
      rw [reached_succ] at clear
      exact ih (clear_before settings accepts _ clear)

-- Whatever order ties come in, rows that cannot be published hold up no other exactly
-- when the outbox is clear.
theorem never_held_up_iff :
    (∀ polls : Nat → Poll, (∀ n, (polls n).accepts = accepts) → NeverHeldUp settings accepts polls start) ↔
      Clear settings accepts start := by
  constructor
  · intro every
    obtain ⟨_, last, drained⟩ := every (fun _ => worstPoll settings accepts) fun _ => rfl
    exact clear_from settings accepts start last (drained_clear settings accepts _ drained)
  · intro clear polls fixed
    have clearAt := clear_reached settings accepts polls start fixed clear
    rw [run_never_held_up_iff settings accepts polls start fixed]
    constructor
    · intro n ⟨row, member, goesOut⟩
      have waits := (polls n).order.mem_arrange _ row |>.mp (List.mem_of_mem_take member)
      exact clear_leads settings accepts (polls n) _ (fixed n) (clearAt n) row waits
        ((goes_iff settings accepts row).mpr goesOut)
    · intro n undrained
      rw [drained_undispatched] at undrained
      push Not at undrained
      obtain ⟨row, member, isGoing⟩ := undrained
      exact ⟨n, le_rfl, clear_leads settings accepts (polls n) _ (fixed n) (clearAt n) row member
        (Bool.not_eq_false _ ▸ isGoing)⟩

end Progress

-- Kafka refuses the oldest row only, and the other two never go out.
def refusingOldest : Poll := ⟨.stable _, fun row => row ≠ otherRow, fun _ => 3⟩

theorem oldest_holds_up :
    ¬ NeverHeldUp sampleSettings refusingOldest.accepts (fun _ => refusingOldest) sampleRelay := by
  rintro ⟨delivers, _⟩
  have batch : selectBatch sampleSettings refusingOldest sampleRelay.db = [otherRow, olderRow, youngerRow] := by decide
  have delivered := delivers 0
  rw [reached_succ, delivers_iff] at delivered
  obtain ⟨row, rows, isBatch, goesOut⟩ := delivered ⟨olderRow, batch ▸ by decide, fun wrong => nomatch wrong⟩
  have isOldest : row = otherRow := by
    have both := isBatch.symm.trans batch
    exact (List.cons.inj both).1
  rw [isOldest] at goesOut
  exact goesOut rfl

end AuthProfile
