import AuthProfile.OrderBy
import Mathlib.Algebra.Order.Floor.Div

set_option autoImplicit false

-- A queue taken in batches of its oldest rows. What goes leaves the queue; what does not
-- go stays in it and comes back in front of the next batch.
namespace Relation

variable {ρ κ : Type} [LinearOrder κ]

section Queue

variable (column : ρ → κ) (goes : ρ → Bool) (size : Nat) (rows : List ρ)

def Ahead (row : ρ) : Prop := ∀ other ∈ rows, goes other = false → column row < column other

instance (row : ρ) : Decidable (Ahead column goes rows row) := by
  unfold Ahead
  infer_instance

def ahead : Nat := rows.countP fun row => Ahead column goes rows row

def upTo (row : ρ) : Nat := rows.countP fun other => column other ≤ column row

-- The last batch that a row ahead of all failing ones leads holds every other row that goes.
structure Unblocked : Prop where
  takes : ∀ row ∈ rows, goes row = true → 0 < size
  reaches : ∀ row ∈ rows, goes row = true → ¬ Ahead column goes rows row →
    upTo column rows row ≤ size * (ahead column goes rows ⌈/⌉ size)

theorem ceil_step (n : Nat) (takes : 0 < size) : size * ((size + n) ⌈/⌉ size) = size + size * (n ⌈/⌉ size) := by
  rw [Nat.ceilDiv_eq_add_pred_div, Nat.ceilDiv_eq_add_pred_div, Nat.add_assoc, Nat.add_sub_assoc (by omega),
    Nat.add_div_left _ takes, Nat.mul_succ, Nat.add_sub_assoc (by omega), Nat.add_comm]

theorem ceil_small (n : Nat) (small : n ≤ size) : size * (n ⌈/⌉ size) ≤ size := by
  rcases Nat.eq_zero_or_pos size with none | takes
  · rw [none, Nat.zero_mul]
  · have atMost : n ⌈/⌉ size ≤ 1 := (ceilDiv_le_iff_le_mul takes).mpr (by rwa [Nat.mul_one])
    exact (Nat.mul_le_mul_left size atMost).trans (Nat.mul_one size).le

theorem ceil_pos (n : Nat) (takes : 0 < size) (some : 0 < n) : size ≤ size * (n ⌈/⌉ size) := by
  have one : 0 < n ⌈/⌉ size := by
    by_contra none
    have isZero := (ceilDiv_le_iff_le_mul takes).mp (Nat.le_of_not_lt none)
    rw [Nat.mul_zero] at isZero
    omega
  exact Nat.le_mul_of_pos_right size one

theorem ahead_goes (row : ρ) (member : row ∈ rows) (isAhead : Ahead column goes rows row) : goes row = true := by
  by_contra fails
  exact lt_irrefl _ (isAhead row member (Bool.not_eq_true _ ▸ fails))

theorem up_to_pos (row : ρ) (member : row ∈ rows) : 0 < upTo column rows row :=
  List.countP_pos_iff.mpr ⟨row, member, decide_eq_true le_rfl⟩

theorem ahead_congr (others : List ρ) (same : ∀ row, goes row = false → (row ∈ others ↔ row ∈ rows)) (row : ρ) :
    Ahead column goes others row ↔ Ahead column goes rows row :=
  ⟨fun isAhead other member fails => isAhead other ((same other fails).mpr member) fails,
    fun isAhead other member fails => isAhead other ((same other fails).mp member) fails⟩

theorem unblocked_perm (others : List ρ) (perm : rows.Perm others) (unblocked : Unblocked column goes size rows) :
    Unblocked column goes size others := by
  have same : ∀ row, Ahead column goes others row ↔ Ahead column goes rows row :=
    ahead_congr column goes rows others fun row _ => perm.symm.mem_iff
  have count : ahead column goes others = ahead column goes rows := by
    simp only [ahead, same]
    exact (perm.countP_eq _).symm
  constructor
  · intro row member
    exact unblocked.takes row (perm.mem_iff.mpr member)
  · intro row member isGoing behind
    rw [count, upTo, ← perm.countP_eq]
    exact unblocked.reaches row (perm.mem_iff.mpr member) isGoing fun isAhead => behind ((same row).mpr isAhead)

end Queue

namespace OrderBy

variable {column : ρ → κ} (order : OrderBy column) (goes : ρ → Bool) (size : Nat) (rows : List ρ)

def first : List ρ := (order.arrange rows).take size

def rest : List ρ := (order.arrange rows).drop size

-- The queue after a batch that was offered whole.
def left : List ρ := (order.first size rows).filter (fun row => !goes row) ++ order.rest size rows

def Leads : Prop := ∃ row others, order.first size rows = row :: others ∧ goes row = true

theorem first_rest : order.first size rows ++ order.rest size rows = order.arrange rows := List.take_append_drop _ _

theorem count_split (p : ρ → Bool) :
    rows.countP p = (order.first size rows).countP p + (order.rest size rows).countP p := by
  rw [← List.countP_append, first_rest]
  exact ((order.perm rows).countP_eq p).symm

theorem mem_rows (row : ρ) : row ∈ rows ↔ row ∈ order.first size rows ∨ row ∈ order.rest size rows := by
  rw [← List.mem_append, first_rest]
  exact (order.mem_arrange rows row).symm

theorem first_le_rest (a b : ρ) (early : a ∈ order.first size rows) (late : b ∈ order.rest size rows) :
    column a ≤ column b := by
  have sorted := order.sorted rows
  rw [← order.first_rest size rows, List.pairwise_append] at sorted
  exact sorted.2.2 a early b late

theorem first_length (row : ρ) (late : row ∈ order.rest size rows) : (order.first size rows).length = size := by
  have some : 0 < (order.rest size rows).length := List.length_pos_of_mem late
  rw [rest, List.length_drop] at some
  rw [first, List.length_take]
  omega

theorem first_length_le : (order.first size rows).length ≤ size := List.length_take_le _ _

-- Of the rows that are ahead, one outside the first batch means the batch is full of them.
theorem ahead_in_rest (row : ρ) (late : row ∈ order.rest size rows) (isAhead : Ahead column goes rows row) :
    size < ahead column goes rows := by
  have whole : ∀ other ∈ order.first size rows, Ahead column goes rows other := fun other early failing member fails =>
    (order.first_le_rest size rows other row early late).trans_lt (isAhead failing member fails)
  have early : (order.first size rows).countP (fun row => Ahead column goes rows row) =
      (order.first size rows).length :=
    List.countP_eq_length.mpr fun other member => decide_eq_true (whole other member)
  have behind : 0 < (order.rest size rows).countP fun row => Ahead column goes rows row :=
    List.countP_pos_iff.mpr ⟨row, late, decide_eq_true isAhead⟩
  rw [ahead, order.count_split size rows, early, order.first_length size rows row late]
  omega

theorem behind_in_first (row : ρ) (early : row ∈ order.first size rows) (behind : ¬ Ahead column goes rows row) :
    ahead column goes rows < size := by
  obtain ⟨before, after, split⟩ := List.append_of_mem early
  have sorted := order.sorted rows
  have whole : order.arrange rows = before ++ row :: (after ++ order.rest size rows) := by
    rw [← order.first_rest size rows, split, List.append_assoc, List.cons_append]
  rw [whole, List.pairwise_append] at sorted
  have none : (row :: (after ++ order.rest size rows)).countP (fun row => Ahead column goes rows row) = 0 := by
    rw [List.countP_eq_zero]
    intro other member isAhead
    refine behind fun failing stored fails => ?_
    have later := of_decide_eq_true isAhead failing stored fails
    rcases List.mem_cons.mp member with rfl | inTail
    · exact later
    · exact ((List.pairwise_cons.mp sorted.2.1).1 other inTail).trans_lt later
  have few := order.first_length_le size rows
  rw [split, List.length_append, List.length_cons] at few
  rw [ahead, ← (order.perm rows).countP_eq, whole, List.countP_append, none]
  have atMost := List.countP_le_length (p := fun row => decide (Ahead column goes rows row)) (l := before)
  omega

theorem up_to_rest (row : ρ) (late : row ∈ order.rest size rows) :
    upTo column rows row = size + upTo column (order.rest size rows) row := by
  have early : (order.first size rows).countP (fun other => column other ≤ column row) =
      (order.first size rows).length :=
    List.countP_eq_length.mpr fun other member => decide_eq_true (order.first_le_rest size rows other row member late)
  rw [upTo, order.count_split size rows, early, order.first_length size rows row late]
  rfl

theorem mem_left (row : ρ) (fails : goes row = false) : row ∈ order.left goes size rows ↔ row ∈ rows := by
  rw [left, List.mem_append, List.mem_filter, fails, Bool.not_false, and_iff_left rfl]
  exact (order.mem_rows size rows row).symm

theorem left_goes (row : ρ) (member : row ∈ order.left goes size rows) (isGoing : goes row = true) :
    row ∈ order.rest size rows := by
  rcases List.mem_append.mp member with early | late
  · have fails := (List.mem_filter.mp early).2
    rw [isGoing] at fails
    cases fails
  · exact late

theorem ahead_left (row : ρ) : Ahead column goes (order.left goes size rows) row ↔ Ahead column goes rows row :=
  ahead_congr column goes rows _ (order.mem_left goes size rows) row

structure Whole : Prop where
  left : order.left goes size rows = order.rest size rows
  ahead : ahead column goes rows = size + Relation.ahead column goes (order.left goes size rows)

theorem whole_batch (many : size ≤ ahead column goes rows) : order.Whole goes size rows := by
  have every : ∀ row ∈ order.first size rows, Ahead column goes rows row := by
    intro row early
    by_contra behind
    exact absurd many (Nat.not_le_of_lt (order.behind_in_first goes size rows row early behind))
  have full : (order.first size rows).length = size := by
    have bound : ahead column goes rows ≤ rows.length := List.countP_le_length
    rw [first, List.length_take, (order.perm rows).length_eq]
    omega
  have gone : order.left goes size rows = order.rest size rows := by
    rw [left, List.filter_eq_nil_iff.mpr, List.nil_append]
    intro row early
    rw [ahead_goes column goes rows row ((order.mem_rows size rows row).mpr (Or.inl early)) (every row early)]
    decide
  refine ⟨gone, ?_⟩
  have early : (order.first size rows).countP (fun row => Ahead column goes rows row) = size :=
    (List.countP_eq_length.mpr fun other member => decide_eq_true (every other member)).trans full
  have same : (fun row => decide (Ahead column goes (order.left goes size rows) row)) = fun row =>
      decide (Ahead column goes rows row) := by
    simp only [ahead_left]
  rw [ahead, ahead, same, gone, order.count_split size rows, early]

theorem unblocked_leads (unblocked : Unblocked column goes size rows) (row : ρ) (member : row ∈ rows)
    (isGoing : goes row = true) :
    order.Leads goes size rows := by
  have takes := unblocked.takes row member isGoing
  cases isFirst : order.first size rows with
  | nil =>
      have none : order.arrange rows = [] := by
        cases isArranged : order.arrange rows with
        | nil => rfl
        | cons head tail =>
            rw [first, isArranged, List.take_cons takes] at isFirst
            cases isFirst
      rw [← order.mem_arrange rows row, none] at member
      cases member
  | cons head others =>
      refine ⟨head, others, isFirst, ?_⟩
      by_contra fails
      rw [Bool.not_eq_true] at fails
      have sorted := order.sorted rows
      rw [← order.first_rest size rows, isFirst, List.cons_append, List.pairwise_cons] at sorted
      have stored : head ∈ rows := (order.mem_rows size rows head).mpr (Or.inl (isFirst ▸ List.mem_cons_self ..))
      -- the oldest row fails, so no row is ahead
      have behind : ∀ other ∈ rows, ¬ Ahead column goes rows other := by
        intro other otherMember isAhead
        rw [← order.mem_arrange rows, ← order.first_rest size rows, isFirst, List.cons_append] at otherMember
        have older := isAhead head stored fails
        rcases List.mem_cons.mp otherMember with rfl | inTail
        · exact lt_irrefl _ older
        · exact absurd (sorted.1 other inTail) (not_le_of_gt older)
      have nobody : ahead column goes rows = 0 :=
        List.countP_eq_zero.mpr fun other otherMember isAhead => behind other otherMember (of_decide_eq_true isAhead)
      have reached := unblocked.reaches row member isGoing (behind row member)
      rw [nobody, zero_ceilDiv, Nat.mul_zero] at reached
      exact absurd (up_to_pos column rows row member) (Nat.not_lt_of_le reached)

theorem unblocked_left (unblocked : Unblocked column goes size rows) :
    Unblocked column goes size (order.left goes size rows) := by
  have stored : ∀ row ∈ order.left goes size rows, goes row = true → row ∈ rows := fun row member isGoing =>
    (order.mem_rows size rows row).mpr (Or.inr (order.left_goes goes size rows row member isGoing))
  constructor
  · exact fun row member isGoing => unblocked.takes row (stored row member isGoing) isGoing
  · intro row member isGoing behind
    rw [ahead_left] at behind
    have late := order.left_goes goes size rows row member isGoing
    have takes := unblocked.takes row (stored row member isGoing) isGoing
    have reached := unblocked.reaches row (stored row member isGoing) isGoing behind
    have isLater := order.up_to_rest size rows row late
    have counted := up_to_pos column (order.rest size rows) row late
    -- the row lies past the first batch, so that one is full of rows that are ahead
    have many : size ≤ ahead column goes rows := by
      by_contra few
      have small := ceil_small size (ahead column goes rows) (Nat.le_of_not_le few)
      omega
    obtain ⟨gone, isAhead⟩ := order.whole_batch goes size rows many
    rw [isAhead, ceil_step size _ takes] at reached
    rw [gone] at reached ⊢
    omega

theorem nobody_ahead (few : ¬ size ≤ ahead column goes rows) : ahead column goes (order.left goes size rows) = 0 := by
  refine List.countP_eq_zero.mpr fun row member counted => ?_
  have isAhead := of_decide_eq_true counted
  have isGoing := ahead_goes column goes _ row member isAhead
  have late := order.left_goes goes size rows row member isGoing
  exact few (order.ahead_in_rest goes size rows row late ((order.ahead_left goes size rows row).mp isAhead)).le

-- Then, with nothing blocked afterwards, the batch held every row that goes.
theorem rest_fails (few : ¬ size ≤ ahead column goes rows)
    (unblocked : Unblocked column goes size (order.left goes size rows))
    (row : ρ) (late : row ∈ order.rest size rows) : goes row = false := by
  by_contra isGoing
  rw [Bool.not_eq_false] at isGoing
  have stays : row ∈ order.left goes size rows := List.mem_append_right _ late
  have behind : ¬ Ahead column goes (order.left goes size rows) row := fun isAhead =>
    few (order.ahead_in_rest goes size rows row late ((order.ahead_left goes size rows row).mp isAhead)).le
  have counted := up_to_pos column _ row stays
  have reached := unblocked.reaches row stays isGoing behind
  rw [order.nobody_ahead goes size rows few, zero_ceilDiv, Nat.mul_zero] at reached
  omega

theorem leads_takes (leads : order.Leads goes size rows) : 0 < size := by
  obtain ⟨head, others, isFirst, _⟩ := leads
  have few := order.first_length_le size rows
  rw [isFirst, List.length_cons] at few
  omega

end OrderBy

-- Ties in favour of the rows that fail.
section FailingFirst

variable (column : ρ → κ) (goes : ρ → Bool) (size : Nat) (rows : List ρ)

def NotAfter (a b : ρ) : Prop := column a < column b ∨ column a = column b ∧ (goes a = true → goes b = true)

instance : DecidableRel (NotAfter column goes) := fun a b => by
  unfold NotAfter
  infer_instance

theorem not_after_total (a b : ρ) : NotAfter column goes a b ∨ NotAfter column goes b a := by
  rcases lt_trichotomy (column a) (column b) with less | same | more
  · exact Or.inl (Or.inl less)
  · cases goesB : goes b with
    | true => exact Or.inl (Or.inr ⟨same, fun _ => goesB⟩)
    | false => exact Or.inr (Or.inr ⟨same.symm, fun isGoing => absurd (goesB.symm.trans isGoing) Bool.false_ne_true⟩)
  · exact Or.inr (Or.inl more)

theorem not_after_trans (a b c : ρ) (ab : NotAfter column goes a b) (bc : NotAfter column goes b c) :
    NotAfter column goes a c := by
  rcases ab with less | ⟨same, keeps⟩
  · rcases bc with lessBc | ⟨sameBc, _⟩
    · exact Or.inl (less.trans lessBc)
    · exact Or.inl (sameBc ▸ less)
  · rcases bc with lessBc | ⟨sameBc, keepsBc⟩
    · exact Or.inl (same ▸ lessBc)
    · exact Or.inr ⟨same.trans sameBc, fun isGoing => keepsBc (keeps isGoing)⟩

theorem not_after_le (a b : ρ) (notAfter : NotAfter column goes a b) : column a ≤ column b :=
  notAfter.elim le_of_lt fun same => same.1.le

theorem not_after_lt (a b : ρ) (notAfter : NotAfter column goes a b) (goesA : goes a = true) (failsB : goes b = false) :
    column a < column b := by
  rcases notAfter with less | ⟨_, keeps⟩
  · exact less
  · exact absurd (failsB.symm.trans (keeps goesA)) Bool.false_ne_true

theorem sorted_failing_first : (List.insertionSort (NotAfter column goes) rows).Pairwise (NotAfter column goes) := by
  have : Std.Total (NotAfter column goes) := ⟨not_after_total column goes⟩
  have : IsTrans ρ (NotAfter column goes) := ⟨not_after_trans column goes⟩
  exact List.pairwise_insertionSort _ rows

def failingFirst : OrderBy column where
  arrange := List.insertionSort (NotAfter column goes)
  perm := List.perm_insertionSort _
  sorted := fun rows => (sorted_failing_first column goes rows).imp fun {a b} => not_after_le column goes a b

theorem failing_first_parts :
    ((failingFirst column goes).first size rows ++ (failingFirst column goes).rest size rows).Pairwise
      (NotAfter column goes) := by
  rw [OrderBy.first_rest]
  exact sorted_failing_first column goes rows

theorem head_ahead (leads : (failingFirst column goes).Leads goes size rows) : 0 < ahead column goes rows := by
  obtain ⟨head, others, isFirst, goesHead⟩ := leads
  have inQueue := (failingFirst column goes).mem_rows size rows
  have sorted := failing_first_parts column goes size rows
  have isAhead : Ahead column goes rows head := by
    intro other member failsOther
    rw [isFirst, List.cons_append, List.pairwise_cons] at sorted
    rw [inQueue, ← List.mem_append, isFirst, List.cons_append] at member
    rcases List.mem_cons.mp member with rfl | inTail
    · rw [goesHead] at failsOther
      cases failsOther
    · exact not_after_lt column goes head other (sorted.1 other inTail) goesHead failsOther
  have stored : head ∈ rows := (inQueue head).mpr (Or.inl (isFirst ▸ List.mem_cons_self ..))
  exact List.countP_pos_iff.mpr ⟨head, stored, decide_eq_true isAhead⟩

theorem younger_rest (row : ρ) (early : row ∈ (failingFirst column goes).first size rows) (isGoing : goes row = true)
    (fails : ∀ other ∈ (failingFirst column goes).rest size rows, goes other = false) :
    ((failingFirst column goes).rest size rows).countP (fun other => column other ≤ column row) = 0 := by
  have sorted := failing_first_parts column goes size rows
  refine List.countP_eq_zero.mpr fun other late isOlder => ?_
  have notAfter := (List.pairwise_append.mp sorted).2.2 row early other late
  have younger := not_after_lt column goes row other notAfter isGoing (fails other late)
  exact absurd (of_decide_eq_true isOlder) (not_le_of_gt younger)

-- With ties in favour of the failing rows nothing is blocked before a batch that is led
-- by a row that goes, when nothing is blocked after it.
theorem unblocked_of_left (leads : (failingFirst column goes).Leads goes size rows)
    (unblocked : Unblocked column goes size ((failingFirst column goes).left goes size rows)) :
    Unblocked column goes size rows := by
  have takes := (failingFirst column goes).leads_takes goes size rows leads
  refine ⟨fun _ _ _ => takes, fun row member isGoing behind => ?_⟩
  by_cases many : size ≤ ahead column goes rows
  · obtain ⟨gone, isAhead⟩ := (failingFirst column goes).whole_batch goes size rows many
    rcases ((failingFirst column goes).mem_rows size rows row).mp member with early | late
    · exact absurd many (Nat.not_le_of_lt ((failingFirst column goes).behind_in_first goes size rows row early behind))
    · have reached := unblocked.reaches row (gone ▸ late) isGoing
        fun isAhead => behind (((failingFirst column goes).ahead_left goes size rows row).mp isAhead)
      rw [(failingFirst column goes).up_to_rest size rows row late, isAhead, ceil_step size _ takes]
      rw [gone] at reached ⊢
      omega
  · -- one batch is enough, and it holds every row that goes
    have fails := (failingFirst column goes).rest_fails goes size rows many unblocked
    have early : row ∈ (failingFirst column goes).first size rows := by
      rcases ((failingFirst column goes).mem_rows size rows row).mp member with early | late
      · exact early
      · rw [fails row late] at isGoing
        cases isGoing
    have enough := ceil_pos size _ takes (head_ahead column goes size rows leads)
    have few := (failingFirst column goes).first_length_le size rows
    have inBatch : ((failingFirst column goes).first size rows).countP (fun other => column other ≤ column row) ≤
        ((failingFirst column goes).first size rows).length := List.countP_le_length
    rw [upTo, (failingFirst column goes).count_split size rows,
      younger_rest column goes size rows row early isGoing fails]
    omega

end FailingFirst

end Relation
