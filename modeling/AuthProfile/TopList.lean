import Mathlib.Data.List.Induction
import Mathlib.Data.List.Nodup
import Mathlib.Data.List.Sort
import Mathlib.Order.Basic

set_option autoImplicit false

-- The best n of what has been reported, kept by an algorithm that forgets the others.
namespace TopList

variable {κ σ : Type}

def keys (shelf : List (κ × σ)) : List κ := shelf.map Prod.fst

section Kept

variable [DecidableEq κ]

-- The shelf with the entry in the place of an older one under its key.
def candidates (shelf : List (κ × σ)) (entry : κ × σ) : List (κ × σ) :=
  (shelf.filter fun old => old.1 ≠ entry.1) ++ [entry]

def latest (events : List (κ × σ)) (k : κ) : Option σ :=
  (events.reverse.find? fun event => event.1 = k).map Prod.snd

theorem latest_snoc (events : List (κ × σ)) (entry : κ × σ) (k : κ) :
    latest (events ++ [entry]) k = if entry.1 = k then some entry.2 else latest events k := by
  rw [latest, List.reverse_append, List.reverse_singleton, List.singleton_append]
  by_cases same : entry.1 = k <;> simp [same, latest]

theorem keys_candidates (shelf : List (κ × σ)) (entry : κ × σ) (distinct : (keys shelf).Nodup) :
    (keys (candidates shelf entry)).Nodup := by
  rw [keys, candidates, List.map_append, List.map_singleton]
  refine List.nodup_append.mpr ⟨distinct.sublist (List.filter_sublist.map _), List.nodup_singleton _,
    fun k member other single => ?_⟩
  rw [List.mem_singleton.mp single]
  obtain ⟨old, kept, rfl⟩ := List.mem_map.mp member
  simpa using (List.mem_filter.mp kept).2

theorem mem_candidates (shelf : List (κ × σ)) (entry old : κ × σ) :
    old ∈ candidates shelf entry ↔ (old ∈ shelf ∧ old.1 ≠ entry.1) ∨ old = entry := by
  simp [candidates]

theorem candidates_fresh (shelf : List (κ × σ)) (entry : κ × σ) (absent : entry.1 ∉ keys shelf) :
    candidates shelf entry = shelf ++ [entry] := by
  rw [candidates, List.filter_eq_self.mpr]
  intro old member
  have different : old.1 ≠ entry.1 := fun same => absent (same ▸ List.mem_map_of_mem member)
  simpa using different

theorem candidates_perm (shelf other : List (κ × σ)) (entry : κ × σ) (perm : shelf.Perm other) :
    (candidates shelf entry).Perm (candidates other entry) := (perm.filter _).append_right [entry]

theorem mem_keys_candidates (shelf : List (κ × σ)) (entry : κ × σ) (k : κ) :
    k ∈ keys (candidates shelf entry) ↔ k ∈ keys shelf ∨ k = entry.1 := by
  by_cases same : k = entry.1
  · simp [keys, candidates, same]
  · simp [keys, candidates, same]

theorem candidates_keys (shelf : List (κ × σ)) (entry : κ × σ) (distinct : (keys shelf).Nodup)
    (present : entry.1 ∈ keys shelf) :
    (keys (candidates shelf entry)).Perm (keys shelf) := by
  rw [List.perm_ext_iff_of_nodup (keys_candidates shelf entry distinct) distinct]
  intro k
  rw [mem_keys_candidates]
  exact ⟨fun member => member.elim id fun same => same ▸ present, Or.inl⟩

variable [LinearOrder σ]

-- Some descending arrangement of the candidates, cut after the n-th.
def Upserts (n : Nat) (shelf : List (κ × σ)) (entry : κ × σ) (after : List (κ × σ)) : Prop :=
  ∃ arranged : List (κ × σ), arranged.Perm (candidates shelf entry) ∧ (arranged.Pairwise fun a b => b.2 ≤ a.2) ∧
    after = arranged.take n

-- The n best of the latest scores, or all of them if there are fewer.
structure IsTop (n : Nat) (events shelf : List (κ × σ)) : Prop where
  distinct : (keys shelf).Nodup
  short : shelf.length ≤ n
  current : ∀ entry ∈ shelf, latest events entry.1 = some entry.2
  full : ∀ k s, latest events k = some s → k ∉ keys shelf → shelf.length = n
  best : ∀ k s, latest events k = some s → k ∉ keys shelf → ∀ entry ∈ shelf, s ≤ entry.2

-- An entry on the shelf gets a score below one that the shelf has forgotten.
def Falls (events shelf : List (κ × σ)) (entry : κ × σ) : Prop :=
  entry.1 ∈ keys shelf ∧ ∃ k s, latest events k = some s ∧ k ∉ keys shelf ∧ entry.2 < s

-- There is room for the entry, or one of the others is below it.
def Enters (n : Nat) (shelf : List (κ × σ)) (entry : κ × σ) : Prop :=
  (candidates shelf entry).length ≤ n ∨ ∃ other ∈ candidates shelf entry, other.2 < entry.2

section Step

variable (n : Nat) (events shelf after : List (κ × σ)) (entry : κ × σ)

theorem upserts_parts (distinct : (keys shelf).Nodup) (upserts : Upserts n shelf entry after) :
    ∃ dropped, (after ++ dropped).Perm (candidates shelf entry) ∧ (keys (after ++ dropped)).Nodup ∧
      ((after ++ dropped).Pairwise fun a b => b.2 ≤ a.2) ∧ after.length ≤ n ∧ (dropped ≠ [] → after.length = n) := by
  obtain ⟨arranged, perm, sorted, rfl⟩ := upserts
  refine ⟨arranged.drop n, ?_⟩
  rw [List.take_append_drop]
  refine ⟨perm, (perm.map Prod.fst).nodup_iff.mpr (keys_candidates shelf entry distinct), sorted,
    List.length_take_le _ _, fun some => ?_⟩
  have longer : n < arranged.length := by
    by_contra short
    exact some (List.drop_eq_nil_of_le (by omega))
  rw [List.length_take]
  omega

theorem upserts_current (top : IsTop n events shelf) (upserts : Upserts n shelf entry after) (kept : κ × σ)
    (member : kept ∈ after) :
    latest (events ++ [entry]) kept.1 = some kept.2 := by
  obtain ⟨dropped, perm, _⟩ := upserts_parts n shelf after entry top.distinct upserts
  rw [latest_snoc]
  rcases (mem_candidates shelf entry kept).mp (perm.mem_iff.mp (List.mem_append_left _ member)) with
    ⟨old, different⟩ | same
  · rw [if_neg (Ne.symm different)]
    exact top.current kept old
  · rw [same, if_pos rfl]

-- An entry that is on the shelf already stays there with all the others.
theorem upserts_known (top : IsTop n events shelf) (upserts : Upserts n shelf entry after)
    (present : entry.1 ∈ keys shelf) :
    IsTop n (events ++ [entry]) after ↔ ¬ Falls events shelf entry := by
  obtain ⟨dropped, perm, distinct, _, short, full⟩ := upserts_parts n shelf after entry top.distinct upserts
  have sameKeys := (perm.map Prod.fst).trans (candidates_keys shelf entry top.distinct present)
  have lengths : after.length + dropped.length = shelf.length := by simpa [keys] using sameKeys.length_eq
  have none : dropped = [] := by
    by_contra some
    have isFull := full some
    have longer := List.length_pos_iff.mpr some
    have bound := top.short
    omega
  subst none
  rw [List.append_nil] at sameKeys perm distinct
  have offShelf : ∀ k s, latest (events ++ [entry]) k = some s → k ∉ keys after → latest events k = some s ∧
      k ∉ keys shelf := by
    intro k s isLatest absent
    have notShelf : k ∉ keys shelf := fun member => absent (sameKeys.mem_iff.mpr member)
    have different : entry.1 ≠ k := fun same => notShelf (same ▸ present)
    rw [latest_snoc, if_neg different] at isLatest
    exact ⟨isLatest, notShelf⟩
  constructor
  · rintro after ⟨_, k, s, isLatest, absent, lower⟩
    have different : entry.1 ≠ k := fun same => absent (same ▸ present)
    have stays : latest (events ++ [entry]) k = some s := by rw [latest_snoc, if_neg different, isLatest]
    have kept := perm.mem_iff.mpr ((mem_candidates shelf entry entry).mpr (Or.inr rfl))
    exact absurd (after.best k s stays (fun member => absent (sameKeys.mem_iff.mp member)) entry kept)
      (not_le_of_gt lower)
  · intro stays
    refine ⟨distinct, short, upserts_current n events shelf after entry top upserts, fun k s isLatest absent => ?_,
      fun k s isLatest absent kept member => ?_⟩
    · obtain ⟨older, notShelf⟩ := offShelf k s isLatest absent
      have isFull := top.full k s older notShelf
      simp only [List.length_nil] at lengths
      omega
    · obtain ⟨older, notShelf⟩ := offShelf k s isLatest absent
      rcases (mem_candidates shelf entry kept).mp (perm.mem_iff.mp member) with ⟨old, _⟩ | same
      · exact top.best k s older notShelf kept old
      · exact same ▸ not_lt.mp fun lower => stays ⟨present, k, s, older, notShelf, lower⟩

-- A new entry, or one that the shelf has forgotten, takes its place without a loss.
theorem upserts_unknown (top : IsTop n events shelf) (upserts : Upserts n shelf entry after)
    (absent : entry.1 ∉ keys shelf) :
    IsTop n (events ++ [entry]) after := by
  obtain ⟨dropped, perm, distinct, sorted, short, full⟩ := upserts_parts n shelf after entry top.distinct upserts
  rw [candidates_fresh shelf entry absent] at perm
  have lengths : after.length + dropped.length = shelf.length + 1 := by simpa using perm.length_eq
  have bound := top.short
  have distinctAfter : (keys after).Nodup := by
    rw [keys, List.map_append] at distinct
    exact (List.nodup_append.mp distinct).1
  -- What is not on the new shelf has been dropped now or was not on the old one.
  have offShelf : ∀ k s, latest (events ++ [entry]) k = some s → k ∉ keys after →
      (∃ lost ∈ dropped, lost.1 = k ∧ lost.2 = s) ∨ (latest events k = some s ∧ k ∉ keys shelf) := by
    intro k s isLatest gone
    rw [latest_snoc] at isLatest
    by_cases here : entry.1 = k
    · rw [if_pos here, Option.some.injEq] at isLatest
      have member : entry ∈ after ++ dropped :=
        perm.mem_iff.mpr (List.mem_append_right _ (List.mem_singleton_self entry))
      rcases List.mem_append.mp member with kept | lost
      · exact absurd (here ▸ List.mem_map_of_mem kept) gone
      · exact Or.inl ⟨entry, lost, here, isLatest⟩
    · rw [if_neg here] at isLatest
      by_cases onShelf : k ∈ keys shelf
      · obtain ⟨old, isOld, isKey⟩ := List.mem_map.mp onShelf
        have sameScore := (top.current old isOld).symm.trans (isKey ▸ isLatest)
        rcases List.mem_append.mp (perm.mem_iff.mpr (List.mem_append_left _ isOld)) with kept | lost
        · exact absurd (isKey ▸ List.mem_map_of_mem kept) gone
        · exact Or.inl ⟨old, lost, isKey, Option.some.inj sameScore⟩
      · exact Or.inr ⟨isLatest, onShelf⟩
  refine ⟨distinctAfter, short, upserts_current n events shelf after entry top upserts, fun k s isLatest gone => ?_,
    fun k s isLatest gone kept member => ?_⟩
  · rcases offShelf k s isLatest gone with ⟨lost, isLost, _⟩ | ⟨older, notShelf⟩
    · exact full (List.ne_nil_of_mem isLost)
    · have isFull := top.full k s older notShelf
      refine full fun none => ?_
      rw [none, List.length_nil] at lengths
      omega
  · have behind := (List.pairwise_append.mp sorted).2.2 kept member
    rcases offShelf k s isLatest gone with ⟨lost, isLost, _, isScore⟩ | ⟨older, notShelf⟩
    · exact isScore ▸ behind lost isLost
    · rcases List.mem_append.mp (perm.mem_iff.mp (List.mem_append_left dropped member)) with old | single
      · exact top.best k s older notShelf kept old
      · -- Whatever the new entry has pushed out was above the ones forgotten before.
        have isEntry := List.mem_singleton.mp single
        have isFull := top.full k s older notShelf
        obtain ⟨lost, isLost⟩ := List.exists_mem_of_ne_nil dropped fun none => by
          rw [none, List.length_nil] at lengths
          omega
        rcases List.mem_append.mp (perm.mem_iff.mp (List.mem_append_right after isLost)) with old | again
        · exact le_trans (top.best k s older notShelf lost old) (behind lost isLost)
        · rw [keys, List.map_append] at distinct
          have apart :=
            (List.nodup_append.mp distinct).2.2 kept.1 (List.mem_map_of_mem member) lost.1 (List.mem_map_of_mem isLost)
          rw [isEntry, List.mem_singleton.mp again] at apart
          exact absurd rfl apart

theorem upserts_top_iff (top : IsTop n events shelf) (upserts : Upserts n shelf entry after) :
    IsTop n (events ++ [entry]) after ↔ ¬ Falls events shelf entry := by
  by_cases present : entry.1 ∈ keys shelf
  · exact upserts_known n events shelf after entry top upserts present
  · exact iff_of_true (upserts_unknown n events shelf after entry top upserts present) fun falls => present falls.1

-- With distinct scores there is one arrangement.
theorem upserts_unique (other : List (κ × σ)) (distinct : ((candidates shelf entry).map Prod.snd).Nodup)
    (first : Upserts n shelf entry after) (second : Upserts n shelf entry other) : after = other := by
  obtain ⟨arranged, perm, sorted, rfl⟩ := first
  obtain ⟨arranged', perm', sorted', rfl⟩ := second
  have same : arranged = arranged' := by
    refine List.Perm.eq_of_pairwise (fun a b isA isB ba ab => ?_) sorted sorted' (perm.trans perm'.symm)
    exact List.inj_on_of_nodup_map distinct (perm.mem_iff.mp isA) (perm'.mem_iff.mp isB) (le_antisymm ab ba)
  rw [same]

theorem enters_member (short : shelf.length ≤ n) (upserts : Upserts n shelf entry after)
    (enters : Enters n shelf entry) :
    entry ∈ after := by
  obtain ⟨arranged, perm, sorted, rfl⟩ := upserts
  have isCandidate : entry ∈ arranged := perm.mem_iff.mpr ((mem_candidates shelf entry entry).mpr (Or.inr rfl))
  have length : arranged.length ≤ n + 1 := by
    have most := List.length_filter_le (fun old => decide (old.1 ≠ entry.1)) shelf
    rw [perm.length_eq, candidates, List.length_append, List.length_singleton]
    omega
  have split := List.take_append_drop n arranged
  rw [← split] at isCandidate sorted
  refine (List.mem_append.mp isCandidate).resolve_right fun dropped => ?_
  rcases enters with room | ⟨other, isOther, lower⟩
  · rw [List.drop_of_length_le (perm.length_eq ▸ room)] at dropped
    cases dropped
  · obtain ⟨_, _, across⟩ := List.pairwise_append.mp sorted
    have isArranged : other ∈ arranged.take n ++ arranged.drop n := split.symm ▸ perm.mem_iff.mpr isOther
    rcases List.mem_append.mp isArranged with kept | beyond
    · exact absurd (across other kept entry dropped) (not_le_of_gt lower)
    · -- no more than one candidate is past the n-th
      have one : (arranged.drop n).length ≤ 1 := by
        rw [List.length_drop]
        omega
      obtain ⟨only, isOnly⟩ := List.length_eq_one_iff.mp (le_antisymm one (List.length_pos_of_mem dropped))
      rw [isOnly, List.mem_singleton] at dropped beyond
      exact absurd lower (by rw [beyond, ← dropped]; exact lt_irrefl _)

-- What does not get on the shelf is below all of a full one.
theorem refused_lower (short : shelf.length ≤ n) (absent : entry.1 ∉ keys shelf)
    (distinct : ((candidates shelf entry).map Prod.snd).Nodup) (refused : ¬ Enters n shelf entry) :
    shelf.length = n ∧ ∀ other ∈ shelf, entry.2 < other.2 := by
  obtain ⟨full, above⟩ := not_or.mp refused
  have isCandidates := candidates_fresh shelf entry absent
  rw [isCandidates] at full distinct above
  refine ⟨?_, fun other member => ?_⟩
  · rw [List.length_append, List.length_singleton] at full
    omega
  · have listed : other ∈ shelf ++ [entry] := List.mem_append_left _ member
    refine lt_of_le_of_ne (le_of_not_gt fun lower => above ⟨other, listed, lower⟩) fun same => absent ?_
    have isEntry :=
      List.inj_on_of_nodup_map distinct listed (List.mem_append_right _ (List.mem_singleton_self entry)) same.symm
    exact isEntry ▸ List.mem_map_of_mem member

omit [DecidableEq κ] in
theorem falls_strictly (distinct : (shelf.map Prod.snd).Nodup) (falling : shelf.Pairwise fun a b => b.2 ≤ a.2) :
    shelf.Pairwise fun a b => b.2 < a.2 := by
  rw [List.Nodup, List.pairwise_map] at distinct
  exact (distinct.and falling).imp fun ⟨different, below⟩ => lt_of_le_of_ne below (Ne.symm different)

omit [DecidableEq κ] in
-- Something below a full shelf does not get on it, whatever its key.
theorem first_of_lower (arranged : List (κ × σ)) (perm : arranged.Perm (shelf ++ [entry]))
    (sorted : arranged.Pairwise fun a b => b.2 ≤ a.2) (falling : shelf.Pairwise fun a b => b.2 < a.2)
    (lower : ∀ other ∈ shelf, entry.2 < other.2) : arranged.take shelf.length = shelf := by
  have strict : (shelf ++ [entry]).Pairwise fun a b => b.2 < a.2 :=
    List.pairwise_append.mpr ⟨falling, List.pairwise_singleton _ _,
      fun a isA b isB => List.mem_singleton.mp isB ▸ lower a isA⟩
  have distinct : ((shelf ++ [entry]).map Prod.snd).Nodup := by
    rw [List.Nodup, List.pairwise_map]
    exact strict.imp fun below => (ne_of_lt below).symm
  have same : arranged = shelf ++ [entry] := by
    refine List.Perm.eq_of_pairwise (fun a b isA isB ba ab => ?_) sorted (strict.imp fun below => le_of_lt below) perm
    exact List.inj_on_of_nodup_map distinct (perm.mem_iff.mp isA) isB (le_antisymm ab ba)
  rw [same, List.take_left']
  rfl

end Step

-- A run of upserts: what each event reports, and the shelf after some of the events.
section Run

variable {α : Type} (n : Nat) (report : α → Option (κ × σ)) (shelf : List α → List (κ × σ))

def Runs (events : List α) : Prop :=
  shelf [] = [] ∧ ∀ before event, before ++ [event] <+: events →
    ∃ entry, report event = some entry ∧ Upserts n (shelf before) entry (shelf (before ++ [event]))

theorem top_nil : IsTop n ([] : List (κ × σ)) [] :=
  ⟨List.nodup_nil, Nat.zero_le n, fun _ member => (nomatch member), fun _ _ wrong => (nomatch wrong),
    fun _ _ wrong => nomatch wrong⟩

theorem run_step_iff (events : List α) (runs : Runs n report shelf events) (before : List α) (event : α) (entry : κ × σ)
    (isPrefix : before ++ [event] <+: events) (reports : report event = some entry)
    (top : IsTop n (before.filterMap report) (shelf before)) :
    IsTop n ((before ++ [event]).filterMap report) (shelf (before ++ [event])) ↔
      ¬ Falls (before.filterMap report) (shelf before) entry := by
  obtain ⟨other, isOther, upserts⟩ := runs.2 before event isPrefix
  cases reports.symm.trans isOther
  rw [List.filterMap_append, List.filterMap_cons_some reports, List.filterMap_nil]
  exact upserts_top_iff n _ _ _ _ top upserts

theorem run_top_iff (events : List α) (runs : Runs n report shelf events) :
    (∀ before, before <+: events → IsTop n (before.filterMap report) (shelf before)) ↔
      ∀ before event entry, before ++ [event] <+: events → report event = some entry →
        ¬ Falls (before.filterMap report) (shelf before) entry := by
  constructor
  · intro tops before event entry isPrefix reports
    have earlier := tops before ((List.prefix_append before [event]).trans isPrefix)
    exact (run_step_iff n report shelf events runs before event entry isPrefix reports earlier).mp
      (tops (before ++ [event]) isPrefix)
  · intro stays before isPrefix
    induction before using List.reverseRecOn with
    | nil => exact runs.1 ▸ top_nil n
    | append_singleton before event ih =>
        have earlier := ih ((List.prefix_append before [event]).trans isPrefix)
        obtain ⟨entry, reports, _⟩ := runs.2 before event isPrefix
        exact (run_step_iff n report shelf events runs before event entry isPrefix reports earlier).mpr
          (stays before event entry isPrefix reports)

end Run

end Kept

-- A shelf as it is stored, with the place each entry was last given.
structure Placed (κ σ : Type) where
  key : κ
  score : σ
  rank : Nat
deriving DecidableEq, Repr

namespace Placed

def entry (placed : Placed κ σ) : κ × σ := (placed.key, placed.score)

def place (entries : List (κ × σ)) : List (Placed κ σ) := (entries.zipIdx 1).map fun (entry, i) => ⟨entry.1, entry.2, i⟩

-- An entry without a place yet has the rank 0.
def write [DecidableEq κ] (rows : List (Placed κ σ)) (entry : κ × σ) : List (Placed κ σ) :=
  if entry.1 ∈ rows.map key then rows.map fun row => if row.key = entry.1 then { row with score := entry.2 } else row
  else rows ++ [⟨entry.1, entry.2, 0⟩]

-- Each entry gets its place in the loaded ones, if that is among the first n.
def settle [DecidableEq κ] [DecidableEq σ] (n : Nat) (loaded rows : List (Placed κ σ)) : List (Placed κ σ) :=
  rows.filterMap fun row => if loaded.idxOf row < n then some { row with rank := loaded.idxOf row + 1 } else none

structure WellFormed [LE σ] (n : Nat) (shelf : List (Placed κ σ)) : Prop where
  short : shelf.length ≤ n
  distinct : (shelf.map key).Nodup
  falling : shelf.Pairwise fun a b => b.score ≤ a.score
  ranks : shelf.map rank = List.range' 1 shelf.length

section Place

theorem place_entries (entries : List (κ × σ)) : (place entries).map entry = entries := by
  rw [place, List.map_map]
  exact List.zipIdx_map_fst 1 entries

theorem place_ranks (entries : List (κ × σ)) : (place entries).map rank = List.range' 1 (place entries).length := by
  rw [place, List.map_map, List.length_map, List.length_zipIdx]
  exact List.zipIdx_map_snd 1 entries

theorem place_well_formed [LE σ] (n : Nat) (entries : List (κ × σ)) (short : entries.length ≤ n)
    (distinct : (keys entries).Nodup)
    (sorted : entries.Pairwise fun a b => b.2 ≤ a.2) : WellFormed n (place entries) := by
  have isKeys : (place entries).map key = keys entries := by
    conv_rhs => rw [← place_entries entries]
    rw [keys, List.map_map]
    rfl
  have lengths : (place entries).length = entries.length := by rw [place, List.length_map, List.length_zipIdx]
  refine ⟨lengths ▸ short, isKeys ▸ distinct, ?_, place_ranks entries⟩
  have falling := sorted
  rw [← place_entries entries, List.pairwise_map] at falling
  exact falling

theorem ranks_ascend (shelf : List (Placed κ σ)) (ranks : shelf.map rank = List.range' 1 shelf.length) :
    shelf.Pairwise fun a b => a.rank < b.rank := by
  have ascending : (shelf.map rank).Pairwise (· < ·) := ranks ▸ List.pairwise_lt_range'
  rwa [List.pairwise_map] at ascending

end Place

section Writes

variable [DecidableEq κ] (rows : List (Placed κ σ)) (pending : List (κ × σ))

def updated (row : Placed κ σ) : Placed κ σ := { row with score := (latest pending row.key).getD row.score }

theorem write_known (entry : κ × σ) (known : entry.1 ∈ rows.map key) :
    write rows entry = rows.map fun row => if row.key = entry.1 then { row with score := entry.2 }
      else row := if_pos known

theorem write_distinct (entry : κ × σ) (distinct : (rows.map key).Nodup) : ((write rows entry).map key).Nodup := by
  by_cases known : entry.1 ∈ rows.map key
  · have sameKeys : (write rows entry).map key = rows.map key := by
      rw [write_known rows entry known, List.map_map]
      apply List.map_congr_left
      intro row _
      by_cases here : row.key = entry.1 <;> simp [here]
    exact sameKeys ▸ distinct
  · rw [write, if_neg known, List.map_append, List.map_singleton]
    refine List.nodup_append.mpr ⟨distinct, List.nodup_singleton _, fun k member other single same => ?_⟩
    have isEntry : other = entry.1 := List.mem_singleton.mp single
    exact known (isEntry ▸ same ▸ member)

-- A write leaves the candidates, in whatever order.
theorem write_entries (new : κ × σ) (distinct : (rows.map key).Nodup) :
    ((write rows new).map entry).Perm (candidates (rows.map entry) new) := by
  by_cases known : new.1 ∈ rows.map key
  · have sameKeys : keys (rows.map entry) = rows.map key := by rw [keys, List.map_map]; rfl
    have written : (((write rows new).map entry).map Prod.fst).Nodup := by
      rw [List.map_map]
      exact write_distinct rows new distinct
    refine (List.perm_ext_iff_of_nodup written.of_map
      (keys_candidates (rows.map entry) new (sameKeys ▸ distinct)).of_map).mpr fun found => ?_
    rw [mem_candidates, write_known rows new known, List.map_map, List.mem_map]
    constructor
    · rintro ⟨row, isRow, rfl⟩
      by_cases here : row.key = new.1
      · exact Or.inr (by simp [entry, here])
      · exact Or.inl ⟨List.mem_map.mpr ⟨row, isRow, by simp [here]⟩, by simp [entry, here]⟩
    · rintro (⟨old, different⟩ | rfl)
      · obtain ⟨row, isRow, rfl⟩ := List.mem_map.mp old
        have apart : row.key ≠ new.1 := different
        exact ⟨row, isRow, by simp [apart]⟩
      · obtain ⟨row, isRow, isKey⟩ := List.mem_map.mp known
        exact ⟨row, isRow, by simp [entry, isKey]⟩
  · have absent : new.1 ∉ keys (rows.map entry) := by
      rw [keys, List.map_map]
      exact known
    rw [write, if_neg known, candidates_fresh _ _ absent, List.map_append]
    exact List.Perm.refl _

theorem writes_known (known : ∀ entry ∈ pending, entry.1 ∈ rows.map key) :
    pending.foldl write rows = rows.map (updated pending) := by
  induction pending using List.reverseRecOn with
  | nil => exact (List.map_id rows).symm
  | append_singleton pending entry ih =>
      have sameKeys : (rows.map (updated pending)).map key = rows.map key := by rw [List.map_map]; rfl
      have isKnown : entry.1 ∈ (rows.map (updated pending)).map key :=
        sameKeys ▸ known entry (List.mem_append_right _ (List.mem_singleton_self entry))
      rw [List.foldl_append, List.foldl_cons, List.foldl_nil,
        ih fun other member => known other (List.mem_append_left _ member),
        write_known _ entry isKnown, List.map_map]
      apply List.map_congr_left
      intro row _
      by_cases here : row.key = entry.1
      · simp [updated, latest_snoc, here]
      · simp [updated, latest_snoc, here, Ne.symm here]

variable (n : Nat) (settled read : List (Placed κ σ))

-- A read of a shelf on which something was written since its places were last given.
theorem read_known (perm : settled.Perm rows) (ranks : settled.map rank = List.range' 1 settled.length)
    (isRead : read.Perm (pending.foldl write rows)) (ordered : read.Pairwise fun a b => a.rank ≤ b.rank)
    (known : ∀ entry ∈ pending, entry.1 ∈ rows.map key) : read = settled.map (updated pending) := by
  have ascending : (settled.map (updated pending)).Pairwise fun a b => a.rank < b.rank :=
    List.pairwise_map.mpr (ranks_ascend settled ranks)
  have same : read.Perm (settled.map (updated pending)) := by
    rw [writes_known rows pending known] at isRead
    exact isRead.trans (perm.symm.map _)
  have distinct : (settled.map (updated pending)).map rank |>.Nodup := by
    rw [List.Nodup, List.pairwise_map]
    exact ascending.imp fun lower => Nat.ne_of_lt lower
  refine List.Perm.eq_of_pairwise (fun a b isA isB ab ba => ?_) ordered
    (ascending.imp fun lower => Nat.le_of_lt lower) same
  exact List.inj_on_of_nodup_map distinct (same.mem_iff.mp isA) isB (Nat.le_antisymm ab ba)

theorem updated_nothing : updated ([] : List (κ × σ)) = id := rfl

-- Ranks that count from one leave the order no choice.
theorem read_settled (perm : settled.Perm rows) (ranks : settled.map rank = List.range' 1 settled.length)
    (isRead : read.Perm rows) (ordered : read.Pairwise fun a b => a.rank ≤ b.rank) : read = settled := by
  have same := read_known rows [] settled read perm ranks isRead ordered fun _ member => nomatch member
  simpa only [updated_nothing, List.map_id] using same

end Writes

end Placed

end TopList
