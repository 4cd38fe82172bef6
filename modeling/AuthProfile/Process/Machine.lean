import Mathlib.Data.List.Induction
import Mathlib.Order.Monotone.Basic

set_option autoImplicit false

namespace Process

-- A state that others know through its events only: what an event makes of the
-- state, and in which states it may happen.
structure Machine (σ ε : Type) where
  follow : σ → ε → σ
  legal : σ → ε → Prop

namespace Machine

variable {σ ε : Type}

def replay (machine : Machine σ ε) (s : σ) (events : List ε) : σ := events.foldl machine.follow s

def Lawful (machine : Machine σ ε) : σ → List ε → Prop
  | _, [] => True
  | s, event :: rest => machine.legal s event ∧ machine.Lawful (machine.follow s event) rest

theorem replay_append (machine : Machine σ ε) (s : σ) (first later : List ε) :
    machine.replay s (first ++ later) = machine.replay (machine.replay s first) later := List.foldl_append

theorem lawful_append (machine : Machine σ ε) (s : σ) (first later : List ε) :
    machine.Lawful s (first ++ later) ↔ machine.Lawful s first ∧ machine.Lawful (machine.replay s first) later := by
  induction first generalizing s with
  | nil => exact ⟨fun rest => ⟨trivial, rest⟩, And.right⟩
  | cons event first ih =>
      rw [List.cons_append, Lawful, Lawful, ih, and_assoc]
      rfl

theorem lawful_congr (follow : σ → ε → σ) (first second : σ → ε → Prop)
    (same : ∀ s event, first s event ↔ second s event)
    (s : σ) (events : List ε) : (Machine.mk follow first).Lawful s events ↔
      (Machine.mk follow second).Lawful s events := by
  induction events generalizing s with
  | nil => exact Iff.rfl
  | cons event events ih => exact and_congr (same s event) (ih (follow s event))

@[simp] theorem replay_snoc (machine : Machine σ ε) (s : σ) (past : List ε) (event : ε) :
    machine.replay s (past ++ [event]) = machine.follow (machine.replay s past) event := by
  rw [replay_append]
  rfl

theorem lawful_snoc (machine : Machine σ ε) (s : σ) (past : List ε) (event : ε) :
    machine.Lawful s (past ++ [event]) ↔ machine.Lawful s past ∧ machine.legal (machine.replay s past) event := by
  rw [lawful_append, Lawful, Lawful, and_true]

-- The induction over a lawful run, for invariants that look back on the events so far.
theorem lawful_history (machine : Machine σ ε) (s : σ) (holds : List ε → σ → Prop) (start : holds [] s)
    (keeps : ∀ past event, holds past (machine.replay s past) → machine.legal (machine.replay s past) event →
      holds (past ++ [event]) (machine.follow (machine.replay s past) event))
    (events : List ε) (lawful : machine.Lawful s events) : holds events (machine.replay s events) := by
  induction events using List.reverseRecOn with
  | nil => exact start
  | append_singleton past event ih =>
      obtain ⟨lawfulPast, legal⟩ := (lawful_snoc machine s past event).mp lawful
      rw [replay_snoc]
      exact keeps past event (ih lawfulPast) legal

def Met (machine : Machine σ ε) (meets : σ → ε → Prop) (s : σ) (events : List ε) : Prop :=
  ∃ before event after, events = before ++ event :: after ∧ meets (machine.replay s before) event

theorem met_here (machine : Machine σ ε) (meets : σ → ε → Prop) (s : σ) (past : List ε) (event : ε)
    (here : meets (machine.replay s past) event) : machine.Met meets s (past ++ [event]) :=
  ⟨past, event, [], rfl, here⟩

theorem met_before (machine : Machine σ ε) (meets : σ → ε → Prop) (s : σ) (past : List ε) (event : ε)
    (met : machine.Met meets s past) : machine.Met meets s (past ++ [event]) := by
  obtain ⟨before, earlier, after, split, here⟩ := met
  exact ⟨before, earlier, after ++ [event], by rw [split, List.append_assoc, List.cons_append], here⟩

structure Tracks (machine : Machine σ ε) (before : σ) (events : List ε) (after : σ) : Prop where
  lawful : machine.Lawful before events
  replayed : machine.replay before events = after

theorem tracks_nil (machine : Machine σ ε) (s : σ) : machine.Tracks s [] s := ⟨trivial, rfl⟩

theorem tracks_single (machine : Machine σ ε) (s : σ) (event : ε) (legal : machine.legal s event) :
    machine.Tracks s [event] (machine.follow s event) := ⟨⟨legal, trivial⟩, rfl⟩

theorem tracks_append (machine : Machine σ ε) (a b c : σ) (first later : List ε) (ab : machine.Tracks a first b)
    (bc : machine.Tracks b later c) : machine.Tracks a (first ++ later) c := by
  obtain ⟨lawfulAb, replayedAb⟩ := ab
  obtain ⟨lawfulBc, replayedBc⟩ := bc
  constructor
  · rw [lawful_append, replayedAb]
    exact ⟨lawfulAb, lawfulBc⟩
  · rw [replay_append, replayedAb, replayedBc]

end Machine

-- A number that never grows, and shrinks again and again until the work is done: it gets done.
theorem done_of_progress (done : Nat → Prop) (remaining : Nat → Nat) (shrinks : ∀ n, remaining (n + 1) ≤ remaining n)
    (progress : ∀ n, ¬ done n → ∃ m ≥ n, remaining (m + 1) < remaining m) : ∃ n, done n := by
  have bounded : ∀ bound n, remaining n ≤ bound → ∃ n, done n := by
    intro bound
    induction bound with
    | zero =>
        intro n isZero
        by_contra never
        obtain ⟨m, later, less⟩ := progress n fun here => never ⟨n, here⟩
        have atMost : remaining m ≤ remaining n := antitone_nat_of_succ_le shrinks later
        omega
    | succ bound ih =>
        intro n small
        by_cases here : done n
        · exact ⟨n, here⟩
        · obtain ⟨m, later, less⟩ := progress n here
          have atMost : remaining m ≤ remaining n := antitone_nat_of_succ_le shrinks later
          exact ih (m + 1) (by omega)
  exact bounded (remaining 0) 0 le_rfl

end Process
