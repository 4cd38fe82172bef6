import AuthProfile.Process.Server
import Mathlib.Data.List.Induction

set_option autoImplicit false

-- Rely and guarantee for a server: what a request has read stays true as far as the
-- others leave it so.
namespace Process

variable {κ σ τ ε α β : Type}

namespace Prog

theorem guarantees_rendered (rely guar : σ → σ → Prop) (p : Prog σ ε α) (render : α → β) (s : σ)
    (holds : p.Guarantees rely guar s) :
    (p >>= fun value => pure (render value)).Guarantees rely guar s := by
  induction p generalizing s with
  | ret value => trivial
  | raise error => trivial
  | act effect next failed ihNext ihFailed =>
      intro s' step
      obtain ⟨moved, through, refused, lost⟩ := holds s' step
      exact ⟨moved, ihNext s' _ through, ihFailed _ refused, ihFailed _ lost⟩

theorem guarantees_focus (rely guar : σ → σ → Prop) (lens : Lens τ σ) (relyLarge guarLarge : τ → τ → Prop)
    (narrows : ∀ t t', relyLarge t t' → rely (lens.get t) (lens.get t'))
    (widens : ∀ t after, guar (lens.get t) after → guarLarge t (lens.set t after)) (p : Prog σ ε α) (t : τ)
    (holds : p.Guarantees rely guar (lens.get t)) : (p.focus lens).Guarantees relyLarge guarLarge t := by
  induction p generalizing t with
  | ret value => trivial
  | raise error => trivial
  | act effect next failed ihNext ihFailed =>
      intro t' step
      obtain ⟨moved, through, refused, lost⟩ := holds (lens.get t') (narrows t t' step)
      refine ⟨widens t' _ moved, ihNext _ _ ?_, ihFailed _ refused, ihFailed _ ?_⟩
      · rw [lens.get_set]
        exact through
      · rw [lens.get_set]
        exact lost

-- Actions that keep to a guarantee wherever something holds that stays true.
theorem steps_guarantees_under (rely guar small : σ → σ → Prop) (inv : σ → Prop)
    (stable : ∀ a b, rely a b → inv a → inv b)
    (kept : ∀ a b, guar a b → inv a → inv b) (within : ∀ a b, inv a → small a b → guar a b) (p : Prog σ ε α) (s : σ)
    (holds : inv s) (steps : p.Steps small) : p.Guarantees rely guar s := by
  induction p generalizing s with
  | ret value => trivial
  | raise error => trivial
  | act effect next failed ihNext ihFailed =>
      intro s' step
      obtain ⟨moved, through, refused⟩ := steps
      have before := stable s s' step holds
      have guaranteed := within s' _ before (moved s')
      have after := kept s' _ guaranteed before
      exact ⟨guaranteed, ihNext s' _ after (through s'), ihFailed s' before refused, ihFailed _ after refused⟩

end Prog

namespace Server

variable (serve : κ → List (κ × Except ε α) → Prog σ ε α) (rely : σ → σ → Prop) (guar : κ → σ → σ → Prop)

structure Guarding (server : Server κ σ ε α) : Prop where
  running : ∀ pair ∈ server.running, pair.2.Guarantees rely (guar pair.1) server.store

theorem idle_guarding (store : σ) : Guarding rely guar (⟨store, [], []⟩ : Server κ σ ε α) := by
  refine ⟨fun _ member => ?_⟩
  cases member

theorem enter_guarding (server : Server κ σ ε α) (guarding : server.Guarding rely guar) (request : κ) (p : Prog σ ε α)
    (holds : p.Guarantees rely (guar request) server.store) : (server.enter request p).Guarding rely guar := by
  rw [enter]
  cases p.finished with
  | none =>
      refine ⟨fun pair member => ?_⟩
      rcases List.mem_append.mp member with old | new
      · exact guarding.running pair old
      · rw [List.mem_singleton.mp new]
        exact holds
  | some result => exact ⟨guarding.running⟩

variable (stutter : ∀ s, rely s s) (trans : ∀ a b c, rely a b → rely b c → rely a c)
    (still : ∀ request s, guar request s s)
  (relied : ∀ request a b, guar request a b → rely a b)

include stutter trans still relied

-- The store moves by the guarantee of the request whose action it is, and nobody minds.
theorem step_guarding (server : Server κ σ ε α) (guarding : server.Guarding rely guar) (event : ServerEvent κ)
    (serves : ∀ request, event = .arrives request →
      (serve request server.answers).Guarantees rely (guar request) server.store) :
    ((server.step serve event).store = server.store ∨
        ∃ request, server.mover event = some request ∧ guar request server.store (server.step serve event).store) ∧
      (server.step serve event).Guarding rely guar := by
  cases event with
  | arrives request =>
      exact ⟨Or.inl (enter_store server request _),
        enter_guarding rely guar server guarding request _ (serves request rfl)⟩
  | moves place fault =>
      rw [step, mover]
      cases isRunning : server.running[place]? with
      | none => exact ⟨Or.inl rfl, guarding⟩
      | some pair =>
          obtain ⟨moved, onward⟩ :=
            Prog.guarantees_advance rely (guar pair.1) stutter (still pair.1) pair.2 fault server.store
            (guarding.running pair (List.mem_of_getElem? isRunning))
          have resumed : Guarding rely guar
              { server with store := (pair.2.advance fault server.store).2, running :=
                server.running.eraseIdx place } :=
            ⟨fun other member => Prog.guarantees_rely rely _ trans _ _ _ (relied pair.1 _ _ moved)
              (guarding.running other (List.mem_of_mem_eraseIdx member))⟩
          dsimp only
          rw [enter_store]
          exact ⟨Or.inr ⟨pair.1, rfl, moved⟩, enter_guarding rely guar _ resumed pair.1 _ onward⟩

-- However requests come in and interleave: the rely leads from the first store to the last.
theorem run_guarding (server : Server κ σ ε α) (guarding : server.Guarding rely guar) (events : List (ServerEvent κ))
    (serves : ∀ earlier request later, events = earlier ++ .arrives request :: later →
      rely server.store (server.run serve earlier).store →
      (serve request (server.run serve earlier).answers).Guarantees rely (guar request)
        (server.run serve earlier).store) :
    rely server.store (server.run serve events).store ∧ (server.run serve events).Guarding rely guar := by
  induction events using List.reverseRecOn with
  | nil => exact ⟨stutter _, guarding⟩
  | append_singleton events event ih =>
      obtain ⟨led, kept⟩ := ih fun earlier request later isPrefix =>
        serves earlier request (later ++ [event]) (by simp [isPrefix])
      obtain ⟨moved, next⟩ := step_guarding serve rely guar stutter trans still relied _ kept event
        fun request isArrival => serves events request [] (by rw [isArrival]) led
      have isStep : server.run serve (events ++ [event]) = (server.run serve events).step serve event :=
        List.foldl_append
      rw [isStep]
      refine ⟨?_, next⟩
      rcases moved with same | ⟨request, _, guaranteed⟩
      · rw [same]
        exact led
      · exact trans _ _ _ led (relied request _ _ guaranteed)

-- From every store of the run the rely leads to the last.
theorem run_guarding_stores (server : Server κ σ ε α) (guarding : server.Guarding rely guar)
    (events : List (ServerEvent κ)) (serves : ∀ earlier request later, events = earlier ++ .arrives request :: later →
      rely server.store (server.run serve earlier).store →
      (serve request (server.run serve earlier).answers).Guarantees rely (guar request)
        (server.run serve earlier).store) :
    ∀ s ∈ server.stores serve events, rely s (server.run serve events).store := by
  induction events using List.reverseRecOn with
  | nil =>
      intro s member
      rw [List.mem_singleton.mp member]
      exact stutter _
  | append_singleton events event ih =>
      have serves' : ∀ earlier request later, events = earlier ++ .arrives request :: later →
        rely server.store (server.run serve earlier).store →
          (serve request (server.run serve earlier).answers).Guarantees rely (guar request)
            (server.run serve earlier).store :=
        fun earlier request later isPrefix => serves earlier request (later ++ [event]) (by simp [isPrefix])
      obtain ⟨led, kept⟩ := run_guarding serve rely guar stutter trans still relied server guarding events serves'
      obtain ⟨moved, _⟩ := step_guarding serve rely guar stutter trans still relied _ kept event
        fun request isArrival => serves events request [] (by rw [isArrival]) led
      have isStep : server.run serve (events ++ [event]) = (server.run serve events).step serve event :=
        List.foldl_append
      have onward : rely (server.run serve events).store (server.run serve (events ++ [event])).store := by
        rw [isStep]
        rcases moved with same | ⟨request, _, guaranteed⟩
        · rw [same]
          exact stutter _
        · exact relied request _ _ guaranteed
      intro s member
      rcases mem_stores_snoc serve server events event s member with seen | rfl
      · exact trans _ _ _ (ih serves' s seen) onward
      · exact stutter _

end Server

end Process
