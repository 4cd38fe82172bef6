import AuthProfile.Process.Cut
import AuthProfile.Process.Keeps

set_option autoImplicit false

-- A server: requests come in at any time, are served from what has been answered by
-- then, and the actions of those under way interleave.
namespace Process

variable {κ σ τ ε α β : Type}

namespace Prog

-- Over stores to rely on, every action keeps to the guarantee and what the program comes
-- to is fit.
def Meets (rely : σ → Prop) (guar : σ → σ → Prop) (fit : Except ε α → Prop) : Prog σ ε α → Prop
  | .ret value => fit (.ok value)
  | .raise error => fit (.error error)
  | .act effect next failed =>
      ∀ s, rely s → guar s (effect s) ∧ (rely (effect s) → (next s).Meets rely guar fit) ∧ failed.Meets rely guar fit

section Rules

variable (rely : σ → Prop) (guar : σ → σ → Prop)

theorem meets_mono (fit weaker : Except ε α → Prop) (p : Prog σ ε α) (implied : ∀ result, fit result → weaker result)
    (met : p.Meets rely guar fit) : p.Meets rely guar weaker := by
  induction p with
  | ret value => exact implied _ met
  | raise error => exact implied _ met
  | act effect next failed ihNext ihFailed =>
      intro s relied
      obtain ⟨moved, through, refused⟩ := met s relied
      exact ⟨moved, fun still => ihNext s (through still), ihFailed refused⟩

theorem meets_widen (wider : σ → σ → Prop) (within : ∀ s s', rely s → guar s s' → wider s s') (fit : Except ε α → Prop)
    (p : Prog σ ε α) (met : p.Meets rely guar fit) : p.Meets rely wider fit := by
  induction p with
  | ret value => exact met
  | raise error => exact met
  | act effect next failed ihNext ihFailed =>
      intro s relied
      obtain ⟨moved, through, refused⟩ := met s relied
      exact ⟨within _ _ relied moved, fun still => ihNext s (through still), ihFailed refused⟩

theorem meets_bind (fit : Except ε β → Prop) (p : Prog σ ε α) (rest : α → Prog σ ε β)
    (met : p.Meets rely guar fun result => match result with
      | .ok value => (rest value).Meets rely guar fit
      | .error error => fit (.error error)) : (p >>= rest).Meets rely guar fit := by
  induction p with
  | ret value => exact met
  | raise error => exact met
  | act effect next failed ihNext ihFailed =>
      intro s relied
      obtain ⟨moved, through, refused⟩ := met s relied
      exact ⟨moved, fun still => ihNext s (through still), ihFailed refused⟩

theorem meets_and (guar' : σ → σ → Prop) (fit fit' : Except ε α → Prop) (p : Prog σ ε α) (met : p.Meets rely guar fit)
    (met' : p.Meets rely guar' fit') : p.Meets rely (fun s s' => guar s s' ∧ guar' s s') fun result => fit result ∧
      fit' result := by
  induction p with
  | ret value => exact ⟨met, met'⟩
  | raise error => exact ⟨met, met'⟩
  | act effect next failed ihNext ihFailed =>
      intro s relied
      obtain ⟨moved, through, refused⟩ := met s relied
      obtain ⟨moved', through', refused'⟩ := met' s relied
      exact ⟨⟨moved, moved'⟩, fun still => ihNext s (through still) (through' still), ihFailed refused refused'⟩

-- What is fit whatever happens is a matter of the actions alone.
theorem meets_of_steps (small : σ → σ → Prop) (fit : Except ε α → Prop) (p : Prog σ ε α) (steps : p.Steps small)
    (within : ∀ s s', rely s → small s s' → guar s s') (every : ∀ result, fit result) : p.Meets rely guar fit := by
  induction p with
  | ret value => exact every _
  | raise error => exact every _
  | act effect next failed ihNext ihFailed =>
      obtain ⟨moved, through, refused⟩ := steps
      exact fun s relied => ⟨within _ _ relied (moved s), fun _ => ihNext s (through s), ihFailed refused⟩

theorem meets_steps_bind (small : σ → σ → Prop) (fit : Except ε β → Prop) (p : Prog σ ε α) (rest : α → Prog σ ε β)
    (steps : p.Steps small) (within : ∀ s s', rely s → small s s' → guar s s') (failed : ∀ error, fit (.error error))
    (later : ∀ value, (rest value).Meets rely guar fit) : (p >>= rest).Meets rely guar fit := by
  refine meets_bind rely guar fit p rest (meets_of_steps rely guar small _ p steps within fun result => ?_)
  cases result with
  | ok value => exact later value
  | error error => exact failed error

theorem meets_query_bind (still : ∀ s, guar s s) (fit : Except ε α → Prop) (lost : ε) (view : σ → β)
    (rest : β → Prog σ ε α) (onLost : fit (.error lost)) (later : ∀ s, rely s → (rest (view s)).Meets rely guar fit) :
    (query lost view >>= rest).Meets rely guar fit :=
  fun s relied => ⟨still s, fun _ => later s relied, onLost⟩

-- A program whose value is rendered at the end.
theorem meets_rendered (fit : Except ε β → Prop) (p : Prog σ ε α) (render : α → β)
    (met : p.Meets rely guar fun result => fit (result.map render)) :
    (p >>= fun value => pure (render value)).Meets rely guar fit := by
  refine meets_bind rely guar fit p _ (meets_mono rely guar _ _ p (fun result fits => ?_) met)
  cases result with
  | ok value => exact fits
  | error error => exact fits

theorem meets_focus (lens : Lens τ σ) (relyLarge : τ → Prop) (guarLarge : τ → τ → Prop)
    (narrows : ∀ t, relyLarge t → rely (lens.get t))
    (widens : ∀ t s, relyLarge t → guar (lens.get t) s → guarLarge t (lens.set t s)) (fit : Except ε α → Prop)
    (p : Prog σ ε α) (met : p.Meets rely guar fit) : (p.focus lens).Meets relyLarge guarLarge fit := by
  induction p with
  | ret value => exact met
  | raise error => exact met
  | act effect next failed ihNext ihFailed =>
      intro t relied
      obtain ⟨moved, through, refused⟩ := met (lens.get t) (narrows t relied)
      refine ⟨widens t _ relied moved, fun still => ihNext _ (through ?_), ihFailed refused⟩
      have narrowed := narrows _ still
      rwa [lens.get_set] at narrowed

-- The store that an action leaves is the one before it or within the guarantee.
theorem meets_advance (fit : Except ε α → Prop) (p : Prog σ ε α) (fault : Fault) (s : σ) (met : p.Meets rely guar fit)
    (relied : rely s) :
    ((p.advance fault s).2 = s ∨ guar s (p.advance fault s).2) ∧
      (rely (p.advance fault s).2 → (p.advance fault s).1.Meets rely guar fit) := by
  cases p with
  | ret value => exact ⟨Or.inl rfl, fun _ => met⟩
  | raise error => exact ⟨Or.inl rfl, fun _ => met⟩
  | act effect next failed =>
      obtain ⟨moved, through, refused⟩ := met s relied
      cases fault with
      | none => exact ⟨Or.inr moved, through⟩
      | before => exact ⟨Or.inl rfl, fun _ => refused⟩
      | after => exact ⟨Or.inr moved, fun _ => refused⟩

theorem meets_finished (fit : Except ε α → Prop) (p : Prog σ ε α) (result : Except ε α) (met : p.Meets rely guar fit)
    (done : p.finished = some result) : fit result := by
  cases p with
  | ret value =>
      cases done
      exact met
  | raise error =>
      cases done
      exact met
  | act effect next failed => cases done

end Rules

theorem gives_up_focus (lens : Lens τ σ) (p : Prog σ ε α) (givesUp : p.GivesUp) : (p.focus lens).GivesUp := by
  induction p with
  | ret value => trivial
  | raise error => trivial
  | act effect next failed ihNext ihFailed =>
      obtain ⟨⟨error, isRaise⟩, later⟩ := givesUp
      exact ⟨⟨error, by rw [isRaise]; rfl⟩, fun t => ihNext _ (later _)⟩

-- The program changes nothing, and the first failure ends it.
structure Reads (p : Prog σ ε α) : Prop where
  steps : p.Steps fun before after => after = before
  givesUp : p.GivesUp

theorem reads_pure (value : α) : (pure value : Prog σ ε α).Reads := ⟨trivial, trivial⟩

theorem reads_raise (error : ε) : (raise error : Prog σ ε α).Reads := ⟨trivial, trivial⟩

theorem reads_bind (p : Prog σ ε α) (rest : α → Prog σ ε β) (first : p.Reads) (later : ∀ value, (rest value).Reads) :
    (p >>= rest).Reads :=
  ⟨steps_bind _ p rest first.steps fun value => (later value).steps,
    gives_up_bind p rest first.givesUp fun value => (later value).givesUp⟩

theorem reads_ite (condition : Prop) [Decidable condition] (p q : Prog σ ε α) (holds : p.Reads) (fails : q.Reads) :
    (if condition then p else q).Reads := by
  split
  · exact holds
  · exact fails

theorem reads_query (lost : ε) (view : σ → β) : (query lost view : Prog σ ε β).Reads :=
  ⟨steps_query _ (fun _ => rfl) lost view, gives_up_query lost view⟩

theorem reads_of_except (computed : Except ε α) : (ofExcept computed : Prog σ ε α).Reads := by
  cases computed with
  | ok value => exact ⟨trivial, trivial⟩
  | error error => exact ⟨trivial, trivial⟩

theorem reads_focus (lens : Lens τ σ) (p : Prog σ ε α) (reads : p.Reads) : (p.focus lens).Reads :=
  ⟨steps_focus lens _ _ (fun t s' same => by rw [same, lens.set_get]) p reads.steps,
    gives_up_focus lens p reads.givesUp⟩

theorem reads_exec (p : Prog σ ε α) (reads : p.Reads) (script : List Fault) (s : σ) : (p.exec script s).store = s :=
  steps_exec (fun before after => after = before) (fun _ => rfl) (fun _ _ _ first later => later.trans first) p
    reads.steps script s

theorem reads_meets (rely : σ → Prop) (guar : σ → σ → Prop) (still : ∀ s, guar s s) (fit : Except ε α → Prop)
    (p : Prog σ ε α) (reads : p.Reads) (every : ∀ result, fit result) : p.Meets rely guar fit :=
  meets_of_steps rely guar _ fit p reads.steps (fun _ _ _ same => same ▸ still _) every

theorem steps_mono (small large : σ → σ → Prop) (within : ∀ s s', small s s' → large s s') (p : Prog σ ε α)
    (steps : p.Steps small) :
    p.Steps large := by
  induction p with
  | ret value => trivial
  | raise error => trivial
  | act effect next failed ihNext ihFailed =>
      obtain ⟨moved, through, refused⟩ := steps
      exact ⟨fun s => within _ _ (moved s), fun s => ihNext s (through s), ihFailed refused⟩

theorem steps_attempt (guar : σ → σ → Prop) (p : Prog σ ε α) (steps : p.Steps guar) : p.attempt.Steps guar := by
  induction p with
  | ret value => trivial
  | raise error => trivial
  | act effect next failed ihNext ihFailed =>
      obtain ⟨moved, through, refused⟩ := steps
      exact ⟨moved, fun s => ihNext s (through s), ihFailed refused⟩

theorem steps_ite (guar : σ → σ → Prop) (condition : Prop) [Decidable condition] (p q : Prog σ ε α)
    (holds : p.Steps guar) (fails : q.Steps guar) : (if condition then p else q).Steps guar := by
  split
  · exact holds
  · exact fails

theorem steps_of_meets (store : σ) (guar : σ → σ → Prop) (fit : Except ε α → Prop) (p : Prog σ ε α)
    (met : p.Meets (fun _ => True) guar fit) : p.Steps guar := by
  induction p with
  | ret value => trivial
  | raise error => trivial
  | act effect next failed ihNext ihFailed =>
      exact ⟨fun s => (met s trivial).1, fun s => ihNext s ((met s trivial).2.1 trivial),
        ihFailed (met store trivial).2.2⟩

theorem steps_anything (p : Prog σ ε α) : p.Steps fun _ _ => True := by
  induction p with
  | ret value => trivial
  | raise error => trivial
  | act effect next failed ihNext ihFailed => exact ⟨fun _ => trivial, ihNext, ihFailed⟩

end Prog

structure Server (κ σ ε α : Type) where
  store : σ
  running : List (κ × Prog σ ε α)
  answers : List (κ × Except ε α)

-- Running programs are addressed by their place in the list.
inductive ServerEvent (κ : Type) where
  | arrives (request : κ)
  | moves (place : Nat) (fault : Fault)

namespace Server

-- A program with no action left has answered.
def enter (server : Server κ σ ε α) (request : κ) (p : Prog σ ε α) : Server κ σ ε α :=
  match p.finished with
  | some result => { server with answers := server.answers ++ [(request, result)] }
  | none => { server with running := server.running ++ [(request, p)] }

section Run

variable (serve : κ → List (κ × Except ε α) → Prog σ ε α)

def step (server : Server κ σ ε α) : ServerEvent κ → Server κ σ ε α
  | .arrives request => server.enter request (serve request server.answers)
  | .moves place fault =>
      match server.running[place]? with
      | none => server
      | some (request, p) =>
          let moved := p.advance fault server.store
          { server with store := moved.2, running := server.running.eraseIdx place }.enter request moved.1

def run (server : Server κ σ ε α) (events : List (ServerEvent κ)) : Server κ σ ε α := events.foldl (step serve) server

-- Whose action an event is.
def mover (server : Server κ σ ε α) : ServerEvent κ → Option κ
  | .arrives _ => none
  | .moves place _ => server.running[place]?.map Prod.fst

-- The stores that a run passes through.
def stores (server : Server κ σ ε α) : List (ServerEvent κ) → List σ
  | [] => [server.store]
  | event :: events => server.store :: (server.step serve event).stores events

variable (rely : σ → Prop) (guar : κ → σ → σ → Prop) (fit : κ → Except ε α → Prop)

structure Meeting (server : Server κ σ ε α) : Prop where
  running : ∀ pair ∈ server.running, pair.2.Meets rely (guar pair.1) (fit pair.1)
  answers : ∀ pair ∈ server.answers, fit pair.1 pair.2

theorem idle_meeting (store : σ) : Meeting rely guar fit (⟨store, [], []⟩ : Server κ σ ε α) := by
  refine ⟨fun _ member => ?_, fun _ member => ?_⟩
  · cases member
  · cases member

theorem enter_meeting (server : Server κ σ ε α) (meeting : server.Meeting rely guar fit) (request : κ) (p : Prog σ ε α)
    (met : p.Meets rely (guar request) (fit request)) : (server.enter request p).Meeting rely guar fit := by
  rw [enter]
  cases done : p.finished with
  | none =>
      refine ⟨fun pair member => ?_, meeting.answers⟩
      rcases List.mem_append.mp member with old | new
      · exact meeting.running pair old
      · rw [List.mem_singleton.mp new]
        exact met
  | some result =>
      refine ⟨meeting.running, fun pair member => ?_⟩
      rcases List.mem_append.mp member with old | new
      · exact meeting.answers pair old
      · rw [List.mem_singleton.mp new]
        exact Prog.meets_finished rely (guar request) (fit request) p result met done

theorem enter_store (server : Server κ σ ε α) (request : κ) (p : Prog σ ε α) :
    (server.enter request p).store = server.store := by
  rw [enter]
  cases p.finished with
  | none => rfl
  | some result => rfl

-- The store moves by the guarantee of the request whose action it is.
theorem step_meeting (server : Server κ σ ε α) (relied : rely server.store) (meeting : server.Meeting rely guar fit)
    (event : ServerEvent κ) (serves : ∀ request, event = .arrives request →
      (serve request server.answers).Meets rely (guar request) (fit request)) :
    ((server.step serve event).store = server.store ∨
        ∃ request, server.mover event = some request ∧ guar request server.store (server.step serve event).store) ∧
      (rely (server.step serve event).store → (server.step serve event).Meeting rely guar fit) := by
  cases event with
  | arrives request =>
      refine ⟨Or.inl (enter_store server request _), fun _ => ?_⟩
      exact enter_meeting rely guar fit server meeting request _ (serves request rfl)
  | moves place fault =>
      rw [step, mover]
      cases here : server.running[place]? with
      | none => exact ⟨Or.inl rfl, fun _ => meeting⟩
      | some pair =>
          obtain ⟨moved, met⟩ := Prog.meets_advance rely (guar pair.1) (fit pair.1) pair.2 fault server.store
            (meeting.running pair (List.mem_of_getElem? here)) relied
          have resumed : Meeting rely guar fit
              { server with store := (pair.2.advance fault server.store).2, running :=
                server.running.eraseIdx place } :=
            ⟨fun other member => meeting.running other (List.mem_of_mem_eraseIdx member), meeting.answers⟩
          dsimp only
          rw [enter_store]
          exact ⟨moved.imp_right fun guaranteed => ⟨pair.1, rfl, guaranteed⟩, fun still =>
            enter_meeting rely guar fit _ resumed pair.1 _ (met still)⟩

theorem store_mem_stores (server : Server κ σ ε α) (events : List (ServerEvent κ)) :
    server.store ∈ server.stores serve events := by
  cases events with
  | nil => exact List.mem_cons_self
  | cons event events => exact List.mem_cons_self

-- However requests come in and interleave over stores to rely on.
theorem run_meeting (server : Server κ σ ε α) (meeting : server.Meeting rely guar fit) (events : List (ServerEvent κ))
    (relied : ∀ s ∈ server.stores serve events, rely s)
    (serves : ∀ request answers, .arrives request ∈ events → (∀ pair ∈ answers, fit pair.1 pair.2) →
      (serve request answers).Meets rely (guar request) (fit request)) : (server.run serve events).Meeting rely
        guar fit := by
  induction events generalizing server with
  | nil => exact meeting
  | cons event events ih =>
      have later : ∀ s ∈ (server.step serve event).stores serve events, rely s :=
        fun s member => relied s (List.mem_cons_of_mem _ member)
      obtain ⟨_, still⟩ := step_meeting serve rely guar fit server (relied _ List.mem_cons_self) meeting event
        fun request isArrival => serves request server.answers (isArrival ▸ List.mem_cons_self) meeting.answers
      exact ih _ (still (later _ (store_mem_stores serve _ events))) later fun request answers member =>
        serves request answers (List.mem_cons_of_mem _ member)

-- What every guarantee keeps holds of every store of the run.
theorem run_kept (inv : σ → Prop) (kept : ∀ request s s', rely s → guar request s s' → inv s → inv s')
    (server : Server κ σ ε α)
    (holds : inv server.store) (meeting : server.Meeting rely guar fit) (events : List (ServerEvent κ))
    (relied : ∀ s ∈ server.stores serve events, rely s)
    (serves : ∀ request answers, .arrives request ∈ events → (∀ pair ∈ answers, fit pair.1 pair.2) →
      (serve request answers).Meets rely (guar request) (fit request)) : ∀ s ∈ server.stores serve events, inv s := by
  induction events generalizing server with
  | nil =>
      intro s member
      rw [List.mem_singleton.mp member]
      exact holds
  | cons event events ih =>
      have here : rely server.store := relied _ List.mem_cons_self
      have later : ∀ s ∈ (server.step serve event).stores serve events, rely s :=
        fun s member => relied s (List.mem_cons_of_mem _ member)
      obtain ⟨moved, still⟩ := step_meeting serve rely guar fit server here meeting event fun request isArrival =>
        serves request server.answers (isArrival ▸ List.mem_cons_self) meeting.answers
      have next : inv (server.step serve event).store := by
        rcases moved with same | ⟨request, _, guaranteed⟩
        · rw [same]
          exact holds
        · exact kept request _ _ here guaranteed holds
      intro s member
      rcases List.mem_cons.mp member with isFirst | isLater
      · rw [isFirst]
        exact holds
      · exact ih _ next (still (later _ (store_mem_stores serve _ events))) later
          (fun request answers arrives => serves request answers (List.mem_cons_of_mem _ arrives)) s isLater

-- What every guarantee moves along relates each store of the run to the last.
theorem run_reaches (reaches : σ → σ → Prop) (still : ∀ s, reaches s s)
    (trans : ∀ a b c, reaches a b → reaches b c → reaches a c)
    (moves : ∀ request s s', rely s → guar request s s' → reaches s s') (server : Server κ σ ε α)
    (meeting : server.Meeting rely guar fit)
    (events : List (ServerEvent κ)) (relied : ∀ s ∈ server.stores serve events, rely s)
    (serves : ∀ request answers, .arrives request ∈ events → (∀ pair ∈ answers, fit pair.1 pair.2) →
      (serve request answers).Meets rely (guar request) (fit request)) :
    ∀ s ∈ server.stores serve events, reaches s (server.run serve events).store := by
  induction events generalizing server with
  | nil =>
      intro s member
      rw [List.mem_singleton.mp member]
      exact still _
  | cons event events ih =>
      have here : rely server.store := relied _ List.mem_cons_self
      have later : ∀ s ∈ (server.step serve event).stores serve events, rely s :=
        fun s member => relied s (List.mem_cons_of_mem _ member)
      obtain ⟨moved, meets⟩ := step_meeting serve rely guar fit server here meeting event fun request isArrival =>
        serves request server.answers (isArrival ▸ List.mem_cons_self) meeting.answers
      have onward := ih _ (meets (later _ (store_mem_stores serve _ events))) later fun request answers arrives =>
        serves request answers (List.mem_cons_of_mem _ arrives)
      intro s member
      rcases List.mem_cons.mp member with isFirst | isLater
      · refine isFirst ▸ trans _ _ _ ?_ (onward _ (store_mem_stores serve _ events))
        rcases moved with same | ⟨request, _, guaranteed⟩
        · rw [same]
          exact still _
        · exact moves request _ _ here guaranteed
      · exact onward s isLater

theorem mem_stores_run (server : Server κ σ ε α) (events : List (ServerEvent κ)) :
    (server.run serve events).store ∈ server.stores serve events := by
  induction events generalizing server with
  | nil => exact List.mem_cons_self
  | cons event events ih => exact List.mem_cons_of_mem _ (ih _)

theorem mem_stores_snoc (server : Server κ σ ε α) (events : List (ServerEvent κ)) (event : ServerEvent κ) :
    ∀ s ∈ server.stores serve (events ++ [event]), s ∈ server.stores serve events ∨
      s = (server.run serve (events ++ [event])).store := by
  induction events generalizing server with
  | nil =>
      intro s member
      rcases List.mem_cons.mp member with isFirst | isLast
      · exact Or.inl (List.mem_singleton.mpr isFirst)
      · exact Or.inr (List.mem_singleton.mp isLast)
  | cons earlier events ih =>
      intro s member
      rcases List.mem_cons.mp member with isFirst | isLater
      · exact Or.inl (List.mem_cons.mpr (Or.inl isFirst))
      · exact (ih _ s isLater).imp_left (List.mem_cons_of_mem _)

theorem stores_run_append (server : Server κ σ ε α) (events later : List (ServerEvent κ)) :
    ∀ s ∈ server.stores serve events, s ∈ server.stores serve (events ++ later) := by
  induction events generalizing server with
  | nil =>
      intro s member
      rw [List.mem_singleton.mp member]
      exact store_mem_stores serve server later
  | cons event events ih =>
      intro s member
      rcases List.mem_cons.mp member with isFirst | isLater
      · exact List.mem_cons.mpr (Or.inl isFirst)
      · exact List.mem_cons_of_mem _ (ih _ s isLater)

section Invariant

variable (inv : σ → Prop)

-- An invariant that every action keeps may be relied on.
theorem run_sound (server : Server κ σ ε α) (holds : inv server.store)
    (meeting : server.Meeting inv (fun _ _ after => inv after) fit) (events : List (ServerEvent κ))
    (serves : ∀ request answers, .arrives request ∈ events → (∀ pair ∈ answers, fit pair.1 pair.2) →
      (serve request answers).Meets inv (fun _ after => inv after) (fit request)) :
    (∀ s ∈ server.stores serve events, inv s) ∧ ∀ pair ∈ (server.run serve events).answers, fit pair.1 pair.2 := by
  induction events generalizing server with
  | nil => exact ⟨fun s member => List.mem_singleton.mp member ▸ holds, meeting.answers⟩
  | cons event events ih =>
      obtain ⟨moved, still⟩ := step_meeting serve inv (fun _ _ after => inv after) fit server holds meeting event
        fun request isArrival => serves request server.answers (isArrival ▸ List.mem_cons_self) meeting.answers
      have kept : inv (server.step serve event).store := by
        rcases moved with same | ⟨_, _, kept⟩
        · rw [same]
          exact holds
        · exact kept
      obtain ⟨later, fits⟩ := ih _ kept (still kept) fun request answers member =>
        serves request answers (List.mem_cons_of_mem _ member)
      refine ⟨fun s member => ?_, fits⟩
      rcases List.mem_cons.mp member with isFirst | isLater
      · exact isFirst ▸ holds
      · exact later s isLater

end Invariant

end Run

end Server

end Process
