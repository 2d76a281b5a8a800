import SurfaceStudio.Proofs.Console.InStep
import SurfaceStudio.Proofs.Console.Screen

/-!
# What is asked for and what is handled

Commands hand in jobs, and completions are collected.  The ledger of a session says how the two go
together: each query that was issued has been answered or is held by the engine, each request about
operations has been reported on or is held by the engine, and nothing is held besides.

  • `Session.jobs`, `Session.work_handle` — the jobs that a command hands in,
  • `Session.Ledger` — the invariant, for the jobs issued and the completions handled so far,
  • `Session.Ledger.handle`, `Session.Ledger.advance`, `Session.Ledger.collect` — what keeps it,
  • `Session.ledger_performAll` — **a whole run keeps it**.
-/

namespace SurfaceStudio

open Studio

namespace Session

/-! ## §1. Jobs. -/

/-- The jobs that an event brings. -/
def eventJobs (s : Session) (e : Event) : List Job := (s.studio.step e).outgoing.map .query

/-- The jobs that the contents of a file bring. -/
def loadJobs (s : Session) (answer : FileAnswer) : List Job :=
  match answer.text with
  | .ok text => s.eventJobs (.edit text)
  | .error _ => []

/-- **The jobs that a command hands in.** -/
def jobs (s : Session) (files : String → FileAnswer) : Command → List Job
  | .event e => s.eventJobs e
  | .chat query =>
    s.eventJobs (.typeChat query) ++ (s.dispatch (.typeChat query)).value.eventJobs .sendChat
  | .load path => s.loadJobs (files path)
  | .ops request => [.ops request]
  | _ => []

theorem value_handle_chat (s : Session) (files : String → FileAnswer) (query : String) :
    (s.handle files (.chat query)).value
      = ((s.dispatch (.typeChat query)).value.dispatch .sendChat).value := by
  rw [handle, Shown.value_bind]

theorem work_dispatch (s : Session) (e : Event) :
    (s.dispatch e).value.work = s.work.enqueue (s.eventJobs e) := by
  rw [value_dispatch]
  rfl

/-- **The jobs of a command are those that stand in the queue afterwards**, behind all others. -/
theorem work_handle (s : Session) (files : String → FileAnswer) (c : Command) :
    (s.handle files c).value.work = s.work.enqueue (s.jobs files c) := by
  cases c with
  | event e => exact s.work_dispatch e
  | chat query =>
    rw [value_handle_chat, work_dispatch, work_dispatch]
    exact (s.work.enqueue_append _ _).symm
  | load path =>
    show (s.load path (files path)).value.work = s.work.enqueue (s.loadJobs (files path))
    unfold load loadJobs
    cases (files path).text with
    | ok text => exact s.work_dispatch (.edit text)
    | error fault => exact s.work.enqueue_nil.symm
  | ops request => rfl
  | listTemplates => exact s.work.enqueue_nil.symm
  | showAll => exact s.work.enqueue_nil.symm
  | help => exact s.work.enqueue_nil.symm
  | quit => exact s.work.enqueue_nil.symm
  | invalid fault => exact s.work.enqueue_nil.symm

/-- A completion hands in nothing. -/
theorem work_receive (s : Session) (c : Completion) : (s.receive c).value.work = s.work := by
  cases c with
  | answered id result =>
    show (s.dispatch (receiveEvent id result)).value.work = s.work
    rw [work_dispatch]
    exact s.work.enqueue_nil
  | ops outcome => rfl

/-! ## §2. The ledger. -/

/-- **What is kept of the jobs issued and the completions handled so far**: studio and engine are
linked, and each request about operations has been handled or is held by the engine. -/
structure Ledger (s : Session) (issued : List Job) (handled : List Completion) : Prop where
  linked : s.Linked (issued.filterMap Job.id?) (handled.filterMap answerIn?)
  operations : (handled.filterMap Completion.request? ++ s.work.operations).Perm
    (issued.filterMap Job.request?)

variable {s : Session} {issued : List Job} {handled : List Completion}

theorem Ledger.congr (h : s.Ledger issued handled) {t : Session} (hstudio : t.studio = s.studio)
    (hwork : t.work = s.work) : t.Ledger issued handled where
  linked := h.linked.congr hstudio (by rw [hwork])
  operations := hwork ▸ h.operations

theorem Ledger.operations_enqueue (h : s.Ledger issued handled) (jobs : List Job) :
    (handled.filterMap Completion.request? ++ (s.work.enqueue jobs).operations).Perm
      ((issued ++ jobs).filterMap Job.request?) := by
  have henqueue : (s.work.enqueue jobs).operations.Perm
      (s.work.operations ++ jobs.filterMap Job.request?) := s.work.held_enqueue jobs
  refine (henqueue.append_left _).trans ?_
  rw [← List.append_assoc, List.filterMap_append]
  exact h.operations.append_right _

/-- An event of the user keeps the ledger, as long as there are ids left. -/
theorem Ledger.dispatch (h : s.Ledger issued handled) {e : Event} (he : e.FromUser)
    (hfew : ((issued ++ s.eventJobs e).filterMap Job.id?).length < 0xffffffffffffffff) :
    (s.dispatch e).value.Ledger (issued ++ s.eventJobs e) handled where
  linked := by
    rw [List.filterMap_append, eventJobs, Workload.filterMap_id?_queries] at hfew ⊢
    rw [List.length_append, List.length_map] at hfew
    exact h.linked.user he hfew
  operations := by
    rw [work_dispatch]
    exact h.operations_enqueue _

/-- A request about operations is handed in. -/
theorem Ledger.operate (h : s.Ledger issued handled) (request : OpsRequest) :
    ({ s with work := s.work.submit (.ops request) } : Session).Ledger
      (issued ++ [.ops request]) handled where
  linked := by
    rw [Workload.filterMap_id?_append_ops]
    exact h.linked.congr rfl (.of_eq (s.work.queryIds_submit_ops request))
  operations := h.operations_enqueue [.ops request]

/-- A step that hands in nothing leaves the ledger as it is. -/
theorem Ledger.kept (h : s.Ledger issued handled) {t : Session} (hstudio : t.studio = s.studio)
    (hwork : t.work = s.work) : t.Ledger (issued ++ []) handled := by
  rw [List.append_nil]
  exact h.congr hstudio hwork

/-- **A command keeps the ledger**, as long as there are ids left. -/
theorem Ledger.handle (h : s.Ledger issued handled) (files : String → FileAnswer) {c : Command}
    (hc : c.FromUser)
    (hfew : ((issued ++ s.jobs files c).filterMap Job.id?).length < 0xffffffffffffffff) :
    (s.handle files c).value.Ledger (issued ++ s.jobs files c) handled := by
  cases c with
  | event e => exact h.dispatch hc hfew
  | chat query =>
    have htype : Event.FromUser (.typeChat query) := nofun
    have hsend : Event.FromUser .sendChat := nofun
    have hjobs : issued ++ s.jobs files (.chat query) = (issued ++ s.eventJobs (.typeChat query))
        ++ (s.dispatch (.typeChat query)).value.eventJobs .sendChat :=
      (List.append_assoc _ _ _).symm
    rw [hjobs] at hfew ⊢
    -- What is typed sends nothing yet, so there are ids left for what is sent then.
    have hfirst : ((issued ++ s.eventJobs (.typeChat query)).filterMap Job.id?).length
        < 0xffffffffffffffff := by
      rw [List.filterMap_append, List.length_append] at hfew
      omega
    have htyped := h.dispatch htype hfirst
    rw [value_handle_chat]
    exact htyped.dispatch hsend hfew
  | load path =>
    have hedit : ∀ text, Event.FromUser (.edit text) := fun text => nofun
    have hjobs : s.jobs files (.load path) = s.loadJobs (files path) := rfl
    rw [hjobs] at hfew ⊢
    show (s.load path (files path)).value.Ledger _ handled
    unfold load
    unfold loadJobs at hfew ⊢
    cases htext : (files path).text with
    | ok text =>
      rw [htext] at hfew
      exact h.dispatch (hedit text) hfew
    | error fault => exact h.kept rfl rfl
  | ops request => exact h.operate request
  | listTemplates => exact h.kept rfl rfl
  | showAll => exact h.kept rfl rfl
  | help => exact h.kept rfl rfl
  | quit => exact h.kept rfl rfl
  | invalid fault => exact h.kept rfl rfl

/-- **Whatever the engine does keeps the ledger.** -/
theorem Ledger.advance (h : s.Ledger issued handled) (moves : List EngineMove) :
    (s.advance moves).value.Ledger issued handled where
  linked := h.linked.congr rfl (s.work.held_moves belongs_id? s.engine moves)
  operations :=
    ((s.work.held_moves belongs_request? s.engine moves).append_left _).trans h.operations

/-- Taking the completion that has waited for the longest time keeps the ledger. -/
theorem Ledger.receive (h : s.Ledger issued handled) {c : Completion} {others : List Completion}
    (hdone : s.work.done = c :: others) :
    (({ s with work := { s.work with done := others } } : Session).receive c).value.Ledger issued
      (handled ++ [c]) where
  linked := by
    rw [List.filterMap_append, Workload.filterMap_cons_eq_append, List.filterMap_nil,
      List.append_nil]
    exact h.linked.drain hdone
  operations := by
    have hcollected : s.work.operations.Perm (c.request?.toList
        ++ ({ s.work with done := others } : Workload).operations) := Workload.held_collected hdone
    rw [work_receive, List.filterMap_append, Workload.filterMap_cons_eq_append,
      List.filterMap_nil, List.append_nil, List.append_assoc]
    exact (hcollected.symm.append_left _).trans h.operations

/-- **Collecting everything that waits keeps the ledger.** -/
theorem Ledger.collect (h : s.Ledger issued handled) :
    s.collect.value.Ledger issued (handled ++ s.work.done) := by
  have hall : ∀ done t handled, (waiting t done).Ledger issued handled →
      ((waiting t []).receiveAll done).value.Ledger issued (handled ++ done) := by
    intro done
    induction done with
    | nil =>
      intro t handled ht
      rw [List.append_nil]
      exact ht
    | cons c others ih =>
      intro t handled ht
      have hfirst : ((t.waiting others).receive c).value.Ledger issued (handled ++ [c]) :=
        ht.receive rfl
      rw [value_receive_waiting] at hfirst
      have hothers := ih (t.receive c).value (handled ++ [c]) hfirst
      show ((((t.waiting []).receive c).value.receiveAll others).value).Ledger issued _
      rw [value_receive_waiting]
      rwa [List.append_assoc] at hothers
  exact hall s.work.done s handled h

/-! ## §3. Runs. -/

/-- The jobs that a step hands in. -/
def stepJobs (s : Session) : Step → List Job
  | .handle files command => s.jobs files command
  | _ => []

/-- **The jobs that are issued in steps**, in their order. -/
def runJobs (s : Session) : List Step → List Job
  | [] => []
  | step :: steps => s.stepJobs step ++ (s.perform step).value.runJobs steps

/-- The completions that are handled in a step. -/
def Step.completions : Step → List Completion
  | .collect done => done
  | _ => []

/-- **The completions that are handled in steps**, in their order. -/
def runCompletions (steps : List Step) : List Completion := steps.flatMap Step.completions

/-- The step can be taken: a command comes from the user, and what is collected is what has come
in. -/
def Admits (s : Session) : Step → Prop
  | .handle _ command => command.FromUser
  | .advance _ => True
  | .collect done => done = s.work.done

/-- The steps can be taken one after the other. -/
def AdmitsAll (s : Session) : List Step → Prop
  | [] => True
  | step :: steps => s.Admits step ∧ (s.perform step).value.AdmitsAll steps

theorem ledger_perform {s : Session} {before : List Job} {done : List Completion}
    (h : s.Ledger before done) {step : Step} (hstep : s.Admits step)
    (hfew : ((before ++ s.stepJobs step).filterMap Job.id?).length < 0xffffffffffffffff) :
    (s.perform step).value.Ledger (before ++ s.stepJobs step) (done ++ step.completions) := by
  cases step with
  | handle files command =>
    show Ledger _ _ (done ++ [])
    rw [List.append_nil]
    exact h.handle files hstep hfew
  | advance moves =>
    show Ledger _ (before ++ []) (done ++ [])
    rw [List.append_nil, List.append_nil]
    exact h.advance moves
  | collect completions =>
    have hcome : completions = s.work.done := hstep
    subst hcome
    show Ledger _ (before ++ []) _
    rw [List.append_nil]
    exact h.collect

/-- **A whole run keeps the ledger**, as long as there are ids left. -/
theorem ledger_performAll {s : Session} {before : List Job} {done : List Completion}
    (h : s.Ledger before done) {steps : List Step} (hsteps : s.AdmitsAll steps)
    (hfew : ((before ++ s.runJobs steps).filterMap Job.id?).length < 0xffffffffffffffff) :
    (s.performAll steps).value.Ledger (before ++ s.runJobs steps)
      (done ++ runCompletions steps) := by
  -- The ledger grows along the steps, so the statement is made of any of them.
  induction steps generalizing s before done with
  | nil =>
    show Ledger s (before ++ []) (done ++ [])
    rw [List.append_nil, List.append_nil]
    exact h
  | cons step steps ih =>
    obtain ⟨hstep, hothers⟩ := hsteps
    have hissued : before ++ s.runJobs (step :: steps)
        = (before ++ s.stepJobs step) ++ (s.perform step).value.runJobs steps :=
      (List.append_assoc _ _ _).symm
    have hhandled : done ++ runCompletions (step :: steps)
        = (done ++ step.completions) ++ runCompletions steps := by
      rw [runCompletions, List.flatMap_cons, ← List.append_assoc, runCompletions]
    rw [hissued] at hfew ⊢
    rw [hhandled]
    have hfirst : ((before ++ s.stepJobs step).filterMap Job.id?).length < 0xffffffffffffffff := by
      rw [List.filterMap_append, List.length_append] at hfew
      omega
    exact ih (ledger_perform h hstep hfirst) hothers hfew

/-! ## §4. Reports. -/

/-- What came of a request about operations. -/
def outcomeIn? : Completion → Option OpsOutcome
  | .answered _ _ => none
  | .ops outcome => some outcome

theorem filterMap_outcome?_eventBlocks (s : Session) (e : Event) :
    (s.eventBlocks e).filterMap Block.outcome? = [] := by
  unfold eventBlocks
  split
  · exact Presenter.filterMap_outcome?_newBlocks _ _
  · rfl

theorem filterMap_outcome?_commandBlocks (s : Session) (files : String → FileAnswer)
    (c : Command) : (s.commandBlocks files c).filterMap Block.outcome? = [] := by
  cases c with
  | event e => exact s.filterMap_outcome?_eventBlocks e
  | chat query =>
    show (_ ++ _ : List Block).filterMap Block.outcome? = []
    rw [List.filterMap_append, filterMap_outcome?_eventBlocks, filterMap_outcome?_eventBlocks]
    rfl
  | load path =>
    show (s.loadBlocks path (files path)).filterMap Block.outcome? = []
    unfold loadBlocks
    cases (files path).text with
    | ok text => exact s.filterMap_outcome?_eventBlocks (.edit text)
    | error fault => rfl
  | ops request => rfl
  | listTemplates => rfl
  | showAll => exact Presenter.filterMap_outcome?_newBlocks _ _
  | help => rfl
  | quit => rfl
  | invalid fault => rfl

theorem filterMap_outcome?_completionsBlocks (s : Session) (done : List Completion) :
    (s.completionsBlocks done).filterMap Block.outcome? = done.filterMap outcomeIn? := by
  induction done generalizing s with
  | nil => rfl
  | cons c others ih =>
    rw [completionsBlocks, List.filterMap_append, ih]
    cases c with
    | answered id result =>
      show (s.eventBlocks _).filterMap Block.outcome? ++ _ = _
      rw [filterMap_outcome?_eventBlocks]
      rfl
    | ops outcome => rfl

/-- **What is reported in a run is what came of the requests that were handled**, in the order in
which they were. -/
theorem filterMap_outcome?_runBlocks (s : Session) (steps : List Step) :
    (s.runBlocks steps).filterMap Block.outcome?
      = (runCompletions steps).filterMap outcomeIn? := by
  induction steps generalizing s with
  | nil => rfl
  | cons step steps ih =>
    rw [runBlocks, runCompletions, List.flatMap_cons, List.filterMap_append, List.filterMap_append,
      ih]
    cases step with
    | handle files command =>
      show (s.commandBlocks files command).filterMap Block.outcome? ++ _ = _
      rw [filterMap_outcome?_commandBlocks]
      rfl
    | advance moves => rfl
    | collect done =>
      show ((s.waiting []).completionsBlocks done).filterMap Block.outcome? ++ _ = _
      rw [filterMap_outcome?_completionsBlocks]
      rfl

/-! ## §5. The beginning. -/

/-- At the beginning nothing has been issued. -/
theorem ledger_start (engine : Engine) (historyWindow : Nat) (editor : Option String) :
    (start engine historyWindow editor).value.Ledger [] [] where
  linked := linked_start engine historyWindow editor
  operations := by
    have hidle : (start engine historyWindow editor).value.work = .idle := by
      cases editor with
      | none => rfl
      | some text =>
        show ((unseen engine historyWindow).dispatch (.edit text)).value.work = .idle
        rw [work_dispatch]
        exact Workload.enqueue_nil _
    rw [hidle]
    exact List.Perm.refl _

end Session

end SurfaceStudio
