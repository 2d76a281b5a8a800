import SurfaceStudio.Proofs.Console.Ledger

/-!
# How the console ends

When the input is closed, the console goes on until no query is under way.  By then every query that
was issued has been answered, and its answer stands in the transcript.  Requests about operations
are not waited for: each has been reported on, or the engine still holds it, and then its report is
never printed.

  • `Console.turnSteps`, `Console.runSteps` — the steps that the console makes,
  • `Console.session_run`, `Console.lines_run` — **a run of the console is a run of its session**,
  • `Console.isPending_of_ended` — it does not end before all queries are answered,
  • `Console.concluded_run` — **what has been handled at the end**.
-/

namespace SurfaceStudio

open Studio

/-! ## §1. Steps of the session. -/

namespace Session

/-- The engine goes on, and what has come in is collected. -/
def endSteps (s : Session) (moves : List EngineMove) : List Step :=
  [.advance moves, .collect (s.advance moves).value.work.done]

theorem lines_performAll_cons (s : Session) (step : Step) (steps : List Step) :
    (s.performAll (step :: steps)).lines
      = (s.perform step).lines ++ ((s.perform step).value.performAll steps).lines :=
  Shown.lines_bind _ _

theorem lines_performAll_append (s : Session) (before after : List Step) :
    (s.performAll (before ++ after)).lines
      = (s.performAll before).lines ++ ((s.performAll before).value.performAll after).lines := by
  induction before generalizing s with
  | nil => rfl
  | cons step steps ih =>
    rw [List.cons_append, lines_performAll_cons, ih, lines_performAll_cons, List.append_assoc]
    rfl

theorem admitsAll_endSteps (s : Session) (moves : List EngineMove) :
    s.AdmitsAll (s.endSteps moves) := ⟨trivial, rfl, trivial⟩

theorem AdmitsAll.append {s : Session} {before after : List Step} (h : s.AdmitsAll before)
    (hafter : (s.performAll before).value.AdmitsAll after) : s.AdmitsAll (before ++ after) := by
  induction before generalizing s with
  | nil => exact hafter
  | cons step steps ih =>
    obtain ⟨hstep, hothers⟩ := h
    exact ⟨hstep, ih hothers hafter⟩

end Session

/-- What comes in during a turn has been typed, and does not tell the console to end. -/
def Turn.IsTyped (t : Turn) : Prop :=
  ∀ command, t.input = some (.command command) →
    command ≠ .quit ∧ ∃ line, Command.parse? line = some command

namespace Console

/-! ## §2. Turns. -/

/-- **The steps of a turn.** -/
def turnSteps (files : String → FileAnswer) (c : Console) (t : Turn) : List Session.Step :=
  if c.ended then []
  else match t.input with
    | some (.command .quit) => []
    | some (.command command) =>
      .handle files command :: (c.session.handle files command).value.endSteps t.moves
    | _ => c.session.endSteps t.moves

/-- **What a turn can be**, and the steps that it is made up of. -/
inductive TurnKind (files : String → FileAnswer) (c : Console) (t : Turn) :
    Shown Console → List Session.Step → Prop
  /-- The console has ended. -/
  | ended (h : c.ended = true) : TurnKind files c t (pure c) []
  /-- It is told to end. -/
  | quit (h : t.input = some (.command .quit)) :
    TurnKind files c t (pure { c with ended := true }) []
  | command {command : Command} (h : t.input = some (.command command)) :
    TurnKind files c t
      (do
        let session ← c.session.handle files command
        { c with session }.endTurn t.moves)
      (.handle files command :: (c.session.handle files command).value.endSteps t.moves)
  /-- No command has come in, or there will be none any more. -/
  | idle (closed : Bool) : TurnKind files c t ({ c with closed }.endTurn t.moves)
      (c.session.endSteps t.moves)

/-- **Every turn is one of these.** -/
theorem turnKind (files : String → FileAnswer) (c : Console) (t : Turn) :
    TurnKind files c t (c.turn files t) (c.turnSteps files t) := by
  unfold turn turnSteps
  by_cases hended : c.ended = true
  · rw [if_pos hended, if_pos hended]
    exact .ended hended
  · rw [if_neg hended, if_neg hended]
    obtain ⟨input, moves⟩ := t
    cases input with
    | none => exact .idle c.closed
    | some input =>
      cases input with
      | closed => exact .idle true
      | command command =>
        cases command with
        | quit => exact .quit rfl
        | _ => exact .command rfl

/-- **A turn is a run of the session.** -/
theorem session_turn (files : String → FileAnswer) (c : Console) (t : Turn) :
    (c.turn files t).value.session = (c.session.performAll (c.turnSteps files t)).value := by
  have hkind := c.turnKind files t
  generalize c.turn files t = after, c.turnSteps files t = steps at hkind
  cases hkind with
  | ended h => rfl
  | quit h => rfl
  | command h => rfl
  | idle closed => rfl

theorem lines_turn (files : String → FileAnswer) (c : Console) (t : Turn) :
    (c.turn files t).lines = (c.session.performAll (c.turnSteps files t)).lines := by
  have hkind := c.turnKind files t
  generalize c.turn files t = after, c.turnSteps files t = steps at hkind
  cases hkind with
  | ended h => rfl
  | quit h => rfl
  | command h => rfl
  | idle closed => rfl

theorem admitsAll_turnSteps (files : String → FileAnswer) (c : Console) {t : Turn}
    (ht : t.IsTyped) : c.session.AdmitsAll (c.turnSteps files t) := by
  have hkind := c.turnKind files t
  generalize c.turn files t = after, c.turnSteps files t = steps at hkind
  cases hkind with
  | ended h => trivial
  | quit h => trivial
  | command h =>
    obtain ⟨-, line, hline⟩ := ht _ h
    have huser := Command.fromUser_of_parse? hline
    exact ⟨huser, Session.admitsAll_endSteps _ t.moves⟩
  | idle closed => exact c.session.admitsAll_endSteps t.moves

/-- **The console does not end before all queries are answered.** -/
theorem isPending_of_ended_turn (files : String → FileAnswer) {c : Console} {t : Turn}
    (hc : c.ended = true → c.session.studio.isPending = false) (ht : t.IsTyped)
    (h : (c.turn files t).value.ended = true) :
    (c.turn files t).value.session.studio.isPending = false := by
  have hkind := c.turnKind files t
  have hendTurn : ∀ (d : Console) (moves : List EngineMove),
      (d.endTurn moves).value.ended = true →
        (d.endTurn moves).value.session.studio.isPending = false := by
    intro d moves hended
    have hboth : (d.closed && !(d.endTurn moves).value.session.studio.isPending) = true := hended
    rw [Bool.and_eq_true, Bool.not_eq_true'] at hboth
    exact hboth.2
  generalize c.turn files t = after, c.turnSteps files t = steps at hkind h ⊢
  cases hkind with
  | ended hbefore => exact hc hbefore
  | quit hquit => exact absurd rfl (ht _ hquit).1
  | command hcommand => exact hendTurn _ t.moves h
  | idle closed => exact hendTurn _ t.moves h

/-! ## §3. Runs. -/

/-- **The steps of a run.** -/
def runSteps (files : String → FileAnswer) (c : Console) : List Turn → List Session.Step
  | [] => []
  | t :: ts => c.turnSteps files t ++ (c.turn files t).value.runSteps files ts

/-- **A run of the console is a run of its session.** -/
theorem session_run (files : String → FileAnswer) (c : Console) (turns : List Turn) :
    (c.run files turns).value.session = (c.session.performAll (c.runSteps files turns)).value := by
  induction turns generalizing c with
  | nil => rfl
  | cons t ts ih =>
    show ((c.turn files t).value.run files ts).value.session = _
    rw [ih, session_turn, runSteps, Session.value_performAll_append]

theorem lines_run (files : String → FileAnswer) (c : Console) (turns : List Turn) :
    (c.run files turns).lines = (c.session.performAll (c.runSteps files turns)).lines := by
  induction turns generalizing c with
  | nil => rfl
  | cons t ts ih =>
    show (c.turn files t >>= fun d => d.run files ts).lines = _
    rw [Shown.lines_bind, ih, lines_turn, session_turn, runSteps, Session.lines_performAll_append]

theorem admitsAll_runSteps (files : String → FileAnswer) (c : Console) {turns : List Turn}
    (h : ∀ t ∈ turns, t.IsTyped) : c.session.AdmitsAll (c.runSteps files turns) := by
  induction turns generalizing c with
  | nil => trivial
  | cons t ts ih =>
    have hfirst := c.admitsAll_turnSteps files (h t List.mem_cons_self)
    have hothers := ih (c.turn files t).value fun u hu => h u (List.mem_cons_of_mem t hu)
    rw [session_turn] at hothers
    exact hfirst.append hothers

theorem isPending_of_ended {files : String → FileAnswer} {c : Console} {turns : List Turn}
    (hc : c.ended = true → c.session.studio.isPending = false) (hturns : ∀ t ∈ turns, t.IsTyped)
    (h : (c.run files turns).value.ended = true) :
    (c.run files turns).value.session.studio.isPending = false := by
  induction turns generalizing c with
  | nil => exact hc h
  | cons t ts ih =>
    have hfirst := isPending_of_ended_turn files hc (hturns t List.mem_cons_self)
    exact ih hfirst (fun u hu => hturns u (List.mem_cons_of_mem t hu)) h

theorem runSteps_append (files : String → FileAnswer) (c : Console) (turns later : List Turn) :
    c.runSteps files (turns ++ later)
      = c.runSteps files turns ++ (c.run files turns).value.runSteps files later := by
  induction turns generalizing c with
  | nil => rfl
  | cons t ts ih =>
    show c.turnSteps files t ++ (c.turn files t).value.runSteps files (ts ++ later) = _
    rw [ih, ← List.append_assoc]
    rfl

/-- After the end no steps are made. -/
theorem runSteps_of_ended (files : String → FileAnswer) {c : Console} (h : c.ended = true)
    (turns : List Turn) : c.runSteps files turns = [] := by
  induction turns with
  | nil => rfl
  | cons t ts ih =>
    have hsteps : c.turnSteps files t = [] := if_pos h
    have hturn : c.turn files t = pure c := if_pos h
    rw [runSteps, hsteps, hturn]
    exact ih

/-! ## §4. The end. -/

/-- The jobs that are issued in a run. -/
def issued (files : String → FileAnswer) (c : Console) (turns : List Turn) : List Job :=
  c.session.runJobs (c.runSteps files turns)

/-- The completions that are handled in a run. -/
def handled (files : String → FileAnswer) (c : Console) (turns : List Turn) : List Completion :=
  Session.runCompletions (c.runSteps files turns)

/-- The blocks that are printed in a run. -/
def blocks (files : String → FileAnswer) (c : Console) (turns : List Turn) : List Block :=
  c.session.runBlocks (c.runSteps files turns)

/-- The requests about operations that are issued in a run. -/
def asked (files : String → FileAnswer) (c : Console) (turns : List Turn) : List OpsRequest :=
  (c.issued files turns).filterMap Job.request?

/-- The requests about operations whose completions are handled in a run. -/
def reported (files : String → FileAnswer) (c : Console) (turns : List Turn) : List OpsRequest :=
  (c.handled files turns).filterMap Completion.request?

/-- **What has been handled when the console has ended.** -/
structure Concluded (c : Console) (files : String → FileAnswer) (turns : List Turn) : Prop where
  /-- Each query that was issued has been answered, once. -/
  answered : ((c.handled files turns).filterMap Completion.id?).Perm
    ((c.issued files turns).filterMap Job.id?)
  /-- The answers stand in the transcript, in the order in which they were handled. -/
  entries : agentEntries (c.run files turns).value.session.studio.transcript
    = ((c.handled files turns).filterMap Session.answerIn?).map Session.Answer.entry
  /-- All that is printed is made up of these blocks. -/
  printed : (c.run files turns).lines = (c.blocks files turns).flatMap Block.lines
  /-- Each outcome that was handled is reported, in the same order. -/
  reports : (c.blocks files turns).filterMap Block.outcome?
    = (c.handled files turns).filterMap Session.outcomeIn?
  /-- Each request about operations has been reported on, or the engine still holds it. -/
  operations : (c.reported files turns ++ (c.run files turns).value.session.work.operations).Perm
    (c.asked files turns)
  /-- Nothing is lost exactly if the engine holds none. -/
  complete : (c.reported files turns).Perm (c.asked files turns)
    ↔ (c.run files turns).value.session.work.operations = []
  /-- What the engine holds then is never handled. -/
  nothingLater : ∀ later, c.handled files (turns ++ later) = c.handled files turns

theorem map_fst_filterMap_answerIn? (done : List Completion) :
    (done.filterMap Session.answerIn?).map (·.1) = done.filterMap Completion.id? := by
  rw [List.map_filterMap]
  refine congrArg (fun f => done.filterMap f) (funext fun c => ?_)
  cases c with
  | answered id result => rfl
  | ops outcome => rfl

/-- **What has been handled when the console has ended because the input is closed.**  All queries
have been answered; of the requests about operations those are lost that the engine still holds. -/
theorem concluded_run (files : String → FileAnswer) (engine : Engine) (historyWindow : Nat)
    (editor : Option String) {turns : List Turn} (hturns : ∀ t ∈ turns, t.IsTyped)
    (hfew : (((start engine historyWindow editor).value.issued files turns).filterMap
      Job.id?).length < 0xffffffffffffffff)
    (hended : ((start engine historyWindow editor).value.run files turns).value.ended = true) :
    (start engine historyWindow editor).value.Concluded files turns := by
  generalize hc : (start engine historyWindow editor).value = c at hfew hended ⊢
  have hsession : c.session = (Session.start engine historyWindow editor).value := by rw [← hc]; rfl
  have hopen : c.ended = false := by rw [← hc]; rfl
  have hcurrent : c.session.IsCurrent := by
    rw [hsession]
    exact (Session.displays_start engine historyWindow editor).current
  have hledger : (c.run files turns).value.session.Ledger (c.issued files turns)
      (c.handled files turns) := by
    rw [session_run]
    have hstart : c.session.Ledger [] [] := by
      rw [hsession]
      exact Session.ledger_start engine historyWindow editor
    exact Session.ledger_performAll hstart (c.admitsAll_runSteps files hturns) hfew
  have hidle : (c.run files turns).value.session.work.queryIds = [] := by
    have hnothing : c.ended = true → c.session.studio.isPending = false := by
      intro hbefore
      rw [hopen] at hbefore
      cases hbefore
    exact hledger.linked.isPending_eq_false_iff.1 (isPending_of_ended hnothing hturns hended)
  exact {
    answered := by
      have hheld := hledger.linked.held
      rwa [hidle, List.append_nil, map_fst_filterMap_answerIn?] at hheld
    entries := hledger.linked.entries
    printed := by
      rw [lines_run]
      exact (Session.current_performAll hcurrent _).2
    reports := c.session.filterMap_outcome?_runBlocks _
    operations := hledger.operations
    complete := by
      have hlength := hledger.operations.length_eq
      rw [List.length_append] at hlength
      constructor
      · intro hall
        have hsame := hall.length_eq
        unfold asked reported at hsame
        exact List.length_eq_zero_iff.1 (by omega)
      · intro hnone
        have hall := hledger.operations
        rwa [hnone, List.append_nil] at hall
    nothingLater := by
      intro later
      unfold handled
      rw [runSteps_append, runSteps_of_ended files hended, List.append_nil] }

/-- The health of the backend is asked for, the engine does this, and the input is closed. -/
def healthThenClosed (moves : List EngineMove) : List Turn :=
  [⟨some (.command (.ops .health)), moves⟩, ⟨some .closed, []⟩]

theorem isTyped_healthThenClosed (moves : List EngineMove) :
    ∀ t ∈ healthThenClosed moves, t.IsTyped := by
  intro t ht
  have hcases : t = ⟨some (.command (.ops .health)), moves⟩ ∨ t = ⟨some .closed, []⟩ := by
    simpa [healthThenClosed] using ht
  obtain rfl | rfl := hcases
  · rintro command ⟨⟩
    exact ⟨nofun, ":health", rfl⟩
  · exact nofun

/-- The engine answers in time. -/
theorem concluded_run_inTime :
    (start (.ofBackend (.simulated 0)) 5 none).value.Concluded (fun _ => .error .notFound)
      (healthThenClosed [.takeUp, .finish 0 .unreachable]) :=
  concluded_run _ _ _ _ (isTyped_healthThenClosed _) (by decide) rfl

/-- **A request about operations can be lost**: if the engine has not answered when the input is
closed, the console ends and reports on nothing. -/
theorem not_reported_healthThenClosed :
    (∀ t ∈ healthThenClosed [], t.IsTyped)
    ∧ ((start (.ofBackend (.simulated 0)) 5 none).value.run (fun _ => .error .notFound)
        (healthThenClosed [])).value.ended = true
    ∧ ¬ ∀ request ∈ (start (.ofBackend (.simulated 0)) 5 none).value.asked
          (fun _ => .error .notFound) (healthThenClosed []),
        request ∈ (start (.ofBackend (.simulated 0)) 5 none).value.reported
          (fun _ => .error .notFound) (healthThenClosed []) := by
  refine ⟨isTyped_healthThenClosed [], rfl, ?_⟩
  intro hall
  have hasked : OpsRequest.health ∈ (start (.ofBackend (.simulated 0)) 5 none).value.asked
      (fun _ => .error .notFound) (healthThenClosed []) := List.mem_singleton.2 rfl
  have hreported : OpsRequest.health ∈ ([] : List OpsRequest) := hall _ hasked
  exact List.not_mem_nil hreported

end Console

end SurfaceStudio
