import SurfaceStudio.Console.Loop
import SurfaceStudio.Proofs.Backend.Workload
import SurfaceStudio.Proofs.Console.Directives
import SurfaceStudio.Proofs.Studio.Requests

/-!
# What happens to a session

A session is moved by the user and by the engine, and neither waits for the other.  Everything that
happens to it is made up of five kinds of moves: the user lets an event happen in the studio, hands
in a request about operations, or has everything printed; the engine does something; and the
completion that has waited for the longest time is collected.

  • `Session.Move`, `Session.after`, `Session.reach` — the moves, and where they lead,
  • `Session.sent`, `Session.drained` — what is sent and what is collected on the way,
  • `Session.value_dispatch` — **what an event does to both sides**,
  • `Session.reaches_handle`, `Session.reaches_advance`, `Session.reaches_collect` — whatever a
    session does is made up of moves,
  • `Console.reaches_run` — **the console reaches no other sessions**.
-/

namespace SurfaceStudio

open Studio

/-! ## §1. The user. -/

/-- The event comes from the user: it is not the answer to a request. -/
def Studio.Event.FromUser (e : Event) : Prop := ∀ id answer, e ≠ .receive id answer

/-- The command lets no event happen but one that comes from the user. -/
def Command.FromUser : Command → Prop
  | .event e => e.FromUser
  | _ => True

/-- A word names an event of the editor, or something that is no event. -/
theorem Command.fromUser_named (word argument : String) : (named word argument).FromUser := by
  have hnamed := directive_named word argument
  generalize named word argument = c at hnamed
  cases hnamed with
  | editorMode | agentMode | json | template | next => exact nofun
  | _ => trivial

/-- **Whatever is typed in comes from the user.** -/
theorem Command.fromUser_of_parse? {line : String} {c : Command} (h : parse? line = some c) :
    c.FromUser := by
  unfold parse? at h
  split at h
  · cases h
  · obtain rfl := Option.some.inj h
    exact fromUser_named _ _
  · obtain rfl := Option.some.inj h
    trivial

namespace Session

/-! ## §2. Moves. -/

/-- What happens to a session, one thing at a time. -/
inductive Move where
  /-- The user lets an event happen in the studio. -/
  | user (event : Event) (h : event.FromUser)
  /-- The user asks about the operation of the backend. -/
  | operate (request : OpsRequest)
  /-- The user has everything printed. -/
  | showAll
  /-- The engine does something. -/
  | engine (move : EngineMove)
  /-- The completion that has waited for the longest time is collected. -/
  | drain

/-- **Where a move leads.**  Nothing happens where nothing waits to be collected. -/
def after (s : Session) : Move → Session
  | .user event _ => (s.dispatch event).value
  | .operate request => { s with work := s.work.submit (.ops request) }
  | .showAll => s.showFull.value
  | .engine move => (s.advance [move]).value
  | .drain =>
    match s.work.done with
    | [] => s
    | c :: others => ({ s with work := { s.work with done := others } }.receive c).value

/-- Where moves in order lead. -/
def reach (s : Session) : List Move → Session
  | [] => s
  | m :: ms => (s.after m).reach ms

theorem reach_append (s : Session) (ms ns : List Move) :
    s.reach (ms ++ ns) = (s.reach ms).reach ns := by
  induction ms generalizing s with
  | nil => rfl
  | cons m ms ih => exact ih (s.after m)

/-- The queries that are sent with a move. -/
def sentBy (s : Session) : Move → List Outgoing
  | .user event _ => (s.studio.step event).outgoing
  | _ => []

/-- The queries that are sent with moves in order. -/
def sent (s : Session) : List Move → List Outgoing
  | [] => []
  | m :: ms => s.sentBy m ++ (s.after m).sent ms

/-- What comes of a query. -/
abbrev Answer := RequestId × Except QueryError Reply

/-- The answer in a completion. -/
def answerIn? : Completion → Option Answer
  | .answered id result => some (id, result)
  | .ops _ => none

/-- The answers that are collected with a move. -/
def drainedBy (s : Session) : Move → List Answer
  | .drain => (s.work.done.head?.bind answerIn?).toList
  | _ => []

/-- The answers that are collected with moves in order. -/
def drained (s : Session) : List Move → List Answer
  | [] => []
  | m :: ms => s.drainedBy m ++ (s.after m).drained ms

theorem sent_append (s : Session) (ms ns : List Move) :
    s.sent (ms ++ ns) = s.sent ms ++ (s.reach ms).sent ns := by
  induction ms generalizing s with
  | nil => rfl
  | cons m ms ih =>
    show s.sentBy m ++ (s.after m).sent (ms ++ ns) = s.sentBy m ++ (s.after m).sent ms ++ _
    rw [ih (s.after m), List.append_assoc]
    rfl

/-- A move sends at most one query. -/
theorem length_sentBy_le (s : Session) (m : Move) : (s.sentBy m).length ≤ 1 := by
  cases m with
  | user event h => exact s.studio.length_outgoing_step_le event
  | _ => exact Nat.zero_le _

theorem length_sent_le (s : Session) (ms : List Move) : (s.sent ms).length ≤ ms.length := by
  induction ms generalizing s with
  | nil => exact Nat.le_refl _
  | cons m ms ih =>
    have hfirst := s.length_sentBy_le m
    have hrest := ih (s.after m)
    show (s.sentBy m ++ (s.after m).sent ms).length ≤ ms.length + 1
    rw [List.length_append]
    omega

/-! ## §3. Events. -/

theorem value_sendAll (s : Session) (outgoing : List Outgoing) :
    (s.sendAll outgoing).value = { s with work := s.work.enqueue (outgoing.map .query) } := by
  induction outgoing generalizing s with
  | nil =>
    show s = { s with work := s.work.enqueue [] }
    rw [Workload.enqueue_nil]
  | cons o others ih =>
    show ((s.send o).value.sendAll others).value = _
    rw [ih]
    show { s with work := (s.work.enqueue [.query o]).enqueue (others.map .query) } = _
    rw [← Workload.enqueue_append]
    rfl

/-- What has been shown after an event. -/
def presenterAfter (s : Session) (e : Event) : Presenter :=
  if (s.studio.step e).state.dirty then
    (s.presenter.frame (s.studio.step e).state.clean.view.value).2
  else s.presenter

/-- **The session after an event**: the studio has taken it, and its queries are handed in. -/
theorem value_dispatch (s : Session) (e : Event) : (s.dispatch e).value = {
    engine := s.engine
    studio := (s.studio.step e).state.clean
    presenter := s.presenterAfter e
    work := s.work.enqueue ((s.studio.step e).outgoing.map .query) } := by
  have hsent := value_sendAll { s with studio := (s.studio.step e).state.clean }
    (s.studio.step e).outgoing
  rw [presenterAfter]
  show (if (s.studio.step e).state.dirty then
    (({ s with studio := (s.studio.step e).state.clean } : Session).sendAll
      (s.studio.step e).outgoing).value.showFrame else _ : Shown Session).value = _
  split
  · rw [hsent]
    rfl
  · exact hsent

/-! ## §4. The session. -/

/-- Moves lead from one session to the other. -/
def Reaches (s t : Session) : Prop := ∃ ms, s.reach ms = t

theorem Reaches.refl (s : Session) : s.Reaches s := ⟨[], rfl⟩

theorem Reaches.trans {s t u : Session} (hst : s.Reaches t) (htu : t.Reaches u) : s.Reaches u := by
  obtain ⟨ms, rfl⟩ := hst
  obtain ⟨ns, rfl⟩ := htu
  exact ⟨ms ++ ns, s.reach_append ms ns⟩

theorem reaches_after (s : Session) (m : Move) : s.Reaches (s.after m) := ⟨[m], rfl⟩

theorem reaches_dispatch (s : Session) {e : Event} (h : e.FromUser) :
    s.Reaches (s.dispatch e).value := s.reaches_after (.user e h)

/-- **A command is made up of moves.** -/
theorem reaches_handle (s : Session) (files : String → FileAnswer) {c : Command}
    (h : c.FromUser) : s.Reaches (s.handle files c).value := by
  cases c with
  | event e => exact s.reaches_dispatch h
  | chat query =>
    have htyped : s.Reaches (s.dispatch (.typeChat query)).value := s.reaches_dispatch nofun
    have hsent : Reaches _ ((s.dispatch (.typeChat query)).value.dispatch .sendChat).value :=
      reaches_dispatch _ nofun
    exact htyped.trans hsent
  | load path =>
    show s.Reaches (s.load path (files path)).value
    rw [load]
    split
    · exact s.reaches_dispatch nofun
    · exact .refl s
  | ops request => exact s.reaches_after (.operate request)
  | showAll => exact s.reaches_after .showAll
  -- The other commands print something that does not change with the session.
  | listTemplates => exact .refl s
  | help => exact .refl s
  | quit => exact .refl s
  | invalid fault => exact .refl s

/-- What the engine does is made up of moves. -/
theorem reaches_advance (s : Session) (moves : List EngineMove) :
    s.Reaches (s.advance moves).value := by
  induction moves generalizing s with
  | nil => exact .refl s
  | cons m ms ih => exact (s.reaches_after (.engine m)).trans (ih (s.after (.engine m)))

/-- The same session where other completions wait to be collected. -/
def waiting (s : Session) (done : List Completion) : Session :=
  { s with work := { s.work with done } }

/-- What waits does not matter to what is collected before. -/
theorem value_receive_waiting (s : Session) (done : List Completion) (c : Completion) :
    ((s.waiting done).receive c).value = (s.receive c).value.waiting done := by
  cases c with
  | answered id result =>
    show ((s.waiting done).dispatch _).value = (s.dispatch _).value.waiting done
    rw [value_dispatch, value_dispatch]
    rfl
  | ops outcome => rfl

/-- **Collecting everything that waits is made up of moves.** -/
theorem reaches_collect (s : Session) : s.Reaches s.collect.value := by
  have hall : ∀ done t,
      (waiting t done).Reaches (((waiting t []).receiveAll done).value) := by
    intro done
    induction done with
    | nil => exact fun t => .refl _
    | cons c others ih =>
      intro t
      have hdrain : (t.waiting (c :: others)).after .drain = (t.receive c).value.waiting others :=
        t.value_receive_waiting others c
      have hfirst := (t.waiting (c :: others)).reaches_after .drain
      rw [hdrain] at hfirst
      show Reaches _ ((((t.waiting []).receive c).value.receiveAll others).value)
      rw [value_receive_waiting]
      exact hfirst.trans (ih (t.receive c).value)
  exact hall s.work.done s

end Session

/-! ## §5. The console. -/

namespace Console

theorem reaches_endTurn (c : Console) (moves : List EngineMove) :
    c.session.Reaches (c.endTurn moves).value.session :=
  (c.session.reaches_advance moves).trans (Session.reaches_collect _)

theorem reaches_turn (files : String → FileAnswer) (c : Console) {t : Turn}
    (h : ∀ command, t.input = some (.command command) → command.FromUser) :
    c.session.Reaches (c.turn files t).value.session := by
  unfold turn
  split
  · exact .refl _
  · split
    · exact .refl _
    next command _ hinput =>
      have hhandle := c.session.reaches_handle files (h command hinput)
      exact hhandle.trans (reaches_endTurn { c with session := _ } t.moves)
    · exact reaches_endTurn { c with closed := true } t.moves
    · exact reaches_endTurn c t.moves

/-- **The console reaches no other sessions**: whatever is typed in and however the engine keeps
pace, it makes these moves. -/
theorem reaches_run (files : String → FileAnswer) (c : Console) {turns : List Turn}
    (h : ∀ t ∈ turns, ∀ command, t.input = some (.command command) →
      ∃ line, Command.parse? line = some command) :
    c.session.Reaches (c.run files turns).value.session := by
  induction turns generalizing c with
  | nil => exact .refl _
  | cons t ts ih =>
    have hturn := c.reaches_turn files fun command hcommand => by
      obtain ⟨line, hline⟩ := h t List.mem_cons_self command hcommand
      exact Command.fromUser_of_parse? hline
    exact hturn.trans (ih _ fun t' ht' => h t' (List.mem_cons_of_mem _ ht'))

end Console

end SurfaceStudio
