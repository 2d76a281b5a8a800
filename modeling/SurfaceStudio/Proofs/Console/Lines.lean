import SurfaceStudio.Proofs.Console.Ledger
import SurfaceStudio.Proofs.Studio.Independence

/-!
# Lines of input

A line is sent to the agent if there is something left of it without the blanks around it, and that
does not begin with a colon.  Blanks are looked for when the line is read, when the query is sent
from the chat input, and once more when it is put into the transcript; it is one and the same notion
of a blank, so that a line is a query each time or never.  Every other line leaves the conversation
as it is.

  • `IsQuery` — the lines that are queries,
  • `Command.LeavesTalk`, `Command.leavesTalk_named` — **directives leave the conversation alone**,
  • `Session.handleLine`, `Session.lineJobs` — what a line does, and the jobs it hands in,
  • `Session.takes` — **what becomes of a line**,
  • `Session.takes_everywhere` — and of lines one after the other.
-/

namespace SurfaceStudio

open Studio

/-! ## §1. Queries. -/

/-- **The line is a query**: without the blanks around it there is something left, and that does not
begin with a colon. -/
def IsQuery (line : String) : Prop :=
  Text.trim line ≠ "" ∧ (Text.trim line).toList.head? ≠ some ':'

instance : DecidablePred IsQuery := fun _ => inferInstanceAs (Decidable (_ ∧ _))

/-- The query of a line is not blank. -/
theorem IsQuery.isBlankText_eq {line : String} (h : IsQuery line) :
    Text.isBlankText (Text.trim line) = false := by
  refine Bool.eq_false_iff.2 fun hblank => h.1 ?_
  rw [← Text.trim_trim]
  exact Text.isBlankText_iff.1 hblank

theorem Command.parse?_of_isQuery {line : String} (h : IsQuery line) :
    parse? line = some (.chat (Text.trim line)) := by
  obtain ⟨hsome, hcolon⟩ := h
  rw [Text.toList_trim] at hcolon
  unfold parse?
  split
  next hchars => exact absurd (congrArg String.ofList hchars) hsome
  next directive hchars =>
    rw [hchars] at hcolon
    exact absurd rfl hcolon
  next => rfl

/-- Every other line is blank or a directive. -/
theorem Command.parse?_of_not_isQuery {line : String} (h : ¬ IsQuery line) :
    parse? line = none ∨ ∃ word argument, parse? line = some (named word argument) := by
  unfold parse?
  split
  next => exact .inl rfl
  next directive hchars => exact .inr ⟨_, _, rfl⟩
  next hnil hcolon =>
    refine absurd ⟨fun hempty => ?_, ?_⟩ h
    · refine hnil ?_
      rw [← Text.toList_trim, hempty]
      rfl
    · rw [Text.toList_trim]
      intro hhead
      obtain ⟨directive, hdirective⟩ := List.head?_eq_some_iff.1 hhead
      exact hcolon directive hdirective

/-! ## §2. Directives. -/

/-- The event leaves the conversation alone: it changes nothing of it and sends nothing. -/
def Studio.Event.LeavesTalk (e : Event) : Prop :=
  ∀ s : State, (s.step e).state.talk = s.talk ∧ (s.step e).outgoing = []

theorem Studio.Event.leavesTalk_of_ofEditor {e : Event} (h : e.OfEditor) : e.LeavesTalk := by
  obtain ⟨act, hact⟩ := State.OnDesk.of_ofEditor h
  intro s
  rw [hact]
  exact ⟨rfl, rfl⟩

theorem Studio.Event.leavesTalk_switchMode (mode : Mode) :
    (Event.switchMode mode).LeavesTalk := by
  intro s
  rw [State.step_switchMode]
  exact ⟨rfl, rfl⟩

/-- The command leaves the conversation alone. -/
def Command.LeavesTalk : Command → Prop
  | .event e => e.LeavesTalk
  | .chat _ => False
  | _ => True

/-- **Directives leave the conversation alone**: they are about the editor, about the mode, or about
what is shown. -/
theorem Command.leavesTalk_named (word argument : String) : (named word argument).LeavesTalk := by
  have hnamed := directive_named word argument
  generalize named word argument = c at hnamed
  cases hnamed with
  | editorMode | agentMode => exact Event.leavesTalk_switchMode _
  | json => exact Event.leavesTalk_of_ofEditor (.edit argument)
  | template => exact Event.leavesTalk_of_ofEditor (.loadTemplate argument)
  | next => exact Event.leavesTalk_of_ofEditor .nextTemplate
  | _ => trivial

namespace Session

variable (s : Session) (files : String → FileAnswer)

theorem talk_dispatch {e : Event} (h : e.LeavesTalk) :
    (s.dispatch e).value.studio.talk = s.studio.talk ∧ ∀ o, Job.query o ∉ s.eventJobs e := by
  obtain ⟨htalk, houtgoing⟩ := h s.studio
  rw [value_dispatch, eventJobs, houtgoing]
  exact ⟨htalk, fun o => List.not_mem_nil⟩

/-- **A command that leaves the conversation alone** changes nothing of it in the session, and hands
in no query. -/
theorem talk_handle {c : Command} (h : c.LeavesTalk) :
    (s.handle files c).value.studio.talk = s.studio.talk
      ∧ ∀ o, Job.query o ∉ s.jobs files c := by
  have hnone : s.studio.talk = s.studio.talk ∧ ∀ o, Job.query o ∉ [] :=
    ⟨rfl, fun o => List.not_mem_nil⟩
  cases c with
  | event e => exact s.talk_dispatch h
  | chat query => exact absurd h id
  | load path =>
    show (s.load path (files path)).value.studio.talk = _ ∧ ∀ o, _ ∉ s.loadJobs (files path)
    unfold load loadJobs
    cases (files path).text with
    | ok text => exact s.talk_dispatch (Event.leavesTalk_of_ofEditor (.edit text))
    | error fault => exact hnone
  | ops request => exact ⟨rfl, fun o ho => nomatch List.mem_singleton.1 ho⟩
  -- The other commands only print something.
  | listTemplates => exact hnone
  | showAll => exact hnone
  | help => exact hnone
  | quit => exact hnone
  | invalid fault => exact hnone

/-! ## §3. Sending a query. -/

/-- The conversation after a query has been sent from the chat input. -/
def talkAfter (query : String) : State.Talk :=
  { s.studio.talk with
    transcript := s.studio.transcript ++ [.ofUser query]
    inFlight := s.studio.inFlight.insert s.studio.nextId
    nextId := s.studio.nextId + 1
    chatInput := "" }

/-- **A query that is not blank is sent**, once, and the chat input is empty afterwards, whatever
was in it before. -/
theorem talk_handle_chat {query : String} (h : Text.isBlankText query = false) :
    (s.handle files (.chat query)).value.studio.talk = s.talkAfter query
      ∧ s.jobs files (.chat query)
        = [.query ⟨s.studio.nextId, ⟨query, s.studio.window⟩⟩] := by
  have hne : ¬ Text.isBlankText query = true := by simp [h]
  -- What the chat input holds is the query, and it is emptied before the query is sent.
  have htyped : (s.dispatch (.typeChat query)).value.studio
      = { s.studio with chatInput := query, dirty := false } := by
    rw [value_dispatch]
    rfl
  have hsent : ({ s.studio with chatInput := query, dirty := false } : State).step .sendChat
      = ⟨({ s.studio with
            chatInput := ""
            nextId := s.studio.nextId + 1
            inFlight := s.studio.inFlight.insert s.studio.nextId
            dirty := true } : State).say (.ofUser query),
          [⟨s.studio.nextId, ⟨query, s.studio.window⟩⟩]⟩ := by
    show State.sendChat _ = _
    rw [State.sendChat, if_neg hne, State.ask, if_neg hne]
    rfl
  constructor
  · rw [value_handle_chat, value_dispatch, htyped, hsent]
    rfl
  · show s.eventJobs (.typeChat query) ++ eventJobs _ .sendChat = _
    rw [eventJobs, eventJobs, htyped, hsent]
    rfl

/-! ## §4. Lines. -/

/-- The effect of a line of input: that of its command, if it has one. -/
def handleLine (line : String) : Shown Session :=
  match Command.parse? line with
  | some command => s.handle files command
  | none => return s

/-- The jobs that a line of input hands in. -/
def lineJobs (line : String) : List Job :=
  match Command.parse? line with
  | some command => s.jobs files command
  | none => []

theorem work_handleLine (line : String) :
    (s.handleLine files line).value.work = s.work.enqueue (s.lineJobs files line) := by
  unfold handleLine lineJobs
  cases Command.parse? line with
  | some command => exact s.work_handle files command
  | none => exact s.work.enqueue_nil.symm

/-- **What becomes of a line of input.** -/
structure Takes (line : String) : Prop where
  /-- The jobs of the line are those that stand in the queue afterwards, behind all others. -/
  work : (s.handleLine files line).value.work = s.work.enqueue (s.lineJobs files line)
  /-- Something is sent to the agent if the line is a query, and only then. -/
  sends_iff : (∃ o, Job.query o ∈ s.lineJobs files line) ↔ IsQuery line
  /-- It is sent once, without the blanks around it, and with the messages before it. -/
  query : IsQuery line → s.lineJobs files line
    = [.query ⟨s.studio.nextId, ⟨Text.trim line, s.studio.window⟩⟩]
  /-- It is the one entry that is appended to the transcript, and the chat input is empty. -/
  talk : IsQuery line → (s.handleLine files line).value.studio.talk = s.talkAfter (Text.trim line)
  /-- Every other line leaves the transcript, the requests under way, the next id and the chat input
  as they are. -/
  other : ¬ IsQuery line → (s.handleLine files line).value.studio.talk = s.studio.talk

theorem takes (line : String) : s.Takes files line := by
  by_cases h : IsQuery line
  · obtain ⟨htalk, hjobs⟩ := s.talk_handle_chat files h.isBlankText_eq
    have hparsed := Command.parse?_of_isQuery h
    have hline : s.lineJobs files line
        = [.query ⟨s.studio.nextId, ⟨Text.trim line, s.studio.window⟩⟩] := by
      rw [lineJobs, hparsed, ← hjobs]
    exact {
      work := s.work_handleLine files line
      sends_iff := by
        rw [hline]
        exact iff_of_true ⟨_, List.mem_singleton_self _⟩ h
      query := fun _ => hline
      talk := by
        intro _
        rw [handleLine, hparsed]
        exact htalk
      other := fun hother => absurd h hother }
  · -- Nothing happens at a blank line, and a directive is about something else.
    have hleft : (s.handleLine files line).value.studio.talk = s.studio.talk
        ∧ ∀ o, Job.query o ∉ s.lineJobs files line := by
      unfold handleLine lineJobs
      obtain hparsed | ⟨word, argument, hparsed⟩ := Command.parse?_of_not_isQuery h
      · rw [hparsed]
        exact ⟨rfl, fun o => List.not_mem_nil⟩
      · rw [hparsed]
        exact s.talk_handle files (Command.leavesTalk_named word argument)
    exact {
      work := s.work_handleLine files line
      sends_iff := iff_of_false (fun ⟨o, ho⟩ => hleft.2 o ho) h
      query := fun hquery => absurd hquery h
      talk := fun hquery => absurd hquery h
      other := fun _ => hleft.1 }

/-! ## §5. Lines one after the other. -/

/-- The effect of lines in order. -/
def handleLines (files : String → FileAnswer) (s : Session) : List String → Shown Session
  | [] => return s
  | line :: lines => do handleLines files (← s.handleLine files line) lines

/-- The jobs that lines in order hand in. -/
def linesJobs (files : String → FileAnswer) (s : Session) : List String → List Job
  | [] => []
  | line :: lines =>
    s.lineJobs files line ++ linesJobs files (s.handleLine files line).value lines

/-- The text of the query that a job is about. -/
def queryText? : Job → Option String
  | .query o => some o.request.query
  | .ops _ => none

theorem work_handleLines (s : Session) (files : String → FileAnswer) (lines : List String) :
    (s.handleLines files lines).value.work = s.work.enqueue (s.linesJobs files lines) := by
  induction lines generalizing s with
  | nil => exact s.work.enqueue_nil.symm
  | cons line lines ih =>
    show (handleLines files (s.handleLine files line).value lines).value.work = _
    rw [ih, work_handleLine]
    exact (s.work.enqueue_append _ _).symm

/-- The queries among lines, without the blanks around them. -/
def queriesIn (lines : List String) : List String :=
  (lines.filter fun line => IsQuery line).map Text.trim

theorem queriesIn_of_isQuery {line : String} (h : IsQuery line) :
    queriesIn [line] = [Text.trim line] := by
  rw [queriesIn, List.filter_cons, if_pos (decide_eq_true h)]
  rfl

theorem queriesIn_of_not_isQuery {line : String} (h : ¬ IsQuery line) : queriesIn [line] = [] := by
  rw [queriesIn, List.filter_cons, if_neg (by simpa using h)]
  rfl

theorem Takes.transcript {s : Session} {files : String → FileAnswer} {line : String}
    (h : s.Takes files line) : (s.handleLine files line).value.studio.transcript
      = s.studio.transcript ++ (queriesIn [line]).map .ofUser := by
  by_cases hquery : IsQuery line
  · rw [queriesIn_of_isQuery hquery]
    exact congrArg State.Talk.transcript (h.talk hquery)
  · rw [queriesIn_of_not_isQuery hquery]
    exact (congrArg State.Talk.transcript (h.other hquery)).trans (List.append_nil _).symm

theorem Takes.queries {s : Session} {files : String → FileAnswer} {line : String}
    (h : s.Takes files line) : (s.lineJobs files line).filterMap queryText? = queriesIn [line] := by
  by_cases hquery : IsQuery line
  · rw [h.query hquery, queriesIn_of_isQuery hquery]
    rfl
  · have hnone : ∀ job ∈ s.lineJobs files line, queryText? job = none := by
      intro job hjob
      cases job with
      | query o => exact absurd (h.sends_iff.1 ⟨o, hjob⟩) hquery
      | ops request => rfl
    rw [List.filterMap_eq_nil_iff.2 hnone, queriesIn_of_not_isQuery hquery]

theorem queriesIn_cons (line : String) (lines : List String) :
    queriesIn (line :: lines) = queriesIn [line] ++ queriesIn lines := by
  rw [queriesIn, ← List.singleton_append, List.filter_append, List.map_append]
  rfl

theorem transcript_handleLines (s : Session) (files : String → FileAnswer) (lines : List String) :
    (s.handleLines files lines).value.studio.transcript
      = s.studio.transcript ++ (queriesIn lines).map .ofUser := by
  induction lines generalizing s with
  | nil => exact (List.append_nil _).symm
  | cons line lines ih =>
    show (handleLines files (s.handleLine files line).value lines).value.studio.transcript = _
    rw [ih, (s.takes files line).transcript, queriesIn_cons line lines, List.map_append,
      List.append_assoc]

theorem queries_linesJobs (s : Session) (files : String → FileAnswer) (lines : List String) :
    (s.linesJobs files lines).filterMap queryText? = queriesIn lines := by
  induction lines generalizing s with
  | nil => rfl
  | cons line lines ih =>
    rw [linesJobs, List.filterMap_append, ih, (s.takes files line).queries,
      queriesIn_cons line lines]

/-- **What becomes of everything that is typed in.**  In every session each line is taken as it
should be; of lines one after the other the queries among them are sent in their order, each once,
and they are what is appended to the transcript. -/
theorem takes_everywhere (files : String → FileAnswer) (s : Session) :
    (∀ line, s.Takes files line)
      ∧ ∀ lines,
        (s.handleLines files lines).value.work = s.work.enqueue (s.linesJobs files lines)
          ∧ (s.linesJobs files lines).filterMap queryText? = queriesIn lines
          ∧ (s.handleLines files lines).value.studio.transcript
            = s.studio.transcript ++ (queriesIn lines).map .ofUser :=
  ⟨s.takes files, fun lines =>
    ⟨s.work_handleLines files lines, s.queries_linesJobs files lines,
      s.transcript_handleLines files lines⟩⟩

/-- A query with blanks around it, in a new session. -/
theorem takes_everywhere_padded :
    IsQuery "  show me stats \n"
      ∧ (unseen (.ofBackend (.simulated 0)) 5).lineJobs (fun _ => .error .notFound)
          "  show me stats \n"
        = [.query ⟨1, ⟨"show me stats", []⟩⟩] := by
  have hquery : IsQuery "  show me stats \n" := by decide +kernel
  have htrim : Text.trim "  show me stats \n" = "show me stats" := by decide +kernel
  have htakes := (takes_everywhere (fun _ => .error .notFound)
    (unseen (.ofBackend (.simulated 0)) 5)).1 "  show me stats \n"
  refine ⟨hquery, ?_⟩
  rw [htakes.query hquery, htrim]
  rfl

end Session

end SurfaceStudio
