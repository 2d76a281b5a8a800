import SurfaceStudio.Proofs.Studio.Run
import SurfaceStudio.Proofs.Text.Trimming

/-!
# Two ways of sending a query

A query is typed into the chat input and sent from there, or it is asked directly.  Each way has its
own check for blank queries and its own changes of the state, and yet they differ in nothing but
what is left in the chat input.

  • `Event.typed` — the same query by way of the chat input,
  • `run_typed`, `run_typed_of_blank` — **one query, sent the one way and the other**,
  • `AlikeButInput`, `alike_step` — what is in the chat input matters only where it is sent,
  • `alike_run_typed` — a whole session in which every query is typed,
  • `submissions_agree` — **both ways agree in every state and in every session**.
-/

namespace SurfaceStudio.Studio

/-- A query that is asked directly is typed and sent instead. -/
def Event.typed : Event → List Event
  | .ask query => [.typeChat query, .sendChat]
  | e => [e]

namespace State

/-! ## §1. One query. -/

theorem run_singleton (s : State) (e : Event) : s.run [e] = s.step e := by
  show Transition.mk (s.step e).state ((s.step e).outgoing ++ []) = _
  rw [List.append_nil]

theorem not_isBlankText {query : String} (h : ¬ Text.AllBlank query.toList) :
    ¬ Text.isBlankText query = true := fun hblank => h (Text.allBlank_iff.1 hblank)

/-- A query that is asked directly enters the transcript and is sent, whatever else is under
way. -/
theorem run_ask {s : State} {query : String} (h : ¬ Text.AllBlank query.toList) :
    s.run [.ask query]
      = ⟨{ s with nextId := s.nextId + 1, inFlight := s.inFlight.insert s.nextId }.say
          (.ofUser query), [⟨s.nextId, ⟨query, s.window⟩⟩]⟩ := by
  rw [run_singleton]
  show s.ask query = _
  rw [ask, if_neg (not_isBlankText h)]

/-- **A query that is typed and sent** goes out as it does when it is asked directly, and leaves the
same state but for the chat input. -/
theorem run_typed {s : State} {query : String} (h : ¬ Text.AllBlank query.toList) :
    s.run (Event.ask query).typed
      = ⟨{ (s.run [.ask query]).state with chatInput := "" }, (s.run [.ask query]).outgoing⟩ := by
  have hblank := not_isBlankText h
  -- The query is looked at twice on its way: in the chat input, and when it is asked.
  have hsend : { s with chatInput := query, dirty := true }.sendChat
      = { s with chatInput := "", dirty := true }.ask query := if_neg hblank
  have htyped : s.run (Event.ask query).typed
      = { s with chatInput := query, dirty := true }.run [.sendChat] := rfl
  rw [run_ask h, htyped, run_singleton]
  show State.sendChat _ = _
  rw [hsend, ask, if_neg hblank]
  rfl

theorem run_ask_of_blank (s : State) {query : String} (h : Text.AllBlank query.toList) :
    s.run [.ask query] = ⟨s, []⟩ := by
  rw [run_singleton]
  show s.ask query = _
  rw [ask, if_pos (Text.allBlank_iff.2 h)]

/-- **A blank query** is not sent, and stays in the chat input if it was typed. -/
theorem run_typed_of_blank (s : State) {query : String} (h : Text.AllBlank query.toList) :
    s.run (Event.ask query).typed = ⟨{ s with chatInput := query, dirty := true }, []⟩ := by
  have hsend : { s with chatInput := query, dirty := true }.sendChat
      = ⟨{ s with chatInput := query, dirty := true }, []⟩ := if_pos (Text.allBlank_iff.2 h)
  have htyped : s.run (Event.ask query).typed
      = { s with chatInput := query, dirty := true }.run [.sendChat] := rfl
  rw [htyped, run_singleton]
  exact hsend

/-! ## §2. States that differ in the chat input. -/

/-- The state with nothing in the chat input, and the note of something new to show. -/
def withoutInput (s : State) : State := { s with chatInput := "", dirty := true }

/-- **The same but for the chat input**, and but for the note of something new to show. -/
def AlikeButInput (s t : State) : Prop := s.withoutInput = t.withoutInput

theorem AlikeButInput.trans {s t u : State} (h : s.AlikeButInput t) (h' : t.AlikeButInput u) :
    s.AlikeButInput u := Eq.trans h h'

/-- Only sending looks at the chat input. -/
theorem alike_step_withoutInput (s : State) {e : Event} (h : e ≠ .sendChat) :
    (s.step e).outgoing = (s.withoutInput.step e).outgoing
      ∧ (s.step e).state.AlikeButInput (s.withoutInput.step e).state := by
  cases e with
  | edit text =>
    rw [step, step, update, update, value_quietly, value_quietly, edit, edit]
    split <;> exact ⟨rfl, rfl⟩
  | loadTemplate name =>
    rw [step, step, update, update, value_quietly, value_quietly, loadNamed, loadNamed]
    generalize Template.find? name = found
    cases found with
    | some template => exact ⟨rfl, rfl⟩
    | none => exact ⟨rfl, rfl⟩
  | nextTemplate => exact ⟨rfl, rfl⟩
  | switchMode mode =>
    refine ⟨rfl, ?_⟩
    show (if s.mode = mode then s else _).AlikeButInput
      (if s.mode = mode then s.withoutInput else _)
    split <;> rfl
  | typeChat text => exact ⟨rfl, rfl⟩
  | sendChat => exact absurd rfl h
  | ask query =>
    show (s.ask query).outgoing = (s.withoutInput.ask query).outgoing
      ∧ (s.ask query).state.AlikeButInput (s.withoutInput.ask query).state
    unfold ask
    split <;> exact ⟨rfl, rfl⟩
  | receive id answer =>
    by_cases hid : id ∈ s.inFlight
    · have hcontains : s.inFlight.contains id = true := by simpa using hid
      have hcontains' : s.withoutInput.inFlight.contains id = true := hcontains
      rw [step, step, update, update, value_quietly, value_quietly, receive, receive, hcontains,
        hcontains']
      cases answer with
      | error reason => exact ⟨rfl, rfl⟩
      | ok reply =>
        refine ⟨rfl, ?_⟩
        show (((_ : State).showReply reply).say _).withoutInput
          = (((_ : State).showReply reply).say _).withoutInput
        rw [showReply, showReply]
        cases reply.surface with
        | none => rfl
        | some surface => rfl
    · have hid' : id ∉ s.withoutInput.inFlight := hid
      rw [step_receive_of_not_mem hid, step_receive_of_not_mem hid']
      exact ⟨rfl, rfl⟩

/-- **An event other than sending does the same in states that are alike.** -/
theorem alike_step {s t : State} (h : s.AlikeButInput t) {e : Event} (he : e ≠ .sendChat) :
    (s.step e).outgoing = (t.step e).outgoing
      ∧ (s.step e).state.AlikeButInput (t.step e).state := by
  obtain ⟨hs, hs'⟩ := alike_step_withoutInput s he
  obtain ⟨ht, ht'⟩ := alike_step_withoutInput t he
  rw [AlikeButInput] at h hs' ht' ⊢
  rw [hs, ht, hs', ht', h]
  exact ⟨rfl, rfl⟩

/-! ## §3. Sessions. -/

/-- Typing a query and sending it does what asking it does. -/
theorem alike_typed (s : State) (e : Event) : (s.run e.typed).outgoing = (s.step e).outgoing
    ∧ (s.run e.typed).state.AlikeButInput (s.step e).state := by
  cases e with
  | ask query =>
    rw [← run_singleton]
    by_cases h : Text.AllBlank query.toList
    · rw [run_typed_of_blank s h, run_ask_of_blank s h]
      exact ⟨rfl, rfl⟩
    · rw [run_typed h, run_ask h]
      exact ⟨rfl, rfl⟩
  | _ =>
    show (s.run [_]).outgoing = _ ∧ (s.run [_]).state.AlikeButInput _
    rw [run_singleton]
    exact ⟨rfl, rfl⟩

/-- **A whole session in which every query is typed** sends what it sends when they are asked
directly. -/
theorem alike_run_typed {s t : State} (h : s.AlikeButInput t) {events : List Event}
    (hevents : Event.sendChat ∉ events) :
    (s.run (events.flatMap Event.typed)).outgoing = (t.run events).outgoing
      ∧ (s.run (events.flatMap Event.typed)).state.AlikeButInput (t.run events).state := by
  -- The two sessions drift apart in the chat input, so the statement is made of states alike.
  induction events generalizing s t with
  | nil => exact ⟨rfl, h⟩
  | cons e es ih =>
    have he : e ≠ .sendChat := fun heq => hevents (heq ▸ List.mem_cons_self)
    obtain ⟨hsent, halike⟩ := alike_typed s e
    obtain ⟨hsent', halike'⟩ := alike_step h he
    obtain ⟨hrest, halike''⟩ :=
      ih (halike.trans halike') fun hmem => hevents (List.mem_cons_of_mem _ hmem)
    rw [List.flatMap_cons, run_append, run]
    refine ⟨?_, halike''⟩
    show (s.run e.typed).outgoing ++ _ = (t.step e).outgoing ++ _
    rw [hsent, hsent', hrest]

/-! ## §4. Both ways agree. -/

/-- **What the two ways of sending a query have in common in a state.** -/
structure SubmitsAlike (s : State) (query : String) : Prop where
  /-- A query that is not blank goes out the same and leaves the same state, except that the chat
  input is empty if the query was typed there. -/
  typed : ¬ Text.AllBlank query.toList → s.run (Event.ask query).typed
    = ⟨{ (s.run [.ask query]).state with chatInput := "" }, (s.run [.ask query]).outgoing⟩
  /-- What goes out is the query, under the next id and with the messages before it. -/
  asked : ¬ Text.AllBlank query.toList →
    (s.run [.ask query]).outgoing = [⟨s.nextId, ⟨query, s.window⟩⟩]
  /-- A query that is asked directly leaves the chat input as it is. -/
  chatInput : (s.run [.ask query]).state.chatInput = s.chatInput
  /-- A blank query that is typed changes the chat input, and nothing goes out. -/
  typed_blank : Text.AllBlank query.toList →
    s.run (Event.ask query).typed = ⟨{ s with chatInput := query, dirty := true }, []⟩
  /-- A blank query that is asked directly changes nothing, and nothing goes out. -/
  asked_blank : Text.AllBlank query.toList → s.run [.ask query] = ⟨s, []⟩

theorem submitsAlike (s : State) (query : String) : s.SubmitsAlike query where
  typed := run_typed
  asked h := by rw [run_ask h]
  chatInput := by
    by_cases h : Text.AllBlank query.toList
    · rw [run_ask_of_blank s h]
    · rw [run_ask h]
      rfl
  typed_blank := run_typed_of_blank s
  asked_blank := run_ask_of_blank s

/-- **Both ways of sending a query agree**: in every state, whatever is under way in it, and so in
every session in which nothing else is sent from the chat input. -/
theorem submissions_agree :
    (∀ (s : State) (query : String), s.SubmitsAlike query)
      ∧ ∀ (s : State) (events : List Event), Event.sendChat ∉ events →
        (s.run (events.flatMap Event.typed)).outgoing = (s.run events).outgoing
          ∧ (s.run (events.flatMap Event.typed)).state.AlikeButInput (s.run events).state :=
  ⟨submitsAlike, fun _ _ hevents => alike_run_typed rfl hevents⟩

/-- A second query is sent before the first has been answered, and a blank one after it. -/
theorem submissions_agree_pending :
    ((initial 5).run ([.ask "hi", .ask "há?", .ask " \n"].flatMap Event.typed)).outgoing
        = ((initial 5).run [.ask "hi", .ask "há?", .ask " \n"]).outgoing
      ∧ ((initial 5).run [.ask "hi"]).state.run (Event.ask "há?").typed
        = ⟨{ ((initial 5).run [.ask "hi", .ask "há?"]).state with chatInput := "" },
          [⟨2, ⟨"há?", [.ofUser "hi"]⟩⟩]⟩ :=
  ⟨(submissions_agree.2 (initial 5) [.ask "hi", .ask "há?", .ask " \n"] (by simp)).1,
    (submissions_agree.1 ((initial 5).run [.ask "hi"]).state "há?").typed
      fun h => absurd (h 'h' (by decide)) (by decide)⟩

end State

end SurfaceStudio.Studio
