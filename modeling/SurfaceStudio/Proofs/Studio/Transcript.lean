import SurfaceStudio.Proofs.Studio.Run

/-!
# The transcript and the window

The transcript is only ever added to, whatever else is under way, and a request takes along what
stands at its end.  So the entry of a request stays where it is, with the history that the request
took along right before it.

  • `State.TranscriptStep`, `State.transcriptStep` — what an event does to the transcript,
  • `State.transcript_step`, `State.transcript_run` — entries stay, and an event adds one at most,
  • `State.submission?`, `State.Sends`, `State.sends_of_mem` — **what an event sends, and what it
    leaves in the transcript**,
  • `State.StandsAt` — where a request is found in a transcript,
  • `State.recorded_run` — **the record that every run leaves**.
-/

namespace SurfaceStudio.Studio.State

/-! ## §1. Growing. -/

/-- **What an event does to the transcript, and what it sends.** -/
inductive TranscriptStep (s : State) (e : Event) : Prop
  | untouched (htranscript : (s.step e).state.transcript = s.transcript)
    (houtgoing : (s.step e).outgoing = [])
  | sent (query : String)
    (htranscript : (s.step e).state.transcript = s.transcript ++ [.ofUser query])
    (houtgoing : (s.step e).outgoing = [⟨s.nextId, ⟨query, s.window⟩⟩])
  | answered {id : RequestId} {answer : Except String Reply} {m : Message}
    (he : e = .receive id answer) (hm : m.role = .agent)
    (htranscript : (s.step e).state.transcript = s.transcript ++ [m])
    (houtgoing : (s.step e).outgoing = [])

theorem transcriptStep (s : State) (e : Event) : s.TranscriptStep e := by
  have hstep := conversationStep s e
  -- The step lemma gives the three parts of the conversation together.
  generalize hside : (s.step e).state.conversationSide = after at hstep
  generalize houtgoing : (s.step e).outgoing = outgoing at hstep
  have htranscript : (s.step e).state.transcript = after.transcript :=
    congrArg ConversationSide.transcript hside
  cases hstep with
  | untouched _ => exact .untouched htranscript houtgoing
  | sent _ query => exact .sent query htranscript houtgoing
  | answered answer _ hm => exact .answered rfl hm htranscript houtgoing

/-- **An event adds one entry at most.** -/
theorem transcript_step (s : State) (e : Event) :
    ∃ added, (s.step e).state.transcript = s.transcript ++ added ∧ added.length ≤ 1 := by
  cases transcriptStep s e with
  | untouched htranscript _ =>
    exact ⟨[], htranscript.trans (List.append_nil _).symm, Nat.zero_le 1⟩
  | sent query htranscript _ => exact ⟨[.ofUser query], htranscript, Nat.le_refl 1⟩
  | @answered _ _ m _ _ htranscript _ => exact ⟨[m], htranscript, Nat.le_refl 1⟩

/-- What is in the transcript stays there in every run. -/
theorem transcript_run (s : State) (events : List Event) :
    s.transcript <+: (s.run events).state.transcript := by
  induction events generalizing s with
  | nil => exact List.prefix_rfl
  | cons e es ih =>
    obtain ⟨added, hadded, -⟩ := transcript_step s e
    have hfirst : s.transcript <+: (s.step e).state.transcript := ⟨added, hadded.symm⟩
    exact hfirst.trans (ih (s.step e).state)

/-! ## §2. The window. -/

theorem historyWindow_ask (s : State) (query : String) :
    (s.ask query).state.historyWindow = s.historyWindow := by
  rw [ask]
  split <;> rfl

/-- No event changes how many messages go along. -/
theorem historyWindow_step (s : State) (e : Event) :
    (s.step e).state.historyWindow = s.historyWindow := by
  cases e with
  | edit text =>
    rw [step, update, value_quietly, edit]
    split <;> rfl
  | loadTemplate name =>
    rw [step, update, value_quietly, loadNamed]
    cases Template.find? name with
    | some template => rfl
    | none => rfl
  | nextTemplate => rfl
  | switchMode mode =>
    show (s.switchMode mode).historyWindow = _
    rw [switchMode]
    split <;> rfl
  | typeChat text => rfl
  | sendChat =>
    show s.sendChat.state.historyWindow = _
    rw [sendChat]
    split
    · rfl
    · exact historyWindow_ask _ _
  | ask query => exact historyWindow_ask s query
  | receive id answer =>
    rw [step, update, value_quietly, receive]
    split
    · cases answer with
      | error reason => rfl
      | ok reply =>
        show (((_ : State).showReply reply).say _).historyWindow = _
        rw [showReply]
        cases reply.surface with
        | none => rfl
        | some surface => rfl
    · rfl

theorem historyWindow_run (s : State) (events : List Event) :
    (s.run events).state.historyWindow = s.historyWindow := by
  induction events generalizing s with
  | nil => rfl
  | cons e es ih => exact (ih (s.step e).state).trans (historyWindow_step s e)

/-- The window stands at the end of the transcript. -/
theorem window_isSuffix (s : State) : s.window <:+ s.transcript := List.drop_suffix _ _

/-- **The window takes as many messages as it may**, or all there are. -/
theorem length_window (s : State) :
    s.window.length = min s.historyWindow s.transcript.length := by
  rw [window, List.length_drop]
  omega

/-! ## §3. Requests. -/

/-- The text that an event hands in for a query. -/
def submission? (s : State) : Event → Option String
  | .sendChat => some s.chatInput
  | .ask query => some query
  | _ => none

/-- **What goes with a request that an event sends**: it is for the text that was handed in, it
takes the window along, and its entry is added to the transcript. -/
structure Sends (s : State) (e : Event) (o : Outgoing) : Prop where
  query : s.submission? e = some o.request.query
  history : o.request.history = s.window
  entry : (s.step e).state.transcript = s.transcript ++ [.ofUser o.request.query]

/-- A query is sent as it stands, with the blanks around it. -/
theorem query_of_mem_ask {s : State} {query : String} {o : Outgoing}
    (h : o ∈ (s.ask query).outgoing) : o.request.query = query := by
  rw [ask] at h
  split at h
  · cases h
  · rw [List.mem_singleton.1 h]

theorem submission?_of_mem {s : State} {e : Event} {o : Outgoing}
    (h : o ∈ (s.step e).outgoing) : s.submission? e = some o.request.query := by
  cases e with
  | sendChat =>
    have hsend : o ∈ s.sendChat.outgoing := h
    rw [sendChat] at hsend
    split at hsend
    · cases hsend
    · exact congrArg some (query_of_mem_ask hsend).symm
  | ask query => exact congrArg some (query_of_mem_ask h).symm
  -- No other event sends anything.
  | _ => cases h

/-- **Every request that is sent is sent in this way.** -/
theorem sends_of_mem {s : State} {e : Event} {o : Outgoing} (h : o ∈ (s.step e).outgoing) :
    s.Sends e o := by
  have hquery := submission?_of_mem h
  cases transcriptStep s e with
  | untouched _ houtgoing =>
    rw [houtgoing] at h
    cases h
  | sent query htranscript houtgoing =>
    rw [houtgoing] at h
    obtain rfl := List.mem_singleton.1 h
    exact ⟨hquery, rfl, htranscript⟩
  | answered _ _ _ houtgoing =>
    rw [houtgoing] at h
    cases h

/-- The entry of a request is found at a position in a transcript, and what the request takes
along stands right before it. -/
def StandsAt (transcript : List Message) (r : Request) (position : Nat) : Prop :=
  ∃ earlier later, transcript = earlier ++ r.history ++ .ofUser r.query :: later
    ∧ (earlier ++ r.history).length = position

/-- A request is found where the transcript ended when it was sent, however the run goes on. -/
theorem Sends.standsAt {s : State} {e : Event} {o : Outgoing} (h : s.Sends e o)
    (after : List Event) :
    StandsAt (s.run (e :: after)).state.transcript o.request s.transcript.length := by
  obtain ⟨later, hlater⟩ := transcript_run (s.step e).state after
  obtain ⟨earlier, hearlier⟩ := s.window_isSuffix
  rw [← h.history] at hearlier
  refine ⟨earlier, later, ?_, congrArg List.length hearlier⟩
  show ((s.step e).state.run after).state.transcript = _
  rw [hearlier, ← hlater, h.entry, List.append_assoc, List.singleton_append]

/-! ## §4. The record of a run. -/

/-- **The record that a run from the start leaves.** -/
structure Recorded (historyWindow : Nat) (events : List Event) : Prop where
  /-- Every event leaves the entries there are as they stand and adds one at most. -/
  grows : ∀ before e after, events = before ++ e :: after →
    ∃ added, ((initial historyWindow).run (before ++ [e])).state.transcript
        = ((initial historyWindow).run before).state.transcript ++ added
      ∧ added.length ≤ 1
  /-- A request is for the very text that was handed in.  At the end of the run its entry is found
  at the place where it was added, right behind the history that it took along. -/
  requests : ∀ before e after, events = before ++ e :: after →
    ∀ o ∈ (((initial historyWindow).run before).state.step e).outgoing,
      ((initial historyWindow).run before).state.submission? e = some o.request.query
      ∧ StandsAt ((initial historyWindow).run events).state.transcript o.request
          ((initial historyWindow).run before).state.transcript.length
  /-- The history is as long as the window is wide, or as there were entries. -/
  windows : ∀ before e after, events = before ++ e :: after →
    ∀ o ∈ (((initial historyWindow).run before).state.step e).outgoing,
      o.request.history.length
        = min historyWindow ((initial historyWindow).run before).state.transcript.length

/-- **Every run leaves its record**, whatever the width of the window and however many requests
are under way. -/
theorem recorded_run (historyWindow : Nat) (events : List Event) :
    Recorded historyWindow events where
  grows before e after _ := by
    rw [state_run_concat]
    exact transcript_step _ e
  requests before e after hevents o ho := by
    have hsends := sends_of_mem ho
    rw [hevents, state_run_append]
    exact ⟨hsends.query, hsends.standsAt after⟩
  windows before e after _ o ho := by
    rw [(sends_of_mem ho).history, length_window, historyWindow_run]
    rfl

end SurfaceStudio.Studio.State
