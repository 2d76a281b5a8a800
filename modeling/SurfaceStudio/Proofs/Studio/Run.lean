import SurfaceStudio.Studio.Update

/-!
# Runs of the studio

A run applies events one after the other and gathers the requests that are sent on the way.  What
a single event can do is said once for the editor and once for the conversation; everything that
holds of runs follows from that.

  • `State.step`, `State.run` — one event, and events in order,
  • `State.run_append` — a run in two parts,
  • `State.EditorStep`, `State.editorStep` — **what an event does to the editor**,
  • `State.ConversationStep`, `State.conversationStep` — **what an event does to the conversation**.
-/

namespace SurfaceStudio.Studio.State

/-! ## §1. Steps and runs. -/

/-- The state after an event, and the requests that are sent. -/
def step (s : State) (e : Event) : Transition := (s.update e).value

theorem value_quietly (change : Logged State) : (quietly change).value = ⟨change.value, []⟩ := rfl

/-- **The state after events in order**, and all the requests that are sent on the way. -/
def run (s : State) : List Event → Transition
  | [] => ⟨s, []⟩
  | e :: es =>
    ⟨((s.step e).state.run es).state, (s.step e).outgoing ++ ((s.step e).state.run es).outgoing⟩

theorem run_append (s : State) (es fs : List Event) :
    s.run (es ++ fs) = ⟨((s.run es).state.run fs).state,
      (s.run es).outgoing ++ ((s.run es).state.run fs).outgoing⟩ := by
  induction es generalizing s with
  | nil => rfl
  | cons e es ih =>
    rw [List.cons_append, run, ih]
    show Transition.mk _ (_ ++ (_ ++ _)) = Transition.mk _ ((_ ++ _) ++ _)
    rw [List.append_assoc]
    rfl

theorem state_run_append (s : State) (es fs : List Event) :
    (s.run (es ++ fs)).state = ((s.run es).state.run fs).state := by rw [run_append]

theorem state_run_concat (s : State) (es : List Event) (e : Event) :
    (s.run (es ++ [e])).state = ((s.run es).state.step e).state := by
  rw [state_run_append]
  rfl

/-! ## §2. The editor. -/

/-- The event has to do with the editor: it changes the text, loads a template, or brings a
surface as the answer to a request that is under way. -/
def touchesEditor (s : State) : Event → Bool
  | .edit _ | .loadTemplate _ | .nextTemplate => true
  | .receive id (.ok reply) => s.inFlight.contains id && reply.surface.isSome
  | _ => false

/-- A surface that an event may show: that of a template, or of a reply. -/
inductive Shows : Event → Surface → Prop
  | template (e : Event) {template : Template} (h : template ∈ Template.all) :
    Shows e template.surface
  | reply {id : RequestId} {reply : Reply} {surface : Surface} (h : reply.surface = some surface) :
    Shows (.receive id (.ok reply)) surface

/-- The parts of the state that make up the editor. -/
structure EditorSide where
  text : String
  fault : Option EditorFault
  preview : Option Surface

def editorSide (s : State) : EditorSide := ⟨s.editorText, s.editorFault, s.preview⟩

/-- **What an event can do to the editor.** -/
inductive EditorStep (s : State) : Event → EditorSide → Prop
  | untouched {e : Event} (h : s.touchesEditor e = false) : EditorStep s e s.editorSide
  | valid {text : String} {surface : Surface} (h : Surface.parse text = .ok surface) :
    EditorStep s (.edit text) ⟨text, none, some surface⟩
  | invalid {text : String} {error : ParseError} (h : Surface.parse text = .error error) :
    EditorStep s (.edit text) ⟨text, some (.rejected error), s.preview⟩
  | unknown {name : String} (h : Template.find? name = none) :
    EditorStep s (.loadTemplate name)
      ⟨s.editorText, some (.unknownTemplate (Text.trim name)), s.preview⟩
  | shown {e : Event} {surface : Surface} (touches : s.touchesEditor e = true)
    (h : Shows e surface) : EditorStep s e ⟨surface.pretty, none, some surface⟩

theorem editorSide_ask (s : State) (query : String) :
    (s.ask query).state.editorSide = s.editorSide := by
  rw [ask]
  split <;> rfl

theorem editorStep_load {s : State} (s' : State) {e : Event} (touches : s.touchesEditor e = true)
    {template : Template} (h : template ∈ Template.all) :
    EditorStep s e (s'.load template).value.editorSide :=
  .shown touches (.template e h)

theorem editorStep_loadNamed (s : State) (name : String) :
    EditorStep s (.loadTemplate name) (s.loadNamed name).value.editorSide := by
  rw [loadNamed]
  generalize hfound : Template.find? name = found
  cases found with
  | some template => exact editorStep_load s rfl (List.mem_of_find?_eq_some hfound)
  | none => exact .unknown hfound

theorem atTurn_mem (turn : Nat) : Template.atTurn turn ∈ Template.all := List.get_mem _ _

/-- **An answer to a request that is not under way changes nothing.** -/
theorem step_receive_of_not_mem {s : State} {id : RequestId} (h : id ∉ s.inFlight)
    (answer : Except String Reply) : s.step (.receive id answer) = ⟨s, []⟩ := by
  have hcontains : s.inFlight.contains id = false := by simpa using h
  rw [step, update, value_quietly, receive, hcontains]
  rfl

/-- The surface that an answer brings. -/
def answerSurface? : Except String Reply → Option Surface
  | .ok reply => reply.surface
  | .error _ => none

/-- **An answer to a request that is under way shows the surface that it brings.** -/
theorem editorSide_receive_of_surface {s : State} {id : RequestId} (h : id ∈ s.inFlight)
    {answer : Except String Reply} {surface : Surface}
    (hsurface : answerSurface? answer = some surface) :
    (s.step (.receive id answer)).state.editorSide = ⟨surface.pretty, none, some surface⟩ := by
  have hcontains : s.inFlight.contains id = true := by simpa using h
  rw [step, update, value_quietly, receive, hcontains]
  cases answer with
  | error reason => cases hsurface
  | ok reply =>
    have hreply : reply.surface = some surface := hsurface
    show (((_ : State).showReply reply).say _).editorSide = _
    rw [showReply, hreply]
    rfl

/-- An answer that brings none leaves the editor as it is, whether it counts or not. -/
theorem editorSide_receive_of_none (s : State) (id : RequestId) {answer : Except String Reply}
    (h : answerSurface? answer = none) :
    (s.step (.receive id answer)).state.editorSide = s.editorSide := by
  rw [step, update, value_quietly, receive]
  split
  · cases answer with
    | error reason => rfl
    | ok reply =>
      have hreply : reply.surface = none := h
      show (((_ : State).showReply reply).say _).editorSide = _
      rw [showReply, hreply]
      rfl
  · rfl

theorem editorStep_receive (s : State) (id : RequestId) (answer : Except String Reply) :
    EditorStep s (.receive id answer) (s.step (.receive id answer)).state.editorSide := by
  cases hsurface : answerSurface? answer with
  | none =>
    have htouches : s.touchesEditor (.receive id answer) = false := by
      cases answer with
      | error reason => rfl
      | ok reply => simp_all [touchesEditor, answerSurface?]
    rw [editorSide_receive_of_none s id hsurface]
    exact .untouched htouches
  | some surface =>
    cases answer with
    | error reason => cases hsurface
    | ok reply =>
      by_cases hid : id ∈ s.inFlight
      · have htouches : s.touchesEditor (.receive id (.ok reply)) = true := by
          simp_all [touchesEditor, answerSurface?]
        rw [editorSide_receive_of_surface hid hsurface]
        exact .shown htouches (.reply hsurface)
      -- An answer to no request under way is ignored.
      · have htouches : s.touchesEditor (.receive id (.ok reply)) = false := by
          simp [touchesEditor, hid]
        rw [step_receive_of_not_mem hid]
        exact .untouched htouches

/-- **Every event does one of these things to the editor.** -/
theorem editorStep (s : State) (e : Event) : EditorStep s e (s.step e).state.editorSide := by
  cases e with
  | edit text =>
    show EditorStep s _ (s.edit text).value.editorSide
    unfold edit
    split
    next surface h => exact .valid h
    next error h => exact .invalid h
  | loadTemplate name =>
    rw [step, update, value_quietly]
    dsimp only
    exact editorStep_loadNamed s name
  | nextTemplate =>
    rw [step, update, value_quietly, loadNext]
    exact editorStep_load _ rfl (atTurn_mem s.templateTurn.toNat)
  -- Of the other events only replies have to do with the editor.
  | switchMode mode =>
    have hside : (s.switchMode mode).editorSide = s.editorSide := by
      rw [switchMode]
      split <;> rfl
    exact hside ▸ .untouched rfl
  | typeChat text => exact .untouched rfl
  | sendChat =>
    have hside : s.sendChat.state.editorSide = s.editorSide := by
      rw [sendChat]
      split
      · rfl
      · exact editorSide_ask _ _
    exact hside ▸ .untouched rfl
  | ask query => exact editorSide_ask s query ▸ .untouched rfl
  | receive id answer => exact editorStep_receive s id answer

/-! ## §3. The conversation. -/

/-- The parts of the state that make up the conversation. -/
structure ConversationSide where
  transcript : List Message
  inFlight : List RequestId
  nextId : RequestId

def conversationSide (s : State) : ConversationSide := ⟨s.transcript, s.inFlight, s.nextId⟩

/-- **What an event can do to the conversation**, and what it sends. -/
inductive ConversationStep (s : State) : Event → ConversationSide → List Outgoing → Prop
  | untouched {e : Event} (h : ∀ id answer, e = .receive id answer → id ∉ s.inFlight) :
    ConversationStep s e s.conversationSide []
  | sent {e : Event} (h : ∀ id answer, e ≠ .receive id answer) (query : String) :
    ConversationStep s e
      ⟨s.transcript ++ [.ofUser query], s.inFlight.insert s.nextId, s.nextId + 1⟩
      [⟨s.nextId, ⟨query, s.window⟩⟩]
  | answered {id : RequestId} (answer : Except String Reply) (h : id ∈ s.inFlight) {m : Message}
    (hm : m.role = .agent) :
    ConversationStep s (.receive id answer)
      ⟨s.transcript ++ [m], s.inFlight.erase id, s.nextId⟩ []

/-- The entry that an answer makes in the transcript. -/
def answerEntry : Except String Reply → Message
  | .ok reply => .ofReply reply
  | .error _ => .ofAgent connectivityText

theorem role_answerEntry (answer : Except String Reply) : (answerEntry answer).role = .agent := by
  cases answer with
  | ok reply => rfl
  | error reason => rfl

/-- **An answer to a request that is under way enters the transcript and ends the request.** -/
theorem conversationSide_receive_of_mem {s : State} {id : RequestId} (h : id ∈ s.inFlight)
    (answer : Except String Reply) : (s.step (.receive id answer)).state.conversationSide
      = ⟨s.transcript ++ [answerEntry answer], s.inFlight.erase id, s.nextId⟩ := by
  have hcontains : s.inFlight.contains id = true := by simpa using h
  rw [step, update, value_quietly, receive, hcontains]
  cases answer with
  | error reason => rfl
  | ok reply =>
    -- What is shown of the reply changes the editor and not the conversation.
    show (((_ : State).showReply reply).say _).conversationSide = _
    rw [showReply]
    cases reply.surface with
    | none => rfl
    | some surface => rfl

/-- Whatever the answer is, its entry is one of the agent. -/
theorem step_receive_of_mem {s : State} {id : RequestId} (h : id ∈ s.inFlight)
    (answer : Except String Reply) : ∃ m : Message, m.role = .agent
      ∧ (s.step (.receive id answer)).state.conversationSide
        = ⟨s.transcript ++ [m], s.inFlight.erase id, s.nextId⟩ :=
  ⟨answerEntry answer, role_answerEntry answer, conversationSide_receive_of_mem h answer⟩

theorem conversationStep_ask {s s' : State} (hside : s'.conversationSide = s.conversationSide)
    (hwindow : s'.window = s.window) {e : Event} (h : ∀ id answer, e ≠ .receive id answer)
    (query : String) :
    ConversationStep s e (s'.ask query).state.conversationSide (s'.ask query).outgoing := by
  obtain ⟨htranscript, hinFlight, hnextId⟩ := ConversationSide.mk.inj hside
  rw [ask]
  split
  -- A blank query is not sent.
  · show ConversationStep s e s'.conversationSide []
    exact hside ▸ .untouched fun id answer he => absurd he (h id answer)
  · show ConversationStep s e ⟨s'.transcript ++ [.ofUser query], s'.inFlight.insert s'.nextId,
      s'.nextId + 1⟩ [⟨s'.nextId, ⟨query, s'.window⟩⟩]
    rw [htranscript, hinFlight, hnextId, hwindow]
    exact .sent h query

/-- **Every event does one of these things to the conversation.** -/
theorem conversationStep (s : State) (e : Event) :
    ConversationStep s e (s.step e).state.conversationSide (s.step e).outgoing := by
  cases e with
  -- Nothing that is done to the editor is noticed in the conversation.
  | edit text =>
    rw [step, update, value_quietly, edit]
    split <;> exact .untouched nofun
  | loadTemplate name =>
    rw [step, update, value_quietly, loadNamed]
    generalize Template.find? name = found
    cases found with
    | some template => exact .untouched nofun
    | none => exact .untouched nofun
  | nextTemplate =>
    rw [step, update, value_quietly, loadNext]
    exact .untouched nofun
  | switchMode mode =>
    show ConversationStep s _ (s.switchMode mode).conversationSide []
    rw [switchMode]
    split <;> exact .untouched nofun
  | typeChat text => exact .untouched nofun
  | sendChat =>
    show ConversationStep s _ s.sendChat.state.conversationSide s.sendChat.outgoing
    rw [sendChat]
    split
    · exact .untouched nofun
    · have hne : ∀ id answer, Event.sendChat ≠ .receive id answer := nofun
      refine conversationStep_ask ?_ ?_ hne s.chatInput
      · rfl
      · rfl
  | ask query => exact conversationStep_ask (e := .ask query) rfl rfl nofun query
  | receive id answer =>
    by_cases hid : id ∈ s.inFlight
    · obtain ⟨m, hm, hside⟩ := step_receive_of_mem hid answer
      rw [hside]
      exact .answered answer hid hm
    · rw [step_receive_of_not_mem hid]
      refine .untouched ?_
      rintro _ _ ⟨⟩
      exact hid

end SurfaceStudio.Studio.State
