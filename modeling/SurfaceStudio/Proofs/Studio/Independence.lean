import SurfaceStudio.Proofs.Studio.Run

/-!
# The editor and the conversation are independent

Three things go on side by side in the studio: the editor is worked in, the conversation is led,
and the mode is switched.  They share one state, and one note that there is something new to show.
Each event of one of them acts on a part of the state that is its own and reads nothing else, so it
makes no difference how the three are interleaved.  Only a reply that brings a surface belongs to
two of them.

  • `Event.OfEditor`, `Event.OfConversation` — the events of the two sides,
  • `Desk`, `Talk` — the parts of the state that the two sides have to themselves,
  • `OnDesk.of_ofEditor`, `OnTalk.of_ofConversation` — **an event acts on its own part alone**,
  • `Commutes` — two events that may be exchanged where they follow each other,
  • `Mixed`, `run_mixed` — an interleaving, and its run,
  • `run_eq_of_mixed` — **all interleavings of the same events run alike**.
-/

namespace SurfaceStudio.Studio

/-! ## §1. The two sides. -/

/-- The event has to do with the editor alone. -/
inductive Event.OfEditor : Event → Prop
  | edit (text : String) : OfEditor (.edit text)
  | loadTemplate (name : String) : OfEditor (.loadTemplate name)
  | nextTemplate : OfEditor .nextTemplate

/-- The event has to do with the conversation alone: an answer is a failure, or a reply without a
surface. -/
inductive Event.OfConversation : Event → Prop
  | typeChat (text : String) : OfConversation (.typeChat text)
  | sendChat : OfConversation .sendChat
  | ask (query : String) : OfConversation (.ask query)
  | receive (id : RequestId) {answer : Except String Reply}
    (h : State.answerSurface? answer = none) : OfConversation (.receive id answer)

namespace State

/-- The part of the state that belongs to the editor. -/
structure Desk where
  text : String
  fault : Option EditorFault
  preview : Option Surface
  templateTurn : UInt64

def desk (s : State) : Desk := ⟨s.editorText, s.editorFault, s.preview, s.templateTurn⟩

/-- The state with another desk, which is something new to show. -/
def withDesk (s : State) (d : Desk) : State :=
  { s with
    editorText := d.text
    editorFault := d.fault
    preview := d.preview
    templateTurn := d.templateTurn
    dirty := true }

/-- The part of the state that belongs to the conversation: all that it reads or changes. -/
structure Talk where
  historyWindow : Nat
  transcript : List Message
  inFlight : List RequestId
  nextId : RequestId
  chatInput : String

def talk (s : State) : Talk := ⟨s.historyWindow, s.transcript, s.inFlight, s.nextId, s.chatInput⟩

/-- The state with the conversation led on, which may be something new to show. -/
def withTalk (s : State) (t : Talk) (news : Bool) : State :=
  { s with
    historyWindow := t.historyWindow
    transcript := t.transcript
    inFlight := t.inFlight
    nextId := t.nextId
    chatInput := t.chatInput
    dirty := s.dirty || news }

/-- The state in a mode, which is something new to show if it was in the other. -/
def withMode (s : State) (mode : Mode) : State :=
  { s with mode, dirty := s.dirty || decide (s.mode ≠ mode) }

theorem withMode_withTalk (s : State) (mode : Mode) (t : Talk) (news : Bool) :
    (s.withMode mode).withTalk t news = (s.withTalk t news).withMode mode := by
  have hdirty : ((s.withMode mode).dirty || news)
      = ((s.dirty || news) || decide (s.mode ≠ mode)) := Bool.or_right_comm _ _ _
  rw [withTalk, hdirty]
  rfl

/-- What an event makes of the conversation. -/
structure Effect where
  talk : Talk
  news : Bool
  outgoing : List Outgoing

/-- The effect, in a state. -/
def Effect.on (r : Effect) (s : State) : Transition := ⟨s.withTalk r.talk r.news, r.outgoing⟩

/-- Nothing happens in the conversation. -/
def Talk.kept (t : Talk) : Effect := ⟨t, false, []⟩

/-- A query is sent. -/
def Talk.sent (t : Talk) (query : String) : Effect where
  talk := { t with
    nextId := t.nextId + 1
    inFlight := t.inFlight.insert t.nextId
    transcript := t.transcript ++ [.ofUser query] }
  news := true
  outgoing := [⟨t.nextId, ⟨query, t.transcript.drop (t.transcript.length - t.historyWindow)⟩⟩]

/-- An answer is taken. -/
def Talk.answered (t : Talk) (id : RequestId) (answer : Except String Reply) : Effect where
  talk := { t with
    inFlight := t.inFlight.erase id
    transcript := t.transcript ++ [answerEntry answer] }
  news := true
  outgoing := []

theorem kept_on (s : State) : s.talk.kept.on s = ⟨s, []⟩ := by
  show Transition.mk (s.withTalk s.talk false) [] = ⟨s, []⟩
  rw [withTalk, Bool.or_false]
  rfl

theorem sent_on (s : State) (query : String) : (s.talk.sent query).on s
    = ⟨{ s with nextId := s.nextId + 1, inFlight := s.inFlight.insert s.nextId }.say
        (.ofUser query), [⟨s.nextId, ⟨query, s.window⟩⟩]⟩ := by
  show Transition.mk (s.withTalk _ true) _ = _
  rw [withTalk, Bool.or_true]
  rfl

/-! ## §2. What an event reads and changes. -/

/-- In every state, the event does to the desk what `act` does, and nothing else. -/
def OnDesk (e : Event) (act : Desk → Desk) : Prop :=
  ∀ s : State, s.step e = ⟨s.withDesk (act s.desk), []⟩

/-- In every state, the event does to the conversation what `act` does, and nothing else. -/
def OnTalk (e : Event) (act : Talk → Effect) : Prop :=
  ∀ s : State, s.step e = (act s.talk).on s

/-- **An event of the editor acts on the desk alone.** -/
theorem OnDesk.of_ofEditor {e : Event} (h : e.OfEditor) : ∃ act, OnDesk e act := by
  cases h with
  | edit text =>
    cases hparse : Surface.parse text with
    | ok surface =>
      refine ⟨fun d => { d with text, preview := some surface, fault := none }, fun s => ?_⟩
      rw [step, update, value_quietly, edit, hparse]
      rfl
    | error error =>
      refine ⟨fun d => { d with text, fault := some (.rejected error) }, fun s => ?_⟩
      rw [step, update, value_quietly, edit, hparse]
      rfl
  | loadTemplate name =>
    cases hfound : Template.find? name with
    | some template =>
      refine ⟨fun d => ⟨template.surface.pretty, none, some template.surface, d.templateTurn⟩,
        fun s => ?_⟩
      rw [step, update, value_quietly, loadNamed, hfound]
      rfl
    | none =>
      let fault : EditorFault := .unknownTemplate (Text.trim name)
      refine ⟨fun d => { d with fault := some fault }, fun s => ?_⟩
      rw [step, update, value_quietly, loadNamed, hfound]
      rfl
  | nextTemplate =>
    -- Which template is next depends on the turn, and so on the desk.
    let next (d : Desk) : Template := Template.atTurn d.templateTurn.toNat
    refine ⟨fun d => ⟨(next d).surface.pretty, none, some (next d).surface, d.templateTurn + 1⟩,
      fun s => ?_⟩
    rw [step, update, value_quietly, loadNext]
    rfl

theorem ask_eq_on (s : State) (query : String) : s.ask query
    = (if Text.isBlankText query then s.talk.kept else s.talk.sent query).on s := by
  rw [ask]
  split
  · exact s.kept_on.symm
  · exact (s.sent_on query).symm

/-- An answer without a surface is no matter of the editor. -/
theorem step_receive_eq_on (s : State) (id : RequestId) {answer : Except String Reply}
    (h : answerSurface? answer = none) : s.step (.receive id answer)
      = (if s.inFlight.contains id then s.talk.answered id answer else s.talk.kept).on s := by
  by_cases hid : s.inFlight.contains id = true
  · rw [step, update, value_quietly, receive, if_pos hid, if_pos hid]
    show _ = Transition.mk (s.withTalk _ true) []
    rw [withTalk, Bool.or_true]
    cases answer with
    | error reason => rfl
    | ok reply =>
      have hreply : reply.surface = none := h
      show Transition.mk (((_ : State).showReply reply).say _) [] = _
      rw [showReply, hreply]
      rfl
  · have hnot : id ∉ s.inFlight := by simpa using hid
    rw [step_receive_of_not_mem hnot, if_neg hid, kept_on]

/-- **An event of the conversation acts on the conversation alone.** -/
theorem OnTalk.of_ofConversation {e : Event} (h : e.OfConversation) : ∃ act, OnTalk e act := by
  cases h with
  | typeChat text =>
    refine ⟨fun t => ⟨{ t with chatInput := text }, true, []⟩, fun s => ?_⟩
    show Transition.mk _ [] = Transition.mk (s.withTalk _ true) []
    rw [withTalk, Bool.or_true]
    rfl
  | ask query =>
    exact ⟨fun t => if Text.isBlankText query then t.kept else t.sent query,
      fun s => s.ask_eq_on query⟩
  | sendChat =>
    refine ⟨fun t => if Text.isBlankText t.chatInput then t.kept
      else { t with chatInput := "" }.sent t.chatInput, fun s => ?_⟩
    show s.sendChat = (if Text.isBlankText s.chatInput then _ else _ : Effect).on s
    rw [sendChat]
    by_cases hblank : Text.isBlankText s.chatInput = true
    · rw [if_pos hblank, if_pos hblank, kept_on]
    · rw [if_neg hblank, if_neg hblank, ask_eq_on, if_neg hblank]
      show Transition.mk (withTalk _ _ true) _ = Transition.mk (s.withTalk _ true) _
      rw [withTalk, withTalk, Bool.or_true, Bool.or_true]
      rfl
  | @receive id answer hnone =>
    exact ⟨fun t => if t.inFlight.contains id then t.answered id answer else t.kept,
      fun s => s.step_receive_eq_on id hnone⟩

/-- A switch of the mode acts on the mode alone. -/
theorem step_switchMode (s : State) (mode : Mode) :
    s.step (.switchMode mode) = ⟨s.withMode mode, []⟩ := by
  show Transition.mk (s.switchMode mode) [] = _
  rw [switchMode, withMode]
  split
  next h =>
    subst h
    rw [decide_eq_false (not_not_intro rfl), Bool.or_false]
  next h => rw [decide_eq_true h, Bool.or_true]

/-! ## §3. Exchanging two events. -/

/-- It makes no difference which of two events is first. -/
def Commutes (e f : Event) : Prop := ∀ s : State, s.run [e, f] = s.run [f, e]

theorem run_pair (s : State) (e f : Event) : s.run [e, f]
    = ⟨((s.step e).state.step f).state,
      (s.step e).outgoing ++ ((s.step e).state.step f).outgoing⟩ := by
  show Transition.mk _ (_ ++ (_ ++ [])) = _
  rw [List.append_nil]
  rfl

theorem commutes_conversation_editor {c e : Event} (hc : c.OfConversation) (he : e.OfEditor) :
    Commutes c e := by
  intro s
  obtain ⟨led, hled⟩ := OnTalk.of_ofConversation hc
  obtain ⟨done, hdone⟩ := OnDesk.of_ofEditor he
  -- Each finds its own part as it was, as the other leaves that alone.
  rw [run_pair, run_pair, hled s, hdone s, hled, hdone]
  show Transition.mk _ (_ ++ []) = Transition.mk _ ([] ++ _)
  rw [List.append_nil]
  rfl

theorem commutes_mode_editor (mode : Mode) {e : Event} (he : e.OfEditor) :
    Commutes (.switchMode mode) e := by
  intro s
  obtain ⟨done, hdone⟩ := OnDesk.of_ofEditor he
  rw [run_pair, run_pair, hdone s, step_switchMode s, hdone, step_switchMode]
  rfl

theorem commutes_mode_conversation (mode : Mode) {c : Event} (hc : c.OfConversation) :
    Commutes (.switchMode mode) c := by
  intro s
  obtain ⟨led, hled⟩ := OnTalk.of_ofConversation hc
  rw [run_pair, run_pair, hled s, step_switchMode s, hled, step_switchMode]
  show Transition.mk ((s.withMode mode).withTalk _ _) ([] ++ _)
    = Transition.mk ((s.withTalk _ _).withMode mode) (_ ++ [])
  rw [withMode_withTalk, List.append_nil]
  rfl

/-- **An event can be put behind events that it commutes with.** -/
theorem run_cons_append_of_commutes {e : Event} {fs : List Event}
    (h : ∀ f ∈ fs, Commutes e f) (rest : List Event) (s : State) :
    s.run (e :: (fs ++ rest)) = s.run (fs ++ e :: rest) := by
  induction fs generalizing s with
  | nil => rfl
  | cons f fs ih =>
    have hrest : ∀ g ∈ fs, Commutes e g := fun g hg => h g (List.mem_cons_of_mem f hg)
    calc s.run (e :: f :: (fs ++ rest))
      _ = s.run ([e, f] ++ (fs ++ rest)) := rfl
      _ = s.run ([f, e] ++ (fs ++ rest)) := by
        rw [run_append, h f List.mem_cons_self s, ← run_append]
      _ = s.run (f :: (fs ++ e :: rest)) := by
        show s.run (f :: (e :: (fs ++ rest))) = _
        rw [run, ih hrest, run]

/-! ## §4. Interleavings. -/

/-- The last list is an interleaving of the three others: events of the editor, events of the
conversation, and switches of the mode, each in the order of its own list. -/
inductive Mixed : List Event → List Event → List Event → List Event → Prop
  | nil : Mixed [] [] [] []
  | editor {e : Event} {es cs ms all : List Event} (h : e.OfEditor) (rest : Mixed es cs ms all) :
    Mixed (e :: es) cs ms (e :: all)
  | conversation {c : Event} {es cs ms all : List Event} (h : c.OfConversation)
    (rest : Mixed es cs ms all) : Mixed es (c :: cs) ms (c :: all)
  | mode (mode : Mode) {es cs ms all : List Event} (rest : Mixed es cs ms all) :
    Mixed es cs (.switchMode mode :: ms) (.switchMode mode :: all)

theorem Mixed.ofEditor {es cs ms all : List Event} (h : Mixed es cs ms all) :
    ∀ e ∈ es, e.OfEditor := by
  induction h with
  | nil => exact nofun
  | editor he rest ih => exact List.forall_mem_cons.2 ⟨he, ih⟩
  | conversation hc rest ih => exact ih
  | mode mode rest ih => exact ih

theorem Mixed.ofConversation {es cs ms all : List Event} (h : Mixed es cs ms all) :
    ∀ c ∈ cs, c.OfConversation := by
  induction h with
  | nil => exact nofun
  | editor he rest ih => exact ih
  | conversation hc rest ih => exact List.forall_mem_cons.2 ⟨hc, ih⟩
  | mode mode rest ih => exact ih

/-- **An interleaving runs like its parts one after the other.** -/
theorem run_mixed {es cs ms all : List Event} (h : Mixed es cs ms all) (s : State) :
    s.run all = s.run (es ++ (cs ++ ms)) := by
  induction h generalizing s with
  | nil => rfl
  | editor he rest ih =>
    rw [List.cons_append, run, ih, run]
  -- The first event of the conversation is put behind the editor's, a switch behind both.
  | conversation hc rest ih =>
    rw [run, ih, ← run, List.cons_append]
    exact run_cons_append_of_commutes
      (fun e he => commutes_conversation_editor hc (rest.ofEditor e he)) _ s
  | mode mode rest ih =>
    rw [run, ih, ← run, ← List.append_assoc, ← List.append_assoc]
    refine run_cons_append_of_commutes (fun f hf => ?_) _ s
    obtain he | hc := List.mem_append.1 hf
    · exact commutes_mode_editor mode (rest.ofEditor f he)
    · exact commutes_mode_conversation mode (rest.ofConversation f hc)

/-- **The editor and the conversation are independent.**  From every state, two interleavings of
the same events of the editor, the same events of the conversation and the same switches of the
mode lead to the same state in all its parts, and send the same requests in the same order. -/
theorem run_eq_of_mixed {es cs ms all all' : List Event} (h : Mixed es cs ms all)
    (h' : Mixed es cs ms all') (s : State) : s.run all = s.run all' := by
  rw [run_mixed h, run_mixed h']

/-- A text that is no surface, a template, a message that is not answered, and a switch of the
mode. -/
theorem run_eq_of_mixed_unanswered :
    Mixed [.edit "plain", .nextTemplate] [.typeChat "hi", .sendChat, .receive 1 (.error "down")]
      [.switchMode .agent]
      [.edit "plain", .typeChat "hi", .nextTemplate, .sendChat, .switchMode .agent,
        .receive 1 (.error "down")]
    ∧ Mixed [.edit "plain", .nextTemplate] [.typeChat "hi", .sendChat, .receive 1 (.error "down")]
      [.switchMode .agent]
      [.switchMode .agent, .typeChat "hi", .sendChat, .receive 1 (.error "down"), .edit "plain",
        .nextTemplate]
    ∧ (initial defaultHistoryWindow).run [.edit "plain", .typeChat "hi", .nextTemplate, .sendChat,
        .switchMode .agent, .receive 1 (.error "down")]
      = (initial defaultHistoryWindow).run [.switchMode .agent, .typeChat "hi", .sendChat,
        .receive 1 (.error "down"), .edit "plain", .nextTemplate] := by
  have hbetween : Mixed [.edit "plain", .nextTemplate]
      [.typeChat "hi", .sendChat, .receive 1 (.error "down")] [.switchMode .agent]
      [.edit "plain", .typeChat "hi", .nextTemplate, .sendChat, .switchMode .agent,
        .receive 1 (.error "down")] :=
    .editor (.edit _) <| .conversation (.typeChat _) <| .editor .nextTemplate <|
      .conversation .sendChat <| .mode .agent <| .conversation (.receive 1 rfl) .nil
  have hapart : Mixed [.edit "plain", .nextTemplate]
      [.typeChat "hi", .sendChat, .receive 1 (.error "down")] [.switchMode .agent]
      [.switchMode .agent, .typeChat "hi", .sendChat, .receive 1 (.error "down"), .edit "plain",
        .nextTemplate] :=
    .mode .agent <| .conversation (.typeChat _) <| .conversation .sendChat <|
      .conversation (.receive 1 rfl) <| .editor (.edit _) <| .editor .nextTemplate .nil
  exact ⟨hbetween, hapart, run_eq_of_mixed hbetween hapart _⟩

end State

end SurfaceStudio.Studio
