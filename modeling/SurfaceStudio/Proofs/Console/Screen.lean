import SurfaceStudio.Proofs.Console.Moves
import SurfaceStudio.Proofs.Render.Same
import SurfaceStudio.Proofs.Studio.News
import SurfaceStudio.Proofs.Studio.Transcript

/-!
# What is on the screen

Everything that a session prints is made up of blocks: a status, a message, an error, a preview, a
report, or lines that are not about the state at all.  Only what is new is printed, and only where
the studio says that there may be something new; nevertheless the screen is never behind the studio
and shows no message twice.

  • `Block`, `Block.lines` — what is printed together,
  • `Presenter.Current` — the presenter remembers what is in a view,
  • `Session.Displays` — what is printed on the way to a session, and what is on the screen there,
  • `Session.displays_dispatch`, `Session.displays_handle`, `Session.displays_collect` — **whatever
    a session does, the screen follows**,
  • `Session.Step`, `Session.performAll` — a run after the beginning,
  • `Session.faithful_run` — **the screen is current, and every message is shown once**.
-/

namespace SurfaceStudio

open Studio

/-! ## §1. Lines. -/

namespace Shown

variable {α β : Type}

theorem lines_pure (a : α) : (Pure.pure a : Shown α).lines = [] := rfl

theorem lines_bind (x : Shown α) (f : α → Shown β) :
    (x >>= f).lines = x.lines ++ (f x.value).lines := List.filterMap_append

theorem lines_print (ls : List String) : (print ls).lines = ls := by
  show (ls.map Output.line).filterMap Output.line? = ls
  rw [List.filterMap_map]
  exact List.filterMap_some

/-- What is logged is not printed. -/
theorem lines_ofLogged (x : Logged α) : (ofLogged x).lines = [] := by
  show (x.log.map Output.record).filterMap Output.line? = []
  rw [List.filterMap_map, List.filterMap_eq_nil_iff]
  exact fun _ _ => rfl

end Shown

/-! ## §2. Blocks. -/

/-- What is printed together. -/
inductive Block where
  | status (text : String)
  | message (m : MessageView)
  /-- The error of the editor. -/
  | error (text : String)
  | preview (tree : RenderTree)
  /-- What came of a request about the operation of the backend. -/
  | report (outcome : OpsOutcome)
  /-- Lines that are not about the state. -/
  | note (lines : List String)

namespace Block

/-- The lines of a block. -/
def lines : Block → List String
  | .status text => [text]
  | .message m => messageLines m
  | .error text => [errorLine text]
  | .preview tree => previewLines tree
  | .report outcome => outcome.lines.value
  | .note lines => lines

/-- The message, if it is one. -/
def message? : Block → Option MessageView
  | .message m => some m
  | _ => none

/-- What is reported, if it is a report. -/
def outcome? : Block → Option OpsOutcome
  | .report outcome => some outcome
  | _ => none

end Block

/-! ## §3. The presenter. -/

namespace Presenter

/-- What is new in a view, block by block. -/
def newBlocks (p : Presenter) (v : View) : List Block :=
  (if p.status = some (statusLine v) then [] else [.status (statusLine v)])
    ++ (v.transcript.drop p.messages).map .message
    ++ (if v.editorError = p.error then [] else (v.editorError.map Block.error).toList)
    ++ (if p.hasPreview v.preview then [] else (v.preview.map Block.preview).toList)

theorem flatMap_lines_newBlocks (p : Presenter) (v : View) :
    (p.newBlocks v).flatMap Block.lines = p.newLines v := by
  rw [newBlocks, newLines, List.flatMap_append, List.flatMap_append, List.flatMap_append,
    List.flatMap_map]
  congr 1
  · congr 1
    · congr 1
      split <;> rfl
    · split
      · rfl
      · cases v.editorError <;> rfl
  · split
    · rfl
    · cases v.preview with
      | none => rfl
      | some tree => exact List.append_nil _

/-- A frame is looked through for something that only messages can be. -/
theorem filterMap_newBlocks {α : Type} (p : Presenter) (v : View) (f : Block → Option α)
    (hstatus : ∀ text, f (.status text) = none) (herror : ∀ text, f (.error text) = none)
    (hpreview : ∀ tree, f (.preview tree) = none) :
    (p.newBlocks v).filterMap f = (v.transcript.drop p.messages).filterMap (f ∘ .message) := by
  have hnoStatus : (if p.status = some (statusLine v) then [] else [Block.status (statusLine v)]
      ).filterMap f = [] := by
    split
    · rfl
    · rw [List.filterMap_cons_none (hstatus _), List.filterMap_nil]
  have hnoError : (if v.editorError = p.error then []
      else (v.editorError.map Block.error).toList).filterMap f = [] := by
    split
    · rfl
    · cases v.editorError with
      | none => rfl
      | some text => exact List.filterMap_cons_none (herror text)
  have hnoPreview : (if p.hasPreview v.preview then []
      else (v.preview.map Block.preview).toList).filterMap f = [] := by
    split
    · rfl
    · cases v.preview with
      | none => rfl
      | some tree => exact List.filterMap_cons_none (hpreview tree)
  rw [newBlocks, List.filterMap_append, List.filterMap_append, List.filterMap_append, hnoStatus,
    hnoError, hnoPreview, List.append_nil, List.append_nil, List.nil_append, List.filterMap_map]

/-- **The messages that are new are those behind the messages shown before.** -/
theorem filterMap_message?_newBlocks (p : Presenter) (v : View) :
    (p.newBlocks v).filterMap Block.message? = v.transcript.drop p.messages := by
  rw [filterMap_newBlocks p v _ (fun _ => rfl) (fun _ => rfl) (fun _ => rfl)]
  exact List.filterMap_some

/-- Nothing is reported in a frame. -/
theorem filterMap_outcome?_newBlocks (p : Presenter) (v : View) :
    (p.newBlocks v).filterMap Block.outcome? = [] := by
  rw [filterMap_newBlocks p v _ (fun _ => rfl) (fun _ => rfl) (fun _ => rfl),
    List.filterMap_eq_nil_iff]
  exact fun _ _ => rfl

/-- **The presenter remembers what is in a view**: how many messages there are, the status, the
error and the preview. -/
structure Current (p : Presenter) (v : View) : Prop where
  messages : p.messages = v.transcript.length
  status : p.status = some (statusLine v)
  error : p.error = v.editorError
  preview : p.hasPreview v.preview = true

/-- A preview that has been shown is the same as itself. -/
theorem hasPreview_self (p : Presenter) : p.hasPreview p.preview = true := by
  unfold hasPreview
  cases p.preview with
  | none => rfl
  | some tree => exact tree.same_refl

/-- **After a frame the presenter remembers the view**, whatever it remembered before. -/
theorem current_remember (p : Presenter) (v : View) : (p.remember v).Current v where
  messages := rfl
  status := by
    show (if _ then _ else _) = _
    split
    next h => exact h
    next => rfl
  error := by
    show (if _ then _ else _) = _
    split
    next h => exact h.symm
    next => rfl
  preview := by
    by_cases h : p.hasPreview v.preview = true
    · have hkept : (p.remember v).preview = p.preview := if_pos h
      unfold hasPreview at h ⊢
      rw [hkept]
      exact h
    · have hnew : (p.remember v).preview = v.preview := if_neg h
      rw [← hnew]
      exact hasPreview_self _

/-- **Nothing is new in a view that is remembered.** -/
theorem Current.newBlocks {p : Presenter} {v : View} (h : p.Current v) : p.newBlocks v = [] := by
  rw [Presenter.newBlocks, if_pos h.status, h.messages, List.drop_length, if_pos h.error.symm,
    if_pos h.preview]
  rfl

end Presenter

/-! ## §4. The studio. -/

namespace Studio

/-- The entries of a transcript as they are shown. -/
def State.entryViews (s : State) : List MessageView :=
  s.transcript.map fun m => (messageView m).value

theorem value_messageViews (ms : List Message) :
    (messageViews ms).value = ms.map fun m => (messageView m).value := by
  induction ms with
  | nil => rfl
  | cons m ms ih =>
    show (messageView m).value :: (messageViews ms).value = _
    rw [ih]
    rfl

theorem State.transcript_view (s : State) : s.view.value.transcript = s.entryViews :=
  value_messageViews s.transcript

/-- What has been shown stays as it is shown. -/
theorem State.entryViews_step (s : State) (e : Event) :
    ∃ added, (s.step e).state.entryViews = s.entryViews ++ added := by
  obtain ⟨added, hadded, -⟩ := s.transcript_step e
  refine ⟨added.map fun m => (messageView m).value, ?_⟩
  unfold entryViews
  rw [hadded, List.map_append]

end Studio

/-! ## §5. What a session displays. -/

namespace Session

/-- **The screen is current**: the presenter remembers the view of the studio. -/
def IsCurrent (s : Session) : Prop := s.presenter.Current s.studio.view.value

/-- **What is printed on the way to a session**: the lines are those of the blocks, the screen is
current then, and the messages among the blocks are the entries of the transcript behind those
shown before. -/
structure Displays (before : List MessageView) (x : Shown Session) (blocks : List Block) :
    Prop where
  lines : x.lines = blocks.flatMap Block.lines
  current : x.value.IsCurrent
  entries : x.value.studio.entryViews = before ++ blocks.filterMap Block.message?

/-- One part after the other. -/
theorem Displays.bind {before : List MessageView} {x : Shown Session} {f : Session → Shown Session}
    {blocks more : List Block} (hx : Displays before x blocks)
    (hf : Displays x.value.studio.entryViews (f x.value) more) :
    Displays before (x >>= f) (blocks ++ more) where
  lines := by rw [Shown.lines_bind, hx.lines, hf.lines, List.flatMap_append]
  current := hf.current
  entries := by
    show (f x.value).value.studio.entryViews = _
    rw [hf.entries, hx.entries, List.filterMap_append, List.append_assoc]

/-- Lines that are not about the state leave everything as it is. -/
theorem Displays.kept {s : Session} (h : s.IsCurrent) {x : Shown Session} {blocks : List Block}
    (hlines : x.lines = blocks.flatMap Block.lines) (hstudio : x.value.studio = s.studio)
    (hpresenter : x.value.presenter = s.presenter)
    (hmessages : blocks.filterMap Block.message? = []) :
    Displays s.studio.entryViews x blocks where
  lines := hlines
  current := by
    unfold IsCurrent
    rw [hstudio, hpresenter]
    exact h
  entries := by rw [hstudio, hmessages, List.append_nil]

theorem lines_showFrame (s : Session) :
    s.showFrame.lines = (s.presenter.newBlocks s.studio.view.value).flatMap Block.lines := by
  show (Shown.ofLogged s.studio.view >>= _).lines = _
  rw [Shown.lines_bind, Shown.lines_ofLogged, List.nil_append, Presenter.flatMap_lines_newBlocks]
  show (Shown.print _ >>= _).lines = _
  rw [Shown.lines_bind, Shown.lines_print]
  exact List.append_nil _

/-- **A further frame prints nothing.** -/
theorem IsCurrent.lines_showFrame {s : Session} (h : s.IsCurrent) : s.showFrame.lines = [] := by
  rw [Session.lines_showFrame, Presenter.Current.newBlocks h]
  rfl

/-- What is printed when everything is. -/
def fullBlocks (s : Session) : List Block := Presenter.blank.newBlocks s.studio.view.value

/-- **When everything is printed, every message is.** -/
theorem displays_showFull (s : Session) : Displays [] s.showFull s.fullBlocks where
  lines := lines_showFrame { s with presenter := .blank }
  current := Presenter.current_remember _ _
  entries := by
    rw [fullBlocks, Presenter.filterMap_message?_newBlocks, State.transcript_view]
    rfl

/-! ## §6. Events. -/

theorem lines_sendAll (s : Session) (outgoing : List Outgoing) :
    (s.sendAll outgoing).lines = [] := by
  induction outgoing generalizing s with
  | nil => rfl
  | cons o others ih =>
    show (s.send o >>= fun t => t.sendAll others).lines = []
    rw [Shown.lines_bind, ih, List.append_nil]
    show (Shown.record _ _ >>= fun _ => Shown.ofLogged _ >>= _).lines = []
    rw [Shown.lines_bind, Shown.lines_bind, Shown.record, Shown.lines_ofLogged,
      Shown.lines_ofLogged]
    rfl

/-- What is printed when an event happens. -/
def eventBlocks (s : Session) (e : Event) : List Block :=
  if (s.studio.step e).state.dirty then
    s.presenter.newBlocks (s.studio.step e).state.view.value
  else []

theorem lines_dispatch (s : Session) (e : Event) :
    (s.dispatch e).lines = (s.eventBlocks e).flatMap Block.lines := by
  show (Shown.ofLogged (s.studio.update e) >>= fun next =>
    ({ s with studio := next.state.clean } : Session).sendAll next.outgoing >>= fun sent =>
      if next.state.dirty then sent.showFrame else pure sent).lines = _
  rw [Shown.lines_bind, Shown.lines_bind, Shown.lines_ofLogged, lines_sendAll, List.nil_append,
    List.nil_append]
  show (if (s.studio.step e).state.dirty then
    (Shown.value (sendAll _ (s.studio.step e).outgoing) : Session).showFrame else pure _).lines = _
  unfold eventBlocks
  by_cases hdirty : (s.studio.step e).state.dirty = true
  · rw [if_pos hdirty, if_pos hdirty, lines_showFrame, value_sendAll]
    rfl
  · rw [if_neg hdirty, if_neg hdirty, Shown.lines_pure]
    rfl

/-- **After an event the screen is current**, and the messages that were added have been shown. -/
theorem displays_dispatch {s : Session} (h : s.IsCurrent) (e : Event) :
    Displays s.studio.entryViews (s.dispatch e) (s.eventBlocks e) := by
  by_cases hnews : (s.studio.step e).state.dirty = true
  · have hblocks : s.eventBlocks e
        = s.presenter.newBlocks (s.studio.step e).state.view.value := if_pos hnews
    have hpresenter : s.presenterAfter e
        = s.presenter.remember (s.studio.step e).state.view.value := if_pos hnews
    have hshown : s.presenter.messages = s.studio.entryViews.length := by
      rw [h.messages, State.transcript_view]
    obtain ⟨added, hadded⟩ := s.studio.entryViews_step e
    exact {
      lines := s.lines_dispatch e
      current := by
        rw [value_dispatch, hpresenter]
        exact Presenter.current_remember _ _
      entries := by
        rw [value_dispatch, hblocks, Presenter.filterMap_message?_newBlocks,
          State.transcript_view, hshown, hadded, List.drop_left]
        exact hadded }
  · -- Nothing has happened, so nothing is printed and the same is remembered.
    have hkept := (s.studio.news_or_kept e).resolve_left hnews
    have hclean : (s.studio.step e).state.clean = s.studio := by
      rw [State.clean_eq_self (Bool.eq_false_iff.2 hnews), hkept]
    have hblocks : s.eventBlocks e = [] := if_neg hnews
    have hpresenter : s.presenterAfter e = s.presenter := if_neg hnews
    refine Displays.kept h (s.lines_dispatch e) ?_ ?_ ?_
    · rw [value_dispatch, hclean]
    · rw [value_dispatch, hpresenter]
    · rw [hblocks]
      rfl

/-! ## §7. Commands and completions. -/

/-- What is printed when a file is loaded. -/
def loadBlocks (s : Session) (path : String) (answer : FileAnswer) : List Block :=
  match answer.text with
  | .ok text => s.eventBlocks (.edit text)
  | .error fault => [.note ["! could not read " ++ path ++ ": " ++ fault.message]]

/-- What is printed when a command is handled. -/
def commandBlocks (s : Session) (files : String → FileAnswer) : Command → List Block
  | .event e => s.eventBlocks e
  | .chat query =>
    s.eventBlocks (.typeChat query) ++ (s.dispatch (.typeChat query)).value.eventBlocks .sendChat
  | .load path => s.loadBlocks path (files path)
  | .ops _ => []
  | .listTemplates => [.note (Template.all.map fun t => indent 1 ++ t.name)]
  | .showAll => s.fullBlocks
  | .help => [.note Command.helpLines]
  | .quit => []
  | .invalid fault => [.note ["! " ++ fault.message]]

/-- What is printed when a completion is taken. -/
def completionBlocks (s : Session) : Completion → List Block
  | .answered id result => s.eventBlocks (receiveEvent id result)
  | .ops outcome => [.report outcome]

/-- What is printed when completions are taken in their order. -/
def completionsBlocks (s : Session) : List Completion → List Block
  | [] => []
  | c :: others => s.completionBlocks c ++ (s.receive c).value.completionsBlocks others

theorem lines_say (s : Session) (ls : List String) : (s.say ls).lines = ls := by
  show (Shown.print ls >>= fun _ => pure s).lines = ls
  rw [Shown.lines_bind, Shown.lines_print, Shown.lines_pure, List.append_nil]

/-- Lines that are not about the state leave the screen current. -/
theorem displays_say {s : Session} (h : s.IsCurrent) (ls : List String) :
    Displays s.studio.entryViews (s.say ls) [.note ls] := by
  refine Displays.kept h ?_ rfl rfl rfl
  rw [lines_say]
  exact (List.append_nil ls).symm

theorem displays_load {s : Session} (h : s.IsCurrent) (path : String) (answer : FileAnswer) :
    Displays s.studio.entryViews (s.load path answer) (s.loadBlocks path answer) := by
  unfold load loadBlocks
  cases answer.text with
  | ok text => exact displays_dispatch h (.edit text)
  | error fault =>
    refine Displays.kept h ?_ rfl rfl rfl
    show (Shown.record _ _ >>= fun _ => s.say [_]).lines = _
    rw [Shown.lines_bind, Shown.record, Shown.lines_ofLogged, lines_say]
    rfl

/-- **After a command the screen is current**, unless it has everything printed: then all messages
are. -/
theorem displays_handle {s : Session} (h : s.IsCurrent) (files : String → FileAnswer)
    {c : Command} (hc : c ≠ .showAll) :
    Displays s.studio.entryViews (s.handle files c) (s.commandBlocks files c) := by
  cases c with
  | event e => exact displays_dispatch h e
  | chat query =>
    have htyped := displays_dispatch h (.typeChat query)
    exact htyped.bind (displays_dispatch htyped.current .sendChat)
  | load path => exact displays_load h path (files path)
  | ops request => exact .kept h rfl rfl rfl rfl
  | listTemplates => exact displays_say h _
  | showAll => exact absurd rfl hc
  | help => exact displays_say h _
  | quit => exact .kept h rfl rfl rfl rfl
  | invalid fault => exact displays_say h _

theorem displays_receive {s : Session} (h : s.IsCurrent) (c : Completion) :
    Displays s.studio.entryViews (s.receive c) (s.completionBlocks c) := by
  cases c with
  | answered id result => exact displays_dispatch h (receiveEvent id result)
  | ops outcome =>
    refine Displays.kept h ?_ rfl rfl rfl
    show (Shown.ofLogged outcome.lines >>= fun ls => s.say ls).lines = _
    rw [Shown.lines_bind, Shown.lines_ofLogged, lines_say]
    exact (List.append_nil _).symm

/-- **After completions are taken the screen is current.** -/
theorem displays_receiveAll {s : Session} (h : s.IsCurrent) (done : List Completion) :
    Displays s.studio.entryViews (s.receiveAll done) (s.completionsBlocks done) := by
  induction done generalizing s with
  | nil => exact .kept h rfl rfl rfl rfl
  | cons c others ih =>
    have hfirst := displays_receive h c
    exact hfirst.bind (ih hfirst.current)

theorem displays_advance {s : Session} (h : s.IsCurrent) (moves : List EngineMove) :
    Displays s.studio.entryViews (s.advance moves) [] := by
  refine Displays.kept h ?_ rfl rfl rfl
  show (Shown.ofLogged (s.work.moves s.engine moves) >>= _).lines = []
  rw [Shown.lines_bind, Shown.lines_ofLogged]
  rfl

/-! ## §8. Runs. -/

/-- What is done with a session after its beginning. -/
inductive Step where
  /-- A command is handled; `files` answers when a file is read. -/
  | handle (files : String → FileAnswer) (command : Command)
  /-- The engine goes on. -/
  | advance (moves : List EngineMove)
  /-- Completions are collected, whatever they are. -/
  | collect (done : List Completion)

/-- Everything is printed in the step. -/
def Step.ShowsAll (step : Step) : Prop := ∃ files, step = .handle files .showAll

def perform (s : Session) : Step → Shown Session
  | .handle files command => s.handle files command
  | .advance moves => s.advance moves
  | .collect done => (s.waiting done).collect

/-- One step after the other. -/
def performAll (s : Session) : List Step → Shown Session
  | [] => return s
  | step :: steps => do performAll (← s.perform step) steps

/-- What is printed in a step. -/
def stepBlocks (s : Session) : Step → List Block
  | .handle files command => s.commandBlocks files command
  | .advance _ => []
  | .collect done => (s.waiting []).completionsBlocks done

/-- What is printed in steps, one after the other. -/
def runBlocks (s : Session) : List Step → List Block
  | [] => []
  | step :: steps => s.stepBlocks step ++ (s.perform step).value.runBlocks steps

theorem displays_perform {s : Session} (h : s.IsCurrent) {step : Step} (hstep : ¬ step.ShowsAll) :
    Displays s.studio.entryViews (s.perform step) (s.stepBlocks step) := by
  cases step with
  | handle files command =>
    have hcommand : command ≠ .showAll := by
      rintro rfl
      exact hstep ⟨files, rfl⟩
    exact displays_handle h files hcommand
  | advance moves => exact displays_advance h moves
  | collect done =>
    have hwaiting : (s.waiting []).IsCurrent := h
    exact displays_receiveAll hwaiting done

/-- **The screen is current after each step.** -/
theorem current_perform {s : Session} (h : s.IsCurrent) (step : Step) :
    (s.perform step).value.IsCurrent ∧
      (s.perform step).lines = (s.stepBlocks step).flatMap Block.lines := by
  by_cases hstep : step.ShowsAll
  · obtain ⟨files, rfl⟩ := hstep
    exact ⟨s.displays_showFull.current, s.displays_showFull.lines⟩
  · have hdisplays := displays_perform h hstep
    exact ⟨hdisplays.current, hdisplays.lines⟩

theorem current_performAll {s : Session} (h : s.IsCurrent) (steps : List Step) :
    (s.performAll steps).value.IsCurrent ∧
      (s.performAll steps).lines = (s.runBlocks steps).flatMap Block.lines := by
  induction steps generalizing s with
  | nil => exact ⟨h, rfl⟩
  | cons step steps ih =>
    obtain ⟨hcurrent, hlines⟩ := current_perform h step
    obtain ⟨hlast, hothers⟩ := ih hcurrent
    refine ⟨hlast, ?_⟩
    show (s.perform step >>= fun t => t.performAll steps).lines = _
    rw [Shown.lines_bind, hlines, hothers, runBlocks, List.flatMap_append]

/-- **Between two full prints every message is shown once**: the messages printed are the entries
that are added, in their order. -/
theorem displays_performAll {s : Session} (h : s.IsCurrent) {steps : List Step}
    (hsteps : ∀ step ∈ steps, ¬ step.ShowsAll) :
    Displays s.studio.entryViews (s.performAll steps) (s.runBlocks steps) := by
  induction steps generalizing s with
  | nil => exact .kept h rfl rfl rfl rfl
  | cons step steps ih =>
    have hfirst := displays_perform h (hsteps step List.mem_cons_self)
    have hothers := ih hfirst.current fun t ht => hsteps t (List.mem_cons_of_mem step ht)
    exact hfirst.bind hothers

theorem value_performAll_append (s : Session) (before after : List Step) :
    (s.performAll (before ++ after)).value
      = ((s.performAll before).value.performAll after).value := by
  induction before generalizing s with
  | nil => rfl
  | cons step steps ih => exact ih (s.perform step).value

/-! ## §9. From the beginning. -/

/-- Nothing has happened and nothing has been shown. -/
def unseen (engine : Engine) (historyWindow : Nat) : Session :=
  ⟨engine, State.initial historyWindow, .blank, .idle⟩

/-- What is printed for the text that is put into the editor first. -/
def firstBlocks (s : Session) : Option String → List Block
  | some text => s.eventBlocks (.edit text)
  | none => []

/-- What is printed at the beginning of a session. -/
def startBlocks (engine : Engine) (historyWindow : Nat) (editor : Option String) : List Block :=
  (unseen engine historyWindow).firstBlocks editor
    ++ ((unseen engine historyWindow).editFirst editor).value.fullBlocks

theorem lines_editFirst (s : Session) (editor : Option String) :
    (s.editFirst editor).lines = (s.firstBlocks editor).flatMap Block.lines := by
  cases editor with
  | none => rfl
  | some text => exact s.lines_dispatch (.edit text)

/-- There is no message to be shown yet. -/
theorem filterMap_message?_firstBlocks (engine : Engine) (historyWindow : Nat)
    (editor : Option String) :
    ((unseen engine historyWindow).firstBlocks editor).filterMap Block.message? = [] := by
  cases editor with
  | none => rfl
  | some text =>
    have hentries : ((State.initial historyWindow).step (.edit text)).state.entryViews = [] := by
      rw [State.step, State.update, State.value_quietly, State.edit]
      split <;> rfl
    show (if _ then _ else _ : List Block).filterMap Block.message? = []
    split
    · rw [Presenter.filterMap_message?_newBlocks, State.transcript_view]
      show List.drop _ ((State.initial historyWindow).step (.edit text)).state.entryViews = []
      rw [hentries, List.drop_nil]
    · rfl

/-- **At the beginning everything is printed**, after what a text for the editor brings. -/
theorem displays_start (engine : Engine) (historyWindow : Nat) (editor : Option String) :
    Displays [] (start engine historyWindow editor) (startBlocks engine historyWindow editor) := by
  have hfull := displays_showFull ((unseen engine historyWindow).editFirst editor).value
  exact {
    lines := by
      show ((unseen engine historyWindow).editFirst editor >>= fun s => s.showFull).lines = _
      rw [Shown.lines_bind, lines_editFirst, hfull.lines, startBlocks, List.flatMap_append]
    current := hfull.current
    entries := by
      rw [startBlocks, List.filterMap_append, filterMap_message?_firstBlocks]
      exact hfull.entries }

/-- **What is on the screen after a run**, from the beginning of a session on. -/
structure Faithful (engine : Engine) (historyWindow : Nat) (editor : Option String)
    (steps : List Step) : Prop where
  /-- The presenter remembers how many messages there are, the status, the error and the
  preview. -/
  current : ((start engine historyWindow editor).value.performAll steps).value.IsCurrent
  /-- A further frame prints nothing. -/
  settled : ((start engine historyWindow editor).value.performAll steps).value.showFrame.lines = []
  /-- All that is printed is made up of these blocks. -/
  printed : (do (← start engine historyWindow editor).performAll steps).lines
    = (startBlocks engine historyWindow editor
      ++ (start engine historyWindow editor).value.runBlocks steps).flatMap Block.lines
  /-- If everything was printed at the beginning and not again, each entry of the transcript has
  been shown once, in its order. -/
  fromStart : (∀ step ∈ steps, ¬ step.ShowsAll) →
    (startBlocks engine historyWindow editor
      ++ (start engine historyWindow editor).value.runBlocks steps).filterMap Block.message?
      = ((start engine historyWindow editor).value.performAll steps).value.studio.entryViews
  /-- If everything was printed in a step and not again, each entry has been shown once since then,
  in its order. -/
  fromShow : ∀ before files after, steps = before ++ .handle files .showAll :: after →
    (∀ step ∈ after, ¬ step.ShowsAll) →
    (((start engine historyWindow editor).value.performAll before).value.runBlocks
      (.handle files .showAll :: after)).filterMap Block.message?
      = ((start engine historyWindow editor).value.performAll steps).value.studio.entryViews

/-- **The screen is current after every step, and shows each message once.**  Whatever commands are
handled and whatever completions are collected, the presenter remembers what is in the view, and
between two full prints the messages printed are the entries of the transcript, none lost and none
repeated. -/
theorem faithful_run (engine : Engine) (historyWindow : Nat) (editor : Option String)
    (steps : List Step) : Faithful engine historyWindow editor steps := by
  have hstart := displays_start engine historyWindow editor
  obtain ⟨hcurrent, hlines⟩ := current_performAll hstart.current steps
  exact {
    current := hcurrent
    settled := hcurrent.lines_showFrame
    printed := by
      show (start engine historyWindow editor >>= fun s => s.performAll steps).lines = _
      rw [Shown.lines_bind, hstart.lines, hlines, List.flatMap_append]
    fromStart := fun hsteps => by
      have hrun := hstart.bind (f := fun s => s.performAll steps)
        (displays_performAll hstart.current hsteps)
      exact hrun.entries.symm
    fromShow := fun before files after hsplit hafter => by
      subst hsplit
      -- The full print starts over, and from there on only new messages are printed.
      have hshow := displays_showFull
        ((start engine historyWindow editor).value.performAll before).value
      have hrun := hshow.bind (f := fun s => s.performAll after)
        (displays_performAll hshow.current hafter)
      rw [value_performAll_append]
      exact hrun.entries.symm }

end Session

end SurfaceStudio
