import SurfaceStudio.Proofs.Studio.Run
import SurfaceStudio.Proofs.Surface.Templates

/-!
# The editor and its preview

Typed text, templates and replies all change the text in the editor, the preview and the fault
that is shown above it.  Whatever the order in which they come, the three fit together.

  • `State.lastTouch` — the last event of a run that had to do with the editor,
  • `State.Coherent` — the preview is what the text stands for, or the fault says why it is not,
  • `State.coherent_step`, `State.coherent_run` — one event keeps it, and so every run has it,
  • `State.coherent_from_start` — **every state that is reached is coherent**.
-/

namespace SurfaceStudio

/-! ## §1. Messages. -/

theorem Json.Fault.message_ne_empty (fault : Json.Fault) : fault.message ≠ "" := by
  intro h
  -- Whatever the cause is, the words in the middle are there.
  have hlength := congrArg String.length h
  simp only [Json.Fault.message, String.length_append] at hlength
  have hword : " at line ".length = 9 := rfl
  have hempty : "".length = 0 := rfl
  omega

theorem SurfaceFault.message_ne_empty (fault : SurfaceFault) : fault.message ≠ "" := by
  cases fault <;> decide

theorem ParseError.message_ne_empty (error : ParseError) : error.message ≠ "" := by
  cases error with
  | malformed fault =>
    rw [ParseError.message]
    exact fault.message_ne_empty
  | shape fault =>
    rw [ParseError.message]
    exact fault.message_ne_empty

namespace Studio

theorem EditorFault.message_ne_empty (fault : EditorFault) : fault.message ≠ "" := by
  cases fault with
  | rejected error =>
    show error.message ≠ ""
    exact error.message_ne_empty
  | unknownTemplate name =>
    show "unknown template `" ++ name ++ "`" ≠ ""
    intro h
    have hlength := congrArg String.length h
    rw [String.length_append, String.length_append] at hlength
    have hword : "unknown template `".length = 18 := rfl
    have hempty : "".length = 0 := rfl
    omega

namespace State

/-! ## §2. The last touch. -/

/-- The last event of a run that had to do with the editor. -/
def lastTouch (s : State) : List Event → Option Event
  | [] => none
  | e :: es =>
    ((s.step e).state.lastTouch es).or (if s.touchesEditor e then some e else none)

/-! ## §3. The invariant. -/

/-- **The three parts of the editor fit together**, where `last` is the last event that had to do
with it: there is a preview; without a fault the text stands for the preview; and a fault says why
the text stands for nothing, or that the last event asked for a template that there is not. -/
structure Coherent (side : EditorSide) (last : Option Event) : Prop where
  preview : ∃ surface, side.preview = some surface
  valid : side.fault = none → ∃ surface, side.preview = some surface
    ∧ Surface.parse side.text = .ok surface
  faulty : ∀ message, side.fault.map EditorFault.message = some message → message ≠ ""
    ∧ ((∃ error, Surface.parse side.text = .error error ∧ error.message = message)
      ∨ ∃ name, last = some (.loadTemplate name) ∧ Template.find? name = none
        ∧ message = "unknown template `" ++ Text.trim name ++ "`")

/-- The surfaces that an event brings come back from their text. -/
def Readable (e : Event) : Prop :=
  ∀ surface, Shows e surface → Surface.parse surface.pretty = .ok surface

theorem coherent_shown {surface : Surface} (h : Surface.parse surface.pretty = .ok surface)
    (last : Option Event) : Coherent ⟨surface.pretty, none, some surface⟩ last where
  preview := ⟨surface, rfl⟩
  valid _ := ⟨surface, rfl, h⟩
  faulty _ hfault := nomatch hfault

theorem coherent_initial (historyWindow : Nat) :
    Coherent (initial historyWindow).editorSide none :=
  coherent_shown (Template.parse_pretty_builtIn _ List.mem_cons_self) none

/-- **One event keeps the editor coherent.** -/
theorem coherent_step {s : State} {last : Option Event} (h : Coherent s.editorSide last)
    {e : Event} (he : Readable e) : Coherent (s.step e).state.editorSide
      ((if s.touchesEditor e then some e else none).or last) := by
  have hstep := editorStep s e
  generalize (s.step e).state.editorSide = after at hstep
  cases hstep with
  | untouched htouches =>
    rw [htouches]
    exact h
  | @valid text surface hparse =>
    exact {
      preview := ⟨surface, rfl⟩
      valid := fun _ => ⟨surface, rfl, hparse⟩
      faulty := fun _ hfault => nomatch hfault }
  -- The preview stays as it was, and the text is not what it was.
  | @invalid text error hparse =>
    exact {
      preview := h.preview
      valid := fun hfault => nomatch hfault
      faulty := by
        rintro _ ⟨⟩
        exact ⟨error.message_ne_empty, .inl ⟨error, hparse, rfl⟩⟩ }
  -- The text stays as well, and the event is the last that had to do with the editor.
  | @unknown name hfind =>
    exact {
      preview := h.preview
      valid := fun hfault => nomatch hfault
      faulty := by
        rintro _ ⟨⟩
        exact ⟨EditorFault.message_ne_empty _, .inr ⟨name, rfl, hfind, rfl⟩⟩ }
  | shown htouches hshows => exact coherent_shown (he _ hshows) _

/-- **Every run keeps the editor coherent.** -/
theorem coherent_run {s : State} {last : Option Event} (h : Coherent s.editorSide last)
    {events : List Event} (he : ∀ e ∈ events, Readable e) :
    Coherent (s.run events).state.editorSide ((s.lastTouch events).or last) := by
  induction events generalizing s last with
  | nil => exact h
  | cons e es ih =>
    have hfirst := coherent_step h (he e List.mem_cons_self)
    have hrest := ih hfirst fun e' he' => he e' (List.mem_cons_of_mem _ he')
    -- A touch in the rest of the run comes after one by the first event.
    show Coherent _ ((((s.step e).state.lastTouch es).or _).or last)
    rw [Option.or_assoc]
    exact hrest

/-! ## §4. Replies. -/

/-- A reply brings a surface only if that is decoded from JSON with at most 126 brackets open at
once, which is what the object around it leaves, and with numbers that read back. -/
def Decodes (e : Event) : Prop :=
  ∀ id reply surface, e = .receive id (.ok reply) → reply.surface = some surface →
    surface.DecodedWithin 126

theorem readable_of_decodes {e : Event} (h : Decodes e) : Readable e := by
  intro surface hshows
  cases hshows with
  | template _ ht => exact Template.parse_pretty_of_mem ht
  | @reply id reply _ hsurface =>
    have hdecoded : surface.DecodedWithin 126 := h id reply surface rfl hsurface
    -- A text may open one bracket more than the surface in a reply.
    have hlegible : surface.toJson.Legible Json.bracketBudget := by
      obtain ⟨hnesting, hnumbers⟩ := hdecoded.legible
      exact ⟨Nat.le_succ_of_le hnesting, hnumbers⟩
    exact Surface.parse_write hdecoded.sound Json.Layout.plain_indented hlegible

/-- **In every state that is reached the editor is coherent.** -/
theorem coherent_from_start (historyWindow : Nat) (events : List Event)
    (h : ∀ e ∈ events, Decodes e) :
    Coherent ((initial historyWindow).run events).state.editorSide
      ((initial historyWindow).lastTouch events) := by
  have hreadable : ∀ e ∈ events, Readable e := fun e he => readable_of_decodes (h e he)
  have hrun := coherent_run (coherent_initial historyWindow) hreadable
  rwa [Option.or_none] at hrun

/-- A query, a reply that brings a surface, and a template that there is not. -/
def replyRun : List Event :=
  [.ask "hi", .receive 1 (.ok ⟨"", some (.new "s" []), none⟩), .loadTemplate "none"]

theorem coherent_from_start_replyRun :
    Coherent ((initial 5).run replyRun).state.editorSide ((initial 5).lastTouch replyRun) := by
  refine coherent_from_start 5 replyRun fun e he id reply surface hreply hsurface => ?_
  have hdecoded : (Surface.new "s" []).DecodedWithin 126 := by
    have hsorted : Members.Sorted [("content", .array []), ("surfaceId", .string "s")] := by
      show ["content", "surfaceId"].Pairwise (· < ·)
      decide
    have hcanonical :
        (Json.object [("content", .array []), ("surfaceId", .string "s")]).Canonical :=
      ⟨hsorted, trivial, trivial, trivial⟩
    exact .checked hcanonical ⟨by decide, fun n hn => nomatch hn⟩ rfl
  -- Only one event of the run is a reply.
  subst hreply
  simp only [replyRun, List.mem_cons, reduceCtorEq, Event.receive.injEq, Except.ok.injEq,
    false_or, List.not_mem_nil, or_false] at he
  obtain ⟨-, rfl⟩ := he
  injection hsurface with hsurface
  exact hsurface ▸ hdecoded

end State

end Studio

end SurfaceStudio
