import SurfaceStudio.Proofs.Studio.Run

/-!
# The last writer wins

Typed texts, templates and replies write the preview, and each write takes the place of the one
before.  So the preview is what was written last, and everything that writes nothing leaves it as
it is.

  • `State.produced?` — the surface that an event produces, if it produces one,
  • `State.preview_step`, `State.preview_run` — what one event writes, and what a run does,
  • `State.Silent`, `State.LastWritten` — nothing is written in a run, and what is written last,
  • `State.lastWriter_run` — **in every run the preview is what was written last**.
-/

namespace SurfaceStudio.Studio.State

/-! ## §1. One event. -/

/-- **The surface that an event produces**: a text that stands for one, a template that there is,
and a reply that brings one to a request under way. -/
def produced? (s : State) : Event → Option Surface
  | .edit text => (Surface.parse text).toOption
  | .loadTemplate name => (Template.find? name).map Template.surface
  | .nextTemplate => some (Template.atTurn s.templateTurn.toNat).surface
  | .receive id (.ok reply) => if id ∈ s.inFlight then reply.surface else none
  | _ => none

theorem preview_of_editorSide_eq {s s' : State} (h : s'.editorSide = s.editorSide) :
    s'.preview = s.preview :=
  congrArg EditorSide.preview h

theorem produced?_receive (s : State) (id : RequestId) (answer : Except String Reply) :
    s.produced? (.receive id answer) = if id ∈ s.inFlight then answerSurface? answer else none := by
  cases answer with
  | ok reply => rfl
  | error reason => exact (ite_self none).symm

theorem preview_receive (s : State) (id : RequestId) (answer : Except String Reply) :
    (s.step (.receive id answer)).state.preview
      = (s.produced? (.receive id answer)).or s.preview := by
  rw [produced?_receive]
  split
  next hid =>
    cases hsurface : answerSurface? answer with
    | some surface =>
      exact congrArg EditorSide.preview (editorSide_receive_of_surface hid hsurface)
    | none => exact preview_of_editorSide_eq (editorSide_receive_of_none s id hsurface)
  next hid =>
    rw [step_receive_of_not_mem hid]
    rfl

/-- **An event writes what it produces and nothing else.** -/
theorem preview_step (s : State) (e : Event) :
    (s.step e).state.preview = (s.produced? e).or s.preview := by
  cases e with
  | edit text =>
    rw [step, update, value_quietly, edit, produced?]
    cases Surface.parse text with
    | ok surface => rfl
    | error error => rfl
  | loadTemplate name =>
    rw [step, update, value_quietly, loadNamed, produced?]
    cases Template.find? name with
    | some template => rfl
    | none => rfl
  | nextTemplate => rfl
  | switchMode mode =>
    show (s.switchMode mode).preview = s.preview
    rw [switchMode]
    split <;> rfl
  | typeChat text => rfl
  | sendChat =>
    show s.sendChat.state.preview = s.preview
    rw [sendChat]
    split
    · rfl
    · exact preview_of_editorSide_eq (editorSide_ask _ _)
  | ask query => exact preview_of_editorSide_eq (editorSide_ask s query)
  | receive id answer => exact preview_receive s id answer

/-! ## §2. Runs. -/

/-- The surface that is produced last in a run, if one is. -/
def lastProduced? (s : State) : List Event → Option Surface
  | [] => none
  | e :: es => ((s.step e).state.lastProduced? es).or (s.produced? e)

/-- **A run writes what it produces last.** -/
theorem preview_run (s : State) (events : List Event) :
    (s.run events).state.preview = (s.lastProduced? events).or s.preview := by
  induction events generalizing s with
  | nil => rfl
  | cons e es ih =>
    calc (s.run (e :: es)).state.preview
        = ((s.step e).state.lastProduced? es).or (s.step e).state.preview := ih (s.step e).state
      _ = ((s.step e).state.lastProduced? es).or ((s.produced? e).or s.preview) := by
          rw [preview_step]
      _ = (s.lastProduced? (e :: es)).or s.preview := by rw [lastProduced?, Option.or_assoc]

/-- No event of a run produces a surface. -/
def Silent (s : State) (events : List Event) : Prop :=
  ∀ before e after, events = before ++ e :: after → (s.run before).state.produced? e = none

theorem silent_cons_iff {s : State} {e : Event} {es : List Event} :
    s.Silent (e :: es) ↔ s.produced? e = none ∧ (s.step e).state.Silent es := by
  constructor
  · intro h
    refine ⟨h [] e es rfl, fun before e' after hes => ?_⟩
    exact h (e :: before) e' after (congrArg (e :: ·) hes)
  · intro h before e' after hes
    obtain ⟨hfirst, hrest⟩ := h
    -- The event is the first one of the run, or it belongs to the rest.
    cases before with
    | nil =>
      obtain ⟨rfl, -⟩ := List.cons.inj hes
      exact hfirst
    | cons first before =>
      obtain ⟨rfl, hlater⟩ := List.cons.inj hes
      exact hrest before e' after hlater

theorem lastProduced?_eq_none_iff {s : State} {events : List Event} :
    s.lastProduced? events = none ↔ s.Silent events := by
  induction events generalizing s with
  | nil =>
    refine ⟨fun _ before e after hnil => ?_, fun _ => rfl⟩
    cases before with
    | nil => cases hnil
    | cons _ _ => cases hnil
  | cons e es ih => rw [lastProduced?, Option.or_eq_none_iff, silent_cons_iff, ih, and_comm]

/-- Where the surface that is produced last comes from. -/
theorem exists_of_lastProduced? {s : State} {events : List Event} {surface : Surface}
    (h : s.lastProduced? events = some surface) :
    ∃ before e after, events = before ++ e :: after
      ∧ (s.run before).state.produced? e = some surface
      ∧ (s.run (before ++ [e])).state.Silent after := by
  induction events generalizing s with
  | nil => cases h
  | cons e es ih =>
    rw [lastProduced?] at h
    cases hrest : (s.step e).state.lastProduced? es with
    -- Something is produced later on.
    | some later =>
      rw [hrest] at h
      obtain ⟨before, e', after, rfl, hproduced, hsilent⟩ := ih (hrest.trans h)
      exact ⟨e :: before, e', after, rfl, hproduced, hsilent⟩
    -- The first event is the last one to produce a surface.
    | none =>
      rw [hrest] at h
      exact ⟨[], e, es, rfl, h, lastProduced?_eq_none_iff.1 hrest⟩

/-! ## §3. The last writer. -/

/-- **The surface that is written last** in a run that begins with `first` in the preview: that of
the last event to produce one, or `first` itself. -/
inductive LastWritten (s : State) (first : Surface) : List Event → Surface → Prop
  | produced {before after : List Event} {e : Event} {surface : Surface}
    (h : (s.run before).state.produced? e = some surface)
    (hafter : (s.run (before ++ [e])).state.Silent after) :
    LastWritten s first (before ++ e :: after) surface
  | untouched {events : List Event} (h : s.Silent events) : LastWritten s first events first

/-- A run in which nothing is produced leaves the preview as it is. -/
theorem preview_of_silent {s : State} {events : List Event} (h : s.Silent events) :
    (s.run events).state.preview = s.preview := by
  rw [preview_run, lastProduced?_eq_none_iff.2 h]
  rfl

theorem preview_eq_some_iff {s : State} {first : Surface} (hfirst : s.preview = some first)
    (events : List Event) (surface : Surface) :
    (s.run events).state.preview = some surface ↔ LastWritten s first events surface := by
  constructor
  · intro h
    rw [preview_run, hfirst] at h
    cases hlast : s.lastProduced? events with
    | none =>
      rw [hlast] at h
      obtain rfl := Option.some.inj h
      exact .untouched (lastProduced?_eq_none_iff.1 hlast)
    | some last =>
      rw [hlast] at h
      obtain ⟨before, e, after, rfl, hproduced, hsilent⟩ := exists_of_lastProduced? (hlast.trans h)
      exact .produced hproduced hsilent
  · intro h
    cases h with
    | @produced before after e surface h hafter =>
      have hsplit : before ++ e :: after = before ++ [e] ++ after := (List.append_cons _ _ _)
      rw [hsplit, state_run_append, preview_of_silent hafter, state_run_concat, preview_step, h]
      rfl
    | untouched h => rw [preview_of_silent h, hfirst]

/-- **The last writer wins** in a run from the start. -/
structure LastWriter (historyWindow : Nat) (events : List Event) : Prop where
  /-- There is a preview at the end. -/
  shown : ∃ surface, ((initial historyWindow).run events).state.preview = some surface
  /-- It is the surface that was written last, or the one shown at the start. -/
  written : ∀ surface, ((initial historyWindow).run events).state.preview = some surface
    ↔ LastWritten (initial historyWindow) Surface.welcome events surface
  /-- An event that produces no surface leaves the preview as it is. -/
  kept : ∀ before e after, events = before ++ e :: after →
    ((initial historyWindow).run before).state.produced? e = none →
      ((initial historyWindow).run (before ++ [e])).state.preview
        = ((initial historyWindow).run before).state.preview

/-- **In every run the last writer wins**, whatever other events come in between. -/
theorem lastWriter_run (historyWindow : Nat) (events : List Event) :
    LastWriter historyWindow events where
  shown := by
    rw [preview_run]
    cases (initial historyWindow).lastProduced? events with
    | none => exact ⟨Surface.welcome, rfl⟩
    | some surface => exact ⟨surface, rfl⟩
  written surface := preview_eq_some_iff rfl events surface
  kept before e after _ hnone := by
    rw [state_run_concat, preview_step, hnone]
    rfl

end SurfaceStudio.Studio.State
