import SurfaceStudio.Proofs.Studio.Requests
import SurfaceStudio.Studio.View

/-!
# What is new is noted

What is shown is drawn anew only after the studio has noted that there may be something new.  Events
that come to nothing leave no note; every other event leaves one, and none takes a note back.  So
where there is no note nothing has happened at all.

  • `State.IsIdle` — the events that come to nothing in a state,
  • `State.step_of_isIdle`, `State.dirty_step` — **an event comes to nothing or is noted**,
  • `State.news_or_kept`, `State.news_or_kept_run` — one event and a whole run,
  • `State.Noted`, `State.noted_everywhere` — **without a note everything is as it was**.
-/

namespace SurfaceStudio.Studio.State

/-! ## §1. Events that come to nothing. -/

/-- **The event comes to nothing**: the studio is in the mode already, there is nothing but white
space to send, or no such request is under way. -/
def IsIdle (s : State) : Event → Prop
  | .switchMode mode => s.mode = mode
  | .sendChat => Text.isBlankText s.chatInput = true
  | .ask query => Text.isBlankText query = true
  | .receive id _ => id ∉ s.inFlight
  | _ => False

theorem ask_of_blank (s : State) {query : String} (h : Text.isBlankText query = true) :
    s.ask query = ⟨s, []⟩ := if_pos h

/-- **An event that comes to nothing leaves the state as it is**, and sends nothing. -/
theorem step_of_isIdle {s : State} {e : Event} (h : s.IsIdle e) : s.step e = ⟨s, []⟩ := by
  cases e with
  | switchMode mode =>
    have hmode : s.switchMode mode = s := if_pos h
    show Transition.mk (s.switchMode mode) [] = ⟨s, []⟩
    rw [hmode]
  | sendChat => exact if_pos h
  | ask query => exact s.ask_of_blank h
  | receive id answer => exact step_receive_of_not_mem h answer
  | edit text => exact absurd h id
  | loadTemplate name => exact absurd h id
  | nextTemplate => exact absurd h id
  | typeChat text => exact absurd h id

/-! ## §2. Events that are noted. -/

theorem dirty_ask {s : State} {query : String} (h : Text.isBlankText query ≠ true) :
    (s.ask query).state.dirty = true := by
  rw [ask, if_neg h]
  rfl

theorem dirty_receive {s : State} {id : RequestId} (h : id ∈ s.inFlight)
    (answer : Except String Reply) : (s.step (.receive id answer)).state.dirty = true := by
  have hcontains : s.inFlight.contains id = true := by simpa using h
  rw [step, update, value_quietly, receive, hcontains]
  cases answer with
  | error reason => rfl
  | ok reply => rfl

/-- **Every other event is noted.** -/
theorem dirty_step {s : State} {e : Event} (h : ¬ s.IsIdle e) : (s.step e).state.dirty = true := by
  cases e with
  | edit text =>
    show (s.edit text).value.dirty = true
    unfold edit
    split <;> rfl
  | loadTemplate name =>
    rw [step, update, value_quietly, loadNamed]
    generalize Template.find? name = found
    cases found with
    | some template => rfl
    | none => rfl
  | nextTemplate =>
    rw [step, update, value_quietly, loadNext]
    rfl
  | switchMode mode =>
    have hmode : s.switchMode mode = { s with mode, dirty := true } := if_neg h
    show (s.switchMode mode).dirty = true
    rw [hmode]
  | typeChat text => rfl
  | sendChat =>
    have hsent : s.sendChat = { s with chatInput := "", dirty := true }.ask s.chatInput := if_neg h
    show s.sendChat.state.dirty = true
    rw [hsent]
    exact dirty_ask h
  | ask query => exact dirty_ask h
  | receive id answer => exact dirty_receive (Classical.not_not.1 h) answer

/-- **An event is something new to show, or nothing has happened.** -/
theorem news_or_kept (s : State) (e : Event) :
    (s.step e).state.dirty = true ∨ s.step e = ⟨s, []⟩ := by
  by_cases h : s.IsIdle e
  · exact .inr (step_of_isIdle h)
  · exact .inl (dirty_step h)

/-- No event takes the note back. -/
theorem dirty_step_of_dirty {s : State} (h : s.dirty = true) (e : Event) :
    (s.step e).state.dirty = true := by
  obtain hnews | hkept := s.news_or_kept e
  · exact hnews
  · rw [hkept]
    exact h

theorem dirty_run_of_dirty {s : State} (h : s.dirty = true) (events : List Event) :
    (s.run events).state.dirty = true := by
  induction events generalizing s with
  | nil => exact h
  | cons e es ih => exact ih (dirty_step_of_dirty h e)

/-- **A whole run is something new to show, or nothing has happened in it.** -/
theorem news_or_kept_run (s : State) (events : List Event) :
    (s.run events).state.dirty = true ∨ s.run events = ⟨s, []⟩ := by
  -- As soon as an event is noted the rest of the run keeps the note.
  induction events with
  | nil => exact .inr rfl
  | cons e es ih =>
    obtain hnews | hkept := s.news_or_kept e
    · exact .inl (dirty_run_of_dirty hnews es)
    · rw [run, hkept]
      exact ih

theorem clean_eq_self {s : State} (h : s.dirty = false) : s.clean = s := by
  unfold clean
  rw [← h]

/-! ## §3. What the note says. -/

/-- **What the note of something new says about an event.** -/
structure Noted (s : State) (e : Event) : Prop where
  /-- Where there was no note, there is one now, or the state is the same in every part and nothing
  is sent. -/
  noted_or_same : s.dirty = false → (s.step e).state.dirty = true ∨ s.step e = ⟨s, []⟩
  /-- The events of which there is no note are those that come to nothing. -/
  clean_iff : s.dirty = false → ((s.step e).state.dirty = false ↔ s.IsIdle e)
  /-- An event that comes to nothing leaves the state as it is, whether there was a note or not. -/
  idle : s.IsIdle e → s.step e = ⟨s, []⟩
  /-- What changes the view is noted. -/
  view : (s.step e).state.view.value ≠ s.view.value → (s.step e).state.dirty = true
  /-- What sends something is noted. -/
  outgoing : (s.step e).outgoing ≠ [] → (s.step e).state.dirty = true

theorem noted (s : State) (e : Event) : s.Noted e := by
  have hcases := s.news_or_kept e
  exact {
    noted_or_same := fun _ => hcases
    clean_iff := by
      intro hclean
      constructor
      · intro hafter
        refine Classical.byContradiction fun hidle => ?_
        rw [dirty_step hidle] at hafter
        cases hafter
      · intro hidle
        rw [step_of_isIdle hidle]
        exact hclean
    idle := step_of_isIdle
    view := by
      intro hview
      refine hcases.resolve_right fun hkept => hview ?_
      rw [hkept]
    outgoing := by
      intro houtgoing
      refine hcases.resolve_right fun hkept => houtgoing ?_
      rw [hkept] }

/-- The request of an answer is no longer under way, if it was. -/
theorem not_mem_inFlight_receive {s : State} (hnodup : s.inFlight.Nodup) (id : RequestId)
    (answer : Except String Reply) : id ∉ (s.step (.receive id answer)).state.inFlight := by
  by_cases hid : id ∈ s.inFlight
  · have hinFlight : (s.step (.receive id answer)).state.inFlight = s.inFlight.erase id :=
      congrArg ConversationSide.inFlight (conversationSide_receive_of_mem hid answer)
    rw [hinFlight]
    exact hnodup.not_mem_erase
  · rw [step_receive_of_not_mem hid]
    exact hid

/-- **Without a note everything is as it was.**  In every state an event is noted or comes to
nothing, and so does a whole run.  An answer comes to nothing if it has just been taken; in a run
from the start it does if its request was never sent or has been completed before. -/
theorem noted_everywhere :
    (∀ (s : State) (e : Event), s.Noted e)
      ∧ (∀ (s : State) (events : List Event),
        (s.run events).state.dirty = true ∨ s.run events = ⟨s, []⟩)
      ∧ (∀ s : State, s.inFlight.Nodup → ∀ id first second,
        (s.step (.receive id first)).state.step (.receive id second)
          = ⟨(s.step (.receive id first)).state, []⟩)
      ∧ ∀ historyWindow events,
        ((initial historyWindow).run events).outgoing.length < 0xffffffffffffffff →
          ∀ id answer,
            id ∉ sentIds historyWindow events ∨ id ∈ (initial historyWindow).completed events →
              ((initial historyWindow).run events).state.step (.receive id answer)
                = ⟨((initial historyWindow).run events).state, []⟩ := by
  refine ⟨noted, news_or_kept_run, fun s hnodup id first second => ?_,
    fun historyWindow events hfew id answer h => ?_⟩
  · exact step_of_isIdle (not_mem_inFlight_receive hnodup id first)
  · have hinFlight := (conserved_from_start hfew).inFlight id
    refine step_of_isIdle fun hid => ?_
    obtain ⟨hsent, hdone⟩ := hinFlight.1 hid
    exact h.elim (absurd hsent) fun hcompleted => hdone hcompleted

/-- The answer to a query comes a second time. -/
theorem noted_everywhere_repeated :
    ((initial 5).run [.ask "hi", .receive 1 (.error "down")]).state.step
        (.receive 1 (.error "down"))
      = ⟨((initial 5).run [.ask "hi", .receive 1 (.error "down")]).state, []⟩ :=
  noted_everywhere.2.2.2 5 [.ask "hi", .receive 1 (.error "down")]
    (Nat.lt_of_le_of_lt (length_outgoing_run_le _ _) (by decide)) 1 _ (.inr (by decide))

end SurfaceStudio.Studio.State
