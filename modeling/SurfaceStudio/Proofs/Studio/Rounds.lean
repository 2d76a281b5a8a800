import SurfaceStudio.Proofs.Studio.Run
import SurfaceStudio.Proofs.Surface.Templates

/-!
# Rounds through the templates

The templates can be gone through one after the other, and after the last one comes the first again.
The state counts how often the next one has been asked for; nothing else that happens in between
touches the count, not even a template that is loaded by its name.

  • `Event.isNext`, `State.turns` — the events that ask for the next template, and how many there
    are in a run,
  • `State.templateTurn_step`, `State.templateTurn_run` — **the count is that of these events**,
  • `State.Presents` — a template is shown, and the editor holds its text,
  • `State.presents_next` — what asking for the next template shows,
  • `State.cycled_run` — **which template comes up in any run**.
-/

namespace SurfaceStudio.Studio

/-- The event asks for the next template. -/
def Event.isNext : Event → Bool
  | .nextTemplate => true
  | _ => false

namespace State

/-! ## §1. The count. -/

/-- How many events ask for the next template. -/
def turns (events : List Event) : Nat := events.countP Event.isNext

theorem turns_cons (e : Event) (es : List Event) :
    turns (e :: es) = turns es + if e.isNext then 1 else 0 := List.countP_cons

theorem turns_concat_next (events : List Event) :
    turns (events ++ [.nextTemplate]) = turns events + 1 := List.countP_append

theorem templateTurn_ask (s : State) (query : String) :
    (s.ask query).state.templateTurn = s.templateTurn := by
  rw [ask]
  split <;> rfl

theorem templateTurn_receive (s : State) (id : RequestId) (answer : Except String Reply) :
    (s.step (.receive id answer)).state.templateTurn = s.templateTurn := by
  rw [step, update, value_quietly, receive]
  split
  · cases answer with
    | error reason => rfl
    | ok reply =>
      -- The surface of a reply is shown without a look at the templates.
      show (((_ : State).showReply reply).say _).templateTurn = s.templateTurn
      rw [showReply]
      cases reply.surface with
      | none => rfl
      | some surface => rfl
  · rfl

/-- **Only an event that asks for the next template is counted.** -/
theorem templateTurn_step (s : State) (e : Event) : (s.step e).state.templateTurn
    = if e.isNext then s.templateTurn + 1 else s.templateTurn := by
  cases e with
  | nextTemplate => rfl
  | edit text =>
    show (s.edit text).value.templateTurn = s.templateTurn
    unfold edit
    split <;> rfl
  | loadTemplate name =>
    rw [step, update, value_quietly, loadNamed]
    generalize Template.find? name = found
    cases found with
    | some template => rfl
    | none => rfl
  | switchMode mode =>
    show (s.switchMode mode).templateTurn = s.templateTurn
    rw [switchMode]
    split <;> rfl
  | typeChat text => rfl
  | sendChat =>
    show s.sendChat.state.templateTurn = s.templateTurn
    rw [sendChat]
    split
    · rfl
    · exact templateTurn_ask _ _
  | ask query => exact templateTurn_ask s query
  | receive id answer => exact templateTurn_receive s id answer

/-- **A run counts the events that ask for the next template**, as far as a word of 64 bits can. -/
theorem templateTurn_run (s : State) (events : List Event) :
    (s.run events).state.templateTurn = s.templateTurn + UInt64.ofNat (turns events) := by
  induction events generalizing s with
  | nil => exact (UInt64.add_zero _).symm
  | cons e es ih =>
    have hrest := ih (s.step e).state
    rw [templateTurn_step] at hrest
    rw [run, hrest, turns_cons, UInt64.ofNat_add]
    cases e.isNext with
    | true =>
      have hone : UInt64.ofNat (if true = true then 1 else 0) = 1 := rfl
      rw [if_pos rfl, hone, UInt64.add_assoc, UInt64.add_comm 1]
    | false =>
      have hzero : UInt64.ofNat (if false = true then 1 else 0) = 0 := rfl
      rw [if_neg Bool.false_ne_true, hzero, UInt64.add_zero]

/-- Up to the largest word the count is the number of these events itself. -/
theorem toNat_templateTurn_run (historyWindow : Nat) {events : List Event}
    (h : turns events < UInt64.size) :
    ((initial historyWindow).run events).state.templateTurn.toNat = turns events := by
  rw [templateTurn_run]
  show (0 + UInt64.ofNat (turns events)).toNat = turns events
  rw [UInt64.zero_add]
  exact UInt64.toNat_ofNat_of_lt h

/-! ## §2. What comes up. -/

/-- **A template is shown**: its surface is in the preview, no fault stands above it, and the editor
holds a text of it. -/
structure Presents (s : State) (t : Template) : Prop where
  preview : s.preview = some t.surface
  fault : s.editorFault = none
  text : Surface.parse s.editorText = .ok t.surface

/-- Asking for the next template shows the one whose turn it is. -/
theorem presents_next (s : State) :
    (s.step .nextTemplate).state.Presents (Template.atTurn s.templateTurn.toNat) where
  preview := rfl
  fault := rfl
  text := Template.parse_pretty_of_mem (atTurn_mem s.templateTurn.toNat)

/-- The turns go round through all templates. -/
theorem getElem?_all_mod (turn : Nat) :
    Template.all[turn % Template.all.length]? = some (Template.atTurn turn) :=
  List.getElem?_eq_getElem (Nat.mod_lt turn (by decide))

/-- **Whatever else happens in a run**, the event that asks for the next template for the `k`-th
time shows the template at the index `k - 1`, counted round through all of them. -/
theorem cycled_run (historyWindow : Nat) {events : List Event} (hfew : turns events < UInt64.size)
    {before after : List Event} (hevents : events = before ++ .nextTemplate :: after)
    {k : Nat} (hk : turns (before ++ [.nextTemplate]) = k) :
    ∃ t, Template.all[(k - 1) % Template.all.length]? = some t
      ∧ ((initial historyWindow).run (before ++ [.nextTemplate])).state.Presents t := by
  have hbefore : turns before = k - 1 := by
    rw [← hk, turns_concat_next, Nat.add_sub_cancel]
  have hle : turns before ≤ turns events := by
    rw [hevents]
    exact (List.sublist_append_left before _).countP_le
  refine ⟨Template.atTurn (k - 1), getElem?_all_mod (k - 1), ?_⟩
  have hturn := toNat_templateTurn_run historyWindow (Nat.lt_of_le_of_lt hle hfew)
  rw [← hbefore, ← hturn, state_run_concat]
  exact presents_next _

/-- A template is loaded by its name, and a text that is no surface is typed, before the next
template is asked for a second time. -/
def interruptedRound : List Event :=
  [.nextTemplate, .loadTemplate "server dashboard", .ask "hi", .edit "no surface", .nextTemplate,
    .receive 1 (.error "down")]

theorem cycled_run_interruptedRound : turns interruptedRound < UInt64.size
    ∧ ((initial 5).run (interruptedRound.take 5)).state.Presents
      ⟨"Weather Forecast", Template.weatherForecast⟩ := by
  have hfew : turns interruptedRound < UInt64.size := by decide
  have hsplit : interruptedRound = interruptedRound.take 4 ++ .nextTemplate
      :: [.receive 1 (.error "down")] := rfl
  have hsecond : turns (interruptedRound.take 4 ++ [.nextTemplate]) = 2 := rfl
  obtain ⟨t, hindex, hpresents⟩ := cycled_run 5 hfew hsplit hsecond
  obtain rfl : _ = t := Option.some.inj hindex
  exact ⟨hfew, hpresents⟩

end State

end SurfaceStudio.Studio
