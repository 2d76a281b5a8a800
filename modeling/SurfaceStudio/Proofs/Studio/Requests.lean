import SurfaceStudio.Proofs.Studio.Run

/-!
# Requests are conserved

Any number of requests may be under way, and answers may come in any order, more than once, or for
requests that were never sent.  In every run the requests are numbered without a gap, each is
answered at most once, and the transcript accounts for all of them.

  • `State.taken?`, `State.completed` — the answers that enter the transcript,
  • `State.Conserved` — the invariant, for the ids that were sent and those that were completed,
  • `State.conserved_step`, `State.conserved_run` — one event keeps it, and so every run has it,
  • `State.accounts_run` — **what the invariant says about a whole run**.
-/

namespace SurfaceStudio.Studio.State

/-! ## §1. Answers that are taken. -/

/-- The request that an event answers, if the answer is taken: the transcript grows by it. -/
def taken? (s : State) : Event → Option RequestId
  | .receive id answer =>
    if s.transcript.length < (s.step (.receive id answer)).state.transcript.length then some id
    else none
  | _ => none

/-- The requests whose answers are taken in a run, in the order in which they are. -/
def completed (s : State) : List Event → List RequestId
  | [] => []
  | e :: es => (s.taken? e).toList ++ (s.step e).state.completed es

theorem taken?_of_not_mem {s : State} {id : RequestId} (h : id ∉ s.inFlight)
    (answer : Except String Reply) : s.taken? (.receive id answer) = none := by
  rw [taken?, step_receive_of_not_mem h, if_neg (Nat.lt_irrefl _)]

theorem taken?_of_mem {s : State} {id : RequestId} (h : id ∈ s.inFlight)
    (answer : Except String Reply) : s.taken? (.receive id answer) = some id := by
  obtain ⟨m, -, hside⟩ := step_receive_of_mem h answer
  have htranscript : (s.step (.receive id answer)).state.transcript = s.transcript ++ [m] :=
    congrArg ConversationSide.transcript hside
  have hgrows : s.transcript.length < (s.transcript ++ [m]).length := by
    rw [List.length_append, List.length_singleton]
    omega
  rw [taken?, htranscript, if_pos hgrows]

/-- **An answer is taken exactly if its request is under way.** -/
theorem taken?_receive_iff {s : State} {id : RequestId} (answer : Except String Reply) :
    s.taken? (.receive id answer) = some id ↔ id ∈ s.inFlight := by
  constructor
  · intro h
    by_cases hid : id ∈ s.inFlight
    · exact hid
    · rw [taken?_of_not_mem hid] at h
      cases h
  · intro h
    exact taken?_of_mem h answer

theorem taken?_eq_none {s : State} {e : Event} (h : ∀ id answer, e ≠ .receive id answer) :
    s.taken? e = none := by
  cases e with
  | receive id answer => exact absurd rfl (h id answer)
  | _ => rfl

/-! ## §2. The invariant. -/

/-- The entries of a role in a transcript. -/
def entries (role : Role) (transcript : List Message) : Nat :=
  transcript.countP fun m => m.role = role

theorem entries_concat (role : Role) (transcript : List Message) (m : Message) :
    entries role (transcript ++ [m])
      = entries role transcript + if m.role = role then 1 else 0 := by
  rw [entries, List.countP_append, List.countP_singleton]
  simp [entries]

/-- **What every event keeps**, for the ids `sent` so far and those `done`: the ids sent are
numbered from 1, the requests under way are those sent and not done, and each entry of the
transcript belongs to one of them. -/
structure Conserved (s : ConversationSide) (sent done : List RequestId) : Prop where
  numbered : sent.map UInt64.toNat = List.range' 1 sent.length
  next : s.nextId.toNat = sent.length + 1
  inFlight : ∀ id, id ∈ s.inFlight ↔ id ∈ sent ∧ id ∉ done
  once : s.inFlight.Nodup
  done_sent : ∀ id ∈ done, id ∈ sent
  users : entries .user s.transcript = sent.length
  agents : entries .agent s.transcript + s.inFlight.length = sent.length

theorem conserved_initial (historyWindow : Nat) :
    Conserved (initial historyWindow).conversationSide [] [] where
  numbered := rfl
  next := rfl
  inFlight _ := ⟨(fun h => nomatch h), fun ⟨h, _⟩ => nomatch h⟩
  once := List.nodup_nil
  done_sent _ h := nomatch h
  users := rfl
  agents := rfl

/-- The next id is larger than all that were sent. -/
theorem Conserved.fresh {s : ConversationSide} {sent done : List RequestId}
    (h : Conserved s sent done) : s.nextId ∉ sent := by
  intro hmem
  have hnat : s.nextId.toNat ∈ sent.map UInt64.toNat := List.mem_map_of_mem hmem
  -- The ids are at most as many as were sent, and the next one is larger.
  rw [h.numbered, h.next, List.mem_range'_1] at hnat
  omega

theorem Conserved.send {s : ConversationSide} {sent done : List RequestId}
    (h : Conserved s sent done) (hfew : sent.length + 1 < 0xffffffffffffffff) (query : String) :
    Conserved ⟨s.transcript ++ [.ofUser query], s.inFlight.insert s.nextId, s.nextId + 1⟩
      (sent ++ [s.nextId]) done := by
  have hfresh := h.fresh
  have hnotInFlight : s.nextId ∉ s.inFlight := fun hmem => hfresh ((h.inFlight _).1 hmem).1
  have hnotDone : s.nextId ∉ done := fun hmem => hfresh (h.done_sent _ hmem)
  exact {
    numbered := by
      rw [List.map_append, h.numbered, List.length_append, List.length_singleton,
        List.range'_concat, List.map_singleton, h.next, Nat.one_mul, Nat.add_comm 1]
    next := by
      show (s.nextId + 1).toNat = _
      -- As there are ids left, the counter does not start again from zero.
      rw [UInt64.toNat_add, h.next, List.length_append]
      show (sent.length + 1 + 1) % 0x10000000000000000 = sent.length + 1 + 1
      omega
    inFlight := fun id => by
      show id ∈ s.inFlight.insert s.nextId ↔ _
      rw [List.mem_insert_iff, h.inFlight, List.mem_append, List.mem_singleton]
      constructor
      · intro hmem
        rcases hmem with rfl | ⟨hsent, hdone⟩
        · exact ⟨.inr rfl, hnotDone⟩
        · exact ⟨.inl hsent, hdone⟩
      · intro hmem
        obtain ⟨hsent | rfl, hdone⟩ := hmem
        · exact .inr ⟨hsent, hdone⟩
        · exact .inl rfl
    once := by
      show (s.inFlight.insert s.nextId).Nodup
      rw [List.insert_of_not_mem hnotInFlight]
      exact List.nodup_cons.2 ⟨hnotInFlight, h.once⟩
    done_sent := fun id hid => List.mem_append_left _ (h.done_sent id hid)
    users := by
      show entries .user (s.transcript ++ [.ofUser query]) = _
      rw [entries_concat, h.users, List.length_append]
      rfl
    agents := by
      show entries .agent (s.transcript ++ [.ofUser query])
        + (s.inFlight.insert s.nextId).length = _
      -- No answer has come, but one more request is under way.
      rw [entries_concat, List.length_insert_of_not_mem hnotInFlight, List.length_append]
      have hagents := h.agents
      show entries .agent s.transcript + 0 + (s.inFlight.length + 1) = sent.length + 1
      omega }

theorem Conserved.answer {s : ConversationSide} {sent done : List RequestId}
    (h : Conserved s sent done) {id : RequestId} (hid : id ∈ s.inFlight) {m : Message}
    (hm : m.role = .agent) :
    Conserved ⟨s.transcript ++ [m], s.inFlight.erase id, s.nextId⟩ sent (done ++ [id]) where
  numbered := h.numbered
  next := h.next
  inFlight id' := by
    show id' ∈ s.inFlight.erase id ↔ _
    rw [h.once.mem_erase_iff, h.inFlight, List.mem_append, List.mem_singleton, not_or]
    constructor
    · intro hmem
      obtain ⟨hne, hsent, hdone⟩ := hmem
      exact ⟨hsent, hdone, hne⟩
    · intro hmem
      obtain ⟨hsent, hdone, hne⟩ := hmem
      exact ⟨hne, hsent, hdone⟩
  once := h.once.erase id
  done_sent id' hid' := by
    rcases List.mem_append.1 hid' with hid' | hid'
    · exact h.done_sent id' hid'
    · exact List.mem_singleton.1 hid' ▸ ((h.inFlight id).1 hid).1
  users := by
    show entries .user (s.transcript ++ [m]) = _
    rw [entries_concat, h.users, hm]
    rfl
  agents := by
    show entries .agent (s.transcript ++ [m]) + (s.inFlight.erase id).length = _
    -- One entry more, and one request less that is under way.
    rw [entries_concat, List.length_erase_of_mem hid, hm, if_pos rfl]
    have hagents := h.agents
    have hpos := List.length_pos_of_mem hid
    omega

/-! ## §3. Runs. -/

/-- **One event keeps the invariant**, as long as there are ids left. -/
theorem conserved_step {s : State} {sent done : List RequestId}
    (h : Conserved s.conversationSide sent done) (e : Event)
    (hfew : sent.length + (s.step e).outgoing.length < 0xffffffffffffffff) :
    Conserved (s.step e).state.conversationSide (sent ++ (s.step e).outgoing.map (·.id))
      (done ++ (s.taken? e).toList) := by
  have hstep := conversationStep s e
  -- What the step lemma says of the state after the event is all that is needed.
  generalize (s.step e).state.conversationSide = after at hstep
  generalize (s.step e).outgoing = outgoing at hstep hfew
  cases hstep with
  | untouched hreceive =>
    have htaken : s.taken? e = none := by
      cases e with
      | receive id answer => exact taken?_of_not_mem (hreceive id answer rfl) answer
      | _ => rfl
    rw [htaken]
    show Conserved _ (sent ++ []) (done ++ [])
    rw [List.append_nil, List.append_nil]
    exact h
  | sent hreceive query =>
    rw [taken?_eq_none hreceive]
    show Conserved _ _ (done ++ [])
    rw [List.append_nil]
    exact h.send hfew query
  | answered answer hid hm =>
    rw [taken?_of_mem hid]
    show Conserved _ (sent ++ []) _
    rw [List.append_nil]
    exact h.answer hid hm

/-- **Every run keeps the invariant.** -/
theorem conserved_run {s : State} {sent done : List RequestId}
    (h : Conserved s.conversationSide sent done) (events : List Event)
    (hfew : sent.length + (s.run events).outgoing.length < 0xffffffffffffffff) :
    Conserved (s.run events).state.conversationSide
      (sent ++ (s.run events).outgoing.map (·.id)) (done ++ s.completed events) := by
  -- The ids sent and done grow along the run, so the statement is made of any of them.
  induction events generalizing s sent done with
  | nil =>
    show Conserved _ (sent ++ []) (done ++ [])
    rw [List.append_nil, List.append_nil]
    exact h
  | cons e es ih =>
    have hlength : (s.run (e :: es)).outgoing.length
        = (s.step e).outgoing.length + ((s.step e).state.run es).outgoing.length :=
      List.length_append
    have hfirst := conserved_step h e (by omega)
    have hrest := ih hfirst (by rw [List.length_append, List.length_map]; omega)
    show Conserved _ (sent ++ ((s.step e).outgoing ++ _).map (·.id)) (done ++ (_ ++ _))
    rw [List.map_append, ← List.append_assoc, ← List.append_assoc]
    exact hrest

/-- An event sends at most one request. -/
theorem length_outgoing_step_le (s : State) (e : Event) : (s.step e).outgoing.length ≤ 1 := by
  have hstep := conversationStep s e
  generalize (s.step e).state.conversationSide = after at hstep
  generalize (s.step e).outgoing = outgoing at hstep
  cases hstep with
  | untouched _ => exact Nat.zero_le _
  | sent _ query => exact Nat.le_refl _
  | answered answer _ _ => exact Nat.zero_le _

theorem length_outgoing_run_le (s : State) (events : List Event) :
    (s.run events).outgoing.length ≤ events.length := by
  induction events generalizing s with
  | nil => exact Nat.le_refl _
  | cons e es ih =>
    have hfirst := length_outgoing_step_le s e
    have hrest := ih (s.step e).state
    show ((s.step e).outgoing ++ ((s.step e).state.run es).outgoing).length ≤ es.length + 1
    rw [List.length_append]
    omega

/-! ## §4. The accounts. -/

/-- The ids of the requests that are sent in a run from the start. -/
def sentIds (historyWindow : Nat) (events : List Event) : List RequestId :=
  ((initial historyWindow).run events).outgoing.map (·.id)

/-- **The accounts of a run from the start.** -/
structure Accounts (historyWindow : Nat) (events : List Event) : Prop where
  /-- The ids that are sent are 1, 2, 3 and so on, in the order in which they are sent. -/
  numbered : (sentIds historyWindow events).map UInt64.toNat
    = List.range' 1 (sentIds historyWindow events).length
  /-- Under way are exactly the requests that were sent and not completed, each once. -/
  inFlight : ∀ id, id ∈ ((initial historyWindow).run events).state.inFlight
    ↔ id ∈ sentIds historyWindow events ∧ id ∉ (initial historyWindow).completed events
  once : ((initial historyWindow).run events).state.inFlight.Nodup
  /-- An answer is taken exactly if its request was sent before and not completed before. -/
  taken : ∀ before id answer after, events = before ++ .receive id answer :: after →
    (((initial historyWindow).run before).state.taken? (.receive id answer) = some id
      ↔ id ∈ sentIds historyWindow before ∧ id ∉ (initial historyWindow).completed before)
  /-- An answer that is not taken changes nothing at all. -/
  ignored : ∀ before id answer after, events = before ++ .receive id answer :: after →
    ((initial historyWindow).run before).state.taken? (.receive id answer) = none →
      ((initial historyWindow).run before).state.step (.receive id answer)
        = ⟨((initial historyWindow).run before).state, []⟩
  /-- Each request has its entry of the user in the transcript. -/
  users : entries .user ((initial historyWindow).run events).state.transcript
    = (sentIds historyWindow events).length
  /-- Each request that is not under way has its entry of the agent. -/
  agents : entries .agent ((initial historyWindow).run events).state.transcript
      + ((initial historyWindow).run events).state.inFlight.length
    = (sentIds historyWindow events).length
  /-- Something is pending exactly if a request was sent and not completed. -/
  pending : ((initial historyWindow).run events).state.isPending = true
    ↔ ∃ id ∈ sentIds historyWindow events, id ∉ (initial historyWindow).completed events

theorem conserved_from_start {historyWindow : Nat} {events : List Event}
    (hfew : ((initial historyWindow).run events).outgoing.length < 0xffffffffffffffff) :
    Conserved ((initial historyWindow).run events).state.conversationSide
      (sentIds historyWindow events) ((initial historyWindow).completed events) := by
  have hrun := conserved_run (conserved_initial historyWindow) events
    (by rw [List.length_nil, Nat.zero_add]; exact hfew)
  rwa [List.nil_append, List.nil_append] at hrun

/-- **The accounts of every run are in order**, as long as there are ids for its requests: it sends
fewer than `2 ^ 64 - 1` of them. -/
theorem accounts_run (historyWindow : Nat) (events : List Event)
    (hfew : ((initial historyWindow).run events).outgoing.length < 0xffffffffffffffff) :
    Accounts historyWindow events := by
  have hrun := conserved_from_start hfew
  exact {
    numbered := hrun.numbered
    inFlight := hrun.inFlight
    once := hrun.once
    taken := by
      rintro before id answer after rfl
      -- By then fewer requests were sent, so that the invariant holds there as well.
      have hbefore : ((initial historyWindow).run before).outgoing.length < 0xffffffffffffffff := by
        rw [run_append, List.length_append] at hfew
        omega
      rw [taken?_receive_iff]
      exact (conserved_from_start hbefore).inFlight id
    ignored := by
      rintro before id answer after rfl htaken
      -- Were the request under way, the answer would be taken.
      refine step_receive_of_not_mem (fun hid => ?_) answer
      rw [taken?_of_mem hid] at htaken
      cases htaken
    users := hrun.users
    agents := hrun.agents
    pending := by
      rw [isPending, Bool.not_eq_true', List.isEmpty_eq_false_iff_exists_mem]
      exact exists_congr hrun.inFlight }

/-- A query, an answer to a request that was not sent, and the answer to the query twice. -/
theorem accounts_run_repeated :
    Accounts 5 [.ask "hi", .receive 2 (.error "late"), .receive 1 (.error "down"),
      .receive 1 (.error "down")] :=
  accounts_run 5 _ (Nat.lt_of_le_of_lt (length_outgoing_run_le _ _) (by decide))

end SurfaceStudio.Studio.State
