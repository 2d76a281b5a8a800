import Mathlib.Data.List.Nodup
import SurfaceStudio.Proofs.Console.Moves
import SurfaceStudio.Proofs.Studio.Requests
import SurfaceStudio.Proofs.Studio.Transcript

/-!
# Studio and engine are in step

The studio remembers which requests it waits for, and the engine knows nothing of that: it gets
queries and gives completions back, in an order of its own.  Whatever the user and the engine do
meanwhile, both hold the same requests, every completion is welcome when it is collected, and every
query ends in one entry of the transcript.

  • `Session.Linked` — the invariant, for the queries sent and the answers collected so far,
  • `Session.Linked.user`, `Session.Linked.drain` — what keeps it on either side,
  • `Session.linked_after`, `Session.linked_reach` — one move keeps it, and so all moves do,
  • `Session.GoesOn`, `Session.weight_reach` — the engine left to itself comes to an end,
  • `Session.inStep_reached` — **what holds in every session that is reached**.
-/

namespace SurfaceStudio

open Studio

/-- The entry that an answer makes in the transcript. -/
def Session.Answer.entry (a : Session.Answer) : Message :=
  State.answerEntry (a.2.mapError QueryError.text)

/-- The entries of the agent in a transcript. -/
def agentEntries (transcript : List Message) : List Message :=
  transcript.filter fun m => m.role = .agent

theorem agentEntries_concat (transcript : List Message) (m : Message) :
    agentEntries (transcript ++ [m])
      = agentEntries transcript ++ if m.role = .agent then [m] else [] := by
  rw [agentEntries, List.filter_append, List.filter_singleton, agentEntries]
  simp only [Bool.cond_decide]

namespace Session

/-! ## §1. The link. -/

/-- **What every move keeps**, for the ids `sent` and the answers `drained` so far: the studio
counts the drained answers as done, the engine holds the rest of what was sent, and the entries of
the agent are those of the drained answers, in their order. -/
structure Linked (s : Session) (sent : List RequestId) (drained : List Answer) : Prop where
  conserved : State.Conserved s.studio.conversationSide sent (drained.map (·.1))
  held : (drained.map (·.1) ++ s.work.queryIds).Perm sent
  entries : agentEntries s.studio.transcript = drained.map Answer.entry

variable {s : Session} {sent : List RequestId} {drained : List Answer}

theorem Linked.nodup_sent (h : s.Linked sent drained) : sent.Nodup := by
  have hnumbers : (sent.map UInt64.toNat).Nodup := by
    rw [h.conserved.numbered]
    exact List.nodup_range'
  exact List.Nodup.of_map UInt64.toNat hnumbers

theorem Linked.nodup (h : s.Linked sent drained) :
    (drained.map (·.1) ++ s.work.queryIds).Nodup :=
  h.held.nodup_iff.2 h.nodup_sent

/-- **The engine holds the requests that the studio waits for.** -/
theorem Linked.mem_queryIds_iff (h : s.Linked sent drained) (id : RequestId) :
    id ∈ s.work.queryIds ↔ id ∈ s.studio.inFlight := by
  have hinFlight : id ∈ s.studio.inFlight ↔ id ∈ sent ∧ id ∉ drained.map (·.1) :=
    h.conserved.inFlight id
  have hdisjoint := List.disjoint_of_nodup_append h.nodup
  rw [hinFlight, ← h.held.mem_iff, List.mem_append]
  constructor
  · intro hheld
    exact ⟨.inr hheld, fun hdrained => hdisjoint hdrained hheld⟩
  · intro hsent
    exact hsent.1.resolve_left hsent.2

/-- Without queries the studio waits for nothing. -/
theorem Linked.isPending_eq_false_iff (h : s.Linked sent drained) :
    s.studio.isPending = false ↔ s.work.queryIds = [] := by
  rw [State.isPending, Bool.not_eq_false', List.isEmpty_iff, List.eq_nil_iff_forall_not_mem,
    List.eq_nil_iff_forall_not_mem]
  exact forall_congr' fun id => not_congr (h.mem_queryIds_iff id).symm

/-! ## §2. One move. -/

/-- Where only the presenter and what the engine does with its jobs differ, the link stays. -/
theorem Linked.congr (h : s.Linked sent drained) {t : Session} (hstudio : t.studio = s.studio)
    (hwork : t.work.queryIds.Perm s.work.queryIds) : t.Linked sent drained where
  conserved := hstudio ▸ h.conserved
  held := (hwork.append_left _).trans h.held
  entries := hstudio ▸ h.entries

/-- A move that sends nothing and collects nothing keeps the link. -/
theorem Linked.kept (h : s.Linked sent drained) {t : Session} (hstudio : t.studio = s.studio)
    (hwork : t.work.queryIds.Perm s.work.queryIds) : t.Linked (sent ++ []) (drained ++ []) := by
  rw [List.append_nil, List.append_nil]
  exact h.congr hstudio hwork

theorem agentEntries_step {s : State} {e : Event} (he : e.FromUser) :
    agentEntries (s.step e).state.transcript = agentEntries s.transcript := by
  cases s.transcriptStep e with
  | untouched htranscript _ => rw [htranscript]
  | sent query htranscript _ =>
    rw [htranscript, agentEntries_concat]
    exact List.append_nil _
  | answered hreceive _ _ _ => exact absurd hreceive (he _ _)

/-- An event of the user keeps the link, and its queries are sent. -/
theorem Linked.user (h : s.Linked sent drained) {e : Event} (he : e.FromUser)
    (hfew : sent.length + (s.studio.step e).outgoing.length < 0xffffffffffffffff) :
    (s.dispatch e).value.Linked (sent ++ (s.studio.step e).outgoing.map (·.id)) drained := by
  have hconserved := State.conserved_step h.conserved e hfew
  rw [State.taken?_eq_none he, Option.toList_none, List.append_nil] at hconserved
  have hheld : (drained.map (·.1)
      ++ (s.work.enqueue ((s.studio.step e).outgoing.map .query)).queryIds).Perm
      (sent ++ (s.studio.step e).outgoing.map (·.id)) := by
    refine ((s.work.queryIds_enqueue_queries _).append_left _).trans ?_
    rw [← List.append_assoc]
    exact h.held.append_right _
  rw [value_dispatch]
  exact ⟨hconserved, hheld, (agentEntries_step he).trans h.entries⟩

/-- **A completion that waits is welcome**: the studio waits for its request. -/
theorem Linked.taken (h : s.Linked sent drained) {id : RequestId}
    {result : Except QueryError Reply} {others : List Completion}
    (hdone : s.work.done = .answered id result :: others) :
    s.studio.taken? (receiveEvent id result) = some id := by
  have hheld : id ∈ s.work.queryIds :=
    (Workload.queryIds_collected hdone).mem_iff.2 List.mem_cons_self
  exact (State.taken?_receive_iff _).2 ((h.mem_queryIds_iff id).1 hheld)

/-- Collecting a completion keeps the link, and an answer enters the transcript. -/
theorem Linked.drain (h : s.Linked sent drained) {c : Completion} {others : List Completion}
    (hdone : s.work.done = c :: others) :
    (({ s with work := { s.work with done := others } } : Session).receive c).value.Linked sent
      (drained ++ (answerIn? c).toList) := by
  have hcollected := Workload.queryIds_collected hdone
  cases c with
  | ops outcome =>
    show Linked _ sent (drained ++ [])
    rw [List.append_nil]
    exact h.congr rfl hcollected.symm
  | answered id result =>
    have hmem : id ∈ s.studio.inFlight := (State.taken?_receive_iff _).1 (h.taken hdone)
    have hside := State.conversationSide_receive_of_mem hmem (result.mapError QueryError.text)
    have hentry : (Answer.entry (id, result)).role = .agent := State.role_answerEntry _
    have hconserved := h.conserved.answer hmem hentry
    have htranscript := congrArg State.ConversationSide.transcript hside
    have hheld : ((drained ++ [(id, result)]).map (·.1)
        ++ ({ s.work with done := others }.enqueue []).queryIds).Perm sent := by
      rw [Workload.enqueue_nil, List.map_append, List.append_assoc]
      exact (hcollected.symm.append_left _).trans h.held
    show (Session.dispatch _ (receiveEvent id result)).value.Linked sent (drained ++ [(id, result)])
    rw [value_dispatch]
    refine ⟨?_, hheld, ?_⟩
    · show State.Conserved (s.studio.step _).state.conversationSide sent _
      rw [receiveEvent, hside, List.map_append]
      exact hconserved
    · refine (congrArg agentEntries htranscript).trans ?_
      rw [agentEntries_concat, h.entries, List.map_append]
      exact congrArg _ (if_pos hentry)

/-- **Every move keeps the link**, as long as there are ids left. -/
theorem linked_after (h : s.Linked sent drained) (m : Move)
    (hfew : sent.length + (s.sentBy m).length < 0xffffffffffffffff) :
    (s.after m).Linked (sent ++ (s.sentBy m).map (·.id)) (drained ++ s.drainedBy m) := by
  cases m with
  | user e he =>
    show Linked _ _ (drained ++ [])
    rw [List.append_nil]
    exact h.user he hfew
  | operate request => exact h.kept rfl (.of_eq (s.work.queryIds_submit_ops request))
  | showAll => exact h.kept rfl (.refl _)
  | engine move => exact h.kept rfl (s.work.queryIds_move s.engine move)
  | drain =>
    show Linked _ (sent ++ []) _
    rw [List.append_nil, after, drainedBy]
    cases hdone : s.work.done with
    | nil =>
      show Linked s sent (drained ++ [])
      rw [List.append_nil]
      exact h
    | cons c others => exact h.drain hdone

/-! ## §3. Moves in order. -/

/-- **All moves in order keep the link.** -/
theorem linked_reach (h : s.Linked sent drained) (moves : List Move)
    (hfew : sent.length + (s.sent moves).length < 0xffffffffffffffff) :
    (s.reach moves).Linked (sent ++ (s.sent moves).map (·.id)) (drained ++ s.drained moves) := by
  -- The ids and the answers grow along the moves, so the statement is made of any of them.
  induction moves generalizing s sent drained with
  | nil => exact h.kept rfl (.refl _)
  | cons m ms ih =>
    have hlength : (s.sent (m :: ms)).length = (s.sentBy m).length + ((s.after m).sent ms).length :=
      List.length_append
    have hfirst := linked_after h m (by omega)
    have hrest := ih hfirst (by rw [List.length_append, List.length_map]; omega)
    show Linked _ (sent ++ (s.sentBy m ++ (s.after m).sent ms).map (·.id))
      (drained ++ (s.drainedBy m ++ (s.after m).drained ms))
    rw [List.map_append, ← List.append_assoc, ← List.append_assoc]
    exact hrest

/-- At the beginning nothing has been sent. -/
theorem linked_start (engine : Engine) (historyWindow : Nat) (editor : Option String) :
    (start engine historyWindow editor).value.Linked [] [] := by
  have hblank : Linked ⟨engine, State.initial historyWindow, .blank, .idle⟩ [] [] :=
    ⟨State.conserved_initial historyWindow, .refl _, rfl⟩
  cases editor with
  | none => exact hblank.congr rfl (.refl _)
  | some text =>
    have hedit : Event.FromUser (.edit text) := nofun
    have hfew : 0 + 0 < 0xffffffffffffffff := by decide
    -- A text for the editor is an event like any other, and it sends nothing.
    have hedited := linked_reach hblank [.user (.edit text) hedit, .showAll] hfew
    exact hedited

/-- The ids of the queries that are sent with moves in order. -/
def sentIds (s : Session) (moves : List Move) : List RequestId := (s.sent moves).map (·.id)

/-- The ids of the answers that are collected with moves in order. -/
def drainedIds (s : Session) (moves : List Move) : List RequestId := (s.drained moves).map (·.1)

/-- **The link holds wherever a session gets from its start.** -/
theorem linked_from_start {engine : Engine} {historyWindow : Nat} {editor : Option String}
    {moves : List Move}
    (hfew : ((start engine historyWindow editor).value.sent moves).length < 0xffffffffffffffff) :
    ((start engine historyWindow editor).value.reach moves).Linked
      ((start engine historyWindow editor).value.sentIds moves)
      ((start engine historyWindow editor).value.drained moves) := by
  have hreach := linked_reach (linked_start engine historyWindow editor) moves
    (by rw [List.length_nil, Nat.zero_add]; exact hfew)
  rwa [List.nil_append, List.nil_append] at hreach

/-! ## §4. The engine left to itself. -/

/-- The move is one that the session makes by itself, and there is something to be done with it. -/
def CanMove (s : Session) : Move → Prop
  | .engine move => s.work.IsPossible move
  | .drain => s.work.done ≠ []
  | _ => False

/-- With moves in order the session goes on by itself. -/
def GoesOn (s : Session) : List Move → Prop
  | [] => True
  | m :: ms => s.CanMove m ∧ (s.after m).GoesOn ms

theorem sentBy_of_canMove {m : Move} (h : s.CanMove m) : s.sentBy m = [] := by
  cases m with
  | engine move => rfl
  | drain => rfl
  | _ => exact absurd h id

/-- Each move by itself is one step less. -/
theorem weight_after {m : Move} (h : s.CanMove m) :
    (s.after m).work.weight + 1 = s.work.weight := by
  cases m with
  | engine move => exact Workload.weight_move s.engine h
  | drain =>
    rw [after]
    cases hdone : s.work.done with
    | nil => exact absurd hdone h
    | cons c others =>
      have hcollected := Workload.weight_collected hdone
      cases c with
      | ops outcome => exact hcollected
      | answered id result =>
        show ((Session.dispatch _ (receiveEvent id result)).value).work.weight + 1 = _
        rw [value_dispatch]
        show ({ s.work with done := others }.enqueue []).weight + 1 = _
        rw [Workload.enqueue_nil]
        exact hcollected
  | _ => exact absurd h id

theorem sent_of_goesOn {later : List Move} (h : s.GoesOn later) : s.sent later = [] := by
  induction later generalizing s with
  | nil => rfl
  | cons m ms ih =>
    obtain ⟨hmove, hrest⟩ := h
    show s.sentBy m ++ (s.after m).sent ms = []
    rw [sentBy_of_canMove hmove, ih hrest, List.nil_append]

/-- **Left to itself, a session goes on for at most as many moves as its jobs have steps left.** -/
theorem weight_reach {later : List Move} (h : s.GoesOn later) :
    (s.reach later).work.weight + later.length = s.work.weight := by
  induction later generalizing s with
  | nil => rfl
  | cons m ms ih =>
    obtain ⟨hmove, hrest⟩ := h
    have hfirst := weight_after hmove
    have hothers := ih hrest
    show ((s.after m).reach ms).work.weight + (ms.length + 1) = s.work.weight
    omega

/-- Where no move is possible, the engine has nothing left to do. -/
theorem weight_of_stuck (h : ∀ m, ¬ s.CanMove m) : s.work.weight = 0 := by
  refine Decidable.byContradiction fun hweight => ?_
  obtain ⟨m, hm⟩ | hdone := Workload.exists_isPossible hweight
  · exact h (.engine m) hm
  · exact h .drain hdone

/-- **Left to itself, a session answers every query**: when it comes to an end, the transcript has
as many entries of the agent as queries were sent. -/
theorem Linked.settled (h : s.Linked sent drained) (hfew : sent.length < 0xffffffffffffffff)
    {later : List Move} (hlater : s.GoesOn later) (hend : ∀ m, ¬ (s.reach later).CanMove m) :
    (s.reach later).work.queryIds = []
      ∧ (agentEntries (s.reach later).studio.transcript).length = sent.length := by
  have hnothing := sent_of_goesOn hlater
  have hreach := linked_reach h later (by rw [hnothing]; exact hfew)
  rw [hnothing, List.map_nil, List.append_nil] at hreach
  have hidle := Workload.queryIds_of_weight (weight_of_stuck hend)
  have hheld := hreach.held
  rw [hidle, List.append_nil] at hheld
  refine ⟨hidle, ?_⟩
  calc (agentEntries (s.reach later).studio.transcript).length
      = (drained ++ s.drained later).length := by rw [hreach.entries, List.length_map]
    _ = ((drained ++ s.drained later).map (·.1)).length := (List.length_map _).symm
    _ = sent.length := hheld.length_eq

/-! ## §5. Sessions that are reached. -/

/-- **Studio and engine are in step**, where a session gets with these moves. -/
structure InStep (s : Session) (moves : List Move) : Prop where
  /-- No two queries that were sent have the same id. -/
  sentOnce : (s.sentIds moves).Nodup
  /-- Nor have any two that the engine holds. -/
  distinct : (s.reach moves).work.queryIds.Nodup
  /-- The engine holds the queries that the studio waits for, and no others. -/
  inFlight : ∀ id, id ∈ (s.reach moves).work.queryIds ↔ id ∈ (s.reach moves).studio.inFlight
  /-- Every answer that was collected was taken: the studio waited for it. -/
  taken : ∀ before after id result others, moves = before ++ .drain :: after →
    (s.reach before).work.done = .answered id result :: others →
      (s.reach before).studio.taken? (receiveEvent id result) = some id
  /-- The entries of the agent are those of the answers collected, in their order. -/
  entries : agentEntries (s.reach moves).studio.transcript
    = (s.drained moves).map Answer.entry
  /-- Every query that was sent has been answered, or the engine holds it, and not both. -/
  accounted : (s.drainedIds moves ++ (s.reach moves).work.queryIds).Perm (s.sentIds moves)
  /-- Nothing is pending exactly if the engine holds no query. -/
  idle : (s.reach moves).studio.isPending = false ↔ (s.reach moves).work.queryIds = []
  /-- Left to itself, the session comes to an end. -/
  comesToEnd : ∀ later, (s.reach moves).GoesOn later →
    later.length ≤ (s.reach moves).work.weight
  /-- And then every query that was sent has its entry of the agent. -/
  settled : ∀ later, (s.reach moves).GoesOn later →
    (∀ m, ¬ ((s.reach moves).reach later).CanMove m) →
      ((s.reach moves).reach later).work.queryIds = []
        ∧ (agentEntries ((s.reach moves).reach later).studio.transcript).length
          = (s.sentIds moves).length

/-- **Studio and engine are in step wherever a session gets from its start**, as long as there are
ids for its queries: it sends fewer than `2 ^ 64 - 1` of them.  The transcript keeps an entry for
each, so that it would be longer than any vector before the ids run out. -/
theorem inStep_reached (engine : Engine) (historyWindow : Nat) (editor : Option String)
    (moves : List Move)
    (hfew : ((start engine historyWindow editor).value.sent moves).length < 0xffffffffffffffff) :
    (start engine historyWindow editor).value.InStep moves := by
  have hlinked := linked_from_start hfew
  exact {
    sentOnce := hlinked.nodup_sent
    distinct := (List.nodup_append.1 hlinked.nodup).2.1
    inFlight := hlinked.mem_queryIds_iff
    taken := by
      intro before after id result others hmoves hdone
      -- By then fewer queries were sent, so that the link holds there as well.
      have hbefore : ((start engine historyWindow editor).value.sent before).length
          < 0xffffffffffffffff := by
        rw [hmoves, sent_append, List.length_append] at hfew
        omega
      exact (linked_from_start hbefore).taken hdone
    entries := hlinked.entries
    accounted := hlinked.held
    idle := hlinked.isPending_eq_false_iff
    comesToEnd := by
      intro later hlater
      have hweight := weight_reach hlater
      omega
    settled := by
      intro later hlater hend
      refine hlinked.settled ?_ hlater hend
      rw [sentIds, List.length_map]
      exact hfew }

/-- Two queries, of which the second is answered first, and its answer is collected. -/
def overtaking : List Move :=
  [.user (.ask "first") nofun, .user (.ask "second") nofun, .engine .takeUp, .engine .takeUp,
    .engine (.finish 1 .unreachable), .drain]

theorem inStep_reached_overtaking :
    (start (.ofBackend (.simulated 0)) 5 none).value.InStep overtaking :=
  inStep_reached (.ofBackend (.simulated 0)) 5 none overtaking
    (Nat.lt_of_le_of_lt (length_sent_le _ _) (by decide))

end Session

end SurfaceStudio
