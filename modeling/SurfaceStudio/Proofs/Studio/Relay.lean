import SurfaceStudio.Proofs.Chat.Attachments
import SurfaceStudio.Proofs.Studio.Transcript
import SurfaceStudio.Proofs.Surface.Agreement
import SurfaceStudio.Proofs.Surface.Lossless
import SurfaceStudio.Proofs.Surface.RoundTrip

/-!
# Surfaces on their way

The agent gets to see its own surfaces again: a surface that comes in a reply is put into the editor
as text, and goes out with the entry of the reply in the history of later requests.  On neither way
is anything lost or changed.

  • `Request.sentSurface?` — a surface in a request as it is written,
  • `Request.sentSurface?_canonical` — it is that of the entry in the history,
  • `Surface.read_pretty_of_readValue` — the text in the editor is read as the value decoded,
  • `State.getElem?_history` — where the entries of a history stand in the transcript,
  • `State.relayed_run` — **a surface that comes in a reply is passed on unchanged**.
-/

namespace SurfaceStudio

/-! ## §1. Surfaces in requests. -/

theorem Message.member?_surface (m : Message) :
    m.toJson.canonical.member? "surface" = m.surface.map fun s => s.toJson.canonical :=
  m.attaches.surface

/-- The surface that is written with an entry of the history of a request. -/
def Request.sentSurface? (written : Json) (i : Nat) : Option Json := do
  let history ← written.member? "history"
  let entry ← history.item? i
  entry.member? "surface"

/-- **A request is written with the surfaces of its history.** -/
theorem Request.sentSurface?_canonical (r : Request) (i : Nat) :
    sentSurface? r.toJson.canonical i
      = r.history[i]?.bind fun m => m.surface.map fun s => s.toJson.canonical := by
  have hnodup : ["query", "history"].Nodup := by decide
  have hkeys : (Members.keys [("query", .string r.query),
      ("history", .array (r.history.map Message.toJson))]).Nodup := hnodup
  have hhistory : r.toJson.canonical.member? "history"
      = some (Json.array (r.history.map Message.toJson)).canonical := by
    rw [toJson, Json.member?_canonical _ hkeys]
    rfl
  rw [sentSurface?, hhistory]
  show ((Json.array (r.history.map Message.toJson)).canonical.item? i).bind _ = _
  rw [Json.item?_canonical, List.getElem?_map, Option.map_map, Option.bind_map]
  exact congrArg _ (funext Message.member?_surface)

/-! ## §2. Surfaces in the editor. -/

/-- The text of a surface that was decoded from a value is read as that value, where the value
leaves one bracket for what it came in. -/
theorem Surface.read_pretty_of_readValue {v : Json} {s : Surface} (hv : v.Canonical)
    (hl : v.Legible 126) (h : decoder.readValue v = .ok s) : Json.read s.pretty = .ok v := by
  have hwritten : s.toJson.Legible 126 := (DecodedWithin.ofValue hv hl h).legible
  have hlegible : s.toJson.Legible Json.bracketBudget :=
    ⟨Nat.le_succ_of_le hwritten.nesting, hwritten.numbers⟩
  have hlossless : s.toJson.canonical = v :=
    canonical_toJson_of_ofJson hv ((readValue_eq_ok_iff hv).1 h)
  rw [← hlossless]
  exact Json.read_write Json.Layout.plain_indented hlegible

namespace Studio.State

/-! ## §3. Entries of a history. -/

/-- Where the entry at position `i` of the history of a request stands in the transcript of the
state that sends it. -/
def historyPlace (s : State) (r : Request) (i : Nat) : Nat :=
  s.transcript.length - r.history.length + i

/-- **The history of a request is the end of the transcript.** -/
theorem getElem?_history {s : State} {e : Event} {o : Outgoing} (h : o ∈ (s.step e).outgoing)
    (i : Nat) : o.request.history[i]? = s.transcript[s.historyPlace o.request i]? := by
  have hplace : s.historyPlace o.request i
      = s.transcript.length - s.historyWindow + i := by
    rw [historyPlace, (sends_of_mem h).history, length_window]
    omega
  rw [hplace, (sends_of_mem h).history, window, List.getElem?_drop]

/-- The entry of an answer that was taken stays where it was added. -/
theorem getElem?_transcript_receive {s : State} {id : RequestId} (h : id ∈ s.inFlight)
    (answer : Except String Reply) (after : List Event) :
    (s.run (.receive id answer :: after)).state.transcript[s.transcript.length]?
      = some (answerEntry answer) := by
  have hentry : (s.step (.receive id answer)).state.transcript
      = s.transcript ++ [answerEntry answer] :=
    congrArg ConversationSide.transcript (conversationSide_receive_of_mem h answer)
  obtain ⟨later, hlater⟩ := transcript_run (s.step (.receive id answer)).state after
  show ((s.step (.receive id answer)).state.run after).state.transcript[_]? = _
  rw [← hlater, hentry, List.append_assoc, List.getElem?_append_right (Nat.le_refl _), Nat.sub_self]
  rfl

/-! ## §4. Passing on. -/

/-- **A surface is passed on unchanged** in a run from the start, where it comes in with an event
between others; `v` is the value that it was decoded from. -/
structure Relayed (historyWindow : Nat) (v : Json) (surface : Surface) (before : List Event)
    (event : Event) (after : List Event) : Prop where
  /-- Right after the event it is the preview. -/
  preview : ((initial historyWindow).run (before ++ [event])).state.preview = some surface
  /-- Right after the event the text in the editor is read as the value. -/
  text : Json.read ((initial historyWindow).run (before ++ [event])).state.editorText = .ok v
  /-- Every later request whose history holds the entry of the event is written with the value
  there, whatever has happened in between. -/
  requests : ∀ between e rest, after = between ++ e :: rest →
    ∀ o ∈ (((initial historyWindow).run (before ++ event :: between)).state.step e).outgoing,
      ∀ i, ((initial historyWindow).run (before ++ event :: between)).state.historyPlace o.request i
          = ((initial historyWindow).run before).state.transcript.length →
        Request.sentSurface? o.request.toJson.canonical i = some v

/-- **A surface that comes in a reply is passed on unchanged**, if the reply is to a request that
is under way. -/
theorem relayed_run (historyWindow : Nat) {v : Json} (hv : v.Canonical) (hl : v.Legible 126)
    {surface : Surface} (hdecoded : Surface.decoder.readValue v = .ok surface) {reply : Reply}
    (hreply : reply.surface = some surface) {before : List Event} {id : RequestId}
    (hid : id ∈ ((initial historyWindow).run before).state.inFlight) (after : List Event) :
    Relayed historyWindow v surface before (.receive id (.ok reply)) after := by
  have hbrought : answerSurface? (.ok reply) = some surface := hreply
  have hside := editorSide_receive_of_surface hid hbrought
  exact {
    preview := by
      rw [state_run_concat]
      exact congrArg EditorSide.preview hside
    text := by
      have htext := congrArg EditorSide.text hside
      rw [state_run_concat]
      exact (congrArg Json.read htext).trans (Surface.read_pretty_of_readValue hv hl hdecoded)
    requests := by
      intro between e rest _ o ho i hplace
      have hlossless : surface.toJson.canonical = v :=
        Surface.canonical_toJson_of_ofJson hv ((Surface.readValue_eq_ok_iff hv).1 hdecoded)
      -- The entry is where the transcript ended before the event.
      have hentry : o.request.history[i]? = some (.ofReply reply) := by
        rw [getElem?_history ho, hplace, state_run_append]
        exact getElem?_transcript_receive hid (.ok reply) between
      have hsurface : (Message.ofReply reply).surface = some surface := hreply
      rw [Request.sentSurface?_canonical, hentry, Option.bind_some, hsurface, Option.map_some,
        hlossless] }

/-- A surface with a theme, a node with an id and a node that has neither properties nor
children. -/
def themedDocument : Json :=
  .object [
    ("content", .array [
      .object [("id", .string "n1"), ("props", .object [("text", .string "a")]),
        ("type", .string "Text")],
      .object [("type", .string "Spacer")]]),
    ("surfaceId", .string "r"),
    ("theme", .string "dark")]

/-- The document comes in a reply, a template overwrites the editor, and the document goes out again
behind the entry of the query. -/
theorem relayed_run_themedDocument : themedDocument.Canonical
    ∧ ∃ surface, Surface.decoder.readValue themedDocument = .ok surface
      ∧ Relayed 5 themedDocument surface [.ask "draw"]
          (.receive 1 (.ok ⟨"done", some surface, none⟩)) [.nextTemplate, .ask "again"]
      ∧ ∃ o ∈ (((initial 5).run [.ask "draw", .receive 1 (.ok ⟨"done", some surface, none⟩),
          .nextTemplate]).state.step (.ask "again")).outgoing,
        Request.sentSurface? o.request.toJson.canonical 1 = some themedDocument := by
  have hself : themedDocument.canonical = themedDocument := rfl
  have hcanonical : themedDocument.Canonical := hself ▸ Json.canonical_canonical themedDocument
  have hlegible : themedDocument.Legible 126 := ⟨by decide, fun n hn => nomatch hn⟩
  have hofJson : Surface.ofJson themedDocument = _ := rfl
  obtain ⟨surface, hdecoded⟩ : ∃ surface, Surface.decoder.readValue themedDocument = .ok surface :=
    ⟨_, (Surface.readValue_eq_ok_iff hcanonical).2 hofJson⟩
  have hreply : Reply.surface ⟨"done", some surface, none⟩ = some surface := rfl
  have hid : 1 ∈ ((initial 5).run [.ask "draw"]).state.inFlight := by decide
  have hrelayed := relayed_run 5 hcanonical hlegible hdecoded hreply hid
    [.nextTemplate, .ask "again"]
  have hagain := hrelayed.requests [.nextTemplate] (.ask "again") [] rfl _
    List.mem_cons_self 1 rfl
  exact ⟨hcanonical, surface, hdecoded, hrelayed, _, List.mem_cons_self, hagain⟩

end Studio.State

end SurfaceStudio
