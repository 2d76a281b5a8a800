import SurfaceStudio.Proofs.Chat.Attachments
import SurfaceStudio.Proofs.Surface.Agreement
import SurfaceStudio.Proofs.Surface.Templates
import SurfaceStudio.Proofs.Wire.RoundTrip

/-!
# What is said is understood

The studio and the agent exchange requests, messages and replies, which may carry surfaces.  Each of
them is decoded again from what it is written as, and what it lacks is not written at all.

  • `Surface.returns` — a sound surface is decoded among what it comes with,
  • `Source.returns`, `returns_role` — the other parts,
  • `Message.returns`, `Request.returns`, `Reply.returns` — **what is said, by its members**,
  • `restores_conversation` — **requests, messages and replies are decoded from what they are
    written as**.
-/

namespace SurfaceStudio

open Json Wire

/-! ## §1. Surfaces. -/

/-- **A sound surface is decoded from what it is written as.** -/
theorem Surface.returns {s : Surface} (h : s.Sound) : decoder.Returns s.toJson s where
  value := (readValue_eq_ok_iff (canonical_canonical _)).2 (ofJson_toJson h)
  text := by
    intro budget layout hl hw depth
    have hnodup := nodup_keys_writtenMembers h
    rw [← keys_canonicalMembers] at hnodup
    have honce : GivenOnce (canonicalMembers s.writtenMembers) :=
      fun key _ => List.nodup_iff_count.1 hnodup key
    -- The text has the members in the order in which they are written.
    have hentries : record.ofEntries (canonicalMembers s.writtenMembers) = .ok s :=
      ofEntries_eq_ok_iff.2 ⟨ofJson_toJson h, honce⟩
    obtain ⟨draft, hdraft, hcomplete⟩ := exists_of_except_bind hentries
    have htaken : record.TakesAll record.empty s.writtenMembers draft :=
      .of_foldlM rfl agrees_fields hdraft
    exact Record.readAs_of_takesAll htaken hcomplete hl hw depth

/-! ## §2. Roles and sources. -/

theorem returns_role (role : Role) : Role.decoder.Returns (.string role.name) role := by
  refine returns_variants ?_
  cases role <;> rfl

theorem Source.returns (s : Source) : decoder.Returns s.toJson s := by
  have htaken : record.TakesAll record.empty
      [("provider", .string s.provider), ("title", .string s.title), ("url", .string s.url)]
      ⟨some s.provider, some s.title, some s.url⟩ :=
    .cons (.of rfl rfl (returns_string s.provider)) <|
      .cons (.of rfl rfl (returns_string s.title)) <|
        .cons (.of rfl rfl (returns_string s.url)) <| .nil _
  have hkeys : ["provider", "title", "url"].Pairwise (· < ·) := by decide
  exact Record.returns htaken (List.Perm.refl _) hkeys htaken rfl

/-! ## §3. Attachments. -/

variable {surface : Option Surface} {source : Option Source}

theorem returns_surface (h : ∀ s ∈ surface, s.Obtained) :
    ∀ s ∈ surface, (Decoder.optional Surface.decoder).Returns s.toJson (some s) :=
  fun s hs => (Surface.returns (h s hs).sound).optional

theorem returns_source (source : Option Source) :
    ∀ s ∈ source, (Decoder.optional Source.decoder).Returns s.toJson (some s) :=
  fun s _ => (Source.returns s).optional

/-- A draft holds what was written, or that there was nothing. -/
theorem join_map_some {α : Type} (x? : Option α) : (x?.map some).join = x? := by
  cases x? <;> rfl

/-! ## §4. Messages, requests and replies. -/

/-- The surface of the message, if it has one, is decoded or built. -/
def Message.Obtained (m : Message) : Prop := ∀ s ∈ m.surface, s.Obtained

/-- The surfaces in the history of the request are decoded or built. -/
def Request.Obtained (r : Request) : Prop := ∀ m ∈ r.history, m.Obtained

/-- The surface of the reply, if it has one, is decoded or built. -/
def Reply.Obtained (r : Reply) : Prop := ∀ s ∈ r.surface, s.Obtained

namespace Message

/-- The draft that holds all of the message. -/
def draft (m : Message) : Draft :=
  ⟨some m.role, some m.text, m.surface.map some, m.source.map some⟩

theorem complete_draft (m : Message) : record.complete m.draft = .ok m := by
  show Except.ok (⟨m.role, m.text, (m.surface.map some).join, (m.source.map some).join⟩ : Message)
    = .ok m
  rw [join_map_some, join_map_some]

/-- The record takes the members as they are written: the attachments come last. -/
theorem takesAll_written {m : Message} (h : m.Obtained) : record.TakesAll record.empty
    (("role", .string m.role.name) :: ("text", .string m.text)
      :: attachments m.surface m.source) m.draft := by
  obtain ⟨role, text, surface, source⟩ := m
  have hsource : record.TakesAll ⟨some role, some text, surface.map some, none⟩
      ((source.map fun s => ("source", s.toJson)).toList ++ [])
      (draft ⟨role, text, surface, source⟩) :=
    .optionally rfl rfl (returns_source source) (by cases source <;> rfl) (.nil _)
  have hattachments : record.TakesAll ⟨some role, some text, none, none⟩
      (attachments surface source) (draft ⟨role, text, surface, source⟩) := by
    rw [List.append_nil] at hsource
    exact .optionally rfl rfl (returns_surface h) (by cases surface <;> rfl) hsource
  exact .cons (.of rfl rfl (returns_role role)) (.cons (.of rfl rfl (returns_string text))
    hattachments)

/-- The record takes them in the order of their keys: the text comes last. -/
theorem takesAll_inOrder {m : Message} (h : m.Obtained) : record.TakesAll record.empty
    (("role", .string m.role.name) :: attachmentsInOrder m.surface m.source m.text) m.draft := by
  obtain ⟨role, text, surface, source⟩ := m
  have htext : record.TakesAll ⟨some role, none, surface.map some, source.map some⟩
      [("text", .string text)] (draft ⟨role, text, surface, source⟩) :=
    .cons (.of rfl rfl (returns_string text)) (.nil _)
  have hsurface : record.TakesAll ⟨some role, none, none, source.map some⟩
      ((surface.map fun s => ("surface", s.toJson)).toList ++ [("text", .string text)])
      (draft ⟨role, text, surface, source⟩) :=
    .optionally rfl rfl (returns_surface h) (by cases surface <;> rfl) htext
  have hsource : record.TakesAll ⟨some role, none, none, none⟩
      (attachmentsInOrder surface source text) (draft ⟨role, text, surface, source⟩) :=
    .optionally rfl rfl (returns_source source) (by cases source <;> rfl) hsurface
  exact .cons (.of rfl rfl (returns_role role)) hsource

/-- **A message is decoded from what it is written as.** -/
theorem returns {m : Message} (h : m.Obtained) : decoder.Returns m.toJson m := by
  have hkeys : ["role", "source", "surface", "text"].Pairwise (· < ·) := by decide
  have hsorted : Members.Sorted
      (("role", .string m.role.name) :: attachmentsInOrder m.surface m.source m.text) :=
    hkeys.sublist ((keys_attachmentsInOrder_sublist m.surface m.source m.text).cons_cons "role")
  have hperm := (perm_attachmentsInOrder m.surface m.source m.text).cons
    ("role", .string m.role.name)
  exact Record.returns (takesAll_written h) hperm hsorted (takesAll_inOrder h) m.complete_draft

end Message

/-- **A request is decoded from what it is written as**, with its history in order. -/
theorem Request.returns {r : Request} (h : r.Obtained) : decoder.Returns r.toJson r := by
  have hhistory : (Decoder.list Message.decoder).Returns (.array (r.history.map Message.toJson))
      r.history := by
    refine Decoder.Returns.list ?_
    rw [List.forall₂_map_left_iff, List.forall₂_same]
    exact fun m hm => Message.returns (h m hm)
  have hquery := returns_string r.query
  have hwritten : record.TakesAll record.empty
      [("query", .string r.query), ("history", .array (r.history.map Message.toJson))]
      ⟨some r.query, some r.history⟩ :=
    .cons (.of rfl rfl hquery) (.cons (.of rfl rfl hhistory) (.nil _))
  have hordered : record.TakesAll record.empty
      [("history", .array (r.history.map Message.toJson)), ("query", .string r.query)]
      ⟨some r.query, some r.history⟩ :=
    .cons (.of rfl rfl hhistory) (.cons (.of rfl rfl hquery) (.nil _))
  have hkeys : ["history", "query"].Pairwise (· < ·) := by decide
  exact Record.returns hwritten (List.Perm.swap _ _ _) hkeys hordered rfl

namespace Reply

/-- The draft that holds all of the reply. -/
def draft (r : Reply) : Draft := ⟨some r.text, r.surface.map some, r.source.map some⟩

theorem complete_draft (r : Reply) : record.complete r.draft = .ok r := by
  show Except.ok (⟨r.text, (r.surface.map some).join, (r.source.map some).join⟩ : Reply) = .ok r
  rw [join_map_some, join_map_some]

theorem takesAll_written {r : Reply} (h : r.Obtained) : record.TakesAll record.empty
    (("text", .string r.text) :: attachments r.surface r.source) r.draft := by
  obtain ⟨text, surface, source⟩ := r
  have hsource : record.TakesAll ⟨some text, surface.map some, none⟩
      ((source.map fun s => ("source", s.toJson)).toList ++ []) (draft ⟨text, surface, source⟩) :=
    .optionally rfl rfl (returns_source source) (by cases source <;> rfl) (.nil _)
  have hattachments : record.TakesAll ⟨some text, none, none⟩ (attachments surface source)
      (draft ⟨text, surface, source⟩) := by
    rw [List.append_nil] at hsource
    exact .optionally rfl rfl (returns_surface h) (by cases surface <;> rfl) hsource
  exact .cons (.of rfl rfl (returns_string text)) hattachments

theorem takesAll_inOrder {r : Reply} (h : r.Obtained) : record.TakesAll record.empty
    (attachmentsInOrder r.surface r.source r.text) r.draft := by
  obtain ⟨text, surface, source⟩ := r
  have htext : record.TakesAll ⟨none, surface.map some, source.map some⟩
      [("text", .string text)] (draft ⟨text, surface, source⟩) :=
    .cons (.of rfl rfl (returns_string text)) (.nil _)
  have hsurface : record.TakesAll ⟨none, none, source.map some⟩
      ((surface.map fun s => ("surface", s.toJson)).toList ++ [("text", .string text)])
      (draft ⟨text, surface, source⟩) :=
    .optionally rfl rfl (returns_surface h) (by cases surface <;> rfl) htext
  exact .optionally rfl rfl (returns_source source) (by cases source <;> rfl) hsurface

/-- **A reply is decoded from what it is written as.** -/
theorem returns {r : Reply} (h : r.Obtained) : decoder.Returns r.toJson r := by
  have hkeys : ["source", "surface", "text"].Pairwise (· < ·) := by decide
  have hsorted : Members.Sorted (attachmentsInOrder r.surface r.source r.text) :=
    hkeys.sublist (keys_attachmentsInOrder_sublist r.surface r.source r.text)
  have hperm := perm_attachmentsInOrder r.surface r.source r.text
  exact Record.returns (takesAll_written h) hperm hsorted (takesAll_inOrder h) r.complete_draft

end Reply

/-! ## §5. The conversation. -/

/-- **What was written is decoded again**: from the value, and from the compact text, if it opens
no more brackets at once than a text may and every number in it reads back. -/
structure Wire.Decoder.Restores {α : Type} (d : Decoder α) (written : Json) (a : α) : Prop where
  value : d.readValue written.canonical = .ok a
  text : written.nesting ≤ bracketBudget → (∀ n ∈ written.numbers, n.ReadsBack) →
    d.readText (bytesOf written.compact) = .ok a

theorem Wire.Decoder.Returns.restores {α : Type} {d : Decoder α} {written : Json} {a : α}
    (h : d.Returns written a) : d.Restores written a where
  value := h.value
  text hnesting hnumbers := h.readText ⟨hnesting, hnumbers⟩

/-- **Messages, requests and replies are decoded from what they are written as**, whatever surfaces
they bring along and whatever they lack; what they lack is not written. -/
theorem restores_conversation :
    (∀ m : Message, m.Obtained → Message.decoder.Restores m.toJson m)
      ∧ (∀ r : Request, r.Obtained → Request.decoder.Restores r.toJson r)
      ∧ (∀ r : Reply, r.Obtained → Reply.decoder.Restores r.toJson r)
      ∧ (∀ m : Message, Attaches m.toJson m.surface m.source)
      ∧ ∀ r : Reply, Attaches r.toJson r.surface r.source :=
  ⟨fun _ h => (Message.returns h).restores, fun _ h => (Request.returns h).restores,
    fun _ h => (Reply.returns h).restores, Message.attaches, Reply.attaches⟩

/-- A query after an answer that came with a surface from a source. -/
def followUp : Request where
  query := "Und ☂?"
  history := [.ofUser "Wetter in Zürich", ⟨.agent, "Today", some Template.weatherForecast,
    some ⟨"Meteo", "Forecast", "https://meteo.test/8001"⟩⟩]

theorem obtained_followUp : followUp.Obtained := by
  intro m hm s hs
  rcases List.mem_cons.1 (show m ∈ [_, _] from hm) with rfl | hm
  · cases hs
  · rw [List.mem_singleton.1 hm] at hs
    injection hs with hs
    exact hs ▸ Template.obtained_weatherForecast

theorem restores_conversation_followUp :
    Request.decoder.readValue followUp.toJson.canonical = .ok followUp
      ∧ Request.decoder.readText (bytesOf followUp.toJson.compact) = .ok followUp := by
  have hrestores := restores_conversation.2.1 followUp obtained_followUp
  refine ⟨hrestores.value, hrestores.text (by decide) fun n hn => ?_⟩
  have hintegers : followUp.toJson.numbers.all Number.isInteger = true := by decide
  exact Number.readsBack_of_isInteger (List.all_eq_true.1 hintegers n hn)

end SurfaceStudio
