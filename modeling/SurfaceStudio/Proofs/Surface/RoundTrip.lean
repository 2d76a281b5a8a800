import SurfaceStudio.Proofs.Surface.Documents

/-!
# The text of a surface

The editor shows a surface as indented text and parses that text whenever it changes.  Whatever
the surface is, the text stands for the very same surface.

  • `Node.Built`, `Node.Proper` — nodes as programs come by them,
  • `Surface.Decoded`, `Surface.Obtained` — surfaces as programs come by them,
  • `Surface.Obtained.sound` — all of them are sound,
  • `Surface.DecodedWithin.legible` — decoding keeps the bounds of what is decoded,
  • `Surface.parse_text` — **the text of a surface is parsed as that surface**.
-/

namespace SurfaceStudio

open Json Wire

/-! ## §1. Built nodes. -/

mutual

/-- A node that is built: a new one, with properties set and children added in any order. -/
inductive Node.Built : Node → Prop
  | new (tag : String) : Built (.new tag)
  | withProp {n : Node} (h : Built n) (key : String) {v : Json} (hv : v.Canonical) :
    Built (n.withProp key v)
  | withChild {n child : Node} (h : Built n) (hchild : Proper child) : Built (n.withChild child)
  | withChildren {n : Node} (h : Built n) {more : List Node} (hmore : ∀ c ∈ more, Proper c) :
    Built (n.withChildren more)

/-- A node that is decoded from a value, or built. -/
inductive Node.Proper : Node → Prop
  | decoded {v : Json} (hv : v.Canonical) : Proper (.ofJson v)
  | built {n : Node} (h : Built n) : Proper n

end

namespace Node

theorem tidy_new (tag : String) : (new tag).Tidy where
  props := canonical_object_iff.2 ⟨Members.sorted_nil, fun _ hm => nomatch hm⟩
  extra := canonical_object_iff.2 ⟨Members.sorted_nil, fun _ hm => nomatch hm⟩
  extra_type := rfl
  extra_props := rfl
  extra_children := rfl
  propsForm h := absurd rfl h
  childrenForm _ := rfl
  defect := rfl

/-- A property may be set where the properties are written in any case. -/
theorem Tidy.withProp {n : Node} (h : n.Tidy) (hform : n.propsForm = .present) (key : String)
    {v : Json} (hv : v.Canonical) : (n.withProp key v).Tidy where
  props := by
    obtain ⟨hs, hc⟩ := canonical_object_iff.1 h.props
    refine canonical_object_iff.2 ⟨Members.sorted_insert key v hs, fun m hm => ?_⟩
    rcases Members.mem_insert hm with rfl | hm
    · exact hv
    · exact hc m hm
  extra := h.extra
  extra_type := h.extra_type
  extra_props := h.extra_props
  extra_children := h.extra_children
  propsForm hne := absurd hform hne
  childrenForm := h.childrenForm
  defect := h.defect

theorem Tidy.withChildren {n : Node} (h : n.Tidy) (more : List Node) :
    (n.withChildren more).Tidy where
  props := h.props
  extra := h.extra
  extra_type := h.extra_type
  extra_props := h.extra_props
  extra_children := h.extra_children
  propsForm := h.propsForm
  childrenForm hne := absurd rfl hne
  defect := h.defect

mutual

/-- What is kept while a node is built: it is tidy, its properties are written in any case, and
its children are sound. -/
theorem Built.parts {n : Node} : n.Built →
    n.Tidy ∧ n.propsForm = .present ∧ ∀ c ∈ n.children, c.Sound
  | .new tag => ⟨tidy_new tag, rfl, fun _ hc => nomatch hc⟩
  | .withProp h key hv => by
    obtain ⟨htidy, hform, hchildren⟩ := Built.parts h
    exact ⟨htidy.withProp hform key hv, hform, hchildren⟩
  | .withChild h hchild => by
    obtain ⟨htidy, hform, hchildren⟩ := Built.parts h
    refine ⟨htidy.withChildren _, hform, fun c hc => ?_⟩
    rcases List.mem_append.1 hc with hc | hc
    · exact hchildren c hc
    · exact List.mem_singleton.1 hc ▸ Proper.sound hchild
  | .withChildren h hmore => by
    obtain ⟨htidy, hform, hchildren⟩ := Built.parts h
    refine ⟨htidy.withChildren _, hform, fun c hc => ?_⟩
    rcases List.mem_append.1 hc with hc | hc
    · exact hchildren c hc
    · exact Proper.sound (hmore c hc)

/-- **Decoded and built nodes are sound.** -/
theorem Proper.sound {n : Node} : n.Proper → n.Sound
  | .decoded hv => sound_ofJson hv
  | .built h => .tidy (Built.parts h).1 (Built.parts h).2.2

end

end Node

/-! ## §2. Surfaces. -/

namespace Surface

/-- A surface that is decoded: from a text that is parsed, from a value that is checked, or by the
decoder of replies, from a value or from wherever a text has been read to. -/
inductive Decoded : Surface → Prop
  | parsed {text : String} {s : Surface} (h : parse text = .ok s) : Decoded s
  | checked {v : Json} {s : Surface} (hv : v.Canonical) (h : ofJson v = .ok s) : Decoded s
  | ofValue {v : Json} {s : Surface} (hv : v.Canonical) (h : decoder.readValue v = .ok s) :
    Decoded s
  | ofText {budget : Nat} {c c' : Cursor} {s : Surface}
    (h : decoder.fromText budget c = .ok (s, c')) : Decoded s

/-- A surface that is decoded, or made from nodes that are built. -/
inductive Obtained : Surface → Prop
  | decoded {s : Surface} (h : s.Decoded) : Obtained s
  | new (id : String) {content : List Node} (h : ∀ n ∈ content, n.Built) :
    Obtained (.new id content)

theorem sound_of_ofJson {v : Json} {s : Surface} (hv : v.Canonical) (h : ofJson v = .ok s) :
    s.Sound := by
  obtain ⟨members, rfl⟩ := exists_members_of_ofJson h
  obtain ⟨hs, hc⟩ := canonical_object_iff.1 hv
  exact (assembled_ofJson hs hc (fun _ hitems => canonical_array_iff.1 hitems) h).sound

/-- **Decoded surfaces are sound**, in whichever way they are decoded. -/
theorem Decoded.sound {s : Surface} (h : s.Decoded) : s.Sound := by
  cases h with
  | parsed h =>
    obtain ⟨v, hv, hs⟩ := read_of_parse h
    -- The reader collects members in order, so what it returns is canonical.
    exact sound_of_ofJson (regular_of_read hv).1 hs
  | checked hv h => exact sound_of_ofJson hv h
  | ofValue hv h =>
    obtain ⟨members, rfl⟩ := Record.exists_members_of_ofValue rfl h
    obtain ⟨-, hc⟩ := canonical_object_iff.1 hv
    exact (assembled_readValue hc (fun _ hitems => canonical_array_iff.1 hitems) h).sound
  | @ofText budget _ _ _ h =>
    exact ((yields_assembled budget h).mono (fun _ hv => hv.1) fun _ hv => hv.1).sound

theorem Obtained.sound {s : Surface} (h : s.Obtained) : s.Sound := by
  cases h with
  | decoded h => exact h.sound
  | new id h =>
    exact {
      content := fun n hn => (Node.Proper.built (h n hn)).sound
      extra := canonical_object_iff.2 ⟨Members.sorted_nil, fun _ hm => nomatch hm⟩
      extra_id := rfl
      extra_content := rfl }

/-! ## §3. Decoding within bounds. -/

/-- A surface that is decoded from JSON with at most `budget` brackets open at once and with
numbers that read back: from a value, by the check or by the decoder of replies, or from a text by
a decoder that is left no more brackets. -/
inductive DecodedWithin (budget : Nat) : Surface → Prop
  | checked {v : Json} {s : Surface} (hv : v.Canonical) (hl : v.Legible budget)
    (h : ofJson v = .ok s) : DecodedWithin budget s
  | ofValue {v : Json} {s : Surface} (hv : v.Canonical) (hl : v.Legible budget)
    (h : decoder.readValue v = .ok s) : DecodedWithin budget s
  | ofText {c c' : Cursor} {s : Surface} (h : decoder.fromText budget c = .ok (s, c'))
    (hnumbers : ∀ n ∈ s.toJson.numbers, n.ReadsBack) : DecodedWithin budget s

theorem DecodedWithin.sound {budget : Nat} {s : Surface} (h : s.DecodedWithin budget) :
    s.Sound := by
  cases h with
  | checked hv _ h => exact (Decoded.checked hv h).sound
  | ofValue hv _ h => exact (Decoded.ofValue hv h).sound
  | ofText h _ => exact (Decoded.ofText h).sound

/-- The values that the members and the content of a surface stand for are bounded by what the
surface leaves of the budget. -/
theorem bounded_parts {budget : Nat} {N : Number → Prop} {members : Members}
    (hv : (Json.object members).Canonical) (hl : (Json.object members).Bounded (budget + 2) N) :
    (∀ m ∈ members, m.2.Canonical ∧ m.2.Bounded (budget + 1) N)
      ∧ ∀ items, (Json.array items).Canonical ∧ (Json.array items).Bounded (budget + 1) N →
        ∀ v ∈ items, v.Canonical ∧ v.Bounded budget N := by
  refine ⟨fun m hm => ?_, fun items hitems v hmem => ?_⟩
  · exact ⟨(canonical_object_iff.1 hv).2 m hm, bounded_object_iff.1 hl m hm⟩
  · exact ⟨canonical_array_iff.1 hitems.1 v hmem, bounded_array_iff.1 hitems.2 v hmem⟩

/-- **A surface that is decoded within bounds is written within them.** -/
theorem DecodedWithin.legible {budget : Nat} {s : Surface} (h : s.DecodedWithin (budget + 2)) :
    s.toJson.Legible (budget + 2) := by
  cases h with
  | checked hv hl h =>
    obtain ⟨members, rfl⟩ := exists_members_of_ofJson h
    obtain ⟨hmembers, hitems⟩ := bounded_parts hv hl
    exact (assembled_ofJson (canonical_object_iff.1 hv).1 hmembers hitems h).bounded
  | ofValue hv hl h =>
    obtain ⟨members, rfl⟩ := Record.exists_members_of_ofValue rfl h
    obtain ⟨hmembers, hitems⟩ := bounded_parts hv hl
    exact (assembled_readValue hmembers hitems h).bounded
  | ofText h hnumbers =>
    -- The reading bounds the brackets alone; the numbers are looked after separately.
    have hregular : ∀ b v, Regular b v → v.Canonical ∧ v.Bounded b fun _ => True :=
      fun b v hv => ⟨hv.1, hv.2, fun _ _ => trivial⟩
    have hassembled := (yields_assembled (budget + 2) h).mono (hregular _) (hregular _)
    exact ⟨hassembled.bounded.nesting, hnumbers⟩

/-! ## §4. Texts. -/

/-- A legible text of a sound surface is parsed as that surface, in any layout. -/
theorem parse_write {s : Surface} (h : s.Sound) {layout : Layout} (hlayout : layout.Plain)
    (hl : s.toJson.Legible bracketBudget) : parse (s.toJson.write layout) = .ok s :=
  parse_of_read (read_write hlayout hl) (ofJson_toJson h)

/-- **The text of a surface is parsed as that surface**, the indented text as well as the compact
one, if it opens no more brackets at once than a text may and every number in it reads back. -/
theorem parse_text {s : Surface} (h : s.Obtained) (hnesting : s.toJson.nesting ≤ bracketBudget)
    (hnumbers : ∀ n ∈ s.toJson.numbers, n.ReadsBack) :
    parse s.pretty = .ok s ∧ parse s.toJson.compact = .ok s := by
  have hl : s.toJson.Legible bracketBudget := ⟨hnesting, hnumbers⟩
  exact ⟨parse_write h.sound Layout.plain_indented hl, parse_write h.sound Layout.plain_compact hl⟩

/-- A card with a number among its properties and a child that is not a node. -/
def looseCard : Surface :=
  .new "s" [(Node.new "Card").withProp "size" (.number (.ofSmallNat 3 (by decide)))
    |>.withChild (.ofJson (.string "loose"))]

theorem parse_text_looseCard :
    parse looseCard.pretty = .ok looseCard ∧ parse looseCard.toJson.compact = .ok looseCard := by
  refine parse_text (.new "s" fun n hn => ?_) (by decide) fun n hn => ?_
  · rw [List.mem_singleton.1 hn]
    have hsize : (Json.number (.ofSmallNat 3 (by decide))).Canonical := trivial
    have hloose : (Json.string "loose").Canonical := trivial
    exact ((Node.Built.new "Card").withProp "size" hsize).withChild (.decoded hloose)
  · have hn : n ∈ [Number.ofSmallNat 3 (by decide)] := hn
    rw [List.mem_singleton.1 hn]
    exact Number.readsBack_integer _ _

end Surface

end SurfaceStudio
