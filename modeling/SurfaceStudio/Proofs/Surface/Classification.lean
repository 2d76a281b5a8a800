import SurfaceStudio.Proofs.Json.Completeness
import SurfaceStudio.Proofs.Surface.Documents

/-!
# Which texts are surfaces

Every text is one of three: no JSON text, the text of a value that is not a surface, or a surface.
The grammar says which, before any reading, by the value that the text spells with its members as
they stand; of members with the same key the last one counts.

  • `Surface.Lacks` — what the top level of a value lacks, the id being looked for first,
  • `Surface.SpelledBy` — the surface that the members of an object spell,
  • `Surface.lacks_or_spelledBy` — **one of the two holds of every value**,
  • `Node.Shaped`, `Node.Marked` — which values are nodes without a defect,
  • `Surface.Classified`, `Surface.parse_classifies` — **what becomes of every text and of every
    node**.
-/

namespace SurfaceStudio

open Json Grammar

/-! ## §1. Members as they stand. -/

namespace Json

/-- An array with these elements instead of its own; any other value as it is. -/
def withItems (items : List Json) : Json → Json
  | .array _ => .array items
  | v => v

end Json

namespace Members

theorem get?_map (key : String) (f : String → Json → Json) (members : Members) :
    get? key (members.map fun m => (m.1, f m.1 m.2)) = (get? key members).map (f key) := by
  induction members with
  | nil => rfl
  | cons m rest ih =>
    obtain ⟨k, v⟩ := m
    rw [List.map_cons, get?_cons, get?_cons, ih]
    by_cases hk : k = key
    · rw [if_pos hk, if_pos hk, hk, Option.map_some]
    · rw [if_neg hk, if_neg hk]

theorem last?_map (key : String) (f : String → Json → Json) (members : Members) :
    last? key (members.map fun m => (m.1, f m.1 m.2)) = (last? key members).map (f key) := by
  rw [last?, ← List.map_reverse, get?_map, last?]

/-- **What is found in a value that has been read** is what stands last in the text. -/
theorem get?_canonical (key : String) (members : Members) :
    get? key (collect (canonicalMembers members)) = (last? key members).map canonical := by
  rw [get?_collect_eq_last?, canonicalMembers_eq_map]
  exact last?_map key (fun _ v => v.canonical) members

/-- The elements of the array under a key, none if there is no array. -/
def itemsUnder (key : String) (members : Members) : List Json :=
  match members.last? key with
  | some (.array items) => items
  | _ => []

/-- Every array under a key has these elements instead of its own. -/
def replaceItems (key : String) (items : List Json) (members : Members) : Members :=
  members.map fun m => (m.1, if m.1 = key then m.2.withItems items else m.2)

theorem last?_replaceItems (k key : String) (items : List Json) (members : Members) :
    last? k (replaceItems key items members)
      = (last? k members).map fun v => if k = key then v.withItems items else v :=
  last?_map k (fun k v => if k = key then v.withItems items else v) members

theorem last?_replaceItems_of_ne {k key : String} (h : k ≠ key) (items : List Json)
    (members : Members) : last? k (replaceItems key items members) = last? k members := by
  simp only [last?_replaceItems, if_neg h, Option.map_id']

theorem last?_replaceItems_self (key : String) (items : List Json) (members : Members) :
    last? key (replaceItems key items members) = (last? key members).map (withItems items) := by
  simp only [last?_replaceItems, if_pos]

end Members

/-! ## §2. Nodes. -/

namespace Node

/-- **The value has the shape of a node**: an object with a string for its tag, whose properties
and children are absent, null, or an object and an array.  What the children are does not
matter. -/
inductive Shaped : Json → Prop
  | object {ms : Members} (tag : ∃ text, ms.last? "type" = some (.string text))
      (props : ∀ v, ms.last? "props" = some v → v = .null ∨ ∃ members, v = .object members)
      (children : ∀ v, ms.last? "children" = some v → v = .null ∨ ∃ items, v = .array items) :
      Shaped (.object ms)

theorem isTag_map_canonical_iff {v? : Option Json} :
    isTag (v?.map canonical) = true ↔ ∃ text, v? = some (.string text) := by
  cases v? with
  | none => simp [isTag]
  | some v => cases v <;> simp [isTag, canonical]

theorem mayBeProps_map_canonical_iff {v? : Option Json} :
    mayBeProps (v?.map canonical) = true
      ↔ ∀ v, v? = some v → v = .null ∨ ∃ members, v = .object members := by
  cases v? with
  | none => simp [mayBeProps]
  | some v => cases v <;> simp [mayBeProps, canonical]

theorem mayBeChildren_map_canonical_iff {v? : Option Json} :
    mayBeChildren (v?.map canonical) = true
      ↔ ∀ v, v? = some v → v = .null ∨ ∃ items, v = .array items := by
  cases v? with
  | none => simp [mayBeChildren]
  | some v => cases v <;> simp [mayBeChildren, canonical]

theorem shaped_object_iff {ms : Members} :
    Shaped (.object ms) ↔ shapeFault? (collect (canonicalMembers ms)) = none := by
  rw [shapeFault?_eq_none_iff, Members.get?_canonical, Members.get?_canonical,
    Members.get?_canonical, isTag_map_canonical_iff, mayBeProps_map_canonical_iff,
    mayBeChildren_map_canonical_iff]
  constructor
  · intro h
    cases h with
    | object tag props children => exact ⟨tag, props, children⟩
  · intro h
    exact .object h.1 h.2.1 h.2.2

theorem defect_eq_none_iff {members : Members} :
    (ofJson (.object members)).defect = none ↔ shapeFault? members = none := by
  cases h : shapeFault? members with
  | none => rw [ofJson, ofMembers, h]; simp
  | some fault => rw [defect_ofJson h]; simp

theorem defect_canonical_eq_none_iff {v : Json} :
    (ofJson v.canonical).defect = none ↔ Shaped v := by
  cases v with
  | object ms => rw [shaped_object_iff, canonical, defect_eq_none_iff]
  | _ =>
    constructor
    · intro h
      cases h
    · intro h
      cases h

theorem children_canonical {ms : Members} (h : Shaped (.object ms)) :
    (ofJson (Json.object ms).canonical).children
      = (ms.itemsUnder "children").map fun v => ofJson v.canonical := by
  have hchildren : ∀ v? : Option Json, ((v?.map canonical).map itemsOf).getD []
      = (match v? with
        | some (.array items) => items
        | _ => []).map fun v : Json => ofJson v.canonical := by
    intro v?
    cases v? with
    | none => rfl
    | some v =>
      cases v with
      | array items =>
        show itemsOf (Json.array items).canonical = _
        rw [canonical, itemsOf, ofItems_eq_map, canonicalItems_eq_map, List.map_map]
        rfl
      | _ => rfl
  rw [canonical, children_ofJson (shaped_object_iff.1 h), childrenOf_eq, Members.get?_canonical,
    hchildren]
  rfl

/-- The elements of `children` have no part in the shape of a node. -/
theorem shaped_replaceItems_iff (ms : Members) (items : List Json) :
    Shaped (.object (ms.replaceItems "children" items)) ↔ Shaped (.object ms) := by
  have hkind : ∀ v? : Option Json, mayBeChildren ((v?.map (withItems items)).map canonical)
      = mayBeChildren (v?.map canonical) := by
    intro v?
    cases v? with
    | none => rfl
    | some v => cases v <;> rfl
  rw [shaped_object_iff, shaped_object_iff, shapeFault?_eq_none_iff, shapeFault?_eq_none_iff]
  simp only [Members.get?_canonical, Members.last?_replaceItems_self, hkind,
    Members.last?_replaceItems_of_ne (by decide : "type" ≠ "children"),
    Members.last?_replaceItems_of_ne (by decide : "props" ≠ "children")]

/-- **When a node is marked as defective**: its own value decides it, and that down to the
elements of `children`, which become nodes of their own. -/
structure Marked (v : Json) : Prop where
  shaped : (ofJson v.canonical).defect = none ↔ Shaped v
  children : ∀ ms : Members, v = .object ms → Shaped v →
    (ofJson v.canonical).children = (ms.itemsUnder "children").map fun w => ofJson w.canonical
  independent : ∀ (ms : Members) (items : List Json), v = .object ms →
    ((ofJson (Json.object (ms.replaceItems "children" items)).canonical).defect = none
      ↔ (ofJson v.canonical).defect = none)

theorem marked (v : Json) : Marked v where
  shaped := defect_canonical_eq_none_iff
  children ms hv h := by
    subst hv
    exact children_canonical h
  independent ms items hv := by
    subst hv
    rw [defect_canonical_eq_none_iff, defect_canonical_eq_none_iff, shaped_replaceItems_iff]

end Node

/-! ## §3. Values of surfaces. -/

namespace Surface

/-- **What the top level of a value lacks to be a surface.**  The content is looked at only beside
an id. -/
inductive Lacks : Json → SurfaceFault → Prop
  | notAnObject {v : Json} (h : ∀ ms, v ≠ .object ms) : Lacks v .notAnObject
  | idMissing {ms : Members} (h : ms.last? "surfaceId" = none) : Lacks (.object ms) .idMissing
  | idNotAString {ms : Members} {w : Json} (h : ms.last? "surfaceId" = some w)
      (hw : ∀ id, w ≠ .string id) : Lacks (.object ms) .idNotAString
  | contentMissing {ms : Members} {id : String} (hid : ms.last? "surfaceId" = some (.string id))
      (h : ms.last? "content" = none) : Lacks (.object ms) .contentMissing
  | contentNotAnArray {ms : Members} {id : String} {w : Json}
      (hid : ms.last? "surfaceId" = some (.string id)) (h : ms.last? "content" = some w)
      (hw : ∀ items, w ≠ .array items) : Lacks (.object ms) .contentNotAnArray

/-- **The members of an object spell the surface**: its id, one node after the other for the
elements of the content, and exactly the other members. -/
structure SpelledBy (ms : Members) (s : Surface) : Prop where
  id : ms.last? "surfaceId" = some (.string s.id)
  content : ∃ items, ms.last? "content" = some (.array items)
    ∧ s.content = items.map fun v => Node.ofJson v.canonical
  sorted : Members.Sorted s.extra
  extra : ∀ key, s.extra.get? key
    = if IsField key then none else (ms.last? key).map canonical

/-- Every value lacks something, or else its members spell a surface. -/
theorem lacks_or_spelledBy (v : Json) :
    (∃ fault, Lacks v fault) ∨ ∃ ms s, v = .object ms ∧ SpelledBy ms s := by
  cases v with
  | object ms =>
    -- In the order of the check: the content matters only beside an id.
    cases hid : Members.last? "surfaceId" ms with
    | none => exact .inl ⟨_, .idMissing hid⟩
    | some w =>
      cases w with
      | string id =>
        cases hcontent : Members.last? "content" ms with
        | none => exact .inl ⟨_, .contentMissing hid hcontent⟩
        | some w =>
          cases w with
          | array items =>
            refine .inr ⟨ms, ⟨id, items.map fun v => Node.ofJson v.canonical,
              othersOf (collect (canonicalMembers ms))⟩, rfl, hid, ⟨items, hcontent, rfl⟩, ?_,
              fun key => ?_⟩
            · exact sorted_othersOf (Members.sorted_collect _)
            · rw [get?_othersOf key (Members.sorted_collect _), Members.get?_canonical]
          | _ => exact .inl ⟨_, .contentNotAnArray hid hcontent fun _ h => by cases h⟩
      | _ => exact .inl ⟨_, .idNotAString hid fun _ h => by cases h⟩
  | _ => exact .inl ⟨_, .notAnObject fun _ h => by cases h⟩

theorem idOf_canonical (ms : Members) : idOf (collect (canonicalMembers ms))
    = match ms.last? "surfaceId" with
      | some (.string id) => .ok id
      | some _ => .error .idNotAString
      | none => .error .idMissing := by
  rw [idOf, Members.get?_canonical]
  cases ms.last? "surfaceId" with
  | none => rfl
  | some v => cases v <;> rfl

theorem contentOf_canonical (ms : Members) : contentOf (collect (canonicalMembers ms))
    = match ms.last? "content" with
      | some (.array items) => .ok (items.map canonical)
      | some _ => .error .contentNotAnArray
      | none => .error .contentMissing := by
  rw [contentOf, Members.get?_canonical]
  cases ms.last? "content" with
  | none => rfl
  | some v =>
    cases v with
    | array items => simp only [Option.map_some, canonical, canonicalItems_eq_map]
    | _ => rfl

/-- What is lacking is reported. -/
theorem ofJson_eq_error_of_lacks {v : Json} {fault : SurfaceFault} (h : Lacks v fault) :
    ofJson v.canonical = .error fault := by
  have hobject : ∀ ms : Members, ofJson (Json.object ms).canonical
      = (idOf (collect (canonicalMembers ms)) >>= fun id =>
        contentOf (collect (canonicalMembers ms)) >>= fun items =>
          Except.ok ⟨id, Node.ofItems items, othersOf (collect (canonicalMembers ms))⟩) :=
    fun _ => rfl
  cases h with
  | notAnObject h =>
    cases v with
    | object ms => exact absurd rfl (h ms)
    | _ => rfl
  | idMissing h =>
    rw [hobject, idOf_canonical, h]
    rfl
  | @idNotAString ms w h hw =>
    rw [hobject, idOf_canonical, h]
    cases w with
    | string id => exact absurd rfl (hw id)
    | _ => rfl
  | contentMissing hid h =>
    rw [hobject, idOf_canonical, hid, contentOf_canonical, h]
    rfl
  | @contentNotAnArray ms id w hid h hw =>
    rw [hobject, idOf_canonical, hid, contentOf_canonical, h]
    cases w with
    | array items => exact absurd rfl (hw items)
    | _ => rfl

/-- What is spelled is read. -/
theorem ofJson_eq_ok_of_spelledBy {ms : Members} {s : Surface} (h : SpelledBy ms s) :
    ofJson (Json.object ms).canonical = .ok s := by
  obtain ⟨items, hitems, hcontent⟩ := h.content
  refine ofJson_eq_ok_iff.2 ⟨collect (canonicalMembers ms), s.id, items.map canonical, rfl, ?_, ?_,
    ?_⟩
  · rw [Members.get?_canonical, h.id]
    rfl
  · rw [Members.get?_canonical, hitems, Option.map_some, canonical, canonicalItems_eq_map]
  · have hextra : s.extra = othersOf (collect (canonicalMembers ms)) := by
      refine Members.eq_of_get?_eq h.sorted (sorted_othersOf (Members.sorted_collect _))
        fun key => ?_
      rw [h.extra, get?_othersOf key (Members.sorted_collect _), Members.get?_canonical]
    rw [← hextra, Node.ofItems_eq_map, List.map_map]
    cases s
    exact congrArg (fun ns => Surface.mk _ ns _) hcontent

/-! ## §4. The elements of the content. -/

variable {ms : Members}

/-- What is lacking does not depend on them. -/
theorem Lacks.replaceItems {fault : SurfaceFault} (h : Lacks (.object ms) fault)
    (items : List Json) : Lacks (.object (ms.replaceItems "content" items)) fault := by
  have hid := Members.last?_replaceItems_of_ne (by decide : "surfaceId" ≠ "content") items ms
  have hcontent := Members.last?_replaceItems_self "content" items ms
  cases h with
  | notAnObject h => exact absurd rfl (h ms)
  | idMissing h => exact .idMissing (hid.trans h)
  | idNotAString h hw => exact .idNotAString (hid.trans h) hw
  | contentMissing h h' =>
    rw [h'] at hcontent
    exact .contentMissing (hid.trans h) hcontent
  | @contentNotAnArray _ _ w h h' hw =>
    rw [h'] at hcontent
    refine .contentNotAnArray (hid.trans h) hcontent ?_
    cases w with
    | array vs => exact absurd rfl (hw vs)
    | _ => exact hw

/-- What is spelled has other nodes, and the same id and members. -/
theorem SpelledBy.replaceItems {s : Surface} (h : SpelledBy ms s) (items : List Json) :
    SpelledBy (ms.replaceItems "content" items)
      { s with content := items.map fun v => Node.ofJson v.canonical } where
  id := (Members.last?_replaceItems_of_ne (by decide) items ms).trans h.id
  content := by
    obtain ⟨vs, hvs, -⟩ := h.content
    refine ⟨items, ?_, rfl⟩
    rw [Members.last?_replaceItems_self, hvs]
    rfl
  sorted := h.sorted
  extra key := by
    rw [h.extra]
    by_cases hkey : IsField key
    · rw [if_pos hkey, if_pos hkey]
    · rw [if_neg hkey, if_neg hkey,
        Members.last?_replaceItems_of_ne (fun hc => hkey (.inr hc)) items ms]

/-! ## §5. Texts. -/

theorem parse_of_read_eq_error {text : String} {fault : Fault}
    (h : Json.read text = .error fault) : parse text = .error (.malformed fault) := by
  rw [parse, h]

theorem parse_of_lacks {text : String} {v : Json} {fault : SurfaceFault} (h : Denotes text v)
    (hl : Lacks v fault) : parse text = .error (.shape fault) := by
  have hread : Json.read text = .ok v.canonical := read_eq_ok_iff.2 ⟨v, h, rfl⟩
  rw [parse, hread]
  dsimp only
  rw [ofJson_eq_error_of_lacks hl]

theorem parse_of_spelledBy {text : String} {s : Surface} (h : Denotes text (.object ms))
    (hs : SpelledBy ms s) : parse text = .ok s :=
  parse_of_read (read_eq_ok_iff.2 ⟨_, h, rfl⟩) (ofJson_eq_ok_of_spelledBy hs)

/-- **There are three kinds of texts**, and by the lemmas above each has its own outcome. -/
theorem malformed_or_lacks_or_spelledBy (text : String) :
    (∃ fault, Json.read text = .error fault) ∨ (∃ v fault, Denotes text v ∧ Lacks v fault)
      ∨ ∃ ms s, Denotes text (.object ms) ∧ SpelledBy ms s := by
  cases hread : Json.read text with
  | error fault => exact .inl ⟨fault, rfl⟩
  | ok w =>
    obtain ⟨v, hv, -⟩ := read_eq_ok_iff.1 hread
    rcases lacks_or_spelledBy v with ⟨fault, hl⟩ | ⟨ms, s, rfl, hs⟩
    · exact .inr (.inl ⟨v, fault, hv, hl⟩)
    · exact .inr (.inr ⟨ms, s, hv, hs⟩)

theorem parse_eq_malformed_iff {text : String} :
    (∃ fault, parse text = .error (.malformed fault)) ↔ ¬ WellFormed text := by
  constructor
  · intro h hw
    obtain ⟨fault, hfault⟩ := h
    obtain ⟨v, hv⟩ := hw
    rcases lacks_or_spelledBy v with ⟨fault', hl⟩ | ⟨ms, s, rfl, hs⟩
    · rw [parse_of_lacks hv hl] at hfault
      cases hfault
    · rw [parse_of_spelledBy hv hs] at hfault
      cases hfault
  · intro h
    rcases malformed_or_lacks_or_spelledBy text with ⟨fault, hread⟩ | ⟨v, _, hv, -⟩ | ⟨ms, _, hv, -⟩
    · exact ⟨fault, parse_of_read_eq_error hread⟩
    · exact absurd ⟨v, hv⟩ h
    · exact absurd ⟨_, hv⟩ h

theorem parse_eq_shape_iff_lacks {text : String} {fault : SurfaceFault} :
    parse text = .error (.shape fault) ↔ ∃ v, Denotes text v ∧ Lacks v fault := by
  constructor
  · intro h
    rcases malformed_or_lacks_or_spelledBy text with
      ⟨fault', hread⟩ | ⟨v, fault', hv, hl⟩ | ⟨ms, s, hv, hs⟩
    · rw [parse_of_read_eq_error hread] at h
      cases h
    · rw [parse_of_lacks hv hl] at h
      injection h with h
      injection h with h
      exact ⟨v, hv, h ▸ hl⟩
    · rw [parse_of_spelledBy hv hs] at h
      cases h
  · intro h
    obtain ⟨v, hv, hl⟩ := h
    exact parse_of_lacks hv hl

theorem parse_eq_ok_iff_spelledBy {text : String} {s : Surface} :
    parse text = .ok s ↔ ∃ ms, Denotes text (.object ms) ∧ SpelledBy ms s := by
  constructor
  · intro h
    rcases malformed_or_lacks_or_spelledBy text with
      ⟨fault, hread⟩ | ⟨v, fault, hv, hl⟩ | ⟨ms, s', hv, hs⟩
    · rw [parse_of_read_eq_error hread] at h
      cases h
    · rw [parse_of_lacks hv hl] at h
      cases h
    · rw [parse_of_spelledBy hv hs] at h
      injection h with h
      exact ⟨ms, hv, h ▸ hs⟩
  · intro h
    obtain ⟨ms, hv, hs⟩ := h
    exact parse_of_spelledBy hv hs

/-- **What becomes of a text.** -/
structure Classified (text : String) : Prop where
  /-- It is refused as no JSON text exactly if it is not the text of one value. -/
  malformed : (∃ fault, parse text = .error (.malformed fault)) ↔ ¬ WellFormed text
  message : ∀ fault, Json.read text = .error fault →
    parse text = .error (.malformed fault) ∧ (ParseError.malformed fault).message = fault.message
  tooDeep : ∀ v, Document text v → bracketBudget < v.nesting →
    ∃ place, parse text = .error (.malformed ⟨.tooDeep, place⟩)
  trailing : ∀ s t v, Gap (bytesOf text) s → Value s v t → v.nesting ≤ bracketBudget → Ends t →
    ¬ Gap t [] → ∃ place, parse text = .error (.malformed ⟨.trailingCharacters, place⟩)
  /-- It is refused for its shape exactly if its value lacks something. -/
  lacking : ∀ fault, parse text = .error (.shape fault) ↔ ∃ v, Denotes text v ∧ Lacks v fault
  /-- It is the text of a surface exactly if the members of its value spell one. -/
  spelled : ∀ s, parse text = .ok s ↔ ∃ ms, Denotes text (.object ms) ∧ SpelledBy ms s
  otherwise : ∀ v, Denotes text v → (∀ fault, ¬ Lacks v fault) → ∃ s, parse text = .ok s
  /-- Other elements in the content change its nodes and nothing else. -/
  elements : ∀ (ms : Members) (items : List Json) (text' : String), Denotes text (.object ms) →
    Denotes text' (.object (ms.replaceItems "content" items)) →
    ((∃ s, parse text' = .ok s) ↔ ∃ s, parse text = .ok s)
      ∧ (∀ s, parse text = .ok s → parse text' =
        .ok { s with content := items.map fun v => Node.ofJson v.canonical })
      ∧ ∀ fault, parse text = .error (.shape fault) → parse text' = .error (.shape fault)

theorem classified_elements {text text' : String} {items : List Json}
    (h : Denotes text (.object ms))
    (h' : Denotes text' (.object (ms.replaceItems "content" items))) :
    ((∃ s, parse text' = .ok s) ↔ ∃ s, parse text = .ok s)
      ∧ (∀ s, parse text = .ok s → parse text' =
        .ok { s with content := items.map fun v => Node.ofJson v.canonical })
      ∧ ∀ fault, parse text = .error (.shape fault) → parse text' = .error (.shape fault) := by
  -- Both texts lack the same, or both spell a surface.
  rcases lacks_or_spelledBy (.object ms) with ⟨fault, hl⟩ | ⟨_, s, hms, hs⟩
  · rw [parse_of_lacks h hl, parse_of_lacks h' (hl.replaceItems items)]
    refine ⟨⟨fun hok => ?_, fun hok => ?_⟩, fun _ hok => ?_, fun _ hfault => hfault⟩
    · obtain ⟨_, hok⟩ := hok
      cases hok
    · obtain ⟨_, hok⟩ := hok
      cases hok
    · cases hok
  · injection hms with hms
    subst hms
    rw [parse_of_spelledBy h hs, parse_of_spelledBy h' (hs.replaceItems items)]
    refine ⟨⟨fun _ => ⟨_, rfl⟩, fun _ => ⟨_, rfl⟩⟩, fun s' hs' => ?_, fun _ hfault => ?_⟩
    · injection hs' with hs'
      rw [hs']
    · cases hfault

/-- **Every text is classified**, and every value is marked as the node it is. -/
theorem parse_classifies : (∀ text, Classified text) ∧ ∀ v, Node.Marked v := by
  refine ⟨fun text => ?_, Node.marked⟩
  exact {
    malformed := parse_eq_malformed_iff
    message := fun fault h => ⟨parse_of_read_eq_error h, rfl⟩
    tooDeep := by
      intro v hv hn
      obtain ⟨place, hread⟩ := read_eq_tooDeep hv hn
      exact ⟨place, parse_of_read_eq_error hread⟩
    trailing := by
      intro s t v hgap hv hn hends ht
      obtain ⟨place, hread⟩ := read_eq_trailing hgap hv hn hends ht
      exact ⟨place, parse_of_read_eq_error hread⟩
    lacking := fun _ => parse_eq_shape_iff_lacks
    spelled := fun _ => parse_eq_ok_iff_spelledBy
    otherwise := by
      intro v hv hl
      rcases lacks_or_spelledBy v with ⟨fault, h⟩ | ⟨ms, s, rfl, hs⟩
      · exact absurd h (hl fault)
      · exact ⟨s, parse_of_spelledBy hv hs⟩
    elements := fun _ _ _ h h' => classified_elements h h' }

/-- The text of a surface that is given its id twice, with an element that is no node. -/
def renamedText : String :=
  "\x7b\"surfaceId\":null,\"content\":[true],\"surfaceId\":\"a\"\x7d"

/-- Its members as they stand. -/
def renamedMembers : Members :=
  [("surfaceId", .null), ("content", .array [.bool true]), ("surfaceId", .string "a")]

theorem denotes_renamedText : Denotes renamedText (.object renamedMembers) := by
  have hid : ∀ t, Quoted ('"'.toUInt8
      :: (['s', 'u', 'r', 'f', 'a', 'c', 'e', 'I', 'd'].flatMap String.utf8EncodeChar
        ++ '"'.toUInt8 :: t)) "surfaceId" t := quoted_ofList (by simp)
  have hcontent : ∀ t, Quoted ('"'.toUInt8
      :: (['c', 'o', 'n', 't', 'e', 'n', 't'].flatMap String.utf8EncodeChar ++ '"'.toUInt8 :: t))
      "content" t := quoted_ofList (by simp)
  have htext : ∀ t, Quoted ('"'.toUInt8 :: (['a'].flatMap String.utf8EncodeChar
      ++ '"'.toUInt8 :: t)) "a" t := quoted_ofList (by simp)
  have hbytes : bytesOf renamedText = renamedText.toList.flatMap String.utf8EncodeChar :=
    bytesOf_toList renamedText
  have hgap := gap_refl
  refine ⟨⟨_, [], hgap _, ?_, hgap _⟩, by decide⟩
  rw [hbytes]
  -- Member by member, without any white space.
  exact .object (.cons (.first (hgap _)) (hid _) (hgap _) (hgap _) .null
    (.cons (.next (hgap _) (hgap _)) (hcontent _) (hgap _) (hgap _)
      (.array (.cons (.first (hgap _)) .yes (.nil (hgap _))))
      (.cons (.next (hgap _) (hgap _)) (hid _) (hgap _) (hgap _) (.string (htext _))
        (.nil (hgap _)))))

theorem parse_classifies_renamedText :
    parse renamedText = .ok ⟨"a", [Node.ofJson (.bool true)], []⟩
      ∧ (Node.ofJson (.bool true)).defect ≠ none := by
  have hspelled : SpelledBy renamedMembers ⟨"a", [Node.ofJson (.bool true)], []⟩ := by
    refine ⟨rfl, ⟨[.bool true], rfl, rfl⟩, Members.sorted_nil, fun key => ?_⟩
    by_cases hkey : IsField key
    · rw [if_pos hkey]
      rfl
    · obtain ⟨hid, hcontent⟩ := not_or.1 hkey
      rw [if_neg hkey]
      simp [renamedMembers, Members.last?, Members.get?_cons, Ne.symm hid, Ne.symm hcontent]
  refine ⟨((parse_classifies.1 _).spelled _).2 ⟨_, denotes_renamedText, hspelled⟩, fun h => ?_⟩
  cases (parse_classifies.2 (.bool true)).shaped.1 h

end Surface

end SurfaceStudio
