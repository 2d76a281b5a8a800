import SurfaceStudio.Proofs.Surface.RoundTrip

/-!
# Edits of a node as they are written

A node is edited by setting a property and by adding children.  How its optional keys stood in the
input is remembered, and whether a key is written depends on that and on what is under it.  All the
same an edit is written as exactly that edit of the value: under one key, with an object or an array
put there if there was none.

  • `Node.Edit`, `Edit.onNode`, `Edit.onJson` — an edit, of a node and of a written value,
  • `Clean.onNode` — the parts of a node that matter for writing are kept by every edit,
  • `Clean.canonical_toJson_onNode` — **an edited node is written as the written node, edited**,
  • `Clean.canonical_toJson_edited` — edits in order,
  • `Node.edits_shown` — **edits of nodes that were new or decoded, whatever came before**.
-/

namespace SurfaceStudio.Node

open Json

/-! ## §1. Edits. -/

/-- An edit of a node without a defect. -/
inductive Edit where
  /-- Sets a property. -/
  | prop (key : String) (value : Json) (canonical : value.Canonical)
  /-- Adds a child behind those already there. -/
  | child (child : Node)
  /-- Adds any number of children behind those already there. -/
  | children (more : List Node)

namespace Edit

def onNode : Edit → Node → Node
  | .prop key value _, n => n.withProp key value
  | .child c, n => n.withChild c
  | .children more, n => n.withChildren more

/-- The key of the written node under which the edit is seen. -/
def key : Edit → String
  | .prop .. => "props"
  | .child _ | .children _ => "children"

/-- The members under a key; there are none if the key is not there, or null is. -/
def fieldsAt : Option Json → Members
  | some (.object fields) => fields
  | _ => []

/-- The elements under a key; there are none if the key is not there, or null is. -/
def elementsAt : Option Json → List Json
  | some (.array elements) => elements
  | _ => []

/-- What the edit leaves under its key, given what was there. -/
def onMember : Edit → Option Json → Json
  | .prop key value _, old => .object ((fieldsAt old).insert key value)
  | .child c, old => .array (elementsAt old ++ [c.toJson.canonical])
  | .children more, old => .array (elementsAt old ++ more.map fun c => c.toJson.canonical)

/-- **The edit of a written node.** -/
def onJson (e : Edit) : Json → Json
  | .object members =>
    .object (Members.insert e.key (e.onMember (Members.get? e.key members)) members)
  | v => v

end Edit

/-- The node after edits in order. -/
def edited (n : Node) (edits : List Edit) : Node := edits.foldl (fun n e => e.onNode n) n

/-! ## §2. What edits keep. -/

theorem Clean.withProp {n : Node} (h : n.Clean) (key : String) {v : Json} (hv : v.Canonical) :
    (n.withProp key v).Clean where
  props := by
    obtain ⟨hs, hc⟩ := canonical_object_iff.1 h.props
    refine canonical_object_iff.2 ⟨Members.sorted_insert key v hs, fun m hm => ?_⟩
    rcases Members.mem_insert hm with rfl | hm
    · exact hv
    · exact hc m hm
  extra := h.extra
  extra_type := h.extra_type
  extra_props := h.extra_props
  extra_children := h.extra_children
  defect := h.defect

theorem Clean.withChildren {n : Node} (h : n.Clean) (more : List Node) :
    (n.withChildren more).Clean := ⟨h.props, h.extra, h.extra_type, h.extra_props,
  h.extra_children, h.defect⟩

theorem Clean.onNode {n : Node} (h : n.Clean) (e : Edit) : (e.onNode n).Clean := by
  cases e with
  | prop key value hv => exact h.withProp key hv
  | child c => exact h.withChildren [c]
  | children more => exact h.withChildren more

/-! ## §3. One edit. -/

/-- The members of a written node. -/
def wire (n : Node) : Members := collect (canonicalMembers n.writtenMembers)

theorem canonical_toJson {n : Node} (h : n.Clean) : n.toJson.canonical = .object n.wire := by
  rw [toJson_of_clean h, canonical, wire]

/-- Properties are written where there are any. -/
theorem fieldsAt_optionalValue? (form : KeyForm) (props : Members) :
    Edit.fieldsAt (optionalValue? form props.isEmpty (.object props)) = props := by
  cases props with
  | nil => cases form <;> rfl
  | cons m rest => cases form <;> rfl

/-- Children are written where there are any. -/
theorem elementsAt_optionalValue? (form : KeyForm) (children : List Node) (f : Node → Json) :
    Edit.elementsAt (optionalValue? form children.isEmpty (.array (children.map f)))
      = children.map f := by
  cases children with
  | nil => cases form <;> rfl
  | cons c rest => cases form <;> rfl

theorem isEmpty_insert (key : String) (v : Json) (members : Members) :
    (members.insert key v).isEmpty = false := by
  cases members with
  | nil => rfl
  | cons m rest =>
    obtain ⟨k, w⟩ := m
    rw [Members.insert]
    split
    · rfl
    · split <;> rfl

/-- **A property that is set** is written among the properties, however they were written before. -/
theorem get?_wire_withProp {n : Node} (h : n.Clean) (key : String) {v : Json} (hv : v.Canonical)
    (k : String) : (n.withProp key v).wire.get? k
      = if "props" = k then some (.object ((Edit.fieldsAt (n.wire.get? "props")).insert key v))
        else n.wire.get? k := by
  have hold : n.wire.get? "props" = optionalValue? n.propsForm n.props.isEmpty (.object n.props) :=
    get?_canonical_writtenMembers h "props"
  have hnew : optionalValue? n.propsForm (n.props.insert key v).isEmpty
      (.object (n.props.insert key v)) = some (.object (n.props.insert key v)) := by
    rw [isEmpty_insert]
    cases n.propsForm <;> rfl
  rw [hold, fieldsAt_optionalValue?, wire, wire, get?_canonical_writtenMembers (h.withProp key hv),
    get?_canonical_writtenMembers h]
  by_cases hprops : "props" = k
  · subst hprops
    exact hnew
  · rw [if_neg hprops, if_neg hprops, if_neg hprops]
    rfl

/-- **Children that are added** are written behind those that were written before. -/
theorem get?_wire_withChildren {n : Node} (h : n.Clean) (more : List Node) (k : String) :
    (n.withChildren more).wire.get? k
      = if "children" = k then some (.array (Edit.elementsAt (n.wire.get? "children")
          ++ more.map fun c => c.toJson.canonical))
        else n.wire.get? k := by
  have hold : n.wire.get? "children" = optionalValue? n.childrenForm n.children.isEmpty
      (.array (n.children.map fun c => c.toJson.canonical)) :=
    get?_canonical_writtenMembers h "children"
  rw [hold, elementsAt_optionalValue?, ← List.map_append, wire, wire,
    get?_canonical_writtenMembers (h.withChildren more), get?_canonical_writtenMembers h]
  by_cases hchildren : "children" = k
  · subst hchildren
    rfl
  · rw [if_neg hchildren, if_neg hchildren, if_neg hchildren]
    rfl

theorem get?_wire_onNode {n : Node} (h : n.Clean) (e : Edit) (k : String) :
    (e.onNode n).wire.get? k
      = if e.key = k then some (e.onMember (n.wire.get? e.key)) else n.wire.get? k := by
  cases e with
  | prop key value hv => exact get?_wire_withProp h key hv k
  | child c => exact get?_wire_withChildren h [c] k
  | children more => exact get?_wire_withChildren h more k

/-- **An edited node is written as the written node, edited.** -/
theorem Clean.canonical_toJson_onNode {n : Node} (h : n.Clean) (e : Edit) :
    (e.onNode n).toJson.canonical = e.onJson n.toJson.canonical := by
  rw [canonical_toJson h, canonical_toJson (h.onNode e)]
  refine congrArg Json.object ?_
  -- Both lists are sorted, so that every key is looked up in both.
  have hs : Members.Sorted n.wire := Members.sorted_collect _
  refine Members.eq_of_get?_eq (Members.sorted_collect _) (Members.sorted_insert _ _ hs) fun k => ?_
  rw [Members.get?_insert]
  exact get?_wire_onNode h e k

/-! ## §4. Edits in order. -/

theorem Clean.edited {n : Node} (h : n.Clean) (edits : List Edit) : (n.edited edits).Clean := by
  induction edits generalizing n with
  | nil => exact h
  | cons e es ih => exact ih (h.onNode e)

/-- **Edits in order are written as the written node, edited in the same order.** -/
theorem Clean.canonical_toJson_edited {n : Node} (h : n.Clean) (edits : List Edit) :
    (n.edited edits).toJson.canonical
      = edits.foldl (fun v e => e.onJson v) n.toJson.canonical := by
  induction edits generalizing n with
  | nil => rfl
  | cons e es ih =>
    have hrest : ((e.onNode n).edited es).toJson.canonical = _ := ih (h.onNode e)
    rw [List.foldl_cons, ← h.canonical_toJson_onNode e]
    exact hrest

/-- A node before any edit: a new one, or one that is decoded and has no defect. -/
inductive Unedited : Node → Prop
  | new (tag : String) : Unedited (.new tag)
  | decoded {v : Json} (hv : v.Canonical) (h : (ofJson v).defect = none) : Unedited (ofJson v)

theorem Unedited.clean {n : Node} (h : n.Unedited) : n.Clean := by
  cases h with
  | new tag => exact (tidy_new tag).clean
  | @decoded v hv hdefect =>
    cases v with
    | object members =>
      cases hshape : shapeFault? members with
      | none => exact (tidy_ofJson hv hshape).clean
      | some fault =>
        rw [defect_ofJson hshape] at hdefect
        cases hdefect
    | _ => cases hdefect

/-! ## §5. What is seen of an edit. -/

/-- **An edit is seen in the written node as exactly that edit.** -/
structure Shows (n : Node) (e : Edit) : Prop where
  /-- The edited node is written as the written node, edited. -/
  written : (e.onNode n).toJson.canonical = e.onJson n.toJson.canonical
  /-- Under the key of the edit stands what the edit makes of what stood there. -/
  edited : (e.onNode n).toJson.canonical.member? e.key
    = some (e.onMember (n.toJson.canonical.member? e.key))
  /-- Under every other key stands what stood there. -/
  others : ∀ key, key ≠ e.key →
    (e.onNode n).toJson.canonical.member? key = n.toJson.canonical.member? key
  /-- Properties stood there, or null, or nothing. -/
  props : ∀ v, n.toJson.canonical.member? "props" = some v →
    v = .null ∨ v = .object (Edit.fieldsAt (some v))
  /-- Children stood there, or null, or nothing. -/
  children : ∀ v, n.toJson.canonical.member? "children" = some v →
    v = .null ∨ v = .array (Edit.elementsAt (some v))

/-- Under an optional key stands what is to be written there, or null. -/
theorem null_or_eq_of_optionalValue? {form : KeyForm} {isEmpty : Bool} {v w : Json}
    (h : optionalValue? form isEmpty w = some v) : v = .null ∨ v = w := by
  unfold optionalValue? at h
  split at h
  · cases h
  · injection h with h
    exact .inl h.symm
  · injection h with h
    exact .inr h.symm

theorem Clean.shows {n : Node} (h : n.Clean) (e : Edit) : n.Shows e where
  written := h.canonical_toJson_onNode e
  edited := by
    rw [canonical_toJson h, canonical_toJson (h.onNode e)]
    exact (get?_wire_onNode h e e.key).trans (if_pos rfl)
  others := by
    intro key hkey
    rw [canonical_toJson h, canonical_toJson (h.onNode e)]
    exact (get?_wire_onNode h e key).trans (if_neg (Ne.symm hkey))
  props := by
    intro v hv
    rw [canonical_toJson h] at hv
    have hprops : optionalValue? n.propsForm n.props.isEmpty (.object n.props) = some v :=
      (get?_canonical_writtenMembers h "props").symm.trans hv
    obtain hnull | rfl := null_or_eq_of_optionalValue? hprops
    · exact .inl hnull
    · exact .inr rfl
  children := by
    intro v hv
    rw [canonical_toJson h] at hv
    have hchildren : optionalValue? n.childrenForm n.children.isEmpty
        (.array (n.children.map fun c => c.toJson.canonical)) = some v :=
      (get?_canonical_writtenMembers h "children").symm.trans hv
    obtain hnull | rfl := null_or_eq_of_optionalValue? hchildren
    · exact .inl hnull
    · exact .inr rfl

/-- **Edits are seen in what is written as exactly those edits**: of a node that was new or decoded,
after any edits before, and all of them in their order. -/
theorem edits_shown {n : Node} (h : n.Unedited) (edits : List Edit) :
    (∀ e, (n.edited edits).Shows e)
      ∧ (n.edited edits).toJson.canonical
        = edits.foldl (fun v e => e.onJson v) n.toJson.canonical :=
  ⟨fun e => (h.clean.edited edits).shows e, h.clean.canonical_toJson_edited edits⟩

/-- A card without `children`, and with null for its `props`. -/
def bareCard : Json := .object [("props", .null), ("type", .string "Card")]

/-- The card is given no children at all, then a title, and then a child that is not a node. -/
def bareCardEdits : List Edit :=
  [.children [], .prop "title" (.string "t") trivial, .child (ofJson .null)]

theorem edits_shown_bareCard : bareCard.Canonical ∧ (ofJson bareCard).defect = none
    ∧ ((ofJson bareCard).edited bareCardEdits).toJson.canonical
      = .object [("children", .array [.null]), ("props", .object [("title", .string "t")]),
        ("type", .string "Card")] := by
  have hcanonical : bareCard.Canonical := canonical_canonical bareCard
  exact ⟨hcanonical, rfl, (edits_shown (.decoded hcanonical rfl) bareCardEdits).2⟩

end SurfaceStudio.Node
