import SurfaceStudio.Proofs.Json.RoundTrip
import SurfaceStudio.Surface.Node

/-!
# Nodes and the values they are written as

A node remembers how its optional keys stood in the input.  The memory is consistent in every node
that is decoded, and that is what brings the same node back from the value it is written as.

  • `Node.induction` — a property of all nodes, from nodes whose children have it,
  • `Node.Sound` — what holds of the parts of a node that is decoded or built,
  • `Node.sound_ofJson` — decoded nodes are sound,
  • `Node.ofJson_toJson` — **a sound node is decoded from what it is written as**,
  • `Node.bounded_toJson_ofJson` — a decoded node is written no deeper than what it was decoded
    from, with no other numbers.
-/

namespace SurfaceStudio.Node

/-! ## §1. Nodes and lists of nodes. -/

/-- Induction over nodes: what holds of the children may be used for the node. -/
@[elab_as_elim]
theorem induction {P : Node → Prop} (node : ∀ n : Node, (∀ c ∈ n.children, P c) → P n)
    (n : Node) : P n := by
  -- The recursor has a companion for lists, which says the same of their elements.
  refine @Node.rec P (fun ns => ∀ n ∈ ns, P n) ?_ ?_ ?_ n
  · intro tag props children extra propsForm childrenForm defect h
    exact node _ h
  · exact fun n hn => nomatch hn
  · intro n ns hn hns n' hn'
    rcases List.mem_cons.1 hn' with rfl | hn'
    · exact hn
    · exact hns n' hn'

theorem listToJson_eq_map (ns : List Node) : listToJson ns = ns.map toJson := by
  induction ns with
  | nil => rfl
  | cons n ns ih => rw [listToJson, ih, List.map_cons]

theorem ofItems_eq_map (vs : List Json) : ofItems vs = vs.map ofJson := by
  induction vs with
  | nil => rfl
  | cons v vs ih => rw [ofItems, ih, List.map_cons]

/-- The children are those of the value under the key. -/
theorem childrenOf_eq (members : Members) :
    childrenOf members = ((members.get? "children").map itemsOf).getD [] := by
  induction members with
  | nil => rfl
  | cons m rest ih =>
    obtain ⟨k, v⟩ := m
    rw [childrenOf, Members.get?_cons]
    split
    · rfl
    · exact ih

theorem mem_itemsOf {n : Node} {v : Json} (h : n ∈ itemsOf v) :
    ∃ items, v = .array items ∧ ∃ w ∈ items, ofJson w = n := by
  cases v with
  | array items =>
    rw [itemsOf, ofItems_eq_map] at h
    exact ⟨items, rfl, List.mem_map.1 h⟩
  | _ => cases h

theorem mem_childrenOf {n : Node} {members : Members} (h : n ∈ childrenOf members) :
    ∃ v, ("children", v) ∈ members ∧ n ∈ itemsOf v := by
  rw [childrenOf_eq] at h
  cases hv : members.get? "children" with
  | none =>
    rw [hv] at h
    cases h
  | some v =>
    rw [hv] at h
    exact ⟨v, Members.mem_of_get? hv, h⟩

/-! ## §2. Optional members. -/

/-- What is written under an optional key, if anything. -/
def optionalValue? (form : KeyForm) (isEmpty : Bool) (value : Json) : Option Json :=
  match form, isEmpty with
  | .omitted, true => none
  | .null, true => some .null
  | _, _ => some value

theorem optionalMember_eq (key : String) (form : KeyForm) (isEmpty : Bool) (value : Json) :
    optionalMember key form isEmpty value
      = ((optionalValue? form isEmpty value).map (key, ·)).toList := by
  cases form <;> cases isEmpty <;> rfl

theorem get?_optionalMember (k key : String) (form : KeyForm) (isEmpty : Bool) (value : Json) :
    Members.get? k (optionalMember key form isEmpty value)
      = if key = k then optionalValue? form isEmpty value else none := by
  rw [optionalMember_eq]
  cases optionalValue? form isEmpty value with
  | none => simp
  | some v => rfl

theorem keys_optionalMember (key : String) (form : KeyForm) (isEmpty : Bool) (value : Json) :
    (Members.keys (optionalMember key form isEmpty value)).Sublist [key] := by
  cases form <;> cases isEmpty <;> simp [optionalMember, Members.keys]

theorem canonical_optionalValue? (form : KeyForm) (isEmpty : Bool) (value : Json) :
    (optionalValue? form isEmpty value).map Json.canonical
      = optionalValue? form isEmpty value.canonical := by
  cases form <;> cases isEmpty <;> rfl

/-- A form other than `present` is remembered only while there is nothing to write. -/
theorem formOf_optionalValue? {form : KeyForm} {isEmpty : Bool} {value : Json}
    (h : form ≠ .present → isEmpty = true) (hv : value ≠ .null) :
    formOf (optionalValue? form isEmpty value) = form := by
  cases form with
  | omitted =>
    rw [h (by decide)]
    rfl
  | null =>
    rw [h (by decide)]
    rfl
  | present =>
    cases value with
    | null => exact absurd rfl hv
    | _ => rfl

/-! ## §3. Sound nodes. -/

/-- The parts of a node without a defect as they are written: they are canonical, and the known keys
are not among the others. -/
structure Clean (n : Node) : Prop where
  props : (Json.object n.props).Canonical
  extra : (Json.object n.extra).Canonical
  extra_type : n.extra.get? "type" = none
  extra_props : n.extra.get? "props" = none
  extra_children : n.extra.get? "children" = none
  defect : n.defect = none

/-- The parts of a node without a defect: they are canonical, the known keys are not among the
others, and a form other than `present` means that there is nothing under the key. -/
structure Tidy (n : Node) : Prop where
  props : (Json.object n.props).Canonical
  extra : (Json.object n.extra).Canonical
  extra_type : n.extra.get? "type" = none
  extra_props : n.extra.get? "props" = none
  extra_children : n.extra.get? "children" = none
  propsForm : n.propsForm ≠ .present → n.props = []
  childrenForm : n.childrenForm ≠ .present → n.children = []
  defect : n.defect = none

theorem Tidy.clean {n : Node} (h : n.Tidy) : n.Clean where
  props := h.props
  extra := h.extra
  extra_type := h.extra_type
  extra_props := h.extra_props
  extra_children := h.extra_children
  defect := h.defect

/-- **What holds of a node however it has come about**: it is tidy and so are its children, or it
keeps the canonical value that could not become a proper node. -/
inductive Sound : Node → Prop
  | tidy {n : Node} (h : n.Tidy) (children : ∀ c ∈ n.children, Sound c) : Sound n
  | defective {v : Json} (hv : v.Canonical) {fault : ShapeFault}
      (h : (ofJson v).defect = some ⟨fault, v⟩) : Sound (ofJson v)

theorem shapeFault?_eq_none_iff {members : Members} : shapeFault? members = none
    ↔ isTag (members.get? "type") = true ∧ mayBeProps (members.get? "props") = true
      ∧ mayBeChildren (members.get? "children") = true := by
  unfold shapeFault?
  cases isTag (members.get? "type") <;> cases mayBeProps (members.get? "props") <;>
    cases mayBeChildren (members.get? "children") <;> simp

theorem canonical_propsOf {members : Members} (h : (Json.object members).Canonical) :
    (Json.object (propsOf members)).Canonical := by
  rw [propsOf]
  split
  next props hp =>
    exact (Json.canonical_object_iff.1 h).2 _ (Members.mem_of_get? hp)
  next => exact Json.canonical_object_iff.2 ⟨Members.sorted_nil, fun _ hm => nomatch hm⟩

/-- The members besides the tag, the properties and the children. -/
def othersOf (members : Members) : Members := members.eraseAll ["type", "props", "children"]

theorem sorted_othersOf {members : Members} (h : members.Sorted) : (othersOf members).Sorted :=
  Members.sorted_eraseAll _ h

theorem get?_othersOf (key : String) {members : Members} (h : members.Sorted) :
    (othersOf members).get? key
      = if key ∈ ["type", "props", "children"] then none else members.get? key :=
  Members.get?_eraseAll key _ h

theorem canonical_othersOf {members : Members} (h : (Json.object members).Canonical) :
    (Json.object (othersOf members)).Canonical := by
  obtain ⟨hs, hc⟩ := Json.canonical_object_iff.1 h
  refine Json.canonical_object_iff.2 ⟨sorted_othersOf hs, fun m hm => ?_⟩
  exact hc m ((Members.eraseAll_sublist _ members).subset hm)

theorem propsOf_of_formOf {members : Members} (h : formOf (members.get? "props") ≠ .present) :
    propsOf members = [] := by
  rw [propsOf]
  split
  next props hp =>
    rw [hp] at h
    exact absurd rfl h
  next => rfl

theorem childrenOf_of_formOf {members : Members}
    (h : formOf (members.get? "children") ≠ .present) : childrenOf members = [] := by
  rw [childrenOf_eq]
  cases hv : members.get? "children" with
  | none => rfl
  | some v =>
    rw [hv] at h
    cases v with
    | null => rfl
    | _ => exact absurd rfl h

/-- The parts of a decoded node are tidy. -/
theorem tidy_ofJson {members : Members} (h : (Json.object members).Canonical)
    (hshape : shapeFault? members = none) : (ofJson (.object members)).Tidy := by
  obtain ⟨hs, -⟩ := Json.canonical_object_iff.1 h
  rw [ofJson, ofMembers, hshape]
  exact {
    props := canonical_propsOf h
    extra := canonical_othersOf h
    extra_type := (get?_othersOf "type" hs).trans (if_pos (by decide))
    extra_props := (get?_othersOf "props" hs).trans (if_pos (by decide))
    extra_children := (get?_othersOf "children" hs).trans (if_pos (by decide))
    propsForm := propsOf_of_formOf
    childrenForm := childrenOf_of_formOf
    defect := rfl }

theorem defect_ofJson {members : Members} {fault : ShapeFault}
    (h : shapeFault? members = some fault) :
    (ofJson (.object members)).defect = some ⟨fault, .object members⟩ := by
  rw [ofJson, ofMembers, h]
  rfl

theorem children_ofJson {members : Members} (h : shapeFault? members = none) :
    (ofJson (.object members)).children = childrenOf members := by
  rw [ofJson, ofMembers, h]

/-- **Decoded nodes are sound**, and so are those decoded from the elements of an array. -/
theorem sound_ofJson_and_items {v : Json} (h : v.Canonical) :
    (ofJson v).Sound ∧ ∀ n ∈ itemsOf v, n.Sound := by
  -- The children are the elements of an array, one step further down than the statement.
  induction v using Json.induction with
  | null => exact ⟨.defective h rfl, fun _ hn => nomatch hn⟩
  | bool b => exact ⟨.defective h rfl, fun _ hn => nomatch hn⟩
  | number n => exact ⟨.defective h rfl, fun _ hn => nomatch hn⟩
  | string s => exact ⟨.defective h rfl, fun _ hn => nomatch hn⟩
  | array items ih =>
    refine ⟨.defective h rfl, fun n hn => ?_⟩
    obtain ⟨_, ⟨⟩, w, hw, rfl⟩ := mem_itemsOf hn
    exact (ih w hw (Json.canonical_array_iff.1 h w hw)).1
  | object members ih =>
    refine ⟨?_, fun _ hn => nomatch hn⟩
    cases hshape : shapeFault? members with
    | some fault => exact .defective h (defect_ofJson hshape)
    | none =>
      refine .tidy (tidy_ofJson h hshape) fun c hc => ?_
      rw [children_ofJson hshape] at hc
      obtain ⟨v, hv, hc⟩ := mem_childrenOf hc
      exact (ih _ hv ((Json.canonical_object_iff.1 h).2 _ hv)).2 c hc

theorem sound_ofJson {v : Json} (h : v.Canonical) : (ofJson v).Sound := (sound_ofJson_and_items h).1

/-! ## §4. Written nodes. -/

/-- The members that a node without a defect is written with. -/
def writtenMembers (n : Node) : Members :=
  ("type", .string n.tag)
    :: (optionalMember "props" n.propsForm n.props.isEmpty (.object n.props)
      ++ optionalMember "children" n.childrenForm n.children.isEmpty
        (.array (n.children.map toJson))
      ++ n.extra)

theorem toJson_of_clean {n : Node} (h : n.Clean) : n.toJson = .object n.writtenMembers := by
  obtain ⟨tag, props, children, extra, propsForm, childrenForm, defect⟩ := n
  obtain rfl : defect = none := h.defect
  rw [toJson, listToJson_eq_map]
  rfl

theorem toJson_of_defect {n : Node} {fault : ShapeFault} {v : Json}
    (h : n.defect = some ⟨fault, v⟩) : n.toJson = v := by
  obtain ⟨tag, props, children, extra, propsForm, childrenForm, defect⟩ := n
  subst h
  rw [toJson]

theorem get?_writtenMembers {n : Node} (h : n.Clean) (key : String) :
    n.writtenMembers.get? key
      = if "type" = key then some (.string n.tag)
        else if "props" = key then
          optionalValue? n.propsForm n.props.isEmpty (.object n.props)
        else if "children" = key then
          optionalValue? n.childrenForm n.children.isEmpty (.array (n.children.map toJson))
        else n.extra.get? key := by
  rw [writtenMembers, Members.get?_cons, Members.get?_append, Members.get?_append,
    get?_optionalMember, get?_optionalMember]
  -- The keys are tried in the order in which they are written.
  by_cases htype : "type" = key
  · rw [if_pos htype, if_pos htype]
  · rw [if_neg htype, if_neg htype]
    by_cases hprops : "props" = key
    · subst hprops
      rw [if_pos rfl, if_pos rfl, if_neg (by decide), Option.or_none, h.extra_props,
        Option.or_none]
    · rw [if_neg hprops, if_neg hprops, Option.none_or]
      by_cases hchildren : "children" = key
      · subst hchildren
        rw [if_pos rfl, if_pos rfl, h.extra_children, Option.or_none]
      · rw [if_neg hchildren, if_neg hchildren, Option.none_or]

/-- No key is written twice. -/
theorem nodup_keys_writtenMembers {n : Node} (h : n.Clean) : n.writtenMembers.keys.Nodup := by
  -- An optional member brings its own key or none.
  have hsub : n.writtenMembers.keys.Sublist
      ("type" :: (["props"] ++ ["children"] ++ Members.keys n.extra)) := by
    rw [writtenMembers, Members.keys, List.map_cons, List.map_append, List.map_append]
    refine List.Sublist.cons_cons _ (List.Sublist.append ?_ (List.Sublist.refl _))
    exact List.Sublist.append (keys_optionalMember _ _ _ _) (keys_optionalMember _ _ _ _)
  refine List.Nodup.sublist hsub ?_
  have htype := Members.get?_eq_none_iff.1 h.extra_type
  have hprops := Members.get?_eq_none_iff.1 h.extra_props
  have hchildren := Members.get?_eq_none_iff.1 h.extra_children
  have hextra := Members.nodup_keys_of_sorted (Json.canonical_object_iff.1 h.extra).1
  simp [htype, hprops, hchildren, hextra]

/-- What is found in the canonical form of a written node. -/
theorem get?_canonical_writtenMembers {n : Node} (h : n.Clean) (key : String) :
    Members.get? key (Json.collect (Json.canonicalMembers n.writtenMembers))
      = if "type" = key then some (.string n.tag)
        else if "props" = key then
          optionalValue? n.propsForm n.props.isEmpty (.object n.props)
        else if "children" = key then
          optionalValue? n.childrenForm n.children.isEmpty
            (.array (n.children.map fun c => c.toJson.canonical))
        else n.extra.get? key := by
  -- Nothing is overwritten while collecting, and the parts are canonical already.
  rw [Json.get?_collect_canonicalMembers key (nodup_keys_writtenMembers h), get?_writtenMembers h]
  split
  · rfl
  · split
    · rw [canonical_optionalValue?, Json.canonical_eq_self h.props]
    · split
      · rw [canonical_optionalValue?, Json.canonical, Json.canonicalItems_eq_map, List.map_map]
        rfl
      · exact Json.map_canonical_get? key h.extra

/-! ## §5. Decoding what was written. -/

theorem mayBeProps_optionalValue? (form : KeyForm) (isEmpty : Bool) (props : Members) :
    mayBeProps (optionalValue? form isEmpty (.object props)) = true := by
  cases form <;> cases isEmpty <;> rfl

theorem mayBeChildren_optionalValue? (form : KeyForm) (isEmpty : Bool) (items : List Json) :
    mayBeChildren (optionalValue? form isEmpty (.array items)) = true := by
  cases form <;> cases isEmpty <;> rfl

theorem propsOf_of_optionalValue? {members props : Members} {form : KeyForm}
    (h : members.get? "props" = optionalValue? form props.isEmpty (.object props)) :
    propsOf members = props := by
  rw [propsOf, h]
  cases props with
  | nil => cases form <;> rfl
  | cons m rest => cases form <;> rfl

theorem childrenOf_of_optionalValue? {members : Members} {children : List Node} {form : KeyForm}
    {items : List Json} (hitems : items.map ofJson = children)
    (h : members.get? "children" = optionalValue? form children.isEmpty (.array items)) :
    childrenOf members = children := by
  rw [childrenOf_eq, h]
  have hitemsOf : itemsOf (.array items) = children := by
    rw [itemsOf, ofItems_eq_map, hitems]
  -- Without children the form decides what is written, and all forms mean no children.
  cases children with
  | nil => cases form <;> first | rfl | exact hitemsOf
  | cons c rest => cases form <;> exact hitemsOf

/-- The other members are what is left of the members in which a tidy node is found. -/
theorem extra_of_get? {n : Node} (h : n.Tidy) {members : Members} (hs : members.Sorted)
    (hget : ∀ key, "type" ≠ key → "props" ≠ key → "children" ≠ key →
      members.get? key = n.extra.get? key) : othersOf members = n.extra := by
  -- Both lists are sorted, so that every key is looked up in both.
  refine Members.eq_of_get?_eq (sorted_othersOf hs) (Json.canonical_object_iff.1 h.extra).1
    fun key => ?_
  rw [get?_othersOf key hs]
  split
  next hkey =>
    rcases List.mem_cons.1 hkey with rfl | hkey
    · rw [h.extra_type]
    · rcases List.mem_cons.1 hkey with rfl | hkey
      · rw [h.extra_props]
      · rw [List.mem_singleton.1 hkey, h.extra_children]
  next hkey =>
    simp only [List.mem_cons, List.not_mem_nil, or_false, not_or] at hkey
    obtain ⟨htype, hprops, hchildren⟩ := hkey
    exact hget key (Ne.symm htype) (Ne.symm hprops) (Ne.symm hchildren)

/-- **A tidy node is decoded from what it is written as**, if its children are. -/
theorem ofJson_toJson_of_tidy {n : Node} (h : n.Tidy)
    (hchildren : ∀ c ∈ n.children, ofJson c.toJson.canonical = c) :
    ofJson n.toJson.canonical = n := by
  have hget := get?_canonical_writtenMembers h.clean
  have hs : Members.Sorted (Json.collect (Json.canonicalMembers n.writtenMembers)) :=
    Members.sorted_collect _
  rw [toJson_of_clean h.clean, Json.canonical]
  -- From here on only what is found in the members matters.
  generalize Json.collect (Json.canonicalMembers n.writtenMembers) = members at hget hs
  have htype : members.get? "type" = some (.string n.tag) := hget "type"
  have hprops : members.get? "props"
      = optionalValue? n.propsForm n.props.isEmpty (.object n.props) := hget "props"
  have hitems := hget "children"
  change members.get? "children" = optionalValue? n.childrenForm n.children.isEmpty
    (.array (n.children.map fun c => c.toJson.canonical)) at hitems
  have hmap : (n.children.map fun c => c.toJson.canonical).map ofJson = n.children := by
    rw [List.map_map]
    exact (List.map_congr_left hchildren).trans (List.map_id _)
  have hshape : shapeFault? members = none := by
    rw [shapeFault?_eq_none_iff, htype, hprops, hitems]
    exact ⟨rfl, mayBeProps_optionalValue? _ _ _, mayBeChildren_optionalValue? _ _ _⟩
  have htag : tagOf members = n.tag := by
    rw [tagOf, htype]
    rfl
  have hextra : Members.erase "children" (Members.erase "props" (Members.erase "type" members))
      = n.extra := by
    refine extra_of_get? h hs fun key htype hprops hchildren => ?_
    rw [hget key, if_neg htype, if_neg hprops, if_neg hchildren]
  -- What is written for empty parts tells which form the key had.
  have hpropsForm : formOf (members.get? "props") = n.propsForm := by
    rw [hprops]
    exact formOf_optionalValue? (fun hf => by rw [h.propsForm hf]; rfl) (by simp)
  have hchildrenForm : formOf (members.get? "children") = n.childrenForm := by
    rw [hitems]
    exact formOf_optionalValue? (fun hf => by rw [h.childrenForm hf]; rfl) (by simp)
  rw [ofJson, ofMembers, hshape]
  dsimp only
  rw [htag, propsOf_of_optionalValue? hprops, childrenOf_of_optionalValue? hmap hitems, hextra,
    hpropsForm, hchildrenForm, ← h.defect]
  cases n
  rfl

/-- **A sound node is decoded from what it is written as.** -/
theorem ofJson_toJson {n : Node} (h : n.Sound) : ofJson n.toJson.canonical = n := by
  induction h with
  | tidy h _ ih => exact ofJson_toJson_of_tidy h ih
  | defective hv h => rw [toJson_of_defect h, Json.canonical_eq_self hv]

/-! ## §6. The text of a decoded node. -/

/-- Under a key that was decoded stands what was found there. -/
theorem mem_optionalMember_props {members : Members} {m : String × Json}
    (hprops : mayBeProps (members.get? "props") = true)
    (hm : m ∈ optionalMember "props" (formOf (members.get? "props")) (propsOf members).isEmpty
      (.object (propsOf members))) : m ∈ members := by
  rw [propsOf, optionalMember_eq] at hm
  cases hv : members.get? "props" with
  | none =>
    rw [hv] at hm
    cases hm
  | some v =>
    rw [hv] at hm hprops
    have hmem := Members.mem_of_get? hv
    -- Null and objects are written as they were found; nothing else passes the check.
    cases v with
    | null => exact List.mem_singleton.1 hm ▸ hmem
    | object props => exact List.mem_singleton.1 hm ▸ hmem
    | _ => cases hprops

theorem mem_optionalMember_children {members : Members} {m : String × Json}
    (hchildren : mayBeChildren (members.get? "children") = true)
    (hm : m ∈ optionalMember "children" (formOf (members.get? "children"))
      (childrenOf members).isEmpty (.array ((childrenOf members).map toJson))) :
    m ∈ members ∨ ∃ items, ("children", .array items) ∈ members
      ∧ m.2 = .array (items.map fun v => (ofJson v).toJson) := by
  rw [childrenOf_eq, optionalMember_eq] at hm
  cases hv : members.get? "children" with
  | none =>
    rw [hv] at hm
    cases hm
  | some v =>
    rw [hv] at hm hchildren
    have hmem := Members.mem_of_get? hv
    cases v with
    | null => exact .inl (List.mem_singleton.1 hm ▸ hmem)
    | array items =>
      refine .inr ⟨items, hmem, ?_⟩
      rw [List.mem_singleton.1 hm]
      show Json.array ((ofItems items).map toJson) = _
      rw [ofItems_eq_map, List.map_map]
      rfl
    | _ => cases hchildren

/-- What a decoded node is written with: its tag, what was found in the members it was decoded
from, and its children. -/
theorem mem_writtenMembers {members : Members} (hshape : shapeFault? members = none)
    {m : String × Json} (hm : m ∈ (ofJson (.object members)).writtenMembers) :
    (∃ tag, m.2 = .string tag) ∨ m ∈ members
      ∨ ∃ items, ("children", .array items) ∈ members
        ∧ m.2 = .array (items.map fun v => (ofJson v).toJson) := by
  obtain ⟨-, hprops, hchildren⟩ := shapeFault?_eq_none_iff.1 hshape
  rw [ofJson, ofMembers, hshape] at hm
  rw [writtenMembers, List.mem_cons, List.mem_append, List.mem_append] at hm
  rcases hm with rfl | (hm | hm) | hm
  · exact .inl ⟨_, rfl⟩
  · exact .inr (.inl (mem_optionalMember_props hprops hm))
  · exact .inr (mem_optionalMember_children hchildren hm)
  · refine .inr (.inl ?_)
    have hsub := ((Members.erase_sublist "children" _).trans
      (Members.erase_sublist "props" _)).trans (Members.erase_sublist "type" members)
    exact hsub.subset hm

/-- A value as it is written after it has been decoded as a node; an array, as the list of its
elements decoded as nodes. -/
theorem bounded_toJson_and_items {v : Json} {budget : Nat} {N : Number → Prop} (hc : v.Canonical)
    (h : v.Bounded budget N) : (ofJson v).toJson.Bounded budget N ∧ ∀ items, v = .array items →
      (Json.array (items.map fun w => (ofJson w).toJson)).Bounded budget N := by
  induction v using Json.induction generalizing budget with
  | null => exact ⟨h, fun _ hv => nomatch hv⟩
  | bool b => exact ⟨h, fun _ hv => nomatch hv⟩
  | number n => exact ⟨h, fun _ hv => nomatch hv⟩
  | string s => exact ⟨h, fun _ hv => nomatch hv⟩
  | array items ih =>
    refine ⟨h, ?_⟩
    rintro _ ⟨⟩
    obtain ⟨b, rfl⟩ := h.exists_of_array
    refine Json.bounded_array_iff.2 fun w hw => ?_
    obtain ⟨v, hv, rfl⟩ := List.mem_map.1 hw
    exact (ih v hv (Json.canonical_array_iff.1 hc v hv) (Json.bounded_array_iff.1 h v hv)).1
  | object members ih =>
    refine ⟨?_, fun _ hv => nomatch hv⟩
    cases hshape : shapeFault? members with
    | some fault =>
      rw [toJson_of_defect (defect_ofJson hshape)]
      exact h
    | none =>
      obtain ⟨b, rfl⟩ := h.exists_of_object
      have hmembers := Json.bounded_object_iff.1 h
      rw [toJson_of_clean (tidy_ofJson hc hshape).clean]
      refine Json.bounded_object_iff.2 fun m hm => ?_
      -- A tag holds no bracket, other members are as they were, and children by induction.
      rcases mem_writtenMembers hshape hm with ⟨tag, htag⟩ | hm | ⟨items, hitems, hm⟩
      · exact htag ▸ Json.bounded_string tag
      · exact hmembers m hm
      · rw [hm]
        exact (ih _ hitems ((Json.canonical_object_iff.1 hc).2 _ hitems)
          (hmembers _ hitems)).2 items rfl

/-- **A decoded node is written no deeper than what it was decoded from**, with no other
numbers. -/
theorem bounded_toJson_ofJson {v : Json} {budget : Nat} {N : Number → Prop} (hc : v.Canonical)
    (h : v.Bounded budget N) : (ofJson v).toJson.Bounded budget N :=
  (bounded_toJson_and_items hc h).1

end SurfaceStudio.Node
