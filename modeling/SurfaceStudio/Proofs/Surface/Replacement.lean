import SurfaceStudio.Proofs.Render.Diagnostics
import SurfaceStudio.Proofs.Surface.Documents

/-!
# Replacing one node of a document

A value is put into a document in the place of one of its nodes.  Decoding the new document gives
the old surface with the new node in that place: nothing else of what is decoded depends on it.

  • `Json.replaceNode` — a document with another value in the place of a node,
  • `Node.replaceBelow`, `Surface.replaceNode` — the same of what is decoded,
  • `Node.ofJson_replaceBelow`, `Surface.ofJson_replaceNode` — **decoding and replacing commute**,
  • `Surface.nodeAt?_replaceNode_elsewhere` — nodes beside the path stay as they are,
  • `Surface.bare_nodeAt?_replaceNode` — of those above it only the children change.
-/

namespace SurfaceStudio

/-! ## §1. Replacing in values. -/

namespace Members

/-- Changes the value under a key, if there is one. -/
def modify (key : String) (f : Json → Json) : Members → Members
  | [] => []
  | (k, v) :: rest => if k = key then (k, f v) :: rest else (k, v) :: modify key f rest

theorem get?_modify (k key : String) (f : Json → Json) (members : Members) :
    get? k (modify key f members)
      = if key = k then (get? k members).map f else get? k members := by
  induction members with
  | nil => simp [modify]
  | cons m rest ih =>
    obtain ⟨l, w⟩ := m
    rw [modify]
    by_cases hl : l = key
    · subst hl
      rw [if_pos rfl, get?_cons, get?_cons]
      by_cases hk : l = k
      · simp [hk]
      · simp [hk]
    · rw [if_neg hl, get?_cons, get?_cons, ih]
      -- The changed key is not the one that stands here.
      by_cases hk : l = k
      · rw [if_pos hk, if_pos hk, if_neg fun h => hl (hk.trans h.symm)]
      · rw [if_neg hk, if_neg hk]

/-- A value that is changed is left out like the one before. -/
theorem erase_modify_self (key : String) (f : Json → Json) (members : Members) :
    erase key (modify key f members) = erase key members := by
  induction members with
  | nil => rfl
  | cons m rest ih =>
    obtain ⟨l, w⟩ := m
    rw [modify, erase]
    by_cases hl : l = key
    · rw [if_pos hl, if_pos hl, erase, if_pos hl]
    · rw [if_neg hl, if_neg hl, erase, if_neg hl, ih]

theorem erase_modify {k key : String} (h : k ≠ key) (f : Json → Json) (members : Members) :
    erase k (modify key f members) = modify key f (erase k members) := by
  induction members with
  | nil => rfl
  | cons m rest ih =>
    obtain ⟨l, w⟩ := m
    rw [modify, erase]
    by_cases hl : l = key
    · have hk : l ≠ k := fun hk => h (hk.symm.trans hl)
      rw [if_pos hl, if_neg hk, erase, if_neg hk, modify, if_pos hl]
    · rw [if_neg hl, erase, ih]
      by_cases hk : l = k
      · rw [if_pos hk, if_pos hk]
      · rw [if_neg hk, if_neg hk, modify, if_neg hl]

end Members

namespace Json

/-- Changes an element of an array; any other value stays as it is. -/
def modifyItem (i : Nat) (f : Json → Json) : Json → Json
  | .array items => .array (items.modify i f)
  | v => v

/-- Changes an element of the array under a key of an object. -/
def modifyUnder (v : Json) (key : String) (i : Nat) (f : Json → Json) : Json :=
  match v with
  | .object members => .object (Members.modify key (modifyItem i f) members)
  | v => v

/-- Puts a value in the place of the node that child indices lead to. -/
def replaceBelow (v : Json) : NodePath → Json → Json
  | [], new => new
  | i :: rest, new => v.modifyUnder "children" i fun child => child.replaceBelow rest new

/-- **Puts a value into a document in the place of the node at a path**: of an element of
`content`, or of an element of a `children` array further down. -/
def replaceNode (document : Json) : NodePath → Json → Json
  | [], _ => document
  | i :: rest, new => document.modifyUnder "content" i fun v => v.replaceBelow rest new

end Json

/-! ## §2. Replacing in what is decoded. -/

/-- Elements are changed before or after a map, as far as the one at the index is concerned. -/
theorem map_modify {α β : Type} {f : α → β} {g : α → α} {h : β → β} {as : List α} {i : Nat}
    (hcomm : ∀ a, as[i]? = some a → f (g a) = h (f a)) :
    (as.modify i g).map f = (as.map f).modify i h := by
  refine List.ext_getElem? fun j => ?_
  simp only [List.getElem?_map, List.getElem?_modify]
  by_cases hij : i = j
  · subst hij
    cases ha : as[i]? with
    | none => simp
    | some a => simp [hcomm a ha]
  · simp [hij]

namespace Node

/-- Puts a node in the place of the one that child indices lead to. -/
def replaceBelow (n : Node) : NodePath → Node → Node
  | [], new => new
  | i :: rest, new =>
    { n with children := n.children.modify i fun child => child.replaceBelow rest new }

theorem mayBeChildren_map_modifyItem (v? : Option Json) (i : Nat) (f : Json → Json) :
    mayBeChildren (v?.map (Json.modifyItem i f)) = mayBeChildren v? := by
  cases v? with
  | none => rfl
  | some v => cases v <;> rfl

theorem formOf_map_modifyItem (v? : Option Json) (i : Nat) (f : Json → Json) :
    formOf (v?.map (Json.modifyItem i f)) = formOf v? := by
  cases v? with
  | none => rfl
  | some v => cases v <;> rfl

/-- **A change below `children` changes the children of a decoded node**, and nothing else. -/
theorem ofMembers_modify {members : Members} {i : Nat} {f : Json → Json}
    (hshape : shapeFault? members = none) (children children' : List Node) :
    ofMembers (Members.modify "children" (Json.modifyItem i f) members) children'
      = { ofMembers members children with children := children' } := by
  have hother : ∀ key, key ≠ "children" →
      Members.get? key (Members.modify "children" (Json.modifyItem i f) members)
        = Members.get? key members := by
    intro key hkey
    rw [Members.get?_modify, if_neg hkey.symm]
  have hchildren : Members.get? "children"
      (Members.modify "children" (Json.modifyItem i f) members)
        = (Members.get? "children" members).map (Json.modifyItem i f) := by
    rw [Members.get?_modify, if_pos rfl]
  have htype := hother "type" (by decide)
  have hprops := hother "props" (by decide)
  have hshape' : shapeFault? (Members.modify "children" (Json.modifyItem i f) members)
      = none := by
    obtain ⟨ht, hp, hc⟩ := shapeFault?_eq_none_iff.1 hshape
    rw [shapeFault?_eq_none_iff, htype, hprops, hchildren, mayBeChildren_map_modifyItem]
    exact ⟨ht, hp, hc⟩
  rw [ofMembers, hshape', ofMembers, hshape]
  dsimp only
  rw [tagOf, htype, propsOf, hprops, hchildren, formOf_map_modifyItem,
    Members.erase_modify (by decide), Members.erase_modify (by decide),
    Members.erase_modify_self]
  rfl

theorem exists_members_of_sound {v : Json} (h : (ofJson v).defect = none) :
    ∃ members, v = .object members ∧ shapeFault? members = none := by
  cases v with
  | object members =>
    refine ⟨members, rfl, ?_⟩
    cases hshape : shapeFault? members with
    | none => rfl
    | some fault =>
      rw [defect_ofJson hshape] at h
      cases h
  | _ => cases h

/-- The children of a proper node are the elements of an array, if there are any. -/
theorem exists_items_of_children {members : Members} (hshape : shapeFault? members = none)
    {i : Nat} {c : Node} (h : (ofJson (.object members)).children[i]? = some c) :
    ∃ items, Members.get? "children" members = some (.array items)
      ∧ (ofJson (.object members)).children = items.map ofJson := by
  rw [children_ofJson hshape, childrenOf_eq] at h ⊢
  cases hv : Members.get? "children" members with
  | none =>
    rw [hv] at h
    cases h
  | some v =>
    rw [hv] at h
    cases v with
    | array items => exact ⟨items, rfl, ofItems_eq_map items⟩
    | _ => cases h

/-- **Decoding and replacing commute**, wherever decoding gets to. -/
theorem ofJson_replaceBelow {v new : Json} {path : NodePath} {m : Node}
    (h : (ofJson v).Visits path m) :
    ofJson (v.replaceBelow path new) = (ofJson v).replaceBelow path (ofJson new) := by
  induction path generalizing v with
  | nil => rfl
  | cons i rest ih =>
    cases h with
    | @child _ c _ _ _ sound hc below =>
      obtain ⟨members, rfl, hshape⟩ := exists_members_of_sound sound
      obtain ⟨items, hitems, hchildren⟩ := exists_items_of_children hshape hc
      have hcommute : (items.modify i fun w => w.replaceBelow rest new).map ofJson
          = (items.map ofJson).modify i fun c => c.replaceBelow rest (ofJson new) := by
        refine map_modify fun w hw => ih ?_
        rw [hchildren, List.getElem?_map, hw] at hc
        exact Option.some.inj hc ▸ below
      have hnew : childrenOf (Members.modify "children"
          (Json.modifyItem i fun w => w.replaceBelow rest new) members)
            = (ofJson (.object members)).children.modify i
              fun c => c.replaceBelow rest (ofJson new) := by
        rw [hchildren, ← hcommute, childrenOf_eq, Members.get?_modify, if_pos rfl, hitems]
        exact ofItems_eq_map _
      refine (ofMembers_modify hshape (childrenOf members) _).trans ?_
      rw [hnew]
      rfl

/-! ## §3. Nodes beside the path and above it. -/

theorem below?_replaceBelow_cons (n new : Node) (i : Nat) (rest path : NodePath) :
    (n.replaceBelow (i :: rest) new).below? (i :: path)
      = n.children[i]?.bind fun c => (c.replaceBelow rest new).below? path := by
  rw [below?, replaceBelow]
  rw [List.getElem?_modify_eq, Option.map_eq_map, Option.bind_map]
  rfl

/-- At a path above the replaced node there is the node from before, with the change in it. -/
theorem below?_replaceBelow_append (n new : Node) (path rest : NodePath) :
    (n.replaceBelow (path ++ rest) new).below? path
      = (n.below? path).map fun m => m.replaceBelow rest new := by
  induction path generalizing n with
  | nil => rfl
  | cons i path ih =>
    rw [List.cons_append, below?_replaceBelow_cons, below?, Option.map_bind]
    exact Option.bind_congr fun c _ => ih c

/-- **Beside the replaced node everything stays as it is.** -/
theorem below?_replaceBelow_elsewhere {path q : NodePath} (h : ¬ path <+: q)
    (h' : ¬ q <+: path) (n new : Node) : (n.replaceBelow path new).below? q = n.below? q := by
  induction path generalizing n q with
  | nil => exact absurd List.nil_prefix h
  | cons i rest ih =>
    cases q with
    | nil => exact absurd List.nil_prefix h'
    | cons j q =>
      by_cases hij : i = j
      · subst hij
        rw [below?_replaceBelow_cons, below?]
        refine Option.bind_congr fun c _ => ih (fun hq => h ?_) (fun hq => h' ?_) c
        · exact List.cons_prefix_cons.2 ⟨rfl, hq⟩
        · exact List.cons_prefix_cons.2 ⟨rfl, hq⟩
      · rw [below?, below?, replaceBelow]
        simp [hij]

/-- The node without its children. -/
def bare (n : Node) : Node := { n with children := [] }

end Node

namespace Surface

/-- Puts a node into a surface in the place of the one at a path. -/
def replaceNode (s : Surface) : NodePath → Node → Surface
  | [], _ => s
  | i :: rest, new => { s with content := s.content.modify i fun n => n.replaceBelow rest new }

theorem nodeAt?_replaceNode_cons (s : Surface) (new : Node) (i : Nat) (rest path : NodePath) :
    (s.replaceNode (i :: rest) new).nodeAt? (i :: path)
      = s.content[i]?.bind fun n => (n.replaceBelow rest new).below? path := by
  rw [nodeAt?, replaceNode]
  rw [List.getElem?_modify_eq, Option.map_eq_map, Option.bind_map]
  rfl

/-- At a path above the replaced node there is the node from before, with the change in it. -/
theorem nodeAt?_replaceNode_append (s : Surface) (new : Node) {path : NodePath} (h : path ≠ [])
    (rest : NodePath) : (s.replaceNode (path ++ rest) new).nodeAt? path
      = (s.nodeAt? path).map fun m => m.replaceBelow rest new := by
  cases path with
  | nil => exact absurd rfl h
  | cons i path =>
    rw [List.cons_append, nodeAt?_replaceNode_cons, nodeAt?, Option.map_bind]
    exact Option.bind_congr fun n _ => n.below?_replaceBelow_append new path rest

theorem nodeAt?_replaceNode_self {s : Surface} {path : NodePath} {n : Node}
    (h : s.nodeAt? path = some n) (new : Node) :
    (s.replaceNode path new).nodeAt? path = some new := by
  have hnil : path ≠ [] := by
    rintro rfl
    cases h
  have hself := nodeAt?_replaceNode_append s new hnil []
  rw [List.append_nil, h] at hself
  exact hself

/-- **Beside the replaced node everything stays as it is.** -/
theorem nodeAt?_replaceNode_elsewhere {path q : NodePath} (h : ¬ path <+: q)
    (h' : ¬ q <+: path) (s : Surface) (new : Node) :
    (s.replaceNode path new).nodeAt? q = s.nodeAt? q := by
  cases path with
  | nil => exact absurd List.nil_prefix h
  | cons i rest =>
    cases q with
    | nil => exact absurd List.nil_prefix h'
    | cons j q =>
      by_cases hij : i = j
      · subst hij
        rw [nodeAt?_replaceNode_cons, nodeAt?]
        refine Option.bind_congr fun n _ =>
          Node.below?_replaceBelow_elsewhere (fun hq => h ?_) (fun hq => h' ?_) n new
        · exact List.cons_prefix_cons.2 ⟨rfl, hq⟩
        · exact List.cons_prefix_cons.2 ⟨rfl, hq⟩
      · rw [nodeAt?, nodeAt?, replaceNode]
        simp [hij]

/-- **Outside of the replaced node only children change**, and only above it. -/
theorem bare_nodeAt?_replaceNode {path q : NodePath} (h : ¬ path <+: q) (s : Surface)
    (new : Node) :
    ((s.replaceNode path new).nodeAt? q).map Node.bare = (s.nodeAt? q).map Node.bare := by
  by_cases hq : q <+: path
  · obtain ⟨rest, rfl⟩ := hq
    by_cases hnil : q = []
    · subst hnil
      rfl
    · rw [nodeAt?_replaceNode_append s new hnil, Option.map_map]
      -- The replaced node itself is not above the path, so that a child is what changes.
      cases rest with
      | nil => exact absurd (by simp) h
      | cons i rest => rfl
  · rw [nodeAt?_replaceNode_elsewhere h hq]

theorem othersOf_modify_content (f : Json → Json) (members : Members) :
    othersOf (Members.modify "content" f members) = othersOf members := by
  show Members.erase "content" (Members.erase "surfaceId" _) = _
  rw [Members.erase_modify (by decide), Members.erase_modify_self]
  rfl

/-- **Decoding and replacing commute**, wherever decoding gets to. -/
theorem ofJson_replaceNode {v new : Json} {s : Surface} {path : NodePath} {n : Node}
    (h : ofJson v = .ok s) (hn : s.Visited path n) :
    ofJson (v.replaceNode path new) = .ok (s.replaceNode path (Node.ofJson new)) := by
  obtain ⟨members, id, items, rfl, hid, hitems, rfl⟩ := ofJson_eq_ok_iff.1 h
  obtain ⟨i, m, rest, rfl, hm, hvisits⟩ := visited_iff.1 hn
  refine ofJson_eq_ok_iff.2 ⟨_, id, items.modify i fun w => w.replaceBelow rest new, rfl,
    ?_, ?_, ?_⟩
  · rw [Members.get?_modify, if_neg (by decide), hid]
  · rw [Members.get?_modify, if_pos rfl, hitems]
    rfl
  · have hnodes : Node.ofItems (items.modify i fun w => w.replaceBelow rest new)
        = (Node.ofItems items).modify i fun n => n.replaceBelow rest (Node.ofJson new) := by
      change (Node.ofItems items)[i]? = some m at hm
      rw [Node.ofItems_eq_map] at hm
      rw [Node.ofItems_eq_map, Node.ofItems_eq_map]
      refine map_modify fun w hw => ?_
      rw [List.getElem?_map, hw] at hm
      obtain rfl := Option.some.inj hm
      exact Node.ofJson_replaceBelow hvisits
    rw [hnodes, othersOf_modify_content]
    rfl

end Surface

end SurfaceStudio
