import SurfaceStudio.Proofs.Render.Diagnostics
import SurfaceStudio.Proofs.Surface.Edits

/-!
# Nodes and how they have come about

A node is decoded from a value or made new, and then properties are set and children added that have
come about in the same ways.  What the parts of a node can be depends on that: what a decoded node
remembers of its keys fits what it holds, a defective node holds nothing, and the known keys are
never among the others.  So no key is written twice, however deep in a tree.

  • `Node.History` — how a node has come about, and `History.below?` how the nodes inside it have,
  • `History.below?_node` — the nodes of a tree are those that its history tells of,
  • `Node.Kept` — what is kept of every node, `Kept.withProp`, `Kept.withChildren`, `History.kept`,
  • `Node.keysOnce_toJson` — a tree of such nodes is written without a key twice,
  • `History.Represented`, `History.represented` — **what holds of every tree**.
-/

namespace SurfaceStudio

/-! ## §1. Keys that are written once. -/

namespace Json

mutual

/-- **No object in the value has a key twice**, as its members are written. -/
def KeysOnce : Json → Prop
  | .array items => AllKeysOnce items
  | .object members => (Members.keys members).Nodup ∧ MembersKeysOnce members
  | _ => True

def AllKeysOnce : List Json → Prop
  | [] => True
  | v :: vs => v.KeysOnce ∧ AllKeysOnce vs

def MembersKeysOnce : List (String × Json) → Prop
  | [] => True
  | (_, v) :: rest => v.KeysOnce ∧ MembersKeysOnce rest

end

theorem allKeysOnce_iff {items : List Json} : AllKeysOnce items ↔ ∀ v ∈ items, v.KeysOnce := by
  induction items with
  | nil => simp [AllKeysOnce]
  | cons v vs ih => simp [AllKeysOnce, ih]

theorem membersKeysOnce_iff {members : Members} :
    MembersKeysOnce members ↔ ∀ m ∈ members, m.2.KeysOnce := by
  induction members with
  | nil => simp [MembersKeysOnce]
  | cons m rest ih =>
    obtain ⟨k, v⟩ := m
    simp [MembersKeysOnce, ih]

theorem keysOnce_array_iff {items : List Json} :
    (array items).KeysOnce ↔ ∀ v ∈ items, v.KeysOnce := by
  rw [KeysOnce, allKeysOnce_iff]

theorem keysOnce_object_iff {members : Members} :
    (object members).KeysOnce ↔ members.keys.Nodup ∧ ∀ m ∈ members, m.2.KeysOnce := by
  rw [KeysOnce, membersKeysOnce_iff]

/-- Members in order have different keys. -/
theorem keysOnce_of_canonical {v : Json} (h : v.Canonical) : v.KeysOnce := by
  induction v using Json.induction with
  | null => trivial
  | bool b => trivial
  | number n => trivial
  | string s => trivial
  | array items ih =>
    exact keysOnce_array_iff.2 fun v hv => ih v hv (canonical_array_iff.1 h v hv)
  | object members ih =>
    obtain ⟨hs, hc⟩ := canonical_object_iff.1 h
    exact keysOnce_object_iff.2
      ⟨Members.nodup_keys_of_sorted hs, fun m hm => ih m hm (hc m hm)⟩

end Json

namespace Node

open Json

/-! ## §2. Histories. -/

/-- **How a node has come about**: it was decoded or new, and then it was edited. -/
inductive History where
  | decoded (v : Json) (canonical : v.Canonical)
  | new (tag : String)
  | withProp (h : History) (key : String) (v : Json) (canonical : v.Canonical)
  | withChild (h child : History)
  | withChildren (h : History) (more : List History)

/-- The values from which the children of a decoded node are decoded. -/
def childValues (v : Json) : List Json :=
  if (ofJson v).defect.isSome then [] else Edit.elementsAt (v.member? "children")

theorem mem_elementsAt {w : Json} {found : Option Json} (h : w ∈ Edit.elementsAt found) :
    ∃ items, found = some (.array items) ∧ w ∈ items := by
  unfold Edit.elementsAt at h
  split at h
  next items => exact ⟨items, rfl, h⟩
  next => cases h

theorem canonical_of_mem_childValues {v : Json} (h : v.Canonical) :
    ∀ w ∈ childValues v, w.Canonical := by
  intro w hw
  unfold childValues at hw
  split at hw
  · cases hw
  · obtain ⟨items, hitems, hmem⟩ := mem_elementsAt hw
    cases v with
    | object members =>
      have hfound := Members.mem_of_get? hitems
      exact canonical_array_iff.1 ((canonical_object_iff.1 h).2 _ hfound) w hmem
    | _ => cases hitems

namespace History

mutual

/-- **The node that has come about.** -/
def node : History → Node
  | .decoded v _ => ofJson v
  | .new tag => .new tag
  | .withProp h key v _ => h.node.withProp key v
  | .withChild h child => h.node.withChild child.node
  | .withChildren h more => h.node.withChildren (nodes more)

def nodes : List History → List Node
  | [] => []
  | h :: hs => h.node :: nodes hs

end

/-- How the children of the node have come about: they were decoded with it, or added. -/
def parts : History → List History
  | .decoded v hv => (childValues v).pmap .decoded (canonical_of_mem_childValues hv)
  | .new _ => []
  | .withProp h _ _ _ => h.parts
  | .withChild h child => h.parts ++ [child]
  | .withChildren h more => h.parts ++ more

/-- How the node has come about that child indices lead to. -/
def below? (h : History) : NodePath → Option History
  | [] => some h
  | i :: rest => h.parts[i]?.bind fun c => c.below? rest

/-- The node itself was edited after it had been decoded or made. -/
def isEdited : History → Bool
  | .decoded .. | .new _ => false
  | .withProp .. | .withChild .. | .withChildren .. => true

/-- The node was decoded, and not edited after that. -/
def isDecoded : History → Bool
  | .decoded .. => true
  | _ => false

/-! ## §3. Nodes at paths. -/

theorem nodes_eq_map (hs : List History) : nodes hs = hs.map node := by
  induction hs with
  | nil => rfl
  | cons h hs ih => rw [nodes, ih, List.map_cons]

theorem children_ofJson (v : Json) : (ofJson v).children = (childValues v).map ofJson := by
  cases v with
  | object members =>
    rw [childValues]
    cases hshape : shapeFault? members with
    | some fault =>
      rw [defect_ofJson hshape, ofJson, ofMembers, hshape]
      rfl
    | none =>
      have hsound : (ofJson (.object members)).defect = none := by rw [ofJson, ofMembers, hshape]
      rw [hsound, Node.children_ofJson hshape, childrenOf_eq]
      show _ = (Edit.elementsAt (Members.get? "children" members)).map ofJson
      -- Only an array holds children.
      cases Members.get? "children" members with
      | none => rfl
      | some w =>
        cases w with
        | array items => exact ofItems_eq_map items
        | _ => rfl
  | _ => rfl

/-- **The children of a node are those that its history tells of.** -/
theorem children_node : (h : History) → h.node.children = h.parts.map node
  | .decoded v hv => by
    rw [parts, List.map_pmap]
    show (ofJson v).children = (childValues v).pmap (fun w _ => ofJson w) _
    rw [List.pmap_eq_map, children_ofJson]
  | .new _ => rfl
  | .withProp h _ _ _ => children_node h
  | .withChild h child => by
    rw [parts, List.map_append, ← children_node h]
    rfl
  | .withChildren h more => by
    rw [parts, List.map_append, ← children_node h, ← nodes_eq_map]
    rfl

/-- **The nodes of a tree are those that its history tells of**, path by path. -/
theorem below?_node (h : History) (path : NodePath) :
    h.node.below? path = (h.below? path).map node := by
  induction path generalizing h with
  | nil => rfl
  | cons i rest ih =>
    rw [Node.below?, History.below?, children_node, List.getElem?_map]
    cases h.parts[i]? with
    | none => rfl
    | some c => exact ih c

end History

/-! ## §4. What is kept. -/

/-- A decoded node is tidy, or it is defective and holds nothing but the value it was decoded
from. -/
theorem tidy_or_defective {v : Json} (hv : v.Canonical) :
    (ofJson v).Tidy ∨ ∃ fault tag, ofJson v = defective fault tag v := by
  cases v with
  | object members =>
    cases hshape : shapeFault? members with
    | none => exact .inl (tidy_ofJson hv hshape)
    | some fault =>
      refine .inr ⟨fault, tagOf members, ?_⟩
      rw [ofJson, ofMembers, hshape]
  | _ => exact .inr ⟨.notAnObject, "", rfl⟩

/-- **What is kept of a node however it has come about**: its parts are clean, or it is defective,
has no other members and keeps a canonical value. -/
inductive Kept (n : Node) : Prop
  | clean (h : n.Clean)
  | defective {fault : ShapeFault} {v : Json} (h : n.defect = some ⟨fault, v⟩)
    (canonical : v.Canonical) (extra : n.extra = [])

theorem kept_ofJson {v : Json} (hv : v.Canonical) : (ofJson v).Kept := by
  obtain htidy | ⟨fault, tag, hdefective⟩ := tidy_or_defective hv
  · exact .clean htidy.clean
  · rw [hdefective]
    exact .defective rfl hv rfl

theorem Kept.withProp {n : Node} (h : n.Kept) (key : String) {v : Json} (hv : v.Canonical) :
    (n.withProp key v).Kept := by
  cases h with
  | clean h => exact .clean (h.withProp key hv)
  | defective h hraw hextra => exact .defective h hraw hextra

theorem Kept.withChildren {n : Node} (h : n.Kept) (more : List Node) :
    (n.withChildren more).Kept := by
  cases h with
  | clean h => exact .clean (h.withChildren more)
  | defective h hraw hextra => exact .defective h hraw hextra

/-- **Every node keeps it.** -/
theorem History.kept : (h : History) → h.node.Kept
  | .decoded _ hv => kept_ofJson hv
  | .new tag => .clean (tidy_new tag).clean
  | .withProp h key _ hv => (kept h).withProp key hv
  | .withChild h child => (kept h).withChildren [child.node]
  | .withChildren h more => (kept h).withChildren (nodes more)

/-- The keys that a node knows. -/
def knownKeys : List String := ["type", "props", "children"]

theorem Kept.extra {n : Node} (h : n.Kept) : ∀ key ∈ knownKeys, key ∉ n.extra.keys := by
  intro key hkey
  rw [← Members.get?_eq_none_iff]
  cases h with
  | clean h =>
    simp only [knownKeys, List.mem_cons, List.not_mem_nil, or_false] at hkey
    rcases hkey with rfl | rfl | rfl
    · exact h.extra_type
    · exact h.extra_props
    · exact h.extra_children
  | defective _ _ hextra =>
    rw [hextra]
    rfl

/-! ## §5. What is written. -/

theorem keysOnce_optionalMember {value : Json} (h : value.KeysOnce) (key : String)
    (form : KeyForm) (isEmpty : Bool) :
    ∀ m ∈ optionalMember key form isEmpty value, m.2.KeysOnce := by
  intro m hm
  rw [optionalMember_eq, Option.mem_toList, Option.map_eq_some_iff] at hm
  obtain ⟨v, hv, rfl⟩ := hm
  obtain rfl | rfl := null_or_eq_of_optionalValue? hv
  · trivial
  · exact h

/-- A node is written without a key twice if its children are. -/
theorem Kept.keysOnce {n : Node} (h : n.Kept) (hchildren : ∀ c ∈ n.children, c.toJson.KeysOnce) :
    n.toJson.KeysOnce := by
  cases h with
  | defective h hraw _ =>
    rw [toJson_of_defect h]
    exact keysOnce_of_canonical hraw
  | clean h =>
    have hprops : (Json.object n.props).KeysOnce := keysOnce_of_canonical h.props
    have hitems : (Json.array (n.children.map toJson)).KeysOnce :=
      keysOnce_array_iff.2 (List.forall_mem_map.2 hchildren)
    have hextra := (keysOnce_object_iff.1 (keysOnce_of_canonical h.extra)).2
    rw [toJson_of_clean h]
    refine keysOnce_object_iff.2 ⟨nodup_keys_writtenMembers h, fun m hm => ?_⟩
    -- The members are written one group after the other.
    rw [writtenMembers, List.mem_cons, List.mem_append, List.mem_append] at hm
    rcases hm with rfl | (hm | hm) | hm
    · trivial
    · exact keysOnce_optionalMember hprops _ _ _ m hm
    · exact keysOnce_optionalMember hitems _ _ _ m hm
    · exact hextra m hm

/-- **A tree of nodes that keep it is written without a key twice.** -/
theorem keysOnce_toJson {n : Node} (h : ∀ path m, n.below? path = some m → m.Kept) :
    n.toJson.KeysOnce := by
  induction n using Node.induction with
  | node n ih =>
    refine (h [] n rfl).keysOnce fun c hc => ih c hc fun path m hm => ?_
    -- What is below a child is below the node, one index further.
    obtain ⟨i, hi⟩ := List.mem_iff_getElem?.1 hc
    exact h (i :: path) m (below?_cons.2 ⟨c, hi, hm⟩)

/-! ## §6. Trees. -/

namespace History

/-- **What holds of a node with this history.** -/
structure Represented (h : History) : Prop where
  /-- The known keys are not among the others. -/
  extra : ∀ key ∈ knownKeys, key ∉ h.node.extra.keys
  /-- A defective node is empty unless it was edited. -/
  defective : h.node.defect ≠ none → h.isEdited = false →
    h.node.props = [] ∧ h.node.children = [] ∧ h.node.extra = []
  /-- Of a node that was decoded and not edited, a form of `props` other than `present` tells that
  there are no properties. -/
  propsForm : h.isDecoded = true → h.node.propsForm ≠ .present → h.node.props = []
  /-- Of such a node, a form of `children` other than `present` tells that there are none. -/
  childrenForm : h.isDecoded = true → h.node.childrenForm ≠ .present → h.node.children = []

theorem represented_decoded (v : Json) (hv : v.Canonical) : (decoded v hv).Represented := by
  have hextra := (kept_ofJson hv).extra
  obtain htidy | ⟨fault, tag, hdefective⟩ := tidy_or_defective hv
  · exact ⟨hextra, fun h => absurd htidy.defect h, fun _ => htidy.propsForm,
      fun _ => htidy.childrenForm⟩
  · refine ⟨hextra, fun _ _ => ?_, fun _ _ => ?_, fun _ _ => ?_⟩
    · rw [node, hdefective]
      exact ⟨rfl, rfl, rfl⟩
    · rw [node, hdefective]
      rfl
    · rw [node, hdefective]
      rfl

theorem represented_node (h : History) : h.Represented := by
  cases h with
  | decoded v hv => exact represented_decoded v hv
  | new tag => exact ⟨(kept (new tag)).extra, fun h => absurd rfl h, nofun, nofun⟩
  -- Of an edited node only the first is said.
  | withProp h key v hv => exact ⟨(kept _).extra, nofun, nofun, nofun⟩
  | withChild h child => exact ⟨(kept _).extra, nofun, nofun, nofun⟩
  | withChildren h more => exact ⟨(kept _).extra, nofun, nofun, nofun⟩

/-- **What holds of a whole tree with this history.** -/
structure RepresentedBelow (h : History) : Prop where
  /-- Every node at any depth has a history of its own in it. -/
  found : ∀ path n, h.node.below? path = some n → ∃ o, h.below? path = some o ∧ o.node = n
  /-- Whatever its history is, its parts fit together. -/
  nodes : ∀ path o, h.below? path = some o → o.Represented
  /-- The tree is written without a key twice. -/
  written : h.node.toJson.KeysOnce

/-- **However a tree has come about**, every node in it is represented as its own history tells, and
no key is written twice in it. -/
theorem represented (h : History) : h.RepresentedBelow where
  found path n hn := by
    rw [below?_node] at hn
    exact Option.map_eq_some_iff.1 hn
  nodes _ o _ := o.represented_node
  written := by
    refine keysOnce_toJson fun path m hm => ?_
    rw [below?_node] at hm
    obtain ⟨o, -, rfl⟩ := Option.map_eq_some_iff.1 hm
    exact o.kept

end History

end Node

end SurfaceStudio
