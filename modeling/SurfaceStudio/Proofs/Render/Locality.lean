import Mathlib.Data.List.Sort
import SurfaceStudio.Proofs.Render.Mirror
import SurfaceStudio.Proofs.Surface.Replacement

/-!
# One bad node never affects the rest

Whatever value stands in the place of a node, the document is still a surface, and everything
beside that node is decoded and rendered as it would be with any other value in its place.

  • `Diagnostic.eq_of_mem_iff` — diagnostics in their order are determined by their set,
  • `Surface.primitiveAt?_eq_map`, `Surface.mem_tree_of_sameAlong` — what is rendered at a path
    depends on the nodes at the path and above it alone, without their children,
  • `Surface.Confined`, `Surface.confined_replaceNode` — **a change of one node stays where it is**.
-/

namespace SurfaceStudio

/-! ## §1. The order of diagnostics. -/

namespace Diagnostic

theorem Before.asymm {d e : Diagnostic} (h : d.Before e) : ¬ e.Before d := by
  intro h'
  by_cases hde : d.path <+: e.path
  · exact h'.failed hde (h.unknown hde)
  · by_cases hed : e.path <+: d.path
    · exact h.failed hed (h'.unknown hed)
    · exact List.lt_asymm (h.lt hde hed) (h'.lt hed hde)

/-- **Diagnostics in their order are determined by their set.** -/
theorem eq_of_mem_iff {ds es : List Diagnostic} (hd : ds.Pairwise Before) (he : es.Pairwise Before)
    (h : ∀ d, d ∈ ds ↔ d ∈ es) : ds = es := by
  have hantisymm : Std.Antisymm Before := ⟨fun d e hde hed => absurd hed hde.asymm⟩
  have hirrefl : Std.Irrefl Before := ⟨fun d hdd => hdd.ne rfl⟩
  exact List.Pairwise.eq_of_mem_iff hd he h

end Diagnostic

/-! ## §2. What rendering depends on. -/

namespace Node

theorem frame_bare (n : Node) : n.bare.frame = n.frame := rfl

theorem diagnosis?_bare (n : Node) : n.bare.diagnosis? = n.diagnosis? := rfl

/-- Replacing a node inside another one changes one of its children, and that child alone. -/
theorem primitive_replaceBelow_cons {n c : Node} {i : Nat} (h : n.children[i]? = some c)
    (rest : NodePath) (new : Node) : (n.replaceBelow (i :: rest) new).primitive
      = n.primitive.withChildren
        (n.primitive.children.set i (c.replaceBelow rest new).primitive) := by
  have hchildren : (n.replaceBelow (i :: rest) new).children.map primitive
      = (n.children.map primitive).set i (c.replaceBelow rest new).primitive := by
    refine List.ext_getElem? fun j => ?_
    rw [replaceBelow]
    by_cases hij : i = j
    · subst hij
      rw [List.getElem?_set_self']
      simp [h]
    · simp [hij]
  have hframe : (n.replaceBelow (i :: rest) new).frame = n.frame := rfl
  rw [primitive_eq, hframe, hchildren, children_primitive, primitive_eq n,
    Primitive.withChildren_withChildren]
  cases hslot : n.frame.isContainer with
  | true => rfl
  | false =>
    rw [Primitive.withChildren_of_not_isContainer hslot,
      Primitive.withChildren_of_not_isContainer hslot]

end Node

namespace Surface

/-- The nodes at a path and above it are the same in two surfaces, their children apart. -/
def SameAlong (s t : Surface) (path : NodePath) : Prop :=
  ∀ q, q <+: path → (t.nodeAt? q).map Node.bare = (s.nodeAt? q).map Node.bare

theorem SameAlong.symm {s t : Surface} {path : NodePath} (h : s.SameAlong t path) :
    t.SameAlong s path := fun q hq => (h q hq).symm

theorem SameAlong.exists_bare {s t : Surface} {path q : NodePath} (h : s.SameAlong t path)
    (hq : q <+: path) {n : Node} (hn : t.nodeAt? q = some n) :
    ∃ m, s.nodeAt? q = some m ∧ m.bare = n.bare := by
  have hbare := h q hq
  rw [hn, Option.map_some] at hbare
  exact Option.map_eq_some_iff.1 hbare.symm

/-- Slots for children above a path are found in both surfaces. -/
theorem SameAlong.slots {s t : Surface} {path : NodePath} (h : s.SameAlong t path)
    (hs : ∀ a, a <+: path → a ≠ path → ∀ n, s.nodeAt? a = some n → n.frame.isContainer = true) :
    ∀ a, a <+: path → a ≠ path → ∀ n, t.nodeAt? a = some n → n.frame.isContainer = true := by
  intro a ha hne n hn
  obtain ⟨m, hm, hbare⟩ := h.exists_bare ha hn
  rw [← Node.frame_bare, ← hbare]
  exact hs a ha hne m hm

/-- **A primitive depends on the node at its path**, and on those above it without their
children: what the node becomes, the primitive becomes. -/
theorem primitiveAt?_eq_map {s t : Surface} {path : NodePath} (h : s.SameAlong t path)
    {f : Node → Node} {g : Primitive → Primitive}
    (hpath : t.nodeAt? path = (s.nodeAt? path).map f)
    (hfg : ∀ n, s.nodeAt? path = some n → (f n).primitive = g n.primitive) :
    t.tree.primitiveAt? path = (s.tree.primitiveAt? path).map g := by
  refine Option.ext fun q => ?_
  rw [Option.map_eq_some_iff, primitiveAt?_iff, hpath]
  constructor
  · intro hq
    obtain ⟨⟨n', hn', rfl⟩, hslots⟩ := hq
    obtain ⟨n, hn, rfl⟩ := Option.map_eq_some_iff.1 hn'
    exact ⟨n.primitive, primitiveAt?_iff.2 ⟨⟨n, hn, rfl⟩, h.symm.slots hslots⟩, (hfg n hn).symm⟩
  · intro hq
    obtain ⟨q', hq', rfl⟩ := hq
    obtain ⟨⟨n, hn, rfl⟩, hslots⟩ := primitiveAt?_iff.1 hq'
    rw [hn]
    exact ⟨⟨f n, rfl, hfg n hn⟩, h.slots hslots⟩

/-- **A diagnostic depends on the nodes at its path and above it**, without their children. -/
theorem mem_tree_of_sameAlong {s t : Surface} {d : Diagnostic} (h : s.SameAlong t d.path)
    (hd : d ∈ t.tree.diagnostics) : d ∈ s.tree.diagnostics := by
  obtain ⟨n, hvisited, htag, hkind⟩ := mem_tree.1 hd
  obtain ⟨m, hm, hbare⟩ := h.exists_bare (List.prefix_refl _) hvisited.found
  refine mem_tree.2 ⟨m, ⟨hm, fun a ha hne n' hn' => ?_⟩, ?_, ?_⟩
  · obtain ⟨m', hm', hbare'⟩ := h.symm.exists_bare ha hn'
    exact (congrArg Node.defect hbare').symm.trans (hvisited.ancestors a ha hne m' hm')
  · exact htag.trans (congrArg Node.tag hbare).symm
  · rw [← Node.diagnosis?_bare, hbare]
    exact hkind

/-! ## §3. One node replaced. -/

theorem sameAlong_replaceNode {path q : NodePath} (h : ¬ path <+: q) (s : Surface) (new : Node) :
    s.SameAlong (s.replaceNode path new) q := by
  intro a ha
  exact bare_nodeAt?_replaceNode (fun hpath => h (hpath.trans ha)) s new

/-- **A change of the node at a path stays where it is.** -/
structure Confined (s t : Surface) (path : NodePath) : Prop where
  id : t.id = s.id
  extra : t.extra = s.extra
  /-- Beside the path the nodes are the same. -/
  nodes : ∀ q, ¬ path <+: q → ¬ q <+: path → t.nodeAt? q = s.nodeAt? q
  /-- Beside the path the primitives are the same. -/
  primitives : ∀ q, ¬ path <+: q → ¬ q <+: path →
    t.tree.primitiveAt? q = s.tree.primitiveAt? q
  /-- Above the path one slot of each primitive is filled in another way, the one that the path
  goes through. -/
  above : ∀ q i rest, path = q ++ i :: rest → ∃ c, t.tree.primitiveAt? q
    = (s.tree.primitiveAt? q).map fun a => a.withChildren (a.children.set i c)
  /-- Outside of what is below the path the diagnostics are the same, in the same order. -/
  diagnostics : t.tree.diagnostics.filter (fun d => ¬ path <+: d.path)
    = s.tree.diagnostics.filter (fun d => ¬ path <+: d.path)

/-- The primitive above a replaced node is the one from before, one slot apart. -/
theorem exists_primitiveAt?_replaceNode {s : Surface} {q rest : NodePath} {i : Nat} {n : Node}
    (hn : s.nodeAt? (q ++ i :: rest) = some n) (new : Node) :
    ∃ c, (s.replaceNode (q ++ i :: rest) new).tree.primitiveAt? q
      = (s.tree.primitiveAt? q).map fun a => a.withChildren (a.children.set i c) := by
  by_cases hnil : q = []
  -- There is nothing at the empty path.
  · subst hnil
    exact ⟨new.primitive, rfl⟩
  · rw [nodeAt?_append s hnil, Option.bind_eq_some_iff] at hn
    obtain ⟨m, hm, hn⟩ := hn
    obtain ⟨c, hc, -⟩ := Node.below?_cons.1 hn
    have hprefix : ¬ q ++ i :: rest <+: q := by
      intro h
      have hlength := h.length_le
      rw [List.length_append, List.length_cons] at hlength
      omega
    refine ⟨(c.replaceBelow rest new).primitive, primitiveAt?_eq_map
      (sameAlong_replaceNode hprefix s new) (nodeAt?_replaceNode_append s new hnil _) ?_⟩
    intro m' hm'
    obtain rfl : m = m' := Option.some.inj (hm.symm.trans hm')
    exact Node.primitive_replaceBelow_cons hc rest new

/-- **Replacing one node of a surface** changes nothing else of it. -/
theorem confined_replaceNode {s : Surface} {path : NodePath} {n : Node}
    (hn : s.nodeAt? path = some n) (new : Node) : s.Confined (s.replaceNode path new) path where
  id := by cases path <;> rfl
  extra := by cases path <;> rfl
  nodes q h h' := nodeAt?_replaceNode_elsewhere h h' s new
  primitives q h h' := by
    have hnode := nodeAt?_replaceNode_elsewhere h h' s new
    have hmap : (s.replaceNode path new).tree.primitiveAt? q
        = (s.tree.primitiveAt? q).map fun a => a :=
      primitiveAt?_eq_map (f := fun n => n) (sameAlong_replaceNode h s new)
        (hnode.trans Option.map_id'.symm) fun _ _ => rfl
    exact hmap.trans Option.map_id'
  above := by
    rintro q i rest rfl
    exact exists_primitiveAt?_replaceNode hn new
  diagnostics := by
    refine Diagnostic.eq_of_mem_iff ((pairwise_tree _).filter _) ((pairwise_tree _).filter _) ?_
    intro d
    simp only [List.mem_filter, decide_eq_true_eq]
    constructor
    · rintro ⟨hd, hpath⟩
      exact ⟨mem_tree_of_sameAlong (sameAlong_replaceNode hpath s new) hd, hpath⟩
    · rintro ⟨hd, hpath⟩
      exact ⟨mem_tree_of_sameAlong (sameAlong_replaceNode hpath s new).symm hd, hpath⟩

/-- **One bad node never affects the rest**: a document stays a surface whatever value is put in
the place of one of its nodes, and the change stays where that node is. -/
theorem exists_confined_of_ofJson {document : Json} {s : Surface} {path : NodePath} {n : Node}
    (h : ofJson document = .ok s) (hn : s.Visited path n) (new : Json) :
    ∃ t, ofJson (document.replaceNode path new) = .ok t
      ∧ t.nodeAt? path = some (Node.ofJson new) ∧ s.Confined t path := by
  refine ⟨s.replaceNode path (Node.ofJson new), ofJson_replaceNode h hn, ?_,
    confined_replaceNode hn.found (Node.ofJson new)⟩
  exact nodeAt?_replaceNode_self hn.found (Node.ofJson new)

/-- A card with a text and an unknown node, in front of a list. -/
def cardAndList : List Json := [
  .object [
    ("children", .array [
      .object [("props", .object [("text", .string "hi")]), ("type", .string "Text")],
      .object [("type", .string "Spacer")]]),
    ("type", .string "Card")],
  .object [("type", .string "List")]]

/-- The document with these nodes. -/
def cardDocument : Json := .object [("content", .array cardAndList), ("surfaceId", .string "s")]

/-- A string takes the place of the text in the card. -/
theorem exists_confined_cardDocument : ∃ s n t, ofJson cardDocument = .ok s
    ∧ s.Visited [0, 0] n ∧ ofJson (cardDocument.replaceNode [0, 0] (.string "loose")) = .ok t
    ∧ t.nodeAt? [0, 0] = some (Node.ofJson (.string "loose")) ∧ s.Confined t [0, 0] := by
  have h : ofJson cardDocument = .ok (new "s" (Node.ofItems cardAndList)) := rfl
  have hn : (new "s" (Node.ofItems cardAndList)).Visited [0, 0] _ :=
    visited_iff.2 ⟨0, _, [0], rfl, rfl, .child rfl rfl (.here _)⟩
  obtain ⟨t, ht⟩ := exists_confined_of_ofJson h hn (.string "loose")
  exact ⟨_, _, t, h, hn, ht⟩

end Surface

end SurfaceStudio
