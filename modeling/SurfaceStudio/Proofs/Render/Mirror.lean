import SurfaceStudio.Proofs.Render.Frames

/-!
# Render trees mirror node trees

The primitives of a surface stand at the paths of its nodes, down to the first one on each way
that has no slot for children.  What stands at a path tells what the diagnostics say about it, and
the other way round.

  • `RenderTree.primitiveAt?` — the primitive that child indices lead to,
  • `Node.below?_primitive`, `Node.reached_iff` — what is reached inside one node,
  • `Surface.primitiveAt?_iff` — **what is reached in a surface**,
  • `Surface.Mirrored`, `Surface.mirrored_tree` — **primitives, nodes and diagnostics of a surface
    agree path by path**.
-/

namespace SurfaceStudio

/-! ## §1. Primitives at paths. -/

/-- The primitive that child indices lead to. -/
def Primitive.below? (q : Primitive) : NodePath → Option Primitive
  | [] => some q
  | i :: rest => q.children[i]?.bind fun c => c.below? rest

/-- The primitive at a path from the top of a render tree. -/
def RenderTree.primitiveAt? (t : RenderTree) : NodePath → Option Primitive
  | [] => none
  | i :: rest => t.nodes[i]?.bind fun q => q.below? rest

namespace Node

/-- Below a node stands what the children are rendered to, if there is a slot for them. -/
theorem below?_primitive_cons {n : Node} {i : Nat} {rest : NodePath} {q : Primitive} :
    n.primitive.below? (i :: rest) = some q ↔ n.frame.isContainer = true
      ∧ ∃ c, n.children[i]? = some c ∧ c.primitive.below? rest = some q := by
  show n.primitive.children[i]?.bind (fun c => c.below? rest) = some q ↔ _
  rw [children_primitive]
  cases hslot : n.frame.isContainer with
  | true => simp [Option.bind_eq_some_iff]
  | false => simp

/-- **Inside a node a path leads to the primitive of the node it leads to**, as long as every node
on the way has a slot for children. -/
theorem below?_primitive {n : Node} {path : NodePath} {q : Primitive} :
    n.primitive.below? path = some q ↔ (∃ m, n.below? path = some m ∧ m.primitive = q)
      ∧ ∀ a, a <+: path → a ≠ path → ∀ m, n.below? a = some m → m.frame.isContainer = true := by
  induction path generalizing n with
  | nil =>
    constructor
    · intro h
      injection h with h
      exact ⟨⟨n, rfl, h⟩, fun a ha hne => absurd (List.prefix_nil.1 ha) hne⟩
    · intro h
      obtain ⟨⟨m, hm, hq⟩, -⟩ := h
      injection hm with hm
      subst hm
      exact congrArg some hq
  | cons i rest ih =>
    rw [below?_primitive_cons, NodePath.forall_above_cons]
    constructor
    · intro h
      obtain ⟨hslot, c, hc, h⟩ := h
      obtain ⟨⟨m, hm, hq⟩, hway⟩ := ih.1 h
      -- The way begins at the start and goes on through the child.
      refine ⟨⟨m, below?_cons.2 ⟨c, hc, hm⟩, hq⟩, fun m' hm' => ?_, fun a ha hne m' hm' => ?_⟩
      · injection hm' with hm'
        exact hm' ▸ hslot
      · obtain ⟨c', hc', hm'⟩ := below?_cons.1 hm'
        obtain rfl : c = c' := Option.some.inj (hc.symm.trans hc')
        exact hway a ha hne m' hm'
    · intro h
      obtain ⟨⟨m, hm, hq⟩, hstart, hway⟩ := h
      obtain ⟨c, hc, hm⟩ := below?_cons.1 hm
      refine ⟨hstart n rfl, c, hc, ih.2 ⟨⟨m, hm, hq⟩, fun a ha hne m' hm' => ?_⟩⟩
      exact hway a ha hne m' (below?_cons.2 ⟨c, hc, hm'⟩)

/-- A node that is not reached is hidden by one above it that has no slot for children. -/
theorem reached_or_hidden {n m : Node} {path : NodePath} (h : n.below? path = some m) :
    n.primitive.below? path = some m.primitive ∨ ∃ a q, a <+: path ∧ a ≠ path
      ∧ n.primitive.below? a = some q ∧ q.isContainer = false := by
  induction path generalizing n with
  | nil =>
    injection h with h
    exact .inl (h ▸ rfl)
  | cons i rest ih =>
    obtain ⟨c, hc, h⟩ := below?_cons.1 h
    cases hslot : n.frame.isContainer with
    | false =>
      refine .inr ⟨[], n.primitive, List.nil_prefix, (List.cons_ne_nil i rest).symm, rfl, ?_⟩
      rw [isContainer_primitive, hslot]
    | true =>
      rcases ih h with hreached | ⟨a, q, ha, hne, hq, hslot'⟩
      · exact .inl (below?_primitive_cons.2 ⟨hslot, c, hc, hreached⟩)
      · refine .inr ⟨i :: a, q, List.cons_prefix_cons.2 ⟨rfl, ha⟩, fun heq => ?_,
          below?_primitive_cons.2 ⟨hslot, c, hc, hq⟩, hslot'⟩
        exact hne (List.cons.inj heq).2

end Node

/-! ## §2. Primitives of a surface. -/

namespace Surface

theorem primitiveAt?_cons {s : Surface} {i : Nat} {rest : NodePath} {q : Primitive} :
    s.tree.primitiveAt? (i :: rest) = some q
      ↔ ∃ n, s.content[i]? = some n ∧ n.primitive.below? rest = some q := by
  show s.tree.nodes[i]?.bind (fun q => q.below? rest) = some q ↔ _
  rw [nodes_tree, List.getElem?_map]
  simp [Option.bind_eq_some_iff]

/-- **A path leads to the primitive of the node it leads to**, as long as every node on the way has
a slot for children. -/
theorem primitiveAt?_iff {s : Surface} {path : NodePath} {q : Primitive} :
    s.tree.primitiveAt? path = some q ↔ (∃ n, s.nodeAt? path = some n ∧ n.primitive = q)
      ∧ ∀ a, a <+: path → a ≠ path → ∀ n, s.nodeAt? a = some n → n.frame.isContainer = true := by
  cases path with
  | nil =>
    constructor
    · intro h
      cases h
    · intro h
      obtain ⟨⟨n, hn, -⟩, -⟩ := h
      cases hn
  | cons i rest =>
    rw [primitiveAt?_cons, NodePath.forall_above_cons]
    constructor
    · intro h
      obtain ⟨n, hn, h⟩ := h
      obtain ⟨⟨m, hm, hq⟩, hway⟩ := Node.below?_primitive.1 h
      refine ⟨⟨m, nodeAt?_cons.2 ⟨n, hn, hm⟩, hq⟩, nofun, fun a ha hne m' hm' => ?_⟩
      obtain ⟨n', hn', hm'⟩ := nodeAt?_cons.1 hm'
      obtain rfl : n = n' := Option.some.inj (hn.symm.trans hn')
      exact hway a ha hne m' hm'
    · intro h
      obtain ⟨⟨m, hm, hq⟩, -, hway⟩ := h
      obtain ⟨n, hn, hm⟩ := nodeAt?_cons.1 hm
      refine ⟨n, hn, Node.below?_primitive.2 ⟨⟨m, hm, hq⟩, fun a ha hne m' hm' => ?_⟩⟩
      exact hway a ha hne m' (nodeAt?_cons.2 ⟨n, hn, hm'⟩)

/-- A node that is not reached is hidden by one above it that has no slot for children. -/
theorem reached_or_hidden {s : Surface} {n : Node} {path : NodePath}
    (h : s.nodeAt? path = some n) : s.tree.primitiveAt? path = some n.primitive
      ∨ ∃ a q, a <+: path ∧ a ≠ path ∧ s.tree.primitiveAt? a = some q
        ∧ q.isContainer = false := by
  cases path with
  | nil => cases h
  | cons i rest =>
    obtain ⟨m, hm, h⟩ := nodeAt?_cons.1 h
    rcases Node.reached_or_hidden h with hreached | ⟨a, q, ha, hne, hq, hslot⟩
    · exact .inl (primitiveAt?_cons.2 ⟨m, hm, hreached⟩)
    · refine .inr ⟨i :: a, q, List.cons_prefix_cons.2 ⟨rfl, ha⟩, fun heq => ?_,
        primitiveAt?_cons.2 ⟨m, hm, hq⟩, hslot⟩
      exact hne (List.cons.inj heq).2

/-- There is a node at every path above one that leads to a node, the empty path apart. -/
theorem exists_nodeAt?_of_prefix {s : Surface} {a path : NodePath} {n : Node}
    (h : s.nodeAt? path = some n) (ha : a <+: path) (hne : a ≠ []) :
    ∃ m, s.nodeAt? a = some m := by
  obtain ⟨rest, rfl⟩ := ha
  rw [nodeAt?_append s hne, Option.bind_eq_some_iff] at h
  obtain ⟨m, hm, -⟩ := h
  exact ⟨m, hm⟩

/-- A node that is reached is visited: what has a slot for children is not defective. -/
theorem visited_of_primitiveAt? {s : Surface} {path : NodePath} {n : Node} {q : Primitive}
    (hn : s.nodeAt? path = some n) (hq : s.tree.primitiveAt? path = some q) :
    s.Visited path n where
  found := hn
  ancestors a ha hne m hm :=
    Node.defect_of_isContainer ((primitiveAt?_iff.1 hq).2 a ha hne m hm)

/-- The diagnostics at the path of a visited node are what there is to note about it. -/
theorem exists_diagnostic_iff_of_visited {s : Surface} {path : NodePath} {n : Node}
    (h : s.Visited path n) (P : DiagnosticKind → Prop) :
    (∃ d ∈ s.tree.diagnostics, d.path = path ∧ P d.kind)
      ↔ ∃ kind, n.diagnosis? = some kind ∧ P kind := by
  rw [exists_diagnostic_iff]
  constructor
  · intro hd
    obtain ⟨m, hm, hd⟩ := hd
    obtain rfl : n = m := Option.some.inj (h.found.symm.trans hm.found)
    exact hd
  · exact fun hd => ⟨n, h, hd⟩

/-! ## §3. The mirror. -/

/-- **What the primitive at a path says about the node there**, and about the diagnostics. -/
structure Portrays (t : RenderTree) (path : NodePath) (n : Node) (q : Primitive) : Prop where
  /-- A container has the primitives of all children of the node, in their order. -/
  children : q.isContainer = true → q.children = n.children.map Node.primitive
  /-- It is a fallback exactly if an unknown type is noted at the path. -/
  fallback_iff : (∃ tag props children, q = .fallback tag props children)
    ↔ ∃ d ∈ t.diagnostics, d.path = path ∧ d.kind = .unknownType
  /-- A fallback has the tag and the properties of the node. -/
  fallback_eq : ∀ tag props children, q = .fallback tag props children →
    tag = n.tag ∧ props = n.props
  /-- It is a failure exactly if one is noted at the path. -/
  failed_iff : (∃ tag fault, q = .failed tag fault)
    ↔ ∃ d ∈ t.diagnostics, d.path = path ∧ ∃ fault, d.kind = .renderFailure fault
  /-- A failure has the tag of the node and the message of the diagnostic. -/
  failed_eq : ∀ tag fault, q = .failed tag fault → tag = n.tag
    ∧ ∀ d ∈ t.diagnostics, d.path = path → d.message = fault.message
  /-- It is the variant that the tag of the node names if nothing is noted at the path. -/
  named : (∀ d ∈ t.diagnostics, d.path ≠ path) → q.vocabularyTag? = some n.tag

/-- **How the render tree of a surface mirrors its nodes.** -/
structure Mirrored (s : Surface) (t : RenderTree) : Prop where
  /-- A path leads to a primitive exactly if it leads to a node and each proper ancestor of it was
  rendered to a container. -/
  reached : ∀ path, (∃ q, t.primitiveAt? path = some q) ↔ (∃ n, s.nodeAt? path = some n)
    ∧ ∀ a, a <+: path → a ≠ [] → a ≠ path →
      ∃ q, t.primitiveAt? a = some q ∧ q.isContainer = true
  /-- Each primitive that is reached portrays the node at its path. -/
  portrays : ∀ path n q, s.nodeAt? path = some n → t.primitiveAt? path = some q →
    Portrays t path n q
  /-- No placeholder is shown without a diagnostic. -/
  noted : ∀ path q, t.primitiveAt? path = some q → q.isPlaceholder = true →
    ∃ d ∈ t.diagnostics, d.path = path
  /-- A diagnostic is invisible only below an ancestor that has no slot for children. -/
  hidden : ∀ d ∈ t.diagnostics, t.primitiveAt? d.path = none → ∃ a q, a <+: d.path ∧ a ≠ d.path
    ∧ t.primitiveAt? a = some q ∧ q.isContainer = false

/-- **A node that is visited is portrayed by what it is rendered to.** -/
theorem portrays_primitive {s : Surface} {path : NodePath} {n : Node} (h : s.Visited path n) :
    Portrays s.tree path n n.primitive := by
  -- Nodes, primitives and diagnostics tell the same.
  have hnoted : ∀ P : DiagnosticKind → Prop, (∃ d ∈ s.tree.diagnostics, d.path = path ∧ P d.kind)
      ↔ ∃ kind, n.primitive.diagnosis? = some kind ∧ P kind := by
    intro P
    rw [Node.diagnosis?_primitive, exists_diagnostic_iff_of_visited h]
  exact {
    children := by
      rw [Node.isContainer_primitive, Node.children_primitive]
      exact fun hslot => if_pos hslot
    fallback_iff := by
      rw [hnoted (· = .unknownType)]
      cases n.primitive <;> simp [Primitive.diagnosis?]
    fallback_eq := by
      intro tag props children hq
      have hunknown : n.diagnosis? = some .unknownType := by
        rw [← Node.diagnosis?_primitive, hq]
        rfl
      rw [Node.primitive_eq, Node.frame_of_unknownType hunknown] at hq
      cases hq
      exact ⟨rfl, rfl⟩
    failed_iff := by
      rw [hnoted fun kind => ∃ fault, kind = .renderFailure fault]
      cases n.primitive <;> simp [Primitive.diagnosis?]
    failed_eq := by
      intro tag fault hq
      have hfailed : n.diagnosis? = some (.renderFailure fault) := by
        rw [← Node.diagnosis?_primitive, hq]
        rfl
      rw [Node.primitive_eq, Node.frame_of_renderFailure hfailed] at hq
      cases hq
      refine ⟨rfl, fun d hd hpath => ?_⟩
      -- There is one node at the path, and one thing to note about it.
      obtain ⟨m, hm, -, hkind⟩ := mem_tree.1 hd
      obtain rfl : n = m := Option.some.inj (h.found.symm.trans (hpath ▸ hm.found))
      rw [hfailed] at hkind
      injection hkind with hkind
      rw [Diagnostic.message, ← hkind]
    named := by
      intro hnone
      have hquiet : n.diagnosis? = none := by
        cases hd : n.diagnosis? with
        | none => rfl
        | some kind =>
          rw [← Node.diagnosis?_primitive] at hd
          obtain ⟨d, hmem, hpath, -⟩ := (hnoted fun _ => True).2 ⟨kind, hd, trivial⟩
          exact absurd hpath (hnone d hmem)
      rw [Node.primitive_eq, Primitive.vocabularyTag?_withChildren, Node.frame_of_quiet hquiet] }

/-- What is reached at a path is what the node there is rendered to. -/
theorem primitive_of_primitiveAt? {s : Surface} {path : NodePath} {n : Node} {q : Primitive}
    (hn : s.nodeAt? path = some n) (hq : s.tree.primitiveAt? path = some q) :
    n.primitive = q := by
  obtain ⟨⟨m, hm, rfl⟩, -⟩ := primitiveAt?_iff.1 hq
  rw [Option.some.inj (hn.symm.trans hm)]

/-- A path leads to a primitive exactly if it leads to a node below containers only. -/
theorem reached_iff {s : Surface} {path : NodePath} : (∃ q, s.tree.primitiveAt? path = some q)
    ↔ (∃ n, s.nodeAt? path = some n) ∧ ∀ a, a <+: path → a ≠ [] → a ≠ path →
      ∃ q, s.tree.primitiveAt? a = some q ∧ q.isContainer = true := by
  constructor
  · intro h
    obtain ⟨q, hq⟩ := h
    obtain ⟨⟨n, hn, -⟩, hway⟩ := primitiveAt?_iff.1 hq
    refine ⟨⟨n, hn⟩, fun a ha hnil hne => ?_⟩
    obtain ⟨m, hm⟩ := exists_nodeAt?_of_prefix hn ha hnil
    refine ⟨m.primitive, primitiveAt?_iff.2 ⟨⟨m, hm, rfl⟩, fun b hb hne' => ?_⟩, ?_⟩
    -- What is above an ancestor is above the path, too.
    · refine hway b (hb.trans ha) fun heq => ?_
      subst heq
      exact hne (ha.eq_of_length_le hb.length_le)
    · rw [Node.isContainer_primitive]
      exact hway a ha hne m hm
  · intro h
    obtain ⟨⟨n, hn⟩, hway⟩ := h
    refine ⟨n.primitive, primitiveAt?_iff.2 ⟨⟨n, hn, rfl⟩, fun a ha hne m hm => ?_⟩⟩
    have hnil : a ≠ [] := by
      rintro rfl
      cases hm
    obtain ⟨q, hq, hslot⟩ := hway a ha hnil hne
    rw [← primitive_of_primitiveAt? hm hq, Node.isContainer_primitive] at hslot
    exact hslot

/-- **The render tree of a surface mirrors its nodes**, and its placeholders match the
diagnostics. -/
theorem mirrored_tree (s : Surface) : s.Mirrored s.tree where
  reached _ := reached_iff
  portrays path n q hn hq := by
    obtain rfl := primitive_of_primitiveAt? hn hq
    exact portrays_primitive (visited_of_primitiveAt? hn hq)
  noted path q hq hplaceholder := by
    obtain ⟨⟨n, hn, rfl⟩, -⟩ := primitiveAt?_iff.1 hq
    rw [Primitive.isPlaceholder_eq_isSome, Node.diagnosis?_primitive,
      Option.isSome_iff_exists] at hplaceholder
    obtain ⟨kind, hkind⟩ := hplaceholder
    have hvisited := visited_of_primitiveAt? hn hq
    obtain ⟨d, hd, hpath, -⟩ :=
      (exists_diagnostic_iff_of_visited hvisited fun _ => True).2 ⟨kind, hkind, trivial⟩
    exact ⟨d, hd, hpath⟩
  hidden d hd hnone := by
    obtain ⟨n, hvisited, -⟩ := mem_tree.1 hd
    rcases reached_or_hidden hvisited.found with hreached | hhidden
    · rw [hreached] at hnone
      cases hnone
    · exact hhidden

end Surface

end SurfaceStudio
