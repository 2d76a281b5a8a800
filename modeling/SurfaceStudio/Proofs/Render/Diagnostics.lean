import SurfaceStudio.Proofs.Render.Strategies
import SurfaceStudio.Proofs.Surface.Nodes
import SurfaceStudio.Render.Walk

/-!
# What diagnostics say

Rendering notes every node that has no strategy or could not be rendered, wherever in the tree it
stands, and never looks into a defective node.  The order of the notes tells an unknown tag, which
is noted before the children, from a failure, which is noted after them.

  • `Surface.Visited` — the nodes that rendering gets to, by their paths,
  • `Node.diagnosis?` — what there is to note about a node alone,
  • `Node.mem_render`, `Node.pairwise_render` — **the notes on a tree and their order**,
  • `Surface.Diagnosed`, `Surface.diagnosed_tree` — **the diagnostics of a surface**.
-/

namespace SurfaceStudio

/-! ## §1. Nodes at paths. -/

/-- Above a path stand the beginning of all paths and whatever is above the rest. -/
theorem NodePath.forall_above_cons {P : NodePath → Prop} {i : Nat} {rest : NodePath} :
    (∀ a, a <+: i :: rest → a ≠ i :: rest → P a)
      ↔ P [] ∧ ∀ a, a <+: rest → a ≠ rest → P (i :: a) := by
  constructor
  · intro h
    refine ⟨h [] List.nil_prefix (List.cons_ne_nil i rest).symm, fun a ha hne => ?_⟩
    exact h (i :: a) (List.cons_prefix_cons.2 ⟨rfl, ha⟩) fun heq => hne (List.cons.inj heq).2
  · intro h a ha hne
    cases a with
    | nil => exact h.1
    | cons j a =>
      obtain ⟨rfl, hrest⟩ := List.cons_prefix_cons.1 ha
      exact h.2 a hrest fun heq => hne (heq ▸ rfl)

namespace Node

/-- The node that child indices lead to. -/
def below? (n : Node) : NodePath → Option Node
  | [] => some n
  | i :: rest => n.children[i]?.bind fun c => c.below? rest

/-- Child indices lead to a node, and none of the nodes on the way is defective. -/
inductive Visits : Node → NodePath → Node → Prop
  | here (n : Node) : Visits n [] n
  | child {n c m : Node} {i : Nat} {rest : NodePath} (sound : n.defect = none)
    (h : n.children[i]? = some c) (below : Visits c rest m) : Visits n (i :: rest) m

theorem below?_cons {n m : Node} {i : Nat} {rest : NodePath} : n.below? (i :: rest) = some m
    ↔ ∃ c, n.children[i]? = some c ∧ c.below? rest = some m :=
  Option.bind_eq_some_iff

theorem below?_append (n : Node) (path rest : NodePath) :
    n.below? (path ++ rest) = (n.below? path).bind fun m => m.below? rest := by
  induction path generalizing n with
  | nil => rfl
  | cons i path ih =>
    rw [List.cons_append, below?, below?, Option.bind_assoc]
    exact Option.bind_congr fun c _ => ih c

/-- A node is visited exactly if none of its proper ancestors is defective. -/
theorem visits_iff {n m : Node} {path : NodePath} : n.Visits path m ↔ n.below? path = some m
    ∧ ∀ q, q <+: path → q ≠ path → ∀ a, n.below? q = some a → a.defect = none := by
  -- The path is followed downwards, so the statement is made of every node it may start at.
  induction path generalizing n with
  | nil =>
    constructor
    · intro h
      cases h
      exact ⟨rfl, fun q hq hne => absurd (List.prefix_nil.1 hq) hne⟩
    · intro h
      obtain ⟨h, -⟩ := h
      injection h with h
      exact h ▸ .here n
  | cons i rest ih =>
    rw [below?_cons, NodePath.forall_above_cons]
    constructor
    · intro h
      cases h with
      | @child _ c _ _ _ sound hc below =>
        obtain ⟨hbelow, hancestors⟩ := ih.1 below
        -- The proper ancestors are the node at the start and those on the rest of the path.
        refine ⟨⟨c, hc, hbelow⟩, fun a ha => ?_, fun q hq hne a ha => ?_⟩
        · injection ha with ha
          exact ha ▸ sound
        · obtain ⟨c', hc', ha⟩ := below?_cons.1 ha
          obtain rfl : c = c' := Option.some.inj (hc.symm.trans hc')
          exact hancestors q hq hne a ha
    · intro h
      obtain ⟨⟨c, hc, hbelow⟩, hstart, hrest⟩ := h
      refine .child (hstart n rfl) hc (ih.2 ⟨hbelow, fun q hq hne a ha => ?_⟩)
      exact hrest q hq hne a (below?_cons.2 ⟨c, hc, ha⟩)

end Node

namespace Surface

/-- The node at a path from the top of a surface. -/
def nodeAt? (s : Surface) : NodePath → Option Node
  | [] => none
  | i :: rest => s.content[i]?.bind fun n => n.below? rest

/-- **Rendering gets to the node at a path**: no proper ancestor of it is defective. -/
structure Visited (s : Surface) (path : NodePath) (n : Node) : Prop where
  found : s.nodeAt? path = some n
  ancestors : ∀ q, q <+: path → q ≠ path → ∀ a, s.nodeAt? q = some a → a.defect = none

theorem nodeAt?_cons {s : Surface} {m : Node} {i : Nat} {rest : NodePath} :
    s.nodeAt? (i :: rest) = some m ↔ ∃ n, s.content[i]? = some n ∧ n.below? rest = some m :=
  Option.bind_eq_some_iff

/-- A path leads on from every node that its beginning leads to. -/
theorem nodeAt?_append (s : Surface) {path : NodePath} (h : path ≠ []) (rest : NodePath) :
    s.nodeAt? (path ++ rest) = (s.nodeAt? path).bind fun m => m.below? rest := by
  cases path with
  | nil => exact absurd rfl h
  | cons i path =>
    rw [List.cons_append, nodeAt?, nodeAt?, Option.bind_assoc]
    exact Option.bind_congr fun n _ => n.below?_append path rest

theorem visited_iff {s : Surface} {path : NodePath} {m : Node} : s.Visited path m
    ↔ ∃ i n rest, path = i :: rest ∧ s.content[i]? = some n ∧ n.Visits rest m := by
  constructor
  · intro h
    obtain ⟨hfound, hancestors⟩ := h
    cases path with
    | nil => cases hfound
    | cons i rest =>
      obtain ⟨n, hn, hbelow⟩ := nodeAt?_cons.1 hfound
      obtain ⟨-, hrest⟩ := NodePath.forall_above_cons.1 hancestors
      refine ⟨i, n, rest, rfl, hn, Node.visits_iff.2 ⟨hbelow, fun q hq hne a ha => ?_⟩⟩
      exact hrest q hq hne a (nodeAt?_cons.2 ⟨n, hn, ha⟩)
  · intro h
    obtain ⟨i, n, rest, rfl, hn, hvisits⟩ := h
    obtain ⟨hbelow, hancestors⟩ := Node.visits_iff.1 hvisits
    refine ⟨nodeAt?_cons.2 ⟨n, hn, hbelow⟩, NodePath.forall_above_cons.2 ⟨nofun, ?_⟩⟩
    intro q hq hne a ha
    obtain ⟨n', hn', ha⟩ := nodeAt?_cons.1 ha
    obtain rfl : n = n' := Option.some.inj (hn.symm.trans hn')
    exact hancestors q hq hne a ha

end Surface

/-! ## §2. What there is to note about a node. -/

namespace Node

/-- What there is to note about a node, whatever its children are. -/
def diagnosis? (n : Node) : Option DiagnosticKind :=
  match n.defect with
  | some d => some (.renderFailure (.malformed d.fault))
  | none =>
    if (Strategy.ofTag n.tag).isUnknown then some .unknownType
    else
      match (Strategy.ofTag n.tag).apply n.props [] with
      | .ok _ => none
      | .error fault => some (.renderFailure fault)

theorem diagnosis?_of_defect {n : Node} {d : Defect} (h : n.defect = some d) :
    n.diagnosis? = some (.renderFailure (.malformed d.fault)) := by
  rw [diagnosis?, h]

theorem diagnosis?_eq_unknownType_iff {n : Node} : n.diagnosis? = some .unknownType
    ↔ n.defect = none ∧ n.tag ∉ Strategy.vocabulary := by
  rw [← Strategy.isUnknown_ofTag]
  unfold diagnosis?
  cases n.defect with
  | some d => simp
  | none =>
    cases (Strategy.ofTag n.tag).isUnknown with
    | true => simp
    | false => cases (Strategy.ofTag n.tag).apply n.props [] <;> simp

theorem diagnosis?_eq_renderFailure_iff {n : Node} {fault : RenderFault} :
    n.diagnosis? = some (.renderFailure fault)
      ↔ (∃ d, n.defect = some d ∧ fault = .malformed d.fault)
        ∨ (n.defect = none ∧ n.tag ∈ Strategy.vocabulary
          ∧ (Strategy.ofTag n.tag).Rejects n.props fault) := by
  cases hd : n.defect with
  | some d =>
    rw [diagnosis?_of_defect hd]
    constructor
    · intro h
      cases h
      exact .inl ⟨d, rfl, rfl⟩
    · intro h
      rcases h with ⟨_, ⟨⟩, rfl⟩ | ⟨⟨⟩, -⟩
      rfl
  | none =>
    have htag := Strategy.isUnknown_ofTag n.tag
    rw [diagnosis?, hd]
    dsimp only
    -- The fallback takes everything, so a strategy that fails is one of the vocabulary.
    by_cases hunknown : (Strategy.ofTag n.tag).isUnknown = true
    · rw [if_pos hunknown]
      constructor
      · intro h
        cases h
      · intro h
        rcases h with ⟨_, ⟨⟩, -⟩ | ⟨-, hmem, -⟩
        exact absurd hmem (htag.1 hunknown)
    · rw [if_neg hunknown]
      have hmem : n.tag ∈ Strategy.vocabulary := by
        by_cases hmem : n.tag ∈ Strategy.vocabulary
        · exact hmem
        · exact absurd (htag.2 hmem) hunknown
      cases happly : (Strategy.ofTag n.tag).apply n.props [] with
      | ok primitive =>
        constructor
        · intro h
          cases h
        · intro h
          rcases h with ⟨_, ⟨⟩, -⟩ | ⟨-, -, hrejects⟩
          rw [hrejects] at happly
          cases happly
      | error fault' =>
        constructor
        · intro h
          cases h
          exact .inr ⟨rfl, hmem, Strategy.rejects_of_apply happly⟩
        · intro h
          rcases h with ⟨_, ⟨⟩, -⟩ | ⟨-, -, hrejects⟩
          rw [hrejects] at happly
          injection happly with happly
          rw [happly]

end Node

/-! ## §3. Notes. -/

/-- The notes on a node and on what is inside it: an unknown tag is noted first, a failure last. -/
def notesAt (path : NodePath) (tag : String) (inner : List Diagnostic) :
    Option DiagnosticKind → List Diagnostic
  | none => inner
  | some .unknownType => ⟨path, tag, .unknownType⟩ :: inner
  | some (.renderFailure fault) => inner ++ [⟨path, tag, .renderFailure fault⟩]

theorem mem_notesAt {d : Diagnostic} {path : NodePath} {tag : String} {inner : List Diagnostic}
    {kind? : Option DiagnosticKind} : d ∈ notesAt path tag inner kind?
      ↔ (∃ kind, kind? = some kind ∧ d = ⟨path, tag, kind⟩) ∨ d ∈ inner := by
  cases kind? with
  | none => simp [notesAt]
  | some kind =>
    cases kind with
    | unknownType => simp [notesAt]
    | renderFailure fault => simp [notesAt, or_comm]

namespace Node

theorem diagnostics_of_defect {n : Node} {d : Defect} (h : n.defect = some d) (path : NodePath) :
    (n.render path).diagnostics = notesAt path n.tag [] n.diagnosis? := by
  rw [diagnosis?_of_defect h]
  -- The walk takes the node apart, so its fields have to be in sight.
  obtain ⟨tag, props, children, extra, propsForm, childrenForm, defect⟩ := n
  subst h
  rw [render]
  rfl

/-- An unknown tag is noted before the children, whose notes follow; the fallback never fails. -/
theorem diagnostics_of_unknown {tag : String} (h : (Strategy.ofTag tag).isUnknown = true)
    (path : NodePath) (props : Members) (children : Rendered (List Primitive)) :
    (assembleAt path tag props children).diagnostics
      = ⟨path, tag, .unknownType⟩ :: children.diagnostics := by
  have hresolve : resolveAt path tag
      = ⟨Strategy.ofTag tag, [⟨path, tag, .unknownType⟩], [unknownRecord tag path]⟩ := if_pos h
  rw [assembleAt, hresolve]
  dsimp only
  cases happly : (Strategy.ofTag tag).apply props children.result with
  | ok primitive => rfl
  | error fault =>
    exact absurd (Strategy.rejects_of_apply happly) (Strategy.not_rejects_of_isUnknown h _ _)

/-- A failure is noted behind the notes on the children. -/
theorem diagnostics_of_known {tag : String} (h : ¬ (Strategy.ofTag tag).isUnknown = true)
    (path : NodePath) (props : Members) (children : Rendered (List Primitive)) :
    (assembleAt path tag props children).diagnostics
      = match (Strategy.ofTag tag).apply props [] with
        | .ok _ => children.diagnostics
        | .error fault => children.diagnostics ++ [⟨path, tag, .renderFailure fault⟩] := by
  have hresolve : resolveAt path tag = ⟨Strategy.ofTag tag, [], []⟩ := if_neg h
  rw [assembleAt, hresolve]
  dsimp only
  cases happly : (Strategy.ofTag tag).apply props children.result with
  | error fault =>
    rw [Strategy.rejects_of_apply happly []]
    rfl
  -- Where the strategy takes the properties with these children, it takes them with none.
  | ok primitive =>
    cases hempty : (Strategy.ofTag tag).apply props [] with
    | ok _ => rfl
    | error fault =>
      rw [Strategy.rejects_of_apply hempty children.result] at happly
      cases happly

/-- **The notes on a node without a defect** are those on its children and its own. -/
theorem diagnostics_of_sound {n : Node} (h : n.defect = none) (path : NodePath) :
    (n.render path).diagnostics
      = notesAt path n.tag (renderList path 0 n.children).diagnostics n.diagnosis? := by
  rw [diagnosis?, h]
  obtain ⟨tag, props, children, extra, propsForm, childrenForm, defect⟩ := n
  subst h
  rw [render]
  dsimp only
  by_cases hunknown : (Strategy.ofTag tag).isUnknown = true
  · rw [diagnostics_of_unknown hunknown, if_pos hunknown]
    rfl
  · rw [diagnostics_of_known hunknown, if_neg hunknown]
    cases (Strategy.ofTag tag).apply props [] with
    | ok primitive => rfl
    | error fault => rfl

theorem mem_renderList {d : Diagnostic} {path : NodePath} {index : Nat} {ns : List Node} :
    d ∈ (renderList path index ns).diagnostics
      ↔ ∃ (i : Nat) (n : Node), ns[i]? = some n
        ∧ d ∈ (n.render (path ++ [index + i])).diagnostics := by
  induction ns generalizing index with
  | nil => simp [renderList]
  | cons n ns ih =>
    rw [renderList]
    dsimp only
    rw [List.mem_append, ih]
    constructor
    · intro h
      rcases h with h | ⟨i, m, hm, h⟩
      · exact ⟨0, n, rfl, h⟩
      · refine ⟨i + 1, m, hm, ?_⟩
        rwa [Nat.add_right_comm] at h
    · intro h
      obtain ⟨i, m, hm, h⟩ := h
      cases i with
      | zero =>
        injection hm with hm
        exact .inl (hm ▸ h)
      | succ i =>
        refine .inr ⟨i, m, hm, ?_⟩
        rwa [Nat.add_right_comm]

/-- **The notes on a tree**: a note is made exactly of the nodes that are visited and that there is
something to note about. -/
theorem mem_render {d : Diagnostic} {n : Node} {path : NodePath} :
    d ∈ (n.render path).diagnostics ↔ ∃ rest m, n.Visits rest m ∧ d.path = path ++ rest
      ∧ d.tag = m.tag ∧ m.diagnosis? = some d.kind := by
  -- By the tree, for all paths at once: the children are rendered at longer ones.
  induction n using Node.induction generalizing path with
  | node n ih =>
    -- The note on the node itself has the path of the node and nothing behind it.
    have hown : (∃ kind, n.diagnosis? = some kind ∧ d = ⟨path, n.tag, kind⟩)
        ↔ d.path = path ∧ d.tag = n.tag ∧ n.diagnosis? = some d.kind := by
      constructor
      · intro h
        obtain ⟨kind, hkind, rfl⟩ := h
        exact ⟨rfl, rfl, hkind⟩
      · intro h
        obtain ⟨hpath, htag, hkind⟩ := h
        exact ⟨d.kind, hkind, by rw [← hpath, ← htag]⟩
    cases hd : n.defect with
    | some defect =>
      -- A defective node is not looked into, and nothing inside it is visited.
      rw [diagnostics_of_defect hd, mem_notesAt, hown]
      constructor
      · intro h
        rcases h with ⟨hpath, htag, hkind⟩ | h
        · exact ⟨[], n, .here n, by rw [List.append_nil, hpath], htag, hkind⟩
        · cases h
      · intro h
        obtain ⟨rest, m, hvisits, hpath, htag, hkind⟩ := h
        cases hvisits with
        | here =>
          rw [List.append_nil] at hpath
          exact .inl ⟨hpath, htag, hkind⟩
        | child sound _ _ =>
          rw [hd] at sound
          cases sound
    | none =>
      rw [diagnostics_of_sound hd, mem_notesAt, hown, mem_renderList]
      constructor
      · intro h
        rcases h with ⟨hpath, htag, hkind⟩ | ⟨i, c, hc, hmem⟩
        · exact ⟨[], n, .here n, by rw [List.append_nil, hpath], htag, hkind⟩
        -- The path goes on with the index of the child that the note comes from.
        · obtain ⟨rest, m, hvisits, hpath, hnote⟩ := (ih c (List.mem_of_getElem? hc)).1 hmem
          refine ⟨i :: rest, m, .child hd hc hvisits, ?_, hnote⟩
          rw [hpath, Nat.zero_add, List.append_assoc]
          rfl
      · intro h
        obtain ⟨rest, m, hvisits, hpath, htag, hkind⟩ := h
        cases hvisits with
        | here =>
          rw [List.append_nil] at hpath
          exact .inl ⟨hpath, htag, hkind⟩
        | @child _ c _ i rest sound hc below =>
          have hmem := List.mem_of_getElem? hc
          refine .inr ⟨i, c, hc, (ih c hmem).2 ⟨rest, m, below, ?_, htag, hkind⟩⟩
          rw [hpath, Nat.zero_add, List.append_assoc]
          rfl

end Node

/-! ## §4. The order of notes. -/

/-- **How one note stands before another**: further left, if neither node is an ancestor of the
other; an ancestor first if its tag is unknown; a descendant first if the ancestor failed. -/
inductive Diagnostic.Before (d e : Diagnostic) : Prop
  | beside (h : ¬ d.path <+: e.path) (h' : ¬ e.path <+: d.path) (lt : d.path < e.path)
  | above (h : d.path <+: e.path) (hne : d.path ≠ e.path) (hkind : d.kind = .unknownType)
  | below (h : e.path <+: d.path) (hne : d.path ≠ e.path) (hkind : e.kind ≠ .unknownType)

theorem Diagnostic.Before.ne {d e : Diagnostic} (h : d.Before e) : d.path ≠ e.path := by
  cases h with
  | beside h _ _ => exact fun heq => h (heq ▸ List.prefix_refl _)
  | above _ hne _ => exact hne
  | below _ hne _ => exact hne

/-- Of two notes on nodes side by side the one further left stands first. -/
theorem Diagnostic.Before.lt {d e : Diagnostic} (h : d.Before e) (hde : ¬ d.path <+: e.path)
    (hed : ¬ e.path <+: d.path) : d.path < e.path := by
  cases h with
  | beside _ _ lt => exact lt
  | above h _ _ => exact absurd h hde
  | below h _ _ => exact absurd h hed

/-- A note on an ancestor stands first only if it is of an unknown tag. -/
theorem Diagnostic.Before.unknown {d e : Diagnostic} (h : d.Before e) (hde : d.path <+: e.path) :
    d.kind = .unknownType := by
  cases h with
  | beside h _ _ => exact absurd hde h
  | above _ _ hkind => exact hkind
  | below hed hne _ => exact absurd (hde.eq_of_length_le hed.length_le) hne

/-- A note on an ancestor stands last only if it is of a failure. -/
theorem Diagnostic.Before.failed {d e : Diagnostic} (h : e.Before d) (hde : d.path <+: e.path) :
    d.kind ≠ .unknownType := by
  cases h with
  | beside _ h _ => exact absurd hde h
  | above hed hne _ => exact absurd (hed.eq_of_length_le hde.length_le) hne
  | below _ _ hkind => exact hkind

theorem lt_of_index_lt {i j : Nat} (h : i < j) (path u v : NodePath) :
    path ++ i :: u < path ++ j :: v := by
  induction path with
  | nil => exact List.cons_lt_cons_iff.2 (.inl h)
  | cons k path ih => exact List.cons_lt_cons_iff.2 (.inr ⟨rfl, ih⟩)

theorem not_prefix_of_index_ne {i j : Nat} (h : i ≠ j) (path u v : NodePath) :
    ¬ path ++ i :: u <+: path ++ j :: v := by
  rw [List.prefix_append_right_inj, List.cons_prefix_cons]
  exact fun hprefix => h hprefix.1

/-- Notes below different children of a node stand in the order of the children. -/
theorem before_of_index_lt {d e : Diagnostic} {i j : Nat} (h : i < j) {path u v : NodePath}
    (hd : d.path = path ++ i :: u) (he : e.path = path ++ j :: v) : d.Before e := by
  refine .beside ?_ ?_ ?_
  · rw [hd, he]
    exact not_prefix_of_index_ne (Nat.ne_of_lt h) path u v
  · rw [hd, he]
    exact not_prefix_of_index_ne (Nat.ne_of_gt h) path v u
  · rw [hd, he]
    exact lt_of_index_lt h path u v

theorem pairwise_notesAt {path : NodePath} {inner : List Diagnostic} (tag : String)
    (kind? : Option DiagnosticKind) (hinner : inner.Pairwise Diagnostic.Before)
    (hpath : ∀ d ∈ inner, path <+: d.path ∧ path ≠ d.path) :
    (notesAt path tag inner kind?).Pairwise Diagnostic.Before := by
  cases kind? with
  | none => exact hinner
  | some kind =>
    cases kind with
    | unknownType =>
      refine List.pairwise_cons.2 ⟨fun d hd => ?_, hinner⟩
      exact .above (hpath d hd).1 (hpath d hd).2 rfl
    | renderFailure fault =>
      refine List.pairwise_append.2 ⟨hinner, List.pairwise_singleton _ _, fun d hd e he => ?_⟩
      rw [List.mem_singleton.1 he]
      exact .below (hpath d hd).1 (hpath d hd).2.symm nofun

namespace Node

/-- A note on the children of a node has a path through one of them. -/
theorem exists_path_of_mem {d : Diagnostic} {path : NodePath} {index : Nat} {ns : List Node}
    (h : d ∈ (renderList path index ns).diagnostics) :
    ∃ i rest, index ≤ i ∧ d.path = path ++ i :: rest := by
  obtain ⟨i, n, -, h⟩ := mem_renderList.1 h
  obtain ⟨rest, -, -, hpath, -⟩ := mem_render.1 h
  refine ⟨index + i, rest, Nat.le_add_right _ _, ?_⟩
  rw [hpath, List.append_assoc]
  rfl

theorem pairwise_renderList {ns : List Node}
    (h : ∀ n ∈ ns, ∀ path, (n.render path).diagnostics.Pairwise Diagnostic.Before)
    (path : NodePath) (index : Nat) :
    (renderList path index ns).diagnostics.Pairwise Diagnostic.Before := by
  induction ns generalizing index with
  | nil => exact .nil
  | cons n ns ih =>
    rw [renderList]
    have hothers := ih (fun n' hn' => h n' (List.mem_cons_of_mem _ hn')) (index + 1)
    -- The notes on the first node have a smaller index in their paths than all others.
    refine List.pairwise_append.2 ⟨h n List.mem_cons_self _, hothers, fun d hd e he => ?_⟩
    obtain ⟨rest, -, -, hpath, -⟩ := mem_render.1 hd
    obtain ⟨j, rest', hj, hpath'⟩ := exists_path_of_mem he
    rw [List.append_assoc] at hpath
    exact before_of_index_lt hj hpath hpath'

/-- **The order of the notes on a tree.** -/
theorem pairwise_render (n : Node) (path : NodePath) :
    (n.render path).diagnostics.Pairwise Diagnostic.Before := by
  induction n using Node.induction generalizing path with
  | node n ih =>
    cases hd : n.defect with
    | some defect =>
      rw [diagnostics_of_defect hd]
      exact pairwise_notesAt n.tag n.diagnosis? .nil fun _ h => nomatch h
    | none =>
      rw [diagnostics_of_sound hd]
      refine pairwise_notesAt n.tag n.diagnosis? (pairwise_renderList ih path 0) fun d hmem => ?_
      obtain ⟨i, rest, -, hpath⟩ := exists_path_of_mem hmem
      rw [hpath]
      -- A path through a child is longer than that of the node.
      refine ⟨List.prefix_append _ _, fun heq => ?_⟩
      have hlength := congrArg List.length heq
      rw [List.length_append, List.length_cons] at hlength
      omega

end Node

/-! ## §5. The diagnostics of a surface. -/

namespace Surface

/-- A diagnostic is made exactly of the nodes that are visited and that there is something to note
about. -/
theorem mem_tree {s : Surface} {d : Diagnostic} : d ∈ s.tree.diagnostics
    ↔ ∃ n, s.Visited d.path n ∧ d.tag = n.tag ∧ n.diagnosis? = some d.kind := by
  show d ∈ (Node.renderList [] 0 s.content).diagnostics ↔ _
  rw [Node.mem_renderList]
  constructor
  · intro h
    obtain ⟨i, n, hn, hmem⟩ := h
    obtain ⟨rest, m, hvisits, hpath, hnote⟩ := Node.mem_render.1 hmem
    rw [Nat.zero_add] at hpath
    exact ⟨m, visited_iff.2 ⟨i, n, rest, hpath, hn, hvisits⟩, hnote⟩
  · intro h
    obtain ⟨m, hvisited, hnote⟩ := h
    obtain ⟨i, n, rest, hpath, hn, hvisits⟩ := visited_iff.1 hvisited
    refine ⟨i, n, hn, Node.mem_render.2 ⟨rest, m, hvisits, ?_, hnote⟩⟩
    rw [Nat.zero_add]
    exact hpath

theorem pairwise_tree (s : Surface) : s.tree.diagnostics.Pairwise Diagnostic.Before :=
  Node.pairwise_renderList (fun n _ => n.pairwise_render) [] 0

/-- A diagnostic of one kind or another at a path means that there is a node to note there. -/
theorem exists_diagnostic_iff {s : Surface} {path : NodePath} (P : DiagnosticKind → Prop) :
    (∃ d ∈ s.tree.diagnostics, d.path = path ∧ P d.kind)
      ↔ ∃ n, s.Visited path n ∧ ∃ kind, n.diagnosis? = some kind ∧ P kind := by
  constructor
  · intro h
    obtain ⟨d, hmem, rfl, hkind⟩ := h
    obtain ⟨n, hvisited, -, hnote⟩ := mem_tree.1 hmem
    exact ⟨n, hvisited, d.kind, hnote, hkind⟩
  · intro h
    obtain ⟨n, hvisited, kind, hnote, hkind⟩ := h
    exact ⟨⟨path, n.tag, kind⟩, mem_tree.2 ⟨n, hvisited, rfl, hnote⟩, rfl, hkind⟩

/-- **What the diagnostics of a surface are.** -/
structure Diagnosed (s : Surface) (diagnostics : List Diagnostic) : Prop where
  /-- An unknown type is noted exactly at the nodes that are visited, not defective, and have a
  tag outside the vocabulary. -/
  unknown : ∀ path, (∃ d ∈ diagnostics, d.path = path ∧ d.kind = .unknownType)
    ↔ ∃ n, s.Visited path n ∧ n.defect = none ∧ n.tag ∉ Strategy.vocabulary
  /-- A failure is noted exactly at the nodes that are visited and are defective, or have a tag
  whose strategy rejects their properties. -/
  failed : ∀ path, (∃ d ∈ diagnostics, d.path = path ∧ ∃ fault, d.kind = .renderFailure fault)
    ↔ ∃ n, s.Visited path n ∧ (n.defect ≠ none ∨ (n.tag ∈ Strategy.vocabulary
      ∧ ∃ fault, (Strategy.ofTag n.tag).Rejects n.props fault))
  /-- No path is noted twice. -/
  once : (diagnostics.map (·.path)).Nodup
  /-- Each entry has the tag of its node, and the message that fits. -/
  message : ∀ d ∈ diagnostics, ∃ n, s.Visited d.path n ∧ d.tag = n.tag
    ∧ ((n.defect = none ∧ d.kind = .unknownType
        ∧ d.message = "unknown node type `" ++ n.tag ++ "`")
      ∨ (∃ defect, n.defect = some defect ∧ d.kind = .renderFailure (.malformed defect.fault)
        ∧ d.message = defect.fault.message)
      ∨ ∃ fault, n.defect = none ∧ (Strategy.ofTag n.tag).Rejects n.props fault
        ∧ d.kind = .renderFailure fault ∧ d.message = fault.message)
  /-- Entries of which neither is at an ancestor of the other stand in the order of their paths. -/
  beside : ∀ i j (hi : i < diagnostics.length) (hj : j < diagnostics.length),
    ¬ diagnostics[i].path <+: diagnostics[j].path → ¬ diagnostics[j].path <+: diagnostics[i].path →
      (i < j ↔ diagnostics[i].path < diagnostics[j].path)
  /-- An entry at an ancestor stands first exactly if its tag is unknown. -/
  above : ∀ i j (hi : i < diagnostics.length) (hj : j < diagnostics.length),
    diagnostics[i].path <+: diagnostics[j].path → diagnostics[i].path ≠ diagnostics[j].path →
      (i < j ↔ diagnostics[i].kind = .unknownType)

theorem exists_renderFailure_iff {n : Node} :
    (∃ kind, n.diagnosis? = some kind ∧ ∃ fault, kind = .renderFailure fault)
      ↔ n.defect ≠ none ∨ (n.tag ∈ Strategy.vocabulary
        ∧ ∃ fault, (Strategy.ofTag n.tag).Rejects n.props fault) := by
  constructor
  · intro h
    obtain ⟨_, hnote, fault, rfl⟩ := h
    rcases Node.diagnosis?_eq_renderFailure_iff.1 hnote with ⟨d, hd, -⟩ | ⟨-, hmem, hrejects⟩
    · exact .inl (hd ▸ nofun)
    · exact .inr ⟨hmem, fault, hrejects⟩
  · intro h
    cases hd : n.defect with
    | some d => exact ⟨_, Node.diagnosis?_of_defect hd, _, rfl⟩
    | none =>
      rcases h with h | ⟨hmem, fault, hrejects⟩
      · exact absurd hd h
      · exact ⟨_, Node.diagnosis?_eq_renderFailure_iff.2 (.inr ⟨hd, hmem, hrejects⟩), fault, rfl⟩

/-- **The diagnostics of a surface are those of its faulty nodes**, once each, in a fixed order. -/
theorem diagnosed_tree (s : Surface) : s.Diagnosed s.tree.diagnostics := by
  have horder := List.pairwise_iff_getElem.1 (pairwise_tree s)
  exact {
    unknown := fun path => by
      rw [exists_diagnostic_iff (· = .unknownType)]
      simp only [exists_eq_right, Node.diagnosis?_eq_unknownType_iff]
    failed := fun path => by
      rw [exists_diagnostic_iff fun kind => ∃ fault, kind = .renderFailure fault]
      simp only [exists_renderFailure_iff]
    -- The order tells any two notes apart by their paths.
    once := by
      rw [List.Nodup, List.pairwise_map]
      exact (pairwise_tree s).imp Diagnostic.Before.ne
    message := by
      rintro ⟨path, tag, kind⟩ hmem
      obtain ⟨n, hvisited, rfl, hnote⟩ := mem_tree.1 hmem
      refine ⟨n, hvisited, rfl, ?_⟩
      cases kind with
      | unknownType => exact .inl ⟨(Node.diagnosis?_eq_unknownType_iff.1 hnote).1, rfl, rfl⟩
      | renderFailure fault =>
        refine .inr ?_
        rcases Node.diagnosis?_eq_renderFailure_iff.1 hnote with ⟨d, hd, rfl⟩ | ⟨hd, -, hrejects⟩
        · exact .inl ⟨d, hd, rfl, rfl⟩
        · exact .inr ⟨fault, hd, hrejects, rfl, rfl⟩
    beside := fun i j hi hj hij hji => by
      constructor
      · intro hlt
        exact (horder i j hi hj hlt).lt hij hji
      -- If `j` came first, its path would be the smaller one.
      · intro hpath
        rcases Nat.lt_trichotomy i j with hlt | rfl | hlt
        · exact hlt
        · exact absurd (List.prefix_refl _) hij
        · exact absurd hpath (List.lt_asymm ((horder j i hj hi hlt).lt hji hij))
    above := fun i j hi hj hprefix hne => by
      constructor
      · intro hlt
        exact (horder i j hi hj hlt).unknown hprefix
      -- If `j` came first, the ancestor would have failed.
      · intro hkind
        rcases Nat.lt_trichotomy i j with hlt | rfl | hlt
        · exact hlt
        · exact absurd rfl hne
        · exact absurd hkind ((horder j i hj hi hlt).failed hprefix) }

end Surface

end SurfaceStudio
