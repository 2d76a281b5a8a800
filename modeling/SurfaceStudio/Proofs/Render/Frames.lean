import SurfaceStudio.Proofs.Render.Diagnostics

/-!
# What a node is rendered to

A node is rendered in two parts that do not meet: its frame, which depends on its tag, properties
and defect alone, and the primitives of its children, which fill the slot of the frame if it has
one.  Neither depends on where the node stands.

  • `Strategy.apply_eq_map` — **children pass through a strategy unseen**,
  • `Node.frame`, `Node.primitive` — the two parts, and the whole,
  • `Node.primitive_eq`, `Node.result_render` — **a node is rendered to its frame around its
    children**,
  • `Node.frame_of_unknownType`, `Node.frame_of_renderFailure`, `Node.frame_of_quiet` — what there
    is to note about a node decides what its frame is.
-/

namespace SurfaceStudio

/-! ## §1. Slots for children. -/

namespace Primitive

/-- Whether there is a slot for children: in cards, lists and fallbacks. -/
def isContainer : Primitive → Bool
  | .card .. | .list .. | .fallback .. => true
  | _ => false

/-- The same primitive with these children, if it has a slot for them. -/
def withChildren (children : List Primitive) : Primitive → Primitive
  | .card title _ => .card title children
  | .list title items _ => .list title items children
  | .fallback tag props _ => .fallback tag props children
  | q => q

/-- The tag of the vocabulary that a primitive is made for; placeholders have none. -/
def vocabularyTag? : Primitive → Option String
  | .text .. => some "Text"
  | .card .. => some "Card"
  | .button .. => some "Button"
  | .image .. => some "Image"
  | .list .. => some "List"
  | .statBar .. => some "StatBar"
  | .fallback .. | .failed .. => none

@[simp] theorem isContainer_withChildren (children : List Primitive) (q : Primitive) :
    (q.withChildren children).isContainer = q.isContainer := by
  cases q <;> rfl

theorem children_withChildren (children : List Primitive) (q : Primitive) :
    (q.withChildren children).children = if q.isContainer then children else [] := by
  cases q <;> rfl

theorem withChildren_of_not_isContainer {q : Primitive} (h : q.isContainer = false)
    (children : List Primitive) : q.withChildren children = q := by
  cases q with
  | card => cases h
  | list => cases h
  | fallback => cases h
  | _ => rfl

@[simp] theorem withChildren_withChildren (children children' : List Primitive) (q : Primitive) :
    (q.withChildren children').withChildren children = q.withChildren children := by
  cases q <;> rfl

@[simp] theorem vocabularyTag?_withChildren (children : List Primitive) (q : Primitive) :
    (q.withChildren children).vocabularyTag? = q.vocabularyTag? := by
  cases q <;> rfl

/-- What a primitive tells about the node it stands for. -/
def diagnosis? : Primitive → Option DiagnosticKind
  | .fallback .. => some .unknownType
  | .failed _ fault => some (.renderFailure fault)
  | _ => none

@[simp] theorem diagnosis?_withChildren (children : List Primitive) (q : Primitive) :
    (q.withChildren children).diagnosis? = q.diagnosis? := by
  cases q <;> rfl

theorem isPlaceholder_eq_isSome (q : Primitive) : q.isPlaceholder = q.diagnosis?.isSome := by
  cases q <;> rfl

/-- A primitive that is made for a tag of the vocabulary tells of nothing. -/
theorem diagnosis?_of_vocabularyTag? {q : Primitive} {tag : String}
    (h : q.vocabularyTag? = some tag) : q.diagnosis? = none := by
  cases q with
  | fallback => cases h
  | failed => cases h
  | _ => rfl

end Primitive

/-! ## §2. Strategies. -/

namespace Strategy

/-- **Children pass through a strategy unseen**: they only fill the slot of the primitive that the
strategy makes without them. -/
theorem apply_eq_map (strategy : Strategy) (props : Members) (children : List Primitive) :
    strategy.apply props children
      = (strategy.apply props []).map (Primitive.withChildren children) := by
  unfold apply
  -- Each property that is read may end both sides at once.
  cases strategy with
  | text =>
    dsimp only
    cases Props.scalar props "text" with
    | error fault => rfl
    | ok text => cases Props.optionalString props "variant" <;> rfl
  | card => cases Props.optionalString props "title" <;> rfl
  | button =>
    dsimp only
    cases Props.string props "label" with
    | error fault => rfl
    | ok label =>
      cases Props.optionalString props "variant" with
      | error fault => rfl
      | ok variant => cases Props.optionalString props "action" <;> rfl
  | image =>
    dsimp only
    cases Props.string props "src" with
    | error fault => rfl
    | ok src =>
      cases Props.optionalString props "alt" with
      | error fault => rfl
      | ok alt => cases Props.optionalString props "caption" <;> rfl
  | list =>
    dsimp only
    cases Props.optionalString props "title" with
    | error fault => rfl
    | ok title => cases Props.scalars props "items" <;> rfl
  | statBar =>
    dsimp only
    cases Props.string props "label" with
    | error fault => rfl
    | ok label =>
      cases Props.number props "value" with
      | error fault => rfl
      | ok value => cases Props.optionalString props "color" <;> rfl
  | unknown tag => rfl

theorem ofTag_eq_unknown {tag : String} (h : tag ∉ vocabulary) : ofTag tag = .unknown tag := by
  simp only [vocabulary, List.mem_cons, List.not_mem_nil, or_false, not_or] at h
  simp [ofTag, h]

/-- What the strategy of a tag of the vocabulary makes is made for that tag. -/
theorem vocabularyTag?_of_apply {tag : String} (htag : ¬ (ofTag tag).isUnknown = true)
    {props : Members} {children : List Primitive} {q : Primitive}
    (h : (ofTag tag).apply props children = .ok q) : q.vocabularyTag? = some tag := by
  unfold ofTag at h htag
  -- One case for each tag of the vocabulary, and one for the rest, which is excluded.
  repeat' split at h
  all_goals
    simp only [apply, bind, Except.bind] at h
    repeat' split at h
  all_goals cases h
  all_goals simp_all [Primitive.vocabularyTag?, isUnknown]

end Strategy

/-! ## §3. Frames. -/

namespace Node

/-- **What a node is rendered to when its children are left out.** -/
def frame (n : Node) : Primitive :=
  match n.defect with
  | some d => .failed n.tag (.malformed d.fault)
  | none =>
    match (Strategy.ofTag n.tag).apply n.props [] with
    | .ok q => q
    | .error fault => .failed n.tag fault

/-- **What a node is rendered to**; where it stands makes no difference. -/
def primitive (n : Node) : Primitive := (n.render []).result

theorem frame_of_defect {n : Node} {d : Defect} (h : n.defect = some d) :
    n.frame = .failed n.tag (.malformed d.fault) := by
  rw [frame, h]

theorem frame_of_unknownType {n : Node} (h : n.diagnosis? = some .unknownType) :
    n.frame = .fallback n.tag n.props [] := by
  obtain ⟨hd, htag⟩ := diagnosis?_eq_unknownType_iff.1 h
  rw [frame, hd, Strategy.ofTag_eq_unknown htag]
  rfl

theorem frame_of_renderFailure {n : Node} {fault : RenderFault}
    (h : n.diagnosis? = some (.renderFailure fault)) : n.frame = .failed n.tag fault := by
  rcases diagnosis?_eq_renderFailure_iff.1 h with ⟨d, hd, rfl⟩ | ⟨hd, -, hrejects⟩
  · exact frame_of_defect hd
  · rw [frame, hd]
    dsimp only
    rw [hrejects []]

/-- The frame of a node that there is nothing to note about is made for its tag. -/
theorem frame_of_quiet {n : Node} (h : n.diagnosis? = none) :
    n.frame.vocabularyTag? = some n.tag := by
  unfold diagnosis? at h
  unfold frame
  cases hd : n.defect with
  | some d =>
    rw [hd] at h
    cases h
  | none =>
    rw [hd] at h
    dsimp only at h ⊢
    split at h
    next => cases h
    next hknown =>
      cases happly : (Strategy.ofTag n.tag).apply n.props [] with
      | ok q => exact Strategy.vocabularyTag?_of_apply hknown happly
      | error fault =>
        rw [happly] at h
        cases h

/-- A node whose frame has a slot for children is not defective. -/
theorem defect_of_isContainer {n : Node} (h : n.frame.isContainer = true) : n.defect = none := by
  cases hd : n.defect with
  | none => rfl
  | some d =>
    rw [frame_of_defect hd] at h
    cases h

/-! ## §4. Primitives. -/

/-- A node at a path is rendered to its frame around what its children are rendered to. -/
theorem result_render_eq (n : Node) (path : NodePath) : (n.render path).result
    = n.frame.withChildren (renderList path 0 n.children).result := by
  -- The walk takes the node apart, so its fields have to be in sight.
  obtain ⟨tag, props, children, extra, propsForm, childrenForm, defect⟩ := n
  cases defect with
  | some d =>
    rw [render]
    rfl
  | none =>
    rw [render, frame]
    dsimp only
    have hresolve : (resolveAt path tag).result = Strategy.ofTag tag := by
      unfold resolveAt
      dsimp only
      split <;> rfl
    rw [assembleAt]
    dsimp only
    rw [hresolve, Strategy.apply_eq_map]
    cases (Strategy.ofTag tag).apply props [] with
    | ok q => rfl
    | error fault => rfl

/-- Siblings are rendered one by one. -/
theorem result_renderList {ns : List Node}
    (h : ∀ n ∈ ns, ∀ path, (n.render path).result = n.primitive) (path : NodePath) (index : Nat) :
    (renderList path index ns).result = ns.map primitive := by
  induction ns generalizing index with
  | nil => rfl
  | cons n ns ih =>
    rw [renderList]
    dsimp only
    rw [h n List.mem_cons_self, ih fun n' hn' => h n' (List.mem_cons_of_mem _ hn')]
    rfl

/-- **Where a node stands makes no difference to what it is rendered to.** -/
theorem result_render (n : Node) (path : NodePath) : (n.render path).result = n.primitive := by
  induction n using Node.induction generalizing path with
  | node n ih =>
    rw [primitive, result_render_eq, result_render_eq, result_renderList ih, result_renderList ih]

/-- **A node is rendered to its frame around what its children are rendered to.** -/
theorem primitive_eq (n : Node) :
    n.primitive = n.frame.withChildren (n.children.map primitive) := by
  rw [primitive, result_render_eq, result_renderList fun c _ => result_render c]

theorem children_primitive (n : Node) : n.primitive.children
    = if n.frame.isContainer then n.children.map primitive else [] := by
  rw [primitive_eq, Primitive.children_withChildren]

theorem isContainer_primitive (n : Node) : n.primitive.isContainer = n.frame.isContainer := by
  rw [primitive_eq, Primitive.isContainer_withChildren]

end Node

/-- **What there is to note about a node is told by what it is rendered to.** -/
theorem Node.diagnosis?_primitive (n : Node) : n.primitive.diagnosis? = n.diagnosis? := by
  rw [primitive_eq, Primitive.diagnosis?_withChildren]
  cases hd : n.diagnosis? with
  | none => exact Primitive.diagnosis?_of_vocabularyTag? (frame_of_quiet hd)
  | some kind =>
    cases kind with
    | unknownType =>
      rw [frame_of_unknownType hd]
      rfl
    | renderFailure fault =>
      rw [frame_of_renderFailure hd]
      rfl

/-- The primitives of a surface are those of its nodes. -/
theorem Surface.nodes_tree (s : Surface) : s.tree.nodes = s.content.map Node.primitive :=
  Node.result_renderList (fun n _ => n.result_render) [] 0

end SurfaceStudio
