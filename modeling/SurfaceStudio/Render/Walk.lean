import SurfaceStudio.Log.Logged
import SurfaceStudio.Render.Strategy
import SurfaceStudio.Surface.Document
import SurfaceStudio.Text.Quoted

/-!
# Rendering

Nodes are rendered in order, each before its right sibling and its children before itself.  An
unknown tag is noted before the children are rendered; a failure is noted after them, because only
then is the strategy applied.

  • `Node.render` — the primitive of a node at a path, with what was noted and logged,
  • `Surface.render` — the tree of a surface and the log of rendering it.
-/

namespace SurfaceStudio

/-! ## §1. Results with notes. -/

/-- A result, with the diagnostics and the log records made on the way, in order. -/
structure Rendered (α : Type) where
  result : α
  diagnostics : List Diagnostic
  log : List Log.Record

/-- A path as it stands in the log. -/
def NodePath.text (path : NodePath) : String :=
  "[" ++ String.intercalate ", " (path.map Nat.repr) ++ "]"

/-- Logged for a node outside the vocabulary. -/
def unknownRecord (tag : String) (path : NodePath) : Log.Record :=
  ⟨.debug, "Unknown node type " ++ Text.quoted tag ++ " at " ++ path.text⟩

/-- Logged for a node that cannot be rendered. -/
def failureRecord (tag : String) (path : NodePath) (fault : RenderFault) : Log.Record :=
  ⟨.warn, "Node " ++ Text.quoted tag ++ " at " ++ path.text ++ " failed to render: "
    ++ fault.message⟩

/-- Logged at the end of a surface with diagnostics. -/
def summaryRecord (id : String) (count : Nat) : Log.Record :=
  ⟨.debug, "Rendered surface " ++ id ++ " with " ++ Nat.repr count ++ " diagnostics"⟩

/-! ## §2. Nodes. -/

/-- A failure in place of a node, after what was noted before it. -/
def Rendered.fail {α : Type} (before : Rendered α) (path : NodePath) (tag : String)
    (fault : RenderFault) : Rendered Primitive :=
  { result := .failed tag fault
    diagnostics := before.diagnostics ++ [⟨path, tag, .renderFailure fault⟩]
    log := before.log ++ [failureRecord tag path fault] }

/-- The strategy of a tag, noted if it is the fallback. -/
def resolveAt (path : NodePath) (tag : String) : Rendered Strategy :=
  let strategy := Strategy.ofTag tag
  if strategy.isUnknown then ⟨strategy, [⟨path, tag, .unknownType⟩], [unknownRecord tag path]⟩
  else ⟨strategy, [], []⟩

/-- What a node without a defect becomes, once its children are rendered. -/
def assembleAt (path : NodePath) (tag : String) (props : Members)
    (children : Rendered (List Primitive)) : Rendered Primitive :=
  let resolved := resolveAt path tag
  let before : Rendered Unit :=
    ⟨(), resolved.diagnostics ++ children.diagnostics, resolved.log ++ children.log⟩
  match resolved.result.apply props children.result with
  | .ok primitive => ⟨primitive, before.diagnostics, before.log⟩
  | .error fault => before.fail path tag fault

mutual

/-- **The primitive of a node at a path.**  A defective node fails without a look at anything else
in it. -/
def Node.render (path : NodePath) : Node → Rendered Primitive
  | ⟨tag, props, children, _, _, _, defect⟩ =>
    match defect with
    | some d => Rendered.fail (⟨(), [], []⟩ : Rendered Unit) path tag (.malformed d.fault)
    | none => assembleAt path tag props (Node.renderList path 0 children)

/-- The primitives of siblings below a path, the first of them at the index given. -/
def Node.renderList (path : NodePath) (index : Nat) : List Node → Rendered (List Primitive)
  | [] => ⟨[], [], []⟩
  | n :: ns =>
    let first := n.render (path ++ [index])
    let others := Node.renderList path (index + 1) ns
    ⟨first.result :: others.result, first.diagnostics ++ others.diagnostics,
      first.log ++ others.log⟩

end

/-! ## §3. Surfaces. -/

/-- **The tree of a surface**, and what rendering it logs. -/
def Surface.render (s : Surface) : Logged RenderTree :=
  let rendered := Node.renderList [] 0 s.content
  let summary :=
    if rendered.diagnostics.isEmpty then []
    else [summaryRecord s.id rendered.diagnostics.length]
  ⟨⟨s.id, rendered.result, rendered.diagnostics⟩, rendered.log ++ summary⟩

/-- The tree of a surface. -/
def Surface.tree (s : Surface) : RenderTree := s.render.value

end SurfaceStudio
