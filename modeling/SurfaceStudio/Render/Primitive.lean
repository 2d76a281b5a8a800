import SurfaceStudio.Surface.Node

/-!
# Primitives and diagnostics

A rendered surface is a tree of primitives and a list of diagnostics.  A node outside the
vocabulary becomes a fallback, a node that cannot be rendered becomes a failure, and both leave
their siblings and ancestors as they are.

  • `Primitive`, `RenderTree` — what rendering yields,
  • `RenderFault.message` — why a node could not be rendered.
-/

namespace SurfaceStudio

/-! ## §1. Faults. -/

/-- What a property has to be. -/
inductive Expected where
  | string
  | scalar
  | number
  | scalars
deriving DecidableEq, Repr

/-- Why a node could not be rendered. -/
inductive RenderFault where
  | missingProp (key : String)
  | wrongType (key : String) (expected : Expected)
  | malformed (fault : ShapeFault)
deriving DecidableEq, Repr

def Expected.describe : Expected → String
  | .string => "a string"
  | .scalar => "a string, number or boolean"
  | .number => "a number"
  | .scalars => "an array of strings or numbers"

def RenderFault.message : RenderFault → String
  | .missingProp key => "missing required prop `" ++ key ++ "`"
  | .wrongType key expected => "prop `" ++ key ++ "` must be " ++ expected.describe
  | .malformed fault => fault.message

/-! ## §2. Primitives. -/

inductive Primitive where
  | text (text variant : String)
  | card (title : Option String) (children : List Primitive)
  | button (label variant : String) (action : Option String)
  | image (src : String) (alt caption : Option String)
  | list (title : Option String) (items : List String) (children : List Primitive)
  | statBar (label : String) (value : Binary64) (color : Option String)
  /-- Stands for a node with a tag outside the vocabulary. -/
  | fallback (tag : String) (props : Members) (children : List Primitive)
  /-- Stands for a node that could not be rendered. -/
  | failed (tag : String) (fault : RenderFault)

namespace Primitive

/-- Whether something stands in for a node that was not rendered by its own rule. -/
def isPlaceholder : Primitive → Bool
  | .fallback .. | .failed .. => true
  | _ => false

/-- The primitives inside; those without a slot for children have none. -/
def children : Primitive → List Primitive
  | .card _ children | .list _ _ children | .fallback _ _ children => children
  | _ => []

mutual

/-- Equal in every part, the two zeros of the doubles being one number. -/
def same : Primitive → Primitive → Bool
  | .text t v, .text t' v' => t == t' && v == v'
  | .card t cs, .card t' cs' => t == t' && sameList cs cs'
  | .button l v a, .button l' v' a' => l == l' && v == v' && a == a'
  | .image s a c, .image s' a' c' => s == s' && a == a' && c == c'
  | .list t is cs, .list t' is' cs' => t == t' && is == is' && sameList cs cs'
  | .statBar l v c, .statBar l' v' c' => l == l' && v.same v' && c == c'
  | .fallback t ps cs, .fallback t' ps' cs' =>
    t == t' && Json.sameMembers ps ps' && sameList cs cs'
  | .failed t f, .failed t' f' => t == t' && f == f'
  | _, _ => false

def sameList : List Primitive → List Primitive → Bool
  | [], [] => true
  | p :: ps, p' :: ps' => p.same p' && sameList ps ps'
  | _, _ => false

end

end Primitive

/-! ## §3. Diagnostics and trees. -/

/-- Child indices from the top of a surface down to a node. -/
abbrev NodePath := List Nat

inductive DiagnosticKind where
  /-- The tag is outside the vocabulary. -/
  | unknownType
  /-- The node was replaced by a failure. -/
  | renderFailure (fault : RenderFault)
deriving DecidableEq, Repr

structure Diagnostic where
  path : NodePath
  tag : String
  kind : DiagnosticKind
deriving DecidableEq, Repr

def Diagnostic.message (d : Diagnostic) : String :=
  match d.kind with
  | .unknownType => "unknown node type `" ++ d.tag ++ "`"
  | .renderFailure fault => fault.message

def Diagnostic.isUnknown (d : Diagnostic) : Bool := d.kind == .unknownType

structure RenderTree where
  surfaceId : String
  nodes : List Primitive
  diagnostics : List Diagnostic

namespace RenderTree

/-- How many nodes have a tag outside the vocabulary. -/
def unknownCount (t : RenderTree) : Nat := t.diagnostics.countP (·.isUnknown)

/-- How many nodes could not be rendered. -/
def failureCount (t : RenderTree) : Nat := t.diagnostics.countP (!·.isUnknown)

/-- Equal in every part, the two zeros of the doubles being one number. -/
def same (t u : RenderTree) : Bool :=
  t.surfaceId == u.surfaceId && Primitive.sameList t.nodes u.nodes && t.diagnostics == u.diagnostics

end RenderTree

end SurfaceStudio
