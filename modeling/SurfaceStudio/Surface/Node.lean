import SurfaceStudio.Json.Basic

/-!
# Nodes of a surface

A node has a tag, properties and children.  Nodes are kept as leniently as they are read: a value
without the shape of a node becomes a node with a defect that holds on to the value, keys besides
the three known ones stay in `extra`, and the two optional keys remember how they stood in the
input, so that writing a node gives back what was read.

  • `Node.ofJson` — every value is a node,
  • `Node.toJson` — the value it is written as, members in the order they are written,
  • `Node.new`, `Node.withProp`, `Node.withChildren` — building and editing.
-/

namespace SurfaceStudio

/-! ## §1. The type. -/

/-- How an optional key stood in the input. -/
inductive KeyForm where
  | omitted
  | null
  | present
deriving DecidableEq, Repr

/-- Why a value has not the shape of a node. -/
inductive ShapeFault where
  | notAnObject
  | noTag
  | propsNotAnObject
  | childrenNotAnArray
deriving DecidableEq, Repr

/-- A value that could not become a proper node, and why. -/
structure Defect where
  fault : ShapeFault
  raw : Json

structure Node where
  tag : String
  props : Members
  children : List Node
  /-- The members besides `type`, `props` and `children`. -/
  extra : Members
  propsForm : KeyForm
  childrenForm : KeyForm
  defect : Option Defect

def ShapeFault.message : ShapeFault → String
  | .notAnObject => "node is not a JSON object"
  | .noTag => "node is missing a string `type`"
  | .propsNotAnObject => "node `props` must be an object"
  | .childrenNotAnArray => "node `children` must be an array"

namespace Node

/-! ## §2. Building and editing. -/

/-- A node without properties, which are written nevertheless, and without children. -/
def new (tag : String) : Node := ⟨tag, [], [], [], .present, .omitted, none⟩

/-- Sets a property. -/
def withProp (n : Node) (key : String) (value : Json) : Node :=
  { n with props := n.props.insert key value }

/-- Adds children behind those already there; from now on the key is written. -/
def withChildren (n : Node) (more : List Node) : Node :=
  { n with children := n.children ++ more, childrenForm := .present }

/-- Adds one child behind those already there. -/
def withChild (n : Node) (child : Node) : Node := n.withChildren [child]

/-! ## §3. From values. -/

/-- How the optional key with this value stood in the input. -/
def formOf : Option Json → KeyForm
  | none => .omitted
  | some .null => .null
  | some _ => .present

/-- The value under `type` is a string. -/
def isTag : Option Json → Bool
  | some (.string _) => true
  | _ => false

/-- There is no value under `props`, or null, or an object. -/
def mayBeProps : Option Json → Bool
  | none | some .null | some (.object _) => true
  | _ => false

/-- There is no value under `children`, or null, or an array. -/
def mayBeChildren : Option Json → Bool
  | none | some .null | some (.array _) => true
  | _ => false

/-- What keeps an object from being a proper node; the tag is looked at first, the children
last. -/
def shapeFault? (members : Members) : Option ShapeFault :=
  if !isTag (members.get? "type") then some .noTag
  else if !mayBeProps (members.get? "props") then some .propsNotAnObject
  else if !mayBeChildren (members.get? "children") then some .childrenNotAnArray
  else none

/-- The tag as far as there is one. -/
def tagOf (members : Members) : String := ((members.get? "type").bind Json.text?).getD ""

/-- The properties as far as there are any. -/
def propsOf (members : Members) : Members :=
  match members.get? "props" with
  | some (.object props) => props
  | _ => []

/-- A node that keeps a value without the shape of one. -/
def defective (fault : ShapeFault) (tag : String) (raw : Json) : Node :=
  ⟨tag, [], [], [], .omitted, .omitted, some ⟨fault, raw⟩⟩

/-- The node that an object with these members stands for, given the nodes of its children. -/
def ofMembers (members : Members) (children : List Node) : Node :=
  match shapeFault? members with
  | some fault => defective fault (tagOf members) (.object members)
  | none =>
    { tag := tagOf members
      props := propsOf members
      children
      extra := Members.erase "children" (Members.erase "props" (Members.erase "type" members))
      propsForm := formOf (members.get? "props")
      childrenForm := formOf (members.get? "children")
      defect := none }

mutual

/-- **The node that a value stands for.**  Every value stands for one. -/
def ofJson : Json → Node
  | .object members => ofMembers members (childrenOf members)
  | v => defective .notAnObject "" v

/-- The nodes of the array under the key `children`, if there is one. -/
def childrenOf : List (String × Json) → List Node
  | [] => []
  | (key, v) :: rest => if key = "children" then itemsOf v else childrenOf rest

/-- The nodes of an array; another value holds none. -/
def itemsOf : Json → List Node
  | .array items => ofItems items
  | _ => []

/-- The nodes that the values of a list stand for. -/
def ofItems : List Json → List Node
  | [] => []
  | v :: vs => ofJson v :: ofItems vs

end

/-! ## §4. To values. -/

/-- The member for an optional key, given how it stood in the input and what it holds now. -/
def optionalMember (key : String) (form : KeyForm) (isEmpty : Bool) (value : Json) : Members :=
  match form, isEmpty with
  | .omitted, true => []
  | .null, true => [(key, .null)]
  | _, _ => [(key, value)]

mutual

/-- **The value a node is written as**: the tag, the properties, the children, then the other
members.  A defective node is written as the value it keeps. -/
def toJson : Node → Json
  | ⟨tag, props, children, extra, propsForm, childrenForm, defect⟩ =>
    match defect with
    | some d => d.raw
    | none => .object
        (("type", .string tag)
          :: (optionalMember "props" propsForm props.isEmpty (.object props)
            ++ optionalMember "children" childrenForm children.isEmpty
              (.array (listToJson children))
            ++ extra))

def listToJson : List Node → List Json
  | [] => []
  | n :: ns => n.toJson :: listToJson ns

end

/-! ## §5. Equal nodes. -/

/-- Equal defects: the same fault in an equal value. -/
def sameDefect : Option Defect → Option Defect → Bool
  | none, none => true
  | some d, some d' => d.fault == d'.fault && d.raw.same d'.raw
  | _, _ => false

mutual

/-- Equal in every part, the two zeros of the doubles being one number. -/
def same : Node → Node → Bool
  | ⟨tag, props, children, extra, propsForm, childrenForm, defect⟩,
    ⟨tag', props', children', extra', propsForm', childrenForm', defect'⟩ =>
    tag == tag' && Json.sameMembers props props' && sameList children children'
      && Json.sameMembers extra extra' && propsForm == propsForm' && childrenForm == childrenForm'
      && sameDefect defect defect'

def sameList : List Node → List Node → Bool
  | [], [] => true
  | n :: ns, n' :: ns' => n.same n' && sameList ns ns'
  | _, _ => false

end

end Node

end SurfaceStudio
