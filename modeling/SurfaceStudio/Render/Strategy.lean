import SurfaceStudio.Render.Primitive

/-!
# The vocabulary

Six tags have a strategy of their own; any other tag gets the fallback.  A strategy builds a
primitive from the properties of a node and its rendered children.  A property that is null counts
as absent.

  • `Strategy.ofTag` — the strategy for a tag; case matters,
  • `Strategy.apply` — the primitive, or the first property in the declared order that is wrong.
-/

namespace SurfaceStudio

/-! ## §1. Strategies. -/

inductive Strategy where
  | text
  | card
  | button
  | image
  | list
  | statBar
  /-- Not in the vocabulary. -/
  | unknown (tag : String)
deriving DecidableEq, Repr

namespace Strategy

/-- The tags with a strategy of their own. -/
def vocabulary : List String := ["Text", "Card", "Button", "Image", "List", "StatBar"]

/-- The strategy for a tag. -/
def ofTag (tag : String) : Strategy :=
  if tag = "Text" then .text
  else if tag = "Card" then .card
  else if tag = "Button" then .button
  else if tag = "Image" then .image
  else if tag = "List" then .list
  else if tag = "StatBar" then .statBar
  else .unknown tag

/-- Whether a tag got the fallback. -/
def isUnknown : Strategy → Bool
  | .unknown _ => true
  | _ => false

end Strategy

/-! ## §2. Properties. -/

namespace Props

/-- The property under a key, unless it is null. -/
def present? (props : Members) (key : String) : Option Json :=
  match props.get? key with
  | some .null => none
  | found => found

/-- Strings, numbers and booleans as text. -/
def scalarText? : Json → Option String
  | .string text => some text
  | .number n => some n.text
  | .bool true => some "true"
  | .bool false => some "false"
  | _ => none

/-- A string that may be left out. -/
def optionalString (props : Members) (key : String) : Except RenderFault (Option String) :=
  match present? props key with
  | none => .ok none
  | some (.string text) => .ok (some text)
  | some _ => .error (.wrongType key .string)

/-- A string that has to be there. -/
def string (props : Members) (key : String) : Except RenderFault String :=
  match optionalString props key with
  | .error fault => .error fault
  | .ok none => .error (.missingProp key)
  | .ok (some text) => .ok text

/-- A string, number or boolean that has to be there. -/
def scalar (props : Members) (key : String) : Except RenderFault String :=
  match present? props key with
  | none => .error (.missingProp key)
  | some v =>
    match scalarText? v with
    | some text => .ok text
    | none => .error (.wrongType key .scalar)

/-- The double that a number stands for. -/
def double? : Json → Option Binary64
  | .number n => n.toBinary64?
  | _ => none

/-- A number that has to be there. -/
def number (props : Members) (key : String) : Except RenderFault Binary64 :=
  match present? props key with
  | none => .error (.missingProp key)
  | some v =>
    match double? v with
    | some x => .ok x
    | none => .error (.wrongType key .number)

/-- A list of strings, numbers and booleans; a list that is left out is empty. -/
def scalars (props : Members) (key : String) : Except RenderFault (List String) :=
  match present? props key with
  | none => .ok []
  | some (.array items) =>
    match items.mapM scalarText? with
    | some texts => .ok texts
    | none => .error (.wrongType key .scalars)
  | some _ => .error (.wrongType key .scalars)

end Props

/-! ## §3. Applying a strategy. -/

namespace Strategy

/-- The variant of a text without one. -/
def defaultTextVariant : String := "body"

/-- The variant of a button without one. -/
def defaultButtonVariant : String := "primary"

/-- **The primitive for a node's properties and rendered children.**  Texts, buttons, images and
bars have no slot for children and drop them. -/
def apply (strategy : Strategy) (props : Members) (children : List Primitive) :
    Except RenderFault Primitive :=
  match strategy with
  | .text => do
    let text ← Props.scalar props "text"
    let variant ← Props.optionalString props "variant"
    return .text text (variant.getD defaultTextVariant)
  | .card => do
    let title ← Props.optionalString props "title"
    return .card title children
  | .button => do
    let label ← Props.string props "label"
    let variant ← Props.optionalString props "variant"
    let action ← Props.optionalString props "action"
    return .button label (variant.getD defaultButtonVariant) action
  | .image => do
    let src ← Props.string props "src"
    let alt ← Props.optionalString props "alt"
    let caption ← Props.optionalString props "caption"
    return .image src alt caption
  | .list => do
    let title ← Props.optionalString props "title"
    let items ← Props.scalars props "items"
    return .list title items children
  | .statBar => do
    let label ← Props.string props "label"
    let value ← Props.number props "value"
    let color ← Props.optionalString props "color"
    return .statBar label value.toHundred color
  | .unknown tag => return .fallback tag props children

end Strategy

end SurfaceStudio
