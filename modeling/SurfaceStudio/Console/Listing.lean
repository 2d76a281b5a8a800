import SurfaceStudio.Json.Writer
import SurfaceStudio.Render.Primitive
import SurfaceStudio.Text.Quoted

/-!
# Listings of render trees

A tree is listed as one header line and the primitives below it, depth first and left to right,
two spaces further in at each level.  The items of a list stand directly below it, one level
further in, before its children.

  • `RenderTree.listing` — the lines of a tree at a depth,
  • `Primitive.ownLines`, `Primitive.lines` — a primitive alone, and with its children,
  • `bar` — a bar of twenty cells.
-/

namespace SurfaceStudio

/-! ## §1. Bars. -/

/-- The number of cells of a bar. -/
def barWidth : Nat := 20

/-- How many cells a percentage fills: a twentieth of a hundred each, rounded to the nearest cell,
a half going up.  A negative value fills none. -/
def filledCells (value : Binary64) : Nat :=
  if value.negative then 0
  else (((value.div? .hundred).bind (·.mul? .twenty)).map (·.roundHalfUp)).getD 0

/-- Filled cells before empty ones. -/
def bar (value : Binary64) : String :=
  let filled := filledCells value
  String.ofList (List.replicate filled '#' ++ List.replicate (barWidth - filled) '-')

/-! ## §2. Lines of a primitive. -/

/-- Two spaces for each level. -/
def indent (depth : Nat) : String := String.ofList (List.replicate (2 * depth) ' ')

/-- A text behind a space, if there is one. -/
def appended (before : String) (text : Option String) (form : String → String) : String :=
  match text with
  | some text => before ++ form text
  | none => ""

/-- The text of a primitive's own line, without the indentation. -/
def Primitive.head : Primitive → String
  | .text content variant => "Text(" ++ variant ++ ") " ++ Text.quoted content
  | .card title _ => "Card" ++ appended " " title Text.quoted
  | .button label variant action =>
    "Button(" ++ variant ++ ") [" ++ label ++ "]" ++ appended " -> " action id
  | .image src alt caption =>
    "Image " ++ src ++ appended " alt=" alt Text.quoted ++ appended " caption=" caption Text.quoted
  | .list title _ _ => "List" ++ appended " " title Text.quoted
  | .statBar label value color =>
    "StatBar " ++ label ++ " [" ++ bar value ++ "] " ++ value.plainText ++ "%"
      ++ appended " " color id
  | .fallback tag props _ => "?? unknown <" ++ tag ++ "> " ++ (Json.object props).compact
  | .failed tag fault => "!! failed <" ++ tag ++ ">: " ++ fault.message

/-- The items that are listed below a primitive. -/
def Primitive.items : Primitive → List String
  | .list _ items _ => items
  | _ => []

/-- The lines of a primitive at a depth, without those of its children. -/
def Primitive.ownLines (depth : Nat) (p : Primitive) : List String :=
  (indent depth ++ p.head) :: p.items.map fun item => indent (depth + 1) ++ "- " ++ item

mutual

/-- **The lines of a primitive at a depth**, its children one level further in. -/
def Primitive.lines (depth : Nat) : Primitive → List String
  | .card title children =>
    Primitive.ownLines depth (.card title children) ++ Primitive.listLines (depth + 1) children
  | .list title items children =>
    Primitive.ownLines depth (.list title items children)
      ++ Primitive.listLines (depth + 1) children
  | .fallback tag props children =>
    Primitive.ownLines depth (.fallback tag props children)
      ++ Primitive.listLines (depth + 1) children
  | p => Primitive.ownLines depth p

/-- The lines of siblings at a depth. -/
def Primitive.listLines (depth : Nat) : List Primitive → List String
  | [] => []
  | p :: ps => p.lines depth ++ Primitive.listLines depth ps

end

/-- A primitive's lines are its own and then those of its children. -/
theorem Primitive.lines_eq (depth : Nat) (p : Primitive) :
    p.lines depth = p.ownLines depth ++ Primitive.listLines (depth + 1) p.children := by
  cases p <;> simp [Primitive.lines, Primitive.children, Primitive.listLines]

/-! ## §3. Trees. -/

namespace RenderTree

/-- How many nodes were unknown and how many failed, if any did. -/
def countsText (t : RenderTree) : String :=
  if t.unknownCount = 0 ∧ t.failureCount = 0 then ""
  else " (" ++ Nat.repr t.unknownCount ++ " unknown, " ++ Nat.repr t.failureCount ++ " failed)"

/-- **The lines of a tree**: a header, then the primitives one level further in. -/
def listing (depth : Nat) (t : RenderTree) : List String :=
  (indent depth ++ "[surface " ++ t.surfaceId ++ "]" ++ t.countsText)
    :: Primitive.listLines (depth + 1) t.nodes

end RenderTree

end SurfaceStudio
