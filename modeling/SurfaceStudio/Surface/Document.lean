import SurfaceStudio.Json.Reader
import SurfaceStudio.Json.Writer
import SurfaceStudio.Surface.Node

/-!
# Surfaces

A surface is a document: an id and a list of nodes.  Only the top level is checked when a surface
is read; a node that is out of shape never keeps the rest of the document from being read.

  • `Surface.ofJson` — a value as a surface, or what its top level lacks,
  • `Surface.parse` — a text as a surface,
  • `Surface.toJson` — the value a surface is written as.
-/

namespace SurfaceStudio

/-! ## §1. The type. -/

structure Surface where
  id : String
  content : List Node
  /-- The members besides `surfaceId` and `content`. -/
  extra : Members

/-- What the top level of a value lacks to be a surface. -/
inductive SurfaceFault where
  | notAnObject
  | idNotAString
  | idMissing
  | contentNotAnArray
  | contentMissing
deriving DecidableEq, Repr

/-- Why a text is not a surface. -/
inductive ParseError where
  /-- It is not a JSON text. -/
  | malformed (fault : Json.Fault)
  /-- It is the text of a value that is not a surface. -/
  | shape (fault : SurfaceFault)
deriving DecidableEq

def SurfaceFault.message : SurfaceFault → String
  | .notAnObject => "surface must be a JSON object"
  | .idNotAString => "`surfaceId` must be a string"
  | .idMissing => "missing `surfaceId`"
  | .contentNotAnArray => "`content` must be an array"
  | .contentMissing => "missing `content`"

def ParseError.message : ParseError → String
  | .malformed fault => fault.message
  | .shape fault => fault.message

namespace Surface

/-- A surface without further members. -/
def new (id : String) (content : List Node) : Surface := ⟨id, content, []⟩

/-! ## §2. Reading. -/

/-- The id among the members of an object. -/
def idOf (members : Members) : Except SurfaceFault String :=
  match members.get? "surfaceId" with
  | some (.string id) => .ok id
  | some _ => .error .idNotAString
  | none => .error .idMissing

/-- The content among the members of an object. -/
def contentOf (members : Members) : Except SurfaceFault (List Json) :=
  match members.get? "content" with
  | some (.array items) => .ok items
  | some _ => .error .contentNotAnArray
  | none => .error .contentMissing

/-- **A value as a surface.**  The id is looked at before the content. -/
def ofJson : Json → Except SurfaceFault Surface
  | .object members => do
    let id ← idOf members
    let items ← contentOf members
    return ⟨id, Node.ofItems items, Members.erase "content" (Members.erase "surfaceId" members)⟩
  | _ => .error .notAnObject

/-- **A text as a surface.** -/
def parse (text : String) : Except ParseError Surface :=
  match Json.read text with
  | .error fault => .error (.malformed fault)
  | .ok v =>
    match ofJson v with
    | .error fault => .error (.shape fault)
    | .ok s => .ok s

/-! ## §3. Writing. -/

/-- **The value a surface is written as**: the id, the content, then the other members. -/
def toJson (s : Surface) : Json :=
  .object (("surfaceId", .string s.id) :: ("content", .array (Node.listToJson s.content))
    :: s.extra)

/-- The text shown in the editor. -/
def pretty (s : Surface) : String := s.toJson.pretty

/-! ## §4. Equal surfaces. -/

/-- Equal in every part, the two zeros of the doubles being one number. -/
def same (s t : Surface) : Bool :=
  s.id == t.id && Node.sameList s.content t.content && Json.sameMembers s.extra t.extra

end Surface

end SurfaceStudio
