import SurfaceStudio.Json.Number

/-!
# JSON values

A value is null, a boolean, a number, a string, an array or an object.  An object is a list of
members; values that come from a text or from another program hold each key once, in ascending
order, and `Json.Canonical` says so.

  • `Members.get?`, `Members.insert`, `Members.erase` — an object as a finite map,
  • `Json.canonical` — the canonical value with the same members, the last of equal keys winning,
  • `Json.same` — equal as values, the two zeros of the doubles being one number.
-/

namespace SurfaceStudio

/-! ## §1. Values. -/

inductive Json where
  | null
  | bool (value : Bool)
  | number (value : Number)
  | string (text : String)
  | array (items : List Json)
  | object (members : List (String × Json))
deriving Inhabited

/-- The members of an object: keys with their values. -/
abbrev Members := List (String × Json)

/-! ## §2. Objects as finite maps. -/

namespace Members

/-- The value under a key. -/
def get? (key : String) : Members → Option Json
  | [] => none
  | (k, v) :: rest => if k = key then some v else get? key rest

/-- Puts a value under a key, in the place its key has in the order; a value that is there already
gives way. -/
def insert (key : String) (value : Json) : Members → Members
  | [] => [(key, value)]
  | (k, v) :: rest =>
    if k = key then (key, value) :: rest
    else if key < k then (key, value) :: (k, v) :: rest
    else (k, v) :: insert key value rest

/-- Without the member under a key. -/
def erase (key : String) : Members → Members
  | [] => []
  | (k, v) :: rest => if k = key then rest else (k, v) :: erase key rest

/-- The keys in order. -/
def keys (members : Members) : List String := members.map (·.1)

/-- Each key stands before the keys that follow it. -/
def Sorted (members : Members) : Prop := members.keys.Pairwise (· < ·)

end Members

/-! ## §3. Canonical values. -/

namespace Json

mutual

/-- Every object in the value holds each key once, in ascending order. -/
def Canonical : Json → Prop
  | .array items => AllCanonical items
  | .object members => Members.Sorted members ∧ MembersCanonical members
  | _ => True

def AllCanonical : List Json → Prop
  | [] => True
  | v :: vs => v.Canonical ∧ AllCanonical vs

def MembersCanonical : List (String × Json) → Prop
  | [] => True
  | (_, v) :: rest => v.Canonical ∧ MembersCanonical rest

end

/-- The members in ascending order of their keys, the last of equal keys winning. -/
def collect (members : Members) : Members :=
  members.foldl (fun collected m => collected.insert m.1 m.2) []

mutual

/-- The canonical value with the same members. -/
def canonical : Json → Json
  | .array items => .array (canonicalItems items)
  | .object members => .object (collect (canonicalMembers members))
  | v => v

def canonicalItems : List Json → List Json
  | [] => []
  | v :: vs => v.canonical :: canonicalItems vs

def canonicalMembers : List (String × Json) → List (String × Json)
  | [] => []
  | (k, v) :: rest => (k, v.canonical) :: canonicalMembers rest

end

/-! ## §4. Equal values. -/

mutual

/-- Equal as values: members in the same order, numbers in the same representation, and the two
zeros of the doubles one number. -/
def same : Json → Json → Bool
  | .null, .null => true
  | .bool b, .bool b' => b == b'
  | .number n, .number n' => n.same n'
  | .string s, .string s' => s == s'
  | .array items, .array items' => sameItems items items'
  | .object members, .object members' => sameMembers members members'
  | _, _ => false

def sameItems : List Json → List Json → Bool
  | [], [] => true
  | v :: vs, v' :: vs' => v.same v' && sameItems vs vs'
  | _, _ => false

def sameMembers : List (String × Json) → List (String × Json) → Bool
  | [], [] => true
  | (k, v) :: rest, (k', v') :: rest' => k == k' && v.same v' && sameMembers rest rest'
  | _, _ => false

end

/-! ## §5. Reading a value's kind. -/

/-- The text of a string. -/
def text? : Json → Option String
  | .string text => some text
  | _ => none

end Json

end SurfaceStudio
