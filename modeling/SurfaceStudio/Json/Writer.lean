import SurfaceStudio.Json.Basic

/-!
# JSON text

A value is written with a layout: what stands before each element at a given depth, and what
stands between a key and its value.  The compact layout writes no blanks; the indented one puts
every element on a line of its own.

  • `Json.write` — the text of a value in a layout,
  • `Json.compact`, `Json.pretty` — the two layouts in use.
-/

namespace SurfaceStudio.Json

/-! ## §1. Strings. -/

/-- A digit from 0 to 15 in lower-case hexadecimal. -/
def hexDigit (n : Nat) : Char := (Nat.toDigits 16 n).headD '0'

/-- How a character is written inside a string: quotes, backslashes and the controls below the
plain space are escaped, everything else stands as it is. -/
def escapedChar (c : Char) : List Char :=
  if c = '"' then ['\\', '"']
  else if c = '\\' then ['\\', '\\']
  else if c = '\x08' then ['\\', 'b']
  else if c = '\t' then ['\\', 't']
  else if c = '\n' then ['\\', 'n']
  else if c = '\x0c' then ['\\', 'f']
  else if c = '\r' then ['\\', 'r']
  else if c.toNat < 0x20 then
    ['\\', 'u', '0', '0', hexDigit (c.toNat / 16), hexDigit (c.toNat % 16)]
  else [c]

/-- A string between quotes. -/
def stringText (text : String) : String :=
  "\"" ++ String.ofList (text.toList.flatMap escapedChar) ++ "\""

/-! ## §2. Layouts. -/

/-- What is written between the parts of an array or an object. -/
structure Layout where
  /-- Stands before each element inside `depth` brackets, and before the closing bracket. -/
  gap : Nat → String
  /-- Stands between a key and its value. -/
  colon : String

/-- No blanks at all. -/
def Layout.compact : Layout := ⟨fun _ => "", ":"⟩

/-- One element a line, two spaces further in for each bracket. -/
def Layout.indented : Layout :=
  ⟨fun depth => String.ofList ('\n' :: List.replicate (2 * depth) ' '), ": "⟩

/-! ## §3. Values. -/

mutual

/-- The text of a value that stands inside `depth` brackets. -/
def writeAt (layout : Layout) (depth : Nat) : Json → String
  | .null => "null"
  | .bool true => "true"
  | .bool false => "false"
  | .number n => n.text
  | .string text => stringText text
  | .array [] => "[]"
  | .array (v :: vs) =>
    "[" ++ layout.gap (depth + 1) ++ writeAt layout (depth + 1) v
      ++ writeItems layout (depth + 1) vs ++ layout.gap depth ++ "]"
  | .object [] => "\x7b\x7d"
  | .object ((k, v) :: rest) =>
    "\x7b" ++ layout.gap (depth + 1) ++ stringText k ++ layout.colon ++ writeAt layout (depth + 1) v
      ++ writeMembers layout (depth + 1) rest ++ layout.gap depth ++ "\x7d"

/-- The elements behind the first, each behind a comma. -/
def writeItems (layout : Layout) (depth : Nat) : List Json → String
  | [] => ""
  | v :: vs => "," ++ layout.gap depth ++ writeAt layout depth v ++ writeItems layout depth vs

/-- The members behind the first, each behind a comma. -/
def writeMembers (layout : Layout) (depth : Nat) : List (String × Json) → String
  | [] => ""
  | (k, v) :: rest =>
    "," ++ layout.gap depth ++ stringText k ++ layout.colon ++ writeAt layout depth v
      ++ writeMembers layout depth rest

end

/-- The text of a whole value. -/
def write (layout : Layout) (v : Json) : String := writeAt layout 0 v

/-- The text without blanks. -/
def compact (v : Json) : String := v.write .compact

/-- The text with one element a line. -/
def pretty (v : Json) : String := v.write .indented

end SurfaceStudio.Json
