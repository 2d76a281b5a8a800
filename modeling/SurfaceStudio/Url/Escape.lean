/-!
# Percent signs

Characters that may not stand as they are in a part of a URL are written as their bytes, each
behind a percent sign.  Which characters these are depends on the part.

  • `escape` — a text with the characters of a class written as bytes,
  • `unescape` — the bytes that a text stands for,
  • `isFragmentEscaped`, `isQueryEscaped`, `isPathEscaped`, `isUserEscaped` — the classes.
-/

namespace SurfaceStudio.Url

/-! ## §1. Classes. -/

/-- Controls, and everything beyond ASCII: escaped wherever they stand. -/
def isControlEscaped (c : Char) : Bool := c.toNat < 0x20 || 0x7e < c.toNat

/-- Escaped in a fragment. -/
def isFragmentEscaped (c : Char) : Bool :=
  isControlEscaped c || c == ' ' || c == '"' || c == '<' || c == '>' || c == '\x60'

/-- Escaped in a query; the single quote only where the scheme is a special one. -/
def isQueryEscaped (special : Bool) (c : Char) : Bool :=
  isControlEscaped c || c == ' ' || c == '"' || c == '#' || c == '<' || c == '>'
    || (special && c == '\'')

/-- Escaped in a path. -/
def isPathEscaped (c : Char) : Bool :=
  isFragmentEscaped c || c == '#' || c == '?' || c == '\x7b' || c == '\x7d'

/-- Escaped in the name and the password before a host. -/
def isUserEscaped (c : Char) : Bool :=
  isPathEscaped c || c == '/' || c == ':' || c == ';' || c == '=' || c == '@' || c == '['
    || c == '\\' || c == ']' || c == '^' || c == '|'

/-! ## §2. Escaping. -/

/-- A digit from 0 to 15 in upper-case hexadecimal. -/
def hexDigit (n : Nat) : Char := ((Nat.toDigits 16 n).headD '0').toUpper

/-- A byte behind a percent sign. -/
def escapedByte (b : UInt8) : List Char :=
  ['%', hexDigit (b.toNat / 16), hexDigit (b.toNat % 16)]

/-- One character, as its bytes if it is in the class. -/
def escapedChar (escaped : Char → Bool) (c : Char) : List Char :=
  if escaped c then (String.utf8EncodeChar c).flatMap escapedByte else [c]

/-- **A text with the characters of a class written as bytes.** -/
def escape (escaped : Char → Bool) (text : List Char) : List Char :=
  text.flatMap (escapedChar escaped)

/-! ## §3. Unescaping. -/

/-- The value of a digit in hexadecimal. -/
def hexValue? (c : Char) : Option Nat :=
  if c.isDigit then some (c.toNat - '0'.toNat)
  else if 'a' ≤ c ∧ c ≤ 'f' then some (c.toNat - 'a'.toNat + 10)
  else if 'A' ≤ c ∧ c ≤ 'F' then some (c.toNat - 'A'.toNat + 10)
  else none

/-- The byte behind a percent sign, if two digits follow. -/
def byteOf? (high low : Char) : Option UInt8 := do
  return UInt8.ofNat (16 * (← hexValue? high) + (← hexValue? low))

/-- **The bytes that a text stands for.**  A percent sign without two digits stands for itself. -/
def unescape : List Char → List UInt8
  | '%' :: high :: low :: rest =>
    match byteOf? high low with
    | some b => b :: unescape rest
    | none => '%'.toUInt8 :: unescape (high :: low :: rest)
  | c :: rest => String.utf8EncodeChar c ++ unescape rest
  | [] => []

end SurfaceStudio.Url
