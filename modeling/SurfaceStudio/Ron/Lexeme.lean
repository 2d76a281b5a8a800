import SurfaceStudio.Powers
import SurfaceStudio.Ron.Reader
import SurfaceStudio.Text.Name

/-!
# Names, numbers and strings

The smallest parts of the notation.

  • `Reader.name` — a name, plain or behind `r#`,
  • `Reader.integer` — a whole number of 64 bits, in one of four bases,
  • `Reader.string` — a string with escapes, or a raw one.
-/

namespace SurfaceStudio.Ron

/-! ## §1. Names. -/

/-- Characters that a plain name may begin with. -/
def isNameStart (c : Char) : Bool := c == '_' || Text.isNameStart c

/-- Characters of a name behind `r#`. -/
def isRawNamePart (c : Char) : Bool := c == '.' || c == '+' || c == '-' || Text.isNamePart c

/-- What looks like a name but begins a string or a byte. -/
def literalOpenings : List (List Char) := [
  ['b', '"'], ['b', '\''], ['b', 'r', '#'], ['b', 'r', '"'], ['r', '"'], ['r', '#', '"'],
  ['r', '#', '#']]

/-- Whether a string or a byte begins like a name here. -/
def opensLiteral (cs : List Char) : Bool := literalOpenings.any fun opening => opening.isPrefixOf cs

/-- The name that a text begins with, and what follows it. -/
def splitName? (cs : List Char) : Option (List Char × List Char) :=
  if opensLiteral cs then none
  else
    match cs with
    | 'r' :: '#' :: rest =>
      match rest.takeWhile isRawNamePart with
      | [] => none
      | name => some (name, rest.dropWhile isRawNamePart)
    | c :: rest =>
      if isNameStart c then
        some (c :: rest.takeWhile Text.isNamePart, rest.dropWhile Text.isNamePart)
      else none
    | [] => none

/-- The whole text is this name, or something else than a part of a name follows it. -/
def beginsWithWord (word : List Char) (cs : List Char) : Bool :=
  word.isPrefixOf cs && !((cs.drop word.length).head?.any Text.isNamePart)

namespace Reader

/-- A name.  What could only be part of a raw name must not follow a plain one. -/
def name : Reader String := fun cs =>
  match splitName? cs with
  | none => .error .nameExpected
  | some (name, rest) =>
    if rest.head?.any isRawNamePart then .error .nameExpected else .ok (String.ofList name, rest)

/-- Reads a word if it comes next as a name of its own. -/
def acceptWord (word : List Char) : Reader Bool := fun cs =>
  if beginsWithWord word cs then .ok (true, cs.drop word.length) else .ok (false, cs)

end Reader

/-! ## §2. Integers. -/

/-- The digits of all bases, and the underscore between them. -/
def isDigitPart (c : Char) : Bool :=
  c.isDigit || ('a' ≤ c && c ≤ 'f') || ('A' ≤ c && c ≤ 'F') || c == '_'

/-- The value of a digit, in bases up to sixteen. -/
def digitValue? (c : Char) : Option Nat :=
  if c.isDigit then some (c.toNat - '0'.toNat)
  else if 'a' ≤ c ∧ c ≤ 'f' then some (c.toNat - 'a'.toNat + 10)
  else if 'A' ≤ c ∧ c ≤ 'F' then some (c.toNat - 'A'.toNat + 10)
  else none

/-- The value of digits in a base, underscores left out; each digit must be one of the base. -/
def digitsValue? (base : Nat) (digits : List Char) : Option Nat :=
  digits.foldlM (fun value c =>
    if c = '_' then some value
    else match digitValue? c with
      | some d => if d < base then some (value * base + d) else none
      | none => none) 0

/-- A type that an integer may name behind its digits. -/
structure IntegerType where
  signed : Bool
  bits : Nat
deriving DecidableEq, Repr

/-- The types by their names. -/
def integerTypes : List (List Char × IntegerType) := [
  (['i', '8'], ⟨true, 8⟩), (['i', '1', '6'], ⟨true, 16⟩), (['i', '3', '2'], ⟨true, 32⟩),
  (['i', '6', '4'], ⟨true, 64⟩), (['u', '8'], ⟨false, 8⟩), (['u', '1', '6'], ⟨false, 16⟩),
  (['u', '3', '2'], ⟨false, 32⟩), (['u', '6', '4'], ⟨false, 64⟩)]

/-- Unsigned words of 64 bits. -/
def word64 : IntegerType := ⟨false, 64⟩

/-- The integers of a type. -/
def IntegerType.holds (t : IntegerType) (value : Int) : Bool :=
  if t.signed then -(twoPow (t.bits - 1) : Int) ≤ value ∧ value < twoPow (t.bits - 1)
  else 0 ≤ value ∧ value < twoPow t.bits

/-- The type that a text begins with, and what follows it. -/
def splitType? (cs : List Char) : Option (IntegerType × List Char) :=
  integerTypes.findSome? fun (word, t) =>
    if beginsWithWord word cs then some (t, cs.drop word.length) else none

namespace Reader

/-- The base of the digits that follow, from the mark before them. -/
def base : Reader Nat := do
  if ← accept ['0', 'b'] then return 2
  else if ← accept ['0', 'o'] then return 8
  else if ← accept ['0', 'x'] then return 16
  else return 10

/-- A plus or minus sign, if there is one; true for minus. -/
def sign : Reader Bool := do
  if ← accept ['+'] then return false
  else accept ['-']

/-- Digits in a base, of which the first is not an underscore. -/
def digits (base : Nat) : Reader Nat := do
  let cs ← takeWhile isDigitPart
  match cs with
  | [] => failNext
  | c :: _ =>
    if c = '_' then fail .badInteger
    else match digitsValue? base cs with
      | some value => return value
      | none => fail .badInteger

/-- A number with its sign, and the type it names. -/
def typedInteger : Reader (Int × Option IntegerType) := do
  let negative ← sign
  let base ← base
  let magnitude ← digits base
  let value : Int := if negative then -magnitude else magnitude
  match splitType? (← rest) with
  | none => return (value, none)
  | some (t, cs) => do
    set cs
    return (value, some t)

/-- **An unsigned integer of 64 bits.**  If it names a type, that must be the type. -/
def integer : Reader Nat := do
  let (value, t) ← typedInteger
  if t.getD word64 = word64 then
    if word64.holds value then return value.toNat else fail .integerTooLarge
  else fail .badInteger

end Reader

/-! ## §3. Strings. -/

/-- What the letter of a short escape stands for. -/
def shortEscape? (c : Char) : Option Char :=
  if c = '\'' ∨ c = '"' ∨ c = '\\' then some c
  else if c = 'n' then some '\n'
  else if c = 'r' then some '\r'
  else if c = 't' then some '\t'
  else if c = '0' then some '\x00'
  else none

/-- The character of a code point. -/
def charOf? (n : Nat) : Option Char := if n.isValidChar then some (Char.ofNat n) else none

/-- The character that these bytes encode. -/
def decoded? (bytes : List UInt8) : Option Char :=
  match (String.fromUTF8? ⟨bytes.toArray⟩).map String.toList with
  | some [c] => some c
  | _ => none

namespace Reader

/-- The value of the next character as a digit up to `f`. -/
def hexDigit : Reader Nat := do
  match digitValue? (← next) with
  | some d => return d
  | none => fail .badEscape

/-- A byte in two digits. -/
def hexByte : Reader UInt8 := do
  let high ← hexDigit
  let low ← hexDigit
  return UInt8.ofNat (16 * high + low)

/-- The mark of a further byte of a character; blanks may stand behind its backslash and behind its
letter. -/
def furtherByte : Reader Unit := do
  let marked ← accept ['\\']
  skipBlanks
  let lettered ← accept ['x']
  if marked && lettered then skipBlanks else fail .badEscape

/-- More bytes in escapes of their own, until they encode a character; `more` of them at most. -/
def bytesEscape : Nat → List UInt8 → Reader Char
  | more, bytes =>
    match decoded? bytes with
    | some c => pure c
    | none =>
      match more with
      | 0 => fail .badEscape
      | more + 1 => do
        furtherByte
        bytesEscape more (bytes ++ [← hexByte])

/-- A code point in one to six digits between braces. -/
def codeEscape : Reader Char := do
  expect '\x7b'
  let ds ← takeWhile fun c => (digitValue? c).isSome
  expect '\x7d'
  match digitsValue? 16 ds with
  | none => fail .badEscape
  | some n =>
    if ds.isEmpty ∨ 6 < ds.length then fail .badEscape
    else match charOf? n with
      | some c => return c
      | none => fail .badEscape

/-- The character that an escape stands for, its backslash read.  As bytes, a character takes `more`
escapes behind its first at most. -/
def escape (more : Nat) : Reader Char := do
  let c ← next
  if c = 'x' then bytesEscape more [← hexByte]
  else if c = 'u' then codeEscape
  else match shortEscape? c with
    | some c => return c
    | none => fail .badEscape

/-- A backslash at the end of a line, once it has been read, joins the next line to this one; the
blanks that the next line begins with are left out. -/
def acceptLineEnd : Reader Bool := do
  let ended ← accept ['\n']
  let joined ← if ended then pure true else accept ['\r', '\n']
  if joined then do
    let _ ← takeWhile fun c => c == ' ' || c == '\t' || c == '\n' || c == '\r'
    return true
  else return false

/-- The characters up to the closing quote, gathered last first. -/
def stringChars : Nat → List Char → Reader (List Char)
  | 0, _ => fail .endOfText
  | fuel + 1, found => do
    let c ← next
    if c = '"' then return found.reverse
    else if c = '\\' then do
      if ← acceptLineEnd then stringChars fuel found else stringChars fuel ((← escape 3) :: found)
    else stringChars fuel (c :: found)

/-- A string whose opening quote has been read. -/
def stringRest : Reader String := do
  return String.ofList (← stringChars ((← rest).length + 1) [])

/-- The characters before the first occurrence of `ending`, and what follows it. -/
def splitAtEnding? (ending : List Char) : List Char → Option (List Char × List Char)
  | [] => none
  | c :: cs =>
    if ending.isPrefixOf (c :: cs) then some ([], (c :: cs).drop ending.length)
    else (splitAtEnding? ending cs).map fun (before, after) => (c :: before, after)

/-- A raw string behind its `r`: between quotes, with as many hash signs on either side. -/
def rawString : Reader String := do
  let hashes ← takeWhile (· == '#')
  expect '"'
  match splitAtEnding? ('"' :: hashes) (← rest) with
  | none => fail .endOfText
  | some (text, after) => do
    set after
    return String.ofList text

/-- **A string.** -/
def string : Reader String := do
  if ← accept ['"'] then stringRest
  else if ← accept ['r'] then rawString
  else failNext

end Reader

end SurfaceStudio.Ron
