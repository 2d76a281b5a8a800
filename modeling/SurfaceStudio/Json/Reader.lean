import SurfaceStudio.Json.Basic
import SurfaceStudio.Json.Cursor

/-!
# Reading JSON text

One reading for each construct of the grammar, over bytes.  A bracket may be opened while the
budget of brackets lasts, which bounds the depth of the values that are read.

  • `numeral`, `stringRest` — the lexemes,
  • `elements`, `members` — the insides of arrays and objects, for any reading of what they hold,
  • `value` — a value inside a budget of brackets,
  • `read` — the value that a whole text stands for.
-/

namespace SurfaceStudio.Json

open Reader

/-- At most this many brackets are open at once. -/
def bracketBudget : Nat := 127

/-! ## §1. Literals and numbers. -/

/-- The rest of a literal, whose first letter has been read. -/
def literalRest : List Char → Reader Unit
  | [] => pure ()
  | c :: cs => do
    match ← next? with
    | none => failHere .endInValue
    | some b => if b = c.toUInt8 then literalRest cs else failHere .literalExpected

def isDigit (b : UInt8) : Bool := '0'.toUInt8 ≤ b && b ≤ '9'.toUInt8

/-- The value of a digit. -/
def digitValue (b : UInt8) : Nat := b.toNat - '0'.toNat

/-- The digits that come next, as many as there are. -/
def digits : Reader (List Nat) := fun c =>
  let run := c.rest.takeWhile isDigit
  .ok (run.map digitValue, c.steps run.length)

/-- The digits before the point: a single zero, or digits that begin with another one. -/
def wholeDigits (ended : Cause) : Reader (List Nat) := do
  match ← peek? with
  | none => failHere ended
  | some b =>
    if b = '0'.toUInt8 then do
      step
      match ← peek? with
      | none => pure [0]
      | some b' => if isDigit b' then failAhead .badNumber else pure [0]
    else if isDigit b then digits
    else do
      step
      failHere .badNumber

/-- A point with at least one digit behind it, if a point comes next. -/
def fractionDigits (ended : Cause) : Reader (Option (List Nat)) := do
  if (← peek?) = some '.'.toUInt8 then do
    step
    let ds ← digits
    if ds ≠ [] then pure (some ds)
    else if (← peek?).isNone then failAhead ended
    else failAhead .badNumber
  else pure none

/-- The sign of an exponent, if one comes next; `true` for minus. -/
def exponentSign : Reader Bool := do
  match ← peek? with
  | none => pure false
  | some b =>
    if b = '+'.toUInt8 then do step; pure false
    else if b = '-'.toUInt8 then do step; pure true
    else pure false

/-- An exponent with at least one digit, if one comes next. -/
def exponentDigits (ended : Cause) : Reader (Option (Bool × List Nat)) := do
  match ← peek? with
  | none => pure none
  | some b =>
    if b = 'e'.toUInt8 ∨ b = 'E'.toUInt8 then do
      step
      let minus ← exponentSign
      match ← peek? with
      | none => failHere ended
      | some b =>
        if isDigit b then return some (minus, ← digits)
        else do
          step
          failHere .badNumber
    else pure none

/-- A number behind its sign; `ended` is the objection to a text that stops too early. -/
def numeral (ended : Cause) (negative : Bool) : Reader Numeral := do
  let whole ← wholeDigits ended
  let fraction ← fractionDigits ended
  let exponent ← exponentDigits ended
  return ⟨negative, whole, fraction, exponent⟩

/-- The number behind its sign, if it is not too large. -/
def numberRest (negative : Bool) : Reader Number := do
  let n ← numeral .endInValue negative
  match n.value with
  | .ok found => return found
  | .error unread => fun c => .error ⟨.numberTooLarge, ⟨c.line, c.column - unread⟩⟩

/-! ## §2. Strings. -/

/-- The value of a hexadecimal digit. -/
def hexValue? (b : UInt8) : Option Nat :=
  if isDigit b then some (digitValue b)
  else if 'a'.toUInt8 ≤ b ∧ b ≤ 'f'.toUInt8 then some (b.toNat - 'a'.toNat + 10)
  else if 'A'.toUInt8 ≤ b ∧ b ≤ 'F'.toUInt8 then some (b.toNat - 'A'.toNat + 10)
  else none

/-- The value of four hexadecimal digits. -/
def hexNumber? (bytes : List UInt8) : Option Nat :=
  bytes.foldl (fun n b => do return (← n) * 16 + (← hexValue? b)) (some 0)

/-- Reads four bytes as hexadecimal digits. -/
def fourHex : Reader Nat := fun c =>
  if c.rest.length < 4 then .error ⟨.endInString, (c.steps c.rest.length).here⟩
  else
    match hexNumber? (c.rest.take 4) with
    | some n => .ok (n, c.steps 4)
    | none => .error ⟨.badEscape, (c.steps 4).here⟩

/-- Reads the byte `expected` between the two halves of a surrogate pair. -/
def pairByte (expected : Char) : Reader Unit := do
  match ← peek? with
  | none => failHere .endInString
  | some b => do
    step
    if b = expected.toUInt8 then pure () else failHere .unfinishedPair

def isLeading (n : Nat) : Bool := 0xd800 ≤ n && n ≤ 0xdbff

def isTrailing (n : Nat) : Bool := 0xdc00 ≤ n && n ≤ 0xdfff

/-- The character that an escape by code stands for; characters above `U+FFFF` take two codes. -/
def codeEscape : Reader Char := do
  let n ← fourHex
  if isTrailing n then failHere .loneSurrogate
  else if isLeading n then do
    pairByte '\\'
    pairByte 'u'
    let m ← fourHex
    if isTrailing m then return Char.ofNat ((n - 0xd800) * 0x400 + (m - 0xdc00) + 0x10000)
    else failHere .loneSurrogate
  else return Char.ofNat n

/-- What the letter of a short escape stands for. -/
def shortEscape? (b : UInt8) : Option UInt8 :=
  if b = '"'.toUInt8 ∨ b = '\\'.toUInt8 ∨ b = '/'.toUInt8 then some b
  else if b = 'b'.toUInt8 then some 0x08
  else if b = 'f'.toUInt8 then some 0x0c
  else if b = 'n'.toUInt8 then some 0x0a
  else if b = 'r'.toUInt8 then some 0x0d
  else if b = 't'.toUInt8 then some 0x09
  else none

/-- The bytes that the escape behind a backslash stands for. -/
def escape : Reader (List UInt8) := do
  match ← next? with
  | none => failHere .endInString
  | some b =>
    if b = 'u'.toUInt8 then return String.utf8EncodeChar (← codeEscape)
    else
      match shortEscape? b with
      | some b' => return [b']
      | none => failHere .badEscape

/-- The bytes that come next in a string, or none for the closing quote. -/
def stringPiece : Reader (Option (List UInt8)) := do
  match ← next? with
  | none => failHere .endInString
  | some b =>
    if b = '"'.toUInt8 then return none
    else if b = '\\'.toUInt8 then return some (← escape)
    else if b < 0x20 then failHere .controlCharacter
    else return some [b]

/-- The bytes up to the closing quote, gathered last piece first. -/
def stringPieces : Nat → List (List UInt8) → Reader (List UInt8)
  | 0, _ => failHere .endInString
  | fuel + 1, pieces => do
    match ← stringPiece with
    | none => return pieces.reverse.flatten
    | some piece => stringPieces fuel (piece :: pieces)

/-- The text of a string, whose opening quote has been read. -/
def stringRest : Reader String := do
  let bytes ← stringPieces ((← bytesLeft) + 1) []
  match String.fromUTF8? ⟨bytes.toArray⟩ with
  | some text => return text
  | none => failHere .notUnicode

/-! ## §3. The insides of arrays and objects. -/

/-- Whether another element follows, with the comma before it read. -/
def nextElement (first : Bool) : Reader Bool := do
  match ← peekToken? with
  | none => failAhead .endInList
  | some b =>
    if b = ']'.toUInt8 then pure false
    else if first then pure true
    else if b = ','.toUInt8 then do
      step
      match ← peekToken? with
      | none => failAhead .endInValue
      | some b' => if b' = ']'.toUInt8 then failAhead .trailingComma else pure true
    else failAhead .commaOrBracketExpected

/-- The elements up to the closing bracket, gathered last first. -/
def elements {α : Type} (element : Reader α) : Nat → Bool → List α → Reader (List α)
  | 0, _, _ => failAhead .endInList
  | fuel + 1, first, found => do
    if ← nextElement first then elements element fuel false ((← element) :: found)
    else return found.reverse

/-- The key of the next member, with the comma before it read; none before the closing brace. -/
def nextKey (first : Bool) : Reader (Option String) := do
  match ← peekToken? with
  | none => failAhead .endInObject
  | some b =>
    if b = '\x7d'.toUInt8 then pure none
    else if first then
      if b = '"'.toUInt8 then do
        step
        return some (← stringRest)
      else failAhead .keyExpected
    else if b = ','.toUInt8 then do
      step
      match ← peekToken? with
      | none => failAhead .endInValue
      | some b' =>
        if b' = '"'.toUInt8 then do
          step
          return some (← stringRest)
        else if b' = '\x7d'.toUInt8 then failAhead .trailingComma
        else failAhead .keyExpected
    else failAhead .commaOrBraceExpected

/-- The colon behind a key. -/
def colon : Reader Unit := do
  match ← peekToken? with
  | none => failAhead .endInObject
  | some b => if b = ':'.toUInt8 then step else failAhead .colonExpected

/-- The members up to the closing brace; each key is handed to `member`, which reads what follows
it and carries what has been read so far. -/
def members {σ : Type} (member : σ → String → Reader σ) : Nat → Bool → σ → Reader σ
  | 0, _, _ => failAhead .endInObject
  | fuel + 1, first, read => do
    match ← nextKey first with
    | none => return read
    | some key => members member fuel false (← member read key)

/-- Everything between the brackets of an array, and the closing one. -/
def arrayRest {α : Type} (element : Reader α) : Reader (List α) := do
  let items ← elements element ((← bytesLeft) + 1) true []
  step
  return items

/-- Everything between the braces of an object, and the closing one. -/
def objectRest {σ : Type} (member : σ → String → Reader σ) (empty : σ) : Reader σ := do
  let read ← members member ((← bytesLeft) + 1) true empty
  step
  return read

/-! ## §4. Values. -/

/-- Null, a boolean, a number or a string, of which `b` is the first byte; anything else is an
objection. -/
def scalar (b : UInt8) : Reader Json := do
  if b = 'n'.toUInt8 then do
    step
    literalRest ['u', 'l', 'l']
    return .null
  else if b = 't'.toUInt8 then do
    step
    literalRest ['r', 'u', 'e']
    return .bool true
  else if b = 'f'.toUInt8 then do
    step
    literalRest ['a', 'l', 's', 'e']
    return .bool false
  else if b = '-'.toUInt8 then do
    step
    return .number (← numberRest true)
  else if isDigit b then return .number (← numberRest false)
  else if b = '"'.toUInt8 then do
    step
    return .string (← stringRest)
  else failAhead .valueExpected

/-- Reads the value of a member and puts it under its key; the last of equal keys wins. -/
def genericMember (value : Reader Json) (read : Members) (key : String) : Reader Members := do
  colon
  return read.insert key (← value)

/-- A value, where `inner` reads what stands inside its brackets, if there may be any. -/
def valueWith (inner : Option (Reader Json)) : Reader Json := do
  match ← peekToken? with
  | none => failAhead .endInValue
  | some b =>
    if b = '['.toUInt8 then
      match inner with
      | none => failAhead .tooDeep
      | some inner => do
        step
        return .array (← arrayRest inner)
    else if b = '\x7b'.toUInt8 then
      match inner with
      | none => failAhead .tooDeep
      | some inner => do
        step
        return .object (← objectRest (genericMember inner) [])
    else scalar b

/-- **A value inside a budget of brackets.** -/
def value : Nat → Reader Json
  | 0 => valueWith none
  | budget + 1 => valueWith (some (value budget))

/-- Nothing but white space up to the end of the text. -/
def atEnd : Reader Unit := do
  if (← peekToken?).isSome then failAhead .trailingCharacters else pure ()

/-- Runs a reading over a whole text. -/
def readWith {α : Type} (reading : Reader α) (bytes : List UInt8) : Except Fault α := do
  let (a, c) ← reading (.start bytes)
  let _ ← atEnd c
  return a

/-- The bytes of a text. -/
def bytesOf (text : String) : List UInt8 := text.toUTF8.toList

/-- **The value that a text stands for.** -/
def read (text : String) : Except Fault Json := readWith (value bracketBudget) (bytesOf text)

end SurfaceStudio.Json
