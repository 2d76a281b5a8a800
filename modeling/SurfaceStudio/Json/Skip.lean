import SurfaceStudio.Json.Reader

/-!
# Skipping a value

A member that nobody asks for is only checked for syntax: its brackets are not counted, its
numbers are not valued and its escapes are not resolved.

  • `skipString`, `skipNumber` — the lexemes,
  • `skipValue` — a whole value, in the order in which its faults are seen.
-/

namespace SurfaceStudio.Json

open Reader

/-! ## §1. Lexemes. -/

/-- A number behind its sign. -/
def skipNumber : Reader Unit := do
  let _ ← numeral .badNumber false
  return ()

/-- What follows a backslash. -/
def skipEscape : Reader Unit := do
  match ← next? with
  | none => failHere .endInString
  | some b =>
    if b = 'u'.toUInt8 then do
      let _ ← fourHex
      return ()
    else if (shortEscape? b).isSome then pure ()
    else failHere .badEscape

/-- A string up to its closing quote. -/
def skipStringPieces : Nat → Reader Unit
  | 0 => failHere .endInString
  | fuel + 1 => do
    match ← peek? with
    | none => failHere .endInString
    | some b =>
      if b = '"'.toUInt8 then step
      else if b = '\\'.toUInt8 then do
        step
        skipEscape
        skipStringPieces fuel
      else if b < 0x20 then failHere .controlCharacter
      else do
        step
        skipStringPieces fuel

/-- A string whose opening quote has been read. -/
def skipString : Reader Unit := do skipStringPieces ((← bytesLeft) + 1)

/-! ## §2. Values. -/

/-- Whether an array or object goes on behind a value, the comma or the closing bracket read. -/
def goesOn (closing : Char) (ended other : Cause) : Reader Bool := do
  match ← peekToken? with
  | none => failAhead ended
  | some b =>
    if b = ','.toUInt8 then do
      step
      pure true
    else if b = closing.toUInt8 then do
      step
      pure false
    else failAhead other

/-- Whether an array or object ends at once, the closing bracket read. -/
def endsAtOnce (closing : Char) (ended : Cause) : Reader Bool := do
  match ← peekToken? with
  | none => failAhead ended
  | some b =>
    if b = closing.toUInt8 then do
      step
      pure true
    else pure false

/-- A key and the colon behind it. -/
def skipKey : Reader Unit := do
  match ← peekToken? with
  | none => failAhead .endInObject
  | some b =>
    if b = '"'.toUInt8 then do
      step
      skipString
      colon
    else failAhead .keyExpected

mutual

/-- **A whole value**; `fuel` bounds the number of values in it. -/
def skipValue : Nat → Reader Unit
  | 0 => failAhead .endInValue
  | fuel + 1 => do
    match ← peekToken? with
    | none => failAhead .endInValue
    | some b =>
      if b = '['.toUInt8 then do
        step
        if ← endsAtOnce ']' .endInList then pure () else skipElements fuel
      else if b = '\x7b'.toUInt8 then do
        step
        if ← endsAtOnce '\x7d' .endInObject then pure () else skipMembers fuel
      else if b = '"'.toUInt8 then do
        step
        skipString
      else if b = '-'.toUInt8 then do
        step
        skipNumber
      else if isDigit b then skipNumber
      else do
        let _ ← scalar b
        return ()

/-- The elements of an array that has not ended, and its closing bracket. -/
def skipElements : Nat → Reader Unit
  | 0 => failAhead .endInList
  | fuel + 1 => do
    skipValue fuel
    if ← goesOn ']' .endInList .commaOrBracketExpected then skipElements fuel else pure ()

/-- The members of an object that has not ended, and its closing brace. -/
def skipMembers : Nat → Reader Unit
  | 0 => failAhead .endInObject
  | fuel + 1 => do
    skipKey
    skipValue fuel
    if ← goesOn '\x7d' .endInObject .commaOrBraceExpected then skipMembers fuel else pure ()

end

/-- A value of any size. -/
def skip : Reader Unit := do skipValue (2 * (← bytesLeft) + 2)

end SurfaceStudio.Json
