import SurfaceStudio.Json.Skip

/-!
# Decoding typed values

A decoder says how a type is read in two ways: straight from a text, where faults come with a
place, and from a value that has been read before, where they are causes alone.

  • `Decoder` — the pair of the two ways,
  • `Decoder.string`, `Decoder.list`, `Decoder.optional`, `Decoder.variants` — the basic decoders,
  • `Decoder.readText`, `Decoder.readValue` — running one.
-/

namespace SurfaceStudio.Wire

open Json Json.Reader

/-! ## §1. Decoders. -/

structure Decoder (α : Type) where
  /-- From a text, while the budget of brackets lasts. -/
  fromText : Nat → Reader α
  /-- From a value. -/
  fromValue : Json → Except Cause α

variable {α β : Type}

/-- What a value is called in a message. -/
def found : Json → Found
  | .null => .null
  | .bool b => .bool b
  | .number n => .number n
  | .string text => .string text
  | .array _ => .sequence
  | .object _ => .map

namespace Decoder

/-- Applies a function to what is decoded. -/
def map (f : α → β) (d : Decoder α) : Decoder β where
  fromText budget := do return f (← d.fromText budget)
  fromValue v := (d.fromValue v).map f

/-- Decodes a whole text. -/
def readText (d : Decoder α) (bytes : List UInt8) : Except Fault α :=
  readWith (d.fromText bracketBudget) bytes

/-- Decodes a value. -/
def readValue (d : Decoder α) (v : Json) : Except Cause α := d.fromValue v

end Decoder

/-! ## §2. Values of the wrong kind. -/

/-- Objects to the value that begins with `b`.  A scalar is read first, so that the message can
show it; a bracket is objected to where it stands. -/
def wrongKind (expected : String) (b : UInt8) : Reader α := do
  if b = '['.toUInt8 then failHere (.wrongKind .sequence expected)
  else if b = '\x7b'.toUInt8 then failHere (.wrongKind .map expected)
  else do
    let v ← scalar b
    failHere (.wrongKind (found v) expected)

/-- Opens a bracket if the budget allows it. -/
def openBracket (budget : Nat) (inside : Nat → Reader α) : Reader α :=
  match budget with
  | 0 => failAhead .tooDeep
  | budget + 1 => do
    step
    inside budget

/-- Reads what begins with the next byte behind white space. -/
def withToken (reading : UInt8 → Reader α) : Reader α := do
  match ← peekToken? with
  | none => failAhead .endInValue
  | some b => reading b

/-! ## §3. Basic decoders. -/

namespace Decoder

/-- A string. -/
def string : Decoder String where
  fromText _ := withToken fun b => do
    if b = '"'.toUInt8 then do
      step
      stringRest
    else wrongKind "a string" b
  fromValue
    | .string text => .ok text
    | v => .error (.wrongKind (found v) "a string")

/-- A number, as a double. -/
def double : Decoder Binary64 where
  fromText _ := withToken fun b => do
    if b = '-'.toUInt8 ∨ isDigit b then
      match ← scalar b with
      | .number n =>
        match n.toBinary64? with
        | some x => return x
        | none => failHere .numberTooLarge
      | v => failHere (.wrongKind (found v) "f64")
    else wrongKind "f64" b
  fromValue
    | .number n =>
      match n.toBinary64? with
      | some x => .ok x
      | none => .error .numberTooLarge
    | v => .error (.wrongKind (found v) "f64")

/-- Any value. -/
def json : Decoder Json where
  fromText := value
  fromValue := .ok

/-- Nothing but null. -/
def unit : Decoder Unit where
  fromText _ := withToken fun b => do
    if b = 'n'.toUInt8 then do
      let _ ← scalar b
      return ()
    else wrongKind "unit" b
  fromValue
    | .null => .ok ()
    | v => .error (.wrongKind (found v) "unit")

/-- Null for nothing. -/
def optional (d : Decoder α) : Decoder (Option α) where
  fromText budget := do
    match ← peekToken? with
    | some b =>
      if b = 'n'.toUInt8 then do
        let _ ← scalar b
        return none
      else return some (← d.fromText budget)
    | none => return some (← d.fromText budget)
  fromValue
    | .null => .ok none
    | v => (d.fromValue v).map some

/-- A list of any length. -/
def list (d : Decoder α) : Decoder (List α) where
  fromText budget := withToken fun b => do
    if b = '['.toUInt8 then openBracket budget fun budget => arrayRest (d.fromText budget)
    else wrongKind "a sequence" b
  fromValue
    | .array items => items.mapM d.fromValue
    | v => .error (.wrongKind (found v) "a sequence")

/-- The value that a name stands for. -/
def variant (table : List (String × α)) (name : String) : Except Cause α :=
  match table.lookup name with
  | some a => .ok a
  | none => .error (.unknownVariant name (table.map (·.1)))

/-- The value that a name just read stands for. -/
def variantHere (table : List (String × α)) (name : String) : Reader α :=
  match variant table name with
  | .ok a => pure a
  | .error cause => failHere cause

/-- The closing brace behind the only member of an object. -/
def soleMemberEnd : Reader Unit := do
  match ← peekToken? with
  | none => failHere .endInObject
  | some b => if b = '\x7d'.toUInt8 then step else failHere .valueExpected

/-- One of several names: as a string, or as the only key of an object with the value null. -/
def variants (table : List (String × α)) : Decoder α where
  fromText budget := withToken fun b => do
    if b = '"'.toUInt8 then do
      step
      variantHere table (← stringRest)
    else if b = '\x7b'.toUInt8 then
      openBracket budget fun budget => do
        let a ← withToken fun b => do
          if b = '"'.toUInt8 then do
            step
            variantHere table (← stringRest)
          else wrongKind "variant identifier" b
        colon
        unit.fromText budget
        soleMemberEnd
        return a
    else failAhead .valueExpected
  fromValue
    | .string name => variant table name
    | .object [(name, v)] => do
      let a ← variant table name
      unit.fromValue v
      return a
    | .object _ => .error (.wrongValue .map "map with a single key")
    | v => .error (.wrongKind (found v) "string or map")

end Decoder

end SurfaceStudio.Wire
