import SurfaceStudio.Json.Number
import SurfaceStudio.Text.Quoted

/-!
# What can be wrong with a JSON text

Causes are kept apart from their wording.  A cause found while reading a text comes with the place
it was found at.

  • `Cause` — everything that reading and decoding can object to,
  • `Cause.message`, `Fault.message` — the wording, in one place each.
-/

namespace SurfaceStudio.Json

/-! ## §1. Causes. -/

/-- What stood where something else was expected. -/
inductive Found where
  | null
  | bool (value : Bool)
  | number (value : Number)
  | string (text : String)
  | sequence
  | map
deriving DecidableEq

inductive Cause where
  | endInValue
  | endInList
  | endInObject
  | endInString
  | valueExpected
  | literalExpected
  | colonExpected
  | commaOrBracketExpected
  | commaOrBraceExpected
  | keyExpected
  | trailingComma
  | trailingCharacters
  | badNumber
  | numberTooLarge
  | badEscape
  | loneSurrogate
  | unfinishedPair
  | controlCharacter
  | notUnicode
  | tooDeep
  /-- A value of another kind. -/
  | wrongKind (found : Found) (expected : String)
  /-- A value of the right kind that cannot stand here. -/
  | wrongValue (found : Found) (expected : String)
  /-- A sequence with another number of elements. -/
  | wrongLength (length : Nat) (expected : String)
  | missingField (name : String)
  | duplicateField (name : String)
  | unknownVariant (name : String) (variants : List String)
deriving DecidableEq

/-! ## §2. Places. -/

/-- A line, counted from 1, and a number of bytes into it. -/
structure Place where
  line : Nat
  column : Nat
deriving DecidableEq, Repr

structure Fault where
  cause : Cause
  place : Place
deriving DecidableEq

/-! ## §3. Wording. -/

/-- The name of a value for the reader of the message. -/
def Found.describe : Found → String
  | .null => "null"
  | .bool true => "boolean `true`"
  | .bool false => "boolean `false`"
  | .number (.integer value _) => "integer `" ++ Number.integerText value ++ "`"
  | .number (.double value) => "floating point `" ++ Number.doubleText value ++ "`"
  | .string text => "string " ++ Text.quoted text
  | .sequence => "sequence"
  | .map => "map"

/-- The alternatives between backticks, joined by `or`. -/
def alternatives (names : List String) : String :=
  String.intercalate " or " (names.map fun name => "`" ++ name ++ "`")

def Cause.message : Cause → String
  | .endInValue => "EOF while parsing a value"
  | .endInList => "EOF while parsing a list"
  | .endInObject => "EOF while parsing an object"
  | .endInString => "EOF while parsing a string"
  | .valueExpected => "expected value"
  | .literalExpected => "expected ident"
  | .colonExpected => "expected `:`"
  | .commaOrBracketExpected => "expected `,` or `]`"
  | .commaOrBraceExpected => "expected `,` or `\x7d`"
  | .keyExpected => "key must be a string"
  | .trailingComma => "trailing comma"
  | .trailingCharacters => "trailing characters"
  | .badNumber => "invalid number"
  | .numberTooLarge => "number out of range"
  | .badEscape => "invalid escape"
  | .loneSurrogate => "lone leading surrogate in hex escape"
  | .unfinishedPair => "unexpected end of hex escape"
  | .controlCharacter => "control character (\\u0000-\\u001F) found while parsing a string"
  | .notUnicode => "invalid unicode code point"
  | .tooDeep => "recursion limit exceeded"
  | .wrongKind found expected =>
    "invalid type: " ++ found.describe ++ ", expected " ++ expected
  | .wrongValue found expected =>
    "invalid value: " ++ found.describe ++ ", expected " ++ expected
  | .wrongLength length expected =>
    "invalid length " ++ Nat.repr length ++ ", expected " ++ expected
  | .missingField name => "missing field `" ++ name ++ "`"
  | .duplicateField name => "duplicate field `" ++ name ++ "`"
  | .unknownVariant name variants =>
    "unknown variant `" ++ name ++ "`, expected " ++ alternatives variants

def Fault.message (fault : Fault) : String :=
  fault.cause.message ++ " at line " ++ Nat.repr fault.place.line ++ " column "
    ++ Nat.repr fault.place.column

end SurfaceStudio.Json
