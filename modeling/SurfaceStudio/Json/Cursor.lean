import SurfaceStudio.Json.Fault

/-!
# A position in a text

A cursor holds the bytes that are still to be read and the place reached so far.  Columns count
bytes, and a line feed that has been read puts the place at column 0 of the next line.

  • `Cursor.step`, `Cursor.skipBlanks` — moving on,
  • `Reader` — a reading that moves the cursor or fails at a place,
  • `Reader.failHere`, `Reader.failAhead` — a fault at the last byte read, or at the next one.
-/

namespace SurfaceStudio.Json

/-! ## §1. Cursors. -/

structure Cursor where
  rest : List UInt8
  line : Nat
  column : Nat
deriving DecidableEq, Repr

namespace Cursor

/-- The beginning of a text. -/
def start (bytes : List UInt8) : Cursor := ⟨bytes, 1, 0⟩

/-- Past the next byte, if there is one. -/
def step : Cursor → Cursor
  | ⟨[], line, column⟩ => ⟨[], line, column⟩
  | ⟨b :: rest, line, column⟩ =>
    if b = '\n'.toUInt8 then ⟨rest, line + 1, 0⟩ else ⟨rest, line, column + 1⟩

/-- The place reached. -/
def here (c : Cursor) : Place := ⟨c.line, c.column⟩

/-- The place of the next byte; at the end of the text, the place reached. -/
def ahead (c : Cursor) : Place := c.step.here

/-- Past the next `n` bytes. -/
def steps : Nat → Cursor → Cursor
  | 0, c => c
  | n + 1, c => steps n c.step

/-- The white space of JSON. -/
def isBlank (b : UInt8) : Bool :=
  b = ' '.toUInt8 || b = '\n'.toUInt8 || b = '\t'.toUInt8 || b = '\r'.toUInt8

/-- Past the white space that comes next. -/
def skipBlanks (c : Cursor) : Cursor := c.steps (c.rest.takeWhile isBlank).length

end Cursor

/-! ## §2. Readings. -/

/-- Reads from a cursor: a result and where the reading stopped, or a fault. -/
abbrev Reader := StateT Cursor (Except Fault)

namespace Reader

variable {α : Type}

/-- Objects at the place reached. -/
def failHere (cause : Cause) : Reader α := fun c => .error ⟨cause, c.here⟩

/-- Objects at the next byte. -/
def failAhead (cause : Cause) : Reader α := fun c => .error ⟨cause, c.ahead⟩

/-- The next byte, without reading it. -/
def peek? : Reader (Option UInt8) := fun c => .ok (c.rest.head?, c)

/-- Past the next byte. -/
def step : Reader Unit := fun c => .ok ((), c.step)

/-- The next byte, read. -/
def next? : Reader (Option UInt8) := fun c => .ok (c.rest.head?, c.step)

/-- Past white space. -/
def skipBlanks : Reader Unit := fun c => .ok ((), c.skipBlanks)

/-- The next byte behind white space, without reading it. -/
def peekToken? : Reader (Option UInt8) := do
  skipBlanks
  peek?

/-- The bytes not yet read, as a bound on what is left to do. -/
def bytesLeft : Reader Nat := fun c => .ok (c.rest.length, c)

end Reader

end SurfaceStudio.Json
