/-!
# Reading object notation

Settings are written in RON: fields in parentheses, names without quotes, comments where blanks may
stand.  A reading consumes characters from the front of a text or fails.

  • `Reader`, `Fault` — readings, and what can be wrong with a text,
  • `afterBlanks` — what is left of a text behind blanks and comments,
  • `Reader.items`, `Reader.separated` — things between commas up to a closing bracket, and with it.
-/

namespace SurfaceStudio.Ron

/-! ## §1. Faults. -/

inductive Fault where
  | endOfText
  | unexpected (found : Char)
  | unclosedComment
  | nameExpected
  | wrongName (found : String)
  | badInteger
  | integerTooLarge
  | badNumber
  | badEscape
  | tooDeep
  | missingField (name : String)
  | duplicateField (name : String)
deriving DecidableEq, Repr

def Fault.message : Fault → String
  | .endOfText => "unexpected end"
  | .unexpected found => "unexpected character `" ++ String.singleton found ++ "`"
  | .unclosedComment => "unclosed comment"
  | .nameExpected => "name expected"
  | .wrongName found => "unexpected name `" ++ found ++ "`"
  | .badInteger => "invalid integer"
  | .integerTooLarge => "integer out of range"
  | .badNumber => "invalid number"
  | .badEscape => "invalid escape"
  | .tooDeep => "too many nested values"
  | .missingField name => "missing field `" ++ name ++ "`"
  | .duplicateField name => "duplicate field `" ++ name ++ "`"

/-! ## §2. Blanks and comments. -/

/-- The characters with the property Pattern_White_Space. -/
def isBlank (c : Char) : Bool :=
  let n := c.toNat
  (0x9 ≤ n && n ≤ 0xd) || n == 0x20 || n == 0x85 || n == 0x200e || n == 0x200f || n == 0x2028
    || n == 0x2029

/-- Where a position stands among comments. -/
inductive Within where
  | nothing
  /-- In a comment up to the end of the line. -/
  | line
  /-- In a comment between marks, with this many more around it. -/
  | block (outer : Nat)
deriving DecidableEq, Repr

/-- **What is left of a text behind blanks and comments.** -/
def afterBlanks : Within → List Char → Except Fault (List Char)
  | .nothing, '/' :: '/' :: rest => afterBlanks .line rest
  | .nothing, '/' :: '*' :: rest => afterBlanks (.block 0) rest
  | .nothing, '/' :: c :: _ => .error (.unexpected c)
  | .nothing, '/' :: [] => .error .endOfText
  | .nothing, c :: rest => if isBlank c then afterBlanks .nothing rest else .ok (c :: rest)
  | .nothing, [] => .ok []
  | .line, c :: rest => afterBlanks (if c = '\n' then .nothing else .line) rest
  | .line, [] => .ok []
  | .block 0, '*' :: '/' :: rest => afterBlanks .nothing rest
  | .block (outer + 1), '*' :: '/' :: rest => afterBlanks (.block outer) rest
  | .block outer, '/' :: '*' :: rest => afterBlanks (.block (outer + 1)) rest
  | .block outer, _ :: rest => afterBlanks (.block outer) rest
  | .block _, [] => .error .unclosedComment

/-! ## §3. Readings. -/

/-- Reads from the front of a text: a result and the rest of the text, or a fault. -/
abbrev Reader := StateT (List Char) (Except Fault)

namespace Reader

variable {α σ : Type}

def fail (fault : Fault) : Reader α := fun _ => .error fault

/-- Objects to the next character. -/
def failNext : Reader α := fun
  | [] => .error .endOfText
  | c :: _ => .error (.unexpected c)

/-- The next character, without reading it. -/
def peek? : Reader (Option Char) := fun cs => .ok (cs.head?, cs)

/-- What has not been read. -/
def rest : Reader (List Char) := fun cs => .ok (cs, cs)

/-- The next character. -/
def next : Reader Char := fun
  | [] => .error .endOfText
  | c :: cs => .ok (c, cs)

/-- Reads these characters if they come next. -/
def accept (text : List Char) : Reader Bool := fun cs =>
  if text.isPrefixOf cs then .ok (true, cs.drop text.length) else .ok (false, cs)

/-- Reads a character that has to come next. -/
def expect (c : Char) : Reader Unit := do
  if ← accept [c] then pure () else failNext

/-- The characters of a class that come next. -/
def takeWhile (p : Char → Bool) : Reader (List Char) := fun cs =>
  .ok (cs.takeWhile p, cs.dropWhile p)

/-- Past blanks and comments. -/
def skipBlanks : Reader Unit := fun cs => do return ((), ← afterBlanks .nothing cs)

/-- Past blanks, and past a comma and the blanks behind it if there is one. -/
def comma : Reader Bool := do
  skipBlanks
  if ← accept [','] then do
    skipBlanks
    return true
  else return false

/-- Things between commas up to a closing bracket; a comma may stand behind the last of them.  Each
is read by `item`, which carries what has been read so far. -/
def itemsWithin (closing : Char) (item : σ → Reader σ) : Nat → Bool → σ → Reader σ
  | 0, _, _ => fail .endOfText
  | fuel + 1, mayGoOn, found => do
    skipBlanks
    if (← peek?) = some closing then return found
    else if mayGoOn then do
      let found ← item found
      itemsWithin closing item fuel (← comma) found
    else failNext

/-- Things between commas up to a closing bracket. -/
def items (closing : Char) (item : σ → Reader σ) (empty : σ) : Reader σ := do
  itemsWithin closing item ((← rest).length + 1) true empty

/-- Things between commas and the closing bracket behind them. -/
def separated (closing : Char) (item : σ → Reader σ) (empty : σ) : Reader σ := do
  let found ← items closing item empty
  expect closing
  return found

end Reader

end SurfaceStudio.Ron
