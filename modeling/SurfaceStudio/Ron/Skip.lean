import SurfaceStudio.Ron.Extensions
import SurfaceStudio.Ron.Lexeme

/-!
# Skipping a value

A field that nobody knows may have any value.  The value is read to its end and forgotten.

  • `Reader.skipNumber`, `Reader.skipRange`, `Reader.skipChar` — the lexemes that are read nowhere
    else,
  • `Reader.skipValue` — any value inside a budget of nested values.
-/

namespace SurfaceStudio.Ron

/-! ## §1. Numbers. -/

/-- The characters of a number with a fraction or an exponent. -/
def isFloatPart (c : Char) : Bool :=
  c.isDigit || c == 'e' || c == 'E' || c == '.' || c == '+' || c == '-' || c == '_'

/-- The characters of such a number at the front of a text; two dots belong to a range. -/
def floatChars : List Char → List Char
  | '.' :: '.' :: _ => []
  | c :: cs => if isFloatPart c then c :: floatChars cs else []
  | [] => []

/-- Without the plus or minus sign at the front. -/
def dropSign : List Char → List Char
  | '+' :: cs | '-' :: cs => cs
  | cs => cs

/-- What stands behind the exponent mark, or nothing at all, closes a number. -/
def isExponent : List Char → Bool
  | [] => true
  | c :: cs =>
    (c == 'e' || c == 'E') && !(dropSign cs).isEmpty && (dropSign cs).all Char.isDigit

/-- Digits with a point among them or none, and perhaps an exponent. -/
def isFloatText (cs : List Char) : Bool :=
  let cs := dropSign cs
  let whole := cs.takeWhile Char.isDigit
  match cs.dropWhile Char.isDigit with
  | '.' :: cs =>
    !(whole.isEmpty && (cs.takeWhile Char.isDigit).isEmpty)
      && isExponent (cs.dropWhile Char.isDigit)
  | cs => !whole.isEmpty && isExponent cs

/-- No underscore at the front or behind the point. -/
def underscoresFit : Bool → List Char → Bool
  | _, [] => true
  | allowed, c :: cs =>
    if c = '_' then allowed && underscoresFit allowed cs
    else if c.isDigit ∨ c = 'e' ∨ c = 'E' then underscoresFit true cs
    else if c = '.' then underscoresFit false cs
    else underscoresFit allowed cs

/-- The names of the numbers without digits. -/
def namedNumbers : List (List Char) := [['i', 'n', 'f'], ['N', 'a', 'N']]

/-- The types that such a number may name. -/
def floatTypes : List (List Char) := [[], ['f', '3', '2'], ['f', '6', '4']]

/-- Numbers without digits, with the types that they may name. -/
def numberWords : List (List Char) :=
  namedNumbers.flatMap fun name => floatTypes.map (name ++ ·)

/-- What is left behind a number without digits. -/
def afterNamedNumber? (cs : List Char) : Option (List Char) :=
  numberWords.findSome? fun word =>
    if beginsWithWord word (dropSign cs) then some ((dropSign cs).drop word.length) else none

/-- What is left behind a number with a fraction or an exponent. -/
def afterFloat? (cs : List Char) : Option (List Char) :=
  match afterNamedNumber? cs with
  | some rest => some rest
  | none =>
    let text := floatChars cs
    let rest := cs.drop text.length
    if underscoresFit false text && isFloatText (text.filter (· != '_')) then
      some ((floatTypes.tail.findSome? fun word =>
        if beginsWithWord word rest then some (rest.drop word.length) else none).getD rest)
    else none

/-- More of the text is taken up by a number with a fraction or an exponent than by digits. -/
def looksLikeFloat (cs : List Char) : Bool :=
  ((dropSign cs).takeWhile isDigitPart).length < (floatChars (dropSign cs)).length

/-- What a type holds, or without a type, what 64 bits can hold. -/
def fitsSomewhere (value : Int) (t : Option IntegerType) : Bool :=
  match t with
  | some t => t.holds value
  | none => (IntegerType.mk true 64).holds value || word64.holds value

namespace Reader

/-- A number with a fraction or an exponent. -/
def skipFloat : Reader Unit := fun cs =>
  match afterFloat? cs with
  | some rest => .ok ((), rest)
  | none => .error .badNumber

/-- An integer that fits somewhere. -/
def skipInteger : Reader Unit := do
  let (value, t) ← typedInteger
  if fitsSomewhere value t then pure () else fail .integerTooLarge

/-- Any number.  Digits that are too many for an integer still make a number. -/
def skipNumber : Reader Unit := fun cs =>
  if looksLikeFloat cs then skipFloat cs
  else
    match skipInteger cs with
    | .ok done => .ok done
    | .error _ => skipFloat cs

/-! ## §2. Characters and bytes. -/

/-- A character between single quotes, the first of them read. -/
def skipChar : Reader Unit := do
  let c ← next
  if c = '\\' then do
    let _ ← escape 0
    expect '\''
  else expect '\''

/-- What stands for a byte behind a backslash. -/
def skipByteEscape (c : Char) : Reader Unit := do
  if c = 'x' then do
    let _ ← hexByte
  else if (shortEscape? c).isSome then pure ()
  else fail .badEscape

/-- A byte between single quotes, the first of them read; unless it is an escape, a character of
ASCII stands for it. -/
def skipByte : Reader Unit := do
  let c ← next
  if c = '\\' then do
    skipByteEscape (← next)
    expect '\''
  else if c.toNat < 0x80 then expect '\''
  else failNext

/-- Bytes up to the closing quote; a character stands for its bytes. -/
def skipByteChars : Nat → Reader Unit
  | 0 => fail .endOfText
  | fuel + 1 => do
    let c ← next
    if c = '"' then pure ()
    else if c = '\\' then do
      if ← acceptLineEnd then skipByteChars fuel
      else do
        let c ← next
        if c = 'u' then do
          let _ ← codeEscape
        else skipByteEscape c
        skipByteChars fuel
    else skipByteChars fuel

/-- Several bytes between double quotes. -/
def skipByteString : Reader Unit := do
  if ← accept ['b', '"'] then skipByteChars ((← rest).length + 1)
  else if ← accept ['b', 'r'] then do
    let _ ← rawString
  else failNext

/-! ## §3. Numbers and ranges. -/

/-- Any number; a byte is one too. -/
def skipAmount : Reader Unit := do
  if ← accept ['b', '\''] then skipByte else skipNumber

/-- A number comes next. -/
def amountFollows : Reader Bool := fun cs =>
  let named := namedNumbers.any fun name => name.isPrefixOf cs
  let digits := cs.head?.any fun c => c.isDigit || c == '+' || c == '-' || c == '.'
  .ok (named || digits || ['b', '\''].isPrefixOf cs, cs)

/-- The end of a range, if its dots come next: behind an equals sign there has to be a number, and
otherwise there may be one. -/
def skipRangeEnd : Reader Unit := do
  if ← accept ['.', '.', '='] then skipAmount
  else if ← accept ['.', '.'] then do
    if ← amountFollows then skipAmount else pure ()
  else pure ()

/-- A number, or a range that begins with one. -/
def skipRange : Reader Unit := do
  skipAmount
  skipRangeEnd

/-! ## §4. What parentheses hold. -/

/-- Whether the parentheses that come next hold fields with names. -/
def namesFollow : Reader Bool := do
  let here ← rest
  expect '('
  skipBlanks
  let inside ← rest
  set here
  match splitName? inside with
  | none => return false
  | some (_, behind) =>
    match afterBlanks .nothing behind with
    | .ok (c :: _) => return c == ':'
    | .ok [] => return false
    | .error fault => fail fault

/-- What stands between parentheses. -/
inductive Content where
  /-- Fields with names. -/
  | fields
  /-- Several values. -/
  | values
  /-- One value. -/
  | value
deriving DecidableEq, Repr

/-- Reads a literal in which brackets and commas have no meaning, if one comes next. -/
def passLiteral (literal : Reader Unit) : Reader Unit := fun cs =>
  match literal cs with
  | .ok done => .ok done
  | .error .endOfText => if cs.head? = some '\'' then .ok ((), cs) else .error .endOfText
  | .error _ => .ok ((), cs)

/-- Looks for a comma outside of all brackets but the one around; `depth` counts those that are
open. -/
def valuesWithin : Nat → Nat → Reader Content
  | 0, _ => fail .endOfText
  | fuel + 1, depth => do
    skipBlanks
    passLiteral do
      expect '\''
      skipChar
    passLiteral do
      let _ ← string
    passLiteral skipByteString
    let c ← next
    if c = '(' ∨ c = '[' ∨ c = '\x7b' then valuesWithin fuel (depth + 1)
    else if c = ')' ∨ c = ']' ∨ c = '\x7d' then
      if depth = 0 then return .value else valuesWithin fuel (depth - 1)
    else if c = ',' ∧ depth = 0 then do
      skipBlanks
      return if (← peek?) = some ')' then .value else .values
    else valuesWithin fuel depth

/-- What stands between here and the closing parenthesis, without reading it. -/
def content : Reader Content := do
  skipBlanks
  let here ← rest
  let found ← match splitName? here with
    | none => valuesWithin (here.length + 1) 0
    | some (_, behind) => do
      set behind
      skipBlanks
      match ← peek? with
      | some ':' => pure .fields
      | some ')' => pure .value
      | _ => valuesWithin (here.length + 1) 0
  set here
  return found

/-! ## §5. Values. -/

/-- How values may be nested from here on: `enter` fails if no bracket may open, and `inner` reads
what stands between brackets. -/
structure Nesting where
  enter : Reader Unit
  inner : Reader Unit

/-- No bracket may open. -/
def Nesting.closed : Nesting := ⟨fail .tooDeep, fail .tooDeep⟩

/-- Brackets may open, but nothing may stand between them. -/
def Nesting.hollow : Nesting := ⟨pure (), fail .tooDeep⟩

/-- Brackets may open, and `inner` reads what stands between them. -/
def Nesting.around (inner : Reader Unit) : Nesting := ⟨pure (), inner⟩

/-- A key, a colon and a value. -/
def skipEntry (key value : Reader Unit) : Reader Unit := do
  key
  skipBlanks
  expect ':'
  skipBlanks
  value

/-- A name that is forgotten. -/
def skipName : Reader Unit := do
  let _ ← name

/-- Things between commas up to a closing bracket. -/
def skipItems (closing : Char) (item : Reader Unit) : Reader Unit :=
  items closing (fun _ => item) ()

/-- Things between brackets. -/
def skipBracketed (opening closing : Char) (n : Nesting) (item : Reader Unit) : Reader Unit := do
  expect opening
  n.enter
  skipItems closing item
  expect closing

/-- Parentheses with fields or values in them. -/
def skipParentheses (n : Nesting) : Reader Unit := do
  if ← namesFollow then skipBracketed '(' ')' n (skipEntry skipName n.inner)
  else skipBracketed '(' ')' n n.inner

/-- What follows a name: parentheses or nothing. -/
def skipAfterName (n : Nesting) : Reader Unit := do
  skipBlanks
  if (← peek?) = some '(' then skipParentheses n else pure ()

/-- A value whose own parentheses may be left out, up to the closing parenthesis; `n` is how values
may be nested in it. -/
def skipBare (n : Nesting) (value : Reader Unit) : Reader Unit := do
  if (← peek?) = some ')' then pure ()
  else
    match ← content with
    | .fields => do
      n.enter
      skipItems ')' (skipEntry skipName n.inner)
    | .values => do
      n.enter
      skipItems ')' n.inner
    | .value => value

/-- A value behind `Some`: between parentheses `held` reads it, and without them, if that is
allowed, `bare` does. -/
def skipSome (e : Extensions) (held bare : Reader Unit) : Reader Unit := do
  skipBlanks
  if ← accept ['('] then do
    skipBlanks
    held
    let _ ← comma
    expect ')'
  else if e.implicitSome then bare
  else failNext

/-- Words that stand for themselves. -/
def plainWords : List (List Char) :=
  [['t', 'r', 'u', 'e'], ['f', 'a', 'l', 's', 'e'], ['N', 'o', 'n', 'e']]

/-- Reads one of several words if it comes next. -/
def acceptAny : List (List Char) → Reader Bool
  | [] => return false
  | word :: words => do
    if ← acceptWord word then return true else acceptAny words

/-- A value that is not a name, by its first character. -/
def skipUnnamed (n : Nesting) : Reader Unit := do
  let cs ← rest
  match cs with
  | '(' :: _ => skipParentheses n
  | '[' :: _ => skipBracketed '[' ']' n n.inner
  | '\x7b' :: _ => skipBracketed '\x7b' '\x7d' n (skipEntry n.inner n.inner)
  | '\'' :: _ => do
    expect '\''
    skipChar
  | 'b' :: '\'' :: _ => skipRange
  | 'b' :: _ => skipByteString
  | '"' :: _ | 'r' :: _ => do
    let _ ← string
  | '.' :: '.' :: _ => skipRangeEnd
  | c :: _ => if c.isDigit ∨ c = '+' ∨ c = '-' ∨ c = '.' then skipRange else failNext
  | [] => failNext

/-- A value; `held` and `bare` read what stands behind `Some`. -/
def skipWith (e : Extensions) (n : Nesting) (held bare : Reader Unit) : Reader Unit := do
  if ← acceptAny plainWords then pure ()
  else if ← accept ['(', ')'] then pure ()
  else if ← acceptAny numberWords then skipRangeEnd
  else if ← acceptWord ['S', 'o', 'm', 'e'] then skipSome e held bare
  else
    match splitName? (← rest) with
    | some (_, behind) => do
      set behind
      skipAfterName n
    | none => skipUnnamed n

/-- A value, and behind `Some` another one, inside which values may be nested as `below` says. -/
def skipLevel (e : Extensions) (n below : Nesting) (value : Reader Unit) : Reader Unit :=
  skipWith e n (if e.bareSome then skipBare below value else value) value

/-- **Any value inside a budget.**  Brackets take two off it, one for themselves and one for each
of the things inside; `Some` takes one off. -/
def skipValue (e : Extensions) : Nat → Reader Unit
  | 0 => fun cs => skipWith e .closed (fail .tooDeep) (fail .tooDeep) cs
  | 1 => fun cs => skipLevel e .hollow .closed (skipValue e 0) cs
  | 2 => fun cs => skipLevel e (.around (skipValue e 0)) .hollow (skipValue e 1) cs
  | budget + 3 => fun cs =>
    skipLevel e (.around (skipValue e (budget + 1))) (.around (skipValue e budget))
      (skipValue e (budget + 2)) cs

end Reader

end SurfaceStudio.Ron
