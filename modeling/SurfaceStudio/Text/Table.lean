import SurfaceStudio.Text.Parts

/-!
# Tables of code points

A large table is written as text: rows with blanks between them, code points in hexadecimal.  A row
is a code point or a range, perhaps with a value behind an equals sign.

  `41-5A=61`       each code point of the range stands at the same distance from its value
  `100-12E/2=101`  so does every second one
  `E0-F0/0=E6`     all of them have this value
  `DF=73.73`       one code point has two values in a row

  • `Row.covers`, `Row.valuesAt` — the code points of a row and their values,
  • `Table.rows`, `Table.ranges` — the rows of a text,
  • `Table.lookup?` — the values of a code point.
-/

namespace SurfaceStudio.Text

/-! ## §1. Rows. -/

/-- Code points with their values. -/
structure Row where
  first : Nat
  last : Nat
  /-- How far apart the code points are; zero if all of them have the same values. -/
  step : Nat
  /-- The values of the first code point. -/
  values : List Nat
deriving DecidableEq, Repr

namespace Row

/-- The row says something about a code point. -/
def covers (r : Row) (n : Nat) : Bool :=
  r.first ≤ n && n ≤ r.last && (r.step ≤ 1 || (n - r.first) % r.step == 0)

/-- What a row says about one of its code points. -/
def valuesAt (r : Row) (n : Nat) : List Nat :=
  if r.step = 0 then r.values else r.values.map (· + (n - r.first))

end Row

/-! ## §2. Reading. -/

namespace Table

/-- The value of a digit up to `F`. -/
def digitValue (c : Char) : Nat :=
  if c.isDigit then c.toNat - '0'.toNat else c.toNat - 'A'.toNat + 10

/-- A number in hexadecimal digits. -/
def number (digits : List Char) : Nat := digits.foldl (fun n c => 16 * n + digitValue c) 0

/-- What stands before and behind the first separator; without one there is nothing behind. -/
def halves (separator : Char) (text : List Char) : List Char × List Char :=
  let before := text.takeWhile (· != separator)
  (before, text.drop (before.length + 1))

/-- One row. -/
def row (text : List Char) : Row :=
  let (key, values) := halves '=' text
  let (range, step) := halves '/' key
  let (first, last) := halves '-' range
  { first := number first
    last := if last.isEmpty then number first else number last
    step := if step.isEmpty then 1 else number step
    values := if values.isEmpty then [] else (splitAt '.' values).map number }

/-- **The rows of a text.** -/
def rows (text : String) : List Row :=
  let spaced := text.toList.map fun c => if c = '\n' then ' ' else c
  ((splitAt ' ' spaced).filter fun entry => !entry.isEmpty).map row

/-- The rows of a text without their values. -/
def ranges (text : String) : List (Nat × Nat) := (rows text).map fun r => (r.first, r.last)

/-! ## §3. Looking up. -/

/-- **The values of a code point**, if a row covers it. -/
def lookup? (rows : List Row) (n : Nat) : Option (List Nat) :=
  (rows.find? (·.covers n)).map (·.valuesAt n)

end Table

end SurfaceStudio.Text
