import SurfaceStudio.Ron.Skip

/-!
# Documents and records

A document may begin with brackets that ask for extensions of the notation or say what the document
holds; a record is a list of fields in parentheses.

  • `extensions` — what a document asks for,
  • `field` — one field of a record.
-/

namespace SurfaceStudio.Ron

open Reader

/-! ## §1. What a document asks for. -/

/-- Reads parts that may have blanks between them. -/
def expectAll : List (List Char) → Reader Unit
  | [] => pure ()
  | part :: parts => do
    if ← accept part then do
      skipBlanks
      expectAll parts
    else failNext

/-- The names between the parentheses. -/
def extensionNames (e : Extensions) : Reader Extensions := do
  let first ← e.enable (← name)
  if ← comma then
    separated ')' (fun e => do e.enable (← name)) first
  else do
    expect ')'
    return first

/-- A remark on the document: what it holds, or where that is described, behind an equals sign. -/
def remark : Reader Unit := do
  let isType ← accept ['t', 'y', 'p', 'e']
  let known ← if isType then pure true else accept ['s', 'c', 'h', 'e', 'm', 'a']
  if known then do
    skipBlanks
    expectAll [['=']]
    let _ ← string
    skipBlanks
  else failNext

/-- What stands in brackets at the front of a text. -/
def heading (e : Extensions) : Reader Extensions := do
  if ← accept ['e', 'n', 'a', 'b', 'l', 'e'] then do
    skipBlanks
    expectAll [['(']]
    let e ← extensionNames e
    skipBlanks
    return e
  else do
    remark
    return e

/-- Any number of brackets at the front of a text. -/
def headingsWithin : Nat → Extensions → Reader Extensions
  | 0, e => return e
  | fuel + 1, e => do
    if (← peek?) = some '#' then do
      expectAll [['#'], ['!'], ['[']]
      let e ← heading e
      expectAll [[']']]
      headingsWithin fuel e
    else return e

/-- Extensions at the front of a text. -/
def extensions : Reader Extensions := do
  skipBlanks
  headingsWithin ((← rest).length + 1) .none

/-! ## §2. Fields. -/

/-- A field: its name, a colon, and the value, which `value` reads. -/
def field {σ : Type} (value : σ → String → Reader σ) (draft : σ) : Reader σ := do
  let key ← name
  skipBlanks
  expect ':'
  skipBlanks
  value draft key

end SurfaceStudio.Ron
