/-!
# White space

The characters with the Unicode property White_Space, and the two things the studio does with them:
taking them off both ends of a text, and splitting a text at the first one.

  • `isBlank` — the property,
  • `trimChars`, `trim` — a text without the blanks at its ends,
  • `trimChars_of_ends` — a text without blanks at its ends is its own trimming,
  • `splitAtBlank` — what stands before and behind the first blank.
-/

namespace SurfaceStudio.Text

/-! ## §1. The property. -/

/-- The characters with the property White_Space. -/
def isBlank (c : Char) : Bool :=
  let n := c.toNat
  (0x9 ≤ n && n ≤ 0xd) || n == 0x20 || n == 0x85 || n == 0xa0 || n == 0x1680
    || (0x2000 ≤ n && n ≤ 0x200a) || n == 0x2028 || n == 0x2029 || n == 0x202f || n == 0x205f
    || n == 0x3000

/-! ## §2. Trimming. -/

/-- Without the blanks at the end. -/
def trimEnd (text : List Char) : List Char := (text.reverse.dropWhile isBlank).reverse

/-- Without the blanks at both ends. -/
def trimChars (text : List Char) : List Char := trimEnd (text.dropWhile isBlank)

/-- The text without the blanks at both ends. -/
def trim (text : String) : String := String.ofList (trimChars text.toList)

/-- A text with nothing but blanks in it. -/
def isBlankText (text : String) : Bool := text.toList.all isBlank

theorem dropWhile_eq_self {p : Char → Bool} {text : List Char}
    (h : ∀ c, text.head? = some c → p c = false) : text.dropWhile p = text := by
  cases text with
  | nil => rfl
  | cons c rest => simp [h c rfl]

/-- A text without blanks at its ends is its own trimming. -/
theorem trimChars_of_ends {text : List Char}
    (first : ∀ c, text.head? = some c → isBlank c = false)
    (last : ∀ c, text.getLast? = some c → isBlank c = false) : trimChars text = text := by
  have front : text.dropWhile isBlank = text := dropWhile_eq_self first
  have back : text.reverse.dropWhile isBlank = text.reverse :=
    dropWhile_eq_self fun c h => last c (by simpa using h)
  simp [trimChars, trimEnd, front, back]

/-! ## §3. Splitting. -/

/-- What stands before the first blank, and, if there is one, what stands behind it. -/
def splitAtBlank : List Char → List Char × Option (List Char)
  | [] => ([], none)
  | c :: rest =>
    if isBlank c then ([], some rest)
    else ((c :: (splitAtBlank rest).1), (splitAtBlank rest).2)

/-! ## §4. Letter case. -/

/-- Equal up to the case of the letters `A … Z`; every other character counts as it is. -/
def sameIgnoringCase (s t : String) : Bool := s.toList.map Char.toLower == t.toList.map Char.toLower

end SurfaceStudio.Text
