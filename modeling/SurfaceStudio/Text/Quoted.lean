import SurfaceStudio.Text.Hidden

/-!
# Quoted text

Tags and titles are shown in listings and in the log between double quotes.  Quotes, backslashes
and characters without a shape of their own are written as escapes, so a quoted text is always one
line.

  • `quoted` — the quoted form,
  • `not_newline_of_not_hidden` — a character written as it is never breaks the line.
-/

namespace SurfaceStudio.Text

/-! ## §1. Escapes. -/

/-- A code point in lower-case hexadecimal digits without leading zeros. -/
def hexCode (n : Nat) : String := String.ofList (Nat.toDigits 16 n)

/-- How one character is written between the quotes. -/
def escaped (c : Char) : List Char :=
  if c = Char.ofNat 0 then ['\\', '0']
  else if c = '\t' then ['\\', 't']
  else if c = '\r' then ['\\', 'r']
  else if c = '\n' then ['\\', 'n']
  else if c = '"' then ['\\', '"']
  else if c = '\\' then ['\\', '\\']
  else if isHidden c then ['\\', 'u', '\x7b'] ++ (hexCode c.toNat).toList ++ ['\x7d']
  else [c]

/-- The text between double quotes. -/
def quoted (text : String) : String :=
  "\"" ++ String.ofList (text.toList.flatMap escaped) ++ "\""

/-! ## §2. One line. -/

theorem not_newline_of_not_hidden {c : Char} (h : isHidden c = false) : c ≠ '\n' ∧ c ≠ '\r' := by
  constructor <;> rintro rfl
  · rw [isHidden_of_control (by decide)] at h; cases h
  · rw [isHidden_of_control (by decide)] at h; cases h

end SurfaceStudio.Text
