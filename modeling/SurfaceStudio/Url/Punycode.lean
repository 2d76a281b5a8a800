import SurfaceStudio.Powers

/-!
# Punycode

A label of a domain with characters beyond ASCII is written in ASCII alone: first its ASCII
characters, then, behind a hyphen, how far it is from each of the others to the next, counted over
positions and code points together, in digits of varying weight.

  • `Punycode.encode` — the written form of a label,
  • `Punycode.decode?` — the label of a written form.
-/

namespace SurfaceStudio.Url.Punycode

/-! ## §1. Digits. -/

/-- The letters `a` to `z` are the digits from 0, the numerals those from 26. -/
def digit (n : Nat) : Char :=
  if n < 26 then Char.ofNat ('a'.toNat + n) else Char.ofNat ('0'.toNat + n - 26)

/-- The value of a digit, of either case. -/
def digitValue? (c : Char) : Option Nat :=
  if 'a' ≤ c ∧ c ≤ 'z' then some (c.toNat - 'a'.toNat)
  else if 'A' ≤ c ∧ c ≤ 'Z' then some (c.toNat - 'A'.toNat)
  else if c.isDigit then some (c.toNat - '0'.toNat + 26)
  else none

/-- The threshold below which a digit at this place is the last one of its number. -/
def threshold (place bias : Nat) : Nat :=
  if place ≤ bias then 1 else if bias + 26 ≤ place then 26 else place - bias

theorem threshold_pos (place bias : Nat) : 1 ≤ threshold place bias := by
  unfold threshold; split
  · omega
  · split <;> omega

/-- How often a distance is divided on its way to the next bias, and what is left of it. -/
def divisions (distance : Nat) : Nat × Nat :=
  if 455 < distance then
    let (times, left) := divisions (distance / 35)
    (times + 1, left)
  else (0, distance)
termination_by distance
decreasing_by exact Nat.div_lt_self (by omega) (by decide)

/-- The bias for the next distance, after this one, with `count` characters in place. -/
def nextBias (distance count : Nat) (first : Bool) : Nat :=
  let halved := distance / (if first then 700 else 2)
  let (times, left) := divisions (halved + halved / count)
  36 * times + 36 * left / (left + 38)

/-! ## §2. Encoding. -/

/-- A number in digits, the least weighty first. -/
def number (bias place n : Nat) : List Char :=
  let t := threshold place bias
  if h : n < threshold place bias then [digit n]
  else digit (t + (n - t) % (36 - t)) :: number bias (place + 36) ((n - t) / (36 - t))
termination_by n
decreasing_by
  have := threshold_pos place bias
  exact Nat.lt_of_le_of_lt (Nat.div_le_self _ _) (by omega)

/-- What has been written, the distance from the last character written, the bias, and how many
characters are in place. -/
structure Progress where
  written : List Char
  distance : Nat
  bias : Nat
  placed : Nat

/-- Passes a character of the label while those of one code point are being placed. -/
def pass (basic code : Nat) (p : Progress) (c : Char) : Progress :=
  if c.toNat < code then { p with distance := p.distance + 1 }
  else if c.toNat = code then
    { written := p.written ++ number p.bias 36 p.distance
      distance := 0
      bias := nextBias p.distance (p.placed + 1) (p.placed == basic)
      placed := p.placed + 1 }
  else p

/-- Places the characters of one code point after the other. -/
def placeAll (label : List Char) (basic : Nat) : List Nat → Nat → Progress → Progress
  | [], _, p => p
  | code :: codes, last, p =>
    let before := { p with distance := p.distance + (code - last) * (p.placed + 1) }
    let after := label.foldl (pass basic code) before
    placeAll label basic codes (code + 1) { after with distance := after.distance + 1 }

/-- The code points beyond ASCII, ascending, each once. -/
def codes (label : List Char) : List Nat :=
  ((label.map Char.toNat).filter (0x80 ≤ ·)).eraseDups.mergeSort (· ≤ ·)

/-- **The written form of a label.** -/
def encode (label : List Char) : List Char :=
  let basic := label.filter (·.toNat < 0x80)
  let start : Progress := ⟨[], 0, 72, basic.length⟩
  basic ++ (if basic.isEmpty then [] else ['-'])
    ++ (placeAll label basic.length (codes label) 0x80 start).written

/-! ## §3. Decoding. -/

/-- Reads a number onto `sum`; returns it with what follows.  A place whose weight takes more than
32 bits makes no number. -/
def readNumber (bias : Nat) : List Char → Nat → Nat → Nat → Option (Nat × List Char)
  | [], _, _, _ => none
  | c :: rest, place, weight, sum =>
    match digitValue? c with
    | none => none
    | some d =>
      if twoPow 32 ≤ weight then none
      else if d < threshold place bias then some (sum + d * weight, rest)
      else
        readNumber bias rest (place + 36) (weight * (36 - threshold place bias)) (sum + d * weight)

/-- Puts characters into their places while the fuel lasts; each takes some of the text. -/
def decodeRest : Nat → Nat → Nat → Nat → List Char → List Char → Option (List Char)
  | 0, _, _, _, label, _ => some label
  | _ + 1, _, _, _, label, [] => some label
  | fuel + 1, bias, code, position, label, text =>
    match readNumber bias text 36 1 position with
    | none => none
    | some (sum, rest) =>
      let count := label.length + 1
      let code := code + sum / count
      if code.isValidChar then
        decodeRest fuel (nextBias (sum - position) count (position == 0)) code (sum % count + 1)
          (label.insertIdx (sum % count) (Char.ofNat code)) rest
      else none

/-- **The label of a written form.**  A hyphen divides the characters that stand as they are from
the numbers, and needs something before it. -/
def decode? (text : List Char) : Option (List Char) :=
  let behind := (text.reverse.takeWhile (· != '-')).reverse
  let basic := text.take (text.length - behind.length - 1)
  if basic.isEmpty && behind.length < text.length then none
  else decodeRest text.length 72 0x80 0 basic behind

end SurfaceStudio.Url.Punycode
