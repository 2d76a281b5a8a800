import SurfaceStudio.Binary64.Decimal

/-!
# JSON numbers

A number written without a fraction and without an exponent is kept as an integer as long as it
fits in a machine word; every other number is a double.

  • `Number.text` — the written form,
  • `Numeral.value` — the number a numeral stands for, from at most as many leading digits as fit
    in 64 bits and one multiplication or division by a power of ten.
-/

namespace SurfaceStudio

/-! ## §1. Numbers. -/

/-- The integers that are kept exactly: those of 64 bits, with a sign or without. -/
def Number.Fits (value : Int) : Prop :=
  -0x8000000000000000 ≤ value ∧ value ≤ 0xffffffffffffffff

instance (value : Int) : Decidable (Number.Fits value) := inferInstanceAs (Decidable (_ ∧ _))

inductive Number where
  | integer (value : Int) (fits : Number.Fits value)
  | double (value : Binary64)
deriving DecidableEq

namespace Number

/-- A natural number below `2^32`, as an integer. -/
def ofSmallNat (n : Nat) (h : n < 0x100000000) : Number := .integer n ⟨by omega, by omega⟩

/-- Decimal digits behind a minus sign where one is needed. -/
def integerText (value : Int) : String :=
  if value < 0 then "-" ++ Nat.repr value.natAbs else Nat.repr value.natAbs

/-- Shortest digits: positional, with `.0` behind a whole number, as long as the first digit
stands between `10^-5` and `10^15`, and with an exponent otherwise. -/
def doubleText (x : Binary64) : String :=
  let d := x.shortest
  let e := d.leadingExponent
  x.sign ++
    (if e < -5 ∨ 15 < e then d.scientific
     else if 0 ≤ d.exponent then d.positional ++ ".0"
     else d.positional)

/-- The written form. -/
def text : Number → String
  | .integer value _ => integerText value
  | .double value => doubleText value

/-- The double nearest to the number. -/
def toBinary64? : Number → Option Binary64
  | .integer value _ => Binary64.ofNat? (value < 0) value.natAbs
  | .double value => some value

/-- **Every number stands for a double.** -/
theorem exists_toBinary64? (n : Number) : ∃ x, n.toBinary64? = some x := by
  cases n with
  | integer value fits =>
    obtain ⟨hlow, hhigh⟩ := fits
    have hword : twoPow 64 = 0x10000000000000000 := rfl
    have habs : value.natAbs ≤ twoPow 64 := by
      rw [hword]
      omega
    exact Binary64.exists_ofNat? _ habs
  | double x => exact ⟨x, rfl⟩

/-- The same number in the same representation; the two zeros of the doubles are one. -/
def same : Number → Number → Bool
  | .integer m _, .integer n _ => m == n
  | .double x, .double y => x.same y
  | _, _ => false

end Number

/-! ## §2. Numerals. -/

/-- A number as it stands in the text; digits are values from 0 to 9. -/
structure Numeral where
  negative : Bool
  whole : List Nat
  fraction : Option (List Nat)
  /-- The sign (`true` for minus) and the digits behind `e`. -/
  exponent : Option (Bool × List Nat)
deriving DecidableEq, Repr

namespace Numeral

/-- Takes digits into the significand as long as it fits in 64 bits; returns it with the digits
that are left. -/
def absorb : Nat → List Nat → Nat × List Nat
  | significand, [] => (significand, [])
  | significand, d :: ds =>
    if significand * 10 + d ≤ 0xffffffffffffffff then absorb (significand * 10 + d) ds
    else (significand, d :: ds)

/-- The value of the exponent's digits, or, once it has passed `2^31 - 1`, the number of digits
behind the one that made it so. -/
def exponentValue : Nat → List Nat → Except Nat Nat
  | value, [] => .ok value
  | value, d :: ds =>
    if value * 10 + d ≤ 0x7fffffff then exponentValue (value * 10 + d) ds else .error ds.length

/-- Divides by `10^308` until the rest of the exponent has a finite power of ten. -/
def divideByPower : Nat → Binary64 → Nat → Option Binary64
  | 0, x, _ => some x
  | fuel + 1, x, e =>
    match Binary64.powerOfTen? e with
    | some power => x.div? power
    | none =>
      if x.units = 0 then some x
      else do
        let power ← Binary64.powerOfTen? 308
        let x ← x.div? power
        divideByPower fuel x (e - 308)

/-- The significand scaled by a power of ten, unless it is too large. -/
def scale (significand : Nat) (e : Int) : Option Binary64 := do
  let x ← Binary64.ofNat? false significand
  if 0 ≤ e then
    match Binary64.powerOfTen? e.toNat with
    | some power => x.mul? power
    | none => if x.units = 0 then some x else none
  else
    divideByPower (e.natAbs / 308 + 1) x e.natAbs

/-- The signed double, or the fault that nothing more needs to be read to know it too large. -/
def signed (negative : Bool) (x : Option Binary64) : Except Nat Number :=
  match x with
  | some x => .ok (.double (x.withSign negative))
  | none => .error 0

/-- A whole number that fits in 64 bits; minus zero is a double. -/
def wholeNumber (negative : Bool) (significand : Nat) : Except Nat Number :=
  let value : Int := if negative then -significand else significand
  if h : Number.Fits value ∧ ¬(negative = true ∧ significand = 0) then .ok (.integer value h.1)
  else signed negative (Binary64.ofNat? false significand)

/-- **The number a numeral stands for.**  The error is a number too large for a double; it carries
how many digits at the end of the numeral were not needed to see that. -/
def value (n : Numeral) : Except Nat Number :=
  let (significand, left) := absorb 0 n.whole
  match n.fraction, n.exponent, left with
  | none, none, [] => wholeNumber n.negative significand
  | fraction, exponent, left =>
    let digits := fraction.getD []
    let (significand, unused) := absorb significand digits
    let start : Int := left.length - (digits.length - unused.length : Nat)
    match exponent with
    | none => signed n.negative (scale significand start)
    | some (minus, ds) =>
      match exponentValue 0 ds with
      | .ok e => signed n.negative (scale significand (if minus then start - e else start + e))
      | .error unread =>
        if significand ≠ 0 ∧ minus = false then .error unread
        else .ok (.double (Binary64.zero n.negative))

end Numeral

end SurfaceStudio
