import SurfaceStudio.Binary64.Basic

/-!
# Decimal text of doubles

Two rules turn a double into decimal text: the fewest digits that read back as the same double, and
a fixed number of places.  Both work on the exact value.

  • `Binary64.shortest` — the decimal with the fewest digits inside the interval of reals that
    round to the double, and of those the nearest,
  • `Decimal.positional`, `Decimal.scientific` — the two ways to write it,
  • `Binary64.fixed` — the exact value rounded to a number of places.
-/

namespace SurfaceStudio

/-! ## §1. Decimals and how they are written. -/

/-- The number `coefficient * 10 ^ exponent`. -/
structure Decimal where
  coefficient : Nat
  exponent : Int
deriving DecidableEq, Repr

namespace Decimal

/-- The decimal digits of the coefficient. -/
def digits (d : Decimal) : String := Nat.repr d.coefficient

/-- The exponent of ten of the first digit, as in `d.ddd × 10^e`. -/
def leadingExponent (d : Decimal) : Int := d.exponent + (d.digits.length - 1)

/-- `n` copies of the digit zero. -/
def zeros (n : Nat) : String := String.ofList (List.replicate n '0')

/-- Without an exponent, and without a point if there is nothing to write behind it. -/
def positional (d : Decimal) : String :=
  let text := d.digits.toList
  if 0 ≤ d.exponent then d.digits ++ zeros d.exponent.toNat
  else
    let places := (-d.exponent).toNat
    if places < text.length then
      String.ofList (text.take (text.length - places)) ++ "."
        ++ String.ofList (text.drop (text.length - places))
    else
      "0." ++ zeros (places - text.length) ++ d.digits

/-- With one digit before the point and a signed exponent behind `e`. -/
def scientific (d : Decimal) : String :=
  let mantissa := match d.digits.toList with
    | [] => ""
    | [c] => String.singleton c
    | c :: rest => String.singleton c ++ "." ++ String.ofList rest
  let e := d.leadingExponent
  mantissa ++ "e" ++ (if e < 0 then "-" else "+") ++ Nat.repr e.natAbs

end Decimal

namespace Binary64

/-! ## §2. The fewest digits that read back. -/

/-- Quarter units bounding the reals that round to `units`: half a step to each neighbour, and the
step below a power of two is half as wide. -/
def roundingInterval (units : Nat) : Nat × Nat :=
  let step := twoPow (units.log2 - 52)
  let below := if units = twoPow 52 * step ∧ 1 < step then step else 2 * step
  (4 * units - below, 4 * units + 2 * step)

/-- The number of decimal digits before the point, or minus the number of zeros that follow the
point directly. -/
def pointPosition (units : Nat) : Int :=
  if one ≤ units then (Nat.repr (units / one)).length
  else -(zerosAfterPoint 400 (10 * units))
where
  /-- Counts the multiplications by ten that keep the value below one. -/
  zerosAfterPoint : Nat → Nat → Nat
    | 0, _ => 0
    | fuel + 1, tenfold => if one ≤ tenfold then 0 else zerosAfterPoint fuel (10 * tenfold) + 1

/-- The point of the grid `10^k` that reads back as `units`, if one of the two points next to it
does: the nearer of them, and the even one of two equally near. -/
def gridPoint? (units : Nat) (k : Int) : Option Nat :=
  let scale := tenPow (-k).toNat
  let den := one * tenPow k.toNat
  let (low, high) := roundingInterval units
  let closed := (units / twoPow (units.log2 - 52)) % 2 = 0
  let inside (x : Nat) : Bool :=
    if closed then low * scale ≤ 4 * x * den ∧ 4 * x * den ≤ high * scale
    else low * scale < 4 * x * den ∧ 4 * x * den < high * scale
  let nearest := nearestQuotient (units * scale) den
  let floor := units * scale / den
  if inside nearest then some nearest
  else if inside floor then some floor
  else if inside (floor + 1) then some (floor + 1)
  else none

/-- Drops the zeros at the end of the coefficient. -/
def dropZeros : Nat → Decimal → Decimal
  | 0, d => d
  | fuel + 1, d =>
    if d.coefficient ≠ 0 ∧ d.coefficient % 10 = 0 then
      dropZeros fuel ⟨d.coefficient / 10, d.exponent + 1⟩
    else d

/-- **The shortest decimal that reads back as the magnitude**, the nearest of that length. -/
def shortest (x : Binary64) : Decimal :=
  if x.units = 0 then ⟨0, 0⟩
  else
    let point := pointPosition x.units
    let grids := (List.range 17).map fun (i : Nat) => point - (i : Int) - 1
    match grids.findSome? fun k => (gridPoint? x.units k).map (Decimal.mk · k) with
    | some d => dropZeros 20 d
    | none => ⟨0, 0⟩

/-- A minus sign for the values that carry one, zero included. -/
def sign (x : Binary64) : String := if x.negative then "-" else ""

/-- Shortest digits, never an exponent, no point behind a whole number. -/
def plainText (x : Binary64) : String := x.sign ++ x.shortest.positional

/-! ## §3. A fixed number of places. -/

/-- The exact value rounded to `places` decimal places, a tie to the even digit. -/
def fixed (places : Nat) (x : Binary64) : String :=
  let scaled := nearestQuotient (x.units * tenPow places) one
  let whole := scaled / tenPow places
  let part := Nat.repr (scaled % tenPow places)
  x.sign ++ Nat.repr whole ++ "." ++ Decimal.zeros (places - part.length) ++ part

end Binary64

end SurfaceStudio
