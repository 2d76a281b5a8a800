import SurfaceStudio.Powers

/-!
# Finite doubles, exactly

Every finite double is a whole number of units of `2^-1074`, so a double is kept here as a sign
and that number, and each operation is integer arithmetic followed by one rounding.

  • `roundQuotient_representable` — rounding a quotient always lands on a double,
  • `exists_ofNat?` — a number of a machine word is never too large,
  • `toHundred_units_le` — a value clamped into `0 … 100` is at most one hundred.
-/

namespace SurfaceStudio

/-! ## §1. The type. -/

/-- A unit is `2^-1074`, the least positive double. -/
def Binary64.unitPlaces : Nat := 1074

/-- Doubles stay below `2^1024`. -/
def Binary64.topPlaces : Nat := 1024

/-- How many units make one. -/
@[irreducible] def Binary64.one : Nat := twoPow unitPlaces

/-- The least magnitude, in units, that is too large for a finite double. -/
@[irreducible] def Binary64.limit : Nat := twoPow topPlaces * one

/-- A count of units is a double's magnitude when its binary digits fit in 53 places. -/
def Binary64.Representable (units : Nat) : Prop := twoPow (units.log2 - 52) ∣ units

instance (units : Nat) : Decidable (Binary64.Representable units) :=
  inferInstanceAs (Decidable (_ ∣ _))

/-- A finite double: its sign and its magnitude in units of `2^-1074`.  Zero has both signs. -/
structure Binary64 where
  negative : Bool
  units : Nat
  representable : Binary64.Representable units
  units_lt_limit : units < Binary64.limit
deriving DecidableEq

namespace Binary64

/-! ## §2. Rounding a quotient. -/

/-- `num / den` as a whole number, the nearer one; a half goes to the even neighbour. -/
def nearestQuotient (num den : Nat) : Nat :=
  let whole := num / den
  let twice := 2 * (num % den)
  if twice < den then whole
  else if den < twice then whole + 1
  else whole + whole % 2

/-- The representable count of units nearest to `num / den` units.  The step between neighbours
is the power of two that leaves 53 binary digits of the whole part. -/
def roundQuotient (num den : Nat) : Nat :=
  let step := twoPow ((num / den).log2 - 52)
  nearestQuotient num (den * step) * step

theorem nearestQuotient_le (num den : Nat) : nearestQuotient num den ≤ num / den + 1 := by
  unfold nearestQuotient
  dsimp only
  split
  · omega
  · split <;> omega

theorem le_nearestQuotient (num den : Nat) : num / den ≤ nearestQuotient num den := by
  unfold nearestQuotient
  dsimp only
  split
  · omega
  · split <;> omega

/-- A multiple of `2^e` below `2^(53 + e)`, and that bound itself, are representable. -/
theorem representable_mul_twoPow {m e : Nat} (h : m ≤ twoPow 53) :
    Representable (m * twoPow e) := by
  unfold Representable
  rcases Nat.lt_or_eq_of_le h with hlt | rfl
  · have hlog : (m * twoPow e).log2 ≤ 52 + e := by
      apply log2_le_of_lt_twoPow
      rw [show 52 + e + 1 = 53 + e by omega, twoPow_add]
      exact Nat.mul_lt_mul_of_pos_right hlt (twoPow_pos e)
    exact Nat.dvd_trans (twoPow_dvd (by omega)) (Nat.dvd_mul_left _ _)
  · rw [← twoPow_add, log2_twoPow]
    exact twoPow_dvd (by omega)

/-- **Rounding a quotient always lands on a double's magnitude.** -/
theorem roundQuotient_representable (num den : Nat) : Representable (roundQuotient num den) := by
  unfold roundQuotient
  dsimp only
  apply representable_mul_twoPow
  refine Nat.le_trans (nearestQuotient_le _ _) ?_
  rw [← Nat.div_div_eq_div_mul]
  refine Nat.succ_le_of_lt (Nat.div_lt_of_lt_mul ?_)
  rw [← twoPow_add]
  exact Nat.lt_of_lt_of_le (lt_twoPow_log2 _) (twoPow_le (by omega))

/-- Rounding at most doubles a whole number of units. -/
theorem roundQuotient_one_le (num : Nat) : roundQuotient num 1 ≤ 2 * num + 1 := by
  have hpos : 0 < twoPow (num.log2 - 52) := twoPow_pos _
  have hstep : twoPow (num.log2 - 52) ≤ num + 1 := by
    by_cases hnum : num = 0
    · rw [hnum]
      decide
    · have hlog : twoPow num.log2 ≤ num := Nat.log2_self_le hnum
      have hle : twoPow (num.log2 - 52) ≤ twoPow num.log2 := twoPow_le (by omega)
      omega
  unfold roundQuotient
  dsimp only
  rw [Nat.div_one, Nat.one_mul]
  generalize twoPow (num.log2 - 52) = step at hpos hstep
  calc nearestQuotient num step * step
      ≤ (num / step + 1) * step := Nat.mul_le_mul_right step (nearestQuotient_le num step)
    _ = num / step * step + step := Nat.succ_mul _ _
    _ ≤ num + step := Nat.add_le_add_right (Nat.div_mul_le_self num step) step
    _ ≤ 2 * num + 1 := by omega

/-! ## §3. Values and arithmetic. -/

/-- The double of the given sign nearest to `num / den` units, unless it is too large. -/
def ofQuotient? (negative : Bool) (num den : Nat) : Option Binary64 :=
  if h : roundQuotient num den < limit then
    some ⟨negative, roundQuotient num den, roundQuotient_representable num den, h⟩
  else
    none

theorem one_pos : 0 < one := by
  unfold one
  exact twoPow_pos _

theorem mul_one_lt_limit {n : Nat} (h : n < twoPow topPlaces) : n * one < limit := by
  unfold limit
  exact Nat.mul_lt_mul_of_pos_right h one_pos

theorem representable_mul_one {n : Nat} (h : n ≤ twoPow 53) : Representable (n * one) := by
  unfold one
  exact representable_mul_twoPow h

/-- A natural number below `2^53`, which is a double as it stands. -/
def ofSmallNat (negative : Bool) (n : Nat) (h : n < twoPow 53) : Binary64 :=
  ⟨negative, n * one, representable_mul_one (Nat.le_of_lt h),
    mul_one_lt_limit (Nat.lt_of_lt_of_le h (twoPow_le (by decide)))⟩

/-- Zero of the given sign. -/
def zero (negative : Bool) : Binary64 := ofSmallNat negative 0 (by decide)

/-- One hundred. -/
def hundred : Binary64 := ofSmallNat false 100 (by decide)

/-- Twenty. -/
def twenty : Binary64 := ofSmallNat false 20 (by decide)

/-- The double nearest to a natural number, unless it is too large. -/
def ofNat? (negative : Bool) (n : Nat) : Option Binary64 := ofQuotient? negative (n * one) 1

/-- A natural number of a machine word is not too large. -/
theorem exists_ofNat? (negative : Bool) {n : Nat} (h : n ≤ twoPow 64) :
    ∃ x, ofNat? negative n = some x := by
  have hsmall : 2 * n + 1 < twoPow topPlaces := by
    have hword : twoPow 66 ≤ twoPow topPlaces := twoPow_le (by decide)
    have hbound : 2 * twoPow 64 + 1 < twoPow 66 := by decide
    omega
  have hround : roundQuotient (n * one) 1 < limit := by
    have hone := one_pos
    calc roundQuotient (n * one) 1
        ≤ 2 * (n * one) + 1 := roundQuotient_one_le _
      _ ≤ 2 * (n * one) + one := Nat.add_le_add_left hone _
      _ = (2 * n + 1) * one := by rw [Nat.add_mul, Nat.one_mul, Nat.mul_assoc]
      _ < limit := mul_one_lt_limit hsmall
  exact ⟨_, dif_pos hround⟩

/-- The rounded product, unless it is too large. -/
def mul? (x y : Binary64) : Option Binary64 :=
  ofQuotient? (x.negative != y.negative) (x.units * y.units) one

/-- The rounded quotient, unless it is too large; a zero divisor gives none. -/
def div? (x y : Binary64) : Option Binary64 :=
  if y.units = 0 then none
  else ofQuotient? (x.negative != y.negative) (x.units * one) y.units

/-- The same value with the sign given. -/
def withSign (negative : Bool) (x : Binary64) : Binary64 := { x with negative }

/-- The power of ten `10^e`, rounded, for the exponents whose powers are finite. -/
def powerOfTen? (e : Nat) : Option Binary64 :=
  if e ≤ 308 then ofNat? false (tenPow e) else none

/-- The same number: the two zeros are one number. -/
def same (x y : Binary64) : Bool :=
  x.units == y.units && (x.units == 0 || x.negative == y.negative)

theorem same_refl (x : Binary64) : x.same x = true := by simp [same]

/-- The nearest value in `0 … 100`.  A negative zero is already in that range and stays. -/
def toHundred (x : Binary64) : Binary64 :=
  if x.units = 0 then x
  else if x.negative then zero false
  else if 100 * one < x.units then hundred
  else x

/-- **A clamped value is at most one hundred.** -/
theorem toHundred_units_le (x : Binary64) : x.toHundred.units ≤ 100 * one := by
  unfold toHundred
  split
  · next h => rw [h]; exact Nat.zero_le _
  · split
    · simp [zero, ofSmallNat]
    · split
      · exact Nat.le_refl _
      · next h => exact Nat.le_of_not_lt h

/-- The whole number nearest to a magnitude; a half goes up, away from zero. -/
def roundHalfUp (x : Binary64) : Nat := (2 * x.units + one) / (2 * one)

end Binary64

end SurfaceStudio
