import SurfaceStudio.Json.Number

/-!
# Rounding keeps the order

Every operation on doubles is exact arithmetic and one rounding, so the order of results follows
from two facts about rounding: it is monotone, also across a power of two where the step between
neighbours changes, and it leaves a double as it is.

  • `roundQuotient_mono` — **rounding is monotone**,
  • `roundQuotient_mul_self` — **a double is its own rounding**,
  • `Binary64.signedUnits`, `Number.inUnits` — the exact value of a double and of a number,
  • `signedUnits_toBinary64?_mono` — **the double of a larger number is no smaller**,
  • `units_toHundred` — clamping, in units.
-/

namespace SurfaceStudio

namespace Binary64

/-! ## §1. Whole quotients. -/

theorem nearestQuotient_mono {a b : Nat} (h : a ≤ b) (den : Nat) :
    nearestQuotient a den ≤ nearestQuotient b den := by
  rcases Nat.lt_or_eq_of_le (Nat.div_le_div_right h : a / den ≤ b / den) with hlt | heq
  · calc nearestQuotient a den
        ≤ a / den + 1 := nearestQuotient_le a den
      _ ≤ b / den := hlt
      _ ≤ nearestQuotient b den := le_nearestQuotient b den
  · -- With equal whole parts the remainders decide.
    have ha := Nat.div_add_mod a den
    have hb := Nat.div_add_mod b den
    rw [heq] at ha
    have hrest : a % den ≤ b % den := by omega
    have hparity : b / den % 2 < 2 := Nat.mod_lt _ (by decide)
    unfold nearestQuotient
    dsimp only
    rw [heq]
    grind

theorem nearestQuotient_mul_self (k : Nat) {den : Nat} (h : 0 < den) :
    nearestQuotient (k * den) den = k := by
  unfold nearestQuotient
  dsimp only
  rw [Nat.mul_mod_left, Nat.mul_div_cancel k h]
  exact if_pos (by omega)

/-! ## §2. Quotients in units. -/

/-- A rounded quotient stays below the next power of two. -/
theorem roundQuotient_le_twoPow (num den : Nat) :
    roundQuotient num den ≤ twoPow ((num / den).log2 + 1) := by
  unfold roundQuotient
  dsimp only
  have hsplit : (num / den).log2 + 1
      = ((num / den).log2 + 1 - ((num / den).log2 - 52)) + ((num / den).log2 - 52) := by omega
  have hwhole : num / den / twoPow ((num / den).log2 - 52)
      < twoPow ((num / den).log2 + 1 - ((num / den).log2 - 52)) := by
    refine Nat.div_lt_of_lt_mul ?_
    rw [Nat.mul_comm, ← twoPow_add, ← hsplit]
    exact lt_twoPow_log2 _
  calc nearestQuotient num (den * twoPow ((num / den).log2 - 52))
        * twoPow ((num / den).log2 - 52)
      ≤ twoPow ((num / den).log2 + 1 - ((num / den).log2 - 52))
          * twoPow ((num / den).log2 - 52) := by
        refine Nat.mul_le_mul_right _ (Nat.le_trans (nearestQuotient_le _ _) ?_)
        rw [← Nat.div_div_eq_div_mul]
        exact hwhole
    _ = twoPow ((num / den).log2 + 1) := by rw [← twoPow_add, ← hsplit]

/-- A rounded quotient keeps the power of two that it has reached. -/
theorem twoPow_le_roundQuotient {num den : Nat} (h : num / den ≠ 0) :
    twoPow (num / den).log2 ≤ roundQuotient num den := by
  unfold roundQuotient
  dsimp only
  have hsplit : (num / den).log2
      = ((num / den).log2 - ((num / den).log2 - 52)) + ((num / den).log2 - 52) := by omega
  have hreached : twoPow (num / den).log2 ≤ num / den := Nat.log2_self_le h
  have hwhole : twoPow ((num / den).log2 - ((num / den).log2 - 52))
      ≤ num / den / twoPow ((num / den).log2 - 52) := by
    refine (Nat.le_div_iff_mul_le (twoPow_pos _)).2 ?_
    rw [← twoPow_add, ← hsplit]
    exact hreached
  calc twoPow (num / den).log2
      = twoPow ((num / den).log2 - ((num / den).log2 - 52))
          * twoPow ((num / den).log2 - 52) := by rw [← twoPow_add, ← hsplit]
    _ ≤ nearestQuotient num (den * twoPow ((num / den).log2 - 52))
          * twoPow ((num / den).log2 - 52) := by
        refine Nat.mul_le_mul_right _ (Nat.le_trans ?_ (le_nearestQuotient _ _))
        rw [← Nat.div_div_eq_div_mul]
        exact hwhole

theorem log2_mono {m n : Nat} (h : m ≤ n) : m.log2 ≤ n.log2 :=
  log2_le_of_lt_twoPow (Nat.lt_of_le_of_lt h (lt_twoPow_log2 n))

/-- **Rounding is monotone.** -/
theorem roundQuotient_mono {a b : Nat} (h : a ≤ b) (den : Nat) :
    roundQuotient a den ≤ roundQuotient b den := by
  have hlog : (a / den).log2 ≤ (b / den).log2 := log2_mono (Nat.div_le_div_right h)
  by_cases hstep : (a / den).log2 - 52 = (b / den).log2 - 52
  · -- The step is the same, so that the whole quotients are compared.
    unfold roundQuotient
    dsimp only
    rw [hstep]
    exact Nat.mul_le_mul_right _ (nearestQuotient_mono h _)
  · -- Otherwise a power of two lies between the results.
    have hlt : (a / den).log2 + 1 ≤ (b / den).log2 := by omega
    have hne : b / den ≠ 0 := by
      intro hzero
      rw [hzero] at hlt
      simp at hlt
    calc roundQuotient a den
        ≤ twoPow ((a / den).log2 + 1) := roundQuotient_le_twoPow a den
      _ ≤ twoPow (b / den).log2 := twoPow_le hlt
      _ ≤ roundQuotient b den := twoPow_le_roundQuotient hne

/-- **A double is its own rounding**, as a quotient with any denominator. -/
theorem roundQuotient_mul_self {k den : Nat} (hk : Representable k) (h : 0 < den) :
    roundQuotient (k * den) den = k := by
  have hdvd : twoPow (k.log2 - 52) ∣ k := hk
  unfold roundQuotient
  dsimp only
  rw [Nat.mul_div_cancel k h]
  obtain ⟨m, hm⟩ := hdvd
  generalize twoPow (k.log2 - 52) = step at hm ⊢
  subst hm
  rcases Nat.eq_zero_or_pos step with rfl | hstep
  · simp
  · have hnum : step * m * den = m * (den * step) := by
      rw [Nat.mul_comm step m, Nat.mul_assoc, Nat.mul_comm step den]
    rw [hnum, nearestQuotient_mul_self m (Nat.mul_pos h hstep), Nat.mul_comm]

theorem roundQuotient_one {k : Nat} (hk : Representable k) : roundQuotient k 1 = k := by
  have hself := roundQuotient_mul_self hk Nat.one_pos
  rwa [Nat.mul_one] at hself

theorem roundQuotient_zero (den : Nat) : roundQuotient 0 den = 0 := by
  unfold roundQuotient nearestQuotient
  simp

/-- A quotient that is not too large is rounded to a double of the sign given. -/
theorem exists_ofQuotient? (negative : Bool) {num den : Nat} (h : roundQuotient num den < limit) :
    ∃ x, ofQuotient? negative num den = some x ∧ x.units = roundQuotient num den :=
  ⟨_, dif_pos h, rfl⟩

theorem parts_of_ofQuotient? {negative : Bool} {num den : Nat} {x : Binary64}
    (h : ofQuotient? negative num den = some x) :
    x.negative = negative ∧ x.units = roundQuotient num den := by
  unfold ofQuotient? at h
  split at h
  · injection h with h
    exact ⟨h ▸ rfl, h ▸ rfl⟩
  · cases h

/-! ## §3. Exact values. -/

/-- The exact value, in units. -/
def signedUnits (x : Binary64) : Int := if x.negative then -(x.units : Int) else x.units

/-- A whole number of units, rounded to a double. -/
def roundUnits (n : Int) : Int :=
  if n < 0 then -(roundQuotient n.natAbs 1 : Int) else roundQuotient n.natAbs 1

theorem roundUnits_mono {m n : Int} (h : m ≤ n) : roundUnits m ≤ roundUnits n := by
  unfold roundUnits
  by_cases hm : m < 0
  · by_cases hn : n < 0
    · have hmono := roundQuotient_mono (by omega : n.natAbs ≤ m.natAbs) 1
      rw [if_pos hm, if_pos hn]
      omega
    · rw [if_pos hm, if_neg hn]
      omega
  · have hmono := roundQuotient_mono (by omega : m.natAbs ≤ n.natAbs) 1
    rw [if_neg hm, if_neg (by omega)]
    omega

/-- A double is its own rounding, and so are its sign and its magnitude together. -/
theorem roundUnits_signedUnits (x : Binary64) : roundUnits x.signedUnits = x.signedUnits := by
  have hunits : roundQuotient x.units 1 = x.units := roundQuotient_one x.representable
  unfold signedUnits
  cases x.negative with
  | false =>
    have hnonneg : ¬ ((x.units : Int) < 0) := by omega
    simp only [Bool.false_eq_true, if_false, roundUnits, hnonneg, Int.natAbs_natCast, hunits]
  | true =>
    simp only [if_true, roundUnits, Int.natAbs_neg, Int.natAbs_natCast, hunits]
    split
    · rfl
    · omega

/-- **Clamping into `0 … 100`**, in units. -/
theorem units_toHundred (x : Binary64) :
    (x.toHundred.units : Int) = max 0 (min x.signedUnits (100 * one)) := by
  unfold toHundred signedUnits
  by_cases hzero : x.units = 0
  · rw [if_pos hzero, hzero]
    split <;> omega
  · rw [if_neg hzero]
    cases x.negative with
    | true =>
      have hunits : (zero false).units = 0 := Nat.zero_mul one
      simp only [if_true, hunits]
      omega
    | false =>
      have hunits : hundred.units = 100 * one := rfl
      simp only [Bool.false_eq_true, if_false]
      split
      · rw [hunits]
        omega
      · omega

/-- A clamped value has no sign of its own, zero apart. -/
theorem signedUnits_toHundred (x : Binary64) :
    x.toHundred.signedUnits = x.toHundred.units := by
  unfold toHundred
  by_cases hzero : x.units = 0
  · rw [if_pos hzero, signedUnits, hzero]
    split <;> rfl
  · rw [if_neg hzero]
    cases hnegative : x.negative with
    | true => rfl
    | false =>
      simp only [Bool.false_eq_true, if_false]
      split
      · rfl
      · rw [signedUnits, hnegative]
        rfl

end Binary64

namespace Number

open Binary64

/-- The exact value of a number, in units. -/
def inUnits : Number → Int
  | .integer value _ => value * one
  | .double value => value.signedUnits

/-- The double of a number is the number rounded. -/
theorem signedUnits_toBinary64? {n : Number} {x : Binary64} (h : n.toBinary64? = some x) :
    x.signedUnits = roundUnits n.inUnits := by
  cases n with
  | double value =>
    injection h with h
    rw [← h]
    exact (roundUnits_signedUnits value).symm
  | integer value fits =>
    obtain ⟨hnegative, hunits⟩ := parts_of_ofQuotient? h
    have hone : (0 : Int) < one := by exact_mod_cast one_pos
    have habs : (value * (one : Int)).natAbs = value.natAbs * one := by
      rw [Int.natAbs_mul, Int.natAbs_natCast]
    have hsign : value * (one : Int) < 0 ↔ value < 0 := by
      constructor
      · intro hlt
        refine Int.not_le.1 fun hge => ?_
        have hprod : 0 ≤ value * (one : Int) := Int.mul_nonneg hge (Int.le_of_lt hone)
        omega
      · exact fun hlt => Int.mul_neg_of_neg_of_pos hlt hone
    rw [signedUnits, roundUnits, inUnits, hnegative, hunits, habs]
    by_cases hlt : value < 0
    · rw [if_pos (decide_eq_true hlt), if_pos (hsign.2 hlt)]
    · rw [if_neg (by simpa using hlt), if_neg fun hneg => hlt (hsign.1 hneg)]

/-- **The double of a larger number is no smaller.** -/
theorem signedUnits_toBinary64?_mono {m n : Number} {x y : Binary64} (h : m.inUnits ≤ n.inUnits)
    (hx : m.toBinary64? = some x) (hy : n.toBinary64? = some y) :
    x.signedUnits ≤ y.signedUnits := by
  rw [signedUnits_toBinary64? hx, signedUnits_toBinary64? hy]
  exact roundUnits_mono h

end Number

end SurfaceStudio
