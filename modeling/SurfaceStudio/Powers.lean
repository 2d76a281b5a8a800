/-!
# Powers

The powers that the arithmetic of doubles and of words is built on.

  • `twoPow`, `tenPow` — the powers of two and of ten,
  • `twoPow_pos`, `twoPow_add`, `twoPow_dvd` — how the powers of two behave.
-/

namespace SurfaceStudio

/-- The power of two with this exponent. -/
def twoPow (exponent : Nat) : Nat := Nat.pow 2 exponent

/-- The power of ten with this exponent. -/
def tenPow (exponent : Nat) : Nat := Nat.pow 10 exponent

theorem twoPow_pos (k : Nat) : 0 < twoPow k := Nat.two_pow_pos k

theorem twoPow_add (j k : Nat) : twoPow (j + k) = twoPow j * twoPow k := Nat.pow_add 2 j k

theorem twoPow_le {j k : Nat} (h : j ≤ k) : twoPow j ≤ twoPow k :=
  Nat.pow_le_pow_right (by decide) h

theorem twoPow_dvd {j k : Nat} (h : j ≤ k) : twoPow j ∣ twoPow k := Nat.pow_dvd_pow 2 h

theorem log2_twoPow (k : Nat) : (twoPow k).log2 = k := Nat.log2_two_pow

/-- A number has at most as many binary digits as its bound. -/
theorem log2_le_of_lt_twoPow {n k : Nat} (h : n < twoPow (k + 1)) : n.log2 ≤ k := by
  rcases Nat.eq_zero_or_pos n with rfl | hn
  · simp
  · exact Nat.lt_succ_iff.1 ((Nat.log2_lt (by omega)).2 h)

theorem lt_twoPow_log2 (n : Nat) : n < twoPow (n.log2 + 1) := Nat.lt_log2_self

end SurfaceStudio
