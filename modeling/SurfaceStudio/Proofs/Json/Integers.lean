import SurfaceStudio.Proofs.Json.Numbers

/-!
# Integers are read back

The decimal digits of an integer that fits in a machine word are read as that integer.

  • `digits_repr`, `absorb_repr` — the digits of a natural number, and what is made of them,
  • `reads_numeral_repr` — its numeral,
  • `Number.readsBack_integer` — **every integer reads back**.
-/

namespace SurfaceStudio

namespace Json

open Reader

/-! ## §1. The digits of a natural number. -/

/-- The byte of a digit from 0 to 9. -/
def digitByte (d : Nat) : UInt8 := d.digitChar.toUInt8

theorem digitByte_spec : ∀ d < 10,
    String.utf8EncodeChar d.digitChar = [digitByte d] ∧ isDigit (digitByte d) = true
      ∧ digitValue (digitByte d) = d ∧ (digitByte d = '0'.toUInt8 → d = 0) := by
  decide

theorem bytesOf_repr_of_lt {k : Nat} (h : k < 10) : bytesOf (Nat.repr k) = [digitByte k] := by
  rw [bytesOf_toList, Nat.toList_repr, Nat.toDigits_of_lt_base h, List.flatMap_singleton]
  exact (digitByte_spec k h).1

theorem bytesOf_repr_of_le {k : Nat} (h : 10 ≤ k) :
    bytesOf (Nat.repr k) = bytesOf (Nat.repr (k / 10)) ++ [digitByte (k % 10)] := by
  rw [Nat.repr_eq_repr_append_repr h, bytesOf_append,
    bytesOf_repr_of_lt (Nat.mod_lt k (by decide))]

/-- The decimal digits of a natural number, the first of which is no zero unless it is alone. -/
theorem digits_repr (k : Nat) :
    (∀ b ∈ bytesOf (Nat.repr k), isDigit b = true)
      ∧ ∃ b w, bytesOf (Nat.repr k) = b :: w ∧ (b = '0'.toUInt8 → k = 0) := by
  -- By the number without its last digit.
  induction k using Nat.strongRecOn with
  | ind k ih =>
    by_cases hk : k < 10
    · obtain ⟨-, hdigit, -, hzero⟩ := digitByte_spec k hk
      rw [bytesOf_repr_of_lt hk]
      refine ⟨fun b hb => ?_, digitByte k, [], rfl, hzero⟩
      rwa [List.mem_singleton.1 hb]
    · have hle : 10 ≤ k := by omega
      obtain ⟨hall, b, w, hw, hzero⟩ := ih (k / 10) (by omega)
      obtain ⟨-, hdigit, -, -⟩ := digitByte_spec (k % 10) (Nat.mod_lt k (by decide))
      rw [bytesOf_repr_of_le hle]
      refine ⟨fun b' hb' => ?_, b, w ++ [digitByte (k % 10)], by rw [hw]; rfl, fun hb => ?_⟩
      · rcases List.mem_append.1 hb' with hb' | hb'
        · exact hall b' hb'
        · rwa [List.mem_singleton.1 hb']
      · have := hzero hb
        omega

theorem absorb_append {s t : Nat} {ds es : List Nat} (h : Numeral.absorb s ds = (t, [])) :
    Numeral.absorb s (ds ++ es) = Numeral.absorb t es := by
  induction ds generalizing s with
  | nil =>
    injection h with h
    rw [List.nil_append, h]
  | cons d ds ih =>
    rw [Numeral.absorb] at h
    rw [List.cons_append, Numeral.absorb]
    split at h
    next hfit => rw [if_pos hfit, ih h]
    next => cases h

/-- The digits of a number of at most 64 bits are all taken into the significand. -/
theorem absorb_repr {k : Nat} (h : k ≤ 0xffffffffffffffff) :
    Numeral.absorb 0 ((bytesOf (Nat.repr k)).map digitValue) = (k, []) := by
  induction k using Nat.strongRecOn with
  | ind k ih =>
    by_cases hk : k < 10
    · obtain ⟨-, -, hvalue, -⟩ := digitByte_spec k hk
      rw [bytesOf_repr_of_lt hk, List.map_singleton, hvalue, Numeral.absorb, if_pos (by omega),
        Numeral.absorb, Nat.zero_mul, Nat.zero_add]
    · have hle : 10 ≤ k := by omega
      obtain ⟨-, -, hvalue, -⟩ := digitByte_spec (k % 10) (Nat.mod_lt k (by decide))
      -- The digits before the last one stand for a smaller number, which fits as well.
      have hk' : k / 10 * 10 + k % 10 = k := by omega
      rw [bytesOf_repr_of_le hle, List.map_append, List.map_singleton, hvalue,
        absorb_append (ih (k / 10) (by omega) (by omega)), Numeral.absorb, hk', if_pos h,
        Numeral.absorb]

/-! ## §2. The numeral of a natural number. -/

theorem reads_digits {w tail : List UInt8} (hw : ∀ b ∈ w, isDigit b = true)
    (ht : NoDigit tail) : Reads digits w tail (w.map digitValue) := by
  intro line column
  have hrun : (w ++ tail).takeWhile isDigit = w := by
    rw [List.takeWhile_append_of_pos hw, takeWhile_isDigit_of_noDigit ht, List.append_nil]
  show Except.ok (List.map digitValue (List.takeWhile isDigit _), _) = _
  rw [hrun]

theorem reads_wholeDigits_repr (ended : Cause) (k : Nat) {tail : List UInt8} (ht : Ends tail) :
    Reads (wholeDigits ended) (bytesOf (Nat.repr k)) tail
      ((bytesOf (Nat.repr k)).map digitValue) := by
  obtain ⟨hall, b, w, hw, hzero⟩ := digits_repr k
  rw [hw] at hall ⊢
  have hdigit := hall b List.mem_cons_self
  refine (reads_peek? _).bind_nil ?_
  show Reads (if b = '0'.toUInt8 then _ else if isDigit b = true then _ else _) _ _ _
  split
  next hb =>
    -- A leading zero is the whole number.
    have hk := hzero hb
    subst hk
    rw [bytesOf_repr_of_lt (by decide)] at hw
    injection hw with hb' hw
    subst hb' hw
    exact (reads_step _ _).bind (reads_afterZero (noDigit_of_ends ht))
  next => exact reads_digits hall (noDigit_of_ends ht)

theorem reads_numeral_repr (ended : Cause) (negative : Bool) (k : Nat) {tail : List UInt8}
    (ht : Ends tail) :
    Reads (numeral ended negative) (bytesOf (Nat.repr k)) tail
      ⟨negative, (bytesOf (Nat.repr k)).map digitValue, none, none⟩ := by
  refine (reads_wholeDigits_repr ended k ht).bind_end ?_
  refine (reads_noFraction ended ht).bind_end ?_
  exact (reads_noExponent ended ht).bind_end (Reads.pure _ tail)

theorem reads_numberRest_repr (negative : Bool) (k : Nat) {value : Int} (fits : Number.Fits value)
    (hk : k ≤ 0xffffffffffffffff) (hvalue : value = if negative = true then -(k : Int) else k)
    (hzero : ¬(negative = true ∧ k = 0)) {tail : List UInt8} (ht : Ends tail) :
    Reads (numberRest negative) (bytesOf (Nat.repr k)) tail (.integer value fits) := by
  have hnumber : (Numeral.mk negative ((bytesOf (Nat.repr k)).map digitValue) none none).value
      = .ok (.integer value fits) := by
    subst hvalue
    unfold Numeral.value
    rw [absorb_repr hk]
    show Numeral.wholeNumber negative k = _
    unfold Numeral.wholeNumber
    dsimp only
    rw [dif_pos ⟨fits, hzero⟩]
  refine (reads_numeral_repr .endInValue negative k ht).bind_end ?_
  rw [hnumber]
  exact Reads.pure _ tail

/-! ## §3. Integers. -/

theorem isNumeralByte_minus : isNumeralByte '-'.toUInt8 = true := by decide

/-- **The written form of an integer is read as that integer.** -/
theorem reads_integer (value : Int) (fits : Number.Fits value) {inner : Option (Reader Json)}
    {tail : List UInt8} (ht : Ends tail) :
    Reads (valueWith inner) (bytesOf (Number.integer value fits).text) tail
      (.number (.integer value fits)) := by
  show Reads _ (bytesOf (Number.integerText value)) _ _
  unfold Number.Fits at fits
  rw [Number.integerText]
  split
  next hneg =>
    have hminus : bytesOf "-" = ['-'.toUInt8] := bytesOf_ofList ['-']
    rw [bytesOf_append, hminus]
    refine reads_valueWith_scalar isNumeralByte_minus ?_
    -- Behind the sign stands the absolute value.
    have hvalue : value = if true = true then -(value.natAbs : Int) else value.natAbs := by
      rw [if_pos rfl]
      omega
    have hrest := reads_numberRest_repr true value.natAbs fits (by omega) hvalue
      (fun h => by omega) ht
    rw [scalar_numeral isNumeralByte_minus, if_pos rfl]
    exact (reads_step _ _).bind hrest.bind_pure
  next hneg =>
    have hvalue : value = if false = true then -(value.natAbs : Int) else value.natAbs := by
      rw [if_neg Bool.false_ne_true]
      omega
    have hrest := reads_numberRest_repr false value.natAbs fits (by omega) hvalue
      (fun h => Bool.false_ne_true h.1) ht
    obtain ⟨hall, b, w, hw, -⟩ := digits_repr value.natAbs
    rw [hw] at hall hrest ⊢
    have hdigit := hall b List.mem_cons_self
    have hb := isNumeralByte_of_isDigit hdigit
    have hminus : b ≠ '-'.toUInt8 := by
      rintro rfl
      exact absurd hdigit (by decide)
    refine reads_valueWith_scalar hb ?_
    rw [scalar_numeral hb, if_neg hminus, if_pos hdigit]
    exact hrest.bind_pure

end Json

/-- The number is an integer, not a double. -/
def Number.isInteger : Number → Bool
  | .integer _ _ => true
  | .double _ => false

/-- **Every integer reads back.** -/
theorem Number.readsBack_integer (value : Int) (fits : Number.Fits value) :
    (Number.integer value fits).ReadsBack := by
  refine ⟨.integer value fits, ?_, by simp [Number.same]⟩
  exact Json.readWith_eq_ok (Json.reads_integer value fits Json.ends_nil)

theorem Number.readsBack_of_isInteger {n : Number} (h : n.isInteger = true) : n.ReadsBack := by
  cases n with
  | integer value fits => exact readsBack_integer value fits
  | double x => cases h

end SurfaceStudio
