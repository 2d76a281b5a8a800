import SurfaceStudio.Json.Writer
import SurfaceStudio.Proofs.Json.Numerals

/-!
# Numbers are read back

A number that reads back from its written form alone reads back wherever that form stands, and
integers always do.

  • `Number.ReadsBack` — the written form of a number reads as an equal number,
  • `Number.ReadsBack.read_text` — equal means the very same number, the sign of a zero included,
  • `reads_number` — **a number that reads back alone reads back in front of other text**,
  • `readsBack_integer` — **every integer reads back**.
-/

namespace SurfaceStudio

/-- **The written form of the number reads as an equal number.** -/
def Number.ReadsBack (n : Number) : Prop :=
  ∃ m, Json.read n.text = .ok (.number m) ∧ m.same n = true

namespace Json

open Reader

/-! ## §1. The written form of a number. -/

/-- The characters that a number is written with. -/
def IsNumeralChar (c : Char) : Prop := c.toNat < 0x80 ∧ isNumeralByte c.toUInt8 = true

instance (c : Char) : Decidable (IsNumeralChar c) := inferInstanceAs (Decidable (_ ∧ _))

theorem isNumeralChar_of_isDigit {c : Char} (h : c.isDigit = true) : IsNumeralChar c := by
  have hc : 48 ≤ c.toNat ∧ c.toNat ≤ 57 := by
    simpa [Char.isDigit, UInt32.le_iff_toNat_le] using h
  refine ⟨by omega, isNumeralByte_of_isDigit ?_⟩
  have hb : c.toUInt8.toNat = c.toNat := by
    show c.val.toNat % 256 = c.toNat
    exact Nat.mod_eq_of_lt (by show c.toNat < 256; omega)
  rw [isDigit, Bool.and_eq_true, decide_eq_true_eq, decide_eq_true_eq, UInt8.le_iff_toNat_le,
    UInt8.le_iff_toNat_le, hb]
  exact hc

/-- The text is written with the characters of numerals alone. -/
def NumeralText (text : String) : Prop := ∀ c ∈ text.toList, IsNumeralChar c

theorem NumeralText.append {s t : String} (hs : NumeralText s) (ht : NumeralText t) :
    NumeralText (s ++ t) := by
  intro c hc
  rw [String.toList_append, List.mem_append] at hc
  exact hc.elim (hs c) (ht c)

theorem numeralText_ofList {l : List Char} (h : ∀ c ∈ l, IsNumeralChar c) :
    NumeralText (String.ofList l) := by
  intro c hc
  rw [String.toList_ofList] at hc
  exact h c hc

theorem numeralText_of_all {l : List Char} (h : l.all (IsNumeralChar ·) = true) :
    NumeralText (String.ofList l) :=
  numeralText_ofList fun c hc => of_decide_eq_true (List.all_eq_true.1 h c hc)

theorem numeralText_repr (n : Nat) : NumeralText (Nat.repr n) := by
  intro c hc
  rw [Nat.toList_repr] at hc
  exact isNumeralChar_of_isDigit (Nat.isDigit_of_mem_toDigits (by decide) (by decide) hc)

theorem numeralText_zeros (n : Nat) : NumeralText (Decimal.zeros n) := by
  refine numeralText_ofList fun c hc => ?_
  rw [List.eq_of_mem_replicate hc]
  decide

theorem numeralText_sign (b : Prop) [Decidable b] : NumeralText (if b then "-" else "") := by
  split
  · exact numeralText_of_all (l := ['-']) (by decide)
  · exact numeralText_of_all (l := []) (by decide)

theorem numeralText_positional (d : Decimal) : NumeralText d.positional := by
  have hdigits : NumeralText d.digits := numeralText_repr _
  have hpoint : NumeralText "." := numeralText_of_all (l := ['.']) (by decide)
  have hzero : NumeralText "0." := numeralText_of_all (l := ['0', '.']) (by decide)
  unfold Decimal.positional
  dsimp only
  split
  · exact hdigits.append (numeralText_zeros _)
  · split
    · refine (NumeralText.append ?_ hpoint).append ?_
      · exact numeralText_ofList fun c hc => hdigits c (List.mem_of_mem_take hc)
      · exact numeralText_ofList fun c hc => hdigits c (List.mem_of_mem_drop hc)
    · exact (hzero.append (numeralText_zeros _)).append hdigits

theorem numeralText_scientific (d : Decimal) : NumeralText d.scientific := by
  have hdigits : NumeralText d.digits := numeralText_repr _
  have hpoint : NumeralText "." := numeralText_of_all (l := ['.']) (by decide)
  have hsign : ∀ b : Prop, ∀ _ : Decidable b, NumeralText (if b then "-" else "+") := by
    intro b _
    split
    · exact numeralText_of_all (l := ['-']) (by decide)
    · exact numeralText_of_all (l := ['+']) (by decide)
  unfold Decimal.scientific
  refine ((NumeralText.append ?_ (numeralText_of_all (l := ['e']) (by decide))).append
    (hsign _ _)).append (numeralText_repr _)
  -- A point stands behind the first digit if there are others.
  cases h : d.digits.toList with
  | nil => exact numeralText_of_all (l := []) (by decide)
  | cons c rest =>
    have hc : IsNumeralChar c := hdigits c (h ▸ List.mem_cons_self)
    have hfirst : NumeralText (String.singleton c) := by
      intro c' hc'
      rw [String.toList_singleton, List.mem_singleton] at hc'
      exact hc' ▸ hc
    cases rest with
    | nil => exact hfirst
    | cons c' rest =>
      refine (hfirst.append hpoint).append (numeralText_ofList fun c'' hc'' => ?_)
      exact hdigits c'' (h ▸ List.mem_cons_of_mem _ hc'')

theorem numeralText_text (n : Number) : NumeralText n.text := by
  cases n with
  | integer value fits =>
    show NumeralText (Number.integerText value)
    unfold Number.integerText
    split
    · exact (numeralText_of_all (l := ['-']) (by decide)).append (numeralText_repr _)
    · exact numeralText_repr _
  | double x =>
    have hpoint : NumeralText ".0" := numeralText_of_all (l := ['.', '0']) (by decide)
    show NumeralText (Number.doubleText x)
    unfold Number.doubleText
    refine (numeralText_sign _).append ?_
    split
    · exact numeralText_scientific _
    · split
      · exact (numeralText_positional _).append hpoint
      · exact numeralText_positional _

theorem isNumeralByte_of_mem {text : String} (h : NumeralText text) {b : UInt8}
    (hb : b ∈ bytesOf text) : isNumeralByte b = true := by
  rw [bytesOf_toList, List.mem_flatMap] at hb
  obtain ⟨c, hc, hb⟩ := hb
  obtain ⟨hascii, hbyte⟩ := h c hc
  rw [utf8EncodeChar_of_ascii hascii, List.mem_singleton] at hb
  exact hb ▸ hbyte

/-! ## §2. Reading a number. -/

/-- The first byte of a number decides how it is read. -/
theorem scalar_numeral {b : UInt8} (h : isNumeralByte b = true) :
    scalar b = (if b = '-'.toUInt8 then do
        step
        return .number (← numberRest true)
      else if isDigit b then return .number (← numberRest false)
      else failAhead .valueExpected) := by
  have hne : ∀ b' : UInt8, isNumeralByte b' = false → b ≠ b' := fun _ => ne_of_isNumeralByte h
  unfold scalar
  rw [if_neg (hne 'n'.toUInt8 (by decide)), if_neg (hne 't'.toUInt8 (by decide)),
    if_neg (hne 'f'.toUInt8 (by decide)), if_neg (hne '"'.toUInt8 (by decide))]

theorem stable_scalar {b : UInt8} (h : isNumeralByte b = true) {c : Cursor} {rest : List UInt8}
    (hrest : c.rest = b :: rest) : Stable (scalar b) c := by
  rw [scalar_numeral h]
  split
  · refine Stable.bind (Stable.step (by simp [hrest])) fun _ c₁ _ => ?_
    exact Stable.bind (stable_numberRest true c₁) fun n c₂ _ => Stable.pure _ _
  · split
    · exact Stable.bind (stable_numberRest false c) fun n c₁ _ => Stable.pure _ _
    · exact Stable.of_error rfl

/-- A numeral byte begins a scalar. -/
theorem valueWith_eq_scalar (inner : Option (Reader Json)) {b : UInt8} {rest : List UInt8}
    (h : isNumeralByte b = true) {c : Cursor} (hrest : c.rest = b :: rest) :
    valueWith inner c = scalar b c := by
  have hblank : Blank [] := fun _ h => nomatch h
  have hpeek : peekToken? c = .ok (some b, c) :=
    (reads_peekToken?_cons hblank (not_blank_of_isNumeralByte h)).apply hrest
  have hbracket : b ≠ '['.toUInt8 := ne_of_isNumeralByte h (by decide)
  have hbrace : b ≠ '\x7b'.toUInt8 := ne_of_isNumeralByte h (by decide)
  unfold valueWith
  rw [bind_of_eq hpeek]
  show (if b = '['.toUInt8 then _ else if b = '\x7b'.toUInt8 then _ else scalar b) c = _
  rw [if_neg hbracket, if_neg hbrace]

theorem reads_valueWith_scalar {inner : Option (Reader Json)} {b : UInt8} {w tail : List UInt8}
    {v : Json} (h : isNumeralByte b = true) (hr : Reads (scalar b) (b :: w) tail v) :
    Reads (valueWith inner) (b :: w) tail v := by
  intro line column
  rw [valueWith_eq_scalar inner h (List.cons_append)]
  exact hr line column

/-- What a number is read back as alone, it is read as in front of other text. -/
theorem reads_of_read {n m : Number} (h : read n.text = .ok (.number m)) :
    ∃ b w, bytesOf n.text = b :: w ∧ isNumeralByte b = true
      ∧ ∀ tail, Ends tail → Reads (scalar b) (b :: w) tail (.number m) := by
  obtain ⟨c, hvalue, hblank⟩ := exists_of_readWith_eq_ok h
  have hbytes : ∀ b ∈ bytesOf n.text, isNumeralByte b = true :=
    fun b hb => isNumeralByte_of_mem (numeralText_text n) hb
  cases hw : bytesOf n.text with
  | nil =>
    rw [hw] at hvalue
    cases hvalue
  | cons b w =>
    rw [hw] at hvalue hbytes
    have hb := hbytes b List.mem_cons_self
    refine ⟨b, w, rfl, hb, fun tail ht => ?_⟩
    have hscalar : scalar b (.start (b :: w)) = .ok (.number m, c) := by
      rw [← valueWith_eq_scalar (some (value 126)) hb rfl]
      exact hvalue
    obtain ⟨u, hu, hreads⟩ := stable_scalar hb (c := .start (b :: w)) rfl _ c hscalar
    -- What is left is white space, and a number is written without any.
    have hrest : c.rest = [] := by
      cases hc : c.rest with
      | nil => rfl
      | cons b' rest =>
        have hmem : b' ∈ b :: w := by
          change b :: w = u ++ c.rest at hu
          rw [hu, hc]
          simp
        have hblank' := hblank b' (hc ▸ List.mem_cons_self)
        rw [not_blank_of_isNumeralByte (hbytes b' hmem)] at hblank'
        cases hblank'
    rw [hrest, List.append_nil] at hu
    have hreads' := hreads tail ht
    rw [hrest, List.nil_append, ← hu] at hreads'
    exact hreads'

/-! ## §3. Equal numbers that are read back are the same. -/

theorem negative_of_signed {negative : Bool} {x? : Option Binary64} {x : Binary64}
    (h : Numeral.signed negative x? = .ok (.double x)) : x.negative = negative := by
  cases x? with
  | none => cases h
  | some y =>
    injection h with h
    injection h with h
    rw [← h]
    rfl

theorem negative_of_wholeNumber {negative : Bool} {k : Nat} {x : Binary64}
    (h : Numeral.wholeNumber negative k = .ok (.double x)) : x.negative = negative := by
  unfold Numeral.wholeNumber at h
  dsimp only at h
  by_cases hfits : Number.Fits (if negative = true then -(k : Int) else k)
      ∧ ¬(negative = true ∧ k = 0)
  · rw [dif_pos hfits] at h
    cases h
  · rw [dif_neg hfits] at h
    exact negative_of_signed h

/-- A double has the sign of the numeral that it is the value of. -/
theorem negative_of_value {n : Numeral} {x : Binary64} (h : n.value = .ok (.double x)) :
    x.negative = n.negative := by
  unfold Numeral.value at h
  dsimp only at h
  split at h
  · exact negative_of_wholeNumber h
  · split at h
    · exact negative_of_signed h
    · split at h
      · exact negative_of_signed h
      · split at h
        · cases h
        · injection h with h
          injection h with h
          rw [← h]
          rfl

theorem negative_of_numberRest {negative : Bool} {c c' : Cursor} {x : Binary64}
    (h : numberRest negative c = .ok (.double x, c')) : x.negative = negative := by
  obtain ⟨n, c₁, hn, hv⟩ := exists_of_bind_eq_ok h
  have hsign : n.negative = negative := by
    obtain ⟨whole, c₂, -, h₂⟩ := exists_of_bind_eq_ok hn
    obtain ⟨fraction, c₃, -, h₃⟩ := exists_of_bind_eq_ok h₂
    obtain ⟨exponent, c₄, -, h₄⟩ := exists_of_bind_eq_ok h₃
    injection h₄ with h₄
    injection h₄ with h₄
    rw [← h₄]
  cases hval : n.value with
  | error unread =>
    rw [hval] at hv
    cases hv
  | ok found =>
    rw [hval] at hv
    injection hv with hv
    injection hv with hv
    subst hv
    rw [negative_of_value hval, hsign]

theorem negative_of_scalar {b : UInt8} (hb : isNumeralByte b = true) {c c' : Cursor}
    {x : Binary64} (h : scalar b c = .ok (.number (.double x), c')) :
    x.negative = decide (b = '-'.toUInt8) := by
  rw [scalar_numeral hb] at h
  split at h
  next hminus =>
    obtain ⟨_, c₁, -, h₁⟩ := exists_of_bind_eq_ok h
    obtain ⟨n, c₂, hn, h₂⟩ := exists_of_bind_eq_ok h₁
    injection h₂ with h₂
    injection h₂ with h₂
    injection h₂ with h₂
    subst h₂
    rw [negative_of_numberRest hn, decide_eq_true hminus]
  next hminus =>
    split at h
    · obtain ⟨n, c₁, hn, h₁⟩ := exists_of_bind_eq_ok h
      injection h₁ with h₁
      injection h₁ with h₁
      injection h₁ with h₁
      subst h₁
      rw [negative_of_numberRest hn, decide_eq_false hminus]
    · cases h

/-- Both zeros are written with their sign. -/
theorem bytesOf_zero {x : Binary64} (h : x.units = 0) :
    bytesOf (Number.double x).text
      = (if x.negative then ['-'.toUInt8] else []) ++ ['0'.toUInt8, '.'.toUInt8, '0'.toUInt8] := by
  have hshortest : x.shortest = ⟨0, 0⟩ := by rw [Binary64.shortest, if_pos h]
  show bytesOf (Number.doubleText x) = _
  rw [Number.doubleText, hshortest, Binary64.sign, bytesOf_append]
  cases x.negative with
  | true =>
    rw [if_pos rfl, if_pos rfl, bytesOf_toList, bytesOf_toList]
    decide
  | false =>
    rw [if_neg (by decide), if_neg (by decide), bytesOf_toList, bytesOf_toList]
    decide

end Json

open Json

/-- **An equal number that is read back is the very same number.** -/
theorem Number.ReadsBack.read_text {n : Number} (h : n.ReadsBack) :
    Json.read n.text = .ok (.number n) := by
  obtain ⟨m, hread, hsame⟩ := h
  have hmn : m = n := by
    cases m with
    | integer k hk =>
      cases n with
      | integer l hl =>
        have hkl : k = l := by simpa [Number.same] using hsame
        subst hkl
        rfl
      | double y => cases hsame
    | double x =>
      cases n with
      | integer l hl => cases hsame
      | double y =>
        have hxy : x.units = y.units ∧ (x.units = 0 ∨ x.negative = y.negative) := by
          simpa [Number.same, Binary64.same] using hsame
        obtain ⟨hunits, hsign⟩ := hxy
        have hneg : x.negative = y.negative := by
          rcases hsign with hzero | hneg
          -- The two zeros are equal, but each is written and read with its sign.
          · obtain ⟨b, w, hw, hb, hreads⟩ := reads_of_read hread
            rw [bytesOf_zero (hunits ▸ hzero)] at hw
            have hsign := negative_of_scalar hb (hreads [] ends_nil 1 0)
            cases hy : y.negative with
            | true =>
              rw [hy] at hw
              injection hw with hw
              subst hw
              rw [hsign]
              decide
            | false =>
              rw [hy] at hw
              injection hw with hw
              subst hw
              rw [hsign]
              decide
          · exact hneg
        obtain ⟨_, _, _, _⟩ := x
        obtain ⟨_, _, _, _⟩ := y
        subst hunits hneg
        rfl
  rw [hread, hmn]

/-- **A number that reads back alone reads back in front of other text** that cannot continue
it. -/
theorem Json.reads_number {n : Number} (h : n.ReadsBack) {inner : Option (Reader Json)}
    {tail : List UInt8} (ht : Ends tail) :
    Reads (valueWith inner) (bytesOf n.text) tail (.number n) := by
  obtain ⟨b, w, hw, hb, hreads⟩ := reads_of_read h.read_text
  rw [hw]
  exact reads_valueWith_scalar hb (hreads tail ht)

end SurfaceStudio
