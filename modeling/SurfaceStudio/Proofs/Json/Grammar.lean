import SurfaceStudio.Proofs.Json.Strings
import SurfaceStudio.Proofs.Json.Values

/-!
# The grammar of JSON texts

What a JSON text is, without a reader: relations between the bytes in front of a construct, what
the construct stands for, and the bytes behind it.  They know no budget of brackets and look no
further than the construct goes, so `12` is the number one in front of a digit as well as the
number twelve; it is the whole text that has one reading only.

  • `Digits`, `Whole`, `Fraction`, `Exponent`, `Unsigned`, `Numeric` — numbers,
  • `Escape`, `Piece`, `Quoted` — strings,
  • `Lead`, `Value`, `Elements`, `Entries` — values, the members of an object as they stand,
  • `Document` — a whole text, and `WellFormed`, one that opens no more brackets than may be open
    at once,
  • `Value.length_lt` — every value takes at least one byte.
-/

namespace SurfaceStudio.Json.Grammar

/-! ## §1. White space. -/

/-- White space, behind which `t` is left. -/
def Gap (s t : List UInt8) : Prop := ∃ w, Blank w ∧ s = w ++ t

theorem gap_refl (t : List UInt8) : Gap t t := by
  refine ⟨[], fun b hb => ?_, rfl⟩
  cases hb

theorem Gap.trans {s t u : List UInt8} (h : Gap s t) (h' : Gap t u) : Gap s u := by
  obtain ⟨w, hw, rfl⟩ := h
  obtain ⟨w', hw', rfl⟩ := h'
  refine ⟨w ++ w', fun b hb => ?_, (List.append_assoc w w' u).symm⟩
  exact (List.mem_append.1 hb).elim (hw b) (hw' b)

theorem Gap.length_le {s t : List UInt8} (h : Gap s t) : t.length ≤ s.length := by
  obtain ⟨w, -, rfl⟩ := h
  rw [List.length_append]
  exact Nat.le_add_left _ _

/-! ## §2. Numbers. -/

/-- At least one digit. -/
inductive Digits : List UInt8 → List Nat → List UInt8 → Prop
  | last {b : UInt8} {t : List UInt8} (h : isDigit b = true) : Digits (b :: t) [digitValue b] t
  | more {b : UInt8} {s t : List UInt8} {ds : List Nat} (h : isDigit b = true)
      (hds : Digits s ds t) : Digits (b :: s) (digitValue b :: ds) t

/-- The digits before the point: a zero alone, or digits that begin with another one. -/
inductive Whole : List UInt8 → List Nat → List UInt8 → Prop
  | zero {t : List UInt8} : Whole ('0'.toUInt8 :: t) [0] t
  | digits {b : UInt8} {s t : List UInt8} {ds : List Nat} (hb : b ≠ '0'.toUInt8)
      (h : Digits (b :: s) ds t) : Whole (b :: s) ds t

/-- A point with digits behind it, or nothing. -/
inductive Fraction : List UInt8 → Option (List Nat) → List UInt8 → Prop
  | absent {t : List UInt8} : Fraction t none t
  | point {s t : List UInt8} {ds : List Nat} (h : Digits s ds t) :
      Fraction ('.'.toUInt8 :: s) (some ds) t

/-- The sign of an exponent, which may be left out; `true` for minus. -/
inductive Sign : List UInt8 → Bool → List UInt8 → Prop
  | absent {t : List UInt8} : Sign t false t
  | plus {t : List UInt8} : Sign ('+'.toUInt8 :: t) false t
  | minus {t : List UInt8} : Sign ('-'.toUInt8 :: t) true t

/-- An `e` with a sign and digits behind it, or nothing. -/
inductive Exponent : List UInt8 → Option (Bool × List Nat) → List UInt8 → Prop
  | absent {t : List UInt8} : Exponent t none t
  | power {b : UInt8} {s s₁ t : List UInt8} {minus : Bool} {ds : List Nat}
      (hb : b = 'e'.toUInt8 ∨ b = 'E'.toUInt8) (hs : Sign s minus s₁) (hds : Digits s₁ ds t) :
      Exponent (b :: s) (some (minus, ds)) t

/-- A number behind its sign. -/
inductive Unsigned (negative : Bool) : List UInt8 → Numeral → List UInt8 → Prop
  | numeral {s s₁ s₂ t : List UInt8} {whole : List Nat} {fraction : Option (List Nat)}
      {exponent : Option (Bool × List Nat)} (hw : Whole s whole s₁)
      (hf : Fraction s₁ fraction s₂) (he : Exponent s₂ exponent t) :
      Unsigned negative s ⟨negative, whole, fraction, exponent⟩ t

/-- A number that is not too large for a double. -/
inductive Numeric : List UInt8 → Number → List UInt8 → Prop
  | plain {s t : List UInt8} {n : Numeral} {x : Number} (h : Unsigned false s n t)
      (hx : n.value = .ok x) : Numeric s x t
  | minus {s t : List UInt8} {n : Numeral} {x : Number} (h : Unsigned true s n t)
      (hx : n.value = .ok x) : Numeric ('-'.toUInt8 :: s) x t

/-! ## §3. Strings. -/

/-- Four hexadecimal digits. -/
def Code (s : List UInt8) (n : Nat) (t : List UInt8) : Prop :=
  ∃ w, w.length = 4 ∧ hexNumber? w = some n ∧ s = w ++ t

/-- What may stand behind a backslash, with the bytes it stands for.  A code that is half of a
surrogate pair is followed, or preceded, by the other half. -/
inductive Escape : List UInt8 → List UInt8 → List UInt8 → Prop
  | short {b b' : UInt8} {t : List UInt8} (h : shortEscape? b = some b') : Escape (b :: t) [b'] t
  | code {s t : List UInt8} {n : Nat} (h : Code s n t) (hlead : isLeading n = false)
      (htrail : isTrailing n = false) :
      Escape ('u'.toUInt8 :: s) (String.utf8EncodeChar (Char.ofNat n)) t
  | pair {s s₁ t : List UInt8} {n m : Nat} (h : Code s n ('\\'.toUInt8 :: 'u'.toUInt8 :: s₁))
      (hlead : isLeading n = true) (h' : Code s₁ m t) (htrail : isTrailing m = true) :
      Escape ('u'.toUInt8 :: s)
        (String.utf8EncodeChar (Char.ofNat ((n - 0xd800) * 0x400 + (m - 0xdc00) + 0x10000))) t

/-- A byte that stands for itself, or an escape. -/
inductive Piece : List UInt8 → List UInt8 → List UInt8 → Prop
  | plain {b : UInt8} {t : List UInt8} (h : PlainByte b) : Piece (b :: t) [b] t
  | escape {s t bytes : List UInt8} (h : Escape s bytes t) : Piece ('\\'.toUInt8 :: s) bytes t

/-- Pieces up to the closing quote, with the bytes they stand for together. -/
inductive Body : List UInt8 → List UInt8 → List UInt8 → Prop
  | close {t : List UInt8} : Body ('"'.toUInt8 :: t) [] t
  | piece {s s₁ t bytes others : List UInt8} (h : Piece s bytes s₁) (hs : Body s₁ others t) :
      Body s (bytes ++ others) t

/-- A text between quotes. -/
inductive Quoted : List UInt8 → String → List UInt8 → Prop
  | text {s t : List UInt8} {text : String} (h : Body s (bytesOf text) t) :
      Quoted ('"'.toUInt8 :: s) text t

/-- Characters that need no escape stand for themselves between quotes. -/
theorem quoted_ofList {cs : List Char}
    (h : ∀ c ∈ cs, c ≠ '"' ∧ c ≠ '\\' ∧ ¬ c.toNat < 0x20) (t : List UInt8) :
    Quoted ('"'.toUInt8 :: (cs.flatMap String.utf8EncodeChar ++ '"'.toUInt8 :: t))
      (String.ofList cs) t := by
  have hbody : ∀ bs : List UInt8, (∀ b ∈ bs, PlainByte b) →
      Body (bs ++ '"'.toUInt8 :: t) bs t := by
    intro bs hbs
    induction bs with
    | nil => exact .close
    | cons b bs ih =>
      obtain ⟨hb, hothers⟩ := List.forall_mem_cons.1 hbs
      exact Body.piece (.plain hb) (ih hothers)
  refine .text ?_
  rw [bytesOf_ofList]
  refine hbody _ fun b hb => ?_
  obtain ⟨c, hc, hb⟩ := List.mem_flatMap.1 hb
  obtain ⟨hquote, hslash, hcontrol⟩ := h c hc
  exact plainByte_of_mem_utf8EncodeChar hquote hslash hcontrol hb

/-! ## §4. Values. -/

/-- What stands before a part of an array or an object: white space, and in front of all parts but
the first a comma in it. -/
inductive Lead : Bool → List UInt8 → List UInt8 → Prop
  | first {s t : List UInt8} (h : Gap s t) : Lead true s t
  | next {s s₁ t : List UInt8} (h : Gap s (','.toUInt8 :: s₁)) (h' : Gap s₁ t) : Lead false s t

mutual

/-- A value. -/
inductive Value : List UInt8 → Json → List UInt8 → Prop
  | null {t : List UInt8} :
      Value ('n'.toUInt8 :: 'u'.toUInt8 :: 'l'.toUInt8 :: 'l'.toUInt8 :: t) .null t
  | yes {t : List UInt8} :
      Value ('t'.toUInt8 :: 'r'.toUInt8 :: 'u'.toUInt8 :: 'e'.toUInt8 :: t) (.bool true) t
  | no {t : List UInt8} :
      Value ('f'.toUInt8 :: 'a'.toUInt8 :: 'l'.toUInt8 :: 's'.toUInt8 :: 'e'.toUInt8 :: t)
        (.bool false) t
  | number {s t : List UInt8} {n : Number} (h : Numeric s n t) : Value s (.number n) t
  | string {s t : List UInt8} {text : String} (h : Quoted s text t) : Value s (.string text) t
  | array {s t : List UInt8} {items : List Json} (h : Elements true s items (']'.toUInt8 :: t)) :
      Value ('['.toUInt8 :: s) (.array items) t
  | object {s t : List UInt8} {members : Members}
      (h : Entries true s members ('\x7d'.toUInt8 :: t)) :
      Value ('\x7b'.toUInt8 :: s) (.object members) t

/-- The elements of an array, from the first one on or (`false`) those behind it. -/
inductive Elements : Bool → List UInt8 → List Json → List UInt8 → Prop
  | nil {first : Bool} {s t : List UInt8} (h : Gap s t) : Elements first s [] t
  | cons {first : Bool} {s s₁ s₂ t : List UInt8} {v : Json} {vs : List Json}
      (hl : Lead first s s₁) (hv : Value s₁ v s₂) (hvs : Elements false s₂ vs t) :
      Elements first s (v :: vs) t

/-- The members of an object as they stand, repeated keys included. -/
inductive Entries : Bool → List UInt8 → Members → List UInt8 → Prop
  | nil {first : Bool} {s t : List UInt8} (h : Gap s t) : Entries first s [] t
  | cons {first : Bool} {s s₁ s₂ s₃ s₄ s₅ t : List UInt8} {key : String} {v : Json}
      {ms : Members} (hl : Lead first s s₁) (hk : Quoted s₁ key s₂)
      (hc : Gap s₂ (':'.toUInt8 :: s₃)) (hg : Gap s₃ s₄) (hv : Value s₄ v s₅)
      (hms : Entries false s₅ ms t) : Entries first s ((key, v) :: ms) t

end

/-! ## §5. Texts. -/

/-- **The text spells the value**, with white space around it and nothing else.  An object has the
members that stand in the text, in their order and with repeated keys. -/
def Document (text : String) (v : Json) : Prop :=
  ∃ s t, Gap (bytesOf text) s ∧ Value s v t ∧ Gap t []

/-- The text spells the value, in which no more brackets are open at once than may be. -/
def Denotes (text : String) (v : Json) : Prop := Document text v ∧ v.nesting ≤ bracketBudget

/-- The text is that of one value, nested no deeper than is read. -/
def WellFormed (text : String) : Prop := ∃ v, Denotes text v

theorem Lead.gap {first : Bool} {s t u : List UInt8} (h : Lead first s t) (h' : Gap t u) :
    Lead first s u := by
  cases h with
  | first h => exact .first (h.trans h')
  | next h hs => exact .next h (hs.trans h')

/-! ## §6. How much is taken. -/

theorem Digits.length_lt {s t : List UInt8} {ds : List Nat} (h : Digits s ds t) :
    t.length < s.length := by
  induction h with
  | last h => exact Nat.lt_succ_self _
  | more h hds ih => exact Nat.lt_succ_of_lt ih

theorem Whole.length_lt {s t : List UInt8} {ds : List Nat} (h : Whole s ds t) :
    t.length < s.length := by
  cases h with
  | zero => exact Nat.lt_succ_self _
  | digits hb h => exact h.length_lt

theorem Fraction.length_le {s t : List UInt8} {ds : Option (List Nat)} (h : Fraction s ds t) :
    t.length ≤ s.length := by
  cases h with
  | absent => exact Nat.le_refl _
  | point h => exact Nat.le_succ_of_le (Nat.le_of_lt h.length_lt)

theorem Sign.length_le {s t : List UInt8} {minus : Bool} (h : Sign s minus t) :
    t.length ≤ s.length := by
  cases h with
  | absent => exact Nat.le_refl _
  | plus => exact Nat.le_succ _
  | minus => exact Nat.le_succ _

theorem Exponent.length_le {s t : List UInt8} {e : Option (Bool × List Nat)}
    (h : Exponent s e t) : t.length ≤ s.length := by
  cases h with
  | absent => exact Nat.le_refl _
  | power hb hs hds =>
    exact Nat.le_succ_of_le (Nat.le_trans (Nat.le_of_lt hds.length_lt) hs.length_le)

theorem Unsigned.length_lt {negative : Bool} {s t : List UInt8} {n : Numeral}
    (h : Unsigned negative s n t) : t.length < s.length := by
  cases h with
  | numeral hw hf he =>
    exact Nat.lt_of_le_of_lt (Nat.le_trans he.length_le hf.length_le) hw.length_lt

theorem Numeric.length_lt {s t : List UInt8} {n : Number} (h : Numeric s n t) :
    t.length < s.length := by
  cases h with
  | plain h hx => exact h.length_lt
  | minus h hx => exact Nat.lt_succ_of_lt h.length_lt

theorem Code.length_lt {s t : List UInt8} {n : Nat} (h : Code s n t) : t.length < s.length := by
  obtain ⟨w, hw, -, rfl⟩ := h
  rw [List.length_append]
  omega

theorem Escape.length_lt {s bytes t : List UInt8} (h : Escape s bytes t) :
    t.length < s.length := by
  cases h with
  | short h => exact Nat.lt_succ_self _
  | code h hlead htrail => exact Nat.lt_succ_of_lt h.length_lt
  | pair h hlead h' htrail =>
    have hn := h.length_lt
    have hm := h'.length_lt
    simp only [List.length_cons] at hn ⊢
    omega

theorem Piece.length_lt {s bytes t : List UInt8} (h : Piece s bytes t) : t.length < s.length := by
  cases h with
  | plain h => exact Nat.lt_succ_self _
  | escape h => exact Nat.lt_succ_of_lt h.length_lt

theorem Body.length_lt {s bytes t : List UInt8} (h : Body s bytes t) : t.length < s.length := by
  induction h with
  | close => exact Nat.lt_succ_self _
  | piece h hs ih => exact Nat.lt_trans ih h.length_lt

theorem Quoted.length_lt {s t : List UInt8} {text : String} (h : Quoted s text t) :
    t.length < s.length := by
  cases h with
  | text h => exact Nat.lt_succ_of_lt h.length_lt

theorem Lead.length_le {first : Bool} {s t : List UInt8} (h : Lead first s t) :
    t.length ≤ s.length := by
  cases h with
  | first h => exact h.length_le
  | next h h' => exact Nat.le_trans h'.length_le (Nat.le_of_succ_le h.length_le)

mutual

/-- **Every value takes at least one byte.** -/
theorem Value.length_lt {s t : List UInt8} {v : Json} : Value s v t → t.length < s.length
  | .null => by simp only [List.length_cons]; omega
  | .yes => by simp only [List.length_cons]; omega
  | .no => by simp only [List.length_cons]; omega
  | .number h => h.length_lt
  | .string h => h.length_lt
  | .array h => by
    have hitems := h.length_le
    simp only [List.length_cons] at hitems ⊢
    omega
  | .object h => by
    have hmembers := h.length_le
    simp only [List.length_cons] at hmembers ⊢
    omega

/-- So there are no more elements than bytes. -/
theorem Elements.length_le {first : Bool} {s t : List UInt8} {vs : List Json} :
    Elements first s vs t → vs.length + t.length ≤ s.length
  | .nil h => by
    have hgap := h.length_le
    simp only [List.length_nil]
    omega
  | .cons hl hv hvs => by
    have hlead := hl.length_le
    have hvalue := hv.length_lt
    have hothers := hvs.length_le
    simp only [List.length_cons]
    omega

/-- Nor are there more members. -/
theorem Entries.length_le {first : Bool} {s t : List UInt8} {ms : Members} :
    Entries first s ms t → ms.length + t.length ≤ s.length
  | .nil h => by
    have hgap := h.length_le
    simp only [List.length_nil]
    omega
  | .cons hl hk hc hg hv hms => by
    have hlead := hl.length_le
    have hkey := hk.length_lt
    have hcolon := hc.length_le
    have hgap := hg.length_le
    have hvalue := hv.length_lt
    have hothers := hms.length_le
    simp only [List.length_cons] at hcolon ⊢
    omega

end

end SurfaceStudio.Json.Grammar
