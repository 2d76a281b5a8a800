import SurfaceStudio.Ron.Document

/-!
# The grammar of RON records

How the parts of a record are spelled, without a reader: relations between the characters in front
of a construct, what it stands for, and the characters behind it.

  • `Block`, `Gap` — comments, and what may stand between two parts,
  • `Digits`, `Integer` — unsigned integers in four bases,
  • `Escape`, `Quoted` — strings with escapes,
  • `Entry`, `Listed` — a field, and fields between commas up to the closing parenthesis,
  • `Block.length_le`, …, `Entry.length_le` — no construct is shorter than nothing,
  • `Listed.count_le` — each field takes a character at least.
-/

namespace SurfaceStudio.Ron.Grammar

/-! ## §1. Blanks and comments. -/

/-- A comment between marks, behind the first of them.  Such comments nest. -/
inductive Block : List Char → List Char → Prop
  | close {t : List Char} : Block ('*' :: '/' :: t) t
  | nested {s s₁ t : List Char} (h : Block s s₁) (hs : Block s₁ t) : Block ('/' :: '*' :: s) t
  | char {c : Char} {s t : List Char} (hclose : ∀ u, c :: s ≠ '*' :: '/' :: u)
      (hopen : ∀ u, c :: s ≠ '/' :: '*' :: u) (hs : Block s t) : Block (c :: s) t

/-- Blanks and comments, behind which `t` is left.  The last line need not end. -/
inductive Gap : List Char → List Char → Prop
  | none {t : List Char} : Gap t t
  | blank {c : Char} {s t : List Char} (hc : isBlank c = true) (hs : Gap s t) : Gap (c :: s) t
  | line {text s t : List Char} (htext : '\n' ∉ text) (hs : Gap s t) :
      Gap ('/' :: '/' :: (text ++ '\n' :: s)) t
  | lastLine {text : List Char} (htext : '\n' ∉ text) : Gap ('/' :: '/' :: text) []
  | block {s s₁ t : List Char} (h : Block s s₁) (hs : Gap s₁ t) : Gap ('/' :: '*' :: s) t

theorem Block.length_le {s t : List Char} (h : Block s t) : t.length ≤ s.length := by
  induction h with
  | close => simp only [List.length_cons]; omega
  | nested h hs ih ihs => simp only [List.length_cons]; omega
  | char hclose hopen hs ih => simp only [List.length_cons]; omega

theorem Gap.length_le {s t : List Char} (h : Gap s t) : t.length ≤ s.length := by
  induction h with
  | none => exact Nat.le_refl _
  | blank hc hs ih => simp only [List.length_cons]; omega
  | line htext hs ih => simp only [List.length_cons, List.length_append]; omega
  | lastLine htext => exact Nat.zero_le _
  | block h hs ih =>
    have := h.length_le
    simp only [List.length_cons]
    omega

/-! ## §2. Integers. -/

/-- Digits of a base, with underscores behind the first of them, and their value. -/
inductive Digits (base : Nat) : List Char → Nat → Prop
  | one {c : Char} {d : Nat} (hc : digitValue? c = some d) (hd : d < base) : Digits base [c] d
  | more {ds : List Char} {n : Nat} {c : Char} {d : Nat} (h : Digits base ds n)
      (hc : digitValue? c = some d) (hd : d < base) : Digits base (ds ++ [c]) (n * base + d)
  | underscore {ds : List Char} {n : Nat} (h : Digits base ds n) : Digits base (ds ++ ['_']) n

/-- The mark of a base.  Ten needs none. -/
inductive Mark : List Char → Nat → Prop
  | decimal : Mark [] 10
  | binary : Mark ['0', 'b'] 2
  | octal : Mark ['0', 'o'] 8
  | hexadecimal : Mark ['0', 'x'] 16

/-- An integer: perhaps a plus sign, the mark of a base, its digits, and perhaps a type. -/
inductive Integer : List Char → Nat → List Char → Prop
  | spelled {sign mark ds type t : List Char} {base n : Nat} (hsign : sign = [] ∨ sign = ['+'])
      (hmark : Mark mark base) (hds : Digits base ds n)
      (htype : type = [] ∨ type = ['u', '6', '4']) :
      Integer (sign ++ (mark ++ (ds ++ (type ++ t)))) n t

theorem Integer.length_le {s t : List Char} {n : Nat} (h : Integer s n t) :
    t.length ≤ s.length := by
  cases h
  simp only [List.length_append]
  omega

/-! ## §3. Strings. -/

/-- The escapes of one letter, and what they stand for. -/
def shortEscapes : List (Char × Char) := [
  ('\'', '\''), ('"', '"'), ('\\', '\\'), ('n', '\n'), ('r', '\r'), ('t', '\t'), ('0', '\x00')]

/-- What may stand behind a backslash, and the character that it stands for. -/
inductive Escape : List Char → Char → List Char → Prop
  | short {letter c : Char} {t : List Char} (h : (letter, c) ∈ shortEscapes) :
      Escape (letter :: t) c t
  /-- Two digits for a character of ASCII. -/
  | byte {x y c : Char} {m n : Nat} {t : List Char} (hx : digitValue? x = some m)
      (hy : digitValue? y = some n) (hc : c.toNat = 16 * m + n) (hascii : c.toNat < 0x80) :
      Escape ('x' :: x :: y :: t) c t
  /-- Up to six digits for any character. -/
  | code {ds t : List Char} {c : Char} (h : Digits 16 ds c.toNat) (hlength : ds.length ≤ 6)
      (hunderscore : '_' ∉ ds) : Escape ('u' :: '\x7b' :: (ds ++ '\x7d' :: t)) c t

/-- Characters and escapes up to the closing quote. -/
inductive Body : List Char → List Char → List Char → Prop
  | close {t : List Char} : Body ('"' :: t) [] t
  | plain {c : Char} {s t cs : List Char} (hquote : c ≠ '"') (hslash : c ≠ '\\')
      (hs : Body s cs t) : Body (c :: s) (c :: cs) t
  | escape {c : Char} {s s₁ t cs : List Char} (h : Escape s c s₁) (hs : Body s₁ cs t) :
      Body ('\\' :: s) (c :: cs) t

/-- A text between quotes. -/
inductive Quoted : List Char → String → List Char → Prop
  | text {s t : List Char} {text : String} (h : Body s text.toList t) : Quoted ('"' :: s) text t

theorem Escape.length_lt {s t : List Char} {c : Char} (h : Escape s c t) :
    t.length < s.length := by
  cases h <;> simp only [List.length_cons, List.length_append] <;> omega

/-- Each character and the closing quote take a character at least. -/
theorem Body.length_lt {s cs t : List Char} (h : Body s cs t) :
    t.length + cs.length < s.length := by
  induction h with
  | close => simp
  | plain hquote hslash hs ih => simp only [List.length_cons]; omega
  | escape h hs ih =>
    have := h.length_lt
    simp only [List.length_cons]
    omega

theorem Quoted.length_le {s t : List Char} {text : String} (h : Quoted s text t) :
    t.length ≤ s.length := by
  cases h with
  | text h =>
    have := h.length_lt
    simp only [List.length_cons]
    omega

/-! ## §4. Fields. -/

/-- A field: its name, a colon, and a value. -/
inductive Entry (key : String) (value : List Char → List Char → Prop) :
    List Char → List Char → Prop
  | spelled {s s₁ s₂ t : List Char} (hcolon : Gap s (':' :: s₁)) (hgap : Gap s₁ s₂)
      (hvalue : value s₂ t) : Entry key value (key.toList ++ s) t

/-- Things between commas and the closing parenthesis; a comma may stand behind the last of
them. -/
inductive Listed {α : Type} (item : List Char → α → List Char → Prop) :
    List Char → List α → List Char → Prop
  | close {t : List Char} : Listed item (')' :: t) [] t
  | last {a : α} {s s₁ t : List Char} (h : item s a s₁) (hclose : Gap s₁ (')' :: t)) :
      Listed item s [a] t
  | comma {a : α} {as : List α} {s s₁ s₂ s₃ t : List Char} (h : item s a s₁)
      (hcomma : Gap s₁ (',' :: s₂)) (hgap : Gap s₂ s₃) (hs : Listed item s₃ as t) :
      Listed item s (a :: as) t

theorem Entry.length_le {key : String} {value : List Char → List Char → Prop} {s t : List Char}
    (h : Entry key value s t) (hvalue : ∀ u v, value u v → v.length ≤ u.length) :
    t.length ≤ s.length := by
  cases h with
  | spelled hcolon hgap h =>
    have h₁ := hcolon.length_le
    have h₂ := hgap.length_le
    have h₃ := hvalue _ _ h
    simp only [List.length_cons, List.length_append] at *
    omega

/-- Each thing takes a character at least, its comma or the parenthesis. -/
theorem Listed.count_le {α : Type} {item : List Char → α → List Char → Prop}
    {s t : List Char} {as : List α} (h : Listed item s as t)
    (hitem : ∀ u a v, item u a v → v.length ≤ u.length) :
    t.length + as.length ≤ s.length := by
  induction h with
  | close => simp
  | last h hclose =>
    have h₁ := hitem _ _ _ h
    have h₂ := hclose.length_le
    simp only [List.length_cons, List.length_nil] at *
    omega
  | comma h hcomma hgap hs ih =>
    have h₁ := hitem _ _ _ h
    have h₂ := hcomma.length_le
    have h₃ := hgap.length_le
    simp only [List.length_cons] at *
    omega

end SurfaceStudio.Ron.Grammar
