import SurfaceStudio.Proofs.Json.Reads
import SurfaceStudio.Proofs.Ron.Reads

/-!
# Reading integers and strings

What the grammar gives as an integer of 64 bits or as a string is read as that.

  • `Digits.value` — the value of digits, whichever base they are in,
  • `Integer.reads` — **an integer is read**, in any of the four bases, with its type or without,
  • `Escape.reads` — an escape is read as the character that it stands for,
  • `Quoted.reads` — **a string is read up to its closing quote**.
-/

namespace SurfaceStudio.Ron

open Reader Grammar

/-! ## §1. Integers. -/

/-- The digits of all bases are letters, digits and underscores. -/
theorem isPlain_of_isDigitPart {c : Char} (h : isDigitPart c = true) : isPlain c = true := by
  have hn : c.toNat = c.val.toNat := rfl
  simp only [isDigitPart, Char.isDigit, Bool.or_eq_true, Bool.and_eq_true, decide_eq_true_eq,
    beq_iff_eq, Char.le_def, UInt32.le_iff_toNat_le, ge_iff_le] at h
  simp only [isPlain, isLetter, Bool.or_eq_true, Bool.and_eq_true, decide_eq_true_eq, beq_iff_eq,
    hn]
  obtain ((h | h) | h) | rfl := h
  · exact .inl (.inr h)
  · exact .inl (.inl (.inr ⟨h.1, Nat.le_trans h.2 (by decide)⟩))
  · exact .inl (.inl (.inl ⟨h.1, Nat.le_trans h.2 (by decide)⟩))
  · exact .inr rfl

theorem Ends.digitPart {t : List Char} (h : Ends t) {c : Char} (hc : t.head? = some c) :
    isDigitPart c = false := by
  cases hdigit : isDigitPart c with
  | false => rfl
  | true =>
    have hpart := isRawNamePart_of_isPlain (isPlain_of_isDigitPart hdigit)
    exact absurd rfl (ne_of_class hpart (h c hc))

theorem isDigitPart_of_digitValue? {c : Char} {d : Nat} (h : digitValue? c = some d) :
    isDigitPart c = true := by
  rw [digitValue?] at h
  simp only [isDigitPart, Bool.or_eq_true, Bool.and_eq_true, decide_eq_true_eq]
  split at h
  next hc => exact .inl (.inl (.inl hc))
  split at h
  next hc => exact .inl (.inl (.inr hc))
  split at h
  next hc => exact .inl (.inr hc)
  cases h

theorem ne_underscore {c : Char} {d : Nat} (h : digitValue? c = some d) : c ≠ '_' := by
  rintro rfl
  cases h

namespace Grammar.Digits

variable {base n : Nat} {ds : List Char}

theorem ne_nil (h : Digits base ds n) : ds ≠ [] := by
  cases h <;> simp

theorem all (h : Digits base ds n) :
    ∀ c ∈ ds, c = '_' ∨ ∃ d, digitValue? c = some d ∧ d < base := by
  induction h with
  | one hc hd => simpa using .inr ⟨_, hc, hd⟩
  | more h hc hd ih => simpa [or_imp, forall_and] using ⟨ih, .inr ⟨_, hc, hd⟩⟩
  | underscore h ih => simpa [or_imp, forall_and] using ih

/-- The first of the digits is one. -/
theorem begins (h : Digits base ds n) : ∃ c d cs, ds = c :: cs ∧ digitValue? c = some d := by
  induction h with
  | one hc hd => exact ⟨_, _, _, rfl, hc⟩
  | more h hc hd ih =>
    obtain ⟨c, d, cs, rfl, hfirst⟩ := ih
    exact ⟨c, d, _, rfl, hfirst⟩
  | underscore h ih =>
    obtain ⟨c, d, cs, rfl, hfirst⟩ := ih
    exact ⟨c, d, _, rfl, hfirst⟩

/-- The value of the digits is what a digit at a time adds up to. -/
theorem value (h : Digits base ds n) : digitsValue? base ds = some n := by
  induction h with
  | one hc hd =>
    have hne := ne_underscore hc
    simp [digitsValue?, hc, hd, hne]
  | more h hc hd ih =>
    have hne := ne_underscore hc
    rw [digitsValue?] at ih ⊢
    rw [List.foldlM_append, ih]
    simp [hc, hd, hne]
  | underscore h ih =>
    rw [digitsValue?] at ih ⊢
    rw [List.foldlM_append, ih]
    rfl

theorem digitPart (h : Digits base ds n) : ∀ c ∈ ds, isDigitPart c = true := by
  intro c hc
  obtain rfl | ⟨d, hd, -⟩ := h.all c hc
  · rfl
  · exact isDigitPart_of_digitValue? hd

end Grammar.Digits

theorem Reader.accept_of_not_front {text s : List Char} (h : ¬ text <+: s) :
    accept text s = .ok (false, s) := by
  rw [accept, if_neg (mt List.isPrefixOf_iff_prefix.1 h)]

/-- A sign that may be left out is passed over in front of a digit. -/
theorem sign_reads {sign s : List Char} {c : Char} (hsign : sign = [] ∨ sign = ['+'])
    (hs : s.head? = some c) (hc : isDigitPart c = true) :
    Reader.sign (sign ++ s) = .ok (false, s) := by
  obtain ⟨x, s, rfl⟩ : ∃ x u, s = x :: u := by
    cases s with
    | nil => cases hs
    | cons x u => exact ⟨x, u, rfl⟩
  injection hs with hs
  subst hs
  obtain rfl | rfl := hsign
  · have hplus : x ≠ '+' := ne_of_class hc rfl
    have hminus : x ≠ '-' := ne_of_class hc rfl
    rw [List.nil_append, Reader.sign, bind_of_eq (accept_of_ne hplus)]
    exact accept_of_ne hminus
  · exact bind_of_eq (accept_append ['+'] (x :: s))

/-- Digits of base ten do not begin with the mark of another one. -/
theorem digits_unmarked {ds u : List Char} {n : Nat} {x : Char} (h : Digits 10 ds n)
    (hx : x ∈ ['b', 'o', 'x']) (hu : u.head? ≠ some x) : ¬ ['0', x] <+: ds ++ u := by
  rintro ⟨r, hr⟩
  have hall := h.all
  obtain ⟨c, d, cs, rfl, -⟩ := h.begins
  injection hr with _ hr
  cases cs with
  | nil =>
    have hr : x :: r = u := hr
    exact hu (hr ▸ rfl)
  | cons y cs =>
    injection hr with hy _
    subst hy
    simp only [List.mem_cons, List.not_mem_nil, or_false] at hx
    obtain hunder | ⟨d, hd, hlt⟩ := hall x (by simp)
    · obtain rfl | rfl | rfl := hx <;> cases hunder
    · obtain rfl | rfl | rfl := hx
      · obtain rfl : 11 = d := Option.some.inj hd
        omega
      all_goals cases hd

theorem base_reads {mark ds u : List Char} {base n : Nat} (hmark : Mark mark base)
    (hds : Digits base ds n) (hu : ∀ x ∈ ['b', 'o', 'x'], u.head? ≠ some x) :
    Reader.base (mark ++ (ds ++ u)) = .ok (base, ds ++ u) := by
  cases hmark with
  | decimal =>
    have h : ∀ x ∈ ['b', 'o', 'x'], accept ['0', x] (ds ++ u) = .ok (false, ds ++ u) :=
      fun x hx => accept_of_not_front (digits_unmarked hds hx (hu x hx))
    rw [List.nil_append, Reader.base, bind_of_eq (h 'b' (by decide))]
    refine (bind_of_eq (h 'o' (by decide))).trans ?_
    exact bind_of_eq (h 'x' (by decide))
  | binary => exact bind_of_eq (accept_append ['0', 'b'] _)
  | octal => rfl
  | hexadecimal => rfl

theorem digits_reads {ds u : List Char} {base n : Nat} (h : Digits base ds n)
    (hu : ∀ c, u.head? = some c → isDigitPart c = false) :
    Reader.digits base (ds ++ u) = .ok (n, u) := by
  rw [Reader.digits, bind_of_eq (takeWhile_reads h.digitPart hu)]
  have hvalue := h.value
  obtain ⟨c, d, cs, rfl, hc⟩ := h.begins
  simp only [if_neg (ne_underscore hc), hvalue]
  rfl

theorem beginsWithWord_of_ne {x : Char} {t : List Char} (word : List Char) (h : t.head? ≠ some x) :
    beginsWithWord (x :: word) t = false := by
  cases t with
  | nil => rfl
  | cons c t =>
    have hne : x ≠ c := fun hx => h (hx ▸ rfl)
    simp [beginsWithWord, List.isPrefixOf, hne]

/-- Where nothing that could be part of a name stands, no type is named. -/
theorem splitType?_of_ends {t : List Char} (h : Ends t) : splitType? t = none := by
  have hne : ∀ x, isRawNamePart x = true → t.head? ≠ some x := fun x hx hhead =>
    ne_of_class hx (h x hhead) rfl
  have hi := fun word => beginsWithWord_of_ne word (hne 'i' (isRawNamePart_of_isPlain rfl))
  have hu := fun word => beginsWithWord_of_ne word (hne 'u' (isRawNamePart_of_isPlain rfl))
  simp [splitType?, integerTypes, hi, hu]

theorem splitType?_word64 {t : List Char} (h : Ends t) :
    splitType? ('u' :: '6' :: '4' :: t) = some (word64, t) := by
  have hend : t.head?.any Text.isNamePart = false := by
    cases t with
    | nil => rfl
    | cons c t => exact h.namePart rfl
  rw [List.head?_eq_getElem?] at hend
  simp [splitType?, integerTypes, beginsWithWord, hend, word64]

/-- An integer is read up to its type. -/
theorem typedInteger_reads {sign mark ds u t : List Char} {base n : Nat}
    {type : Option IntegerType} (hsign : sign = [] ∨ sign = ['+']) (hmark : Mark mark base)
    (hds : Digits base ds n)
    (hu : ∀ c, u.head? = some c → isDigitPart c = false ∧ c ≠ 'o' ∧ c ≠ 'x')
    (htype : splitType? u = type.map (·, t)) (hrest : type = none → u = t) :
    typedInteger (sign ++ (mark ++ (ds ++ u))) = .ok (((n : Int), type), t) := by
  have hfirst : ∃ c, (mark ++ (ds ++ u)).head? = some c ∧ isDigitPart c = true := by
    obtain ⟨c, d, cs, rfl, hc⟩ := hds.begins
    cases hmark with
    | decimal => exact ⟨c, rfl, isDigitPart_of_digitValue? hc⟩
    | binary | octal | hexadecimal => exact ⟨'0', rfl, rfl⟩
  have hmarks : ∀ x ∈ ['b', 'o', 'x'], u.head? ≠ some x := by
    intro x hx hhead
    obtain ⟨hdigit, ho, hx'⟩ := hu x hhead
    simp only [List.mem_cons, List.not_mem_nil, or_false] at hx
    obtain rfl | rfl | rfl := hx
    · cases hdigit
    · exact ho rfl
    · exact hx' rfl
  obtain ⟨c, hhead, hc⟩ := hfirst
  rw [typedInteger, bind_of_eq (sign_reads hsign hhead hc),
    bind_of_eq (base_reads hmark hds hmarks), bind_of_eq (digits_reads hds fun c hc => (hu c hc).1)]
  refine (bind_of_eq (rfl : rest u = .ok (u, u))).trans ?_
  cases type with
  | none =>
    obtain rfl := hrest rfl
    rw [Option.map_none] at htype
    simp only [htype]
    rfl
  | some type =>
    rw [Option.map_some] at htype
    simp only [htype]
    rfl

theorem Grammar.Integer.solid {s t : List Char} {n : Nat} (h : Integer s n t) : Solid s := by
  cases h with
  | @spelled sign mark ds type _ base _ hsign hmark hds htype =>
    obtain rfl | rfl := hsign
    · cases hmark with
      | decimal =>
        obtain ⟨c, d, cs, rfl, hc⟩ := hds.begins
        exact (front_of_isPlain (isPlain_of_isDigitPart (isDigitPart_of_digitValue? hc)) _).1
      | binary | octal | hexadecimal => exact solid_cons rfl (by decide)
    · exact solid_cons rfl (by decide)

/-- **An integer of 64 bits is read**, in whichever base. -/
theorem Grammar.Integer.reads {s t : List Char} {n : Nat} (h : Integer s n t) (ht : Ends t)
    (hn : n < twoPow 64) : integer s = .ok (n, t) := by
  cases h with
  | @spelled sign mark ds type _ base _ hsign hmark hds htype =>
    have hread : ∃ type', typedInteger (sign ++ (mark ++ (ds ++ (type ++ t))))
        = .ok (((n : Int), type'), t) ∧ type'.getD word64 = word64 := by
      obtain rfl | rfl := htype
      · refine ⟨none, typedInteger_reads hsign hmark hds ?_ (splitType?_of_ends ht) fun _ => rfl,
          rfl⟩
        intro c hc
        have hne : ∀ x, isPlain x = true → c ≠ x := fun x hx =>
          (ne_of_class (isRawNamePart_of_isPlain hx) (ht c hc)).symm
        exact ⟨ht.digitPart hc, hne 'o' rfl, hne 'x' rfl⟩
      · refine ⟨some word64, typedInteger_reads hsign hmark hds ?_ (splitType?_word64 ht) nofun,
          rfl⟩
        intro c hc
        injection hc with hc
        subst hc
        decide
    obtain ⟨type', hread, htype'⟩ := hread
    have hholds : word64.holds (n : Int) = true := by
      have : (n : Int) < twoPow 64 := by exact_mod_cast hn
      simp [IntegerType.holds, word64, this]
    rw [integer, bind_of_eq hread]
    simp only [if_pos htype', if_pos hholds]
    rfl

/-! ## §2. Strings. -/

theorem hexDigit_cons {c : Char} {d : Nat} (h : digitValue? c = some d) (t : List Char) :
    hexDigit (c :: t) = .ok (d, t) := by
  rw [hexDigit, bind_of_eq (next_cons _ _)]
  simp only [h]
  rfl

theorem hexByte_cons {x y : Char} {m n : Nat} (hx : digitValue? x = some m)
    (hy : digitValue? y = some n) (t : List Char) :
    hexByte (x :: y :: t) = .ok (UInt8.ofNat (16 * m + n), t) := by
  rw [hexByte, bind_of_eq (hexDigit_cons hx _), bind_of_eq (hexDigit_cons hy _)]
  rfl

/-- A character of ASCII is its own byte. -/
theorem decoded?_of_ascii {c : Char} (h : c.toNat < 0x80) : decoded? [c.toUInt8] = some c := by
  have hbytes : Json.bytesOf (String.ofList [c]) = [c.toUInt8] := by
    rw [Json.bytesOf_ofList, List.flatMap_singleton, Json.utf8EncodeChar_of_ascii h]
  rw [decoded?, ← hbytes, Json.fromUTF8?_bytesOf]
  simp

theorem bytesEscape_of_decoded {more : Nat} {bytes : List UInt8} {c : Char}
    (h : decoded? bytes = some c) (t : List Char) : bytesEscape more bytes t = .ok (c, t) := by
  unfold bytesEscape
  simp only [h]
  rfl

theorem shortEscape?_of_mem {letter c : Char} (h : (letter, c) ∈ shortEscapes) :
    letter ≠ 'x' ∧ letter ≠ 'u' ∧ shortEscape? letter = some c := by
  have hall : ∀ p ∈ shortEscapes, p.1 ≠ 'x' ∧ p.1 ≠ 'u' ∧ shortEscape? p.1 = some p.2 := by decide
  exact hall _ h

theorem charOf?_toNat (c : Char) : charOf? c.toNat = some c := by
  rw [charOf?, if_pos (show c.toNat.isValidChar from c.valid), Char.ofNat_toNat]

theorem codeEscape_reads {ds : List Char} {c : Char} (h : Digits 16 ds c.toNat)
    (hlength : ds.length ≤ 6) (hunderscore : '_' ∉ ds) (t : List Char) :
    codeEscape ('\x7b' :: (ds ++ '\x7d' :: t)) = .ok (c, t) := by
  have hdigits : ∀ x ∈ ds, (digitValue? x).isSome = true := by
    intro x hx
    obtain rfl | ⟨d, hd, -⟩ := h.all x hx
    · exact absurd hx hunderscore
    · rw [hd]
      rfl
  have htake : takeWhile (fun c => (digitValue? c).isSome) (ds ++ '\x7d' :: t)
      = .ok (ds, '\x7d' :: t) :=
    takeWhile_reads hdigits (by rintro x ⟨⟩; rfl)
  have hfits : ¬ (ds.isEmpty = true ∨ 6 < ds.length) := by
    rintro (hempty | hlong)
    · exact h.ne_nil (List.isEmpty_iff.1 hempty)
    · omega
  rw [codeEscape, bind_of_eq (expect_cons _ _), bind_of_eq htake, bind_of_eq (expect_cons _ _)]
  simp only [h.value, if_neg hfits, charOf?_toNat]
  rfl

theorem Grammar.Escape.reads {s t : List Char} {c : Char} (h : Escape s c t) (more : Nat) :
    escape more s = .ok (c, t) := by
  cases h with
  | @short letter _ _ h =>
    obtain ⟨hx, hu, hletter⟩ := shortEscape?_of_mem h
    rw [escape, bind_of_eq (next_cons _ _)]
    simp only [if_neg hx, if_neg hu, hletter]
    rfl
  | @byte x y _ m n _ hx hy hc hascii =>
    have hbyte : UInt8.ofNat (16 * m + n) = c.toUInt8 := by
      rw [← hc]
      rfl
    rw [escape, bind_of_eq (next_cons _ _), if_pos rfl,
      bind_of_eq (hexByte_cons hx hy t), hbyte]
    exact bytesEscape_of_decoded (decoded?_of_ascii hascii) t
  | @code ds _ _ h hlength hunderscore =>
    rw [escape, bind_of_eq (next_cons _ _), if_neg (by decide), if_pos rfl]
    exact codeEscape_reads h hlength hunderscore t

/-- No escape is a line that is continued. -/
theorem Grammar.Escape.acceptLineEnd {s t : List Char} {c : Char} (h : Escape s c t) :
    acceptLineEnd s = .ok (false, s) := by
  have hfirst : ∃ x u, s = x :: u ∧ x ≠ '\n' ∧ x ≠ '\r' := by
    cases h with
    | @short letter _ _ h =>
      have hall : ∀ p ∈ shortEscapes, p.1 ≠ '\n' ∧ p.1 ≠ '\r' := by decide
      exact ⟨_, _, rfl, hall _ h⟩
    | byte | code => exact ⟨_, _, rfl, by decide, by decide⟩
  obtain ⟨x, u, rfl, hn, hr⟩ := hfirst
  rw [Reader.acceptLineEnd, bind_of_eq (accept_of_ne hn)]
  exact bind_of_eq (accept_of_ne hr)

/-- Characters up to the closing quote are read, if the fuel is enough for each of them. -/
theorem Grammar.Body.reads {s cs t : List Char} (h : Body s cs t) :
    ∀ (fuel : Nat) (found : List Char), cs.length < fuel →
      stringChars fuel found s = .ok (found.reverse ++ cs, t) := by
  induction h with
  | @close t =>
    intro fuel found hfuel
    obtain ⟨fuel, rfl⟩ := Nat.exists_eq_succ_of_ne_zero (Nat.ne_of_gt (Nat.zero_lt_of_lt hfuel))
    rw [stringChars, bind_of_eq (next_cons _ _), if_pos rfl,
      List.append_nil]
    rfl
  | @plain c s t cs hquote hslash hs ih =>
    intro fuel found hfuel
    obtain ⟨fuel, rfl⟩ := Nat.exists_eq_succ_of_ne_zero (Nat.ne_of_gt (Nat.zero_lt_of_lt hfuel))
    rw [stringChars, bind_of_eq (next_cons _ _), if_neg hquote, if_neg hslash,
      ih fuel (c :: found) (Nat.lt_of_succ_lt_succ hfuel)]
    simp
  | @escape c s s₁ t cs h hs ih =>
    intro fuel found hfuel
    obtain ⟨fuel, rfl⟩ := Nat.exists_eq_succ_of_ne_zero (Nat.ne_of_gt (Nat.zero_lt_of_lt hfuel))
    rw [stringChars, bind_of_eq (next_cons _ _), if_neg (by decide),
      if_pos rfl, bind_of_eq h.acceptLineEnd]
    refine (bind_of_eq (h.reads 3)).trans ?_
    rw [ih fuel (c :: found) (Nat.lt_of_succ_lt_succ hfuel)]
    simp

theorem Grammar.Quoted.solid {s t : List Char} {text : String} (h : Quoted s text t) : Solid s := by
  cases h
  exact solid_cons rfl (by decide)

/-- **A string is read up to its closing quote.** -/
theorem Grammar.Quoted.reads {s t : List Char} {text : String} (h : Quoted s text t) :
    string s = .ok (text, t) := by
  cases h with
  | @text s _ _ h =>
    have hfuel : text.toList.length < s.length + 1 := by
      have := h.length_lt
      omega
    have hrest : stringRest s = .ok (text, t) := by
      rw [stringRest, bind_of_eq (rfl : rest s = .ok (s, s)),
        bind_of_eq (h.reads _ [] hfuel)]
      show Except.ok (String.ofList ([].reverse ++ text.toList), t) = _
      rw [List.reverse_nil, List.nil_append, String.ofList_toList]
    exact (bind_of_eq (accept_append ['"'] s)).trans hrest

end SurfaceStudio.Ron
