import SurfaceStudio.Proofs.Ron.Grammar

/-!
# Reading names and passing over blanks

A reading in front of a construct of the grammar returns what the construct stands for and leaves
what is behind it.  A name goes as far as it can, so something that cannot continue it has to
follow.

  • `bind_of_eq` — one reading after the other,
  • `Gap.skipped` — **blanks and comments are passed over**, comments in comments included,
  • `Ends`, `Gap.ends` — where a name ends,
  • `name_word` — a plain name is read to its end.
-/

namespace SurfaceStudio.Ron

open Reader Grammar

variable {α β : Type}

/-! ## §1. Readings. -/

theorem Reader.bind_of_eq {r : Reader α} {f : α → Reader β} {s t : List Char} {a : α}
    (h : r s = .ok (a, t)) : (r >>= f) s = f a t := by
  show (r s >>= fun p => f p.1 p.2) = f a t
  rw [h]
  rfl

theorem Reader.map_of_eq {r : Reader α} (f : α → β) {s t : List Char} {a : α}
    (h : r s = .ok (a, t)) : (do return f (← r) : Reader β) s = .ok (f a, t) :=
  bind_of_eq h

theorem Reader.accept_append (text t : List Char) : accept text (text ++ t) = .ok (true, t) := by
  rw [accept, if_pos (List.isPrefixOf_iff_prefix.2 (List.prefix_append text t)), List.drop_left]

theorem Reader.accept_of_ne {c x : Char} {text t : List Char} (h : x ≠ c) :
    accept (c :: text) (x :: t) = .ok (false, x :: t) := by
  rw [accept, if_neg]
  rw [List.isPrefixOf_iff_prefix, List.cons_prefix_cons]
  exact fun hc => h hc.1.symm

theorem Reader.expect_cons (c : Char) (t : List Char) : expect c (c :: t) = .ok ((), t) :=
  bind_of_eq (accept_append [c] t)

theorem Reader.next_cons (c : Char) (t : List Char) : next (c :: t) = .ok (c, t) := rfl

/-! ## §2. Blanks and comments. -/

/-- No blank and no comment stands at the front. -/
def Solid (t : List Char) : Prop := ∀ c, t.head? = some c → isBlank c = false ∧ c ≠ '/'

theorem solid_nil : Solid [] := fun _ h => nomatch h

theorem solid_cons {c : Char} {t : List Char} (hc : isBlank c = false) (hslash : c ≠ '/') :
    Solid (c :: t) := by
  intro d hd
  injection hd with hd
  exact hd ▸ ⟨hc, hslash⟩

@[simp]
theorem afterBlanks_openLine (s : List Char) :
    afterBlanks .nothing ('/' :: '/' :: s) = afterBlanks .line s := rfl

@[simp]
theorem afterBlanks_openBlock (s : List Char) :
    afterBlanks .nothing ('/' :: '*' :: s) = afterBlanks (.block 0) s := rfl

@[simp]
theorem afterBlanks_inLine (c : Char) (s : List Char) :
    afterBlanks .line (c :: s) = afterBlanks (if c = '\n' then .nothing else .line) s := rfl

/-- Where a position stands when the comment that it is in ends. -/
def Within.outside : Nat → Within
  | 0 => .nothing
  | outer + 1 => .block outer

@[simp]
theorem afterBlanks_closeBlock (outer : Nat) (s : List Char) :
    afterBlanks (.block outer) ('*' :: '/' :: s) = afterBlanks (Within.outside outer) s := by
  cases outer <;> rfl

@[simp]
theorem afterBlanks_nestBlock (outer : Nat) (s : List Char) :
    afterBlanks (.block outer) ('/' :: '*' :: s) = afterBlanks (.block (outer + 1)) s := by
  cases outer <;> rfl

/-- What does not begin a comment is passed over as far as it is blank. -/
theorem afterBlanks_cons {c : Char} (hslash : c ≠ '/') (t : List Char) :
    afterBlanks .nothing (c :: t) =
      if isBlank c then afterBlanks .nothing t else .ok (c :: t) := by
  rw [afterBlanks] <;> intros <;> contradiction

theorem Solid.afterBlanks {t : List Char} (h : Solid t) : afterBlanks .nothing t = .ok t := by
  cases t with
  | nil => rfl
  | cons c t =>
    obtain ⟨hc, hslash⟩ := h c rfl
    rw [afterBlanks_cons hslash, hc]
    rfl

theorem ne_slash_of_isBlank {c : Char} (h : isBlank c = true) : c ≠ '/' := by
  rintro rfl
  exact absurd h (by decide)

/-- A comment is passed over, however many others it stands in. -/
theorem Grammar.Block.skipped {s t : List Char} (h : Block s t) (outer : Nat) :
    afterBlanks (.block outer) s = afterBlanks (Within.outside outer) t := by
  induction h generalizing outer with
  | close => exact afterBlanks_closeBlock outer _
  | nested h hs ih ihs => rw [afterBlanks_nestBlock, ih, Within.outside, ihs]
  | @char c s t hclose hopen hs ih =>
    rw [afterBlanks, ih]
    · rintro u - rfl rfl
      exact hclose u rfl
    · rintro _ u - rfl rfl
      exact hclose u rfl
    · rintro u rfl rfl
      exact hopen u rfl

/-- A comment up to the end of its line is passed over. -/
theorem afterBlanks_line {text : List Char} (h : '\n' ∉ text) (s : List Char) :
    afterBlanks .line (text ++ '\n' :: s) = afterBlanks .nothing s := by
  induction text with
  | nil => rw [List.nil_append, afterBlanks_inLine, if_pos rfl]
  | cons c text ih =>
    obtain ⟨hc, htext⟩ := not_or.1 (mt List.mem_cons.2 h)
    rw [List.cons_append, afterBlanks_inLine, if_neg (Ne.symm hc), ih htext]

theorem afterBlanks_lastLine {text : List Char} (h : '\n' ∉ text) :
    afterBlanks .line text = .ok [] := by
  induction text with
  | nil => rfl
  | cons c text ih =>
    obtain ⟨hc, htext⟩ := not_or.1 (mt List.mem_cons.2 h)
    rw [afterBlanks_inLine, if_neg (Ne.symm hc), ih htext]

/-- **Blanks and comments are passed over.** -/
theorem Grammar.Gap.skipped {s t : List Char} (h : Gap s t) (ht : Solid t) :
    afterBlanks .nothing s = .ok t := by
  induction h with
  | none => exact ht.afterBlanks
  | blank hc hs ih => rw [afterBlanks_cons (ne_slash_of_isBlank hc), if_pos hc, ih ht]
  | line htext hs ih => rw [afterBlanks_openLine, afterBlanks_line htext, ih ht]
  | lastLine htext => rw [afterBlanks_openLine, afterBlanks_lastLine htext]
  | block h hs ih => rw [afterBlanks_openBlock, h.skipped, Within.outside, ih ht]

theorem Grammar.Gap.skipBlanks {s t : List Char} (h : Gap s t) (ht : Solid t) :
    skipBlanks s = .ok ((), t) := by
  rw [Reader.skipBlanks, h.skipped ht]
  rfl

/-! ## §3. Names. -/

/-- A character of a class is none that is not. -/
theorem ne_of_class {p : Char → Bool} {c d : Char} (hc : p c = true) (hd : p d = false) :
    c ≠ d := by
  rintro rfl
  rw [hd] at hc
  cases hc

/-- The letters of ASCII. -/
def isLetter (c : Char) : Bool :=
  let n := c.toNat
  (0x41 ≤ n && n ≤ 0x5a) || (0x61 ≤ n && n ≤ 0x7a)

/-- Letters, digits and underscores of ASCII. -/
def isPlain (c : Char) : Bool :=
  let n := c.toNat
  isLetter c || (0x30 ≤ n && n ≤ 0x39) || n == 0x5f

theorem isPlain_of_isLetter {c : Char} (h : isLetter c = true) : isPlain c = true := by
  simp [isPlain, h]

theorem isPlain_lt {c : Char} (h : isPlain c = true) : c.toNat < 0x80 := by
  simp only [isPlain, isLetter, Bool.or_eq_true, Bool.and_eq_true, decide_eq_true_eq,
    beq_iff_eq] at h
  omega

/-- **A letter of ASCII may begin a name.** -/
theorem isNameStart_of_isLetter {c : Char} (h : isLetter c = true) : Text.isNameStart c = true := by
  have hall : ∀ n < 0x80, isLetter (Char.ofNat n) = true →
      Text.isNameStart (Char.ofNat n) = true := by
    decide +kernel
  have hsmall := isPlain_lt (isPlain_of_isLetter h)
  rw [← Char.ofNat_toNat c] at h ⊢
  exact hall _ hsmall h

/-- **Digits and underscores may follow**, and so may letters, as they may begin a name. -/
theorem isNamePart_of_isPlain {c : Char} (h : isPlain c = true) : Text.isNamePart c = true := by
  cases hletter : isLetter c with
  | true => exact Text.isNamePart_of_isNameStart (isNameStart_of_isLetter hletter)
  | false =>
    have hothers : ∀ n ∈ List.range' 0x30 10 ++ [0x5f], Text.isNamePart (Char.ofNat n) = true := by
      decide +kernel
    have hmem : c.toNat ∈ List.range' 0x30 10 ++ [0x5f] := by
      simp only [isPlain, hletter, Bool.false_or, Bool.or_eq_true, Bool.and_eq_true,
        decide_eq_true_eq, beq_iff_eq] at h
      rw [List.mem_append, List.mem_range'_1, List.mem_singleton]
      omega
    rw [← Char.ofNat_toNat c]
    exact hothers _ hmem

theorem isRawNamePart_of_isPlain {c : Char} (h : isPlain c = true) : isRawNamePart c = true := by
  rw [isRawNamePart, isNamePart_of_isPlain h, Bool.or_true]

/-- What stands around names in a record, and what begins a comment. -/
def marks : List Char := ['(', ')', ':', ',', '/']

/-- The code points of blanks. -/
def blankPoints : List Nat :=
  [0x9, 0xa, 0xb, 0xc, 0xd, 0x20, 0x85, 0x200e, 0x200f, 0x2028, 0x2029]

theorem mem_blankPoints {c : Char} (h : isBlank c = true) : c.toNat ∈ blankPoints := by
  simp only [isBlank, Bool.or_eq_true, Bool.and_eq_true, decide_eq_true_eq, beq_iff_eq] at h
  simp only [blankPoints, List.mem_cons, List.not_mem_nil, or_false]
  omega

/-- **A mark or a blank is no part of a name.** -/
theorem not_rawNamePart {c : Char} (h : c ∈ marks ∨ isBlank c = true) :
    isRawNamePart c = false := by
  have hall : ∀ n ∈ marks.map Char.toNat ++ blankPoints, isRawNamePart (Char.ofNat n) = false := by
    decide +kernel
  rw [← Char.ofNat_toNat c]
  exact hall _ (List.mem_append.2 (h.imp List.mem_map_of_mem mem_blankPoints))

theorem not_namePart_of_not_rawNamePart {c : Char} (h : isRawNamePart c = false) :
    Text.isNamePart c = false := by
  simp only [isRawNamePart, Bool.or_eq_false_iff] at h
  exact h.2

/-- Nothing that could be part of a name stands at the front. -/
def Ends (t : List Char) : Prop := ∀ c, t.head? = some c → isRawNamePart c = false

theorem ends_cons {c : Char} (h : isRawNamePart c = false) (t : List Char) : Ends (c :: t) := by
  intro d hd
  injection hd with hd
  exact hd ▸ h

theorem ends_mark {c : Char} (h : c ∈ marks) (t : List Char) : Ends (c :: t) :=
  ends_cons (not_rawNamePart (.inl h)) t

theorem Ends.namePart {t : List Char} (h : Ends t) {c : Char} (hc : t.head? = some c) :
    Text.isNamePart c = false :=
  not_namePart_of_not_rawNamePart (h c hc)

/-- In front of blanks and comments, and of what is no part of a name, a name ends. -/
theorem Grammar.Gap.ends {s t : List Char} (h : Gap s t) (ht : Ends t) : Ends s := by
  cases h with
  | none => exact ht
  | blank hc hs => exact ends_cons (not_rawNamePart (.inr hc)) _
  | line | lastLine | block => exact ends_mark (by decide) _

/-- Words of two characters and more that are plain names: none of them begins a literal. -/
def isWord : List Char → Bool
  | c :: d :: cs => isLetter c && (d :: cs).all isPlain && !(c == 'b' && d == 'r')
  | _ => false

/-- What is part of a name is no blank, opens no comment and closes no record. -/
theorem front_of_isPlain {c : Char} (h : isPlain c = true) (t : List Char) :
    Solid (c :: t) ∧ (c :: t).head? ≠ some ')' := by
  refine ⟨solid_cons ?_ (ne_of_class h rfl), fun hparen => ?_⟩
  · cases hblank : isBlank c with
    | false => rfl
    | true =>
      exact absurd rfl (ne_of_class (isRawNamePart_of_isPlain h) (not_rawNamePart (.inr hblank)))
  · injection hparen with hparen
    exact ne_of_class h rfl hparen

theorem isWord_front {word : List Char} (h : isWord word = true) (t : List Char) :
    Solid (word ++ t) ∧ (word ++ t).head? ≠ some ')' := by
  match word with
  | [] | [_] => cases h
  | c :: d :: cs =>
    simp only [isWord, Bool.and_eq_true] at h
    exact front_of_isPlain (isPlain_of_isLetter h.1.1) _

theorem opensLiteral_word {c d : Char} (hd : isPlain d = true) (hbr : ¬ (c = 'b' ∧ d = 'r'))
    (t : List Char) : opensLiteral (c :: d :: t) = false := by
  have hquote : '"' ≠ d := (ne_of_class hd rfl).symm
  have hsingle : '\'' ≠ d := (ne_of_class hd rfl).symm
  have hhash : '#' ≠ d := (ne_of_class hd rfl).symm
  have hbr : ∀ {p : Prop}, 'b' = c → 'r' = d → p := fun hc hd =>
    absurd ⟨hc.symm, hd.symm⟩ hbr
  simpa [opensLiteral, literalOpenings, List.isPrefixOf, hquote, hsingle, hhash]
    using ⟨hbr, hbr⟩

/-- A run of characters of a class, in front of something else, is what is taken. -/
theorem takeWhile_run {p : Char → Bool} {w t : List Char} (hw : ∀ c ∈ w, p c = true)
    (ht : ∀ c, t.head? = some c → p c = false) :
    (w ++ t).takeWhile p = w ∧ (w ++ t).dropWhile p = t := by
  have stop : t.takeWhile p = [] ∧ t.dropWhile p = t := by
    cases t with
    | nil => exact ⟨rfl, rfl⟩
    | cons c t =>
      rw [List.takeWhile_cons_of_neg, List.dropWhile_cons_of_neg]
      · exact ⟨rfl, rfl⟩
      all_goals rw [ht c rfl]; exact Bool.false_ne_true
  rw [List.takeWhile_append_of_pos hw, List.dropWhile_append_of_pos hw, stop.1, stop.2,
    List.append_nil]
  exact ⟨rfl, rfl⟩

theorem takeWhile_reads {p : Char → Bool} {w t : List Char} (hw : ∀ c ∈ w, p c = true)
    (ht : ∀ c, t.head? = some c → p c = false) : takeWhile p (w ++ t) = .ok (w, t) := by
  obtain ⟨htake, hdrop⟩ := takeWhile_run hw ht
  rw [takeWhile, htake, hdrop]

theorem splitName?_word {word t : List Char} (h : isWord word = true) (ht : Ends t) :
    splitName? (word ++ t) = some (word, t) := by
  match word with
  | [] | [_] => cases h
  | c :: d :: cs =>
    simp only [isWord, Bool.and_eq_true, List.all_eq_true, Bool.not_eq_true',
      Bool.and_eq_false_imp, beq_iff_eq] at h
    obtain ⟨⟨hc, hall⟩, hbr⟩ := h
    have hd : isPlain d = true := hall d List.mem_cons_self
    have hstart : isNameStart c = true := by
      rw [isNameStart, isNameStart_of_isLetter hc, Bool.or_true]
    have hrun := takeWhile_run (p := Text.isNamePart)
      (fun x hx => isNamePart_of_isPlain (hall x hx)) fun _ => ht.namePart
    simp only [List.cons_append] at hrun ⊢
    rw [splitName?, opensLiteral_word hd (fun h => by simpa [h.2] using hbr h.1),
      if_neg Bool.false_ne_true, if_pos hstart, hrun.1, hrun.2]
    -- A hash sign as the second character would begin a raw name.
    rintro u - hraw
    injection hraw with hraw _
    exact ne_of_class hd rfl hraw

/-- **A plain name is read to its end.** -/
theorem name_word {word t : List Char} (h : isWord word = true) (ht : Ends t) :
    name (word ++ t) = .ok (String.ofList word, t) := by
  rw [name, splitName?_word h ht]
  refine if_neg ?_
  cases t with
  | nil => exact Bool.false_ne_true
  | cons c t => simp [ht c rfl]

end SurfaceStudio.Ron
