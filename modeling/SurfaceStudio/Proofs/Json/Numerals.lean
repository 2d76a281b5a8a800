import SurfaceStudio.Proofs.Json.Reads
import Mathlib.Tactic.ByContra

/-!
# Numerals in front of other text

A numeral is read as far as its bytes go.  So the reading of one does not depend on what follows,
as long as that cannot continue the numeral.

  • `Ends` — what cannot continue a numeral,
  • `Stable` — a reading that takes the same bytes when such a text follows,
  • `Stable.bind`, `Stable.peek_cons`, `Stable.peek_nil` — putting such readings together,
  • `stable_numberRest` — **the reading of a number is one**.
-/

namespace SurfaceStudio.Json

open Reader

/-! ## §1. Where a numeral ends. -/

/-- The bytes that a numeral is made of. -/
def isNumeralByte (b : UInt8) : Bool :=
  isDigit b || b = '.'.toUInt8 || b = 'e'.toUInt8 || b = 'E'.toUInt8 || b = '+'.toUInt8
    || b = '-'.toUInt8

/-- The bytes cannot continue a numeral. -/
def Ends (tail : List UInt8) : Prop := ∀ b ∈ tail.head?, isNumeralByte b = false

theorem ends_nil : Ends [] := fun _ h => nomatch h

theorem ends_cons {b : UInt8} {tail : List UInt8} (h : isNumeralByte b = false) :
    Ends (b :: tail) := by
  intro b' hb'
  injection hb' with hb'
  exact hb' ▸ h

theorem not_blank_of_isNumeralByte {b : UInt8} (h : isNumeralByte b = true) :
    Cursor.isBlank b = false := by
  by_contra hb
  rw [Bool.not_eq_false, Cursor.isBlank] at hb
  simp only [Bool.or_eq_true, decide_eq_true_eq] at hb
  rcases hb with ((rfl | rfl) | rfl) | rfl <;> exact absurd h (by decide)

theorem ne_of_isNumeralByte {b b' : UInt8} (h : isNumeralByte b = true)
    (h' : isNumeralByte b' = false) : b ≠ b' := by
  intro hb
  rw [hb, h'] at h
  cases h

theorem isNumeralByte_of_isDigit {b : UInt8} (h : isDigit b = true) : isNumeralByte b = true := by
  simp [isNumeralByte, h]

/-- No digit comes next. -/
def NoDigit (tail : List UInt8) : Prop := ∀ b ∈ tail.head?, isDigit b = false

theorem noDigit_of_ends {tail : List UInt8} (h : Ends tail) : NoDigit tail := by
  intro b hb
  cases hd : isDigit b with
  | false => rfl
  | true =>
    have hn := h b hb
    rw [isNumeralByte_of_isDigit hd] at hn
    cases hn

theorem noDigit_cons {b : UInt8} {tail : List UInt8} (h : isDigit b = false) :
    NoDigit (b :: tail) := by
  intro b' hb'
  injection hb' with hb'
  exact hb' ▸ h

theorem takeWhile_isDigit_of_noDigit {tail : List UInt8} (h : NoDigit tail) :
    tail.takeWhile isDigit = [] := by
  cases tail with
  | nil => rfl
  | cons b rest =>
    have hb : ¬ isDigit b = true := by
      rw [h b rfl]
      exact Bool.false_ne_true
    rw [List.takeWhile_cons_of_neg hb]

/-! ## §2. Readings that do not look beyond a numeral. -/

variable {α β : Type}

/-- Where the reading succeeds from `c`, it takes the same bytes and returns the same when a text
follows that cannot continue a numeral. -/
def Stable (r : Reader α) (c : Cursor) : Prop :=
  ∀ a c', r c = .ok (a, c') →
    ∃ w, c.rest = w ++ c'.rest ∧ ∀ tail, Ends tail → Reads r w (c'.rest ++ tail) a

namespace Stable

theorem pure (a : α) (c : Cursor) : Stable (Pure.pure a) c := by
  intro a' c' h
  injection h with h
  injection h with ha hc
  subst ha hc
  exact ⟨[], rfl, fun tail _ => Reads.pure a _⟩

theorem of_error {r : Reader α} {c : Cursor} {fault : Fault} (h : r c = .error fault) :
    Stable r c := by
  intro a c' hr
  rw [h] at hr
  cases hr

theorem bind {r : Reader α} {f : α → Reader β} {c : Cursor} (h : Stable r c)
    (h' : ∀ a c', r c = .ok (a, c') → Stable (f a) c') : Stable (r >>= f) c := by
  intro b c₂ hb
  obtain ⟨a, c₁, hr, hf⟩ := exists_of_bind_eq_ok hb
  obtain ⟨w, hw, hreads⟩ := h a c₁ hr
  obtain ⟨u, hu, hreads'⟩ := h' a c₁ hr b c₂ hf
  refine ⟨w ++ u, by rw [hw, hu, List.append_assoc], fun tail ht => ?_⟩
  -- In front of the tail the second part follows the first as it did at the end.
  have hstart := hreads tail ht
  rw [hu, List.append_assoc] at hstart
  exact hstart.bind (hreads' tail ht)

/-- Looking at the next byte, when there is one. -/
theorem peek {c : Cursor} (h : c.rest ≠ []) : Stable peek? c := by
  intro b c' hb
  injection hb with hb
  injection hb with hb hc
  subst hb hc
  refine ⟨[], rfl, fun tail _ => ?_⟩
  have hhead : (c.rest ++ tail).head? = c.rest.head? := by
    cases hrest : c.rest with
    | nil => exact absurd hrest h
    | cons b rest => rfl
  rw [← hhead]
  exact reads_peek? _

/-- A look at a byte that is there, and what is done then. -/
theorem peek_cons {f : Option UInt8 → Reader α} {c : Cursor} {b : UInt8} {rest : List UInt8}
    (hrest : c.rest = b :: rest) (h : Stable (f (some b)) c) : Stable (peek? >>= f) c := by
  refine bind (peek (by simp [hrest])) ?_
  intro b? c' hb
  injection hb with hb
  injection hb with hb hc
  subst hb hc
  rwa [hrest, List.head?_cons]

/-- A look beyond the end of the text, where a result is reached without reading on. -/
theorem peek_nil {f : Option UInt8 → Reader α} {c : Cursor} {a : α} (hrest : c.rest = [])
    (h : f none = Pure.pure a) (hr : ∀ tail, Ends tail → Reads (peek? >>= f) [] tail a) :
    Stable (peek? >>= f) c := by
  intro a' c' ha
  have hpeek : peek? c = .ok (none, c) := by rw [peek?, hrest, List.head?_nil]
  rw [bind_of_eq hpeek, h] at ha
  injection ha with ha
  injection ha with ha hc
  subst ha hc
  refine ⟨[], rfl, fun tail ht => ?_⟩
  rw [hrest]
  exact hr tail ht

/-- A look beyond the end of the text that is objected to. -/
theorem peek_fail {f : Option UInt8 → Reader α} {c : Cursor} {cause : Cause} (hrest : c.rest = [])
    (h : f none = failHere cause) : Stable (peek? >>= f) c := by
  have hpeek : peek? c = .ok (none, c) := by rw [peek?, hrest, List.head?_nil]
  have hfail : (peek? >>= f) c = .error ⟨cause, c.here⟩ := by
    rw [bind_of_eq hpeek, h]
    rfl
  exact of_error hfail

/-- Reading the next byte, when there is one. -/
theorem step {c : Cursor} (h : c.rest ≠ []) : Stable Reader.step c := by
  intro u c' hc
  injection hc with hc
  injection hc with _ hc
  subst hc
  cases hrest : c.rest with
  | nil => exact absurd hrest h
  | cons b rest =>
    have hrest' : c.step.rest = rest := by rw [Cursor.rest_step, hrest, List.tail_cons]
    exact ⟨[b], by rw [hrest']; rfl, fun tail _ => reads_step b _⟩

theorem digits (c : Cursor) : Stable digits c := by
  intro ds c' h
  injection h with h
  injection h with hds hc
  subst hds hc
  rw [Cursor.rest_steps_takeWhile]
  refine ⟨c.rest.takeWhile isDigit, List.takeWhile_append_dropWhile.symm, fun tail ht => ?_⟩
  intro line column
  have hrun : (c.rest.takeWhile isDigit ++ (c.rest.dropWhile isDigit ++ tail)).takeWhile isDigit
      = c.rest.takeWhile isDigit := by
    rw [List.takeWhile_append_of_pos fun b hb => List.all_eq_true.1 List.all_takeWhile b hb]
    -- The digits end within the text, or else at the tail, which begins with none.
    cases hd : c.rest.dropWhile isDigit with
    | nil =>
      rw [List.nil_append, takeWhile_isDigit_of_noDigit (noDigit_of_ends ht), List.append_nil]
    | cons b rest =>
      have hb : ¬ isDigit b = true := by
        have := List.head?_dropWhile_not isDigit c.rest
        rw [hd] at this
        simpa using this
      rw [List.cons_append, List.takeWhile_cons_of_neg hb, List.append_nil]
  show Except.ok (List.map digitValue (List.takeWhile isDigit _), _) = _
  rw [hrun]

end Stable

/-! ## §3. Numerals. -/

/-- A lone zero is read where no digit follows. -/
theorem reads_afterZero {tail : List UInt8} (h : NoDigit tail) :
    Reads (do
      match ← peek? with
      | none => Pure.pure [0]
      | some b => if isDigit b then failAhead .badNumber else Pure.pure [0]) [] tail [0] := by
  refine (reads_peek? tail).bind_end ?_
  cases hb : tail.head? with
  | none => exact Reads.pure _ tail
  | some b =>
    show Reads (if isDigit b = true then _ else _) [] tail _
    rw [if_neg (by rw [h b hb]; exact Bool.false_ne_true)]
    exact Reads.pure _ tail

theorem stable_wholeDigits (ended : Cause) (c : Cursor) : Stable (wholeDigits ended) c := by
  cases hrest : c.rest with
  | nil => exact Stable.peek_fail hrest rfl
  | cons b rest =>
    refine Stable.peek_cons hrest ?_
    show Stable (if b = '0'.toUInt8 then _ else if isDigit b = true then _ else _) c
    split
    · refine Stable.bind (Stable.step (by simp [hrest])) fun _ c₂ _ => ?_
      -- Behind a zero the next byte is looked at; the text may end there.
      cases hrest₂ : c₂.rest with
      | nil => exact Stable.peek_nil hrest₂ rfl fun tail ht =>
          reads_afterZero (noDigit_of_ends ht)
      | cons b' rest' =>
        refine Stable.peek_cons hrest₂ ?_
        show Stable (if isDigit b' = true then _ else _) c₂
        split
        · exact Stable.of_error rfl
        · exact Stable.pure _ _
    · split
      · exact Stable.digits c
      · exact Stable.bind (Stable.step (by simp [hrest])) fun _ c₂ _ => Stable.of_error rfl

theorem reads_noFraction {tail : List UInt8} (ended : Cause) (h : Ends tail) :
    Reads (fractionDigits ended) [] tail none := by
  refine (reads_peek? tail).bind_end ?_
  have hdot : tail.head? ≠ some '.'.toUInt8 := fun hb =>
    absurd (h _ hb) (by decide)
  show Reads (if tail.head? = some '.'.toUInt8 then _ else _) [] tail none
  rw [if_neg hdot]
  exact Reads.pure none tail

theorem stable_fractionDigits (ended : Cause) (c : Cursor) : Stable (fractionDigits ended) c := by
  cases hrest : c.rest with
  | nil => exact Stable.peek_nil hrest rfl fun tail ht => reads_noFraction ended ht
  | cons b rest =>
    refine Stable.peek_cons hrest ?_
    split
    · refine Stable.bind (Stable.step (by simp [hrest])) fun _ c₂ _ => ?_
      refine Stable.bind (Stable.digits c₂) fun ds c₃ _ => ?_
      split
      · exact Stable.pure _ _
      -- Without a digit behind the point there is nothing but two ways to object.
      · intro a c₄ h
        have hpeek : peek? c₃ = .ok (c₃.rest.head?, c₃) := rfl
        rw [bind_of_eq hpeek] at h
        split at h <;> cases h
    · exact Stable.pure _ _

theorem reads_noExponentSign {tail : List UInt8} (h : Ends tail) :
    Reads exponentSign [] tail false := by
  refine (reads_peek? tail).bind_end ?_
  cases hb : tail.head? with
  | none => exact Reads.pure _ tail
  | some b =>
    have hplus : b ≠ '+'.toUInt8 := by
      rintro rfl
      exact absurd (h _ hb) (by decide)
    have hminus : b ≠ '-'.toUInt8 := by
      rintro rfl
      exact absurd (h _ hb) (by decide)
    show Reads (if b = '+'.toUInt8 then _ else if b = '-'.toUInt8 then _ else _) [] tail false
    rw [if_neg hplus, if_neg hminus]
    exact Reads.pure false tail

theorem stable_exponentSign (c : Cursor) : Stable exponentSign c := by
  cases hrest : c.rest with
  | nil => exact Stable.peek_nil hrest rfl fun tail ht => reads_noExponentSign ht
  | cons b rest =>
    refine Stable.peek_cons hrest ?_
    show Stable (if b = '+'.toUInt8 then _ else if b = '-'.toUInt8 then _ else _) c
    split
    · exact Stable.bind (Stable.step (by simp [hrest])) fun _ c₂ _ => Stable.pure _ _
    · split
      · exact Stable.bind (Stable.step (by simp [hrest])) fun _ c₂ _ => Stable.pure _ _
      · exact Stable.pure _ _

theorem reads_noExponent {tail : List UInt8} (ended : Cause) (h : Ends tail) :
    Reads (exponentDigits ended) [] tail none := by
  refine (reads_peek? tail).bind_end ?_
  cases hb : tail.head? with
  | none => exact Reads.pure _ tail
  | some b =>
    have he : ¬ (b = 'e'.toUInt8 ∨ b = 'E'.toUInt8) := by
      intro h
      rcases h with rfl | rfl
      · exact absurd (h _ hb) (by decide)
      · exact absurd (h _ hb) (by decide)
    show Reads (if b = 'e'.toUInt8 ∨ b = 'E'.toUInt8 then _ else _) [] tail none
    rw [if_neg he]
    exact Reads.pure none tail

theorem stable_exponentDigits (ended : Cause) (c : Cursor) : Stable (exponentDigits ended) c := by
  cases hrest : c.rest with
  | nil => exact Stable.peek_nil hrest rfl fun tail ht => reads_noExponent ended ht
  | cons b rest =>
    refine Stable.peek_cons hrest ?_
    show Stable (if b = 'e'.toUInt8 ∨ b = 'E'.toUInt8 then _ else _) c
    split
    · refine Stable.bind (Stable.step (by simp [hrest])) fun _ c₂ _ => ?_
      refine Stable.bind (stable_exponentSign c₂) fun minus c₃ _ => ?_
      -- Behind the sign there has to be a digit, so the text cannot end there.
      cases hrest₃ : c₃.rest with
      | nil => exact Stable.peek_fail hrest₃ rfl
      | cons b' rest' =>
        refine Stable.peek_cons hrest₃ ?_
        show Stable (if isDigit b' = true then _ else _) c₃
        split
        · exact Stable.bind (Stable.digits c₃) fun ds c₄ _ => Stable.pure _ _
        · exact Stable.bind (Stable.step (by simp [hrest₃])) fun _ c₄ _ => Stable.of_error rfl
    · exact Stable.pure _ _

theorem stable_numberRest (negative : Bool) (c : Cursor) : Stable (numberRest negative) c := by
  refine Stable.bind ?_ fun n c' _ => ?_
  · refine Stable.bind (stable_wholeDigits _ c) fun whole c₁ _ => ?_
    refine Stable.bind (stable_fractionDigits _ c₁) fun fraction c₂ _ => ?_
    exact Stable.bind (stable_exponentDigits _ c₂) fun exponent c₃ _ => Stable.pure _ _
  · cases n.value with
    | ok found => exact Stable.pure _ _
    | error unread => exact Stable.of_error rfl

end SurfaceStudio.Json
