import SurfaceStudio.Proofs.Json.RoundTrip
import SurfaceStudio.Proofs.Json.Soundness

/-!
# What is in the grammar is read

A reading takes everything the grammar gives it, as long as what follows cannot continue the last
number.  Together with soundness this makes the reader a decision procedure for the grammar.

  • `Leads` — a reading takes these bytes, leaves those and returns this,
  • `leads_numberRest`, `leads_stringRest` — numbers and strings,
  • `Value.leads`, `Elements.leads`, `Entries.leads` — **a value within the budget is read**,
  • `Value.unique`, `Document.unique` — a text spells one value at most,
  • `read_eq_ok_iff` — **a text is read exactly if it is well formed**, as the canonical form of
    what it spells,
  • `read_eq_trailing` — what follows a value is objected to.
-/

namespace SurfaceStudio.Json

open Reader Grammar

variable {α β : Type}

/-! ## §1. Readings that lead on. -/

/-- **From `s` the reading returns `a` and leaves `t`**, whatever line and column it begins at. -/
def Leads (r : Reader α) (s : List UInt8) (a : α) (t : List UInt8) : Prop :=
  ∀ c, c.rest = s → ∃ c', r c = .ok (a, c') ∧ c'.rest = t

theorem Reads.leads {r : Reader α} {w t : List UInt8} {a : α} (h : Reads r w t a) :
    Leads r (w ++ t) a t := by
  intro c hc
  refine ⟨_, h.apply hc, ?_⟩
  rw [Cursor.rest_steps, hc, List.drop_left]

namespace Leads

variable {r : Reader α} {s t u : List UInt8} {a : α} {b : β}

theorem pure (a : α) (t : List UInt8) : Leads (Pure.pure a) t a t := fun c hc => ⟨c, rfl, hc⟩

theorem bind {f : α → Reader β} (h : Leads r s a t) (h' : Leads (f a) t b u) :
    Leads (r >>= f) s b u := by
  intro c hc
  obtain ⟨c₁, hr, hc₁⟩ := h c hc
  rw [bind_of_eq hr]
  exact h' c₁ hc₁

/-- A result made from the result of the reading. -/
theorem bind_pure (f : α → β) (h : Leads r s a t) :
    Leads (r >>= fun a => Pure.pure (f a)) s (f a) t :=
  h.bind (Leads.pure (f a) t)

theorem peek {f : Option UInt8 → Reader β} (h : Leads (f s.head?) s b t) :
    Leads (peek? >>= f) s b t :=
  (reads_peek? s).leads.bind h

theorem step {f : Unit → Reader β} {x : UInt8} (h : Leads (f ()) s b t) :
    Leads (Reader.step >>= f) (x :: s) b t :=
  (reads_step x s).leads.bind h

theorem next {f : Option UInt8 → Reader β} {x : UInt8} (h : Leads (f (some x)) s b t) :
    Leads (next? >>= f) (x :: s) b t :=
  (reads_next? x s).leads.bind h

theorem bytesLeft {f : Nat → Reader β} (h : Leads (f s.length) s b t) :
    Leads (Reader.bytesLeft >>= f) s b t :=
  (reads_bytesLeft s).leads.bind h

theorem token {f : Option UInt8 → Reader β} (hgap : Gap s t) (ht : Solid t)
    (h : Leads (f t.head?) t b u) : Leads (peekToken? >>= f) s b u := by
  obtain ⟨w, hw, rfl⟩ := hgap
  exact (reads_peekToken? hw ht).leads.bind h

theorem token_cons {f : Option UInt8 → Reader β} {x : UInt8} (hgap : Gap s (x :: t))
    (hx : Cursor.isBlank x = false) (h : Leads (f (some x)) (x :: t) b u) :
    Leads (peekToken? >>= f) s b u :=
  token hgap (solid_cons hx) h

end Leads

/-! ## §2. Numbers. -/

theorem Grammar.Digits.exists_run {s t : List UInt8} {ds : List Nat} (h : Digits s ds t) :
    ∃ w, s = w ++ t ∧ (∀ b ∈ w, isDigit b = true) ∧ w.map digitValue = ds := by
  induction h with
  | @last b t hb => exact ⟨[b], rfl, by simpa using hb, rfl⟩
  | @more b s t ds hb hds ih =>
    obtain ⟨w, rfl, hw, rfl⟩ := ih
    exact ⟨b :: w, rfl, List.forall_mem_cons.2 ⟨hb, hw⟩, rfl⟩

theorem Grammar.Digits.ne_nil {s t : List UInt8} {ds : List Nat} (h : Digits s ds t) : ds ≠ [] := by
  cases h with
  | last h => exact List.cons_ne_nil _ _
  | more h hds => exact List.cons_ne_nil _ _

theorem Grammar.Digits.begins {s t : List UInt8} {ds : List Nat} (h : Digits s ds t) :
    ∃ b s₁, s = b :: s₁ ∧ isDigit b = true := by
  cases h with
  | last h => exact ⟨_, _, rfl, h⟩
  | more h hds => exact ⟨_, _, rfl, h⟩

/-- The digits of the grammar are those that are taken, if no more of them follow. -/
theorem leads_digits {s t : List UInt8} {ds : List Nat} (h : Digits s ds t) (ht : NoDigit t) :
    Leads digits s ds t := by
  obtain ⟨w, rfl, hw, rfl⟩ := h.exists_run
  exact (reads_digits hw ht).leads

theorem leads_wholeDigits (ended : Cause) {s t : List UInt8} {ds : List Nat} (h : Whole s ds t)
    (ht : NoDigit t) : Leads (wholeDigits ended) s ds t := by
  cases h with
  | zero => exact Leads.peek (Leads.step (reads_afterZero ht).leads)
  | @digits b s _ _ hb h =>
    refine Leads.peek ?_
    obtain ⟨b', s', hs, hb'⟩ := h.begins
    injection hs with hbb' _
    show Leads (if b = '0'.toUInt8 then _ else if isDigit b = true then _ else _) _ _ _
    rw [if_neg hb, if_pos (hbb' ▸ hb')]
    exact leads_digits h ht

theorem leads_fractionDigits (ended : Cause) {s t : List UInt8} {ds : Option (List Nat)}
    (h : Fraction s ds t) (ht : NoDigit t) (hdot : t.head? ≠ some '.'.toUInt8) :
    Leads (fractionDigits ended) s ds t := by
  cases h with
  | absent =>
    refine Leads.peek ?_
    rw [if_neg hdot]
    exact Leads.pure none _
  | point h =>
    refine Leads.peek ?_
    rw [List.head?_cons, if_pos rfl]
    refine Leads.step ((leads_digits h ht).bind ?_)
    rw [if_pos h.ne_nil]
    exact Leads.pure _ t

theorem leads_exponentSign {s t u : List UInt8} {minus : Bool} {ds : List Nat}
    (h : Sign s minus t) (hds : Digits t ds u) : Leads exponentSign s minus t := by
  cases h with
  | absent =>
    obtain ⟨b, s₁, rfl, hb⟩ := hds.begins
    have hne : ∀ b' : UInt8, isDigit b' = false → b ≠ b' := by
      rintro _ hb' rfl
      rw [hb] at hb'
      cases hb'
    refine Leads.peek ?_
    show Leads (if b = '+'.toUInt8 then _ else if b = '-'.toUInt8 then _ else _) _ _ _
    rw [if_neg (hne _ (by decide)), if_neg (hne _ (by decide))]
    exact Leads.pure false _
  | plus => exact Leads.peek (Leads.step (Leads.pure false t))
  | minus => exact Leads.peek (Leads.step (Leads.pure true t))

theorem leads_exponentDigits (ended : Cause) {s t : List UInt8} {e : Option (Bool × List Nat)}
    (h : Exponent s e t) (ht : Ends t) : Leads (exponentDigits ended) s e t := by
  cases h with
  | absent => exact (reads_noExponent ended ht).leads
  | @power b _ s₁ _ minus ds hb hs hds =>
    refine Leads.peek ?_
    show Leads (if b = 'e'.toUInt8 ∨ b = 'E'.toUInt8 then _ else _) _ _ _
    rw [if_pos hb]
    refine Leads.step ((leads_exponentSign hs hds).bind (Leads.peek ?_))
    have hdigits := (leads_digits hds (noDigit_of_ends ht)).bind_pure fun ds => some (minus, ds)
    obtain ⟨b', s₂, rfl, hb'⟩ := hds.begins
    show Leads (if isDigit b' = true then _ else _) _ _ _
    rw [if_pos hb']
    exact hdigits

/-- In front of an exponent, if there is one, stands neither a digit nor a point. -/
theorem Grammar.Exponent.stops {s t : List UInt8} {e : Option (Bool × List Nat)}
    (h : Exponent s e t) (ht : Ends t) : NoDigit s ∧ s.head? ≠ some '.'.toUInt8 := by
  cases h with
  | absent => exact ⟨noDigit_of_ends ht, fun hb => absurd (ht _ hb) (by decide)⟩
  | power hb hs hds =>
    rcases hb with rfl | rfl
    · exact ⟨noDigit_cons (by decide), by simp; decide⟩
    · exact ⟨noDigit_cons (by decide), by simp; decide⟩

theorem Grammar.Fraction.stops {s t : List UInt8} {ds : Option (List Nat)} (h : Fraction s ds t)
    (ht : NoDigit t) : NoDigit s := by
  cases h with
  | absent => exact ht
  | point h => exact noDigit_cons (by decide)

/-- **A number behind its sign is read**, in front of what cannot continue it. -/
theorem leads_numberRest {negative : Bool} {s t : List UInt8} {n : Numeral} {x : Number}
    (h : Unsigned negative s n t) (hx : n.value = .ok x) (ht : Ends t) :
    Leads (numberRest negative) s x t := by
  refine Leads.bind (a := n) (t := t) ?_ ?_
  · cases h with
    | numeral hw hf he =>
      obtain ⟨hdigit, hdot⟩ := he.stops ht
      refine (leads_wholeDigits _ hw (hf.stops hdigit)).bind ?_
      refine (leads_fractionDigits _ hf hdigit hdot).bind ?_
      exact (leads_exponentDigits _ he ht).bind (Leads.pure _ t)
  · rw [hx]
    exact Leads.pure x t

/-! ## §3. Strings. -/

theorem leads_fourHex {s t : List UInt8} {n : Nat} (h : Code s n t) : Leads fourHex s n t := by
  obtain ⟨w, hw, hn, rfl⟩ := h
  exact (reads_fourHex hw hn t).leads

theorem leads_pairByte (expected : Char) (t : List UInt8) :
    Leads (pairByte expected) (expected.toUInt8 :: t) () t := by
  refine Leads.peek (Leads.step ?_)
  rw [if_pos rfl]
  exact Leads.pure () t

theorem leads_escape {s bytes t : List UInt8} (h : Escape s bytes t) :
    Leads escape s bytes t := by
  cases h with
  | @short b b' _ h =>
    have hu : b ≠ 'u'.toUInt8 := by
      intro hb
      have hnone : shortEscape? 'u'.toUInt8 = none := by decide
      rw [hb, hnone] at h
      cases h
    exact (reads_escape_short hu h t).leads
  | code h hlead htrail =>
    refine Leads.next (Leads.bind_pure String.utf8EncodeChar ?_)
    refine (leads_fourHex h).bind ?_
    rw [htrail, hlead, if_neg Bool.false_ne_true, if_neg Bool.false_ne_true]
    exact Leads.pure _ t
  | @pair _ s₁ _ n m h hlead h' htrail =>
    refine Leads.next (Leads.bind_pure String.utf8EncodeChar ?_)
    refine (leads_fourHex h).bind ?_
    -- A leading half is no trailing one.
    have hnot : isTrailing n = false := by
      simp only [isLeading, isTrailing, Bool.and_eq_true, Bool.and_eq_false_iff, decide_eq_true_eq,
        decide_eq_false_iff_not] at hlead ⊢
      omega
    rw [hnot, hlead, if_neg Bool.false_ne_true, if_pos rfl]
    refine (leads_pairByte '\\' _).bind ((leads_pairByte 'u' s₁).bind ?_)
    refine (leads_fourHex h').bind ?_
    rw [htrail, if_pos rfl]
    exact Leads.pure _ t

theorem leads_stringPiece {s bytes t : List UInt8} (h : Piece s bytes t) :
    Leads stringPiece s (some bytes) t := by
  cases h with
  | plain h => exact (reads_stringPiece_plain h t).leads
  | escape h => exact Leads.next ((leads_escape h).bind_pure some)

/-- Every piece takes a byte, so there is fuel for all of them. -/
theorem leads_stringPieces {s bytes t : List UInt8} (h : Body s bytes t) {fuel : Nat}
    (hfuel : s.length < fuel) (pieces : List (List UInt8)) :
    Leads (stringPieces fuel pieces) s (pieces.reverse.flatten ++ bytes) t := by
  induction h generalizing fuel pieces with
  | @close t =>
    obtain ⟨fuel, rfl⟩ : ∃ f, fuel = f + 1 := Nat.exists_eq_add_one.2 (by omega)
    rw [List.append_nil]
    exact (reads_stringPiece_end t).leads.bind (Leads.pure _ t)
  | @piece s s₁ t bytes others h hs ih =>
    obtain ⟨fuel, rfl⟩ : ∃ f, fuel = f + 1 := Nat.exists_eq_add_one.2 (by omega)
    have hlen := h.length_lt
    have hothers := @ih fuel (by omega) (bytes :: pieces)
    rw [List.reverse_cons, List.flatten_append, List.flatten_singleton, List.append_assoc]
      at hothers
    exact (leads_stringPiece h).bind hothers

/-- **A string is read**, behind its opening quote. -/
theorem leads_stringRest {s t : List UInt8} {text : String} (h : Body s (bytesOf text) t) :
    Leads stringRest s text t := by
  refine Leads.bytesLeft ((leads_stringPieces h (Nat.lt_succ_self _) []).bind ?_)
  rw [List.reverse_nil, List.flatten_nil, List.nil_append, fromUTF8?_bytesOf]
  exact Leads.pure text t

/-! ## §4. How constructs begin. -/

theorem Grammar.Gap.ends {s t : List UInt8} (h : Gap s t) (ht : Ends t) : Ends s := by
  obtain ⟨w, hw, rfl⟩ := h
  exact ends_append hw ht

/-- Behind an element stands nothing that could continue it. -/
theorem Grammar.Elements.ends {s t : List UInt8} {vs : List Json} (h : Elements false s vs t)
    (ht : Ends t) : Ends s := by
  cases h with
  | nil h => exact h.ends ht
  | cons hl hv hvs =>
    cases hl with
    | next h h' => exact h.ends (ends_cons (by decide))

theorem Grammar.Entries.ends {s t : List UInt8} {ms : Members} (h : Entries false s ms t)
    (ht : Ends t) : Ends s := by
  cases h with
  | nil h => exact h.ends ht
  | cons hl hk hc hg hv hms =>
    cases hl with
    | next h h' => exact h.ends (ends_cons (by decide))

theorem Grammar.Whole.begins {s t : List UInt8} {ds : List Nat} (h : Whole s ds t) :
    ∃ b s₁, s = b :: s₁ ∧ isDigit b = true := by
  cases h with
  | zero => exact ⟨_, _, rfl, by decide⟩
  | digits hb h => exact h.begins

theorem Grammar.Unsigned.begins {negative : Bool} {s t : List UInt8} {n : Numeral}
    (h : Unsigned negative s n t) : ∃ b s₁, s = b :: s₁ ∧ isDigit b = true := by
  cases h with
  | numeral hw hf he => exact hw.begins

/-- A number is read by its first byte. -/
theorem Grammar.Numeric.leads {s t : List UInt8} {n : Number} (h : Numeric s n t) (ht : Ends t) :
    ∃ b s₁, s = b :: s₁ ∧ isNumeralByte b = true ∧ Leads (scalar b) s (.number n) t := by
  cases h with
  | plain h hx =>
    obtain ⟨b, s₁, rfl, hb⟩ := h.begins
    have hbyte := isNumeralByte_of_isDigit hb
    have hminus : b ≠ '-'.toUInt8 := by
      rintro rfl
      exact absurd hb (by decide)
    refine ⟨b, s₁, rfl, hbyte, ?_⟩
    rw [scalar_numeral hbyte, if_neg hminus, if_pos hb]
    exact (leads_numberRest h hx ht).bind_pure Json.number
  | minus h hx =>
    refine ⟨_, _, rfl, isNumeralByte_minus, ?_⟩
    rw [scalar_numeral isNumeralByte_minus, if_pos rfl]
    exact Leads.step ((leads_numberRest h hx ht).bind_pure Json.number)

theorem Grammar.Numeric.begins {s t : List UInt8} {n : Number} (h : Numeric s n t) :
    ∃ b s₁, s = b :: s₁ ∧ isNumeralByte b = true := by
  cases h with
  | plain h hx =>
    obtain ⟨b, s₁, hs, hb⟩ := h.begins
    exact ⟨b, s₁, hs, isNumeralByte_of_isDigit hb⟩
  | minus h hx => exact ⟨_, _, rfl, isNumeralByte_minus⟩

theorem Grammar.Value.begins {s t : List UInt8} {v : Json} (h : Value s v t) :
    ∃ b s₁, s = b :: s₁ ∧ BeginsValue b := by
  cases h with
  | null => exact ⟨_, _, rfl, by decide, by decide⟩
  | yes => exact ⟨_, _, rfl, by decide, by decide⟩
  | no => exact ⟨_, _, rfl, by decide, by decide⟩
  | number h =>
    obtain ⟨b, s₁, hs, hb⟩ := h.begins
    exact ⟨b, s₁, hs, beginsValue_of_isNumeralByte hb⟩
  | string h =>
    cases h with
    | text h => exact ⟨_, _, rfl, by decide, by decide⟩
  | array h => exact ⟨_, _, rfl, by decide, by decide⟩
  | object h => exact ⟨_, _, rfl, by decide, by decide⟩

/-! ## §5. Values. -/

theorem leads_nextElement_end (first : Bool) {s t : List UInt8} (h : Gap s (']'.toUInt8 :: t)) :
    Leads (nextElement first) s false (']'.toUInt8 :: t) := by
  obtain ⟨w, hw, rfl⟩ := h
  exact (reads_nextElement_end first hw t).leads

theorem leads_nextElement {first : Bool} {s t : List UInt8} {b : UInt8} (hb : BeginsValue b)
    (h : Lead first s (b :: t)) : Leads (nextElement first) s true (b :: t) := by
  cases h with
  | first h =>
    obtain ⟨w, hw, rfl⟩ := h
    exact (reads_nextElement_first hw hb t).leads
  | next h h' =>
    refine Leads.token_cons h (by decide) (Leads.step (Leads.token_cons h' hb.1 ?_))
    show Leads (if b = ']'.toUInt8 then _ else _) _ true _
    rw [if_neg hb.2]
    exact Leads.pure true _

theorem leads_arrayRest {r : Reader α} {s t : List UInt8} {as : List α}
    (h : Leads (items r (s.length + 1) true) s as (']'.toUInt8 :: t)) :
    Leads (arrayRest r) s as t := by
  refine Leads.bytesLeft ?_
  rw [elements_nil_eq_items]
  exact h.bind (Leads.step (Leads.pure as t))

theorem leads_nextKey_end (first : Bool) {s t : List UInt8} (h : Gap s ('\x7d'.toUInt8 :: t)) :
    Leads (nextKey first) s none ('\x7d'.toUInt8 :: t) := by
  obtain ⟨w, hw, rfl⟩ := h
  exact (reads_nextKey_end first hw t).leads

theorem leads_nextKey {first : Bool} {s s₁ t : List UInt8} {key : String}
    (hl : Lead first s s₁) (hk : Quoted s₁ key t) : Leads (nextKey first) s (some key) t := by
  cases hk with
  | text hk =>
    have hkey := Leads.step (x := '"'.toUInt8) (f := fun _ => do return some (← stringRest))
      ((leads_stringRest hk).bind_pure some)
    cases hl with
    | first h => exact Leads.token_cons h (by decide) hkey
    | next h h' =>
      exact Leads.token_cons h (by decide) (Leads.step (Leads.token_cons h' (by decide) hkey))

theorem leads_colon {s t : List UInt8} (h : Gap s (':'.toUInt8 :: t)) : Leads colon s () t :=
  Leads.token_cons h (by decide) (reads_step _ t).leads

theorem leads_entriesRest {r : Reader Json} {s t : List UInt8} {ms : Members}
    (h : Leads (entries r (s.length + 1) true) s ms ('\x7d'.toUInt8 :: t)) :
    Leads (entriesRest r) s ms t :=
  Leads.bytesLeft (h.bind (Leads.step (Leads.pure ms t)))

theorem plain_eq_plainWith (budget : Nat) : ∃ inner, plain budget = plainWith inner := by
  cases budget with
  | zero => exact ⟨none, rfl⟩
  | succ budget => exact ⟨some (plain budget), rfl⟩

/-- A value without brackets is read by its first byte, whatever the budget. -/
theorem leads_plain_scalar (budget : Nat) {s s₁ t : List UInt8} {b : UInt8} {v : Json}
    (hgap : Gap s (b :: s₁)) (hb : Cursor.isBlank b = false)
    (hopen : b ≠ '['.toUInt8 ∧ b ≠ '\x7b'.toUInt8) (h : Leads (scalar b) (b :: s₁) v t) :
    Leads (plain budget) s v t := by
  obtain ⟨inner, hinner⟩ := plain_eq_plainWith budget
  rw [hinner]
  refine Leads.token_cons hgap hb ?_
  show Leads (if b = '['.toUInt8 then _ else if b = '\x7b'.toUInt8 then _ else _) _ v t
  rw [if_neg hopen.1, if_neg hopen.2]
  exact h

mutual

/-- **A value within the budget is read**, behind white space and in front of what cannot continue
it. -/
theorem Grammar.Value.leads {s t : List UInt8} {v : Json} :
    Value s v t → ∀ {s₀ : List UInt8} {budget : Nat}, Gap s₀ s → v.nesting ≤ budget → Ends t →
      Leads (plain budget) s₀ v t
  | .null, _, _, hgap, _, _ =>
    leads_plain_scalar _ hgap (by decide) (by decide)
      (Reads.leads (w := ['n'.toUInt8, 'u'.toUInt8, 'l'.toUInt8, 'l'.toUInt8]) fun _ _ => rfl)
  | .yes, _, _, hgap, _, _ =>
    leads_plain_scalar _ hgap (by decide) (by decide)
      (Reads.leads (w := ['t'.toUInt8, 'r'.toUInt8, 'u'.toUInt8, 'e'.toUInt8]) fun _ _ => rfl)
  | .no, _, _, hgap, _, _ =>
    leads_plain_scalar _ hgap (by decide) (by decide)
      (Reads.leads (w := ['f'.toUInt8, 'a'.toUInt8, 'l'.toUInt8, 's'.toUInt8, 'e'.toUInt8])
        fun _ _ => rfl)
  | .number h, _, budget, hgap, _, ht => by
    obtain ⟨b, s₁, rfl, hb, hleads⟩ := h.leads ht
    exact leads_plain_scalar budget hgap (not_blank_of_isNumeralByte hb)
      ⟨ne_of_isNumeralByte hb (by decide), ne_of_isNumeralByte hb (by decide)⟩ hleads
  | .string (.text h), _, _, hgap, _, _ =>
    leads_plain_scalar _ hgap (by decide) (by decide)
      (Leads.step ((leads_stringRest h).bind_pure Json.string))
  | .array h, _, 0, _, hn, _ => absurd hn (Nat.not_succ_le_zero _)
  | @Value.array s _ vs h, _, budget + 1, hgap, hn, _ => by
    -- The fuel is the number of bytes behind the bracket, and every element takes one.
    have hlength := h.length_le
    have hitems : Leads (items (plain budget) (s.length + 1) true) s vs _ :=
      h.leads ⟨_, rfl⟩ (nesting_array_le_iff.1 hn) (by omega)
    exact Leads.token_cons hgap (by decide)
      (Leads.step ((leads_arrayRest hitems).bind_pure Json.array))
  | .object h, _, 0, _, hn, _ => absurd hn (Nat.not_succ_le_zero _)
  | @Value.object s _ ms h, _, budget + 1, hgap, hn, _ => by
    have hlength := h.length_le
    have hmembers : Leads (entries (plain budget) (s.length + 1) true) s ms _ :=
      h.leads ⟨_, rfl⟩ (nesting_object_le_iff.1 hn) (by omega)
    exact Leads.token_cons hgap (by decide)
      (Leads.step ((leads_entriesRest hmembers).bind_pure Json.object))

/-- So are the elements of an array. -/
theorem Grammar.Elements.leads {first : Bool} {s t : List UInt8} {vs : List Json} :
    Elements first s vs t → (∃ u, t = ']'.toUInt8 :: u) → ∀ {budget fuel : Nat},
      (∀ v ∈ vs, v.nesting ≤ budget) → vs.length < fuel →
      Leads (items (plain budget) fuel first) s vs t
  | .nil h, hclose, _, fuel, _, hfuel => by
    obtain ⟨u, rfl⟩ := hclose
    obtain ⟨fuel, rfl⟩ : ∃ f, fuel = f + 1 := Nat.exists_eq_add_one.2 (by omega)
    exact (leads_nextElement_end first h).bind (Leads.pure [] _)
  | @Elements.cons _ _ _ _ _ v vs hl hv hvs, hclose, budget, fuel, hn, hfuel => by
    obtain ⟨fuel, rfl⟩ : ∃ f, fuel = f + 1 := Nat.exists_eq_add_one.2 (by omega)
    obtain ⟨hvn, hothers⟩ := List.forall_mem_cons.1 hn
    have hends : Ends t := by
      obtain ⟨u, rfl⟩ := hclose
      exact ends_cons (by decide)
    have hvalue := hv.leads (gap_refl _) hvn (hvs.ends hends)
    have hrest := hvs.leads hclose hothers (Nat.lt_of_succ_lt_succ hfuel)
    obtain ⟨b, s₁, rfl, hb⟩ := hv.begins
    exact (leads_nextElement hb hl).bind (hvalue.bind (hrest.bind_pure (v :: ·)))

/-- And the members of an object. -/
theorem Grammar.Entries.leads {first : Bool} {s t : List UInt8} {ms : Members} :
    Entries first s ms t → (∃ u, t = '\x7d'.toUInt8 :: u) → ∀ {budget fuel : Nat},
      (∀ m ∈ ms, m.2.nesting ≤ budget) → ms.length < fuel →
      Leads (entries (plain budget) fuel first) s ms t
  | .nil h, hclose, _, fuel, _, hfuel => by
    obtain ⟨u, rfl⟩ := hclose
    obtain ⟨fuel, rfl⟩ : ∃ f, fuel = f + 1 := Nat.exists_eq_add_one.2 (by omega)
    exact (leads_nextKey_end first h).bind (Leads.pure [] _)
  | @Entries.cons _ _ _ _ _ _ _ _ key v ms hl hk hc hg hv hms, hclose, budget, fuel, hn,
      hfuel => by
    obtain ⟨fuel, rfl⟩ : ∃ f, fuel = f + 1 := Nat.exists_eq_add_one.2 (by omega)
    obtain ⟨hvn, hothers⟩ := List.forall_mem_cons.1 hn
    have hends : Ends t := by
      obtain ⟨u, rfl⟩ := hclose
      exact ends_cons (by decide)
    have hvalue : Leads (behindColon (plain budget)) _ v _ :=
      (leads_colon hc).bind (hv.leads hg hvn (hms.ends hends))
    have hrest := hms.leads hclose hothers (Nat.lt_of_succ_lt_succ hfuel)
    exact (leads_nextKey hl hk).bind (hvalue.bind (hrest.bind_pure ((key, v) :: ·)))

end

/-! ## §6. Texts. -/

/-- What stands in the grammar behind white space is there once: nothing else that ends where it
might end can be read in its place. -/
theorem Grammar.Value.unique {s₀ s s' t t' : List UInt8} {v v' : Json} (hgap : Gap s₀ s)
    (hv : Value s v t) (ht : Ends t) (hgap' : Gap s₀ s') (hv' : Value s' v' t')
    (ht' : Ends t') : v = v' ∧ t = t' := by
  obtain ⟨c₁, hc₁, hrest₁⟩ := hv.leads hgap (Nat.le_max_left v.nesting v'.nesting) ht
    (.start s₀) rfl
  obtain ⟨c₂, hc₂, hrest₂⟩ := hv'.leads hgap' (Nat.le_max_right v.nesting v'.nesting) ht'
    (.start s₀) rfl
  -- One reader has read both.
  rw [hc₁] at hc₂
  injection hc₂ with hc₂
  injection hc₂ with hvalue hcursor
  exact ⟨hvalue, by rw [← hrest₁, ← hrest₂, hcursor]⟩

theorem ends_of_gap_nil {t : List UInt8} (h : Gap t []) : Ends t := h.ends ends_nil

/-- **A text spells one value at most.** -/
theorem Grammar.Document.unique {text : String} {v v' : Json} (h : Document text v)
    (h' : Document text v') : v = v' := by
  obtain ⟨s, t, hgap, hv, ht⟩ := h
  obtain ⟨s', t', hgap', hv', ht'⟩ := h'
  exact (hv.unique hgap (ends_of_gap_nil ht) hgap' hv' (ends_of_gap_nil ht')).1

theorem leads_atEnd {t : List UInt8} (h : Gap t []) : Leads atEnd t () [] := by
  refine Leads.token h (fun b hb => ?_) (Leads.pure () [])
  cases hb

theorem readWith_plain_eq_ok_iff {text : String} {v : Json} :
    readWith (plain bracketBudget) (bytesOf text) = .ok v ↔ Denotes text v := by
  constructor
  · intro h
    obtain ⟨c, hc, hblank⟩ := exists_of_readWith_eq_ok h
    obtain ⟨⟨s, hgap, hv⟩, hnesting⟩ := ensures_plain bracketBudget _ hc
    exact ⟨⟨s, c.rest, hgap, hv, c.rest, hblank, (List.append_nil _).symm⟩, hnesting⟩
  · intro h
    obtain ⟨⟨s, t, hgap, hv, ht⟩, hnesting⟩ := h
    obtain ⟨c, hc, hrest⟩ := hv.leads hgap hnesting (ends_of_gap_nil ht) (.start _) rfl
    obtain ⟨c', hc', -⟩ := leads_atEnd ht c hrest
    exact readWith_eq_ok_iff.2 ⟨c, c', hc, hc'⟩

/-- **A text is read exactly if it is well formed**, as the canonical form of the value that it
spells. -/
theorem read_eq_ok_iff {text : String} {v : Json} :
    read text = .ok v ↔ ∃ w, Denotes text w ∧ w.canonical = v := by
  rw [read, (factors_value bracketBudget).readWith_eq_ok_iff]
  constructor
  · intro h
    obtain ⟨w, hw, hv⟩ := h
    injection hv with hv
    exact ⟨w, readWith_plain_eq_ok_iff.1 hw, hv⟩
  · intro h
    obtain ⟨w, hw, hv⟩ := h
    exact ⟨w, readWith_plain_eq_ok_iff.2 hw, by rw [canonize, hv]⟩

/-! ## §7. Objections. -/

/-- From `s` the reading fails for this cause. -/
def Fails (r : Reader α) (s : List UInt8) (cause : Cause) : Prop :=
  ∀ c, c.rest = s → ∃ place, r c = .error ⟨cause, place⟩

namespace Fails

variable {r : Reader α} {f : α → Reader β} {s t : List UInt8} {a : α} {cause : Cause}

theorem failAhead (cause : Cause) (s : List UInt8) :
    Fails (Reader.failAhead cause : Reader α) s cause := fun c _ => ⟨c.ahead, rfl⟩

theorem bind (h : Fails r s cause) : Fails (r >>= f) s cause := by
  intro c hc
  obtain ⟨place, hr⟩ := h c hc
  refine ⟨place, ?_⟩
  show (r c >>= fun p => f p.1 p.2) = _
  rw [hr]
  rfl

end Fails

/-- A failure behind a reading that leads there. -/
theorem Leads.fails {r : Reader α} {f : α → Reader β} {s t : List UInt8} {a : α} {cause : Cause}
    (h : Leads r s a t) (h' : Fails (f a) t cause) : Fails (r >>= f) s cause := by
  intro c hc
  obtain ⟨c₁, hr, hc₁⟩ := h c hc
  rw [bind_of_eq hr]
  exact h' c₁ hc₁

/-- What plain values lead on to, values lead on to in their canonical form. -/
theorem Leads.value {budget : Nat} {s t : List UInt8} {v : Json}
    (h : Leads (plain budget) s v t) : Leads (value budget) s v.canonical t := by
  intro c hc
  obtain ⟨c', hr, hc'⟩ := h c hc
  exact ⟨c', (factors_value budget c _ c').2 ⟨v, hr, rfl⟩, hc'⟩

theorem Fails.token_cons {f : Option UInt8 → Reader α} {s t : List UInt8} {x : UInt8}
    {cause : Cause} (hgap : Gap s (x :: t)) (hx : Cursor.isBlank x = false)
    (h : Fails (f (some x)) (x :: t) cause) : Fails (peekToken? >>= f) s cause := by
  obtain ⟨w, hw, rfl⟩ := hgap
  exact (reads_peekToken?_cons hw hx).leads.fails h

mutual

/-- **A value that is nested too deep is objected to as such**, whatever follows it. -/
theorem Grammar.Value.fails {s t : List UInt8} {v : Json} :
    Value s v t → ∀ {s₀ : List UInt8} {budget : Nat}, Gap s₀ s → budget < v.nesting →
      Fails (value budget) s₀ .tooDeep
  | .null, _, _, _, hn => absurd hn (Nat.not_lt_zero _)
  | .yes, _, _, _, hn => absurd hn (Nat.not_lt_zero _)
  | .no, _, _, _, hn => absurd hn (Nat.not_lt_zero _)
  | .number _, _, _, _, hn => absurd hn (Nat.not_lt_zero _)
  | .string _, _, _, _, hn => absurd hn (Nat.not_lt_zero _)
  -- The objection comes at the opening bracket, so nothing is asked of what follows the value.
  | .array _, _, 0, hgap, _ => Fails.token_cons hgap (by decide) (Fails.failAhead _ _)
  | @Value.array s _ vs h, _, budget + 1, hgap, hn => by
    have hdeep : ∃ v ∈ vs, budget < v.nesting := by
      by_contra hall
      refine Nat.not_le.2 hn (nesting_array_le_iff.2 fun v hv => Nat.not_lt.1 fun hlt => ?_)
      exact hall ⟨v, hv, hlt⟩
    have hlength := h.length_le
    have hitems : Fails (items (value budget) (s.length + 1) true) s .tooDeep :=
      h.fails ⟨_, rfl⟩ hdeep (by omega)
    refine Fails.token_cons hgap (by decide) ((reads_step _ s).leads.fails (Fails.bind ?_))
    refine (reads_bytesLeft s).leads.fails (Fails.bind ?_)
    rwa [elements_nil_eq_items]
  | .object _, _, 0, hgap, _ => Fails.token_cons hgap (by decide) (Fails.failAhead _ _)
  | @Value.object s _ ms h, _, budget + 1, hgap, hn => by
    have hdeep : ∃ m ∈ ms, budget < m.2.nesting := by
      by_contra hall
      refine Nat.not_le.2 hn (nesting_object_le_iff.2 fun m hm => Nat.not_lt.1 fun hlt => ?_)
      exact hall ⟨m, hm, hlt⟩
    have hlength := h.length_le
    have hmembers : Fails (entries (value budget) (s.length + 1) true) s .tooDeep :=
      h.fails ⟨_, rfl⟩ hdeep (by omega)
    refine Fails.token_cons hgap (by decide) ((reads_step _ s).leads.fails (Fails.bind ?_))
    rw [objectRest_genericMember]
    exact Fails.bind ((reads_bytesLeft s).leads.fails (Fails.bind hmembers))

/-- The first element that is nested too deep is objected to. -/
theorem Grammar.Elements.fails {first : Bool} {s t : List UInt8} {vs : List Json} :
    Elements first s vs t → (∃ u, t = ']'.toUInt8 :: u) → ∀ {budget fuel : Nat},
      (∃ v ∈ vs, budget < v.nesting) → vs.length < fuel →
      Fails (items (value budget) fuel first) s .tooDeep
  | .nil _, _, _, _, hdeep, _ => by
    obtain ⟨v, hv, -⟩ := hdeep
    cases hv
  | @Elements.cons _ _ _ _ _ v vs hl hv hvs, hclose, budget, fuel, hdeep, hfuel => by
    obtain ⟨fuel, rfl⟩ : ∃ f, fuel = f + 1 := Nat.exists_eq_add_one.2 (by omega)
    have hends : Ends t := by
      obtain ⟨u, rfl⟩ := hclose
      exact ends_cons (by decide)
    have hlead := hv.begins
    by_cases hn : v.nesting ≤ budget
    · -- The fault lies in one of the others.
      have hothers : ∃ w ∈ vs, budget < w.nesting := by
        obtain ⟨w, hw, hwn⟩ := hdeep
        rcases List.mem_cons.1 hw with rfl | hw
        · exact absurd hn (Nat.not_le.2 hwn)
        · exact ⟨w, hw, hwn⟩
      have hvalue := (hv.leads (gap_refl _) hn (hvs.ends hends)).value
      have hrest := hvs.fails hclose hothers (Nat.lt_of_succ_lt_succ hfuel)
      obtain ⟨b, s₁, rfl, hb⟩ := hlead
      exact (leads_nextElement hb hl).fails (hvalue.fails hrest.bind)
    · have hvalue := hv.fails (gap_refl _) (Nat.not_le.1 hn)
      obtain ⟨b, s₁, rfl, hb⟩ := hlead
      exact (leads_nextElement hb hl).fails hvalue.bind

/-- So is the first member that is. -/
theorem Grammar.Entries.fails {first : Bool} {s t : List UInt8} {ms : Members} :
    Entries first s ms t → (∃ u, t = '\x7d'.toUInt8 :: u) → ∀ {budget fuel : Nat},
      (∃ m ∈ ms, budget < m.2.nesting) → ms.length < fuel →
      Fails (entries (value budget) fuel first) s .tooDeep
  | .nil _, _, _, _, hdeep, _ => by
    obtain ⟨m, hm, -⟩ := hdeep
    cases hm
  | @Entries.cons _ _ _ _ _ _ _ _ key v ms hl hk hc hg hv hms, hclose, budget, fuel, hdeep,
      hfuel => by
    obtain ⟨fuel, rfl⟩ : ∃ f, fuel = f + 1 := Nat.exists_eq_add_one.2 (by omega)
    have hends : Ends t := by
      obtain ⟨u, rfl⟩ := hclose
      exact ends_cons (by decide)
    refine (leads_nextKey hl hk).fails ?_
    by_cases hn : v.nesting ≤ budget
    · have hothers : ∃ m ∈ ms, budget < m.2.nesting := by
        obtain ⟨m, hm, hmn⟩ := hdeep
        rcases List.mem_cons.1 hm with rfl | hm
        · exact absurd hn (Nat.not_le.2 hmn)
        · exact ⟨m, hm, hmn⟩
      have hvalue : Leads (behindColon (value budget)) _ v.canonical _ :=
        (leads_colon hc).bind (hv.leads hg hn (hms.ends hends)).value
      have hrest := hms.fails hclose hothers (Nat.lt_of_succ_lt_succ hfuel)
      exact hvalue.fails hrest.bind
    · have hvalue : Fails (behindColon (value budget)) _ .tooDeep :=
        (leads_colon hc).fails (hv.fails hg (Nat.not_le.1 hn))
      exact hvalue.bind

end

theorem readWith_eq_error {r : Reader α} {bytes : List UInt8} {cause : Cause}
    (h : Fails r bytes cause) : ∃ place, readWith r bytes = .error ⟨cause, place⟩ := by
  obtain ⟨place, hr⟩ := h (.start bytes) rfl
  exact ⟨place, by rw [readWith, hr]; rfl⟩

/-- **A text with too many brackets in one another** is objected to for that. -/
theorem read_eq_tooDeep {text : String} {v : Json} (h : Document text v)
    (hn : bracketBudget < v.nesting) : ∃ place, read text = .error ⟨.tooDeep, place⟩ := by
  obtain ⟨s, t, hgap, hv, -⟩ := h
  exact readWith_eq_error (hv.fails hgap hn)

/-- **A text that goes on behind a value** is objected to for that. -/
theorem read_eq_trailing {text : String} {s t : List UInt8} {v : Json}
    (hgap : Gap (bytesOf text) s) (hv : Value s v t) (hn : v.nesting ≤ bracketBudget)
    (hends : Ends t) (ht : ¬ Gap t []) :
    ∃ place, read text = .error ⟨.trailingCharacters, place⟩ := by
  obtain ⟨c, hc, hrest⟩ := (hv.leads hgap hn hends).value (.start (bytesOf text)) rfl
  have hmore : c.skipBlanks.rest.head?.isSome = true := by
    cases hskip : c.skipBlanks.rest with
    | cons b s => rfl
    | nil =>
      have hend := gap_skipBlanks c
      rw [hskip, hrest] at hend
      exact absurd hend ht
  have hpeek : peekToken? c = .ok (c.skipBlanks.rest.head?, c.skipBlanks) := rfl
  refine ⟨c.skipBlanks.ahead, ?_⟩
  rw [read, readWith, hc]
  show (atEnd c >>= fun _ => _) = _
  rw [atEnd, bind_of_eq hpeek, if_pos hmore]
  rfl

end SurfaceStudio.Json
