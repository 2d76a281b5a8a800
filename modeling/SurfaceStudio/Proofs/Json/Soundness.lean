import SurfaceStudio.Proofs.Json.Grammar
import SurfaceStudio.Proofs.Json.Stages

/-!
# What is read is in the grammar

Every result of a reading is one that the grammar gives to the bytes the reading has taken.

  • `Ensures` — every result of a reading from here, with the bytes it leaves, has a property,
  • `ensures_numberRest`, `ensures_stringRest` — numbers and strings,
  • `plain` — values whose objects have their members as they stand in the text,
    `factors_value` — a value is read as a plain one is, and made canonical,
  • `ensures_items`, `ensures_entries` — the insides of arrays and objects,
  • `ensures_plain` — **what is read as a value is one**, nested no deeper than the budget.
-/

namespace SurfaceStudio.Json

open Reader Grammar

variable {α β : Type}

/-! ## §1. Results with what is left. -/

/-- **Every result of the reading from here has the property**, together with the bytes that are
left behind it. -/
def Ensures (r : Reader α) (c : Cursor) (Q : α → List UInt8 → Prop) : Prop :=
  ∀ ⦃a c'⦄, r c = .ok (a, c') → Q a c'.rest

/-- What is skipped is white space. -/
theorem gap_skipBlanks (c : Cursor) : Gap c.rest c.skipBlanks.rest := by
  refine ⟨c.rest.takeWhile Cursor.isBlank, ?_, ?_⟩
  · exact fun b hb => List.all_eq_true.1 List.all_takeWhile b hb
  · rw [rest_skipBlanks, List.takeWhile_append_dropWhile]

namespace Ensures

variable {r : Reader α} {f : α → Reader β} {c : Cursor} {P : α → List UInt8 → Prop}
  {Q : β → List UInt8 → Prop}

theorem mono {P' : α → List UInt8 → Prop} (h : Ensures r c P) (hP : ∀ a t, P a t → P' a t) :
    Ensures r c P' :=
  fun _ _ ha => hP _ _ (h ha)

theorem pure {a : α} (h : P a c.rest) : Ensures (Pure.pure a) c P := by
  intro a' c' ha
  obtain ⟨rfl, rfl⟩ := pure_eq_ok_iff.1 ha
  exact h

theorem of_error {fault : Fault} (h : r c = .error fault) : Ensures r c P := by
  intro a c' ha
  rw [h] at ha
  cases ha

theorem failHere (cause : Cause) : Ensures (Reader.failHere cause) c P := of_error rfl

theorem failAhead (cause : Cause) : Ensures (Reader.failAhead cause) c P := of_error rfl

theorem bind (h : Ensures r c P) (h' : ∀ a c', P a c'.rest → Ensures (f a) c' Q) :
    Ensures (r >>= f) c Q := by
  intro b c₂ hb
  obtain ⟨a, c₁, ha, hf⟩ := exists_of_bind_eq_ok hb
  exact h' a c₁ (h ha) hf

/-- A result made from the result of the reading. -/
theorem bind_pure {g : α → β} (h : Ensures r c fun a t => Q (g a) t) :
    Ensures (r >>= fun a => Pure.pure (g a)) c Q :=
  h.bind fun _ _ ha => Ensures.pure ha

theorem peek {f : Option UInt8 → Reader β} (h : Ensures (f c.rest.head?) c Q) :
    Ensures (peek? >>= f) c Q := by
  intro b c' hb
  have hpeek : peek? c = .ok (c.rest.head?, c) := rfl
  rw [bind_of_eq hpeek] at hb
  exact h hb

theorem step {b : UInt8} {s : List UInt8} (hc : c.rest = b :: s) :
    Ensures Reader.step c fun _ t => t = s := by
  intro _ c' h
  injection h with h
  injection h with _ hc'
  rw [← hc', Cursor.rest_step, hc, List.tail_cons]

theorem bytesLeft {f : Nat → Reader β} (h : Ensures (f c.rest.length) c Q) :
    Ensures (Reader.bytesLeft >>= f) c Q := by
  intro b c' hb
  have hleft : Reader.bytesLeft c = .ok (c.rest.length, c) := rfl
  rw [bind_of_eq hleft] at hb
  exact h hb

theorem next_cons {f : Option UInt8 → Reader β} {b : UInt8} {s : List UInt8}
    (hc : c.rest = b :: s) (h : ∀ c', c'.rest = s → Ensures (f (some b)) c' Q) :
    Ensures (next? >>= f) c Q := by
  intro y c' hy
  have hnext : next? c = .ok (some b, c.step) := by rw [next?, hc, List.head?_cons]
  rw [bind_of_eq hnext] at hy
  refine h c.step ?_ hy
  rw [Cursor.rest_step, hc, List.tail_cons]

theorem next_nil {f : Option UInt8 → Reader β} (hc : c.rest = []) {cause : Cause}
    (h : f none = Reader.failHere cause) : Ensures (next? >>= f) c Q := by
  have hnext : next? c = .ok (none, c.step) := by rw [next?, hc, List.head?_nil]
  have hfail : (next? >>= f) c = .error ⟨cause, c.step.here⟩ := by
    rw [bind_of_eq hnext, h]
    rfl
  exact of_error hfail

/-- A look ahead takes the white space in front of what is seen. -/
theorem token {f : Option UInt8 → Reader β}
    (h : ∀ c', Gap c.rest c'.rest → Ensures (f c'.rest.head?) c' Q) :
    Ensures (peekToken? >>= f) c Q := by
  intro y c' hy
  have hpeek : peekToken? c = .ok (c.skipBlanks.rest.head?, c.skipBlanks) := rfl
  rw [bind_of_eq hpeek] at hy
  exact h c.skipBlanks (gap_skipBlanks c) hy

end Ensures

/-! ## §2. Numbers. -/

variable {c : Cursor}

theorem digits_run {b : UInt8} (hb : isDigit b = true) (s : List UInt8) :
    Digits (b :: s) (((b :: s).takeWhile isDigit).map digitValue)
      ((b :: s).dropWhile isDigit) := by
  induction s generalizing b with
  | nil =>
    rw [List.takeWhile_cons_of_pos hb, List.dropWhile_cons_of_pos hb]
    exact .last hb
  | cons b' s ih =>
    rw [List.takeWhile_cons_of_pos hb, List.dropWhile_cons_of_pos hb, List.map_cons]
    by_cases hb' : isDigit b' = true
    · exact .more hb (ih hb')
    · rw [List.takeWhile_cons_of_neg hb', List.dropWhile_cons_of_neg hb']
      exact .last hb

theorem ensures_digits_cons {b : UInt8} {s : List UInt8} (hc : c.rest = b :: s)
    (hb : isDigit b = true) : Ensures digits c fun ds t => Digits c.rest ds t := by
  intro ds c' h
  injection h with h
  injection h with hds hc'
  subst hds hc'
  rw [Cursor.rest_steps_takeWhile, hc]
  exact digits_run hb s

/-- The digits that come next, if there is one. -/
theorem ensures_digits : Ensures digits c fun ds t => ds ≠ [] → Digits c.rest ds t := by
  intro ds c' h hds
  cases hc : c.rest with
  | nil =>
    injection h with h
    injection h with hnil
    rw [hc] at hnil
    exact absurd hnil.symm hds
  | cons b s =>
    by_cases hb : isDigit b = true
    · rw [← hc]
      exact ensures_digits_cons hc hb h
    · injection h with h
      injection h with hnil
      rw [hc, List.takeWhile_cons_of_neg hb] at hnil
      exact absurd hnil.symm hds

theorem ensures_wholeDigits (ended : Cause) :
    Ensures (wholeDigits ended) c fun ds t => Whole c.rest ds t := by
  refine Ensures.peek ?_
  cases hc : c.rest with
  | nil => exact Ensures.failHere _
  | cons b s =>
    show Ensures (if b = '0'.toUInt8 then _ else if isDigit b = true then _ else _) c _
    split
    next hb =>
      refine (Ensures.step hc).bind fun _ c₁ hc₁ => Ensures.peek ?_
      have hzero : Whole (b :: s) [0] c₁.rest := by
        rw [hb, hc₁]
        exact .zero
      cases c₁.rest.head? with
      | none => exact Ensures.pure hzero
      | some b' =>
        dsimp only
        split
        · exact Ensures.failAhead _
        · exact Ensures.pure hzero
    next hb =>
      split
      next hd =>
        refine (ensures_digits_cons hc hd).mono fun ds t h => ?_
        rw [hc] at h
        exact .digits hb h
      next hd => exact (Ensures.step hc).bind fun _ c₁ _ => Ensures.failHere _

theorem ensures_fractionDigits (ended : Cause) :
    Ensures (fractionDigits ended) c fun ds t => Fraction c.rest ds t := by
  refine Ensures.peek ?_
  split
  next hdot =>
    obtain ⟨s, hc⟩ : ∃ s, c.rest = '.'.toUInt8 :: s := List.head?_eq_some_iff.1 hdot
    refine (Ensures.step hc).bind fun _ c₁ hc₁ => ensures_digits.bind fun ds c₂ hds => ?_
    split
    next hne =>
      rw [hc, ← hc₁]
      exact Ensures.pure (.point (hds hne))
    next hnil =>
      refine Ensures.peek ?_
      split
      · exact Ensures.failAhead _
      · exact Ensures.failAhead _
  next hdot => exact Ensures.pure .absent

theorem ensures_exponentSign : Ensures exponentSign c fun minus t => Sign c.rest minus t := by
  refine Ensures.peek ?_
  cases hc : c.rest with
  | nil => exact Ensures.pure (hc ▸ .absent)
  | cons b s =>
    show Ensures (if b = '+'.toUInt8 then _ else if b = '-'.toUInt8 then _ else _) c _
    split
    next hb =>
      refine (Ensures.step hc).bind fun _ c₁ hc₁ => Ensures.pure ?_
      rw [hb, hc₁]
      exact .plus
    next =>
      split
      next hb =>
        refine (Ensures.step hc).bind fun _ c₁ hc₁ => Ensures.pure ?_
        rw [hb, hc₁]
        exact .minus
      next => exact Ensures.pure (hc ▸ .absent)

theorem ensures_exponentDigits (ended : Cause) :
    Ensures (exponentDigits ended) c fun e t => Exponent c.rest e t := by
  refine Ensures.peek ?_
  cases hc : c.rest with
  | nil => exact Ensures.pure (hc ▸ .absent)
  | cons b s =>
    show Ensures (if b = 'e'.toUInt8 ∨ b = 'E'.toUInt8 then _ else _) c _
    split
    next hb =>
      refine (Ensures.step hc).bind fun _ c₁ hc₁ => ensures_exponentSign.bind fun minus c₂ hs => ?_
      rw [hc₁] at hs
      refine Ensures.peek ?_
      -- Behind the sign there has to be a digit.
      cases hc₂ : c₂.rest with
      | nil => exact Ensures.failHere _
      | cons b' s' =>
        show Ensures (if isDigit b' = true then _ else _) c₂ _
        split
        next hd => exact ((ensures_digits_cons hc₂ hd).mono fun ds t h => .power hb hs h).bind_pure
        next => exact (Ensures.step hc₂).bind fun _ c₃ _ => Ensures.failHere _
    next => exact Ensures.pure (hc ▸ .absent)

theorem ensures_numeral (ended : Cause) (negative : Bool) :
    Ensures (numeral ended negative) c fun n t => Unsigned negative c.rest n t :=
  (ensures_wholeDigits ended).bind fun _ _ hw =>
    (ensures_fractionDigits ended).bind fun _ _ hf =>
      ((ensures_exponentDigits ended).mono fun _ _ he => .numeral hw hf he).bind_pure

/-- **A number behind its sign** has a numeral, and the numeral that value. -/
theorem ensures_numberRest (negative : Bool) :
    Ensures (numberRest negative) c fun x t =>
      ∃ n, Unsigned negative c.rest n t ∧ n.value = .ok x := by
  refine (ensures_numeral _ negative).bind fun n c₁ hn => ?_
  cases hx : n.value with
  | ok x => exact Ensures.pure ⟨n, hn, hx⟩
  | error unread => exact Ensures.of_error rfl

/-! ## §3. Strings. -/

theorem ensures_fourHex : Ensures fourHex c fun n t => Code c.rest n t := by
  intro n c' h
  rw [fourHex] at h
  split at h
  next => cases h
  next hlen =>
    split at h
    next m hm =>
      injection h with h
      injection h with hn hc'
      subst hn hc'
      refine ⟨c.rest.take 4, ?_, hm, ?_⟩
      · rw [List.length_take]
        omega
      · rw [Cursor.rest_steps, List.take_append_drop]
    next => cases h

theorem ensures_pairByte (expected : Char) :
    Ensures (pairByte expected) c fun _ t => c.rest = expected.toUInt8 :: t := by
  refine Ensures.peek ?_
  cases hc : c.rest with
  | nil => exact Ensures.failHere _
  | cons b s =>
    refine (Ensures.step hc).bind fun _ c₁ hc₁ => ?_
    split
    next hb => exact Ensures.pure (by rw [hb, hc₁])
    next => exact Ensures.failHere _

theorem ensures_codeEscape :
    Ensures codeEscape c fun ch t =>
      Escape ('u'.toUInt8 :: c.rest) (String.utf8EncodeChar ch) t := by
  refine ensures_fourHex.bind fun n c₁ hn => ?_
  split
  next => exact Ensures.failHere _
  next htrail =>
    split
    next hlead =>
      -- The first half of a pair: the second one follows behind a backslash and the letter.
      refine (ensures_pairByte '\\').bind fun _ c₂ hc₂ => ?_
      refine (ensures_pairByte 'u').bind fun _ c₃ hc₃ => ?_
      refine ensures_fourHex.bind fun m c₄ hm => ?_
      rw [hc₂, hc₃] at hn
      split
      next hm' => exact Ensures.pure (.pair hn hlead hm hm')
      next => exact Ensures.failHere _
    next hlead =>
      rw [Bool.not_eq_true] at hlead htrail
      exact Ensures.pure (.code hn hlead htrail)

theorem ensures_escape : Ensures escape c fun bytes t => Escape c.rest bytes t := by
  cases hc : c.rest with
  | nil => exact Ensures.next_nil hc rfl
  | cons b s =>
    refine Ensures.next_cons hc fun c₁ hc₁ => ?_
    show Ensures (if b = 'u'.toUInt8 then _ else _) c₁ _
    split
    next hb =>
      refine Ensures.bind_pure ?_
      rw [hb, ← hc₁]
      exact ensures_codeEscape
    next =>
      cases hshort : shortEscape? b with
      | none => exact Ensures.failHere _
      | some b' => exact Ensures.pure (by rw [hc₁]; exact .short hshort)

theorem ensures_stringPiece :
    Ensures stringPiece c fun piece? t =>
      match piece? with
      | none => c.rest = '"'.toUInt8 :: t
      | some bytes => Piece c.rest bytes t := by
  cases hc : c.rest with
  | nil => exact Ensures.next_nil hc rfl
  | cons b s =>
    refine Ensures.next_cons hc fun c₁ hc₁ => ?_
    show Ensures (if b = '"'.toUInt8 then _ else if b = '\\'.toUInt8 then _ else if b < 0x20 then _
      else _) c₁ _
    split
    next hb => exact Ensures.pure (by rw [hb, hc₁])
    next hq =>
      split
      next hb =>
        refine Ensures.bind_pure ?_
        rw [hb, ← hc₁]
        exact ensures_escape.mono fun _ _ h => .escape h
      next hs =>
        split
        next => exact Ensures.failHere _
        next hctl => exact Ensures.pure (by rw [hc₁]; exact .plain ⟨hq, hs, hctl⟩)

/-- The pieces that have been gathered stand before those that follow. -/
theorem ensures_stringPieces (fuel : Nat) (pieces : List (List UInt8)) :
    Ensures (stringPieces fuel pieces) c fun bytes t =>
      ∃ others, bytes = pieces.reverse.flatten ++ others ∧ Body c.rest others t := by
  induction fuel generalizing c pieces with
  | zero => exact Ensures.failHere _
  | succ fuel ih =>
    refine ensures_stringPiece.bind fun piece? c₁ hpiece => ?_
    cases piece? with
    | none =>
      change c.rest = '"'.toUInt8 :: c₁.rest at hpiece
      rw [hpiece]
      exact Ensures.pure ⟨[], (List.append_nil _).symm, .close⟩
    | some bytes =>
      refine (ih (bytes :: pieces)).mono fun all t h => ?_
      obtain ⟨others, hall, hbody⟩ := h
      refine ⟨bytes ++ others, ?_, .piece hpiece hbody⟩
      rw [hall, List.reverse_cons, List.flatten_append, List.flatten_singleton, List.append_assoc]

/-- **A string** whose opening quote has been read. -/
theorem ensures_stringRest :
    Ensures stringRest c fun text t => Quoted ('"'.toUInt8 :: c.rest) text t := by
  refine Ensures.bytesLeft ((ensures_stringPieces _ _).bind fun bytes c₁ hbytes => ?_)
  obtain ⟨others, hall, hbody⟩ := hbytes
  rw [List.reverse_nil, List.flatten_nil, List.nil_append] at hall
  subst hall
  cases htext : String.fromUTF8? ⟨bytes.toArray⟩ with
  | none => exact Ensures.failHere _
  | some text =>
    refine Ensures.pure (.text ?_)
    rw [bytesOf_of_fromUTF8? htext]
    exact hbody

/-! ## §4. Values with their members as they stand. -/

/-- As a value is read, but with the members of an object as they stand in the text. -/
def plainWith (inner : Option (Reader Json)) : Reader Json := do
  match ← peekToken? with
  | none => failAhead .endInValue
  | some b =>
    if b = '['.toUInt8 then
      match inner with
      | none => failAhead .tooDeep
      | some inner => do
        step
        return .array (← arrayRest inner)
    else if b = '\x7b'.toUInt8 then
      match inner with
      | none => failAhead .tooDeep
      | some inner => do
        step
        return .object (← entriesRest inner)
    else scalar b

/-- A value inside a budget of brackets, with members as they stand. -/
def plain : Nat → Reader Json
  | 0 => plainWith none
  | budget + 1 => plainWith (some (plain budget))

/-- The canonical form as a conversion that never fails. -/
def canonize (v : Json) : Except Fault Json := .ok v.canonical

theorem factors_scalar (b : UInt8) : Factors (scalar b) canonize (scalar b) := by
  intro c v c'
  -- What is read in one piece is canonical already.
  have hcanonical : ∀ {w}, scalar b c = .ok (w, c') → w.canonical = w := fun h =>
    canonical_eq_self (yields_scalar b 0 h).1
  constructor
  · intro h
    exact ⟨v, h, by rw [canonize, hcanonical h]⟩
  · intro h
    obtain ⟨w, hw, hv⟩ := h
    injection hv with hv
    rw [hcanonical hw] at hv
    exact hv ▸ hw

theorem factors_valueWith {inner inner' : Option (Reader Json)}
    (h : Option.Rel (fun r r' => Factors r canonize r') inner inner') :
    Factors (plainWith inner) canonize (valueWith inner') := by
  refine Factors.bind_same fun b? => ?_
  have hfail : ∀ cause, Factors (failAhead cause) canonize (failAhead cause) := fun _ =>
    Factors.of_rejects (Yields.failAhead _) (Yields.failAhead _)
  cases b? with
  | none => exact hfail _
  | some b =>
    dsimp only
    split
    next =>
      cases h with
      | none => exact hfail _
      | some h =>
        -- Elements are made canonical one by one.
        refine Factors.bind_same fun _ => Factors.of_return ?_
        refine (h.arrayRest.map Json.array).congr fun vs => ?_
        have hvs : vs.mapM canonize = .ok (vs.map canonical) := List.mapM_pure
        rw [hvs, canonize, canonical, canonicalItems_eq_map]
        rfl
    next =>
      split
      next =>
        cases h with
        | none => exact hfail _
        | @some r r' h =>
          -- Members are put under their keys in canonical form, the next over the one before.
          let g : Members → String × Json → Except Fault Members :=
            fun s m => .ok (s.insert m.1 m.2.canonical)
          have hmember : ∀ s key, Factors (behindColon r) (fun v => g s (key, v))
              (genericMember r' s key) := fun s key => Factors.bind_same fun _ =>
                h.map (s.insert key)
          refine Factors.bind_same fun _ => Factors.of_return ?_
          refine ((Factors.objectRest hmember []).map Json.object).congr fun ms => ?_
          have hms : ms.foldlM g [] = .ok (collect (canonicalMembers ms)) := by
            rw [canonicalMembers_eq_map, collect, List.foldl_map]
            exact List.foldlM_pure
          rw [hms, canonize, canonical]
          rfl
      next => exact factors_scalar b

/-- **A value is read as a plain one is, and made canonical.** -/
theorem factors_value (budget : Nat) : Factors (plain budget) canonize (value budget) := by
  induction budget with
  | zero => exact factors_valueWith .none
  | succ budget ih => exact factors_valueWith (.some ih)

/-! ## §5. The insides of arrays and objects. -/

/-- The reading returns values that stand behind white space, nested no deeper than the budget. -/
def EnsuresValue (r : Reader Json) (budget : Nat) : Prop :=
  ∀ c, Ensures r c fun v t => (∃ s, Gap c.rest s ∧ Value s v t) ∧ v.nesting ≤ budget

/-- Whether an element follows: behind its lead, or else at the closing bracket. -/
theorem ensures_nextElement (first : Bool) :
    Ensures (nextElement first) c fun more t =>
      if more then Lead first c.rest t else Gap c.rest t ∧ ∃ u, t = ']'.toUInt8 :: u := by
  refine Ensures.token fun c₁ hgap => ?_
  cases hc₁ : c₁.rest with
  | nil => exact Ensures.failAhead _
  | cons b s =>
    show Ensures (if b = ']'.toUInt8 then _ else _) c₁ _
    split
    next hb =>
      refine Ensures.pure ?_
      rw [if_neg Bool.false_ne_true]
      exact ⟨hgap, s, by rw [hc₁, hb]⟩
    next =>
      cases first with
      | true => exact Ensures.pure (.first hgap)
      | false =>
        show Ensures (if b = ','.toUInt8 then _ else _) c₁ _
        split
        next hb =>
          refine (Ensures.step hc₁).bind fun _ c₂ hc₂ => Ensures.token fun c₃ hgap₃ => ?_
          rw [hc₁, hb, ← hc₂] at hgap
          cases c₃.rest.head? with
          | none => exact Ensures.failAhead _
          | some b' =>
            dsimp only
            split
            · exact Ensures.failAhead _
            · exact Ensures.pure (.next hgap hgap₃)
        next => exact Ensures.failAhead _

theorem ensures_items {element : Reader Json} {budget : Nat} (h : EnsuresValue element budget)
    (fuel : Nat) (first : Bool) :
    Ensures (items element fuel first) c fun vs t =>
      (Elements first c.rest vs t ∧ ∃ u, t = ']'.toUInt8 :: u)
        ∧ ∀ v ∈ vs, v.nesting ≤ budget := by
  induction fuel generalizing c first with
  | zero => exact Ensures.failAhead _
  | succ fuel ih =>
    refine (ensures_nextElement first).bind fun more c₁ hmore => ?_
    cases more with
    | false =>
      obtain ⟨hgap, hclose⟩ := hmore
      exact Ensures.pure ⟨⟨.nil hgap, hclose⟩, fun v hv => by cases hv⟩
    | true =>
      change Lead first c.rest c₁.rest at hmore
      -- White space that the element itself passes over belongs to what leads to it.
      refine (h c₁).bind fun v c₂ hv => ?_
      obtain ⟨⟨s, hgap, hvalue⟩, hnesting⟩ := hv
      refine ((ih false).mono fun vs t hvs => ?_).bind_pure
      obtain ⟨⟨hothers, hclose⟩, hall⟩ := hvs
      exact ⟨⟨.cons (hmore.gap hgap) hvalue hothers, hclose⟩,
        List.forall_mem_cons.2 ⟨hnesting, hall⟩⟩

/-- **The inside of an array**, up to the closing bracket and with it. -/
theorem ensures_arrayRest {element : Reader Json} {budget : Nat}
    (h : EnsuresValue element budget) :
    Ensures (arrayRest element) c fun vs t =>
      Elements true c.rest vs (']'.toUInt8 :: t) ∧ ∀ v ∈ vs, v.nesting ≤ budget := by
  refine Ensures.bytesLeft ?_
  rw [elements_nil_eq_items]
  refine (ensures_items h _ _).bind fun vs c₁ hvs => ?_
  obtain ⟨⟨hitems, u, hclose⟩, hall⟩ := hvs
  rw [hclose] at hitems
  exact (Ensures.step hclose).bind fun _ c₂ hc₂ => Ensures.pure ⟨hc₂ ▸ hitems, hall⟩

theorem ensures_nextKey (first : Bool) :
    Ensures (nextKey first) c fun key? t =>
      match key? with
      | none => Gap c.rest t ∧ ∃ u, t = '\x7d'.toUInt8 :: u
      | some key => ∃ s, Lead first c.rest s ∧ Quoted s key t := by
  refine Ensures.token fun c₁ hgap => ?_
  cases hc₁ : c₁.rest with
  | nil => exact Ensures.failAhead _
  | cons b s =>
    show Ensures (if b = '\x7d'.toUInt8 then _ else _) c₁ _
    split
    next hb => exact Ensures.pure ⟨hgap, s, by rw [hc₁, hb]⟩
    next =>
      cases first with
      | true =>
        show Ensures (if b = '"'.toUInt8 then _ else _) c₁ _
        split
        next hb =>
          refine (Ensures.step hc₁).bind fun _ c₂ hc₂ => Ensures.bind_pure ?_
          refine ensures_stringRest.mono fun key t hkey => ⟨_, .first hgap, ?_⟩
          rw [hc₁, hb, ← hc₂]
          exact hkey
        next => exact Ensures.failAhead _
      | false =>
        show Ensures (if b = ','.toUInt8 then _ else _) c₁ _
        split
        next hb =>
          refine (Ensures.step hc₁).bind fun _ c₂ hc₂ => Ensures.token fun c₃ hgap₃ => ?_
          rw [hc₁, hb, ← hc₂] at hgap
          cases hc₃ : c₃.rest with
          | nil => exact Ensures.failAhead _
          | cons b' s' =>
            show Ensures (if b' = '"'.toUInt8 then _ else if b' = '\x7d'.toUInt8 then _ else _) c₃ _
            split
            next hb' =>
              refine (Ensures.step hc₃).bind fun _ c₄ hc₄ => Ensures.bind_pure ?_
              refine ensures_stringRest.mono fun key t hkey => ⟨_, .next hgap hgap₃, ?_⟩
              rw [hc₃, hb', ← hc₄]
              exact hkey
            next =>
              split
              · exact Ensures.failAhead _
              · exact Ensures.failAhead _
        next => exact Ensures.failAhead _

theorem ensures_colon : Ensures colon c fun _ t => Gap c.rest (':'.toUInt8 :: t) := by
  refine Ensures.token fun c₁ hgap => ?_
  cases hc₁ : c₁.rest with
  | nil => exact Ensures.failAhead _
  | cons b s =>
    show Ensures (if b = ':'.toUInt8 then _ else _) c₁ _
    split
    next hb =>
      rw [hc₁, hb] at hgap
      exact (Ensures.step hc₁).mono fun _ t ht => ht ▸ hgap
    next => exact Ensures.failAhead _

theorem ensures_behindColon {r : Reader Json} {budget : Nat} (h : EnsuresValue r budget) :
    Ensures (behindColon r) c fun v t =>
      (∃ s s₁, Gap c.rest (':'.toUInt8 :: s) ∧ Gap s s₁ ∧ Value s₁ v t) ∧ v.nesting ≤ budget := by
  refine ensures_colon.bind fun _ c₁ hcolon => (h c₁).mono fun v t hv => ?_
  obtain ⟨⟨s, hgap, hvalue⟩, hnesting⟩ := hv
  exact ⟨⟨c₁.rest, s, hcolon, hgap, hvalue⟩, hnesting⟩

theorem ensures_entries {r : Reader Json} {budget : Nat} (h : EnsuresValue r budget)
    (fuel : Nat) (first : Bool) :
    Ensures (entries r fuel first) c fun ms t =>
      (Entries first c.rest ms t ∧ ∃ u, t = '\x7d'.toUInt8 :: u)
        ∧ ∀ m ∈ ms, m.2.nesting ≤ budget := by
  induction fuel generalizing c first with
  | zero => exact Ensures.failAhead _
  | succ fuel ih =>
    refine (ensures_nextKey first).bind fun key? c₁ hkey => ?_
    cases key? with
    | none =>
      obtain ⟨hgap, hclose⟩ := hkey
      exact Ensures.pure ⟨⟨.nil hgap, hclose⟩, fun m hm => by cases hm⟩
    | some key =>
      obtain ⟨s, hlead, hquoted⟩ := hkey
      refine (ensures_behindColon h).bind fun v c₂ hv => ?_
      obtain ⟨⟨s₁, s₂, hcolon, hgap, hvalue⟩, hnesting⟩ := hv
      refine ((ih false).mono fun ms t hms => ?_).bind_pure
      obtain ⟨⟨hothers, hclose⟩, hall⟩ := hms
      exact ⟨⟨.cons hlead hquoted hcolon hgap hvalue hothers, hclose⟩,
        List.forall_mem_cons.2 ⟨hnesting, hall⟩⟩

/-- **The inside of an object**, up to the closing brace and with it. -/
theorem ensures_entriesRest {r : Reader Json} {budget : Nat} (h : EnsuresValue r budget) :
    Ensures (entriesRest r) c fun ms t =>
      Entries true c.rest ms ('\x7d'.toUInt8 :: t) ∧ ∀ m ∈ ms, m.2.nesting ≤ budget := by
  refine Ensures.bytesLeft ((ensures_entries h _ _).bind fun ms c₁ hms => ?_)
  obtain ⟨⟨hmembers, u, hclose⟩, hall⟩ := hms
  rw [hclose] at hmembers
  exact (Ensures.step hclose).bind fun _ c₂ hc₂ => Ensures.pure ⟨hc₂ ▸ hmembers, hall⟩

/-! ## §6. Values. -/

theorem ensures_literalRest (letters : List Char) :
    Ensures (literalRest letters) c fun _ t => c.rest = letters.map Char.toUInt8 ++ t := by
  induction letters generalizing c with
  | nil => exact Ensures.pure rfl
  | cons l letters ih =>
    cases hc : c.rest with
    | nil => exact Ensures.next_nil hc rfl
    | cons b s =>
      refine Ensures.next_cons hc fun c₁ hc₁ => ?_
      show Ensures (if b = l.toUInt8 then _ else _) c₁ _
      split
      next hb =>
        refine ih.mono fun _ t h => ?_
        rw [hb, ← hc₁, h, List.map_cons, List.cons_append]
      next => exact Ensures.failHere _

/-- Null, a boolean, a number or a string. -/
theorem ensures_scalar {b : UInt8} {s : List UInt8} (hc : c.rest = b :: s) :
    Ensures (scalar b) c fun v t => Value c.rest v t := by
  -- A literal is known by its first letter, and the others have to follow.
  have hliteral : ∀ {letters : List Char} {v : Json},
      (∀ t, Value (b :: (letters.map Char.toUInt8 ++ t)) v t) →
      Ensures (do step; literalRest letters; return v) c fun v t => Value c.rest v t := by
    intro letters v hv
    refine (Ensures.step hc).bind fun _ c₁ hc₁ => ?_
    refine (ensures_literalRest letters).bind fun _ c₂ hc₂ => Ensures.pure ?_
    rw [hc, ← hc₁, hc₂]
    exact hv _
  unfold scalar
  split
  next hb => exact hliteral fun t => hb ▸ .null
  next =>
    split
    next hb => exact hliteral fun t => hb ▸ .yes
    next =>
      split
      next hb => exact hliteral fun t => hb ▸ .no
      next =>
        split
        next hb =>
          refine (Ensures.step hc).bind fun _ c₁ hc₁ => Ensures.bind_pure ?_
          refine (ensures_numberRest true).mono fun x t h => ?_
          obtain ⟨n, hn, hx⟩ := h
          rw [hc, hb, ← hc₁]
          exact .number (.minus hn hx)
        next =>
          split
          next =>
            refine Ensures.bind_pure ((ensures_numberRest false).mono fun x t h => ?_)
            obtain ⟨n, hn, hx⟩ := h
            exact .number (.plain hn hx)
          next =>
            split
            next hb =>
              refine (Ensures.step hc).bind fun _ c₁ hc₁ => Ensures.bind_pure ?_
              refine ensures_stringRest.mono fun text t h => ?_
              rw [hc, hb, ← hc₁]
              exact .string h
            next => exact Ensures.failAhead _

theorem ensures_plainWith {inner : Option (Reader Json)} {budget : Nat}
    (h : ∀ r ∈ inner, ∃ b, budget = b + 1 ∧ EnsuresValue r b) :
    EnsuresValue (plainWith inner) budget := by
  intro c
  refine Ensures.token fun c₁ hgap => ?_
  cases hc₁ : c₁.rest with
  | nil => exact Ensures.failAhead _
  | cons b s =>
    show Ensures (if b = '['.toUInt8 then _ else if b = '\x7b'.toUInt8 then _ else _) c₁ _
    split
    next hb =>
      cases inner with
      | none => exact Ensures.failAhead _
      | some r =>
        -- Behind the bracket there is one bracket less to open.
        obtain ⟨budget, rfl, hr⟩ := h r rfl
        refine (Ensures.step hc₁).bind fun _ c₂ hc₂ => Ensures.bind_pure ?_
        refine (ensures_arrayRest hr).mono fun vs t hvs => ?_
        refine ⟨⟨c₁.rest, hgap, ?_⟩, nesting_array_le_iff.2 hvs.2⟩
        rw [hc₁, hb, ← hc₂]
        exact .array hvs.1
    next =>
      split
      next hb =>
        cases inner with
        | none => exact Ensures.failAhead _
        | some r =>
          obtain ⟨budget, rfl, hr⟩ := h r rfl
          refine (Ensures.step hc₁).bind fun _ c₂ hc₂ => Ensures.bind_pure ?_
          refine (ensures_entriesRest hr).mono fun ms t hms => ?_
          refine ⟨⟨c₁.rest, hgap, ?_⟩, nesting_object_le_iff.2 hms.2⟩
          rw [hc₁, hb, ← hc₂]
          exact .object hms.1
      next =>
        intro v c₂ hv
        refine ⟨⟨c₁.rest, hgap, ensures_scalar hc₁ hv⟩, (yields_scalar b budget hv).2⟩

/-- **What is read as a value is one**, behind white space and nested no deeper than the budget of
brackets. -/
theorem ensures_plain (budget : Nat) : EnsuresValue (plain budget) budget := by
  induction budget with
  | zero => exact ensures_plainWith fun r hr => by cases hr
  | succ budget ih =>
    refine ensures_plainWith fun r hr => ⟨budget, rfl, ?_⟩
    injection hr with hr
    exact hr ▸ ih

end SurfaceStudio.Json
