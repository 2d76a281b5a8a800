import SurfaceStudio.Proofs.Ron.Reads

/-!
# Reading fields

A record is read field by field.  What the fields up to a place have left is all that the reading
remembers of them.

  • `Entry.reads` — a field is read: its name, a colon, and its value,
  • `Listed.reads` — **things between commas are read one after the other**,
  • `Listed.reads_separated` — and with them the closing parenthesis.
-/

namespace SurfaceStudio.Ron

open Reader Grammar

variable {α : Type}

/-! ## §1. A field. -/

theorem solid_paren (t : List Char) : Solid (')' :: t) := solid_cons rfl (by decide)

theorem ends_paren (t : List Char) : Ends (')' :: t) := ends_mark (by decide) t

theorem solid_comma (t : List Char) : Solid (',' :: t) := solid_cons rfl (by decide)

theorem ends_comma (t : List Char) : Ends (',' :: t) := ends_mark (by decide) t

theorem Grammar.Entry.front {key : String} {spelled : List Char → List Char → Prop}
    {s t : List Char} (h : Entry key spelled s t) (hkey : isWord key.toList = true) :
    Solid s ∧ s.head? ≠ some ')' := by
  cases h
  exact isWord_front hkey _

/-- **A field is read**: its name, what stands around the colon, and its value. -/
theorem Grammar.Entry.reads {σ : Type} {key : String} {spelled : List Char → List Char → Prop}
    {value : σ → String → Reader σ} {draft draft' : σ} {s t : List Char}
    (h : Entry key spelled s t) (hkey : isWord key.toList = true)
    (hvalue : ∀ u, spelled u t → Solid u ∧ value draft key u = .ok (draft', t)) :
    field value draft s = .ok (draft', t) := by
  cases h with
  | @spelled s s₁ s₂ _ hcolon hgap h =>
    obtain ⟨hsolid, hread⟩ := hvalue _ h
    have hname : name (key.toList ++ s) = .ok (key, s) := by
      rw [name_word hkey (hcolon.ends (ends_mark (by decide) _)), String.ofList_toList]
    rw [field, bind_of_eq hname,
      bind_of_eq (hcolon.skipBlanks (solid_cons rfl (by decide))),
      bind_of_eq (expect_cons ':' s₁), bind_of_eq (hgap.skipBlanks hsolid)]
    exact hread

/-! ## §2. Lists. -/

theorem comma_comma {s s₁ t : List Char} (h : Gap s (',' :: s₁)) (hgap : Gap s₁ t)
    (ht : Solid t) : comma s = .ok (true, t) := by
  rw [comma, bind_of_eq (h.skipBlanks (solid_comma _))]
  refine (bind_of_eq (accept_append [','] s₁)).trans ?_
  exact bind_of_eq (hgap.skipBlanks ht)

theorem comma_paren {s t : List Char} (h : Gap s (')' :: t)) : comma s = .ok (false, ')' :: t) := by
  rw [comma, bind_of_eq (h.skipBlanks (solid_paren t))]
  exact bind_of_eq (accept_of_ne (by decide))

section Lists

variable {σ : Type} {item : List Char → α → List Char → Prop} {read : σ → Reader σ}

theorem itemsWithin_paren (fuel : Nat) (mayGoOn : Bool) (found : σ) (t : List Char) :
    itemsWithin ')' read (fuel + 1) mayGoOn found (')' :: t) = .ok (found, ')' :: t) := by
  rw [itemsWithin, bind_of_eq (Gap.none.skipBlanks (solid_paren t))]
  rfl

/-- In front of a thing, one step reads it. -/
theorem itemsWithin_item {s : List Char} (hs : Solid s) (hparen : s.head? ≠ some ')') (fuel : Nat)
    (found : σ) :
    itemsWithin ')' read (fuel + 1) true found s = (do
      let found ← read found
      itemsWithin ')' read fuel (← comma) found : Reader σ) s := by
  rw [itemsWithin, bind_of_eq (Gap.none.skipBlanks hs),
    bind_of_eq (rfl : peek? s = .ok (s.head?, s)), if_neg hparen, if_pos rfl]

/-- Blanks and comments at the front make no difference. -/
theorem itemsWithin_gap {s t : List Char} (h : Gap s t) (ht : Solid t) (fuel : Nat)
    (mayGoOn : Bool) (found : σ) :
    itemsWithin ')' read fuel mayGoOn found s = itemsWithin ')' read fuel mayGoOn found t := by
  cases fuel with
  | zero => rfl
  | succ fuel =>
    rw [itemsWithin, bind_of_eq (h.skipBlanks ht), bind_of_eq (Gap.none.skipBlanks ht)]

/-- The first character of a list is that of a thing or the closing parenthesis. -/
theorem Grammar.Listed.solid {s t : List Char} {as : List α} (h : Listed item s as t)
    (hsolid : ∀ u a v, item u a v → Solid u) : Solid s := by
  cases h with
  | close => exact solid_paren t
  | last h hclose => exact hsolid _ _ _ h
  | comma h hcomma hgap hs => exact hsolid _ _ _ h

/-- **Things between commas are read one after the other.**  What has been read is known by the
things alone, `state` of them; none may come twice. -/
theorem Grammar.Listed.reads {s t : List Char} {as : List α} (h : Listed item s as t)
    (state : List α → σ)
    (hfront : ∀ u a v, item u a v → Solid u ∧ u.head? ≠ some ')')
    (hread : ∀ done u a v, item u a v → Ends v → a ∉ done →
      read (state done) u = .ok (state (done ++ [a]), v))
    (fuel : Nat) (done : List α) (hnodup : (done ++ as).Nodup) (hfuel : as.length < fuel) :
    itemsWithin ')' read fuel true (state done) s = .ok (state (done ++ as), ')' :: t) := by
  induction h generalizing fuel done with
  | close =>
    obtain ⟨fuel, rfl⟩ := Nat.exists_eq_succ_of_ne_zero (Nat.ne_of_gt (Nat.zero_lt_of_lt hfuel))
    rw [itemsWithin_paren, List.append_nil]
  | @last a s s₁ t h hclose =>
    obtain ⟨fuel, rfl⟩ : ∃ k, fuel = k + 2 := Nat.exists_eq_add_of_le' hfuel
    obtain ⟨hsolid, hparen⟩ := hfront _ _ _ h
    have ha : a ∉ done := fun hmem => (List.nodup_append.1 hnodup).2.2 a hmem a (by simp) rfl
    rw [itemsWithin_item hsolid hparen,
      bind_of_eq (hread done _ _ _ h (hclose.ends (ends_paren t)) ha),
      bind_of_eq (comma_paren hclose), itemsWithin_paren]
  | @comma a as s s₁ s₂ s₃ t h hcomma hgap hs ih =>
    obtain ⟨fuel, rfl⟩ : ∃ k, fuel = k + 1 := Nat.exists_eq_add_of_le' (Nat.zero_lt_of_lt hfuel)
    obtain ⟨hsolid, hparen⟩ := hfront _ _ _ h
    have ha : a ∉ done := fun hmem => (List.nodup_append.1 hnodup).2.2 a hmem a (by simp) rfl
    have hsplit : done ++ a :: as = done ++ [a] ++ as := by simp
    rw [hsplit] at hnodup ⊢
    rw [itemsWithin_item hsolid hparen,
      bind_of_eq (hread done _ _ _ h (hcomma.ends (ends_comma s₂)) ha),
      bind_of_eq (comma_comma hcomma hgap (hs.solid fun u a v h => (hfront u a v h).1))]
    exact ih fuel (done ++ [a]) hnodup (Nat.lt_of_succ_lt_succ hfuel)

/-- **A list is read up to its closing parenthesis, and with it.** -/
theorem Grammar.Listed.reads_separated {s v t : List Char} {as : List α}
    (h : Listed item v as t) (state : List α → σ) (hgap : Gap s v)
    (hfront : ∀ u a v, item u a v → Solid u ∧ u.head? ≠ some ')')
    (hlength : ∀ u a v, item u a v → v.length ≤ u.length)
    (hread : ∀ done u a v, item u a v → Ends v → a ∉ done →
      read (state done) u = .ok (state (done ++ [a]), v)) (hnodup : as.Nodup) :
    Reader.separated ')' read (state []) s = .ok (state as, t) := by
  have hfuel : as.length < s.length + 1 := by
    have := h.count_le hlength
    have := hgap.length_le
    omega
  have hitems : items ')' read (state []) s = .ok (state as, ')' :: t) := by
    rw [items, bind_of_eq (rfl : rest s = .ok (s, s)),
      itemsWithin_gap hgap (h.solid fun u a v h => (hfront u a v h).1)]
    exact h.reads state hfront hread _ [] hnodup hfuel
  rw [Reader.separated, bind_of_eq hitems, bind_of_eq (expect_cons ')' t)]
  rfl

end Lists

end SurfaceStudio.Ron
