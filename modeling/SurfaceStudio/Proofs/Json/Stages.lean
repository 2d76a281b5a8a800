import SurfaceStudio.Proofs.Json.Yields

/-!
# Reading in one stage and in two

A reading may do in one pass what could be done in two: read something plainer first, and convert
it when the whole of it is known.  The two differ in the faults they report, but not in what they
accept, nor in what they return.

  • `Factors` — a reading returns what a conversion makes of the results of another one,
  • `items`, `entries` — elements and members as they stand in the text, repeated keys included,
  • `Factors.arrayRest`, `Factors.objectRest` — **the loops convert one by one what the plain loops
    gather**,
  • `objectRest_genericMember` — a value has the members as they stand, collected,
  • `Factors.readWith_eq_ok_iff` — whole texts.
-/

namespace SurfaceStudio.Json

open Reader

variable {α β γ δ σ ε : Type}

/-! ## §1. Conversions of what is read. -/

/-- **The reading `r'` returns what `f` makes of what `r` returns**, from the same bytes, and
nothing else. -/
def Factors (r : Reader α) (f : α → Except ε β) (r' : Reader β) : Prop :=
  ∀ c b c', r' c = .ok (b, c') ↔ ∃ a, r c = .ok (a, c') ∧ f a = .ok b

/-- The conversion makes nothing of `a`. -/
def Rejects (f : α → Except ε β) (a : α) : Prop := ∀ b, f a ≠ .ok b

namespace Factors

variable {r : Reader α} {f : α → Except ε β} {r' : Reader β}

theorem congr {g : α → Except ε β} (h : Factors r f r') (hfg : ∀ a, f a = g a) :
    Factors r g r' := by
  rwa [← funext hfg]

/-- A reading that returns nothing, and another one whose results are all rejected. -/
theorem of_rejects (h : Yields r (Rejects f)) (h' : Yields r' fun _ => False) :
    Factors r f r' := by
  intro c b c'
  constructor
  · intro hb
    exact (h' hb).elim
  · rintro ⟨a, ha, hb⟩
    exact absurd hb (h ha b)

theorem pure {a : α} {b : β} (h : f a = .ok b) : Factors (Pure.pure a) f (Pure.pure b) := by
  intro c b' c'
  rw [pure_eq_ok_iff]
  constructor
  · rintro ⟨rfl, rfl⟩
    exact ⟨a, rfl, h⟩
  · rintro ⟨a', ha, hb⟩
    obtain ⟨rfl, rfl⟩ := pure_eq_ok_iff.1 ha
    rw [h] at hb
    injection hb with hb
    exact ⟨hb, rfl⟩

/-- The conversion may be taken back to what the results are made from. -/
theorem of_return {g : γ → α} {r : Reader γ} (h : Factors r (fun x => f (g x)) r') :
    Factors (do return g (← r)) f r' := by
  intro c b c'
  rw [h c b c']
  constructor
  · rintro ⟨x, hx, hb⟩
    exact ⟨g x, return_eq_ok_iff.2 ⟨x, hx, rfl⟩, hb⟩
  · rintro ⟨a, ha, hb⟩
    obtain ⟨x, hx, rfl⟩ := return_eq_ok_iff.1 ha
    exact ⟨x, hx, hb⟩

/-- **One conversion after the other.**  The second one moves the cursor no further. -/
theorem andThen {k : β → Reader γ} {g : β → Except ε γ} (h : Factors r f r')
    (hk : ∀ b, Factors (Pure.pure b) g (k b)) : Factors r (fun a => f a >>= g) (r' >>= k) := by
  intro c x c'
  rw [bind_eq_ok_iff]
  constructor
  · rintro ⟨b, c₁, hb, hx⟩
    obtain ⟨a, ha, hf⟩ := (h c b c₁).1 hb
    obtain ⟨b', hb', hg⟩ := (hk b c₁ x c').1 hx
    obtain ⟨rfl, rfl⟩ := pure_eq_ok_iff.1 hb'
    exact ⟨a, ha, (congrArg (· >>= g) hf).trans hg⟩
  · rintro ⟨a, ha, hx⟩
    obtain ⟨b, hf, hg⟩ := exists_of_except_bind hx
    exact ⟨b, c', (h c b c').2 ⟨a, ha, hf⟩, (hk b c' x c').2 ⟨b, rfl, hg⟩⟩

theorem map (h : Factors r f r') (g : β → γ) :
    Factors r (fun a => (f a).map g) (do return g (← r')) := by
  have hg : ∀ b, Factors (Pure.pure b) (fun b => (Except.ok (g b) : Except ε γ))
      (Pure.pure (g b)) := fun b => Factors.pure rfl
  refine (h.andThen hg).congr fun a => ?_
  cases f a <;> rfl

/-- **Readings in sequence**, where the first results convert to one another.  Behind a result that
is rejected every result of the whole is rejected. -/
theorem bind {F : γ → Except ε δ} {k : α → Reader γ} {k' : β → Reader δ} (h : Factors r f r')
    (hok : ∀ a b, f a = .ok b → Factors (k a) F (k' b))
    (hrejects : ∀ a, Rejects f a → Yields (k a) (Rejects F)) :
    Factors (r >>= k) F (r' >>= k') := by
  intro c y c'
  constructor
  · intro hy
    obtain ⟨b, c₁, hb, hy⟩ := bind_eq_ok_iff.1 hy
    obtain ⟨a, ha, hf⟩ := (h c b c₁).1 hb
    obtain ⟨x, hx, hF⟩ := (hok a b hf c₁ y c').1 hy
    exact ⟨x, bind_eq_ok_iff.2 ⟨a, c₁, ha, hx⟩, hF⟩
  · rintro ⟨x, hx, hF⟩
    obtain ⟨a, c₁, ha, hx⟩ := bind_eq_ok_iff.1 hx
    cases hf : f a with
    | error e =>
      have hrej : Rejects f a := by
        intro b hb
        rw [hf] at hb
        cases hb
      exact absurd hF (hrejects a hrej hx y)
    | ok b =>
      have hb : r' c = .ok (b, c₁) := (h c b c₁).2 ⟨a, ha, hf⟩
      exact bind_eq_ok_iff.2 ⟨b, c₁, hb, (hok a b hf c₁ y c').2 ⟨x, hx, hF⟩⟩

theorem refl (r : Reader α) : Factors r (Except.ok : α → Except ε α) r := by
  intro c b c'
  constructor
  · intro hb
    exact ⟨b, hb, rfl⟩
  · rintro ⟨a, ha, hb⟩
    injection hb with hb
    exact hb ▸ ha

/-- Both readings begin in the same way. -/
theorem bind_same {s : Reader γ} {k : γ → Reader α} {k' : γ → Reader β}
    (h : ∀ x, Factors (k x) f (k' x)) : Factors (s >>= k) f (s >>= k') := by
  refine (Factors.refl (ε := ε) s).bind (fun x y hxy => ?_) fun x hx => absurd rfl (hx x)
  injection hxy with hxy
  exact hxy ▸ h x

/-- Both readings end in the same way. -/
theorem ending (h : Factors r f r') (s : Reader Unit) :
    Factors (do let a ← r; s; return a) f (do let b ← r'; s; return b) :=
  h.bind (fun _ _ hab => Factors.bind_same fun _ => Factors.pure hab) fun _ ha =>
    Yields.bind_any fun _ => Yields.pure ha

end Factors

/-! ## §2. Elements. -/

/-- The elements up to the closing bracket, the first one first. -/
def items (element : Reader α) : Nat → Bool → Reader (List α)
  | 0, _ => failAhead .endInList
  | fuel + 1, first => do
    if ← nextElement first then do
      let a ← element
      let as ← items element fuel false
      return a :: as
    else return []

/-- What has been gathered stands before what is still to be read. -/
theorem elements_eq_items (element : Reader α) (fuel : Nat) (first : Bool) (found : List α) :
    elements element fuel first found
      = do return found.reverse ++ (← items element fuel first) := by
  induction fuel generalizing first found with
  | zero => rfl
  | succ fuel ih =>
    rw [elements, items, bind_assoc]
    refine bind_congr fun more => ?_
    cases more with
    | true =>
      show (element >>= fun a => elements element fuel false (a :: found))
        = (element >>= fun a => items element fuel false >>= fun as => Pure.pure (a :: as))
          >>= fun as => Pure.pure (found.reverse ++ as)
      rw [bind_assoc]
      refine bind_congr fun a => ?_
      rw [ih, bind_assoc]
      simp only [List.reverse_cons, List.append_assoc, List.singleton_append, pure_bind]
    | false =>
      show Pure.pure found.reverse = (Pure.pure (found.reverse ++ []) : Reader (List α))
      rw [List.append_nil]

theorem elements_nil_eq_items (element : Reader α) (fuel : Nat) (first : Bool) :
    elements element fuel first [] = items element fuel first := by
  rw [elements_eq_items]
  exact bind_pure _

variable {r : Reader α} {f : α → Except ε β} {r' : Reader β}

theorem Rejects.cons_mapM {a : α} (h : Rejects f a) (as : List α) :
    Rejects (fun as => as.mapM f) (a :: as) := by
  intro bs hbs
  change (a :: as).mapM f = _ at hbs
  rw [List.mapM_cons] at hbs
  obtain ⟨b, hb, -⟩ := exists_of_except_bind hbs
  exact h b hb

theorem Factors.items (h : Factors r f r') (fuel : Nat) (first : Bool) :
    Factors (items r fuel first) (fun as => as.mapM f) (Json.items r' fuel first) := by
  induction fuel generalizing first with
  | zero => exact of_rejects (Yields.failAhead _) (Yields.failAhead _)
  | succ fuel ih =>
    refine Factors.bind_same fun more => ?_
    cases more with
    | false => exact Factors.pure rfl
    | true =>
      refine h.bind (fun a b hab => Factors.of_return ?_) fun a ha => ?_
      · refine ((ih false).map (b :: ·)).congr fun as => ?_
        rw [List.mapM_cons, hab]
        cases as.mapM f <;> rfl
      · exact Yields.bind_any fun as => Yields.pure (ha.cons_mapM as)

/-- **An array of converted elements** is read as the array of plain ones is, and converted. -/
theorem Factors.arrayRest (h : Factors r f r') :
    Factors (arrayRest r) (fun as => as.mapM f) (Json.arrayRest r') := by
  refine Factors.bind_same fun fuel => ?_
  rw [elements_nil_eq_items, elements_nil_eq_items]
  exact (h.items (fuel + 1) true).ending step

/-! ## §3. Members. -/

/-- What stands behind a key. -/
def behindColon (r : Reader α) : Reader α := do
  colon
  r

/-- The members up to the closing brace as they stand, the first one first. -/
def entries (value : Reader Json) : Nat → Bool → Reader Members
  | 0, _ => failAhead .endInObject
  | fuel + 1, first => do
    match ← nextKey first with
    | none => return []
    | some key => do
      let v ← behindColon value
      let ms ← entries value fuel false
      return (key, v) :: ms

/-- Everything between the braces of an object, and the closing one. -/
def entriesRest (value : Reader Json) : Reader Members := do
  let ms ← entries value ((← bytesLeft) + 1) true
  step
  return ms

/-- The members of a value are put under their keys while they are read. -/
theorem members_genericMember (value : Reader Json) (fuel : Nat) (first : Bool) (read : Members) :
    members (genericMember value) fuel first read = do
      let ms ← entries value fuel first
      return ms.foldl (fun found m => found.insert m.1 m.2) read := by
  induction fuel generalizing first read with
  | zero => rfl
  | succ fuel ih =>
    rw [members, entries, bind_assoc]
    refine bind_congr fun key? => ?_
    cases key? with
    | none => rfl
    | some key =>
      simp only [genericMember, behindColon, bind_assoc, pure_bind, ih, List.foldl_cons]

/-- **A value has the members as they stand, collected.** -/
theorem objectRest_genericMember (value : Reader Json) :
    objectRest (genericMember value) [] = do return collect (← entriesRest value) := by
  simp only [objectRest, entriesRest, members_genericMember, bind_assoc, pure_bind]
  rfl

variable {value : Reader Json} {member : σ → String → Reader σ}
  {g : σ → String × Json → Except ε σ}

theorem Rejects.cons_foldlM {s : σ} {key : String} {v : Json}
    (h : Rejects (fun v => g s (key, v)) v) (ms : Members) :
    Rejects (fun ms : Members => ms.foldlM g s) ((key, v) :: ms) := by
  intro s' hs'
  change ((key, v) :: ms).foldlM g s = _ at hs'
  rw [List.foldlM_cons] at hs'
  obtain ⟨s₁, hs₁, -⟩ := exists_of_except_bind hs'
  exact h s₁ hs₁

theorem Factors.members
    (h : ∀ s key, Factors (behindColon value) (fun v => g s (key, v)) (member s key)) (fuel : Nat)
    (first : Bool) (s : σ) :
    Factors (entries value fuel first) (fun ms => ms.foldlM g s)
      (members member fuel first s) := by
  -- What has been read so far changes with each member, so the statement is made of any `s`.
  induction fuel generalizing first s with
  | zero => exact of_rejects (Yields.failAhead _) (Yields.failAhead _)
  | succ fuel ih =>
    refine Factors.bind_same fun key? => ?_
    cases key? with
    | none => exact Factors.pure rfl
    | some key =>
      refine (h s key).bind (fun v s₁ hs₁ => Factors.of_return ?_) fun v hv => ?_
      · refine (ih false s₁).congr fun ms => ?_
        rw [List.foldlM_cons, hs₁]
        rfl
      · exact Yields.bind_any fun ms => Yields.pure (hv.cons_foldlM ms)

/-- **An object whose members are put together one by one** is read as the members as they stand
are, which are put together then. -/
theorem Factors.objectRest
    (h : ∀ s key, Factors (behindColon value) (fun v => g s (key, v)) (member s key)) (s : σ) :
    Factors (entriesRest value) (fun ms => ms.foldlM g s) (objectRest member s) :=
  Factors.bind_same fun fuel => (Factors.members h (fuel + 1) true s).ending step

/-! ## §4. Whole texts. -/

theorem readWith_eq_ok_iff {r : Reader α} {bytes : List UInt8} {a : α} :
    readWith r bytes = .ok a
      ↔ ∃ c c', r (.start bytes) = .ok (a, c) ∧ atEnd c = .ok ((), c') := by
  rw [readWith]
  cases hr : r (.start bytes) with
  | error fault => simp [bind, Except.bind]
  | ok p =>
    obtain ⟨a', c⟩ := p
    show (atEnd c >>= fun _ => Pure.pure a') = .ok a ↔ _
    cases hend : atEnd c with
    | error fault =>
      constructor
      · intro h
        cases h
      · rintro ⟨_, c', ⟨⟩, h⟩
        rw [hend] at h
        cases h
    | ok q =>
      constructor
      · intro h
        injection h with h
        exact ⟨c, q.2, by rw [h], hend⟩
      · rintro ⟨_, c', ⟨⟩, -⟩
        rfl

/-- **A text is read in one stage as it is in two.** -/
theorem Factors.readWith_eq_ok_iff (h : Factors r f r') {bytes : List UInt8} {b : β} :
    readWith r' bytes = .ok b ↔ ∃ a, readWith r bytes = .ok a ∧ f a = .ok b := by
  simp only [Json.readWith_eq_ok_iff]
  constructor
  · rintro ⟨c, c', hb, hend⟩
    obtain ⟨a, ha, hf⟩ := (h _ b c).1 hb
    exact ⟨a, ⟨c, c', ha, hend⟩, hf⟩
  · rintro ⟨a, ⟨c, c', ha, hend⟩, hf⟩
    exact ⟨c, c', (h _ b c).2 ⟨a, ha, hf⟩, hend⟩

end SurfaceStudio.Json
