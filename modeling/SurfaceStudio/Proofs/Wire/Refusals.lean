import SurfaceStudio.Proofs.Wire.RoundTrip

/-!
# Texts that are not taken

A reading that fails on a part of a text fails on the whole of it.  So a record whose member is not
what its field asks for is not decoded, however many members before it were taken and whatever
stands behind it.

  • `Refuses` — a reading fails on these bytes,
  • `Refuses.bind`, `Reads.bind_refuses` — **the whole fails with its first part, or with its
    second**,
  • `refuses_objectRest` — an object with one member that is refused,
  • `Record.refuses` — **a record with a member that its field does not take**.
-/

namespace SurfaceStudio.Json

open Reader

variable {α β σ : Type}

/-! ## §1. Readings that fail. -/

/-- **The reading fails on the text `w`**, whatever line and column it begins at. -/
def Refuses (r : Reader α) (w : List UInt8) : Prop := ∀ c, c.rest = w → ∀ p, r c ≠ .ok p

theorem refuses_failAhead (cause : Cause) (w : List UInt8) :
    Refuses (failAhead cause : Reader α) w := fun _ _ _ h => nomatch h

/-- The first part fails. -/
theorem Refuses.bind {r : Reader α} {f : α → Reader β} {w : List UInt8} (h : Refuses r w) :
    Refuses (r >>= f) w := by
  rintro c hc ⟨b, c'⟩ hb
  obtain ⟨a, c₁, ha, -⟩ := exists_of_bind_eq_ok hb
  exact h c hc _ ha

/-- The first part takes its bytes, and the second fails on what is left. -/
theorem Reads.bind_refuses {r : Reader α} {f : α → Reader β} {w tail : List UInt8} {a : α}
    (h : Reads r w tail a) (h' : Refuses (f a) tail) : Refuses (r >>= f) (w ++ tail) := by
  intro c hc p hp
  rw [bind_of_eq (h.apply hc)] at hp
  refine h' _ ?_ p hp
  rw [Cursor.rest_steps, hc, List.drop_left]

/-- A first part that takes nothing. -/
theorem Reads.bind_nil_refuses {r : Reader α} {f : α → Reader β} {tail : List UInt8} {a : α}
    (h : Reads r [] tail a) (h' : Refuses (f a) tail) : Refuses (r >>= f) tail :=
  h.bind_refuses h'

/-- A whole text that is refused has a fault. -/
theorem exists_fault_of_refuses {r : Reader α} {w : List UInt8} (h : Refuses r w) :
    ∃ fault, readWith r w = .error fault := by
  cases hread : readWith r w with
  | error fault => exact ⟨fault, rfl⟩
  | ok a =>
    obtain ⟨c, hc, -⟩ := exists_of_readWith_eq_ok hread
    exact absurd hc (h _ rfl _)

/-! ## §2. Members. -/

variable {member : σ → String → Reader σ} {before after : σ} {first : Bool} {fuel : Nat}

theorem refuses_members_here {key : String} {sep w : List UInt8}
    (hsep : Reads (nextKey first) sep w (some key)) (hw : Refuses (member before key) w) :
    Refuses (members member (fuel + 1) first before) (sep ++ w) :=
  hsep.bind_refuses hw.bind

theorem refuses_members_later {key : String} {sep w u : List UInt8}
    (hsep : Reads (nextKey first) sep (w ++ u) (some key))
    (hw : Reads (member before key) w u after)
    (hu : Refuses (members member fuel false after) u) :
    Refuses (members member (fuel + 1) first before) (sep ++ (w ++ u)) :=
  hsep.bind_refuses (hw.bind_refuses hu)

variable {layout : Layout} {depth : Nat} {draft : σ} {front : Members} {key : String} {v : Json}

/-- In the layout, at the depth, the value is written so that no member of the key can be read. -/
def RefusesMember (read : Reader σ) (layout : Layout) (depth : Nat) (v : Json) : Prop :=
  ∀ tail, Ends tail →
    Refuses read (bytesOf layout.colon ++ bytesOf (writeAt layout depth v) ++ tail)

/-- A member in its text, with what stands before it and what stands behind. -/
theorem bytesOf_writeMembers_cons_append (k : String) (v : Json) (rest : Members)
    (gap tail : List UInt8) : bytesOf (writeMembers layout depth ((k, v) :: rest)) ++ gap ++ tail
      = ','.toUInt8 :: (bytesOf (layout.gap depth) ++ bytesOf (stringText k))
        ++ (bytesOf layout.colon ++ bytesOf (writeAt layout depth v)
          ++ (bytesOf (writeMembers layout depth rest) ++ gap ++ tail)) := by
  rw [bytesOf_writeMembers_cons]
  simp only [List.append_assoc, List.cons_append]

/-- Members behind the first: some are taken, and then there is one that is refused. -/
theorem refuses_members (hl : layout.Plain)
    (h : ReadMembers member layout depth before front draft)
    (hv : RefusesMember (member draft key) layout depth v) (rest : Members) {gap : List UInt8}
    (hg : Blank gap) (tail : List UInt8) (fuel : Nat) :
    Refuses (members member fuel false before)
      (bytesOf (writeMembers layout depth (front ++ (key, v) :: rest))
        ++ gap ++ '\x7d'.toUInt8 :: tail) := by
  induction h generalizing fuel with
  | nil before =>
    cases fuel with
    | zero => exact refuses_failAhead _ _
    | succ fuel =>
      have hends := ends_writeMembers layout depth rest hg tail
      rw [List.nil_append, bytesOf_writeMembers_cons_append]
      exact refuses_members_here (reads_nextKey_more (hl.gap depth) key _) (hv _ hends)
  | @cons _ _ _ k w others hw _ ih =>
    cases fuel with
    | zero => exact refuses_failAhead _ _
    | succ fuel =>
      have hends := ends_writeMembers layout depth (others ++ (key, v) :: rest) hg tail
      rw [List.cons_append, bytesOf_writeMembers_cons_append]
      exact refuses_members_later (reads_nextKey_more (hl.gap depth) k _) (hw _ hends)
        (ih hv fuel)

/-- The first member of an object in its text, with what stands before it and what stands behind. -/
theorem bytesOf_object_cons_append (k : String) (v : Json) (rest : Members) (tail : List UInt8) :
    bytesOf (writeAt layout depth (.object ((k, v) :: rest))) ++ tail
      = '\x7b'.toUInt8 :: (bytesOf (layout.gap (depth + 1)) ++ bytesOf (stringText k)
        ++ (bytesOf layout.colon ++ bytesOf (writeAt layout (depth + 1) v)
          ++ (bytesOf (writeMembers layout (depth + 1) rest) ++ bytesOf (layout.gap depth)
            ++ '\x7d'.toUInt8 :: tail))) := by
  rw [bytesOf_object_cons]
  simp only [List.append_assoc, List.cons_append, List.nil_append]

/-- **An object with a member that is refused** is refused, behind its brace. -/
theorem refuses_objectRest (hl : layout.Plain)
    (h : ReadMembers member layout (depth + 1) before front draft)
    (hv : RefusesMember (member draft key) layout (depth + 1) v) (rest : Members)
    (tail : List UInt8) :
    ∃ w, bytesOf (writeAt layout depth (.object (front ++ (key, v) :: rest))) ++ tail
        = '\x7b'.toUInt8 :: w
      ∧ Refuses (objectRest member before) w := by
  cases h with
  | nil =>
    have hends := ends_writeMembers layout (depth + 1) rest (hl.gap depth) tail
    refine ⟨_, bytesOf_object_cons_append key v rest tail, ?_⟩
    refine (reads_bytesLeft _).bind_nil_refuses (Refuses.bind ?_)
    exact refuses_members_here (reads_nextKey_first (hl.gap (depth + 1)) key _) (hv _ hends)
  | @cons _ _ _ k w others hw hothers =>
    have hends := ends_writeMembers layout (depth + 1) (others ++ (key, v) :: rest) (hl.gap depth)
      tail
    refine ⟨_, bytesOf_object_cons_append k w (others ++ (key, v) :: rest) tail, ?_⟩
    refine (reads_bytesLeft _).bind_nil_refuses (Refuses.bind ?_)
    exact refuses_members_later (reads_nextKey_first (hl.gap (depth + 1)) k _) (hw _ hends)
      (refuses_members hl hothers hv rest (hl.gap depth) tail _)

end SurfaceStudio.Json

namespace SurfaceStudio.Wire

open Json Json.Reader

variable {α β δ : Type}

/-! ## §3. Decoders. -/

/-- Nothing but null begins with its letter. -/
theorem eq_null_of_reads {budget : Nat} {w tail : List UInt8} {v : Json}
    (h : Reads (value budget) ('n'.toUInt8 :: w) tail v) : v = .null := by
  have hnull : Yields (valueAt budget 'n'.toUInt8) (· = .null) :=
    Yields.bind_any fun _ => Yields.bind_any fun _ => Yields.pure rfl
  have hpeek : Reads peekToken? [] ('n'.toUInt8 :: w ++ tail) (some 'n'.toUInt8) :=
    reads_peekToken?_cons blank_nil (by decide)
  have hv := h 1 0
  rw [value_eq_withToken] at hv
  change (peekToken? >>= _) _ = _ at hv
  rw [bind_of_eq (hpeek.apply rfl)] at hv
  exact hnull hv

/-- What is not null is refused where its own decoder refuses it. -/
theorem refuses_optional {d : Decoder α} {budget : Nat} {pad w : List UInt8} {b : UInt8}
    (hp : Blank pad) (hb : Cursor.isBlank b = false) (hnull : b ≠ 'n'.toUInt8)
    (h : Refuses (d.fromText budget) (b :: w)) :
    Refuses ((Decoder.optional d).fromText budget) (pad ++ b :: w) := by
  refine (reads_peekToken?_cons hp hb).bind_refuses ?_
  show Refuses (if b = 'n'.toUInt8 then _ else _) _
  rw [if_neg hnull]
  exact h.bind

namespace Record

variable {r : Record δ α} {draft : δ} {key : String} {v : Json} {layout : Layout}

/-- A field that is new to the draft refuses what its decoder refuses. -/
theorem refusesMember {budget depth : Nat} (hl : layout.Plain) {name : String} {optional : Bool}
    {get : δ → Option β} {set : δ → β → δ} {d : Decoder β}
    (hf : r.field? key = some (.of name optional get set d)) (hnew : get draft = none)
    (h : ∀ pad tail, Blank pad → Ends tail →
      Refuses (d.fromText budget) (pad ++ bytesOf (writeAt layout depth v) ++ tail)) :
    RefusesMember (r.member budget draft key) layout depth v := by
  intro tail ht
  obtain ⟨pad, hpad, hcolon⟩ := hl.colon
  have hread : ¬ (get draft).isSome = true := by
    rw [hnew]
    exact Bool.false_ne_true
  rw [member, hf, hcolon]
  show Refuses (if (get draft).isSome = true then _ else _) _
  rw [if_neg hread]
  exact (reads_colon _).bind_refuses (h pad tail hpad ht).bind.bind

/-- **A record refuses the text of an object with a member that is refused**, behind members that it
takes and in front of any others. -/
theorem refuses {front : Members} (h : r.TakesAll r.empty front draft) (hl : layout.Plain)
    {budget : Nat} (hfront : ∀ m ∈ front, m.2.Legible budget) {depth : Nat}
    (hv : RefusesMember (r.member budget draft key) layout (depth + 1) v) (rest : Members)
    (tail : List UInt8) : Refuses (r.decoder.fromText (budget + 1))
      (bytesOf (writeAt layout depth (.object (front ++ (key, v) :: rest))) ++ tail) := by
  obtain ⟨w, hw, hrefuses⟩ :=
    refuses_objectRest hl (h.readMembers hl hfront (depth + 1)) hv rest tail
  rw [hw]
  have hpeek : Reads peekToken? [] ('\x7b'.toUInt8 :: w) (some '\x7b'.toUInt8) :=
    reads_peekToken?_cons blank_nil (by decide)
  refine hpeek.bind_nil_refuses ?_
  show Refuses (if '\x7b'.toUInt8 = '\x7b'.toUInt8 then _ else _) _
  rw [if_pos rfl]
  exact (reads_step '\x7b'.toUInt8 w).bind_refuses hrefuses.bind

end Record

end SurfaceStudio.Wire
