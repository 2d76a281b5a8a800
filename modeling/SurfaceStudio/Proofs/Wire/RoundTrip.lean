import SurfaceStudio.Proofs.Json.RoundTrip
import SurfaceStudio.Proofs.Wire.Agreement

/-!
# Decoding what was written

What is written is decoded again, from the value and from its text.  The keys of a value are in
order and those of a text are not, so a record is followed through its members in both orders.

  • `Decoder.Returns` — a decoder takes up again what was written,
  • `Agrees.returns`, `Returns.map`, `Returns.optional`, `Returns.list` — **from the parts of what
    is written to the whole**,
  • `Record.Takes`, `Record.TakesAll` — members that a record takes into its draft,
  • `TakesAll.optionally` — a member that is left out where there is nothing to write,
  • `Record.returns` — **a record is decoded from the members that it is written with**.
-/

namespace SurfaceStudio.Wire

open Json Json.Reader

variable {α β δ : Type}

/-! ## §1. Decoders. -/

/-- **The decoder returns `a` for what `a` is written as**: for the value, and for its text in any
layout and at any depth, if the text keeps within the brackets that may be open. -/
structure Decoder.Returns (d : Decoder α) (written : Json) (a : α) : Prop where
  value : d.fromValue written.canonical = .ok a
  text : ∀ {budget layout}, layout.Plain → written.Legible budget → ∀ depth,
    ReadAs (d.fromText budget) layout depth written a

variable {d : Decoder α} {written : Json} {a : α}

/-- A decoder that agrees with the reader of values decodes the value that is read back. -/
theorem Decoder.Agrees.returns (hd : d.Agrees) (ha : d.fromValue written.canonical = .ok a) :
    d.Returns written a where
  value := ha
  text := by
    intro budget layout hl hw depth
    have hread : ReadBack (Json.value budget) layout depth written := readBack_value hl hw
    refine ⟨hread.begins, fun pad tail hp ht line column => ?_⟩
    exact (hd budget _ _ _).2 ⟨_, hread.reads pad tail hp ht line column, ha⟩

theorem returns_string (text : String) : Decoder.string.Returns (.string text) text :=
  agrees_string.returns rfl

theorem Decoder.Returns.map (h : d.Returns written a) (f : α → β) :
    (d.map f).Returns written (f a) where
  value := congrArg (Except.map f) h.value
  text hl hw depth := (h.text hl hw depth).map f

theorem exists_bytesOf_object (layout : Layout) (depth : Nat) (ms : Members) :
    ∃ w, bytesOf (writeAt layout depth (.object ms)) = '\x7b'.toUInt8 :: w := by
  cases ms with
  | nil => exact ⟨['\x7d'.toUInt8], bytesOf_ofList ['\x7b', '\x7d']⟩
  | cons m rest => exact ⟨_, bytesOf_object_cons m.1 m.2 rest⟩

/-- An object is not taken for null. -/
theorem Decoder.Returns.optional {ms : Members} (h : d.Returns (.object ms) a) :
    (Decoder.optional d).Returns (.object ms) (some a) where
  value := congrArg (Except.map some) h.value
  text := by
    intro budget layout hl hw depth
    obtain ⟨w, hbytes⟩ := exists_bytesOf_object layout depth ms
    have hread := h.text hl hw depth
    refine ⟨hread.begins, fun pad tail hp ht => ?_⟩
    have hrest := hread.reads [] tail blank_nil ht
    rw [hbytes] at hrest ⊢
    refine (reads_peekToken?_cons hp (by decide)).bind ?_
    show Reads (if '\x7b'.toUInt8 = 'n'.toUInt8 then _ else _) _ tail (some a)
    rw [if_neg (by decide)]
    exact hrest.bind_pure

/-- A value that begins with a byte of its own. -/
theorem readAs_withToken {reading : UInt8 → Reader α} {layout : Layout} {depth : Nat} {b : UInt8}
    {w : List UInt8} (hw : bytesOf (writeAt layout depth written) = b :: w) (hb : BeginsValue b)
    (h : ∀ tail, Reads (reading b) (b :: w) tail a) :
    ReadAs (withToken reading) layout depth written a :=
  ReadAs.intro hw hb fun tail _ => h tail

theorem reads_openBracket {budget : Nat} {inside : Nat → Reader α} {w tail : List UInt8}
    (b : UInt8) (h : Reads (inside budget) w tail a) :
    Reads (openBracket (budget + 1) inside) (b :: w) tail a :=
  (reads_step b _).bind h

/-- A name stands for what the table has for it. -/
theorem returns_variants {table : List (String × α)} {name : String}
    (h : Decoder.variant table name = .ok a) :
    (Decoder.variants table).Returns (.string name) a where
  value := h
  text := by
    intro budget layout _ _ depth
    refine readAs_withToken (bytesOf_stringText name) ⟨by decide, by decide⟩ fun tail => ?_
    have hvariant : Reads (Decoder.variantHere table name) [] tail a := by
      rw [Decoder.variantHere, h]
      exact Reads.pure a tail
    exact (reads_step _ _).bind ((reads_stringRest name tail).bind_end hvariant)

/-! ## §2. Lists. -/

theorem mapM_canonicalItems {items : List Json} {as : List α}
    (h : List.Forall₂ d.Returns items as) : (canonicalItems items).mapM d.fromValue = .ok as := by
  induction h with
  | nil => rfl
  | cons h _ ih =>
    rw [canonicalItems, List.mapM_cons, h.value, ih]
    rfl

theorem forall₂_readAs {items : List Json} {as : List α} (h : List.Forall₂ d.Returns items as)
    {budget : Nat} {layout : Layout} (hl : layout.Plain) (hv : ∀ v ∈ items, v.Legible budget)
    (depth : Nat) : List.Forall₂ (ReadAs (d.fromText budget) layout depth) items as := by
  induction h with
  | nil => exact .nil
  | cons h _ ih =>
    refine .cons (h.text hl (hv _ List.mem_cons_self) depth) (ih fun v hmem => ?_)
    exact hv v (List.mem_cons_of_mem _ hmem)

/-- **A list is decoded from what its elements are written as**, of any length and in order. -/
theorem Decoder.Returns.list {items : List Json} {as : List α}
    (h : List.Forall₂ d.Returns items as) : (Decoder.list d).Returns (.array items) as where
  value := mapM_canonicalItems h
  text := by
    intro budget layout hl hw depth
    obtain ⟨budget, rfl⟩ := hw.exists_of_array
    have hitems := forall₂_readAs h hl (bounded_array_iff.1 hw) (depth + 1)
    obtain ⟨w, hbytes, hreads⟩ := reads_array hl hitems
    refine readAs_withToken hbytes ⟨by decide, by decide⟩ fun tail => ?_
    rw [if_pos rfl]
    exact reads_openBracket _ (hreads tail)

/-! ## §3. Members. -/

namespace Record

variable {r : Record δ α} {before after last : δ}

/-- The record takes the member into its draft, from a value and from a text. -/
structure Takes (r : Record δ α) (before : δ) (key : String) (written : Json) (after : δ) :
    Prop where
  value : r.memberValue before (key, written.canonical) = .ok after
  text : ∀ {budget layout}, layout.Plain → written.Legible budget → ∀ depth tail, Ends tail →
    Reads (r.member budget before key)
      (bytesOf layout.colon ++ bytesOf (writeAt layout depth written)) tail after

/-- A field that is new to the draft is set. -/
theorem Takes.of {name key : String} {optional : Bool} {get : δ → Option β} {set : δ → β → δ}
    {d : Decoder β} (hf : r.field? key = some (.of name optional get set d))
    (hnew : get before = none) {b : β} (h : d.Returns written b) :
    r.Takes before key written (set before b) where
  value := by
    have hset := (h.map fun b draft => set draft b).value
    rw [memberValue, hf]
    exact congrArg (Except.map fun set : δ → δ => set before) hset
  text := by
    intro budget layout hl hw depth tail ht
    have hset := (h.map fun b draft => set draft b).text hl hw depth
    have hread : ¬ (get before).isSome = true := by
      rw [hnew]
      exact Bool.false_ne_true
    rw [member, hf]
    show Reads (if (get before).isSome = true then _ else _) _ tail _
    rw [if_neg hread]
    exact reads_behindColon hl (hset.map fun set => set before) ht

/-- A record that keeps its members takes what may be added to its draft. -/
theorem Takes.of_memberOnce {keep : δ → String → Json → δ} (hkeep : r.keep = some keep)
    (hfields : ∀ f ∈ r.fields, f.decoder.Agrees) {key : String}
    (h : r.memberOnce before (key, written.canonical) = .ok after) :
    r.Takes before key written after where
  value := by
    rw [memberOnce] at h
    split at h
    · cases h
    · exact h
  text := by
    intro budget layout hl hw depth tail ht line column
    have hread : ReadBack (Json.value budget) layout depth written := readBack_value hl hw
    have hvalue := reads_behindColon hl hread ht line column
    exact (factors_member hkeep hfields budget before key _ _ _).2 ⟨_, hvalue, h⟩

/-- **The record takes the members one after the other.** -/
inductive TakesAll (r : Record δ α) : δ → Members → δ → Prop
  | nil (draft : δ) : TakesAll r draft [] draft
  | cons {before after last : δ} {key : String} {written : Json} {rest : Members}
    (h : r.Takes before key written after) (others : TakesAll r after rest last) :
    TakesAll r before ((key, written) :: rest) last

/-- A member that is there if there is something to write: it is taken, or nothing changes. -/
theorem TakesAll.optionally {name key : String} {optional : Bool} {get : δ → Option (Option β)}
    {set : δ → Option β → δ} {d : Decoder β}
    (hf : r.field? key = some (.of name optional get set d.optional)) (hnew : get before = none)
    {write : β → Json} {x? : Option β}
    (hx : ∀ x ∈ x?, (Decoder.optional d).Returns (write x) (some x))
    (hafter : after = x?.elim before fun x => set before (some x)) {rest : Members}
    (others : r.TakesAll after rest last) :
    r.TakesAll before ((x?.map fun x => (key, write x)).toList ++ rest) last := by
  subst hafter
  cases x? with
  | none => exact others
  | some x => exact .cons (.of hf hnew (hx x rfl)) others

theorem TakesAll.of_foldlM {keep : δ → String → Json → δ} (hkeep : r.keep = some keep)
    (hfields : ∀ f ∈ r.fields, f.decoder.Agrees) {ms : Members}
    (h : (canonicalMembers ms).foldlM r.memberOnce before = .ok last) :
    r.TakesAll before ms last := by
  induction ms generalizing before with
  | nil =>
    injection h with h
    exact h ▸ .nil before
  | cons m rest ih =>
    obtain ⟨key, written⟩ := m
    rw [canonicalMembers, List.foldlM_cons] at h
    obtain ⟨after, hstep, hrest⟩ := exists_of_except_bind h
    exact .cons (.of_memberOnce hkeep hfields hstep) (ih hrest)

theorem TakesAll.foldlM_memberValue {ms : Members} (h : r.TakesAll before ms last) :
    (canonicalMembers ms).foldlM r.memberValue before = .ok last := by
  induction h with
  | nil draft => rfl
  | cons h _ ih =>
    rw [canonicalMembers, List.foldlM_cons, h.value]
    exact ih

theorem TakesAll.readMembers {ms : Members} (h : r.TakesAll before ms last) {budget : Nat}
    {layout : Layout} (hl : layout.Plain) (hm : ∀ m ∈ ms, m.2.Legible budget) (depth : Nat) :
    ReadMembers (r.member budget) layout depth before ms last := by
  induction h with
  | nil draft => exact .nil draft
  | cons h _ ih =>
    refine .cons (fun tail ht => ?_) (ih fun m hmem => hm m (List.mem_cons_of_mem _ hmem))
    exact h.text hl (hm _ List.mem_cons_self) depth tail ht

/-! ## §4. Records. -/

/-- **A record is decoded from the text of the members that it takes.** -/
theorem readAs_of_takesAll {ms : Members} (h : r.TakesAll r.empty ms last)
    (ha : r.complete last = .ok a) {budget : Nat} {layout : Layout} (hl : layout.Plain)
    (hw : (Json.object ms).Legible budget) (depth : Nat) :
    ReadAs (r.decoder.fromText budget) layout depth (.object ms) a := by
  obtain ⟨budget, rfl⟩ := hw.exists_of_object
  have hmembers := h.readMembers hl (bounded_object_iff.1 hw) (depth + 1)
  obtain ⟨w, hbytes, hreads⟩ := reads_object hl hmembers
  refine readAs_withToken hbytes ⟨by decide, by decide⟩ fun tail => ?_
  rw [if_pos rfl]
  refine reads_openBracket _ ((hreads tail).bind_end ?_)
  rw [completeHere, ha]
  exact Reads.pure a tail

/-- **A record is decoded from the members that it is written with**, which are sorted in a
value. -/
theorem returns {ms sorted : Members} (h : r.TakesAll r.empty ms last) (hperm : List.Perm ms sorted)
    (hs : sorted.Sorted) (h' : r.TakesAll r.empty sorted last) (ha : r.complete last = .ok a) :
    r.decoder.Returns (.object ms) a where
  value := by
    have hcollect : collect (canonicalMembers ms) = canonicalMembers sorted := by
      refine Members.collect_eq_of_perm ?_ (sorted_canonicalMembers hs)
      rw [canonicalMembers_eq_map, canonicalMembers_eq_map]
      exact hperm.map _
    rw [canonical, hcollect]
    show ((canonicalMembers sorted).foldlM r.memberValue r.empty >>= r.complete) = .ok a
    rw [h'.foldlM_memberValue]
    exact ha
  text hl hw depth := readAs_of_takesAll h ha hl hw depth

end Record

/-! ## §5. Whole texts. -/

/-- What is returned for a written value is returned for its compact text. -/
theorem Decoder.Returns.readText (h : d.Returns written a) (hw : written.Legible bracketBudget) :
    d.readText (bytesOf written.compact) = .ok a := by
  have hread := (h.text Layout.plain_compact hw 0).reads [] [] blank_nil ends_nil
  exact readWith_eq_ok hread

end SurfaceStudio.Wire
