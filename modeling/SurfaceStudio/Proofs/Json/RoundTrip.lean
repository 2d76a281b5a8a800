import Mathlib.Data.List.Forall2
import SurfaceStudio.Proofs.Json.Integers
import SurfaceStudio.Proofs.Json.Strings
import SurfaceStudio.Proofs.Json.Values

/-!
# Written values are read back

The text of a value, in the compact layout as in the indented one, is read as the canonical value
with the same members.  The reader counts open brackets, so the value must not be nested deeper
than its budget, and a number is read back only as well as it reads back alone.

  • `Layout.Plain` — a layout that puts in nothing but white space,
  • `ReadAs` — a value is written so that a reading takes it up again,
  • `ReadMembers`, `reads_array`, `reads_object` — **from the parts of a value to the whole**, for
    any reading of the parts,
  • `ReadBack` — a value is taken up again as its canonical form,
  • `Legible` — the two demands on a value,
  • `readBack_value` — a legible value in front of other text,
  • `read_write` — **a written value is read as its canonical form**.
-/

namespace SurfaceStudio.Json

open Reader

/-! ## §1. Layouts. -/

/-- A layout that puts white space, and nothing else, between the parts of a value. -/
structure Layout.Plain (layout : Layout) : Prop where
  gap : ∀ depth, Blank (bytesOf (layout.gap depth))
  colon : ∃ pad, Blank pad ∧ bytesOf layout.colon = ':'.toUInt8 :: pad

theorem blank_nil : Blank [] := fun _ h => nomatch h

theorem Layout.plain_compact : Layout.compact.Plain where
  gap _ := by
    show Blank (bytesOf "")
    rw [show bytesOf "" = [] from bytesOf_ofList []]
    exact blank_nil
  colon := ⟨[], blank_nil, bytesOf_ofList [':']⟩

theorem Layout.plain_indented : Layout.indented.Plain where
  gap depth := by
    show Blank (bytesOf (String.ofList ('\n' :: List.replicate (2 * depth) ' ')))
    rw [bytesOf_ofList]
    intro b hb
    obtain ⟨c, hc, hb⟩ := List.mem_flatMap.1 hb
    rcases List.mem_cons.1 hc with rfl | hc
    · rw [List.mem_singleton.1 hb]
      decide
    · rw [List.eq_of_mem_replicate hc] at hb
      rw [List.mem_singleton.1 hb]
      decide
  colon := by
    refine ⟨[' '.toUInt8], fun b hb => ?_, bytesOf_ofList [':', ' ']⟩
    rw [List.mem_singleton.1 hb]
    decide

theorem not_isNumeralByte_of_isBlank {b : UInt8} (h : Cursor.isBlank b = true) :
    isNumeralByte b = false := by
  cases hn : isNumeralByte b with
  | false => rfl
  | true =>
    rw [not_blank_of_isNumeralByte hn] at h
    cases h

/-- White space ends a numeral as well as what stands behind it. -/
theorem ends_append {w tail : List UInt8} (hw : Blank w) (ht : Ends tail) : Ends (w ++ tail) := by
  cases w with
  | nil => exact ht
  | cons b w => exact ends_cons (not_isNumeralByte_of_isBlank (hw b List.mem_cons_self))

/-! ## §2. Values in front of other text. -/

variable {α β σ : Type}

/-- White space in front of what is read is passed over. -/
theorem Reads.blank_append {f : Option UInt8 → Reader α} {pad w tail : List UInt8} {a : α}
    (hp : Blank pad) (h : Reads (peekToken? >>= f) w tail a) :
    Reads (peekToken? >>= f) (pad ++ w) tail a := by
  intro line column
  rw [List.append_assoc]
  generalize hc : Cursor.steps pad.length ⟨pad ++ (w ++ tail), line, column⟩ = c
  have hrest : c.rest = w ++ tail := by
    rw [← hc, Cursor.rest_steps, List.drop_left]
  -- Both readings go on behind the same white space.
  have hskip : Cursor.skipBlanks ⟨pad ++ (w ++ tail), line, column⟩ = c.skipBlanks := by
    rw [Cursor.skipBlanks, Cursor.skipBlanks, hrest, List.takeWhile_append_of_pos hp,
      List.length_append, Cursor.steps_add, hc]
  have hsame : (peekToken? >>= f) ⟨pad ++ (w ++ tail), line, column⟩ = (peekToken? >>= f) c := by
    show f (Cursor.skipBlanks _).rest.head? (Cursor.skipBlanks _) = f c.skipBlanks.rest.head? _
    rw [hskip]
  rw [hsame, h.apply hrest, List.length_append, Cursor.steps_add, hc]

/-- A byte that a value may begin with. -/
def BeginsValue (b : UInt8) : Prop := Cursor.isBlank b = false ∧ b ≠ ']'.toUInt8

theorem beginsValue_of_isNumeralByte {b : UInt8} (h : isNumeralByte b = true) :
    BeginsValue b := by
  have hbracket : isNumeralByte ']'.toUInt8 = false := by decide
  exact ⟨not_blank_of_isNumeralByte h, ne_of_isNumeralByte h hbracket⟩

/-- In a layout, at a depth, a value is written so that `r` takes it up again as `a`, behind white
space and in front of everything that ends a numeral. -/
structure ReadAs (r : Reader α) (layout : Layout) (depth : Nat) (v : Json) (a : α) : Prop where
  begins : ∃ b w, bytesOf (writeAt layout depth v) = b :: w ∧ BeginsValue b
  reads : ∀ pad tail, Blank pad → Ends tail →
    Reads r (pad ++ bytesOf (writeAt layout depth v)) tail a

theorem ReadAs.intro {f : Option UInt8 → Reader α} {layout : Layout} {depth : Nat} {v : Json}
    {a : α} {b : UInt8} {w : List UInt8} (hw : bytesOf (writeAt layout depth v) = b :: w)
    (hb : BeginsValue b) (hr : ∀ tail, Ends tail → Reads (f (some b)) (b :: w) tail a) :
    ReadAs (peekToken? >>= f) layout depth v a where
  begins := ⟨b, w, hw, hb⟩
  reads pad tail hp ht := by
    rw [hw]
    have hpeek : Reads peekToken? [] ((b :: w) ++ tail) (some b) :=
      reads_peekToken?_cons blank_nil hb.1
    exact (hpeek.bind_nil (hr tail ht)).blank_append hp

/-- A result made from what is taken up. -/
theorem ReadAs.map {r : Reader α} {layout : Layout} {depth : Nat} {v : Json} {a : α}
    (h : ReadAs r layout depth v a) (f : α → β) :
    ReadAs (do return f (← r)) layout depth v (f a) where
  begins := h.begins
  reads pad tail hp ht := (h.reads pad tail hp ht).bind_pure

/-- A value is taken up again as its canonical form. -/
abbrev ReadBack (r : Reader Json) (layout : Layout) (depth : Nat) (v : Json) : Prop :=
  ReadAs r layout depth v v.canonical

/-! ## §3. Arrays. -/

variable {r : Reader α} {layout : Layout} {depth : Nat}

theorem reads_nextElement_end (first : Bool) {gap : List UInt8} (hg : Blank gap)
    (tail : List UInt8) : Reads (nextElement first) gap (']'.toUInt8 :: tail) false := by
  refine (reads_peekToken?_cons hg (by decide)).bind_end ?_
  exact Reads.pure false _

theorem reads_nextElement_first {gap : List UInt8} (hg : Blank gap) {b : UInt8}
    (hb : BeginsValue b) (tail : List UInt8) :
    Reads (nextElement true) gap (b :: tail) true := by
  refine (reads_peekToken?_cons hg hb.1).bind_end ?_
  show Reads (if b = ']'.toUInt8 then _ else _) [] _ true
  rw [if_neg hb.2]
  exact Reads.pure true _

theorem reads_nextElement_more {gap : List UInt8} (hg : Blank gap) {b : UInt8}
    (hb : BeginsValue b) (tail : List UInt8) :
    Reads (nextElement false) (','.toUInt8 :: gap) (b :: tail) true := by
  refine (reads_peekToken?_cons blank_nil (by decide)).bind_nil ?_
  refine (reads_step ','.toUInt8 (gap ++ b :: tail)).bind ?_
  refine (reads_peekToken?_cons hg hb.1).bind_end ?_
  show Reads (if b = ']'.toUInt8 then _ else _) [] _ true
  rw [if_neg hb.2]
  exact Reads.pure true _

/-- One element with what stands before it, and then the others. -/
theorem reads_elements_cons {element : Reader α} {fuel : Nat} {first : Bool}
    {found all : List α} {a : α} {sep w u tail : List UInt8}
    (hsep : Reads (nextElement first) sep (w ++ (u ++ tail)) true)
    (hw : Reads element w (u ++ tail) a)
    (hu : Reads (elements element fuel false (a :: found)) u tail all) :
    Reads (elements element (fuel + 1) first found) (sep ++ (w ++ u)) tail all := by
  rw [← List.append_assoc] at hsep
  exact hsep.bind (hw.bind hu)

theorem reads_elements_nil {element : Reader α} {fuel : Nat} (first : Bool)
    (found : List α) {gap : List UInt8} (hg : Blank gap) (tail : List UInt8) :
    Reads (elements element (fuel + 1) first found) gap (']'.toUInt8 :: tail) found.reverse :=
  (reads_nextElement_end first hg tail).bind_end (Reads.pure _ _)

theorem bytesOf_writeItems_nil : bytesOf (writeItems layout depth []) = [] := bytesOf_ofList []

theorem bytesOf_writeItems_cons (v : Json) (vs : List Json) :
    bytesOf (writeItems layout depth (v :: vs))
      = ','.toUInt8 :: (bytesOf (layout.gap depth) ++ (bytesOf (writeAt layout depth v)
        ++ bytesOf (writeItems layout depth vs))) := by
  rw [writeItems, bytesOf_append, bytesOf_append, bytesOf_append,
    show bytesOf "," = [','.toUInt8] from bytesOf_ofList [',']]
  simp only [List.append_assoc, List.cons_append, List.nil_append]

/-- Behind an element stands a comma, or white space and the closing bracket. -/
theorem ends_writeItems (layout : Layout) (depth : Nat) (vs : List Json) {gap : List UInt8}
    (hg : Blank gap) (tail : List UInt8) :
    Ends (bytesOf (writeItems layout depth vs) ++ gap ++ ']'.toUInt8 :: tail) := by
  cases vs with
  | nil =>
    rw [bytesOf_writeItems_nil, List.nil_append]
    exact ends_append hg (ends_cons (by decide))
  | cons v vs =>
    rw [bytesOf_writeItems_cons]
    exact ends_cons (by decide)

theorem length_le_writeItems (layout : Layout) (depth : Nat) (vs : List Json) :
    vs.length ≤ (bytesOf (writeItems layout depth vs)).length := by
  induction vs with
  | nil => exact Nat.zero_le _
  | cons v vs ih =>
    rw [bytesOf_writeItems_cons]
    simp only [List.length_append, List.length_cons]
    omega

/-- The elements behind the first. -/
theorem reads_elements (hl : layout.Plain) {vs : List Json} {as : List α}
    (h : List.Forall₂ (ReadAs r layout depth) vs as) {fuel : Nat} (hfuel : vs.length < fuel)
    (found : List α) {gap : List UInt8} (hg : Blank gap) (tail : List UInt8) :
    Reads (elements r fuel false found) (bytesOf (writeItems layout depth vs) ++ gap)
      (']'.toUInt8 :: tail) (found.reverse ++ as) := by
  -- Each round takes a comma, white space and one element.
  induction h generalizing fuel found with
  | nil =>
    obtain ⟨fuel, rfl⟩ : ∃ f, fuel = f + 1 := Nat.exists_eq_add_one.2 hfuel
    rw [bytesOf_writeItems_nil, List.nil_append, List.append_nil]
    exact reads_elements_nil false found hg tail
  | @cons v a vs as hv hvs ih =>
    obtain ⟨fuel, rfl⟩ : ∃ f, fuel = f + 1 := Nat.exists_eq_add_one.2 (by omega)
    obtain ⟨⟨b, w, hw, hb⟩, hread⟩ := hv
    have hrest := ih (Nat.lt_of_succ_lt_succ hfuel) (a :: found)
    rw [List.reverse_cons, List.append_assoc] at hrest
    have hends := ends_writeItems layout depth vs hg tail
    rw [bytesOf_writeItems_cons, ← List.cons_append, List.append_assoc, List.append_assoc]
    refine reads_elements_cons ?_ (hread [] _ blank_nil hends) hrest
    rw [hw]
    exact reads_nextElement_more (hl.gap depth) hb _

theorem reads_arrayRest {element : Reader α} {w tail : List UInt8} {all : List α}
    (h : ∀ fuel, w.length ≤ fuel →
      Reads (elements element (fuel + 1) true []) w (']'.toUInt8 :: tail) all) :
    Reads (arrayRest element) (w ++ [']'.toUInt8]) tail all := by
  refine (reads_bytesLeft _).bind_nil ((h _ ?_).bind (reads_step _ tail).bind_pure)
  rw [List.append_assoc, List.length_append]
  exact Nat.le_add_right _ _

theorem bytesOf_array_cons (v : Json) (vs : List Json) :
    bytesOf (writeAt layout depth (.array (v :: vs)))
      = '['.toUInt8 :: (bytesOf (layout.gap (depth + 1)) ++ (bytesOf (writeAt layout (depth + 1) v)
        ++ (bytesOf (writeItems layout (depth + 1) vs) ++ bytesOf (layout.gap depth)))
        ++ [']'.toUInt8]) := by
  rw [writeAt]
  simp only [bytesOf_append, show bytesOf "[" = ['['.toUInt8] from bytesOf_ofList ['['],
    show bytesOf "]" = [']'.toUInt8] from bytesOf_ofList [']'], List.append_assoc,
    List.cons_append, List.nil_append]

/-- **An array is read element by element**, behind its bracket. -/
theorem reads_array (hl : layout.Plain) {items : List Json} {as : List α}
    (h : List.Forall₂ (ReadAs r layout (depth + 1)) items as) :
    ∃ w, bytesOf (writeAt layout depth (.array items)) = '['.toUInt8 :: w
      ∧ ∀ tail, Reads (arrayRest r) w tail as := by
  cases h with
  | nil =>
    refine ⟨[']'.toUInt8], bytesOf_ofList ['[', ']'], fun tail => ?_⟩
    refine reads_arrayRest (w := []) fun fuel _ => ?_
    exact reads_elements_nil true [] blank_nil tail
  | @cons v a vs as hv hvs =>
    obtain ⟨⟨b, w, hw, hb⟩, hread⟩ := hv
    refine ⟨_, bytesOf_array_cons v vs, fun tail => reads_arrayRest fun fuel hfuel => ?_⟩
    -- Every element has its comma in the text, so there is fuel for all of them.
    have hlength : vs.length < fuel := by
      have hitems := length_le_writeItems layout (depth + 1) vs
      rw [hw] at hfuel
      simp only [List.length_append, List.length_cons] at hfuel
      omega
    have hrest := reads_elements hl hvs hlength [a] (hl.gap depth) tail
    have hends := ends_writeItems layout (depth + 1) vs (hl.gap depth) tail
    refine reads_elements_cons ?_ (hread [] _ blank_nil hends) hrest
    rw [hw]
    exact reads_nextElement_first (hl.gap (depth + 1)) hb _

/-! ## §4. Objects. -/

theorem reads_nextKey_end (first : Bool) {gap : List UInt8} (hg : Blank gap)
    (tail : List UInt8) : Reads (nextKey first) gap ('\x7d'.toUInt8 :: tail) none := by
  refine (reads_peekToken?_cons hg (by decide)).bind_end ?_
  exact Reads.pure none _

theorem reads_nextKey_first {gap : List UInt8} (hg : Blank gap) (key : String)
    (tail : List UInt8) :
    Reads (nextKey true) (gap ++ bytesOf (stringText key)) tail (some key) := by
  rw [bytesOf_stringText]
  refine (reads_peekToken?_cons hg (by decide)).bind ?_
  exact (reads_step _ _).bind (reads_stringRest key tail).bind_pure

theorem reads_nextKey_more {gap : List UInt8} (hg : Blank gap) (key : String)
    (tail : List UInt8) :
    Reads (nextKey false) (','.toUInt8 :: (gap ++ bytesOf (stringText key))) tail (some key) := by
  rw [bytesOf_stringText]
  refine (reads_peekToken?_cons blank_nil (by decide)).bind_nil ?_
  refine (reads_step ','.toUInt8 _).bind ?_
  refine (reads_peekToken?_cons hg (by decide)).bind ?_
  exact (reads_step _ _).bind (reads_stringRest key tail).bind_pure

theorem reads_colon (tail : List UInt8) : Reads colon [':'.toUInt8] tail () := by
  refine (reads_peekToken?_cons blank_nil (by decide)).bind_nil ?_
  exact reads_step ':'.toUInt8 tail

/-- **Members are read one after the other**: each is handed to `member` with what has been read
before it. -/
inductive ReadMembers (member : σ → String → Reader σ) (layout : Layout) (depth : Nat) :
    σ → Members → σ → Prop
  | nil (read : σ) : ReadMembers member layout depth read [] read
  | cons {before after last : σ} {k : String} {v : Json} {rest : Members}
    (h : ∀ tail, Ends tail → Reads (member before k)
      (bytesOf layout.colon ++ bytesOf (writeAt layout depth v)) tail after)
    (others : ReadMembers member layout depth after rest last) :
    ReadMembers member layout depth before ((k, v) :: rest) last

/-- What stands behind a key is read with the white space in front of it. -/
theorem reads_behindColon (hl : layout.Plain) {v : Json} {a : α} (h : ReadAs r layout depth v a)
    {tail : List UInt8} (ht : Ends tail) :
    Reads (do colon; r) (bytesOf layout.colon ++ bytesOf (writeAt layout depth v)) tail a := by
  obtain ⟨pad, hpad, hcolon⟩ := hl.colon
  rw [hcolon]
  exact (reads_colon _).bind (h.reads pad tail hpad ht)

/-- One member with what stands before it, and then the others. -/
theorem reads_members_cons {member : σ → String → Reader σ} {fuel : Nat} {first : Bool}
    {before after all : σ} {key : String} {sep w u tail : List UInt8}
    (hsep : Reads (nextKey first) sep (w ++ (u ++ tail)) (some key))
    (hw : Reads (member before key) w (u ++ tail) after)
    (hu : Reads (members member fuel false after) u tail all) :
    Reads (members member (fuel + 1) first before) (sep ++ (w ++ u)) tail all := by
  rw [← List.append_assoc] at hsep
  exact hsep.bind (hw.bind hu)

theorem reads_members_nil {member : σ → String → Reader σ} {fuel : Nat} (first : Bool)
    (read : σ) {gap : List UInt8} (hg : Blank gap) (tail : List UInt8) :
    Reads (members member (fuel + 1) first read) gap ('\x7d'.toUInt8 :: tail) read :=
  (reads_nextKey_end first hg tail).bind_end (Reads.pure _ _)

theorem bytesOf_writeMembers_nil : bytesOf (writeMembers layout depth []) = [] := bytesOf_ofList []

theorem bytesOf_writeMembers_cons (k : String) (v : Json) (rest : Members) :
    bytesOf (writeMembers layout depth ((k, v) :: rest))
      = ','.toUInt8 :: (bytesOf (layout.gap depth) ++ bytesOf (stringText k))
        ++ (bytesOf layout.colon ++ bytesOf (writeAt layout depth v)
          ++ bytesOf (writeMembers layout depth rest)) := by
  rw [writeMembers, bytesOf_append, bytesOf_append, bytesOf_append, bytesOf_append, bytesOf_append,
    show bytesOf "," = [','.toUInt8] from bytesOf_ofList [',']]
  simp only [List.append_assoc, List.cons_append, List.nil_append]

/-- Behind a member stands a comma, or white space and the closing brace. -/
theorem ends_writeMembers (layout : Layout) (depth : Nat) (members : Members)
    {gap : List UInt8} (hg : Blank gap) (tail : List UInt8) :
    Ends (bytesOf (writeMembers layout depth members) ++ gap ++ '\x7d'.toUInt8 :: tail) := by
  cases members with
  | nil =>
    rw [bytesOf_writeMembers_nil, List.nil_append]
    exact ends_append hg (ends_cons (by decide))
  | cons m rest =>
    rw [bytesOf_writeMembers_cons m.1 m.2 rest]
    exact ends_cons (by decide)

theorem length_le_writeMembers (layout : Layout) (depth : Nat) (members : Members) :
    members.length ≤ (bytesOf (writeMembers layout depth members)).length := by
  induction members with
  | nil => exact Nat.zero_le _
  | cons m rest ih =>
    rw [bytesOf_writeMembers_cons m.1 m.2 rest]
    simp only [List.length_append, List.length_cons]
    omega

/-- The members behind the first. -/
theorem reads_members (hl : layout.Plain) {member : σ → String → Reader σ} {read last : σ}
    {rest : Members} (h : ReadMembers member layout depth read rest last) {fuel : Nat}
    (hfuel : rest.length < fuel) {gap : List UInt8} (hg : Blank gap) (tail : List UInt8) :
    Reads (members member fuel false read) (bytesOf (writeMembers layout depth rest) ++ gap)
      ('\x7d'.toUInt8 :: tail) last := by
  -- Each round takes a comma and a member, which is handed on to the next.
  induction h generalizing fuel with
  | nil read =>
    obtain ⟨fuel, rfl⟩ : ∃ f, fuel = f + 1 := Nat.exists_eq_add_one.2 hfuel
    rw [bytesOf_writeMembers_nil, List.nil_append]
    exact reads_members_nil false read hg tail
  | @cons _ _ _ k v rest hv _ ih =>
    obtain ⟨fuel, rfl⟩ : ∃ f, fuel = f + 1 := Nat.exists_eq_add_one.2 (by omega)
    have hrest := ih (Nat.lt_of_succ_lt_succ hfuel)
    have hends := ends_writeMembers layout depth rest hg tail
    rw [bytesOf_writeMembers_cons, List.append_assoc, List.append_assoc (_ ++ _)]
    exact reads_members_cons (reads_nextKey_more (hl.gap depth) k _) (hv _ hends) hrest

theorem reads_objectRest {member : σ → String → Reader σ} {empty all : σ}
    {w tail : List UInt8} (h : ∀ fuel, w.length ≤ fuel →
      Reads (members member (fuel + 1) true empty) w ('\x7d'.toUInt8 :: tail) all) :
    Reads (objectRest member empty) (w ++ ['\x7d'.toUInt8]) tail all := by
  refine (reads_bytesLeft _).bind_nil ((h _ ?_).bind (reads_step _ tail).bind_pure)
  rw [List.append_assoc, List.length_append]
  exact Nat.le_add_right _ _

theorem bytesOf_object_cons (k : String) (v : Json) (rest : Members) :
    bytesOf (writeAt layout depth (.object ((k, v) :: rest)))
      = '\x7b'.toUInt8 :: (bytesOf (layout.gap (depth + 1)) ++ bytesOf (stringText k)
        ++ (bytesOf layout.colon ++ bytesOf (writeAt layout (depth + 1) v)
          ++ (bytesOf (writeMembers layout (depth + 1) rest) ++ bytesOf (layout.gap depth)))
        ++ ['\x7d'.toUInt8]) := by
  rw [writeAt]
  simp only [bytesOf_append, show bytesOf "\x7b" = ['\x7b'.toUInt8] from bytesOf_ofList ['\x7b'],
    show bytesOf "\x7d" = ['\x7d'.toUInt8] from bytesOf_ofList ['\x7d'], List.append_assoc,
    List.cons_append, List.nil_append]

/-- **An object is read member by member**, behind its brace. -/
theorem reads_object (hl : layout.Plain) {member : σ → String → Reader σ} {empty last : σ}
    {ms : Members} (h : ReadMembers member layout (depth + 1) empty ms last) :
    ∃ w, bytesOf (writeAt layout depth (.object ms)) = '\x7b'.toUInt8 :: w
      ∧ ∀ tail, Reads (objectRest member empty) w tail last := by
  cases h with
  | nil =>
    refine ⟨['\x7d'.toUInt8], bytesOf_ofList ['\x7b', '\x7d'], fun tail => ?_⟩
    refine reads_objectRest (w := []) fun fuel _ => ?_
    exact reads_members_nil true empty blank_nil tail
  | @cons _ _ _ k v rest hv others =>
    refine ⟨_, bytesOf_object_cons k v rest, fun tail => reads_objectRest fun fuel hfuel => ?_⟩
    -- Every member has its comma in the text, so there is fuel for all of them.
    have hlength : rest.length < fuel := by
      have hmembers := length_le_writeMembers layout (depth + 1) rest
      rw [bytesOf_stringText] at hfuel
      simp only [List.length_append, List.length_cons] at hfuel
      omega
    have hrest := reads_members hl others hlength (hl.gap depth) tail
    have hends := ends_writeMembers layout (depth + 1) rest (hl.gap depth) tail
    exact reads_members_cons (reads_nextKey_first (hl.gap (depth + 1)) k _) (hv _ hends) hrest

/-! ## §5. Values and texts. -/

variable {inner : Reader Json}

/-- **An array of values that are read back is read back.** -/
theorem readBack_array (hl : layout.Plain) {items : List Json}
    (hv : ∀ v ∈ items, ReadBack inner layout (depth + 1) v) :
    ReadBack (valueWith (some inner)) layout depth (.array items) := by
  have hitems : List.Forall₂ (ReadAs inner layout (depth + 1)) items (items.map canonical) := by
    rw [List.forall₂_map_right_iff, List.forall₂_same]
    exact hv
  obtain ⟨w, hw, hreads⟩ := reads_array hl hitems
  refine ReadAs.intro hw ⟨by decide, by decide⟩ fun tail _ => ?_
  rw [canonical, canonicalItems_eq_map]
  exact (reads_step _ _).bind (hreads tail).bind_pure

/-- Values that are read back are inserted among the members read before. -/
theorem readMembers_generic (hl : layout.Plain) {ms : Members}
    (hv : ∀ m ∈ ms, ReadBack inner layout depth m.2) (read : Members) :
    ReadMembers (genericMember inner) layout depth read ms
      ((canonicalMembers ms).foldl (fun read m => read.insert m.1 m.2) read) := by
  induction ms generalizing read with
  | nil => exact .nil read
  | cons m rest ih =>
    obtain ⟨k, v⟩ := m
    refine .cons (fun tail ht => ?_) (ih (fun m hm => hv m (List.mem_cons_of_mem _ hm)) _)
    exact reads_behindColon hl ((hv (k, v) List.mem_cons_self).map fun v => read.insert k v) ht

/-- **An object of values that are read back is read back**, with its keys in order. -/
theorem readBack_object (hl : layout.Plain) {ms : Members}
    (hv : ∀ m ∈ ms, ReadBack inner layout (depth + 1) m.2) :
    ReadBack (valueWith (some inner)) layout depth (.object ms) := by
  obtain ⟨w, hw, hreads⟩ := reads_object hl (readMembers_generic hl hv [])
  refine ReadAs.intro hw ⟨by decide, by decide⟩ fun tail _ => ?_
  rw [canonical]
  exact (reads_step _ _).bind (hreads tail).bind_pure

theorem readBack_null (inner : Option (Reader Json)) :
    ReadBack (valueWith inner) layout depth .null :=
  ReadAs.intro (bytesOf_ofList ['n', 'u', 'l', 'l']) ⟨by decide, by decide⟩
    fun _ _ _ _ => rfl

theorem readBack_bool (inner : Option (Reader Json)) (b : Bool) :
    ReadBack (valueWith inner) layout depth (.bool b) := by
  cases b with
  | true =>
    exact ReadAs.intro (bytesOf_ofList ['t', 'r', 'u', 'e']) ⟨by decide, by decide⟩
      fun _ _ _ _ => rfl
  | false =>
    exact ReadAs.intro (bytesOf_ofList ['f', 'a', 'l', 's', 'e']) ⟨by decide, by decide⟩
      fun _ _ _ _ => rfl

theorem readBack_string (inner : Option (Reader Json)) (text : String) :
    ReadBack (valueWith inner) layout depth (.string text) := by
  refine ReadAs.intro (bytesOf_stringText text) ⟨by decide, by decide⟩ fun tail _ => ?_
  exact (reads_step _ _).bind (reads_stringRest text tail).bind_pure

theorem readBack_number (inner : Option (Reader Json)) {n : Number} (h : n.ReadsBack) :
    ReadBack (valueWith inner) layout depth (.number n) := by
  obtain ⟨b, w, hw, hb, -⟩ := reads_of_read h.read_text
  exact {
    begins := ⟨b, w, hw, beginsValue_of_isNumeralByte hb⟩
    reads := fun pad tail hp ht => Reads.blank_append hp (reads_number h ht) }

theorem value_eq_valueWith (budget : Nat) : ∃ inner, value budget = valueWith inner := by
  cases budget with
  | zero => exact ⟨none, rfl⟩
  | succ budget => exact ⟨some (value budget), rfl⟩

/-- What is needed of a value so that its text is read back: no more brackets open at once than
`budget`, and numbers that read back alone. -/
abbrev Legible (budget : Nat) (v : Json) : Prop := v.Bounded budget Number.ReadsBack

/-- **A legible value is read back.** -/
theorem readBack_value (hl : layout.Plain) {v : Json} {budget : Nat} (h : v.Legible budget) :
    ReadBack (value budget) layout depth v := by
  obtain ⟨inner, hinner⟩ := value_eq_valueWith budget
  -- Inside a bracket the budget is one less and the depth one more.
  induction v using Json.induction generalizing budget inner depth with
  | null => exact hinner ▸ readBack_null inner
  | bool b => exact hinner ▸ readBack_bool inner b
  | number n => exact hinner ▸ readBack_number inner (h.numbers n (List.mem_singleton.2 rfl))
  | string text => exact hinner ▸ readBack_string inner text
  | array items ih =>
    obtain ⟨budget, rfl⟩ := h.exists_of_array
    obtain ⟨inner', hinner'⟩ := value_eq_valueWith budget
    exact readBack_array hl fun v hv => ih v hv (bounded_array_iff.1 h v hv) inner' hinner'
  | object members ih =>
    obtain ⟨budget, rfl⟩ := h.exists_of_object
    obtain ⟨inner', hinner'⟩ := value_eq_valueWith budget
    exact readBack_object hl fun m hm => ih m hm (bounded_object_iff.1 h m hm) inner' hinner'

/-- **A written value is read as its canonical form**, if its numbers read back and it keeps
within the brackets that may be open at once. -/
theorem read_write (hl : layout.Plain) {v : Json} (h : v.Legible bracketBudget) :
    read (v.write layout) = .ok v.canonical := by
  have hv : ReadBack (value bracketBudget) layout 0 v := readBack_value hl h
  exact readWith_eq_ok (hv.reads [] [] blank_nil ends_nil)

end SurfaceStudio.Json
