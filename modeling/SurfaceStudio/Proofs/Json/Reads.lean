import SurfaceStudio.Json.Reader

/-!
# What a reading makes of a text

A reading is described by the bytes it takes and the result it returns, wherever in a text these
bytes stand.  Descriptions of the parts of a reading add up to one of the whole.

  • `bytesOf_append`, `fromUTF8?_bytesOf` — a text and its bytes,
  • `Reads` — a reading takes these bytes, in front of these, and returns this,
  • `Reads.bind` — one reading after the other,
  • `reads_peekToken?` — looking ahead behind white space.
-/

namespace SurfaceStudio.Json

open Reader

/-! ## §1. Texts and bytes. -/

theorem toList_loop (bs : ByteArray) (i : Nat) (found : List UInt8) :
    ByteArray.toList.loop bs i found = found.reverse ++ bs.data.toList.drop i := by
  -- Each round moves the byte at `i` from those that are left to those that are found.
  fun_induction ByteArray.toList.loop bs i found with
  | case1 i found hi ih =>
    have hi' : i < bs.data.toList.length := by simpa using hi
    rw [ih, List.drop_eq_getElem_cons hi', List.reverse_cons, List.append_assoc]
    have hget : bs.get! i = bs.data.toList[i] := by
      show bs.data[i]! = _
      rw [getElem!_pos bs.data i (by simpa using hi), Array.getElem_toList]
    rw [hget]
    rfl
  | case2 i found hi =>
    have hi' : bs.data.toList.length ≤ i := by simpa using hi
    rw [List.drop_eq_nil_of_le hi', List.append_nil]

theorem bytesOf_eq (text : String) : bytesOf text = text.toByteArray.data.toList := by
  show ByteArray.toList text.toUTF8 = _
  rw [ByteArray.toList, toList_loop]
  rfl

theorem bytesOf_append (s t : String) : bytesOf (s ++ t) = bytesOf s ++ bytesOf t := by
  rw [bytesOf_eq, bytesOf_eq, bytesOf_eq, String.toByteArray_append]
  simp

theorem bytesOf_ofList (cs : List Char) :
    bytesOf (String.ofList cs) = cs.flatMap String.utf8EncodeChar := by
  rw [bytesOf_eq, String.toByteArray_ofList]
  simp [List.utf8Encode]

theorem bytesOf_toList (text : String) :
    bytesOf text = text.toList.flatMap String.utf8EncodeChar := by
  rw [← bytesOf_ofList, String.ofList_toList]

theorem utf8EncodeChar_of_ascii {c : Char} (h : c.toNat < 0x80) :
    String.utf8EncodeChar c = [c.toUInt8] := by
  have hsize : c.utf8Size = 1 := by
    rw [Char.utf8Size_eq_one_iff, UInt32.le_iff_toNat_le]
    exact Nat.le_of_lt_succ h
  exact String.utf8EncodeChar_eq_singleton hsize

/-- **The bytes of a text are read back as that text.** -/
theorem fromUTF8?_bytesOf (text : String) :
    String.fromUTF8? ⟨(bytesOf text).toArray⟩ = some text := by
  have h : (⟨(bytesOf text).toArray⟩ : ByteArray) = text.toByteArray := by
    rw [bytesOf_eq]
  rw [h, String.fromUTF8?, dif_pos text.isValidUTF8]
  rfl

/-- Bytes that are read as a text are the bytes of it. -/
theorem bytesOf_of_fromUTF8? {bytes : List UInt8} {text : String}
    (h : String.fromUTF8? ⟨bytes.toArray⟩ = some text) : bytesOf text = bytes := by
  rw [String.fromUTF8?] at h
  split at h
  next hvalid =>
    injection h with h
    rw [bytesOf_eq, ← h]
    rfl
  next => cases h

/-! ## §2. Cursors. -/

namespace Cursor

theorem rest_step (c : Cursor) : c.step.rest = c.rest.tail := by
  obtain ⟨_ | ⟨b, rest⟩, line, column⟩ := c
  · rfl
  -- A line feed changes the place only.
  · show (if b = '\n'.toUInt8 then Cursor.mk rest (line + 1) 0
      else Cursor.mk rest line (column + 1)).rest = rest
    split <;> rfl

theorem rest_steps (n : Nat) (c : Cursor) : (c.steps n).rest = c.rest.drop n := by
  induction n generalizing c with
  | zero => rfl
  | succ n ih => rw [steps, ih, rest_step, List.drop_tail]

/-- Behind a run of bytes stands what the run leaves. -/
theorem rest_steps_takeWhile (p : UInt8 → Bool) (c : Cursor) :
    (c.steps (c.rest.takeWhile p).length).rest = c.rest.dropWhile p := by
  have hdrop : (c.rest.takeWhile p ++ c.rest.dropWhile p).drop (c.rest.takeWhile p).length
      = c.rest.dropWhile p := List.drop_left
  rw [List.takeWhile_append_dropWhile] at hdrop
  rw [rest_steps, hdrop]

theorem steps_add (m n : Nat) (c : Cursor) : c.steps (m + n) = (c.steps m).steps n := by
  induction m generalizing c with
  | zero => rw [Nat.zero_add, steps]
  | succ m ih => rw [Nat.add_right_comm, steps, ih, steps]

end Cursor

/-! ## §3. Readings. -/

variable {α β ε : Type}

theorem exists_of_except_bind {x : Except ε α} {f : α → Except ε β} {b : β}
    (h : x >>= f = .ok b) : ∃ a, x = .ok a ∧ f a = .ok b := by
  cases x with
  | error e => cases h
  | ok a => exact ⟨a, rfl, h⟩

theorem exists_of_except_map {x : Except ε α} {f : α → β} {b : β} (h : x.map f = .ok b) :
    ∃ a, x = .ok a ∧ f a = b := by
  cases x with
  | error e => cases h
  | ok a =>
    injection h with h
    exact ⟨a, rfl, h⟩

theorem bind_of_eq {r : Reader α} {f : α → Reader β} {c c' : Cursor} {a : α}
    (h : r c = .ok (a, c')) : (r >>= f) c = f a c' := by
  show (r c >>= fun p => f p.1 p.2) = _
  rw [h]
  rfl

theorem exists_of_bind_eq_ok {r : Reader α} {f : α → Reader β} {c c₂ : Cursor} {b : β}
    (h : (r >>= f) c = .ok (b, c₂)) : ∃ a c₁, r c = .ok (a, c₁) ∧ f a c₁ = .ok (b, c₂) := by
  change (r c >>= fun p => f p.1 p.2) = .ok (b, c₂) at h
  cases hr : r c with
  | error fault =>
    rw [hr] at h
    cases h
  | ok p =>
    rw [hr] at h
    exact ⟨p.1, p.2, rfl, h⟩

theorem bind_eq_ok_iff {r : Reader α} {f : α → Reader β} {c c₂ : Cursor} {b : β} :
    (r >>= f) c = .ok (b, c₂) ↔ ∃ a c₁, r c = .ok (a, c₁) ∧ f a c₁ = .ok (b, c₂) := by
  constructor
  · exact exists_of_bind_eq_ok
  · rintro ⟨a, c₁, hr, hf⟩
    rwa [bind_of_eq hr]

theorem pure_eq_ok_iff {a b : α} {c c' : Cursor} :
    (Pure.pure a : Reader α) c = .ok (b, c') ↔ a = b ∧ c = c' := by
  show Except.ok (a, c) = Except.ok (b, c') ↔ _
  rw [Except.ok.injEq, Prod.mk.injEq]

theorem return_eq_ok_iff {r : Reader α} {f : α → β} {c c' : Cursor} {b : β} :
    (r >>= fun a => Pure.pure (f a)) c = .ok (b, c') ↔ ∃ a, r c = .ok (a, c') ∧ f a = b := by
  rw [bind_eq_ok_iff]
  constructor
  · rintro ⟨a, c₁, hr, hb⟩
    obtain ⟨hab, rfl⟩ := pure_eq_ok_iff.1 hb
    exact ⟨a, hr, hab⟩
  · rintro ⟨a, hr, hb⟩
    exact ⟨a, c', hr, pure_eq_ok_iff.2 ⟨hb, rfl⟩⟩

/-- **The reading takes the bytes `w`, in front of `tail`, and returns `a`**, whatever line and
column they begin at. -/
def Reads (r : Reader α) (w tail : List UInt8) (a : α) : Prop :=
  ∀ line column,
    r ⟨w ++ tail, line, column⟩ = .ok (a, Cursor.steps w.length ⟨w ++ tail, line, column⟩)

namespace Reads

theorem pure (a : α) (tail : List UInt8) : Reads (Pure.pure a) [] tail a := fun _ _ => rfl

/-- What is read does not depend on how the place was reached. -/
theorem apply {r : Reader α} {w tail : List UInt8} {a : α} {c : Cursor} (h : Reads r w tail a)
    (hrest : c.rest = w ++ tail) : r c = .ok (a, c.steps w.length) := by
  obtain ⟨rest, line, column⟩ := c
  change rest = w ++ tail at hrest
  subst hrest
  exact h line column

/-- **One reading after the other** takes the bytes of both. -/
theorem bind {r : Reader α} {f : α → Reader β} {w u tail : List UInt8} {a : α} {b : β}
    (h : Reads r w (u ++ tail) a) (h' : Reads (f a) u tail b) :
    Reads (r >>= f) (w ++ u) tail b := by
  intro line column
  rw [List.append_assoc, bind_of_eq (h line column)]
  have hrest : (Cursor.steps w.length ⟨w ++ (u ++ tail), line, column⟩).rest = u ++ tail := by
    rw [Cursor.rest_steps, List.drop_left]
  rw [h'.apply hrest, List.length_append, Cursor.steps_add]

/-- A first part that takes nothing. -/
theorem bind_nil {r : Reader α} {f : α → Reader β} {w tail : List UInt8} {a : α} {b : β}
    (h : Reads r [] (w ++ tail) a) (h' : Reads (f a) w tail b) : Reads (r >>= f) w tail b :=
  h.bind h'

/-- A second part that takes nothing. -/
theorem bind_end {r : Reader α} {f : α → Reader β} {w tail : List UInt8} {a : α} {b : β}
    (h : Reads r w tail a) (h' : Reads (f a) [] tail b) : Reads (r >>= f) w tail b := by
  have hb := bind (u := []) h h'
  rwa [List.append_nil] at hb

/-- A result made from the result of the reading. -/
theorem bind_pure {r : Reader α} {f : α → β} {w tail : List UInt8} {a : α}
    (h : Reads r w tail a) : Reads (r >>= fun a => Pure.pure (f a)) w tail (f a) :=
  h.bind_end (Reads.pure (f a) tail)

end Reads

theorem reads_peek? (tail : List UInt8) : Reads peek? [] tail tail.head? := fun _ _ => rfl

theorem reads_bytesLeft (tail : List UInt8) : Reads bytesLeft [] tail tail.length :=
  fun _ _ => rfl

theorem reads_step (b : UInt8) (tail : List UInt8) : Reads Reader.step [b] tail () :=
  fun _ _ => rfl

theorem reads_next? (b : UInt8) (tail : List UInt8) : Reads next? [b] tail (some b) :=
  fun _ _ => rfl

/-! ## §4. White space. -/

/-- Nothing but white space. -/
def Blank (w : List UInt8) : Prop := ∀ b ∈ w, Cursor.isBlank b = true

/-- The bytes do not begin with white space. -/
def Solid (w : List UInt8) : Prop := ∀ b ∈ w.head?, Cursor.isBlank b = false

theorem solid_cons {b : UInt8} {w : List UInt8} (h : Cursor.isBlank b = false) :
    Solid (b :: w) := by
  intro b' hb'
  injection hb' with hb'
  exact hb' ▸ h

theorem reads_skipBlanks {w tail : List UInt8} (hw : Blank w) (ht : Solid tail) :
    Reads Reader.skipBlanks w tail () := by
  -- The run of white space ends where the tail begins.
  have hrun : (w ++ tail).takeWhile Cursor.isBlank = w := by
    rw [List.takeWhile_append_of_pos hw]
    cases tail with
    | nil => simp
    | cons b rest =>
      have hb : Cursor.isBlank b = false := ht b rfl
      rw [List.takeWhile_cons_of_neg (by simp [hb]), List.append_nil]
  intro line column
  show Except.ok ((), Cursor.steps ((w ++ tail).takeWhile Cursor.isBlank).length _) = _
  rw [hrun]

theorem reads_peekToken? {w tail : List UInt8} (hw : Blank w) (ht : Solid tail) :
    Reads peekToken? w tail tail.head? :=
  (reads_skipBlanks hw ht).bind_end (reads_peek? tail)

theorem reads_peekToken?_cons {w tail : List UInt8} {b : UInt8} (hw : Blank w)
    (hb : Cursor.isBlank b = false) : Reads peekToken? w (b :: tail) (some b) :=
  reads_peekToken? hw (solid_cons hb)

/-! ## §5. Whole texts. -/

/-- A reading that takes a whole text reads that text. -/
theorem readWith_eq_ok {r : Reader α} {w : List UInt8} {a : α} (h : Reads r w [] a) :
    readWith r w = .ok a := by
  have hr := h 1 0
  rw [List.append_nil] at hr
  rw [readWith, Cursor.start, hr]
  have hrest : (Cursor.steps w.length ⟨w, 1, 0⟩).rest = [] := by
    rw [Cursor.rest_steps, List.drop_length]
  generalize Cursor.steps w.length ⟨w, 1, 0⟩ = c at hrest
  obtain ⟨rest, line, column⟩ := c
  subst hrest
  rfl

theorem rest_skipBlanks (c : Cursor) : c.skipBlanks.rest = c.rest.dropWhile Cursor.isBlank := by
  rw [Cursor.skipBlanks, Cursor.rest_steps_takeWhile]

/-- What a reading of a whole text leaves is white space. -/
theorem exists_of_readWith_eq_ok {r : Reader α} {w : List UInt8} {a : α}
    (h : readWith r w = .ok a) : ∃ c, r (.start w) = .ok (a, c) ∧ Blank c.rest := by
  rw [readWith] at h
  cases hr : r (.start w) with
  | error fault =>
    rw [hr] at h
    cases h
  | ok p =>
    obtain ⟨a', c⟩ := p
    rw [hr] at h
    change (atEnd c >>= fun _ => Pure.pure a') = .ok a at h
    cases hend : atEnd c with
    | error fault =>
      rw [hend] at h
      cases h
    | ok q =>
      rw [hend] at h
      injection h with h
      subst h
      refine ⟨c, rfl, ?_⟩
      have hpeek : peekToken? c = .ok (c.skipBlanks.rest.head?, c.skipBlanks) := rfl
      rw [atEnd, bind_of_eq hpeek] at hend
      -- A text ends behind white space, or there is an objection.
      cases hhead : c.skipBlanks.rest with
      | nil =>
        rw [rest_skipBlanks] at hhead
        intro b hb
        have hall := List.takeWhile_append_dropWhile (p := Cursor.isBlank) (l := c.rest)
        rw [hhead, List.append_nil] at hall
        rw [← hall] at hb
        exact List.all_eq_true.1 List.all_takeWhile b hb
      | cons b rest =>
        rw [hhead] at hend
        cases hend

end SurfaceStudio.Json
