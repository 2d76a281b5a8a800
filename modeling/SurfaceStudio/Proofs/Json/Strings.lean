import SurfaceStudio.Json.Writer
import SurfaceStudio.Proofs.Json.Reads

/-!
# Strings are read back as they were written

A string is written character by character, with escapes where they are needed, and read byte by
byte.  The pieces that the reading gathers are, put together, the bytes of the string.

  • `reads_stringPiece_plain`, `reads_escape_short`, `reads_escape_code` — one piece of a string,
  • `reads_stringPieces` — the pieces up to the closing quote,
  • `reads_stringRest` — **a written string is read as that string**.
-/

namespace SurfaceStudio.Json

open Reader

/-! ## §1. Bytes that stand for themselves. -/

/-- A byte that a string may hold as it is. -/
def PlainByte (b : UInt8) : Prop := b ≠ '"'.toUInt8 ∧ b ≠ '\\'.toUInt8 ∧ ¬ b < 0x20

/-- Only the characters of ASCII are encoded in bytes below `0x80`, and each in one. -/
theorem mem_utf8EncodeChar {c : Char} {b : UInt8} (h : b ∈ String.utf8EncodeChar c) :
    0x80 ≤ b.toNat ∨ b.toNat = c.toNat := by
  have hval : c.val.toNat = c.toNat := rfl
  unfold String.utf8EncodeChar at h
  simp only [hval] at h
  split at h
  · rw [List.mem_singleton] at h
    subst h
    right
    rw [UInt8.toNat_ofNat']
    omega
  -- Every byte of a longer encoding has its highest bit set.
  · left
    split at h
    · simp only [List.mem_cons, List.not_mem_nil, or_false] at h
      rcases h with rfl | rfl <;> rw [UInt8.toNat_ofNat'] <;> omega
    · split at h
      · simp only [List.mem_cons, List.not_mem_nil, or_false] at h
        rcases h with rfl | rfl | rfl <;> rw [UInt8.toNat_ofNat'] <;> omega
      · simp only [List.mem_cons, List.not_mem_nil, or_false] at h
        rcases h with rfl | rfl | rfl | rfl <;> rw [UInt8.toNat_ofNat'] <;> omega

theorem plainByte_of_mem_utf8EncodeChar {c : Char} {b : UInt8} (hq : c ≠ '"') (hs : c ≠ '\\')
    (hc : ¬ c.toNat < 0x20) (h : b ∈ String.utf8EncodeChar c) : PlainByte b := by
  have hne : ∀ c' : Char, c'.toNat < 0x80 → c ≠ c' → b.toNat ≠ c'.toNat := by
    intro c' hlt hcc hb
    rcases mem_utf8EncodeChar h with h | h
    · omega
    · exact hcc (Char.toNat_inj.1 (h.symm.trans hb))
  refine ⟨?_, ?_, ?_⟩
  · rintro rfl
    exact hne '"' (by decide) hq (by decide)
  · rintro rfl
    exact hne '\\' (by decide) hs (by decide)
  · intro hb
    have hlt : b.toNat < 0x20 := hb
    rcases mem_utf8EncodeChar h with h | h <;> omega

/-! ## §2. One piece. -/

theorem reads_stringPiece_end (tail : List UInt8) :
    Reads stringPiece ['"'.toUInt8] tail none := fun _ _ => rfl

theorem reads_stringPiece_plain {b : UInt8} (h : PlainByte b) (tail : List UInt8) :
    Reads stringPiece [b] tail (some [b]) := by
  obtain ⟨hq, hs, hc⟩ := h
  refine (reads_next? b tail).bind_end ?_
  show Reads (if b = '"'.toUInt8 then _ else if b = '\\'.toUInt8 then _ else if b < 0x20 then _
    else _) [] tail _
  rw [if_neg hq, if_neg hs, if_neg hc]
  exact Reads.pure _ tail

theorem reads_stringPiece_escape {w bytes tail : List UInt8} (h : Reads escape w tail bytes) :
    Reads stringPiece ('\\'.toUInt8 :: w) tail (some bytes) :=
  (reads_next? '\\'.toUInt8 (w ++ tail)).bind h.bind_pure

theorem reads_escape_short {b b' : UInt8} (hu : b ≠ 'u'.toUInt8) (h : shortEscape? b = some b')
    (tail : List UInt8) : Reads escape [b] tail [b'] := by
  refine (reads_next? b tail).bind_end ?_
  show Reads (if b = 'u'.toUInt8 then _ else _) [] tail _
  rw [if_neg hu, h]
  exact Reads.pure _ tail

theorem reads_fourHex {w : List UInt8} {n : Nat} (hw : w.length = 4) (h : hexNumber? w = some n)
    (tail : List UInt8) : Reads fourHex w tail n := by
  intro line column
  have hlen : ¬ (w ++ tail).length < 4 := by
    rw [List.length_append]
    omega
  have htake : (w ++ tail).take 4 = w := by
    rw [← hw, List.take_left]
  rw [fourHex, if_neg hlen, htake, h, hw]

/-- The four digits that a control character is written with stand for its code. -/
theorem hexNumber?_control {n : Nat} (h : n < 0x20) :
    hexNumber? (['0', '0', hexDigit (n / 16), hexDigit (n % 16)].flatMap String.utf8EncodeChar)
        = some n
      ∧ (['0', '0', hexDigit (n / 16), hexDigit (n % 16)].flatMap String.utf8EncodeChar).length
        = 4 := by
  -- There are no more than 32 of them to try.
  revert n
  decide

theorem reads_escape_code {c : Char} (h : c.toNat < 0x20) (tail : List UInt8) :
    Reads escape
      (['u', '0', '0', hexDigit (c.toNat / 16), hexDigit (c.toNat % 16)].flatMap
        String.utf8EncodeChar)
      tail (String.utf8EncodeChar c) := by
  obtain ⟨hn, hlen⟩ := hexNumber?_control h
  have hcode : Reads codeEscape
      (['0', '0', hexDigit (c.toNat / 16), hexDigit (c.toNat % 16)].flatMap String.utf8EncodeChar)
      tail c := by
    have hf := (reads_fourHex hlen hn tail).bind_pure (f := Char.ofNat)
    -- A code below the plain space is no half of a surrogate pair.
    have htrail : isTrailing c.toNat = false := by
      simp only [isTrailing, Bool.and_eq_false_iff, decide_eq_false_iff_not]
      omega
    have hlead : isLeading c.toNat = false := by
      simp only [isLeading, Bool.and_eq_false_iff, decide_eq_false_iff_not]
      omega
    rw [Char.ofNat_toNat] at hf
    intro line column
    have hline := hf line column
    rw [bind_of_eq (reads_fourHex hlen hn tail line column)] at hline
    rw [codeEscape, bind_of_eq (reads_fourHex hlen hn tail line column), htrail, hlead]
    simpa using hline
  exact (reads_next? 'u'.toUInt8 _).bind hcode.bind_pure

/-! ## §3. All pieces. -/

/-- The bytes that characters are written with inside a string. -/
def escapedBytes (cs : List Char) : List UInt8 :=
  cs.flatMap fun c => (escapedChar c).flatMap String.utf8EncodeChar

theorem reads_stringPieces_cons {fuel : Nat} {pieces : List (List UInt8)} {piece : List UInt8}
    {w u tail bytes : List UInt8} (h : Reads stringPiece w (u ++ tail) (some piece))
    (h' : Reads (stringPieces fuel (piece :: pieces)) u tail bytes) :
    Reads (stringPieces (fuel + 1) pieces) (w ++ u) tail bytes :=
  h.bind h'

/-- Bytes that stand for themselves are a piece each. -/
theorem reads_stringPieces_plain {bs : List UInt8} (hb : ∀ b ∈ bs, PlainByte b) {fuel : Nat}
    {pieces : List (List UInt8)} {u tail bytes : List UInt8}
    (h : Reads (stringPieces fuel ((bs.map fun b => [b]).reverse ++ pieces)) u tail bytes) :
    Reads (stringPieces (fuel + bs.length) pieces) (bs ++ u) tail bytes := by
  induction bs generalizing pieces with
  | nil => exact h
  | cons b bs ih =>
    have hrest : Reads (stringPieces (fuel + bs.length) ([b] :: pieces)) (bs ++ u) tail bytes := by
      refine ih (fun b' hb' => hb b' (List.mem_cons_of_mem _ hb')) ?_
      rwa [List.map_cons, List.reverse_cons, List.append_assoc] at h
    refine reads_stringPieces_cons (w := [b]) ?_ hrest
    exact reads_stringPiece_plain (hb b List.mem_cons_self) _

/-- How a character is written: by a short escape, by its code, or as it is. -/
theorem escapedChar_cases (c : Char) :
    (∃ b, b ≠ 'u'.toUInt8 ∧ (escapedChar c).flatMap String.utf8EncodeChar = ['\\'.toUInt8, b]
      ∧ (shortEscape? b).map ([·]) = some (String.utf8EncodeChar c))
    ∨ (c.toNat < 0x20 ∧ escapedChar c
      = '\\' :: ['u', '0', '0', hexDigit (c.toNat / 16), hexDigit (c.toNat % 16)])
    ∨ (c ≠ '"' ∧ c ≠ '\\' ∧ ¬ c.toNat < 0x20 ∧ escapedChar c = [c]) := by
  -- The characters with a short escape one by one.
  by_cases hq : c = '"'
  · exact .inl ⟨'"'.toUInt8, by subst hq; decide⟩
  by_cases hs : c = '\\'
  · exact .inl ⟨'\\'.toUInt8, by subst hs; decide⟩
  by_cases hb : c = '\x08'
  · exact .inl ⟨'b'.toUInt8, by subst hb; decide⟩
  by_cases ht : c = '\t'
  · exact .inl ⟨'t'.toUInt8, by subst ht; decide⟩
  by_cases hn : c = '\n'
  · exact .inl ⟨'n'.toUInt8, by subst hn; decide⟩
  by_cases hf : c = '\x0c'
  · exact .inl ⟨'f'.toUInt8, by subst hf; decide⟩
  by_cases hr : c = '\r'
  · exact .inl ⟨'r'.toUInt8, by subst hr; decide⟩
  right
  unfold escapedChar
  rw [if_neg hq, if_neg hs, if_neg hb, if_neg ht, if_neg hn, if_neg hf, if_neg hr]
  by_cases hc : c.toNat < 0x20
  · exact .inl ⟨hc, by rw [if_pos hc]⟩
  · exact .inr ⟨hq, hs, hc, by rw [if_neg hc]⟩

/-- **The pieces of a written string**, put together, are its bytes. -/
theorem reads_stringPieces (cs : List Char) (tail : List UInt8) (fuel : Nat)
    (pieces : List (List UInt8)) (hfuel : (escapedBytes cs).length < fuel) :
    Reads (stringPieces fuel pieces) (escapedBytes cs ++ ['"'.toUInt8]) tail
      (pieces.reverse.flatten ++ cs.flatMap String.utf8EncodeChar) := by
  -- The pieces gathered so far grow, and every piece takes from the fuel.
  induction cs generalizing fuel pieces with
  | nil =>
    obtain ⟨fuel, rfl⟩ : ∃ f, fuel = f + 1 := ⟨fuel - 1, by omega⟩
    rw [List.flatMap_nil, List.append_nil]
    exact (reads_stringPiece_end tail).bind_end (Reads.pure _ tail)
  | cons c cs ih =>
    rw [escapedBytes, List.flatMap_cons, ← escapedBytes] at hfuel ⊢
    rw [List.length_append] at hfuel
    rw [List.flatMap_cons, List.append_assoc]
    rcases escapedChar_cases c with ⟨b, hu, hw, hb⟩ | ⟨hc, hw⟩ | ⟨hq, hs, hc, hw⟩
    · rw [hw] at hfuel ⊢
      obtain ⟨fuel, rfl⟩ : ∃ f, fuel = f + 1 := ⟨fuel - 1, by omega⟩
      -- A short escape is one piece.
      obtain ⟨b', hb', hbytes⟩ := Option.map_eq_some_iff.1 hb
      have hrest := ih fuel ([b'] :: pieces) (by simp at hfuel; omega)
      rw [List.reverse_cons, List.flatten_append, List.append_assoc] at hrest
      rw [← hbytes]
      refine reads_stringPieces_cons (w := ['\\'.toUInt8, b])
        (reads_stringPiece_escape (reads_escape_short hu hb' _)) ?_
      simpa using hrest
    · rw [hw, List.flatMap_cons] at hfuel ⊢
      obtain ⟨fuel, rfl⟩ : ∃ f, fuel = f + 1 := ⟨fuel - 1, by omega⟩
      -- So is the code of a control character.
      have hrest := ih fuel (String.utf8EncodeChar c :: pieces) (by
        rw [List.length_append] at hfuel
        have hone : (String.utf8EncodeChar '\\').length = 1 := by decide
        omega)
      rw [List.reverse_cons, List.flatten_append, List.append_assoc] at hrest
      exact reads_stringPieces_cons (reads_stringPiece_escape (reads_escape_code hc _))
        (by simpa using hrest)
    · rw [hw, List.flatMap_singleton] at hfuel ⊢
      obtain ⟨fuel, rfl⟩ : ∃ f, fuel = f + (String.utf8EncodeChar c).length :=
        ⟨fuel - (String.utf8EncodeChar c).length, by omega⟩
      -- Any other character is a piece for each of its bytes.
      have hrest := ih fuel (((String.utf8EncodeChar c).map fun b => [b]).reverse ++ pieces)
        (by omega)
      refine reads_stringPieces_plain
        (fun b hb => plainByte_of_mem_utf8EncodeChar hq hs hc hb) ?_
      have hflat : ((String.utf8EncodeChar c).map fun b => [b]).flatten
          = String.utf8EncodeChar c := by
        rw [← List.flatMap_def, List.flatMap_singleton']
      rwa [List.reverse_append, List.reverse_reverse, List.flatten_append, hflat,
        List.append_assoc] at hrest

/-! ## §4. Strings. -/

/-- What stands behind the opening quote of a written string. -/
def stringBody (text : String) : List UInt8 := escapedBytes text.toList ++ ['"'.toUInt8]

theorem bytesOf_stringText (text : String) :
    bytesOf (stringText text) = '"'.toUInt8 :: stringBody text := by
  have hquote : bytesOf "\"" = ['"'.toUInt8] := bytesOf_ofList ['"']
  rw [stringText, bytesOf_append, bytesOf_append, hquote, bytesOf_ofList, List.flatMap_assoc]
  rfl

/-- **A written string is read as that string.** -/
theorem reads_stringRest (text : String) (tail : List UInt8) :
    Reads stringRest (stringBody text) tail text := by
  refine (reads_bytesLeft (stringBody text ++ tail)).bind_nil ?_
  have hpieces := reads_stringPieces text.toList tail ((stringBody text ++ tail).length + 1)
    [] (by simp only [stringBody, List.length_append]; omega)
  have hbytes : ([] : List (List UInt8)).reverse.flatten
      ++ text.toList.flatMap String.utf8EncodeChar = bytesOf text := (bytesOf_toList text).symm
  rw [hbytes] at hpieces
  refine hpieces.bind_end ?_
  rw [fromUTF8?_bytesOf]
  exact Reads.pure text tail

end SurfaceStudio.Json
