import Mathlib.Data.List.DropRight
import SurfaceStudio.Text.Blank

/-!
# Trimmed texts

Trimming takes off the blanks at both ends and nothing else, so a text is its trimming with blanks
around it.  A word ends at the first blank; what stands behind it is trimmed, so that it makes no
difference how many blanks there are in between.

  • `AllBlank`, `Tight` — nothing but blanks, and no blank at either end,
  • `trimChars_append`, `trimChars_eq_iff` — **what trimming takes off**,
  • `splitAtBlank_eq` — the first word and what stands behind it,
  • `firstWord_trimEnd` — **blanks at the end are no part of the word**.
-/

namespace SurfaceStudio.Text

/-! ## §1. Blanks. -/

/-- Nothing but blanks. -/
def AllBlank (text : List Char) : Prop := ∀ c ∈ text, isBlank c = true

/-- No blank at either end. -/
structure Tight (text : List Char) : Prop where
  first : ∀ c, text.head? = some c → isBlank c = false
  last : ∀ c, text.getLast? = some c → isBlank c = false

theorem allBlank_iff {text : String} : isBlankText text = true ↔ AllBlank text.toList :=
  List.all_eq_true

theorem allBlank_nil : AllBlank [] := fun _ h => nomatch h

theorem AllBlank.append {text other : List Char} (h : AllBlank text) (h' : AllBlank other) :
    AllBlank (text ++ other) := fun c hc => (List.mem_append.1 hc).elim (h c) (h' c)

theorem allBlank_takeWhile (text : List Char) : AllBlank (text.takeWhile isBlank) :=
  List.all_eq_true.1 List.all_takeWhile

theorem tight_nil : Tight [] := ⟨nofun, nofun⟩

/-! ## §2. Trimming. -/

theorem Tight.trimChars_eq {text : List Char} (h : Tight text) : trimChars text = text :=
  trimChars_of_ends h.first h.last

theorem trimEnd_append {text blanks : List Char} (h : AllBlank blanks) :
    trimEnd (text ++ blanks) = trimEnd text := by
  have hreverse : ∀ c ∈ blanks.reverse, isBlank c = true := fun c hc => h c (List.mem_reverse.1 hc)
  unfold trimEnd
  rw [List.reverse_append, List.dropWhile_append_of_pos hreverse]

/-- **Blanks around a text are taken off.** -/
theorem trimChars_append {before text behind : List Char} (h : AllBlank before)
    (h' : AllBlank behind) : trimChars (before ++ text ++ behind) = trimChars text := by
  unfold trimChars
  rw [List.append_assoc, List.dropWhile_append_of_pos h, List.dropWhile_append]
  split
  -- The text is nothing but blanks itself.
  next hempty =>
    rw [List.isEmpty_iff.1 hempty, List.dropWhile_eq_nil_iff.2 h']
  next => exact trimEnd_append h'

/-- A text that begins with no blank is trimmed at its end only. -/
theorem trimChars_cons {c : Char} (h : isBlank c = false) (text : List Char) :
    trimChars (c :: text) = c :: trimEnd text := by
  have hstart : (c :: text).dropWhile isBlank = c :: text :=
    List.dropWhile_cons_of_neg (by simp [h])
  rw [trimChars, hstart, trimEnd, trimEnd, List.reverse_cons, List.dropWhile_append]
  split
  next hempty => rw [List.isEmpty_iff.1 hempty, List.dropWhile_cons_of_neg (by simp [h])]; rfl
  next => rw [List.reverse_append]; rfl

/-- What is taken off at the end are blanks. -/
theorem exists_trimEnd_append (text : List Char) :
    ∃ blanks, AllBlank blanks ∧ text = trimEnd text ++ blanks := by
  refine ⟨(text.reverse.takeWhile isBlank).reverse, fun c hc => ?_, ?_⟩
  · exact allBlank_takeWhile _ c (List.mem_reverse.1 hc)
  · unfold trimEnd
    rw [← List.reverse_append, List.takeWhile_append_dropWhile, List.reverse_reverse]

/-- **Nothing but blanks is taken off.** -/
theorem exists_append_trimChars (text : List Char) : ∃ before behind,
    AllBlank before ∧ AllBlank behind ∧ text = before ++ trimChars text ++ behind := by
  obtain ⟨behind, hbehind, htext⟩ := exists_trimEnd_append (text.dropWhile isBlank)
  refine ⟨text.takeWhile isBlank, behind, allBlank_takeWhile text, hbehind, ?_⟩
  rw [trimChars, List.append_assoc, ← htext, List.takeWhile_append_dropWhile]

theorem eq_false_of_head?_dropWhile {p : Char → Bool} {text : List Char} {c : Char}
    (h : (text.dropWhile p).head? = some c) : p c = false := by
  have hhead := List.head?_dropWhile_not p text
  rw [h] at hhead
  exact hhead

/-- **No blank is left at either end.** -/
theorem tight_trimChars (text : List Char) : Tight (trimChars text) where
  first := by
    intro c hc
    obtain ⟨behind, -, htext⟩ := exists_trimEnd_append (text.dropWhile isBlank)
    -- What is left begins as it did before the end was trimmed.
    have hhead : (text.dropWhile isBlank).head? = some c := by
      rw [htext]
      exact List.head?_append.trans (by rw [show trimEnd _ = trimChars text from rfl, hc]; rfl)
    exact eq_false_of_head?_dropWhile hhead
  last := by
    intro c hc
    rw [trimChars, trimEnd, List.getLast?_reverse] at hc
    exact eq_false_of_head?_dropWhile hc

/-- **The trimming of a text** is what has no blank at either end and only blanks around it. -/
theorem trimChars_eq_iff {text trimmed : List Char} :
    trimChars text = trimmed ↔ Tight trimmed ∧
      ∃ before behind, AllBlank before ∧ AllBlank behind ∧ text = before ++ trimmed ++ behind := by
  constructor
  · rintro rfl
    exact ⟨tight_trimChars text, exists_append_trimChars text⟩
  · rintro ⟨htight, before, behind, hbefore, hbehind, rfl⟩
    rw [trimChars_append hbefore hbehind, htight.trimChars_eq]

theorem trimChars_eq_nil_iff {text : List Char} : trimChars text = [] ↔ AllBlank text := by
  rw [trimChars_eq_iff]
  constructor
  · rintro ⟨-, before, behind, hbefore, hbehind, rfl⟩
    rw [List.append_nil]
    exact hbefore.append hbehind
  · intro h
    exact ⟨tight_nil, text, [], h, allBlank_nil, by rw [List.append_nil, List.append_nil]⟩

theorem toList_trim (text : String) : (trim text).toList = trimChars text.toList :=
  String.toList_ofList

/-- A trimmed text is its own trimming. -/
theorem trim_trim (text : String) : trim (trim text) = trim text := by
  rw [trim, toList_trim, (tight_trimChars text.toList).trimChars_eq]
  rfl

/-- A text is blank if nothing is left of it. -/
theorem isBlankText_iff {text : String} : isBlankText text = true ↔ trim text = "" := by
  have hempty : trim text = "" ↔ trimChars text.toList = [] := by
    rw [← String.toList_inj, toList_trim, String.toList_empty]
  rw [hempty, trimChars_eq_nil_iff, allBlank_iff]

/-! ## §3. Words. -/

/-- The longest beginning without a blank. -/
def firstWord (text : List Char) : List Char := text.takeWhile fun c => !isBlank c

/-- What stands behind the first word. -/
def behindWord (text : List Char) : List Char := text.dropWhile fun c => !isBlank c

/-- The split is made at the blank behind the first word. -/
theorem splitAtBlank_eq (text : List Char) :
    splitAtBlank text = (firstWord text, (behindWord text).tail?) := by
  induction text with
  | nil => rfl
  | cons c rest ih =>
    unfold firstWord behindWord at ih ⊢
    rw [splitAtBlank, ih, List.takeWhile_cons, List.dropWhile_cons]
    cases isBlank c with
    | true => rfl
    | false => rfl

/-- The blank at which the split is made would be taken off anyway. -/
theorem trimChars_splitAtBlank (text : List Char) :
    trimChars ((splitAtBlank text).2.getD []) = trimChars (behindWord text) := by
  rw [splitAtBlank_eq]
  show trimChars ((behindWord text).tail?.getD []) = _
  cases hrest : behindWord text with
  | nil => rfl
  | cons b rest =>
    have hhead : (behindWord text).head? = some b := by rw [hrest]; rfl
    have hb : AllBlank [b] := by
      intro c hc
      rw [List.mem_singleton.1 hc]
      simpa using eq_false_of_head?_dropWhile hhead
    have hskip : trimChars ([b] ++ rest ++ []) = trimChars rest := trimChars_append hb allBlank_nil
    rw [List.append_nil] at hskip
    exact hskip.symm

theorem firstWord_of_allBlank {text : List Char} (h : AllBlank text) : firstWord text = [] := by
  cases text with
  | nil => rfl
  | cons b rest =>
    have hb : isBlank b = true := h b List.mem_cons_self
    rw [firstWord, List.takeWhile_cons_of_neg (by simp [hb])]

/-- A word, and then a text that does not go on with it. -/
theorem firstWord_append {word text : List Char} (hword : ∀ c ∈ word, isBlank c = false)
    (htext : firstWord text = []) :
    firstWord (word ++ text) = word ∧ behindWord (word ++ text) = text := by
  have hinside : ∀ c ∈ word, (!isBlank c) = true := fun c hc => by rw [hword c hc]; rfl
  have hrest : behindWord text = text := by
    have hall := List.takeWhile_append_dropWhile (p := fun c => !isBlank c) (l := text)
    change firstWord text ++ behindWord text = text at hall
    rwa [htext] at hall
  unfold firstWord behindWord at *
  rw [List.takeWhile_append_of_pos hinside, List.dropWhile_append_of_pos hinside, htext, hrest,
    List.append_nil]
  exact ⟨rfl, rfl⟩

/-- **Blanks at the end are no part of the first word, and go with what stands behind it.** -/
theorem firstWord_append_blanks (text : List Char) {blanks : List Char} (h : AllBlank blanks) :
    firstWord (text ++ blanks) = firstWord text
      ∧ behindWord (text ++ blanks) = behindWord text ++ blanks := by
  induction text with
  | nil =>
    have hnone : ∀ c ∈ [], isBlank c = false := fun _ h => nomatch h
    exact firstWord_append hnone (firstWord_of_allBlank h)
  | cons c rest ih =>
    unfold firstWord behindWord at ih ⊢
    rw [List.cons_append, List.takeWhile_cons, List.dropWhile_cons, List.takeWhile_cons,
      List.dropWhile_cons]
    cases isBlank c with
    | true => exact ⟨rfl, rfl⟩
    | false => exact ⟨congrArg (c :: ·) ih.1, ih.2⟩

/-- **Trimming the end does not change the first word**, nor the trimming of what stands behind. -/
theorem firstWord_trimEnd (text : List Char) : firstWord (trimEnd text) = firstWord text
    ∧ trimChars (behindWord (trimEnd text)) = trimChars (behindWord text) := by
  obtain ⟨blanks, hblanks, htext⟩ := exists_trimEnd_append text
  obtain ⟨hfirst, hbehind⟩ := firstWord_append_blanks (trimEnd text) hblanks
  rw [← htext] at hfirst hbehind
  have hsame : trimChars ([] ++ behindWord (trimEnd text) ++ blanks)
      = trimChars (behindWord (trimEnd text)) := trimChars_append allBlank_nil hblanks
  rw [hfirst, hbehind]
  exact ⟨rfl, hsame.symm⟩

end SurfaceStudio.Text
