import SurfaceStudio.Console.Presenter
import SurfaceStudio.Proofs.Console.Layout
import SurfaceStudio.Proofs.Json.Numbers
import SurfaceStudio.Proofs.Json.Values
import SurfaceStudio.Proofs.Render.Schema
import SurfaceStudio.Proofs.Surface.RoundTrip
import SurfaceStudio.Text.Parts

/-!
# Lines that stay lines

A listing is printed line by line, so what a surface says can pass for anything else on the screen
as soon as one of its lines breaks.  Quoted texts and the properties of a fallback are written with
escapes and never break a line.  Ids, tags, variants, labels, actions, sources, items and colors
are shown as they are, and break the line that they stand in whenever they break themselves.

  • `OneLine` — a text without a character that ends a line,
  • `oneLine_quoted`, `oneLine_compact` — escapes keep what they are written for on its line,
  • `Primitive.plainTexts`, `Surface.Unbroken` — the texts that are shown as they are,
  • `Primitive.oneLine_head_iff`, `Surface.oneLine_listing_iff` — **a line breaks exactly if a text
    on it does that is shown as it is**,
  • `rowsOf`, `Imitates` — what the screen shows, and what it could be taken for,
  • `Surface.Lined`, `Surface.lined` — all of that for every surface.
-/

namespace SurfaceStudio

open Json

/-! ## §1. Texts on one line. -/

/-- The character does not end a line. -/
def KeepsLine (c : Char) : Prop := c ≠ '\n' ∧ c ≠ '\r'

instance (c : Char) : Decidable (KeepsLine c) := inferInstanceAs (Decidable (_ ∧ _))

/-- None of the characters ends a line. -/
def AllKeepLine (l : List Char) : Prop := ∀ c ∈ l, KeepsLine c

-- The characters of the list are looked at, and not all that there are.
instance (l : List Char) : Decidable (AllKeepLine l) := List.decidableBAll KeepsLine l

/-- No character of the text ends a line. -/
def OneLine (text : String) : Prop := AllKeepLine text.toList

instance (text : String) : Decidable (OneLine text) :=
  inferInstanceAs (Decidable (AllKeepLine text.toList))

@[simp] theorem oneLine_append {s t : String} : OneLine (s ++ t) ↔ OneLine s ∧ OneLine t := by
  simp only [OneLine, AllKeepLine, String.toList_append, List.mem_append, or_imp, forall_and]

theorem oneLine_ofList {l : List Char} (h : AllKeepLine l) : OneLine (String.ofList l) := by
  intro c hc
  rw [String.toList_ofList] at hc
  exact h c hc

theorem allKeepLine_singleton {c : Char} (h : KeepsLine c) : AllKeepLine [c] :=
  fun _ hc => List.mem_singleton.1 hc ▸ h

theorem allKeepLine_append {l l' : List Char} (h : AllKeepLine l) (h' : AllKeepLine l') :
    AllKeepLine (l ++ l') :=
  fun c hc => (List.mem_append.1 hc).elim (h c) (h' c)

theorem allKeepLine_replicate (n : Nat) {c : Char} (h : KeepsLine c) :
    AllKeepLine (List.replicate n c) :=
  fun _ hc => List.eq_of_mem_replicate hc ▸ h

theorem oneLine_of_numeralText {text : String} (h : NumeralText text) : OneLine text := by
  intro c hc
  have hnumeral := h c hc
  constructor
  · rintro rfl
    exact absurd hnumeral (by decide)
  · rintro rfl
    exact absurd hnumeral (by decide)

/-! ## §2. Escapes. -/

theorem allKeepLine_toDigits (n : Nat) : AllKeepLine (Nat.toDigits 16 n) := by
  have hdigit : ∀ d < 16, AllKeepLine [d.digitChar] := by decide
  induction n using Nat.strongRecOn with
  | ind n ih =>
    rw [Nat.toDigits_eq_if (by decide)]
    split
    next hsmall => exact hdigit n hsmall
    next =>
      have hleft : n / 16 < n := by omega
      exact allKeepLine_append (ih (n / 16) hleft) (hdigit (n % 16) (Nat.mod_lt n (by decide)))

/-- One way to write a character, or else another. -/
theorem allKeepLine_ite {p : Prop} [Decidable p] {l l' : List Char} (h : AllKeepLine l)
    (h' : ¬ p → AllKeepLine l') : AllKeepLine (if p then l else l') := by
  split
  next => exact h
  next hp => exact h' hp

theorem allKeepLine_escaped (c : Char) : AllKeepLine (Text.escaped c) := by
  unfold Text.escaped
  -- Six short escapes, the code of a hidden character, and what is shown as it is.
  refine allKeepLine_ite (by decide) fun _ => ?_
  refine allKeepLine_ite (by decide) fun _ => ?_
  refine allKeepLine_ite (by decide) fun _ => ?_
  refine allKeepLine_ite (by decide) fun _ => ?_
  refine allKeepLine_ite (by decide) fun _ => ?_
  refine allKeepLine_ite (by decide) fun _ => ?_
  refine allKeepLine_ite ?_ fun hshown => ?_
  · rw [Text.hexCode, String.toList_ofList]
    exact allKeepLine_append (allKeepLine_append (by decide) (allKeepLine_toDigits _)) (by decide)
  · exact allKeepLine_singleton (Text.not_newline_of_not_hidden (Bool.not_eq_true _ ▸ hshown))

theorem keepsLine_hexDigit (n : Nat) : KeepsLine (hexDigit n) := by
  have hdigits := allKeepLine_toDigits n
  unfold hexDigit
  cases h : Nat.toDigits 16 n with
  | nil => decide
  | cons d ds => exact hdigits d (h.symm ▸ List.mem_cons_self)

theorem allKeepLine_escapedChar (c : Char) : AllKeepLine (escapedChar c) := by
  unfold escapedChar
  refine allKeepLine_ite (by decide) fun _ => ?_
  refine allKeepLine_ite (by decide) fun _ => ?_
  refine allKeepLine_ite (by decide) fun _ => ?_
  refine allKeepLine_ite (by decide) fun _ => ?_
  refine allKeepLine_ite (by decide) fun hn => ?_
  refine allKeepLine_ite (by decide) fun _ => ?_
  refine allKeepLine_ite (by decide) fun hr => ?_
  refine allKeepLine_ite ?_ fun _ => allKeepLine_singleton ⟨hn, hr⟩
  -- The code of a control stands behind four characters that are always the same.
  have hopening : AllKeepLine ['\\', 'u', '0', '0'] := by decide
  have hhigh := allKeepLine_singleton (keepsLine_hexDigit (c.toNat / 16))
  have hlow := allKeepLine_singleton (keepsLine_hexDigit (c.toNat % 16))
  exact allKeepLine_append hopening (allKeepLine_append hhigh hlow)

/-- Between quotes, a text is written on one line if each of its characters is. -/
theorem oneLine_between_quotes {f : Char → List Char} (h : ∀ c, AllKeepLine (f c))
    (text : String) : OneLine ("\"" ++ String.ofList (text.toList.flatMap f) ++ "\"") := by
  have hquote : OneLine "\"" := by decide
  have hbody : OneLine (String.ofList (text.toList.flatMap f)) := by
    refine oneLine_ofList fun c hc => ?_
    obtain ⟨c', -, hc⟩ := List.mem_flatMap.1 hc
    exact h c' c hc
  exact oneLine_append.2 ⟨oneLine_append.2 ⟨hquote, hbody⟩, hquote⟩

/-- **A quoted text is one line.** -/
@[simp] theorem oneLine_quoted (text : String) : OneLine (Text.quoted text) :=
  oneLine_between_quotes allKeepLine_escaped text

theorem oneLine_stringText (text : String) : OneLine (stringText text) :=
  oneLine_between_quotes allKeepLine_escapedChar text

/-- Nothing that the layout puts between the parts of a value ends a line. -/
structure Json.Layout.Flat (layout : Layout) : Prop where
  gap : ∀ depth, OneLine (layout.gap depth)
  colon : OneLine layout.colon

theorem Json.Layout.flat_compact : Layout.compact.Flat where
  gap _ := (by decide : OneLine "")
  colon := by decide

section Values

variable {layout : Layout} {depth : Nat}

theorem oneLine_writeItems (hl : layout.Flat) {vs : List Json}
    (h : ∀ v ∈ vs, OneLine (writeAt layout depth v)) : OneLine (writeItems layout depth vs) := by
  induction vs with
  | nil => exact (by decide : OneLine "")
  | cons v vs ih =>
    have hfirst := h v List.mem_cons_self
    have hothers := ih fun v' hv' => h v' (List.mem_cons_of_mem _ hv')
    rw [writeItems]
    simp +decide [hl.gap, hfirst, hothers]

theorem oneLine_writeMembers (hl : layout.Flat) {ms : Members}
    (h : ∀ m ∈ ms, OneLine (writeAt layout depth m.2)) :
    OneLine (writeMembers layout depth ms) := by
  induction ms with
  | nil => exact (by decide : OneLine "")
  | cons m ms ih =>
    obtain ⟨k, v⟩ := m
    have hfirst : OneLine (writeAt layout depth v) := h (k, v) List.mem_cons_self
    have hothers := ih fun m' hm' => h m' (List.mem_cons_of_mem _ hm')
    rw [writeMembers]
    simp +decide [hl.gap, hl.colon, oneLine_stringText, hfirst, hothers]

/-- A flat layout writes a value on one line. -/
theorem oneLine_writeAt (hl : layout.Flat) (v : Json) (depth : Nat) :
    OneLine (writeAt layout depth v) := by
  induction v using Json.induction generalizing depth with
  | null => exact (by decide : OneLine "null")
  | bool b =>
    cases b with
    | true => exact (by decide : OneLine "true")
    | false => exact (by decide : OneLine "false")
  | number n => exact oneLine_of_numeralText (numeralText_text n)
  | string text => exact oneLine_stringText text
  | array items ih =>
    cases items with
    | nil => exact (by decide : OneLine "[]")
    | cons v vs =>
      have hfirst := ih v List.mem_cons_self (depth + 1)
      have hothers : OneLine (writeItems layout (depth + 1) vs) :=
        oneLine_writeItems hl fun v' hv' => ih v' (List.mem_cons_of_mem _ hv') (depth + 1)
      rw [writeAt]
      simp +decide [hl.gap, hfirst, hothers]
  | object members ih =>
    cases members with
    | nil => exact (by decide : OneLine "\x7b\x7d")
    | cons m ms =>
      obtain ⟨k, v⟩ := m
      have hfirst : OneLine (writeAt layout (depth + 1) v) :=
        ih (k, v) List.mem_cons_self (depth + 1)
      have hothers : OneLine (writeMembers layout (depth + 1) ms) :=
        oneLine_writeMembers hl fun m' hm' => ih m' (List.mem_cons_of_mem _ hm') (depth + 1)
      rw [writeAt]
      simp +decide [hl.gap, hl.colon, oneLine_stringText, hfirst, hothers]

end Values

/-- **A value without blanks is written on one line.** -/
@[simp] theorem oneLine_compact (v : Json) : OneLine v.compact :=
  oneLine_writeAt Layout.flat_compact v 0

/-! ## §3. Lines of a primitive. -/

@[simp] theorem oneLine_indent (depth : Nat) : OneLine (indent depth) :=
  oneLine_ofList (allKeepLine_replicate _ (by decide))

@[simp] theorem oneLine_bar (value : Binary64) : OneLine (bar value) := by
  refine oneLine_ofList (allKeepLine_append ?_ ?_)
  · exact allKeepLine_replicate _ (by decide)
  · exact allKeepLine_replicate _ (by decide)

@[simp] theorem oneLine_plainText (value : Binary64) : OneLine value.plainText :=
  oneLine_of_numeralText ((numeralText_sign _).append (numeralText_positional _))

/-- What is appended stays on the line if the text does in the form that it is given. -/
theorem oneLine_appended {before : String} {text : Option String} {form : String → String}
    (h : OneLine before) :
    OneLine (appended before text form) ↔ ∀ t ∈ text, OneLine (form t) := by
  cases text with
  | none => exact iff_of_true (by decide : OneLine "") (by simp)
  | some t => simp [appended, h]

@[simp] theorem oneLine_appended_quoted {before : String} {text : Option String}
    (h : OneLine before) : OneLine (appended before text Text.quoted) :=
  (oneLine_appended h).2 fun t _ => oneLine_quoted t

namespace Primitive

/-- The texts that are shown as they are on the primitive's own line. -/
def plainTexts : Primitive → List String
  | .text _ variant => [variant]
  | .card .. => []
  | .button label variant action => variant :: label :: action.toList
  | .image src _ _ => [src]
  | .list .. => []
  | .statBar label _ color => label :: color.toList
  | .fallback tag _ _ => [tag]
  | .failed tag _ => [tag]

/-- **A primitive's own line breaks exactly if a text does that is shown as it is.** -/
theorem oneLine_head_iff {q : Primitive}
    (h : ∀ tag fault, q = .failed tag fault → OneLine fault.message) :
    OneLine q.head ↔ ∀ text ∈ q.plainTexts, OneLine text := by
  -- The last part of the line is split off, so that the simplifier meets the others.
  cases q with
  | text content variant => exact oneLine_append.trans (by simp +decide [plainTexts])
  | card title children => exact oneLine_append.trans (by simp +decide [plainTexts])
  | button label variant action =>
    exact oneLine_append.trans (by simp +decide [plainTexts, oneLine_appended, and_assoc])
  | image src alt caption => exact oneLine_append.trans (by simp +decide [plainTexts])
  | list title items children => exact oneLine_append.trans (by simp +decide [plainTexts])
  | statBar label value color =>
    exact oneLine_append.trans (by simp +decide [plainTexts, oneLine_appended])
  | fallback tag props children => exact oneLine_append.trans (by simp +decide [plainTexts])
  | failed tag fault =>
    have hmessage := h tag fault rfl
    exact oneLine_append.trans (by simp +decide [plainTexts, hmessage])

/-- The line of an item breaks exactly if the item does. -/
theorem oneLine_ownLines_iff {q : Primitive} {depth : Nat} :
    (∀ line ∈ q.ownLines depth, OneLine line)
      ↔ OneLine q.head ∧ ∀ item ∈ q.items, OneLine item := by
  have hdash : OneLine "- " := by decide
  rw [ownLines, List.forall_mem_cons, List.forall_mem_map]
  simp [hdash]

end Primitive

/-! ## §4. Lines of a surface. -/

@[simp] theorem oneLine_countsText (t : RenderTree) : OneLine t.countsText := by
  have hunknown : OneLine (Nat.repr t.unknownCount) := oneLine_of_numeralText (numeralText_repr _)
  have hfailed : OneLine (Nat.repr t.failureCount) := oneLine_of_numeralText (numeralText_repr _)
  unfold RenderTree.countsText
  split
  · decide
  · simp +decide [hunknown, hfailed]

/-- The header line breaks exactly if the id of the surface does. -/
theorem RenderTree.oneLine_headerLine_iff {t : RenderTree} {depth : Nat} :
    OneLine (t.headerLine depth) ↔ OneLine t.surfaceId := by
  simp +decide [headerLine]

/-- The keys that a strategy reads are one line each. -/
theorem Strategy.oneLine_key {strategy : Strategy} :
    ∀ spec ∈ strategy.schema, OneLine spec.key := by
  cases strategy with
  | unknown tag => exact fun _ hspec => nomatch hspec
  | _ => decide

/-- A message about a property is one line if its key is. -/
theorem RenderFault.oneLine_message {key : String} (h : OneLine key) (expected : Expected) :
    OneLine (missingProp key).message ∧ OneLine (wrongType key expected).message := by
  have hexpected : OneLine expected.describe := by
    cases expected <;> exact oneLine_ofList (by decide)
  have hopening : OneLine "missing required prop `" := oneLine_ofList (by decide)
  have hclosing : OneLine "`" := oneLine_ofList (by decide)
  have hopening' : OneLine "prop `" := oneLine_ofList (by decide)
  have hverb : OneLine "` must be " := oneLine_ofList (by decide)
  refine ⟨oneLine_append.2 ⟨oneLine_append.2 ⟨hopening, h⟩, hclosing⟩, ?_⟩
  exact oneLine_append.2 ⟨oneLine_append.2 ⟨oneLine_append.2 ⟨hopening', h⟩, hverb⟩, hexpected⟩

/-- **What there is to object to the properties of a node is said on one line**: the message names
a key of the schema, and nothing that the node holds. -/
theorem Strategy.oneLine_message {strategy : Strategy} {props : Members}
    {children : List Primitive} {fault : RenderFault}
    (h : strategy.apply props children = .error fault) : OneLine fault.message := by
  obtain ⟨before, spec, after, hschema, -, hoffends⟩ :=
    (strategy.checks_apply props children).rejects.1 h
  have hspec : spec ∈ strategy.schema := by simp [hschema]
  have hkey : OneLine spec.key := oneLine_key spec hspec
  have hmessage := RenderFault.oneLine_message hkey spec.kind
  cases hoffends with
  | missing => exact hmessage.1
  | wrongType => exact hmessage.2

theorem Node.oneLine_message {n : Node} {tag : String} {fault : RenderFault}
    (h : n.primitive = .failed tag fault) : OneLine fault.message := by
  have hdiagnosis : n.diagnosis? = some (.renderFailure fault) := by
    rw [← diagnosis?_primitive, h]
    rfl
  rcases diagnosis?_eq_renderFailure_iff.1 hdiagnosis with ⟨d, -, rfl⟩ | ⟨-, -, hrejects⟩
  · have hshape : ∀ f : ShapeFault, OneLine f.message := by
      intro f
      cases f <;> exact oneLine_ofList (by decide)
    exact hshape d.fault
  · exact Strategy.oneLine_message (hrejects [])

namespace Surface

/-- No text of the surface breaks that is shown as it is: neither the id, nor one on the line of a
primitive, nor an item. -/
structure Unbroken (s : Surface) : Prop where
  id : OneLine s.id
  texts : ∀ path q, s.tree.primitiveAt? path = some q → ∀ text ∈ q.plainTexts, OneLine text
  items : ∀ path q, s.tree.primitiveAt? path = some q → ∀ item ∈ q.items, OneLine item

theorem oneLine_head_iff {s : Surface} {path : NodePath} {q : Primitive}
    (h : s.tree.primitiveAt? path = some q) :
    OneLine q.head ↔ ∀ text ∈ q.plainTexts, OneLine text := by
  refine Primitive.oneLine_head_iff fun tag fault hq => ?_
  obtain ⟨⟨n, -, hn⟩, -⟩ := primitiveAt?_iff.1 h
  exact Node.oneLine_message (hn.trans hq)

/-- **The lines of a surface are one line each exactly if no text of it breaks that is shown as it
is.** -/
theorem oneLine_listing_iff {s : Surface} {depth : Nat} :
    (∀ line ∈ s.tree.listing depth, OneLine line) ↔ s.Unbroken := by
  -- Line by line: the header, then each primitive that is reached with its items.
  have hown : ∀ path q, s.tree.primitiveAt? path = some q →
      ((∀ line ∈ Primitive.entryLines depth (path, q), OneLine line)
        ↔ (∀ text ∈ q.plainTexts, OneLine text) ∧ ∀ item ∈ q.items, OneLine item) := by
    intro path q hq
    rw [Primitive.entryLines, Primitive.oneLine_ownLines_iff, oneLine_head_iff hq]
  rw [RenderTree.listing_eq, List.forall_mem_cons, RenderTree.oneLine_headerLine_iff,
    List.forall_mem_flatMap]
  constructor
  · intro h
    obtain ⟨hid, hentries⟩ := h
    have hreached : ∀ path q, s.tree.primitiveAt? path = some q →
        (∀ text ∈ q.plainTexts, OneLine text) ∧ ∀ item ∈ q.items, OneLine item :=
      fun path q hq => (hown path q hq).1 (hentries (path, q) (RenderTree.mem_walk.2 hq))
    exact ⟨hid, fun path q hq => (hreached path q hq).1, fun path q hq => (hreached path q hq).2⟩
  · intro h
    refine ⟨h.id, ?_⟩
    rintro ⟨path, q⟩ hentry
    have hq := RenderTree.mem_walk.1 hentry
    exact (hown path q hq).2 ⟨h.texts path q hq, h.items path q hq⟩

end Surface

/-! ## §5. The screen. -/

/-- What the screen shows for a line that is printed: a row for each part between line feeds. -/
def rowsOf (line : String) : List String := (Text.splitAt '\n' line.toList).map String.ofList

theorem Text.splitAt_of_not_mem {separator : Char} {text : List Char} (h : separator ∉ text) :
    splitAt separator text = [text] := by
  induction text with
  | nil => rfl
  | cons c rest ih =>
    have hc : c ≠ separator := fun heq => h (heq ▸ List.mem_cons_self)
    rw [splitAt, if_neg hc, ih fun hmem => h (List.mem_cons_of_mem c hmem)]

/-- A line that does not break is one row. -/
theorem rowsOf_of_oneLine {line : String} (h : OneLine line) : rowsOf line = [line] := by
  have hfeed : '\n' ∉ line.toList := fun hmem => (h _ hmem).1 rfl
  rw [rowsOf, Text.splitAt_of_not_mem hfeed, List.map_singleton, String.ofList_toList]

/-- The rows of lines that do not break are the lines. -/
theorem flatMap_rowsOf {lines : List String} (h : ∀ line ∈ lines, OneLine line) :
    lines.flatMap rowsOf = lines := by
  rw [List.flatMap_congr fun line hline => rowsOf_of_oneLine (h line hline)]
  simp

/-- How the lines of a listing begin: with the mark of the header, or further in with anything but
an `s`. -/
def BeginsListed (line : String) : Prop :=
  line.toList.take 2 = ['[', 's']
    ∨ (line.toList.take 2 = [' ', ' '] ∧ line.toList[2]? ≠ some 's')

instance (line : String) : Decidable (BeginsListed line) := inferInstanceAs (Decidable (_ ∨ _))

theorem toList_indent_succ (depth : Nat) :
    (indent (depth + 1)).toList = ' ' :: ' ' :: (indent depth).toList := by
  rw [indent_succ, String.toList_append]
  rfl

/-- What is further in begins like a line of a listing, unless it begins with an `s`. -/
theorem beginsListed_indent_succ {text : String} (h : text.toList.head? ≠ some 's') (depth : Nat) :
    BeginsListed (indent (depth + 1) ++ text) := by
  right
  rw [String.toList_append, toList_indent_succ]
  refine ⟨rfl, ?_⟩
  cases depth with
  | zero => rwa [List.head?_eq_getElem?] at h
  | succ depth =>
    rw [toList_indent_succ]
    intro hcontra
    injection hcontra with hcontra
    exact absurd hcontra (by decide)

theorem head?_toList_append {s t : String} {c : Char} (h : s.toList.head? = some c) :
    (s ++ t).toList.head? = some c := by
  rw [String.toList_append, List.head?_append, h]
  rfl

/-- No primitive's line begins with an `s`. -/
theorem Primitive.head?_head_ne (q : Primitive) : q.head.toList.head? ≠ some 's' := by
  have hne : ∀ c, c ≠ 's' → q.head.toList.head? = some c → q.head.toList.head? ≠ some 's' := by
    intro c hc hfirst
    rw [hfirst]
    exact fun heq => hc (Option.some.inj heq)
  -- The first part of the line is a word of its own for each kind of primitive.
  cases q with
  | text =>
    refine hne 'T' (by decide) ?_
    iterate 3 refine head?_toList_append ?_
    rfl
  | card =>
    refine hne 'C' (by decide) ?_
    refine head?_toList_append ?_
    rfl
  | button =>
    refine hne 'B' (by decide) ?_
    iterate 5 refine head?_toList_append ?_
    rfl
  | image =>
    refine hne 'I' (by decide) ?_
    iterate 3 refine head?_toList_append ?_
    rfl
  | list =>
    refine hne 'L' (by decide) ?_
    refine head?_toList_append ?_
    rfl
  | statBar =>
    refine hne 'S' (by decide) ?_
    iterate 7 refine head?_toList_append ?_
    rfl
  | fallback =>
    refine hne '?' (by decide) ?_
    iterate 3 refine head?_toList_append ?_
    rfl
  | failed =>
    refine hne '!' (by decide) ?_
    iterate 3 refine head?_toList_append ?_
    rfl

/-- The row could be taken for something else on the screen: the status, a message or where its
surface comes from, an error of the editor or of a command. -/
def Imitates (row : String) : Prop :=
  (∃ v, row = statusLine v) ∨ (∃ m, m.inline = none ∧ row ∈ messageLines m)
    ∨ ∃ error, row = "! " ++ error

theorem take_two_of_beginsListed {s t : String} (hs : 2 ≤ s.toList.length)
    (h : BeginsListed (s ++ t)) :
    s.toList.take 2 = ['[', 's'] ∨ s.toList.take 2 = [' ', ' '] := by
  rw [← List.take_append_of_le_length hs, ← String.toList_append]
  exact h.imp_right And.left

theorem not_beginsListed_statusLine (v : Studio.View) : ¬ BeginsListed (statusLine v) := by
  intro h
  have hfirst : BeginsListed ("[" ++ v.mode.name ++ "] " ++ _) := h
  have htwo := take_two_of_beginsListed (by cases v.mode <;> decide) hfirst
  revert htwo
  cases v.mode <;> decide

theorem not_beginsListed_spoken (role : Role) (text : String) :
    ¬ BeginsListed (speaker role ++ "> " ++ text) := by
  intro h
  have htwo := take_two_of_beginsListed (by cases role <;> decide) h
  revert htwo
  cases role <;> decide

/-- What tells where a surface comes from stands in the column of the primitives. -/
theorem not_beginsListed_sourceLine (source : Source) : ¬ BeginsListed (sourceLine source) := by
  have hline : ∃ rest, (sourceLine source).toList = ' ' :: ' ' :: 's' :: rest := by
    unfold sourceLine
    simp only [String.toList_append, List.append_assoc]
    exact ⟨_, rfl⟩
  obtain ⟨rest, hline⟩ := hline
  unfold BeginsListed
  rw [hline]
  rintro (h | ⟨-, h⟩)
  · injection h with h
    exact absurd h (by decide)
  · exact h rfl

/-- **What begins like a line of a listing cannot be taken for anything else.** -/
theorem not_imitates_of_beginsListed {row : String} (h : BeginsListed row) : ¬ Imitates row := by
  rintro (⟨v, rfl⟩ | ⟨m, hinline, hrow⟩ | ⟨error, rfl⟩)
  · exact not_beginsListed_statusLine v h
  · rw [messageLines, hinline] at hrow
    rcases List.mem_cons.1 hrow with rfl | hrow
    · exact not_beginsListed_spoken m.role m.text h
    · obtain ⟨source, -, rfl⟩ := Option.map_eq_some_iff.1 (Option.mem_toList.1 hrow)
      exact not_beginsListed_sourceLine source h
  · exact absurd (take_two_of_beginsListed (by decide) h) (by decide)

theorem RenderTree.beginsListed_headerLine (t : RenderTree) (depth : Nat) :
    BeginsListed (t.headerLine depth) := by
  have hline : t.headerLine depth
      = indent depth ++ ("[surface " ++ (t.surfaceId ++ ("]" ++ t.countsText))) := by
    simp only [headerLine, String.append_assoc]
  rw [hline]
  cases depth with
  | zero =>
    left
    rw [String.toList_append, String.toList_append]
    rfl
  | succ depth =>
    refine beginsListed_indent_succ ?_ depth
    rw [head?_toList_append rfl]
    decide

/-- Every line of a listing begins like one. -/
theorem RenderTree.beginsListed {t : RenderTree} {depth : Nat} {line : String}
    (h : line ∈ t.listing depth) : BeginsListed line := by
  rw [listing_eq, List.mem_cons, List.mem_flatMap] at h
  rcases h with rfl | ⟨⟨path, q⟩, hentry, hline⟩
  · exact t.beginsListed_headerLine depth
  · -- A path to a primitive has at least one index, so its line is further in than the header.
    cases path with
    | nil => cases mem_walk.1 hentry
    | cons i rest =>
      rcases List.mem_cons.1 hline with rfl | hline
      · exact beginsListed_indent_succ q.head?_head_ne (depth + rest.length)
      · obtain ⟨item, -, rfl⟩ := List.mem_map.1 hline
        rw [String.append_assoc]
        refine beginsListed_indent_succ ?_ (depth + (rest.length + 1))
        rw [head?_toList_append rfl]
        decide

/-! ## §6. Surfaces. -/

namespace Surface

/-- **When the lines of a surface break**, and what its listing shows if none does. -/
structure Lined (s : Surface) : Prop where
  /-- The header line breaks exactly if the id does. -/
  header : ∀ depth, OneLine (s.tree.headerLine depth) ↔ OneLine s.id
  /-- The line of a primitive breaks exactly if a text does that it shows as it is. -/
  heads : ∀ depth path q, s.tree.primitiveAt? path = some q →
    (OneLine (indent depth ++ q.head) ↔ ∀ text ∈ q.plainTexts, OneLine text)
  /-- The line of an item breaks exactly if the item does. -/
  items : ∀ depth path q, s.tree.primitiveAt? path = some q → ∀ item ∈ q.items,
    (OneLine (indent depth ++ "- " ++ item) ↔ OneLine item)
  /-- At every depth, no line breaks exactly if none of these texts does. -/
  lines : ∀ depth, (∀ line ∈ s.tree.listing depth, OneLine line) ↔ s.Unbroken
  /-- Then the screen shows one row for the header, one for each primitive that is reached, and one
  for each item. -/
  rows : s.Unbroken → ∀ depth, (s.tree.listing depth).flatMap rowsOf
    = s.tree.headerLine depth :: s.tree.walk.flatMap fun (path, q) =>
      (indent (depth + path.length) ++ q.head)
        :: q.items.map fun item => indent (depth + path.length + 1) ++ "- " ++ item
  /-- None of them could be taken for anything else. -/
  apart : s.Unbroken → ∀ depth, ∀ row ∈ (s.tree.listing depth).flatMap rowsOf, ¬ Imitates row

/-- **What the lines of a surface break at**, for every surface. -/
theorem lined (s : Surface) : s.Lined where
  header _ := RenderTree.oneLine_headerLine_iff
  heads depth path q hq := by
    rw [oneLine_append, oneLine_head_iff hq]
    exact and_iff_right (oneLine_indent depth)
  items depth _ _ _ item _ := by
    have hdash : OneLine "- " := oneLine_ofList (by decide)
    simp [hdash]
  lines _ := oneLine_listing_iff
  rows hs depth := by
    rw [flatMap_rowsOf (oneLine_listing_iff.2 hs), RenderTree.listing_eq]
    rfl
  apart hs depth row hrow := by
    rw [flatMap_rowsOf (oneLine_listing_iff.2 hs)] at hrow
    exact not_imitates_of_beginsListed (RenderTree.beginsListed hrow)

/-- A button with an action of two lines, the second of which is the status of an idle editor. -/
def forgingButton : Surface :=
  .new "s" [(Node.new "Button").withProp "label" (.string "Go")
    |>.withProp "action" (.string "go\n[editor] idle")]

theorem not_oneLine_forgingButton : parse forgingButton.pretty = .ok forgingButton
    ∧ (¬ ∀ line ∈ forgingButton.tree.listing 0, OneLine line)
    ∧ ∃ row ∈ (forgingButton.tree.listing 0).flatMap rowsOf, Imitates row := by
  have hlisting : forgingButton.tree.listing 0
      = ["[surface s]", "  Button(primary) [Go] -> go\n[editor] idle"] := by decide
  refine ⟨?_, ?_, ?_⟩
  · have hnodes : ∀ n ∈ forgingButton.content, n.Built := by
      have htext : ∀ text, (Json.string text).Canonical := fun _ => trivial
      intro n hn
      rw [List.mem_singleton.1 hn]
      exact ((Node.Built.new "Button").withProp "label" (htext _)).withProp "action" (htext _)
    have hlegible : forgingButton.toJson.Legible bracketBudget :=
      ⟨by decide, fun n hn => nomatch hn⟩
    exact parse_write (Obtained.new "s" hnodes).sound Layout.plain_indented hlegible
  · rw [hlisting]
    decide
  · have hidle : "[editor] idle" = statusLine ⟨.editor, 0, "", [], "", none, none⟩ := by decide
    rw [hlisting]
    exact ⟨"[editor] idle", by decide, .inl ⟨_, hidle⟩⟩

end Surface

end SurfaceStudio
