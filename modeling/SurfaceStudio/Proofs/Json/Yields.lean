import SurfaceStudio.Proofs.Json.Reads
import SurfaceStudio.Proofs.Json.Values

/-!
# What a reading can return

Whatever text it is run on, a reading returns results of one kind only: a value that is read is
canonical and nested no deeper than the budget of brackets.

  • `Yields` — every result of a reading has a property,
  • `Yields.elements`, `Yields.members` — the loops keep an invariant,
  • `yields_value` — values are canonical and within the budget,
  • `regular_of_read` — so are the values of whole texts.
-/

namespace SurfaceStudio.Json

open Reader

variable {α β σ : Type}

/-! ## §1. Results of readings. -/

/-- **Every result of the reading has the property**, wherever it is begun. -/
def Yields (r : Reader α) (P : α → Prop) : Prop := ∀ ⦃c a c'⦄, r c = .ok (a, c') → P a

namespace Yields

variable {P : α → Prop} {Q : β → Prop}

theorem pure {a : α} (h : P a) : Yields (Pure.pure a) P := by
  intro c a' c' ha
  change Except.ok (a, c) = _ at ha
  injection ha with ha
  injection ha with ha _
  exact ha ▸ h

theorem failHere (cause : Cause) : Yields (Reader.failHere cause) P := by
  intro c a c' h
  cases h

theorem failAhead (cause : Cause) : Yields (Reader.failAhead cause) P := by
  intro c a c' h
  cases h

/-- What the first part yields is known of it in the second. -/
theorem bind {r : Reader α} {f : α → Reader β} (h : Yields r P)
    (h' : ∀ a, P a → Yields (f a) Q) : Yields (r >>= f) Q := by
  intro c b c' hb
  obtain ⟨a, c₁, ha, hf⟩ := exists_of_bind_eq_ok hb
  exact h' a (h ha) hf

/-- A first part of whose result nothing needs to be known. -/
theorem bind_any {r : Reader α} {f : α → Reader β} (h : ∀ a, Yields (f a) Q) :
    Yields (r >>= f) Q :=
  bind (P := fun _ => True) (fun _ _ _ _ => trivial) fun a _ => h a

end Yields

/-! ## §2. Loops. -/

/-- The elements of an array have the property of every element. -/
theorem Yields.elements {element : Reader α} {P : α → Prop} (h : Yields element P) (fuel : Nat)
    (first : Bool) {found : List α} (hf : ∀ a ∈ found, P a) :
    Yields (Json.elements element fuel first found) fun all => ∀ a ∈ all, P a := by
  induction fuel generalizing first found with
  | zero => exact Yields.failAhead _
  | succ fuel ih =>
    refine Yields.bind_any fun more => ?_
    cases more with
    | true =>
      refine Yields.bind h fun a ha => ih false fun a' ha' => ?_
      rcases List.mem_cons.1 ha' with rfl | ha'
      · exact ha
      · exact hf a' ha'
    | false =>
      refine Yields.pure fun a ha => ?_
      exact hf a (List.mem_reverse.1 ha)

theorem Yields.arrayRest {element : Reader α} {P : α → Prop} (h : Yields element P) :
    Yields (Json.arrayRest element) fun all => ∀ a ∈ all, P a :=
  Yields.bind_any fun _ => Yields.bind (h.elements _ _ fun _ ha => nomatch ha) fun _ hall =>
    Yields.bind_any fun _ => Yields.pure hall

/-- What holds at the start and is kept by each member holds of all members together. -/
theorem Yields.members {member : σ → String → Reader σ} {Inv : σ → Prop}
    (h : ∀ read key, Inv read → Yields (member read key) Inv) (fuel : Nat) (first : Bool)
    {read : σ} (hread : Inv read) : Yields (Json.members member fuel first read) Inv := by
  induction fuel generalizing first read with
  | zero => exact Yields.failAhead _
  | succ fuel ih =>
    refine Yields.bind_any fun key? => ?_
    cases key? with
    | none => exact Yields.pure hread
    | some key => exact Yields.bind (h read key hread) fun _ hread' => ih false hread'

theorem Yields.objectRest {member : σ → String → Reader σ} {Inv : σ → Prop} {empty : σ}
    (h : ∀ read key, Inv read → Yields (member read key) Inv) (hempty : Inv empty) :
    Yields (Json.objectRest member empty) Inv :=
  Yields.bind_any fun _ => Yields.bind (Yields.members h _ _ hempty) fun _ hread =>
    Yields.bind_any fun _ => Yields.pure hread

/-! ## §3. Values. -/

/-- A value that is canonical and opens no more brackets than `budget` at once. -/
def Regular (budget : Nat) (v : Json) : Prop := v.Canonical ∧ v.nesting ≤ budget

/-- Members in order, with regular values. -/
def RegularMembers (budget : Nat) (members : Members) : Prop :=
  Members.Sorted members ∧ ∀ m ∈ members, Regular budget m.2

theorem regularMembers_nil (budget : Nat) : RegularMembers budget [] :=
  ⟨Members.sorted_nil, fun _ h => nomatch h⟩

theorem RegularMembers.insert {budget : Nat} {members : Members} (h : RegularMembers budget members)
    (key : String) {v : Json} (hv : Regular budget v) :
    RegularMembers budget (members.insert key v) := by
  refine ⟨Members.sorted_insert key v h.1, fun m hm => ?_⟩
  rcases Members.mem_insert hm with rfl | hm
  · exact hv
  · exact h.2 m hm

theorem regular_array_iff {budget : Nat} {items : List Json} :
    Regular (budget + 1) (.array items) ↔ ∀ v ∈ items, Regular budget v := by
  rw [Regular, canonical_array_iff, nesting_array_le_iff]
  constructor
  · rintro ⟨hc, hn⟩ v hv
    exact ⟨hc v hv, hn v hv⟩
  · intro h
    exact ⟨fun v hv => (h v hv).1, fun v hv => (h v hv).2⟩

theorem regular_object_iff {budget : Nat} {members : Members} :
    Regular (budget + 1) (.object members) ↔ RegularMembers budget members := by
  rw [Regular, canonical_object_iff, nesting_object_le_iff]
  constructor
  · intro h
    obtain ⟨⟨hs, hc⟩, hn⟩ := h
    exact ⟨hs, fun m hm => ⟨hc m hm, hn m hm⟩⟩
  · intro h
    obtain ⟨hs, h⟩ := h
    exact ⟨⟨hs, fun m hm => (h m hm).1⟩, fun m hm => (h m hm).2⟩

theorem yields_scalar (b : UInt8) (budget : Nat) : Yields (scalar b) (Regular budget) := by
  unfold scalar
  repeat' split
  -- A literal, a number behind its sign and a string are read in two steps.
  any_goals
    exact Yields.bind_any fun _ => Yields.bind_any fun _ => Yields.pure ⟨trivial, Nat.zero_le _⟩
  · exact Yields.bind_any fun _ => Yields.pure ⟨trivial, Nat.zero_le _⟩
  · exact Yields.failAhead _

theorem yields_genericMember {r : Reader Json} {budget : Nat} (h : Yields r (Regular budget))
    (read : Members) (key : String) (hread : RegularMembers budget read) :
    Yields (genericMember r read key) (RegularMembers budget) :=
  Yields.bind_any fun _ => Yields.bind h fun _ hv => Yields.pure (hread.insert key hv)

/-- **A value that is read is canonical**, and nested no deeper than the budget of brackets. -/
theorem yields_value (budget : Nat) : Yields (value budget) (Regular budget) := by
  -- Inside a bracket there is one bracket less to open.
  induction budget with
  | zero =>
    refine Yields.bind_any fun b? => ?_
    cases b? with
    | none => exact Yields.failAhead _
    | some b =>
      show Yields (if b = '['.toUInt8 then Reader.failAhead .tooDeep
        else if b = '\x7b'.toUInt8 then Reader.failAhead .tooDeep else scalar b) _
      split
      · exact Yields.failAhead _
      · split
        · exact Yields.failAhead _
        · exact yields_scalar b 0
  | succ budget ih =>
    refine Yields.bind_any fun b? => ?_
    cases b? with
    | none => exact Yields.failAhead _
    | some b =>
      dsimp only
      split
      · refine Yields.bind_any fun _ => Yields.bind ih.arrayRest fun items hitems => ?_
        exact Yields.pure (regular_array_iff.2 hitems)
      · split
        · refine Yields.bind_any fun _ => Yields.bind ?_ fun members hmembers =>
            Yields.pure (regular_object_iff.2 hmembers)
          exact Yields.objectRest (yields_genericMember ih) (regularMembers_nil budget)
        · exact yields_scalar b (budget + 1)

theorem regular_of_read {text : String} {v : Json} (h : read text = .ok v) :
    Regular bracketBudget v := by
  obtain ⟨c, hc, -⟩ := exists_of_readWith_eq_ok h
  exact yields_value bracketBudget hc

end SurfaceStudio.Json
