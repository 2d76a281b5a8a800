import SurfaceStudio.Proofs.Render.Same
import SurfaceStudio.Proofs.Surface.Edits

/-!
# Edited nodes, decoded again

A node compares the forms that it remembers for its optional keys along with everything else.
Adding children brings the form of `children` in line with what is written from then on; setting a
property leaves the form of `props` as it was.  So an edited node is decoded from what it is written
as in every part but that form, and in that one too unless a property was set where there were no
`props` before.

  • `Node.settled` — the node with the form that its `props` are written in,
  • `Node.Consistent` — what edits keep of a node, `Consistent.onNode`, `Consistent.edited`,
  • `Consistent.ofJson_toJson` — **an edited node, decoded again, is the settled node**,
  • `Node.redecodes_edited` — **when it is the same node**, and which nodes are written alike.
-/

namespace SurfaceStudio.Node

open Json

/-! ## §1. Nodes compared. -/

theorem sameList_refl {ns : List Node} (h : ∀ n ∈ ns, n.same n = true) :
    sameList ns ns = true := by
  induction ns with
  | nil => rfl
  | cons n ns ih =>
    rw [sameList, h n List.mem_cons_self, ih fun n' hn' => h n' (List.mem_cons_of_mem _ hn')]
    rfl

theorem sameDefect_refl (defect : Option Defect) : sameDefect defect defect = true := by
  cases defect with
  | none => rfl
  | some d => rw [sameDefect, beq_self_eq_true, d.raw.same_refl, Bool.true_and]

theorem same_refl (n : Node) : n.same n = true := by
  induction n using Node.induction with
  | node n ih =>
    obtain ⟨tag, props, children, extra, propsForm, childrenForm, defect⟩ := n
    have hchildren : sameList children children = true := sameList_refl ih
    simp [same, sameMembers_refl, hchildren, sameDefect_refl]

/-- Nodes that are the same remember the same form for their `props`. -/
theorem propsForm_eq_of_same {n m : Node} (h : n.same m = true) : n.propsForm = m.propsForm := by
  obtain ⟨tag, props, children, extra, propsForm, childrenForm, defect⟩ := n
  obtain ⟨tag', props', children', extra', propsForm', childrenForm', defect'⟩ := m
  simp only [same, Bool.and_eq_true, beq_iff_eq] at h
  exact h.1.1.2

/-! ## §2. The form of the properties. -/

/-- The node with the form that its `props` are written in. -/
def settled (n : Node) : Node :=
  { n with propsForm := if n.props.isEmpty then n.propsForm else .present }

/-- Properties that are there are written in whichever form is remembered. -/
theorem toJson_settled (n : Node) : n.settled.toJson = n.toJson := by
  obtain ⟨tag, props, children, extra, propsForm, childrenForm, defect⟩ := n
  cases props with
  | nil => rfl
  | cons m rest => cases propsForm <;> rfl

theorem settled_eq_self_iff {n : Node} :
    n.settled = n ↔ n.propsForm = .present ∨ n.props = [] := by
  obtain ⟨tag, props, children, extra, propsForm, childrenForm, defect⟩ := n
  cases props with
  | nil => simp [settled]
  | cons m rest => simp [settled, eq_comm]

/-- Settling a node changes nothing but the form of its `props`. -/
theorem eq_of_settled_eq {n m : Node} (h : n.settled = m.settled)
    (hform : n.propsForm = m.propsForm) : n = m := by
  obtain ⟨tag, props, children, extra, propsForm, childrenForm, defect⟩ := n
  obtain ⟨tag', props', children', extra', propsForm', childrenForm', defect'⟩ := m
  simp only [settled, mk.injEq] at h
  obtain ⟨rfl, rfl, rfl, rfl, -, rfl, rfl⟩ := h
  obtain rfl : propsForm = propsForm' := hform
  rfl

/-! ## §3. What edits keep. -/

namespace Edit

/-- The children that an edit adds. -/
def added : Edit → List Node
  | .prop .. => []
  | .child c => [c]
  | .children more => more

/-- Every child that is added has been decoded from a value. -/
def AddsDecoded (e : Edit) : Prop := ∀ c ∈ e.added, ∃ v : Json, v.Canonical ∧ ofJson v = c

/-- Whether the edit sets a property. -/
def setsProp : Edit → Bool
  | .prop .. => true
  | .child _ | .children _ => false

theorem children_onNode (e : Edit) (n : Node) : (e.onNode n).children = n.children ++ e.added := by
  cases e with
  | prop key value hv => exact (List.append_nil _).symm
  | child c => rfl
  | children more => rfl

theorem propsForm_onNode (e : Edit) (n : Node) : (e.onNode n).propsForm = n.propsForm := by
  cases e <;> rfl

theorem props_onNode_eq_nil_iff (e : Edit) (n : Node) :
    (e.onNode n).props = [] ↔ n.props = [] ∧ e.setsProp = false := by
  cases e with
  | prop key value hv =>
    have hne : n.props.insert key value ≠ [] := by
      rw [ne_eq, ← List.isEmpty_iff, isEmpty_insert]
      decide
    simp [onNode, withProp, setsProp, hne]
  | child c => simp [onNode, withChild, withChildren, setsProp]
  | children more => simp [onNode, withChildren, setsProp]

end Edit

/-- **What edits keep of a node**: its parts are clean, its children are sound, and a form of
`children` other than `present` means that there are none.  Of the form of `props` nothing of the
kind is kept. -/
structure Consistent (n : Node) : Prop where
  clean : n.Clean
  childrenForm : n.childrenForm ≠ .present → n.children = []
  children : ∀ c ∈ n.children, c.Sound

theorem Consistent.onNode {n : Node} (h : n.Consistent) {e : Edit} (he : e.AddsDecoded) :
    (e.onNode n).Consistent where
  clean := h.clean.onNode e
  childrenForm := by
    cases e with
    | prop key value hv => exact h.childrenForm
    | child c => exact fun hne => absurd rfl hne
    | children more => exact fun hne => absurd rfl hne
  children := by
    intro c hc
    rw [e.children_onNode, List.mem_append] at hc
    rcases hc with hc | hc
    · exact h.children c hc
    · obtain ⟨v, hv, rfl⟩ := he c hc
      exact sound_ofJson hv

theorem Consistent.edited {n : Node} (h : n.Consistent) {edits : List Edit}
    (hedits : ∀ e ∈ edits, e.AddsDecoded) : (n.edited edits).Consistent := by
  induction edits generalizing n with
  | nil => exact h
  | cons e es ih =>
    have hfirst : (e.onNode n).Consistent := h.onNode (hedits e List.mem_cons_self)
    exact ih hfirst fun e' he' => hedits e' (List.mem_cons_of_mem _ he')

theorem propsForm_edited (n : Node) (edits : List Edit) :
    (n.edited edits).propsForm = n.propsForm := by
  induction edits generalizing n with
  | nil => rfl
  | cons e es ih => exact (ih (e.onNode n)).trans (e.propsForm_onNode n)

theorem props_edited_eq_nil_iff (n : Node) (edits : List Edit) :
    (n.edited edits).props = [] ↔ n.props = [] ∧ ∀ e ∈ edits, e.setsProp = false := by
  induction edits generalizing n with
  | nil => simp [edited]
  | cons e es ih =>
    show ((e.onNode n).edited es).props = [] ↔ _
    rw [ih, e.props_onNode_eq_nil_iff, List.forall_mem_cons, and_assoc]

/-- A node before any edit is tidy, and its children are sound. -/
theorem Unedited.tidy {n : Node} (h : n.Unedited) : n.Tidy ∧ ∀ c ∈ n.children, c.Sound := by
  cases h with
  | new tag => exact ⟨tidy_new tag, List.forall_mem_nil _⟩
  | @decoded v hv hdefect =>
    -- What is sound and has no defect is tidy.
    generalize hn : ofJson v = n at hdefect
    have hsound : n.Sound := hn ▸ sound_ofJson hv
    cases hsound with
    | tidy htidy hchildren => exact ⟨htidy, hchildren⟩
    | defective hw hfault =>
      rw [hfault] at hdefect
      cases hdefect

theorem Unedited.consistent {n : Node} (h : n.Unedited) : n.Consistent where
  clean := h.tidy.1.clean
  childrenForm := h.tidy.1.childrenForm
  children := h.tidy.2

/-! ## §4. Decoded again. -/

theorem Consistent.settled_tidy {n : Node} (h : n.Consistent) : n.settled.Tidy where
  props := h.clean.props
  extra := h.clean.extra
  extra_type := h.clean.extra_type
  extra_props := h.clean.extra_props
  extra_children := h.clean.extra_children
  propsForm hform := by
    -- The form is left as it is only where there are no properties.
    by_contra hne
    refine hform (if_neg fun hempty => hne ?_)
    exact List.isEmpty_iff.1 hempty
  childrenForm := h.childrenForm
  defect := h.clean.defect

/-- **An edited node, decoded from what it is written as, is the settled node.** -/
theorem Consistent.ofJson_toJson {n : Node} (h : n.Consistent) :
    ofJson n.toJson.canonical = n.settled := by
  rw [← n.toJson_settled]
  exact Node.ofJson_toJson (.tidy h.settled_tidy h.children)

/-- Nodes that are written alike differ in the form of their `props` at most. -/
theorem Consistent.settled_eq_of_toJson_eq {n m : Node} (hn : n.Consistent) (hm : m.Consistent)
    (h : n.toJson.canonical = m.toJson.canonical) : n.settled = m.settled := by
  rw [← hn.ofJson_toJson, ← hm.ofJson_toJson, h]

/-- **What comes back of a node that is edited and decoded again.** -/
structure Redecodes (start : Node) (edits : List Edit) : Prop where
  /-- Every part comes back, and the form of `props` as the one that they are written in. -/
  settled : ofJson (start.edited edits).toJson.canonical = (start.edited edits).settled
  /-- It is the same node exactly if `props` were an object before, or no property was set. -/
  same_iff : (ofJson (start.edited edits).toJson.canonical).same (start.edited edits) = true
    ↔ start.propsForm = .present ∨ ∀ e ∈ edits, e.setsProp = false
  /-- However another node has come about that is written alike, the two differ in the form of
  their `props` at most. -/
  unique : ∀ (start' : Node) (edits' : List Edit), start'.Unedited →
    (∀ e ∈ edits', e.AddsDecoded) →
    (start'.edited edits').toJson.canonical = (start.edited edits).toJson.canonical →
      (start'.edited edits').settled = (start.edited edits).settled
        ∧ ((start'.edited edits').same (start.edited edits) = true
          ↔ start'.propsForm = start.propsForm)

/-- **A node that was new or decoded comes back after any edits**, but for the form of its `props`
where a property was set that had none to stand among. -/
theorem redecodes_edited {start : Node} (h : start.Unedited) {edits : List Edit}
    (hedits : ∀ e ∈ edits, e.AddsDecoded) : start.Redecodes edits := by
  have hconsistent : (start.edited edits).Consistent := h.consistent.edited hedits
  refine ⟨hconsistent.ofJson_toJson, ?_, fun start' edits' h' hedits' hjson => ?_⟩
  · rw [hconsistent.ofJson_toJson]
    constructor
    · intro hsame
      have hform := propsForm_eq_of_same hsame
      by_contra hne
      rw [not_or] at hne
      obtain ⟨hpresent, hset⟩ := hne
      -- Some property was set, so the settled form is `present` and the remembered one is not.
      have hprops : ¬ (start.edited edits).props = [] := by
        rw [props_edited_eq_nil_iff]
        exact fun hnil => hset hnil.2
      refine hpresent ?_
      rw [← start.propsForm_edited edits, ← hform]
      exact if_neg fun hempty => hprops (List.isEmpty_iff.1 hempty)
    · intro hcase
      have hself : (start.edited edits).settled = start.edited edits := by
        rw [settled_eq_self_iff, propsForm_edited, props_edited_eq_nil_iff]
        by_cases hpresent : start.propsForm = .present
        · exact .inl hpresent
        · refine .inr ⟨h.tidy.1.propsForm hpresent, ?_⟩
          exact hcase.resolve_left hpresent
      rw [hself, same_refl]
  · have hsettled := (h'.consistent.edited hedits').settled_eq_of_toJson_eq hconsistent hjson
    refine ⟨hsettled, fun hsame => ?_, fun hform => ?_⟩
    · have hform := propsForm_eq_of_same hsame
      rwa [propsForm_edited, propsForm_edited] at hform
    · have heq : start'.edited edits' = start.edited edits := by
        refine eq_of_settled_eq hsettled ?_
        rw [propsForm_edited, propsForm_edited, hform]
      rw [heq, same_refl]

/-- A card with null for its `props` gets a property, and children that are added to null. -/
theorem redecodes_edited_bareCard : bareCard.Canonical ∧ (ofJson bareCard).defect = none
    ∧ (∀ e ∈ bareCardEdits, e.AddsDecoded) ∧ (ofJson bareCard).Redecodes bareCardEdits := by
  have hcanonical : bareCard.Canonical := canonical_canonical bareCard
  have hedits : ∀ e ∈ bareCardEdits, e.AddsDecoded := by
    intro e he c hc
    simp only [bareCardEdits, List.mem_cons, List.not_mem_nil, or_false] at he
    -- Of the three edits only the last one adds a child.
    rcases he with rfl | rfl | rfl
    · cases hc
    · cases hc
    · rw [List.mem_singleton.1 hc]
      exact ⟨.null, trivial, rfl⟩
  exact ⟨hcanonical, rfl, hedits, redecodes_edited (.decoded hcanonical rfl) hedits⟩

/-- A card without `props`. -/
def plainCard : Json := .object [("type", .string "Card")]

/-- The card with a title. -/
def titledCard : Node := (ofJson plainCard).edited [.prop "title" (.string "t") trivial]

/-- **The form of `props` does not come back** where a property is set on a node without `props`:
the two nodes are written alike and are not the same. -/
theorem not_same_redecoded_titledCard : plainCard.Canonical ∧ (ofJson plainCard).defect = none
    ∧ (ofJson titledCard.toJson.canonical).toJson.canonical = titledCard.toJson.canonical
    ∧ (ofJson titledCard.toJson.canonical).same titledCard = false :=
  ⟨canonical_canonical plainCard, rfl, rfl, rfl⟩

end SurfaceStudio.Node
