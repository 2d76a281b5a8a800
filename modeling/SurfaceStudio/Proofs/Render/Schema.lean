import Mathlib.Data.List.Forall2
import SurfaceStudio.Proofs.Json.Members
import SurfaceStudio.Proofs.Render.Frames

/-!
# The properties that strategies read

Each strategy of the vocabulary has a schema: the properties it reads, in order, and what each of
them has to be.  A strategy succeeds if all of them are as the schema asks, fails with the first one
that is not, and looks at nothing else.

  • `Expected.admits`, `PropSpec`, `Strategy.schema` — what the properties have to be,
  • `PropSpec.Satisfied`, `PropSpec.Offends` — one property as it should be, or not,
  • `Checks`, `Strategy.checks_apply` — **a strategy fails where its schema is first offended**,
  • `Strategy.apply_congr` — **properties outside the schema make no difference**, and neither does
    null in place of nothing,
  • `Strategy.follows_schema` — all of that for the tags of the vocabulary.
-/

namespace SurfaceStudio

/-! ## §1. Schemas. -/

/-- A string, a number or a boolean. -/
def Json.isScalar : Json → Bool
  | .string _ | .number _ | .bool _ => true
  | _ => false

/-- The value is what is expected. -/
def Expected.admits : Expected → Json → Bool
  | .string, .string _ => true
  | .scalar, v => v.isScalar
  | .number, .number _ => true
  | .scalars, .array items => items.all Json.isScalar
  | _, _ => false

/-- A property as a schema declares it. -/
structure PropSpec where
  key : String
  required : Bool
  kind : Expected
deriving DecidableEq

/-- **The properties that a strategy reads**, in the order in which it reads them. -/
def Strategy.schema : Strategy → List PropSpec
  | .text => [⟨"text", true, .scalar⟩, ⟨"variant", false, .string⟩]
  | .card => [⟨"title", false, .string⟩]
  | .button => [⟨"label", true, .string⟩, ⟨"variant", false, .string⟩, ⟨"action", false, .string⟩]
  | .image => [⟨"src", true, .string⟩, ⟨"alt", false, .string⟩, ⟨"caption", false, .string⟩]
  | .list => [⟨"title", false, .string⟩, ⟨"items", false, .scalars⟩]
  | .statBar => [⟨"label", true, .string⟩, ⟨"value", true, .number⟩, ⟨"color", false, .string⟩]
  | .unknown _ => []

namespace PropSpec

/-- The property is not there, or null is. -/
def Absent (spec : PropSpec) (props : Members) : Prop :=
  props.get? spec.key = none ∨ props.get? spec.key = some .null

/-- **The property is as the schema asks.** -/
inductive Satisfied (spec : PropSpec) (props : Members) : Prop
  | leftOut (optional : spec.required = false) (h : spec.Absent props)
  | given {v : Json} (h : props.get? spec.key = some v) (hnull : v ≠ .null)
    (hkind : spec.kind.admits v = true)

/-- **The property is not as the schema asks**, and what there is to object. -/
inductive Offends (spec : PropSpec) (props : Members) : RenderFault → Prop
  | missing (required : spec.required = true) (h : spec.Absent props) :
    Offends spec props (.missingProp spec.key)
  | wrongType {v : Json} (h : props.get? spec.key = some v) (hnull : v ≠ .null)
    (hkind : spec.kind.admits v = false) : Offends spec props (.wrongType spec.key spec.kind)

/-- What there is to object to the property, if anything. -/
def offence? (spec : PropSpec) (props : Members) : Option RenderFault :=
  match Props.present? props spec.key with
  | none => if spec.required then some (.missingProp spec.key) else none
  | some v => if spec.kind.admits v then none else some (.wrongType spec.key spec.kind)

end PropSpec

/-! ## §2. One property. -/

namespace Props

variable {props : Members} {key : String}

theorem present?_eq_none_iff :
    present? props key = none ↔ props.get? key = none ∨ props.get? key = some .null := by
  unfold present?
  cases props.get? key with
  | none => simp
  | some v => cases v <;> simp

theorem present?_eq_some_iff {v : Json} :
    present? props key = some v ↔ props.get? key = some v ∧ v ≠ .null := by
  unfold present?
  cases props.get? key with
  | none => simp
  | some w =>
    cases w with
    | null =>
      constructor
      · intro h
        cases h
      · intro h
        obtain ⟨hget, hnull⟩ := h
        injection hget with hget
        exact absurd hget.symm hnull
    | _ =>
      constructor
      · intro h
        injection h with h
        subst h
        exact ⟨rfl, Json.noConfusion⟩
      · exact fun h => h.1

/-- Scalars are the values with a text. -/
theorem isSome_scalarText? (v : Json) : (scalarText? v).isSome = Expected.scalar.admits v := by
  cases v with
  | bool b => cases b <;> rfl
  | _ => rfl

/-- Every number has a double. -/
theorem isSome_double? (v : Json) : (double? v).isSome = Expected.number.admits v := by
  cases v with
  | number n =>
    obtain ⟨x, hx⟩ := n.exists_toBinary64?
    show n.toBinary64?.isSome = true
    rw [hx]
    rfl
  | _ => rfl

/-- **A list of scalars is read element by element.** -/
theorem mapM_scalarText?_eq_some_iff {items : List Json} {texts : List String} :
    items.mapM scalarText? = some texts
      ↔ List.Forall₂ (fun v text => scalarText? v = some text) items texts := by
  induction items generalizing texts with
  | nil =>
    rw [List.mapM_nil, List.forall₂_nil_left_iff]
    constructor
    · intro h
      injection h with h
      exact h.symm
    · intro h
      rw [h]
      rfl
  | cons v vs ih =>
    rw [List.mapM_cons, List.forall₂_cons_left_iff]
    constructor
    · intro h
      obtain ⟨text, htext, h⟩ := Option.bind_eq_some_iff.1 h
      obtain ⟨rest, hrest, h⟩ := Option.bind_eq_some_iff.1 h
      injection h with h
      exact ⟨text, rest, htext, ih.1 hrest, h.symm⟩
    · intro h
      obtain ⟨text, rest, htext, hrest, h⟩ := h
      rw [h, htext, ih.2 hrest]
      rfl

theorem isSome_mapM_scalarText? (items : List Json) :
    (items.mapM scalarText?).isSome = Expected.scalars.admits (.array items) := by
  induction items with
  | nil => rfl
  | cons v vs ih =>
    have hall : Expected.scalars.admits (.array (v :: vs))
        = (Expected.scalar.admits v && Expected.scalars.admits (.array vs)) := List.all_cons
    rw [List.mapM_cons, hall, ← ih, ← isSome_scalarText? v]
    cases scalarText? v with
    | none => rfl
    | some text => cases vs.mapM scalarText? <;> rfl

end Props

namespace PropSpec

variable {spec : PropSpec} {props : Members}

theorem offence?_eq_none_iff : spec.offence? props = none ↔ spec.Satisfied props := by
  unfold offence?
  cases hv : Props.present? props spec.key with
  | none =>
    have habsent : spec.Absent props := Props.present?_eq_none_iff.1 hv
    constructor
    · intro h
      cases hrequired : spec.required with
      | false => exact .leftOut hrequired habsent
      | true => simp [hrequired] at h
    · intro h
      cases h with
      | leftOut optional _ => simp [optional]
      | given h hnull _ =>
        rw [Props.present?_eq_some_iff.2 ⟨h, hnull⟩] at hv
        cases hv
  | some v =>
    obtain ⟨hget, hnull⟩ := Props.present?_eq_some_iff.1 hv
    constructor
    · intro h
      cases hkind : spec.kind.admits v with
      | true => exact .given hget hnull hkind
      | false => simp [hkind] at h
    · intro h
      cases h with
      | leftOut _ habsent =>
        rw [Props.present?_eq_none_iff.2 habsent] at hv
        cases hv
      | given h _ hkind =>
        rw [hget] at h
        injection h with h
        subst h
        simp [hkind]

theorem offence?_eq_some_iff {fault : RenderFault} :
    spec.offence? props = some fault ↔ spec.Offends props fault := by
  unfold offence?
  cases hv : Props.present? props spec.key with
  | none =>
    have habsent : spec.Absent props := Props.present?_eq_none_iff.1 hv
    constructor
    · intro h
      cases hrequired : spec.required with
      | false => simp [hrequired] at h
      | true =>
        simp only [hrequired, if_pos, Option.some.injEq] at h
        exact h ▸ .missing hrequired habsent
    · intro h
      cases h with
      | missing required _ => simp [required]
      | wrongType h hnull _ =>
        rw [Props.present?_eq_some_iff.2 ⟨h, hnull⟩] at hv
        cases hv
  | some v =>
    obtain ⟨hget, hnull⟩ := Props.present?_eq_some_iff.1 hv
    constructor
    · intro h
      cases hkind : spec.kind.admits v with
      | true => simp [hkind] at h
      | false =>
        simp only [hkind, Bool.false_eq_true, if_false, Option.some.injEq] at h
        exact h ▸ .wrongType hget hnull hkind
    · intro h
      cases h with
      | missing _ habsent =>
        rw [Props.present?_eq_none_iff.2 habsent] at hv
        cases hv
      | wrongType h _ hkind =>
        rw [hget] at h
        injection h with h
        subst h
        simp [hkind]

end PropSpec

/-! ## §3. Readings of properties. -/

variable {α β : Type} {props : Members} {key : String}

/-- **The reading fails with what there is to object to the property**, and with nothing else. -/
def Reports (spec : PropSpec) (props : Members) (reading : Except RenderFault α) : Prop :=
  ∀ fault, reading = .error fault ↔ spec.offence? props = some fault

theorem reports_optionalString (props : Members) (key : String) :
    Reports ⟨key, false, .string⟩ props (Props.optionalString props key) := by
  intro fault
  unfold Props.optionalString PropSpec.offence?
  dsimp only
  cases Props.present? props key with
  | none => simp
  | some v => cases v <;> simp [Expected.admits]

theorem reports_string (props : Members) (key : String) :
    Reports ⟨key, true, .string⟩ props (Props.string props key) := by
  intro fault
  unfold Props.string Props.optionalString PropSpec.offence?
  dsimp only
  cases Props.present? props key with
  | none => simp
  | some v => cases v <;> simp [Expected.admits]

theorem reports_scalar (props : Members) (key : String) :
    Reports ⟨key, true, .scalar⟩ props (Props.scalar props key) := by
  intro fault
  unfold Props.scalar PropSpec.offence?
  dsimp only
  cases Props.present? props key with
  | none => simp
  | some v =>
    dsimp only
    rw [← Props.isSome_scalarText? v]
    cases Props.scalarText? v <;> simp

theorem reports_number (props : Members) (key : String) :
    Reports ⟨key, true, .number⟩ props (Props.number props key) := by
  intro fault
  unfold Props.number PropSpec.offence?
  dsimp only
  cases Props.present? props key with
  | none => simp
  | some v =>
    dsimp only
    rw [← Props.isSome_double? v]
    cases Props.double? v <;> simp

theorem reports_scalars (props : Members) (key : String) :
    Reports ⟨key, false, .scalars⟩ props (Props.scalars props key) := by
  intro fault
  unfold Props.scalars PropSpec.offence?
  dsimp only
  cases Props.present? props key with
  | none => simp
  | some v =>
    cases v with
    | array items =>
      dsimp only
      rw [← Props.isSome_mapM_scalarText? items]
      cases items.mapM Props.scalarText? <;> simp
    | _ => simp [Expected.admits]

/-- **The reading fails where the schema is first offended**, and only there. -/
def Checks (schema : List PropSpec) (props : Members) (reading : Except RenderFault α) : Prop :=
  ∀ fault, reading = .error fault ↔ schema.findSome? (·.offence? props) = some fault

theorem checks_ok (props : Members) (a : α) : Checks [] props (.ok a) := by
  intro fault
  constructor <;> intro h <;> cases h

/-- One property is read after the other. -/
theorem Checks.bind {spec : PropSpec} {rest : List PropSpec} {x : Except RenderFault α}
    {f : α → Except RenderFault β} (h : Reports spec props x) (h' : ∀ a, Checks rest props (f a)) :
    Checks (spec :: rest) props (x >>= f) := by
  intro fault
  rw [List.findSome?_cons]
  cases hx : x with
  | error e =>
    have hfirst : spec.offence? props = some e := (h e).1 hx
    rw [hfirst]
    exact ⟨fun heq => congrArg some (Except.error.inj heq),
      fun heq => congrArg Except.error (Option.some.inj heq)⟩
  | ok a =>
    have hfirst : spec.offence? props = none := by
      cases hoffence : spec.offence? props with
      | none => rfl
      | some e =>
        have herror : x = .error e := (h e).2 hoffence
        rw [hx] at herror
        cases herror
    rw [hfirst]
    exact h' a fault

/-- **A strategy fails where its schema is first offended**, and only there. -/
theorem Strategy.checks_apply (strategy : Strategy) (props : Members) (children : List Primitive) :
    Checks strategy.schema props (strategy.apply props children) := by
  cases strategy with
  | text =>
    refine .bind (reports_scalar props "text") fun text => ?_
    refine .bind (reports_optionalString props "variant") fun variant => ?_
    exact checks_ok props _
  | card =>
    refine .bind (reports_optionalString props "title") fun title => ?_
    exact checks_ok props _
  | button =>
    refine .bind (reports_string props "label") fun label => ?_
    refine .bind (reports_optionalString props "variant") fun variant => ?_
    refine .bind (reports_optionalString props "action") fun action => ?_
    exact checks_ok props _
  | image =>
    refine .bind (reports_string props "src") fun src => ?_
    refine .bind (reports_optionalString props "alt") fun alt => ?_
    refine .bind (reports_optionalString props "caption") fun caption => ?_
    exact checks_ok props _
  | list =>
    refine .bind (reports_optionalString props "title") fun title => ?_
    refine .bind (reports_scalars props "items") fun items => ?_
    exact checks_ok props _
  | statBar =>
    refine .bind (reports_string props "label") fun label => ?_
    refine .bind (reports_number props "value") fun value => ?_
    refine .bind (reports_optionalString props "color") fun color => ?_
    exact checks_ok props _
  | unknown tag => exact checks_ok props _

/-! ## §4. What is read. -/

namespace Props

variable {props' : Members}

theorem optionalString_congr (h : present? props' key = present? props key) :
    optionalString props' key = optionalString props key := by
  unfold optionalString
  rw [h]

theorem string_congr (h : present? props' key = present? props key) :
    string props' key = string props key := by
  unfold string
  rw [optionalString_congr h]

theorem scalar_congr (h : present? props' key = present? props key) :
    scalar props' key = scalar props key := by
  unfold scalar
  rw [h]

theorem number_congr (h : present? props' key = present? props key) :
    number props' key = number props key := by
  unfold number
  rw [h]

theorem scalars_congr (h : present? props' key = present? props key) :
    scalars props' key = scalars props key := by
  unfold scalars
  rw [h]

end Props

namespace Strategy

/-- The keys that a strategy looks up. -/
def declared (strategy : Strategy) : List String := strategy.schema.map (·.key)

/-- **A strategy of the vocabulary looks at the properties of its schema alone**, and takes null for
nothing. -/
theorem apply_congr {strategy : Strategy} (hknown : strategy.isUnknown = false)
    {props props' : Members} (h : ∀ key ∈ strategy.declared,
      Props.present? props' key = Props.present? props key) (children : List Primitive) :
    strategy.apply props' children = strategy.apply props children := by
  cases strategy with
  | text =>
    have htext := h "text" (by decide)
    have hvariant := h "variant" (by decide)
    unfold apply
    rw [Props.scalar_congr htext, Props.optionalString_congr hvariant]
  | card =>
    have htitle := h "title" (by decide)
    unfold apply
    rw [Props.optionalString_congr htitle]
  | button =>
    have hlabel := h "label" (by decide)
    have hvariant := h "variant" (by decide)
    have haction := h "action" (by decide)
    unfold apply
    rw [Props.string_congr hlabel, Props.optionalString_congr hvariant,
      Props.optionalString_congr haction]
  | image =>
    have hsrc := h "src" (by decide)
    have halt := h "alt" (by decide)
    have hcaption := h "caption" (by decide)
    unfold apply
    rw [Props.string_congr hsrc, Props.optionalString_congr halt,
      Props.optionalString_congr hcaption]
  | list =>
    have htitle := h "title" (by decide)
    have hitems := h "items" (by decide)
    unfold apply
    rw [Props.optionalString_congr htitle, Props.scalars_congr hitems]
  | statBar =>
    have hlabel := h "label" (by decide)
    have hvalue := h "value" (by decide)
    have hcolor := h "color" (by decide)
    unfold apply
    rw [Props.string_congr hlabel, Props.number_congr hvalue, Props.optionalString_congr hcolor]
  | unknown tag => cases hknown

end Strategy

namespace Props

theorem present?_congr {props props' : Members} {key : String}
    (h : props'.get? key = props.get? key) : present? props' key = present? props key := by
  unfold present?
  rw [h]

theorem present?_insert_null {props : Members} {key : String} (h : props.get? key = none)
    (key' : String) : present? (props.insert key .null) key' = present? props key' := by
  by_cases hkey : key = key'
  · subst hkey
    unfold present?
    rw [Members.get?_insert, if_pos rfl, h]
  · exact present?_congr ((Members.get?_insert key' key .null props).trans (if_neg hkey))

theorem present?_erase_null {props : Members} (hs : props.Sorted) {key : String}
    (h : props.get? key = some .null) (key' : String) :
    present? (props.erase key) key' = present? props key' := by
  by_cases hkey : key = key'
  · subst hkey
    unfold present?
    rw [Members.get?_erase _ _ hs, if_pos rfl, h]
  · exact present?_congr ((Members.get?_erase key' key hs).trans (if_neg hkey))

end Props

/-! ## §5. Schemas are followed. -/

/-- A reading that fails where its schema is first offended succeeds if it is not offended. -/
theorem Checks.accepts {schema : List PropSpec} {reading : Except RenderFault α}
    (h : Checks schema props reading) :
    (∃ a, reading = .ok a) ↔ ∀ spec ∈ schema, spec.Satisfied props := by
  have hnone : schema.findSome? (·.offence? props) = none
      ↔ ∀ spec ∈ schema, spec.Satisfied props := by
    rw [List.findSome?_eq_none_iff]
    exact forall₂_congr fun spec _ => PropSpec.offence?_eq_none_iff
  rw [← hnone]
  cases hreading : reading with
  | ok a =>
    refine ⟨fun _ => ?_, fun _ => ⟨a, rfl⟩⟩
    cases hfirst : schema.findSome? (·.offence? props) with
    | none => rfl
    | some fault =>
      have herror := (h fault).2 hfirst
      rw [hreading] at herror
      cases herror
  | error fault =>
    have hfirst := (h fault).1 hreading
    rw [hfirst]
    constructor
    · intro hok
      obtain ⟨a, ha⟩ := hok
      cases ha
    · intro hsome
      cases hsome

/-- Otherwise it fails with the first property that offends. -/
theorem Checks.rejects {schema : List PropSpec} {reading : Except RenderFault α}
    (h : Checks schema props reading) {fault : RenderFault} :
    reading = .error fault ↔ ∃ before spec after, schema = before ++ spec :: after
      ∧ (∀ earlier ∈ before, earlier.Satisfied props) ∧ spec.Offends props fault := by
  rw [h fault, List.findSome?_eq_some_iff]
  constructor
  · intro hfirst
    obtain ⟨before, spec, after, hschema, hspec, hbefore⟩ := hfirst
    refine ⟨before, spec, after, hschema, fun earlier hearlier => ?_, ?_⟩
    · exact PropSpec.offence?_eq_none_iff.1 (hbefore earlier hearlier)
    · exact PropSpec.offence?_eq_some_iff.1 hspec
  · intro hfirst
    obtain ⟨before, spec, after, hschema, hbefore, hspec⟩ := hfirst
    refine ⟨before, spec, after, hschema, PropSpec.offence?_eq_some_iff.2 hspec, ?_⟩
    exact fun earlier hearlier => PropSpec.offence?_eq_none_iff.2 (hbefore earlier hearlier)

/-- The elements under `items`; there are none if it is left out. -/
def listedItems (props : Members) : List Json :=
  match props.get? "items" with
  | some (.array items) => items
  | _ => []

/-- **The items that are read are the texts of the elements, one for one.** -/
theorem forall₂_of_scalars {texts : List String} (h : Props.scalars props "items" = .ok texts) :
    List.Forall₂ (fun v text => Props.scalarText? v = some text) (listedItems props) texts := by
  unfold Props.scalars at h
  unfold listedItems
  cases hv : Props.present? props "items" with
  | none =>
    rw [hv] at h
    injection h with h
    subst h
    obtain hget | hget := Props.present?_eq_none_iff.1 hv
    · rw [hget]
      exact .nil
    · rw [hget]
      exact .nil
  | some v =>
    rw [hv] at h
    rw [(Props.present?_eq_some_iff.1 hv).1]
    cases v with
    | array items =>
      dsimp only at h ⊢
      cases htexts : items.mapM Props.scalarText? with
      | none =>
        rw [htexts] at h
        cases h
      | some found =>
        rw [htexts] at h
        injection h with h
        subst h
        exact Props.mapM_scalarText?_eq_some_iff.1 htexts
    | _ => cases h

namespace Strategy

variable {children : List Primitive} {q : Primitive}

/-- What a strategy makes holds the children that it is given, if it has a slot for them. -/
theorem children_of_apply {strategy : Strategy} (h : strategy.apply props children = .ok q) :
    q.children = if q.isContainer then children else [] := by
  rw [apply_eq_map] at h
  cases hempty : strategy.apply props [] with
  | error fault =>
    rw [hempty] at h
    cases h
  | ok q₀ =>
    rw [hempty] at h
    injection h with h
    rw [← h, Primitive.children_withChildren, Primitive.isContainer_withChildren]

theorem isContainer_iff {tag : String} (h : q.vocabularyTag? = some tag) :
    q.isContainer = true ↔ tag = "Card" ∨ tag = "List" := by
  cases q with
  | fallback => cases h
  | failed => cases h
  | _ =>
    injection h with h
    subst h
    simp [Primitive.isContainer]

theorem scalars_of_apply_list {title : Option String} {texts : List String}
    {slot : List Primitive}
    (h : Strategy.list.apply props children = .ok (.list title texts slot)) :
    Props.scalars props "items" = .ok texts := by
  unfold apply at h
  dsimp only at h
  cases htitle : Props.optionalString props "title" with
  | error fault =>
    rw [htitle] at h
    cases h
  | ok title' =>
    cases hitems : Props.scalars props "items" with
    | error fault =>
      rw [htitle, hitems] at h
      cases h
    | ok texts' =>
      rw [htitle, hitems] at h
      cases h
      rfl

theorem isUnknown_eq_false {tag : String} (h : tag ∈ vocabulary) :
    (ofTag tag).isUnknown = false := by
  rw [← Bool.not_eq_true, isUnknown_ofTag]
  exact fun hnot => hnot h

/-- **The strategy of a tag follows its schema** on these properties and with these children. -/
structure FollowsSchema (tag : String) (props : Members) (children : List Primitive) : Prop where
  /-- It succeeds if every property of the schema is as the schema asks. -/
  accepts : (∃ q, (ofTag tag).apply props children = .ok q)
    ↔ ∀ spec ∈ (ofTag tag).schema, spec.Satisfied props
  /-- Otherwise it fails with the first property that is not. -/
  rejects : ∀ fault, (ofTag tag).apply props children = .error fault
    ↔ ∃ before spec after, (ofTag tag).schema = before ++ spec :: after
      ∧ (∀ earlier ∈ before, earlier.Satisfied props) ∧ spec.Offends props fault
  /-- Another property may be added or changed. -/
  added : ∀ key ∉ (ofTag tag).declared, ∀ v,
    (ofTag tag).apply (props.insert key v) children = (ofTag tag).apply props children
  /-- Another property may be removed. -/
  removed : ∀ key ∉ (ofTag tag).declared,
    (ofTag tag).apply (props.erase key) children = (ofTag tag).apply props children
  /-- Null may be put where nothing is. -/
  nulled : ∀ key, props.get? key = none →
    (ofTag tag).apply (props.insert key .null) children = (ofTag tag).apply props children
  /-- Nothing may be put where null is. -/
  cleared : ∀ key, props.get? key = some .null →
    (ofTag tag).apply (props.erase key) children = (ofTag tag).apply props children
  /-- What is made is made for the tag. -/
  made : ∀ q, (ofTag tag).apply props children = .ok q → q.vocabularyTag? = some tag
  /-- The items of a list are the texts of the elements, one for one. -/
  items : ∀ title texts slot, (ofTag tag).apply props children = .ok (.list title texts slot) →
    List.Forall₂ (fun v text => Props.scalarText? v = some text) (listedItems props) texts
  /-- Cards and lists keep the children that they are given. -/
  kept : tag = "Card" ∨ tag = "List" →
    ∀ q, (ofTag tag).apply props children = .ok q → q.children = children
  /-- The others drop them. -/
  dropped : ¬ (tag = "Card" ∨ tag = "List") →
    ∀ q, (ofTag tag).apply props children = .ok q → q.children = []

/-- **Strategies follow their schemas**, for every tag of the vocabulary. -/
theorem follows_schema {tag : String} (htag : tag ∈ vocabulary) {props : Members}
    (hs : props.Sorted) (children : List Primitive) : FollowsSchema tag props children := by
  have hknown := isUnknown_eq_false htag
  have hchecks := (ofTag tag).checks_apply props children
  have hmade : ∀ q, (ofTag tag).apply props children = .ok q → q.vocabularyTag? = some tag := by
    intro q hq
    exact vocabularyTag?_of_apply (Bool.not_eq_true _ ▸ hknown) hq
  exact {
    accepts := hchecks.accepts
    rejects := fun fault => hchecks.rejects
    added := by
      intro key hkey v
      refine apply_congr hknown (fun key' hkey' => Props.present?_congr ?_) children
      have hne : key ≠ key' := fun heq => hkey (heq ▸ hkey')
      exact (Members.get?_insert key' key v props).trans (if_neg hne)
    removed := by
      intro key hkey
      refine apply_congr hknown (fun key' hkey' => Props.present?_congr ?_) children
      have hne : key ≠ key' := fun heq => hkey (heq ▸ hkey')
      exact (Members.get?_erase key' key hs).trans (if_neg hne)
    nulled := by
      intro key hkey
      exact apply_congr hknown (fun key' _ => Props.present?_insert_null hkey key') children
    cleared := by
      intro key hkey
      exact apply_congr hknown (fun key' _ => Props.present?_erase_null hs hkey key') children
    made := hmade
    items := by
      intro title texts slot hlist
      -- Nothing but a list has items.
      have hlisted := hmade _ hlist
      injection hlisted with hlisted
      subst hlisted
      exact forall₂_of_scalars (scalars_of_apply_list hlist)
    kept := by
      intro hslot q hq
      rw [children_of_apply hq, if_pos ((isContainer_iff (hmade q hq)).2 hslot)]
    dropped := by
      intro hslot q hq
      rw [children_of_apply hq, if_neg fun h => hslot ((isContainer_iff (hmade q hq)).1 h)] }

/-- A bar with two faults: its value is no number, and neither is its color a string. -/
def faultyBar : Members :=
  [("color", .bool true), ("label", .string "Load"), ("value", .string "high")]

theorem follows_schema_faultyBar : "StatBar" ∈ vocabulary ∧ faultyBar.Sorted
    ∧ (ofTag "StatBar").apply faultyBar [] = .error (.wrongType "value" .number) := by
  have hs : faultyBar.Sorted := Members.sorted_collect faultyBar
  have htag : "StatBar" ∈ vocabulary := by decide
  refine ⟨htag, hs, ((follows_schema htag hs []).rejects _).2 ?_⟩
  refine ⟨[⟨"label", true, .string⟩], ⟨"value", true, .number⟩, [⟨"color", false, .string⟩], rfl,
    fun earlier hearlier => ?_, ?_⟩
  · rw [List.mem_singleton.1 hearlier]
    exact .given (v := .string "Load") rfl Json.noConfusion rfl
  · exact .wrongType (v := .string "high") rfl Json.noConfusion rfl

end Strategy

end SurfaceStudio
