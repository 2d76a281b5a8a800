import SurfaceStudio.Proofs.Json.Yields
import SurfaceStudio.Wire.Record

/-!
# What decoders return

A record is decoded member by member into a draft.  A property of the draft that every field and
every kept member preserves holds of the draft that is completed, whether the record stands in a
text or in a value.

  • `yields_map`, `yields_list` — decoders made from decoders,
  • `foldlM_invariant`, `forall_mem_of_mapM` — loops over values that have been read,
  • `Record.yields_decoder` — an invariant of the draft, from a text,
  • `Record.exists_of_ofValue` — the same from a value.
-/

namespace SurfaceStudio.Wire

open Json Json.Reader

variable {α β δ σ : Type}

/-! ## §1. Parts of decoders. -/

/-- An objection to the kind of a value returns nothing. -/
theorem yields_wrongKind (expected : String) (b : UInt8) {P : α → Prop} :
    Yields (wrongKind expected b) P := by
  unfold wrongKind
  split
  · exact Yields.failHere _
  · split
    · exact Yields.failHere _
    · exact Yields.bind_any fun _ => Yields.failHere _

theorem yields_withToken {reading : UInt8 → Reader α} {P : α → Prop}
    (h : ∀ b, Yields (reading b) P) : Yields (withToken reading) P := by
  refine Yields.bind_any fun b? => ?_
  cases b? with
  | none => exact Yields.failAhead _
  | some b => exact h b

/-- A bracket that is opened leaves one less in the budget. -/
theorem yields_openBracket {budget : Nat} {inside : Nat → Reader α} {P : α → Prop}
    (h : ∀ b, budget = b + 1 → Yields (inside b) P) : Yields (openBracket budget inside) P := by
  cases budget with
  | zero => exact Yields.failAhead _
  | succ b => exact Yields.bind_any fun _ => h b rfl

theorem yields_map {d : Decoder α} {f : α → β} {budget : Nat} {P : α → Prop} {Q : β → Prop}
    (h : Yields (d.fromText budget) P) (hf : ∀ a, P a → Q (f a)) :
    Yields ((d.map f).fromText budget) Q :=
  Yields.bind h fun a ha => Yields.pure (hf a ha)

/-- The elements of a decoded list have the property of every element. -/
theorem yields_list {d : Decoder α} {budget : Nat} {P : α → Prop}
    (h : ∀ b, budget = b + 1 → Yields (d.fromText b) P) :
    Yields ((Decoder.list d).fromText budget) fun all => ∀ a ∈ all, P a := by
  refine yields_withToken fun b => ?_
  split
  · exact yields_openBracket fun b hb => (h b hb).arrayRest
  · exact yields_wrongKind _ _

/-! ## §2. Results in the error monad. -/

variable {ε : Type}

/-- What each step of a fold keeps is kept by the fold. -/
theorem foldlM_invariant {Inv : σ → Prop} {f : σ → α → Except ε σ} {as : List α}
    (h : ∀ s, ∀ a ∈ as, ∀ s', Inv s → f s a = .ok s' → Inv s') {s s' : σ} (hs : Inv s)
    (hfold : as.foldlM f s = .ok s') : Inv s' := by
  -- The accumulator changes with each step, so the statement is made of any start.
  induction as generalizing s with
  | nil =>
    injection hfold with hfold
    exact hfold ▸ hs
  | cons a as ih =>
    rw [List.foldlM_cons] at hfold
    obtain ⟨s₁, hstep, hrest⟩ := exists_of_except_bind hfold
    have hs₁ : Inv s₁ := h s a List.mem_cons_self s₁ hs hstep
    exact ih (fun s a ha => h s a (List.mem_cons_of_mem _ ha)) hs₁ hrest

theorem forall_mem_of_mapM {f : α → Except ε β} {as : List α} {bs : List β}
    (h : as.mapM f = .ok bs) : ∀ b ∈ bs, ∃ a ∈ as, f a = .ok b := by
  induction as generalizing bs with
  | nil =>
    injection h with h
    subst h
    exact fun b hb => nomatch hb
  | cons a as ih =>
    rw [List.mapM_cons] at h
    obtain ⟨b, hb, h⟩ := exists_of_except_bind h
    obtain ⟨bs', hbs', h⟩ := exists_of_except_bind h
    injection h with h
    subst h
    intro b' hb'
    rcases List.mem_cons.1 hb' with rfl | hb'
    · exact ⟨a, List.mem_cons_self, hb⟩
    · obtain ⟨a', ha', hf⟩ := ih hbs' b' hb'
      exact ⟨a', List.mem_cons_of_mem _ ha', hf⟩

/-! ## §3. Records. -/

namespace Record

variable {r : Record δ α} {Inv : δ → Prop}

theorem mem_of_field? {name : String} {f : Field δ} (h : r.field? name = some f) :
    f ∈ r.fields := List.mem_of_find?_eq_some h

theorem name_ne_of_field? {name : String} (h : r.field? name = none) :
    ∀ f ∈ r.fields, f.name ≠ name := by
  intro f hf hname
  have hnone := List.find?_eq_none.1 h f hf
  simp [hname] at hnone

/-- A property of drafts that holds at the start and is kept when a member that is none of the
fields is added, if its value has the property `G`. -/
structure Preserves (r : Record δ α) (Inv : δ → Prop) (G : Json → Prop) : Prop where
  empty : Inv r.empty
  keep : ∀ keep, r.keep = some keep → ∀ draft key v, (∀ f ∈ r.fields, f.name ≠ key) → G v →
    Inv draft → Inv (keep draft key v)

/-- A key that comes twice is an objection. -/
theorem yields_failDuplicate (name : String) {P : β → Prop} : Yields (failDuplicate name) P := by
  refine Yields.bind_any fun next => ?_
  dsimp only
  split
  · exact Yields.bind_any fun _ => Yields.failHere _
  · exact Yields.failHere _

/-- **Each member of a record in a text keeps the invariant of the draft.** -/
theorem yields_member {budget : Nat} (h : r.Preserves Inv (Regular budget))
    (hfield : ∀ f ∈ r.fields, Yields (f.decoder.fromText budget) fun set =>
      ∀ draft, Inv draft → Inv (set draft))
    (draft : δ) (key : String) (hdraft : Inv draft) :
    Yields (r.member budget draft key) Inv := by
  unfold member
  split
  next f hf =>
    split
    -- A field is set once; whatever else comes is kept or passed over.
    · exact yields_failDuplicate key
    · refine Yields.bind_any fun _ => Yields.bind (hfield f (mem_of_field? hf)) fun set hset => ?_
      exact Yields.pure (hset draft hdraft)
  next hnone =>
    refine Yields.bind_any fun _ => ?_
    split
    next keep hkeep =>
      refine Yields.bind (yields_value budget) fun v hv => Yields.pure ?_
      exact h.keep keep hkeep draft key v (name_ne_of_field? hnone) hv hdraft
    next => exact Yields.bind_any fun _ => Yields.pure hdraft

/-- **A record with kept members is completed from a draft with the invariant**, when it is
decoded from a text. -/
theorem yields_decoder {budget : Nat} {P : α → Prop} (hkept : r.keep.isSome = true)
    (h : ∀ b, budget = b + 1 → r.Preserves Inv (Regular b))
    (hfield : ∀ b, budget = b + 1 → ∀ f ∈ r.fields, Yields (f.decoder.fromText b) fun set =>
      ∀ draft, Inv draft → Inv (set draft))
    (hcomplete : ∀ draft a, Inv draft → r.complete draft = .ok a → P a) :
    Yields (r.decoder.fromText budget) P := by
  refine yields_withToken fun b => ?_
  split
  · refine yields_openBracket fun b hb => ?_
    have hmember := yields_member (h b hb) (hfield b hb)
    refine Yields.bind (Yields.objectRest hmember (h b hb).empty) fun draft hdraft => ?_
    unfold completeHere
    split
    next a ha => exact Yields.pure (hcomplete draft a hdraft ha)
    next => exact Yields.failHere _
  · split
    -- Only a record that keeps no members may stand in an array.
    next hsequence =>
      rw [Option.isNone_iff_eq_none.1 hsequence.2] at hkept
      cases hkept
    next => exact yields_wrongKind _ _

/-- **Each member of a record in a value keeps the invariant of the draft.** -/
theorem invariant_memberValue {G : Json → Prop} (h : r.Preserves Inv G)
    (hfield : ∀ f ∈ r.fields, ∀ v set, G v → f.decoder.fromValue v = .ok set →
      ∀ draft, Inv draft → Inv (set draft))
    {draft draft' : δ} {m : String × Json} (hm : G m.2) (hdraft : Inv draft)
    (hstep : r.memberValue draft m = .ok draft') : Inv draft' := by
  unfold memberValue at hstep
  split at hstep
  next f hf =>
    obtain ⟨set, hset, rfl⟩ := exists_of_except_map hstep
    exact hfield f (mem_of_field? hf) m.2 set hm hset draft hdraft
  next hnone =>
    split at hstep
    next keep hkeep =>
      injection hstep with hstep
      exact hstep ▸ h.keep keep hkeep draft m.1 m.2 (name_ne_of_field? hnone) hm hdraft
    next =>
      injection hstep with hstep
      exact hstep ▸ hdraft

/-- **A record with kept members is completed from a draft with the invariant**, when it is
decoded from a value. -/
theorem exists_of_ofValue {G : Json → Prop} (h : r.Preserves Inv G)
    (hfield : ∀ f ∈ r.fields, ∀ v set, G v → f.decoder.fromValue v = .ok set →
      ∀ draft, Inv draft → Inv (set draft))
    {members : Members} (hmembers : ∀ m ∈ members, G m.2) {a : α}
    (ha : r.ofValue (.object members) = .ok a) : ∃ draft, Inv draft ∧ r.complete draft = .ok a := by
  obtain ⟨draft, hfold, hcomplete⟩ := exists_of_except_bind ha
  refine ⟨draft, ?_, hcomplete⟩
  refine foldlM_invariant (fun s m hm s' hs hstep => ?_) h.empty hfold
  exact invariant_memberValue h hfield (hmembers m hm) hs hstep

/-- A record with kept members stands in an object only. -/
theorem exists_members_of_ofValue (hkept : r.keep.isSome = true) {v : Json} {a : α}
    (ha : r.ofValue v = .ok a) : ∃ members, v = .object members := by
  obtain ⟨keep, hkeep⟩ := Option.isSome_iff_exists.1 hkept
  unfold ofValue at ha
  rw [hkeep] at ha
  cases v with
  | object members => exact ⟨members, rfl⟩
  | _ => cases ha

end Record

end SurfaceStudio.Wire
