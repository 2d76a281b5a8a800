import SurfaceStudio.Proofs.Surface.Documents

/-!
# Decoding loses nothing

A decoded node is written as the value it was decoded from, and so is a decoded surface.  It does
not matter whether the value has the shape of a node: what does not fit is kept as it stands, and
the optional keys are written in the form in which they were found.

  • `Node.optionalValue?_props`, `Node.optionalValue?_children` — an optional key is written with
    what was found under it,
  • `Node.canonical_toJson_ofJson` — **a decoded node is written as what it was decoded from**,
  • `Surface.canonical_toJson_of_ofJson` — the same of surfaces,
  • `Surface.lossless` — both together.
-/

namespace SurfaceStudio

open Json

namespace Node

/-! ## §1. The known keys. -/

theorem get?_of_isTag {members : Members} (h : isTag (members.get? "type") = true) :
    members.get? "type" = some (.string (tagOf members)) := by
  unfold tagOf
  cases hv : members.get? "type" with
  | none =>
    rw [hv] at h
    cases h
  | some v =>
    rw [hv] at h
    cases v with
    | string tag => rfl
    | _ => cases h

/-- Under `props` a decoded node is written with what was found there. -/
theorem optionalValue?_props {members : Members}
    (h : mayBeProps (members.get? "props") = true) :
    optionalValue? (formOf (members.get? "props")) (propsOf members).isEmpty
      (.object (propsOf members)) = members.get? "props" := by
  unfold propsOf
  cases hv : members.get? "props" with
  | none => rfl
  | some v =>
    rw [hv] at h
    -- Null and objects are remembered; nothing else passes the check of the shape.
    cases v with
    | null => rfl
    | object props => rfl
    | _ => cases h

/-- Under `children` a decoded node is written with what was found there, as soon as each child is
written as what it was decoded from. -/
theorem optionalValue?_children {members : Members}
    (h : mayBeChildren (members.get? "children") = true)
    (hitems : ∀ items, members.get? "children" = some (.array items) →
      ∀ v ∈ items, (ofJson v).toJson.canonical = v) :
    optionalValue? (formOf (members.get? "children")) (childrenOf members).isEmpty
      (.array ((childrenOf members).map fun c => c.toJson.canonical))
        = members.get? "children" := by
  rw [childrenOf_eq]
  cases hv : members.get? "children" with
  | none => rfl
  | some v =>
    rw [hv] at h
    cases v with
    | null => rfl
    | array items =>
      have hmap : (ofItems items).map (fun c => c.toJson.canonical) = items := by
        rw [ofItems_eq_map, List.map_map]
        exact (List.map_congr_left (hitems items hv)).trans (List.map_id _)
      show some (Json.array ((ofItems items).map fun c => c.toJson.canonical)) = _
      rw [hmap]
    | _ => cases h

/-! ## §2. Nodes. -/

/-- The members of a proper node are those that the decoded node is written with. -/
theorem collect_writtenMembers_ofJson {members : Members} (h : (Json.object members).Canonical)
    (hshape : shapeFault? members = none)
    (hitems : ∀ items, members.get? "children" = some (.array items) →
      ∀ v ∈ items, (ofJson v).toJson.canonical = v) :
    collect (canonicalMembers (ofJson (.object members)).writtenMembers) = members := by
  obtain ⟨hs, -⟩ := canonical_object_iff.1 h
  obtain ⟨htag, hprops, hchildren⟩ := shapeFault?_eq_none_iff.1 hshape
  -- Both lists are sorted, so that every key is looked up in both.
  refine Members.eq_of_get?_eq (Members.sorted_collect _) hs fun key => ?_
  rw [get?_canonical_writtenMembers (tidy_ofJson h hshape).clean, ofJson, ofMembers, hshape]
  dsimp only
  by_cases htype : "type" = key
  · rw [if_pos htype, ← htype, get?_of_isTag htag]
  · rw [if_neg htype]
    by_cases hkey : "props" = key
    · rw [if_pos hkey, optionalValue?_props hprops, hkey]
    · rw [if_neg hkey]
      by_cases hkey' : "children" = key
      · rw [if_pos hkey', optionalValue?_children hchildren hitems, hkey']
      -- Any other key has been left where it was.
      · have hother : key ∉ ["type", "props", "children"] := by
          simp [Ne.symm htype, Ne.symm hkey, Ne.symm hkey']
        rw [if_neg hkey']
        exact (get?_othersOf key hs).trans (if_neg hother)

/-- A decoded node, and the nodes decoded from the elements of an array, are written as what they
were decoded from. -/
theorem canonical_toJson_ofJson_and_items {v : Json} (h : v.Canonical) :
    (ofJson v).toJson.canonical = v
      ∧ ∀ items, v = .array items → ∀ w ∈ items, (ofJson w).toJson.canonical = w := by
  -- The children are the elements of an array, one step further down than the statement.
  induction v using Json.induction with
  | null => exact ⟨rfl, fun _ hv => nomatch hv⟩
  | bool b => exact ⟨rfl, fun _ hv => nomatch hv⟩
  | number n => exact ⟨rfl, fun _ hv => nomatch hv⟩
  | string s => exact ⟨rfl, fun _ hv => nomatch hv⟩
  | array items ih =>
    refine ⟨canonical_eq_self h, ?_⟩
    rintro _ ⟨⟩ w hw
    exact (ih w hw (canonical_array_iff.1 h w hw)).1
  | object members ih =>
    refine ⟨?_, fun _ hv => nomatch hv⟩
    cases hshape : shapeFault? members with
    | some fault => rw [toJson_of_defect (defect_ofJson hshape), canonical_eq_self h]
    | none =>
      rw [toJson_of_clean (tidy_ofJson h hshape).clean, canonical,
        collect_writtenMembers_ofJson h hshape]
      intro items hitems
      have hmem := Members.mem_of_get? hitems
      exact (ih _ hmem ((canonical_object_iff.1 h).2 _ hmem)).2 items rfl

/-- **A decoded node is written as the value it was decoded from.** -/
theorem canonical_toJson_ofJson {v : Json} (h : v.Canonical) :
    (ofJson v).toJson.canonical = v :=
  (canonical_toJson_ofJson_and_items h).1

end Node

/-! ## §3. Surfaces. -/

namespace Surface

/-- **A decoded surface is written as the value it was decoded from.** -/
theorem canonical_toJson_of_ofJson {v : Json} {s : Surface} (hv : v.Canonical)
    (h : ofJson v = .ok s) : s.toJson.canonical = v := by
  obtain ⟨members, id, items, rfl, hid, hitems, rfl⟩ := ofJson_eq_ok_iff.1 h
  obtain ⟨hs, hc⟩ := canonical_object_iff.1 hv
  have hsound := (assembled_ofJson hs hc (fun _ => canonical_array_iff.1) h).sound
  have hnodes : (Node.ofItems items).map (fun n => n.toJson.canonical) = items := by
    have hmem := canonical_array_iff.1 (hc _ (Members.mem_of_get? hitems))
    rw [Node.ofItems_eq_map, List.map_map]
    exact (List.map_congr_left fun v hv => Node.canonical_toJson_ofJson (hmem v hv)).trans
      (List.map_id _)
  refine congrArg Json.object ?_
  -- Both lists are sorted, so that every key is looked up in both.
  refine Members.eq_of_get?_eq (Members.sorted_collect _) hs fun key => ?_
  refine (get?_canonical_writtenMembers hsound key).trans ?_
  dsimp only
  by_cases hkey : "surfaceId" = key
  · rw [if_pos hkey, ← hkey, hid]
  · rw [if_neg hkey]
    by_cases hkey' : "content" = key
    · rw [if_pos hkey', hnodes, ← hkey', hitems]
    · have hfield : ¬ IsField key := not_or.2 ⟨Ne.symm hkey, Ne.symm hkey'⟩
      rw [if_neg hkey', get?_othersOf _ hs, if_neg hfield]

/-- **Decoding loses nothing**: whatever value a node is decoded from, it is written as that value
again, and so is a surface whenever the value is one. -/
theorem lossless {v : Json} (hv : v.Canonical) :
    (Node.ofJson v).toJson.canonical = v ∧ ∀ s, ofJson v = .ok s → s.toJson.canonical = v :=
  ⟨Node.canonical_toJson_ofJson hv, fun _ h => canonical_toJson_of_ofJson hv h⟩

/-- A document with a proper card and a node that is none; the card has no `props`, a child that
is null, and another one that has null for its properties. -/
def patchyDocument : Json :=
  .object [
    ("content", .array [
      .object [
        ("children", .array [.null, .object [("props", .null), ("type", .string "Text")]]),
        ("id", .string "n1"),
        ("type", .string "Card")],
      .object [("children", .string "nope"), ("type", .string "List")]]),
    ("surfaceId", .string "s"),
    ("theme", .string "dark")]

theorem lossless_patchyDocument : patchyDocument.Canonical
    ∧ (Node.ofJson patchyDocument).toJson.canonical = patchyDocument
    ∧ ∃ s, ofJson patchyDocument = .ok s ∧ s.toJson.canonical = patchyDocument := by
  have hself : patchyDocument.canonical = patchyDocument := rfl
  have hcanonical : patchyDocument.Canonical := hself ▸ canonical_canonical patchyDocument
  obtain ⟨hnode, hsurface⟩ := lossless hcanonical
  exact ⟨hcanonical, hnode, _, rfl, hsurface _ rfl⟩

end Surface

end SurfaceStudio
