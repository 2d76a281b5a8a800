import SurfaceStudio.Chat.Decoding
import SurfaceStudio.Proofs.Surface.Nodes
import SurfaceStudio.Proofs.Wire.Records

/-!
# Surfaces and the values they are decoded from

A surface is decoded in three ways: by the check of its shape, from a value that has been read,
and straight from the text of a reply.  Whichever way it takes, its nodes and its other members
come from values with the same properties as the whole.

  • `Surface.IsField`, `Surface.othersOf` — the members that a surface keeps apart from the rest,
  • `Surface.Sound`, `Surface.ofJson_toJson` — **a sound surface is decoded from what it is written
    as**,
  • `Surface.Assembled` — the values that the parts of a surface come from,
  • `assembled_ofJson`, `assembled_readValue`, `yields_assembled` — the three ways of decoding,
  • `Surface.Assembled.sound`, `Surface.Assembled.bounded` — what follows for the surface.
-/

namespace SurfaceStudio

open Json Wire

namespace Surface

/-! ## §1. The members of a surface. -/

/-- The members with a place of their own in a surface. -/
def IsField (key : String) : Prop := key = "surfaceId" ∨ key = "content"

instance (key : String) : Decidable (IsField key) := inferInstanceAs (Decidable (_ ∨ _))

/-- The members besides the id and the content. -/
def othersOf (members : Members) : Members := members.eraseAll ["surfaceId", "content"]

theorem sorted_othersOf {members : Members} (h : members.Sorted) : (othersOf members).Sorted :=
  Members.sorted_eraseAll _ h

theorem get?_othersOf (key : String) {members : Members} (h : members.Sorted) :
    (othersOf members).get? key = if IsField key then none else members.get? key := by
  have hmem : key ∈ ["surfaceId", "content"] ↔ IsField key := by simp [IsField]
  rw [othersOf, Members.get?_eraseAll _ _ h]
  simp only [hmem]

/-! ## §2. Sound surfaces. -/

/-- **What holds of a surface however it has come about.** -/
structure Sound (s : Surface) : Prop where
  content : ∀ n ∈ s.content, n.Sound
  extra : (Json.object s.extra).Canonical
  extra_id : s.extra.get? "surfaceId" = none
  extra_content : s.extra.get? "content" = none

/-- The members that a surface is written with. -/
def writtenMembers (s : Surface) : Members :=
  ("surfaceId", .string s.id) :: ("content", .array (Node.listToJson s.content)) :: s.extra

theorem nodup_keys_writtenMembers {s : Surface} (h : s.Sound) :
    (Members.keys s.writtenMembers).Nodup := by
  have hid := Members.get?_eq_none_iff.1 h.extra_id
  have hcontent := Members.get?_eq_none_iff.1 h.extra_content
  have hextra := Members.nodup_keys_of_sorted (Json.canonical_object_iff.1 h.extra).1
  show ("surfaceId" :: "content" :: Members.keys s.extra).Nodup
  simp [hid, hcontent, hextra]

/-- What is found in the canonical form of a written surface. -/
theorem get?_canonical_writtenMembers {s : Surface} (h : s.Sound) (key : String) :
    Members.get? key (Json.collect (Json.canonicalMembers s.writtenMembers))
      = if "surfaceId" = key then some (.string s.id)
        else if "content" = key then
          some (.array (s.content.map fun n => n.toJson.canonical))
        else s.extra.get? key := by
  rw [Json.get?_collect_canonicalMembers key (nodup_keys_writtenMembers h), writtenMembers,
    Members.get?_cons, Members.get?_cons]
  split
  · rfl
  · split
    · rw [Node.listToJson_eq_map, Option.map_some, Json.canonical, Json.canonicalItems_eq_map,
        List.map_map]
      rfl
    · exact Json.map_canonical_get? key h.extra

/-- **A sound surface is decoded from what it is written as.** -/
theorem ofJson_toJson {s : Surface} (h : s.Sound) : ofJson s.toJson.canonical = .ok s := by
  have hget := get?_canonical_writtenMembers h
  have hs : Members.Sorted (Json.collect (Json.canonicalMembers s.writtenMembers)) :=
    Members.sorted_collect _
  show ofJson (.object (Json.collect (Json.canonicalMembers s.writtenMembers))) = _
  -- From here on only what is found in the members matters.
  generalize Json.collect (Json.canonicalMembers s.writtenMembers) = members at hget hs
  have hid : idOf members = .ok s.id := by
    rw [idOf, hget, if_pos rfl]
  have hcontent : contentOf members = .ok (s.content.map fun n => n.toJson.canonical) := by
    rw [contentOf, hget, if_neg (by decide), if_pos rfl]
  have hnodes : Node.ofItems (s.content.map fun n => n.toJson.canonical) = s.content := by
    rw [Node.ofItems_eq_map, List.map_map]
    exact (List.map_congr_left fun n hn => Node.ofJson_toJson (h.content n hn)).trans
      (List.map_id _)
  have hextra : othersOf members = s.extra := by
    -- Both lists are sorted, so that every key is looked up in both.
    refine Members.eq_of_get?_eq (sorted_othersOf hs) (Json.canonical_object_iff.1 h.extra).1
      fun key => ?_
    rw [get?_othersOf key hs]
    split
    next hkey =>
      rcases hkey with rfl | rfl
      · rw [h.extra_id]
      · rw [h.extra_content]
    next hkey =>
      obtain ⟨hid', hcontent'⟩ := not_or.1 hkey
      rw [hget, if_neg (Ne.symm hid'), if_neg (Ne.symm hcontent')]
  show (idOf members >>= fun id => contentOf members >>= fun items => Except.ok
    (⟨id, Node.ofItems items, othersOf members⟩ : Surface)) = .ok s
  rw [hid, hcontent]
  show Except.ok (⟨s.id, Node.ofItems _, _⟩ : Surface) = _
  rw [hnodes, hextra]

/-! ## §3. What surfaces are assembled from. -/

/-- **The values that the parts of a surface come from**: the other members have the property `G`,
and each node is decoded from a value with the property `H`. -/
structure Assembled (G H : Json → Prop) (s : Surface) : Prop where
  sorted : Members.Sorted s.extra
  extra : ∀ m ∈ s.extra, G m.2
  extra_id : s.extra.get? "surfaceId" = none
  extra_content : s.extra.get? "content" = none
  content : ∀ n ∈ s.content, ∃ v, H v ∧ Node.ofJson v = n

theorem Assembled.mono {G G' H H' : Json → Prop} {s : Surface} (h : s.Assembled G H)
    (hG : ∀ v, G v → G' v) (hH : ∀ v, H v → H' v) : s.Assembled G' H' where
  sorted := h.sorted
  extra m hm := hG _ (h.extra m hm)
  extra_id := h.extra_id
  extra_content := h.extra_content
  content n hn := by
    obtain ⟨v, hv, hn⟩ := h.content n hn
    exact ⟨v, hH v hv, hn⟩

/-- Parts from canonical values make a sound surface. -/
theorem Assembled.sound {s : Surface} (h : s.Assembled Canonical Canonical) : s.Sound where
  content n hn := by
    obtain ⟨v, hv, rfl⟩ := h.content n hn
    exact Node.sound_ofJson hv
  extra := Json.canonical_object_iff.2 ⟨h.sorted, h.extra⟩
  extra_id := h.extra_id
  extra_content := h.extra_content

/-- The surface opens a bracket around its members, and its content another one. -/
theorem Assembled.bounded {s : Surface} {b : Nat} {N : Number → Prop}
    (h : s.Assembled (fun v => v.Canonical ∧ v.Bounded (b + 1) N)
      fun v => v.Canonical ∧ v.Bounded b N) : s.toJson.Bounded (b + 2) N := by
  refine bounded_object_iff.2 fun m hm => ?_
  rcases List.mem_cons.1 hm with rfl | hm
  · exact bounded_string s.id
  · rcases List.mem_cons.1 hm with rfl | hm
    -- Each node is written within the bounds of the value it was decoded from.
    · show (Json.array (Node.listToJson s.content)).Bounded (b + 1) N
      rw [Node.listToJson_eq_map]
      refine bounded_array_iff.2 fun v hv => ?_
      obtain ⟨n, hn, rfl⟩ := List.mem_map.1 hv
      obtain ⟨w, ⟨hc, hl⟩, rfl⟩ := h.content n hn
      exact Node.bounded_toJson_ofJson hc hl
    · exact (h.extra m hm).2

/-! ## §4. The check of the shape. -/

/-- **What passes the check is an object** with a string for its id and an array for its content;
the surface has the rest of its members beside them. -/
theorem ofJson_eq_ok_iff {v : Json} {s : Surface} : ofJson v = .ok s
    ↔ ∃ (members : Members) (id : String) (items : List Json), v = .object members
      ∧ members.get? "surfaceId" = some (.string id)
      ∧ members.get? "content" = some (.array items)
      ∧ s = ⟨id, Node.ofItems items, othersOf members⟩ := by
  constructor
  · intro h
    cases v with
    | object members =>
      obtain ⟨id, hid, h⟩ := exists_of_except_bind h
      obtain ⟨items, hitems, h⟩ := exists_of_except_bind h
      injection h with h
      refine ⟨members, id, items, rfl, ?_, ?_, h.symm⟩
      · unfold idOf at hid
        split at hid
        next id' hget =>
          injection hid with hid
          rw [hget, hid]
        next => cases hid
        next => cases hid
      · unfold contentOf at hitems
        split at hitems
        next items' hget =>
          injection hitems with hitems
          rw [hget, hitems]
        next => cases hitems
        next => cases hitems
    | _ => cases h
  · rintro ⟨members, id, items, rfl, hid, hitems, rfl⟩
    show (idOf members >>= fun id => contentOf members >>= fun items => Except.ok
      (⟨id, Node.ofItems items, othersOf members⟩ : Surface)) = _
    rw [idOf, hid, contentOf, hitems]
    rfl

/-- The parts of a surface that passes the check come from the members of the object. -/
theorem assembled_ofJson {G H : Json → Prop} {members : Members} {s : Surface}
    (hs : members.Sorted) (hG : ∀ m ∈ members, G m.2)
    (hH : ∀ items, G (.array items) → ∀ v ∈ items, H v)
    (h : ofJson (.object members) = .ok s) : s.Assembled G H := by
  obtain ⟨_, id, items, ⟨⟩, -, hitems, rfl⟩ := ofJson_eq_ok_iff.1 h
  have hsub : List.Sublist (othersOf members) members := Members.eraseAll_sublist _ members
  refine ⟨sorted_othersOf hs, fun m hm => hG m (hsub.subset hm), ?_, ?_, fun n hn => ?_⟩
  · rw [get?_othersOf _ hs, if_pos (.inl rfl)]
  · rw [get?_othersOf _ hs, if_pos (.inr rfl)]
  · rw [Node.ofItems_eq_map] at hn
    obtain ⟨v, hv, rfl⟩ := List.mem_map.1 hn
    exact ⟨v, hH items (hG _ (Members.mem_of_get? hitems)) v hv, rfl⟩

theorem exists_members_of_ofJson {v : Json} {s : Surface} (h : ofJson v = .ok s) :
    ∃ members, v = .object members := by
  obtain ⟨members, -, -, hv, -⟩ := ofJson_eq_ok_iff.1 h
  exact ⟨members, hv⟩

theorem read_of_parse {text : String} {s : Surface} (h : parse text = .ok s) :
    ∃ v, Json.read text = .ok v ∧ ofJson v = .ok s := by
  unfold parse at h
  split at h
  next => cases h
  next v hv =>
    split at h
    next => cases h
    next s' hs =>
      injection h with h
      exact ⟨v, hv, h ▸ hs⟩

theorem parse_of_read {text : String} {v : Json} {s : Surface} (hv : Json.read text = .ok v)
    (hs : ofJson v = .ok s) : parse text = .ok s := by
  rw [parse, hv]
  dsimp only
  rw [hs]

/-! ## §5. The decoder. -/

/-- The same of a draft: what has been read of the content comes from values with `H`. -/
structure Draft.Assembled (G H : Json → Prop) (draft : Draft) : Prop where
  sorted : Members.Sorted draft.extra
  extra : ∀ m ∈ draft.extra, G m.2
  extra_id : draft.extra.get? "surfaceId" = none
  extra_content : draft.extra.get? "content" = none
  content : ∀ ns, draft.content = some ns → ∀ n ∈ ns, ∃ v, H v ∧ Node.ofJson v = n

theorem preserves_assembled (G H : Json → Prop) :
    record.Preserves (Draft.Assembled G H) G where
  empty := ⟨Members.sorted_nil, (fun _ h => nomatch h), rfl, rfl, fun _ h => nomatch h⟩
  keep := by
    rintro _ ⟨⟩ draft key v hkey hv hdraft
    -- A member that is kept is none of the two fields.
    have hid : "surfaceId" ≠ key := hkey _ List.mem_cons_self
    have hcontent : "content" ≠ key := hkey _ (List.mem_cons_of_mem _ List.mem_cons_self)
    refine ⟨Members.sorted_insert key v hdraft.sorted, fun m hm => ?_, ?_, ?_, hdraft.content⟩
    · rcases Members.mem_insert hm with rfl | hm
      · exact hv
      · exact hdraft.extra m hm
    · exact (Members.get?_insert _ _ _ _).trans ((if_neg hid.symm).trans hdraft.extra_id)
    · exact (Members.get?_insert _ _ _ _).trans ((if_neg hcontent.symm).trans hdraft.extra_content)

/-- A draft is completed to a surface that is assembled from the same values. -/
theorem assembled_complete {G H : Json → Prop} {draft : Draft} {s : Surface}
    (hdraft : draft.Assembled G H) (h : record.complete draft = .ok s) : s.Assembled G H := by
  obtain ⟨id, -, h⟩ := exists_of_except_bind h
  obtain ⟨ns, hns, h⟩ := exists_of_except_bind h
  injection h with h
  subst h
  refine ⟨hdraft.sorted, hdraft.extra, hdraft.extra_id, hdraft.extra_content, ?_⟩
  -- Without content there is no surface.
  cases hcontent : draft.content with
  | none =>
    rw [hcontent] at hns
    cases hns
  | some ns' =>
    rw [hcontent] at hns
    injection hns with hns
    exact hns ▸ hdraft.content ns' hcontent

/-- The parts of a surface that is decoded from a text nest no deeper than the brackets that are
left of the budget. -/
theorem yields_assembled (budget : Nat) : Yields (decoder.fromText budget) fun s =>
    s.Assembled (Regular (budget - 1)) (Regular (budget - 2)) := by
  have hpreserves : ∀ b, budget = b + 1 → record.Preserves
      (Draft.Assembled (Regular (budget - 1)) (Regular (budget - 2))) (Regular b) := by
    rintro b rfl
    exact preserves_assembled _ _
  refine Record.yields_decoder rfl hpreserves ?_ fun draft s => assembled_complete
  rintro b rfl f hf
  rcases List.mem_cons.1 hf with rfl | hf
  · refine yields_map (P := fun _ => True) (fun _ _ _ _ => trivial) fun id _ draft hdraft => ?_
    exact ⟨hdraft.sorted, hdraft.extra, hdraft.extra_id, hdraft.extra_content, hdraft.content⟩
  · rw [List.mem_singleton.1 hf]
    -- The surface opens one bracket of the budget, and its content another.
    have hnode : ∀ b', b = b' + 1 → Yields (Node.decoder.fromText b') fun n =>
        ∃ v, Regular (b + 1 - 2) v ∧ Node.ofJson v = n := by
      rintro b' rfl
      exact yields_map (yields_value b') fun v hv => ⟨v, hv, rfl⟩
    refine yields_map (yields_list hnode) fun ns hns draft hdraft => ?_
    refine ⟨hdraft.sorted, hdraft.extra, hdraft.extra_id, hdraft.extra_content, ?_⟩
    rintro _ ⟨⟩
    exact hns

/-- The parts of a surface that is decoded from a value come from its members. -/
theorem assembled_readValue {G H : Json → Prop} {members : Members} {s : Surface}
    (hG : ∀ m ∈ members, G m.2) (hH : ∀ items, G (.array items) → ∀ v ∈ items, H v)
    (h : decoder.readValue (.object members) = .ok s) : s.Assembled G H := by
  have hfield : ∀ f ∈ record.fields, ∀ v set, G v → f.decoder.fromValue v = .ok set →
      ∀ draft, Draft.Assembled G H draft → Draft.Assembled G H (set draft) := by
    intro f hf v set hv hset draft hdraft
    -- The id is none of the parts; the content is decoded element by element.
    rcases List.mem_cons.1 hf with rfl | hf
    · obtain ⟨id, -, rfl⟩ := exists_of_except_map hset
      exact ⟨hdraft.sorted, hdraft.extra, hdraft.extra_id, hdraft.extra_content, hdraft.content⟩
    · rw [List.mem_singleton.1 hf] at hset
      obtain ⟨ns, hns, rfl⟩ := exists_of_except_map hset
      refine ⟨hdraft.sorted, hdraft.extra, hdraft.extra_id, hdraft.extra_content, ?_⟩
      rintro _ ⟨⟩ n hn
      cases v with
      | array items =>
        obtain ⟨w, hw, hnode⟩ := forall_mem_of_mapM hns n hn
        injection hnode with hnode
        exact ⟨w, hH items hv w hw, hnode⟩
      | _ => cases hns
  obtain ⟨draft, hdraft, hcomplete⟩ :=
    Record.exists_of_ofValue (preserves_assembled G H) hfield hG h
  exact assembled_complete hdraft hcomplete

end Surface

end SurfaceStudio
