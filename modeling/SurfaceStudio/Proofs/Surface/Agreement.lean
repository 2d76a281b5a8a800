import Mathlib
import SurfaceStudio.Proofs.Surface.Documents
import SurfaceStudio.Proofs.Wire.Agreement

/-!
# The check of the shape and the decoder agree

A surface is read in two ways.  A text from the editor is read as a value, and the check of the
shape is made of that; a surface in a reply is decoded member by member while its text is read.

  • `Draft.ofMembers` — the draft that the decoder has after it has read some members,
  • `memberOnce_eq_ok_iff`, `foldlM_memberOnce_eq_ok_iff` — one member, and all of them,
  • `complete_ofMembers_eq_ok_iff` — completing the draft is the check of the shape,
  • `decoders_agree` — **both ways accept the same and return the same surface**, but for a text
    that gives the id or the content twice.
-/

namespace SurfaceStudio

open Json Wire

namespace Surface

/-! ## §1. Drafts of members. -/

/-- The nodes of an array. -/
def nodesOf? : Json → Option (List Node)
  | .array items => some (Node.ofItems items)
  | _ => none

/-- **The draft of a surface with these members.** -/
def Draft.ofMembers (members : Members) : Draft where
  id := (members.get? "surfaceId").bind text?
  content := (members.get? "content").bind nodesOf?
  extra := othersOf members

/-- The id and the content are none of the others. -/
theorem othersOf_insert_field {key : String} (hkey : IsField key) (v : Json) {members : Members}
    (h : members.Sorted) : othersOf (members.insert key v) = othersOf members := by
  have hins := Members.sorted_insert key v h
  refine Members.eq_of_get?_eq (sorted_othersOf hins) (sorted_othersOf h) fun key' => ?_
  rw [get?_othersOf _ hins, get?_othersOf _ h, Members.get?_insert]
  split
  · rfl
  next hkey' => rw [if_neg fun heq : key = key' => hkey' (heq ▸ hkey)]

theorem othersOf_insert_other {key : String} (hkey : ¬ IsField key) (v : Json) {members : Members}
    (h : members.Sorted) : othersOf (members.insert key v) = (othersOf members).insert key v := by
  have hins := Members.sorted_insert key v h
  have hins' := Members.sorted_insert key v (sorted_othersOf h)
  refine Members.eq_of_get?_eq (sorted_othersOf hins) hins' fun key' => ?_
  rw [get?_othersOf _ hins, Members.get?_insert, Members.get?_insert, get?_othersOf _ h]
  by_cases heq : key = key'
  · subst heq
    rw [if_neg hkey, if_pos rfl, if_pos rfl]
  · rw [if_neg heq, if_neg heq]

/-! ## §2. Values of the right kind. -/

/-- The value may stand under the key: the id is a string, and the content an array. -/
structure Fits (key : String) (v : Json) : Prop where
  id : key = "surfaceId" → ∃ id, v = .string id
  content : key = "content" → ∃ items, v = .array items

theorem fits_of_not_field {key : String} (h : ¬ IsField key) (v : Json) : Fits key v :=
  ⟨fun hid => absurd (.inl hid) h, fun hcontent => absurd (.inr hcontent) h⟩

/-- **Every value may stand under its key.** -/
def Readable (members : Members) : Prop := ∀ key v, members.get? key = some v → Fits key v

/-- A member that overwrites neither the id nor the content leaves them to be looked at. -/
theorem readable_insert_iff {key : String} {v : Json} {members : Members}
    (hkey : IsField key → members.get? key = none) :
    Readable (members.insert key v) ↔ Readable members ∧ Fits key v := by
  constructor
  · intro h
    have hv : Fits key v := h key v (by rw [Members.get?_insert, if_pos rfl])
    refine ⟨fun key' v' hv' => ?_, hv⟩
    by_cases heq : key = key'
    · subst heq
      refine fits_of_not_field (fun hfield => ?_) v'
      rw [hkey hfield] at hv'
      cases hv'
    · exact h key' v' (by rwa [Members.get?_insert, if_neg heq])
  · rintro ⟨h, hv⟩ key' v' hv'
    rw [Members.get?_insert] at hv'
    split at hv'
    next heq =>
      injection hv' with hv'
      exact heq ▸ hv' ▸ hv
    next => exact h key' v' hv'

/-! ## §3. One member. -/

theorem id_ofMembers_eq_none_iff {members : Members} (h : Readable members) :
    (Draft.ofMembers members).id = none ↔ members.get? "surfaceId" = none := by
  show (members.get? "surfaceId").bind text? = none ↔ _
  cases hv : members.get? "surfaceId" with
  | none => exact ⟨fun _ => rfl, fun _ => rfl⟩
  | some v =>
    obtain ⟨id, rfl⟩ := (h _ v hv).id rfl
    exact ⟨(nomatch ·), (nomatch ·)⟩

theorem content_ofMembers_eq_none_iff {members : Members} (h : Readable members) :
    (Draft.ofMembers members).content = none ↔ members.get? "content" = none := by
  show (members.get? "content").bind nodesOf? = none ↔ _
  cases hv : members.get? "content" with
  | none => exact ⟨fun _ => rfl, fun _ => rfl⟩
  | some v =>
    obtain ⟨items, rfl⟩ := (h _ v hv).content rfl
    exact ⟨(nomatch ·), (nomatch ·)⟩

theorem ofMembers_insert_id (id : String) {members : Members} (hs : members.Sorted) :
    Draft.ofMembers (members.insert "surfaceId" (.string id))
      = { Draft.ofMembers members with id := some id } := by
  unfold Draft.ofMembers
  rw [Members.get?_insert, Members.get?_insert, if_pos rfl, if_neg (by decide),
    othersOf_insert_field (.inl rfl) _ hs]
  rfl

theorem ofMembers_insert_content (items : List Json) {members : Members} (hs : members.Sorted) :
    Draft.ofMembers (members.insert "content" (.array items))
      = { Draft.ofMembers members with content := some (Node.ofItems items) } := by
  unfold Draft.ofMembers
  rw [Members.get?_insert, Members.get?_insert, if_neg (by decide), if_pos rfl,
    othersOf_insert_field (.inr rfl) _ hs]
  rfl

theorem ofMembers_insert_other {key : String} (hkey : ¬ IsField key) (v : Json)
    {members : Members} (hs : members.Sorted) :
    Draft.ofMembers (members.insert key v)
      = { Draft.ofMembers members with extra := (othersOf members).insert key v } := by
  obtain ⟨hid, hcontent⟩ := not_or.1 hkey
  unfold Draft.ofMembers
  rw [Members.get?_insert, Members.get?_insert, if_neg hid, if_neg hcontent,
    othersOf_insert_other hkey _ hs]

theorem field?_eq_none {key : String} (h : ¬ IsField key) : record.field? key = none := by
  obtain ⟨hid, hcontent⟩ := not_or.1 h
  refine List.find?_eq_none.2 fun f hf => ?_
  rcases List.mem_cons.1 hf with rfl | hf
  · simpa [Field.of] using Ne.symm hid
  · rw [List.mem_singleton.1 hf]
    simpa [Field.of] using Ne.symm hcontent

/-- The elements of an array are decoded as the nodes of a document are. -/
theorem fromValue_list_node (items : List Json) :
    (Decoder.list Node.decoder).fromValue (.array items) = .ok (Node.ofItems items) := by
  show (items.mapM fun v => Except.ok (Node.ofJson v)) = _
  rw [Node.ofItems_eq_map]
  exact List.mapM_pure

/-- **One member is put into the draft** as it is put among the members. -/
theorem memberOnce_eq_ok_iff {members : Members} (hs : members.Sorted) (h : Readable members)
    {key : String} {v : Json} {draft : Draft} :
    record.memberOnce (Draft.ofMembers members) (key, v) = .ok draft
      ↔ (IsField key → members.get? key = none) ∧ Fits key v
        ∧ draft = Draft.ofMembers (members.insert key v) := by
  by_cases hid : key = "surfaceId"
  · subst hid
    rw [Record.memberOnce_of_eq_ok_iff rfl, id_ofMembers_eq_none_iff h]
    constructor
    · rintro ⟨hnone, id, hv, rfl⟩
      cases v with
      | string text =>
        injection hv with hv
        subst hv
        refine ⟨fun _ => hnone, ⟨fun _ => ⟨text, rfl⟩, fun hkey => absurd hkey (by decide)⟩, ?_⟩
        exact (ofMembers_insert_id text hs).symm
      | _ => cases hv
    · rintro ⟨hnone, hfits, rfl⟩
      obtain ⟨id, rfl⟩ := hfits.id rfl
      exact ⟨hnone (.inl rfl), id, rfl, (ofMembers_insert_id id hs).symm⟩
  · by_cases hcontent : key = "content"
    · subst hcontent
      rw [Record.memberOnce_of_eq_ok_iff rfl, content_ofMembers_eq_none_iff h]
      constructor
      · rintro ⟨hnone, ns, hv, rfl⟩
        cases v with
        | array items =>
          rw [fromValue_list_node] at hv
          injection hv with hv
          subst hv
          refine ⟨fun _ => hnone, ⟨fun hkey => absurd hkey hid, fun _ => ⟨items, rfl⟩⟩, ?_⟩
          exact (ofMembers_insert_content items hs).symm
        | _ => cases hv
      · rintro ⟨hnone, hfits, rfl⟩
        obtain ⟨items, rfl⟩ := hfits.content rfl
        exact ⟨hnone (.inr rfl), _, fromValue_list_node items,
          (ofMembers_insert_content items hs).symm⟩
    · have hkey : ¬ IsField key := not_or.2 ⟨hid, hcontent⟩
      rw [Record.memberOnce_other rfl (field?_eq_none hkey), ofMembers_insert_other hkey v hs]
      constructor
      · intro hdraft
        injection hdraft with hdraft
        exact ⟨fun hfield => absurd hfield hkey, fits_of_not_field hkey v, hdraft.symm⟩
      · rintro ⟨-, -, rfl⟩
        rfl

/-! ## §4. All members. -/

/-- Neither the id nor the content is given twice. -/
def GivenOnce (ms : Members) : Prop := ∀ key, IsField key → ms.keys.count key ≤ 1

theorem count_keys_append (ms : Members) (key : String) (v : Json) (key' : String) :
    (Members.keys (ms ++ [(key, v)])).count key'
      = ms.keys.count key' + if key = key' then 1 else 0 := by
  rw [Members.keys, List.map_append, List.count_append, List.map_singleton, List.count_singleton]
  by_cases h : key = key'
  · rw [if_pos h, if_pos (beq_iff_eq.2 h)]
    rfl
  · rw [if_neg h, if_neg fun heq => h (beq_iff_eq.1 heq)]
    rfl

theorem givenOnce_append_iff {ms : Members} {key : String} {v : Json} :
    GivenOnce (ms ++ [(key, v)]) ↔ GivenOnce ms ∧ (IsField key → key ∉ ms.keys) := by
  constructor
  · intro h
    refine ⟨fun key' hfield => ?_, fun hfield hmem => ?_⟩
    · have hcount := h key' hfield
      rw [count_keys_append] at hcount
      exact Nat.le_trans (Nat.le_add_right _ _) hcount
    · have hcount := h key hfield
      have hpos : 0 < ms.keys.count key := List.count_pos_iff.2 hmem
      rw [count_keys_append, if_pos rfl] at hcount
      omega
  · rintro ⟨h, hnew⟩ key' hfield
    rw [count_keys_append]
    split
    next heq =>
      subst heq
      exact Nat.le_of_eq (congrArg (· + 1) (List.count_eq_zero.2 (hnew hfield)))
    next => exact h key' hfield

/-- **The decoder takes members one by one** whose values are of the right kind, and none of its
fields twice; its draft is that of all of them. -/
theorem foldlM_memberOnce_eq_ok_iff {ms : Members} {draft : Draft} :
    ms.foldlM record.memberOnce record.empty = .ok draft
      ↔ Readable (collect ms) ∧ GivenOnce ms ∧ draft = Draft.ofMembers (collect ms) := by
  -- The last member is put into a draft of which everything is known.
  induction ms using List.reverseRecOn generalizing draft with
  | nil =>
    have hreadable : Readable (collect []) := fun _ _ h => nomatch h
    have honce : GivenOnce [] := fun _ _ => Nat.zero_le _
    constructor
    · intro h
      injection h with h
      exact ⟨hreadable, honce, h.symm⟩
    · rintro ⟨-, -, rfl⟩
      rfl
  | append_singleton ms m ih =>
    obtain ⟨key, v⟩ := m
    have hs : (collect ms).Sorted := Members.sorted_collect ms
    rw [List.foldlM_append, Members.collect_append_singleton, givenOnce_append_iff]
    constructor
    · intro h
      obtain ⟨draft', hdraft', h⟩ := exists_of_except_bind h
      obtain ⟨hreadable, honce, rfl⟩ := ih.1 hdraft'
      obtain ⟨draft'', hstep, h⟩ := exists_of_except_bind h
      injection h with h
      subst h
      obtain ⟨hnone, hfits, rfl⟩ := (memberOnce_eq_ok_iff hs hreadable).1 hstep
      refine ⟨(readable_insert_iff hnone).2 ⟨hreadable, hfits⟩, ⟨honce, fun hfield => ?_⟩, rfl⟩
      exact Members.get?_collect_eq_none_iff.1 (hnone hfield)
    · rintro ⟨hreadable, ⟨honce, hnew⟩, rfl⟩
      have hnone : IsField key → (collect ms).get? key = none := fun hfield =>
        Members.get?_collect_eq_none_iff.2 (hnew hfield)
      obtain ⟨hreadable, hfits⟩ := (readable_insert_iff hnone).1 hreadable
      have hstep := (memberOnce_eq_ok_iff hs hreadable).2 ⟨hnone, hfits, rfl⟩
      rw [ih.2 ⟨hreadable, honce, rfl⟩]
      show (record.memberOnce _ (key, v) >>= _) = _
      rw [hstep]
      rfl

/-! ## §5. Complete drafts. -/

theorem required_eq_ok_iff {α : Type} {name : String} {x? : Option α} {x : α} :
    required name x? = .ok x ↔ x? = some x := by
  cases x? with
  | none => exact ⟨(nomatch ·), (nomatch ·)⟩
  | some y => rw [required, Except.ok.injEq, Option.some.injEq]

theorem text?_eq_some_iff {v : Json} {text : String} : v.text? = some text ↔ v = .string text := by
  cases v <;> simp [text?]

theorem nodesOf?_eq_some_iff {v : Json} {ns : List Node} :
    nodesOf? v = some ns ↔ ∃ items, v = .array items ∧ Node.ofItems items = ns := by
  cases v <;> simp [nodesOf?]

/-- **Completing the draft is the check of the shape.** -/
theorem complete_ofMembers_eq_ok_iff {members : Members} {s : Surface} :
    record.complete (Draft.ofMembers members) = .ok s ↔ ofJson (.object members) = .ok s := by
  rw [ofJson_eq_ok_iff]
  constructor
  · intro h
    obtain ⟨id, hid, h⟩ := exists_of_except_bind h
    obtain ⟨ns, hns, h⟩ := exists_of_except_bind h
    injection h with h
    obtain ⟨v, hv, hid⟩ := Option.bind_eq_some_iff.1 (required_eq_ok_iff.1 hid)
    obtain ⟨w, hw, hns⟩ := Option.bind_eq_some_iff.1 (required_eq_ok_iff.1 hns)
    rw [text?_eq_some_iff] at hid
    obtain ⟨items, rfl, rfl⟩ := nodesOf?_eq_some_iff.1 hns
    subst hid
    exact ⟨members, id, items, rfl, hv, hw, h.symm⟩
  · rintro ⟨_, id, items, ⟨⟩, hid, hitems, rfl⟩
    show (required "surfaceId" ((members.get? "surfaceId").bind text?) >>= fun id =>
      required "content" ((members.get? "content").bind nodesOf?) >>= fun ns =>
        Except.ok (⟨id, ns, othersOf members⟩ : Surface)) = _
    rw [hid, hitems]
    rfl

/-- What passes the check has an id and a content of the right kind. -/
theorem readable_of_ofJson {members : Members} {s : Surface}
    (h : ofJson (.object members) = .ok s) : Readable members := by
  obtain ⟨_, id, items, ⟨⟩, hid, hitems, -⟩ := ofJson_eq_ok_iff.1 h
  intro key v hv
  constructor
  · rintro rfl
    rw [hid] at hv
    injection hv with hv
    exact ⟨id, hv.symm⟩
  · rintro rfl
    rw [hitems] at hv
    injection hv with hv
    exact ⟨items, hv.symm⟩

/-- **The members of an object are decoded** if the check accepts them when they are collected, and
neither the id nor the content is given twice. -/
theorem ofEntries_eq_ok_iff {ms : Members} {s : Surface} :
    record.ofEntries ms = .ok s ↔ ofJson (.object (collect ms)) = .ok s ∧ GivenOnce ms := by
  constructor
  · intro h
    obtain ⟨draft, hdraft, hcomplete⟩ := exists_of_except_bind h
    obtain ⟨-, honce, rfl⟩ := foldlM_memberOnce_eq_ok_iff.1 hdraft
    exact ⟨complete_ofMembers_eq_ok_iff.1 hcomplete, honce⟩
  · rintro ⟨hs, honce⟩
    have hdraft := foldlM_memberOnce_eq_ok_iff.2 ⟨readable_of_ofJson hs, honce, rfl⟩
    rw [Record.ofEntries, hdraft]
    exact complete_ofMembers_eq_ok_iff.2 hs

/-! ## §6. The two ways of reading a surface. -/

theorem hasRead_ofMembers {members : Members} {key : String} (h : members.get? key = none) :
    record.hasRead (Draft.ofMembers members) key = false := by
  by_cases hid : key = "surfaceId"
  · subst hid
    show ((members.get? "surfaceId").bind text?).isSome = false
    rw [h]
    rfl
  · by_cases hcontent : key = "content"
    · subst hcontent
      show ((members.get? "content").bind nodesOf?).isSome = false
      rw [h]
      rfl
    · rw [Record.hasRead, field?_eq_none (not_or.2 ⟨hid, hcontent⟩)]
      rfl

/-- Members with different keys are no repetitions. -/
theorem foldlM_memberValue {ms : Members} (h : ms.keys.Nodup) :
    ms.foldlM record.memberValue record.empty = ms.foldlM record.memberOnce record.empty := by
  induction ms using List.reverseRecOn with
  | nil => rfl
  | append_singleton ms m ih =>
    obtain ⟨key, v⟩ := m
    rw [Members.keys, List.map_append, List.nodup_append] at h
    obtain ⟨hnodup, -, hdisjoint⟩ := h
    have hnew : key ∉ Members.keys ms := fun hmem =>
      hdisjoint key hmem key List.mem_cons_self rfl
    rw [List.foldlM_append, List.foldlM_append, ih hnodup]
    cases hfold : ms.foldlM record.memberOnce record.empty with
    | error cause => rfl
    | ok draft =>
      obtain ⟨-, -, rfl⟩ := foldlM_memberOnce_eq_ok_iff.1 hfold
      have hread := hasRead_ofMembers (Members.get?_collect_eq_none_iff.2 hnew)
      show (record.memberValue _ (key, v) >>= _) = (record.memberOnce _ (key, v) >>= _)
      rw [Record.memberOnce, hread, if_neg Bool.false_ne_true]
      rfl

/-- **A value is decoded if it passes the check**, and to the same surface. -/
theorem readValue_eq_ok_iff {v : Json} (hv : v.Canonical) {s : Surface} :
    decoder.readValue v = .ok s ↔ ofJson v = .ok s := by
  cases v with
  | object members =>
    have hs : Members.Sorted members := (canonical_object_iff.1 hv).1
    have hnodup := Members.nodup_keys_of_sorted hs
    have honce : GivenOnce members := fun key _ => List.nodup_iff_count.1 hnodup key
    show (members.foldlM record.memberValue record.empty >>= record.complete) = _ ↔ _
    rw [foldlM_memberValue hnodup]
    show record.ofEntries members = _ ↔ _
    rw [ofEntries_eq_ok_iff, Members.collect_of_sorted hs, and_iff_left honce]
  | _ =>
    constructor
    · intro h
      cases h
    · intro h
      cases h

theorem agrees_fields : ∀ f ∈ record.fields, f.decoder.Agrees := by
  intro f hf
  rcases List.mem_cons.1 hf with rfl | hf
  · exact agrees_string.map _
  · rw [List.mem_singleton.1 hf]
    exact (agrees_json.map Node.ofJson).list.map _

theorem readText_eq_ok_iff {text : String} {s : Surface} :
    decoder.readText (bytesOf text) = .ok s
      ↔ ∃ ms, readMembers text = .ok ms ∧ record.ofEntries ms = .ok s :=
  (Record.factors_decoder rfl agrees_fields bracketBudget).readWith_eq_ok_iff

theorem parse_eq_ok_iff {text : String} {s : Surface} :
    parse text = .ok s
      ↔ ∃ ms, readMembers text = .ok ms ∧ ofJson (.object (collect ms)) = .ok s := by
  constructor
  · intro h
    obtain ⟨v, hv, hs⟩ := read_of_parse h
    obtain ⟨members, rfl⟩ := exists_members_of_ofJson hs
    obtain ⟨ms, hms, rfl⟩ := read_eq_object_iff.1 hv
    exact ⟨ms, hms, hs⟩
  · rintro ⟨ms, hms, hs⟩
    exact parse_of_read (read_eq_object_iff.2 ⟨ms, hms, rfl⟩) hs

/-- The text is that of an object that has the key more than once. -/
def Repeats (text key : String) : Prop :=
  ∃ ms, readMembers text = .ok ms ∧ 1 < ms.keys.count key

theorem givenOnce_iff_not_repeats {text : String} {ms : Members} (h : readMembers text = .ok ms) :
    GivenOnce ms ↔ ¬ Repeats text "surfaceId" ∧ ¬ Repeats text "content" := by
  have hkey : ∀ key, ms.keys.count key ≤ 1 ↔ ¬ Repeats text key := by
    intro key
    constructor
    · rintro hcount ⟨ms', hms', hrepeats⟩
      rw [h] at hms'
      injection hms' with hms'
      subst hms'
      exact absurd hcount (Nat.not_le.2 hrepeats)
    · intro hrepeats
      exact Nat.not_lt.1 fun hcount => hrepeats ⟨ms, h, hcount⟩
  constructor
  · intro honce
    exact ⟨(hkey _).1 (honce _ (.inl rfl)), (hkey _).1 (honce _ (.inr rfl))⟩
  · rintro ⟨hid, hcontent⟩ key (rfl | rfl)
    · exact (hkey _).2 hid
    · exact (hkey _).2 hcontent

/-- **The two ways of reading a surface agree.**  Of a value both accept the same, and return the
same surface.  Of a text so do they, but that the decoder objects to an object that repeats the id
or the content. -/
theorem decoders_agree {v : Json} (hv : v.Canonical) (text : String) (s : Surface) :
    (decoder.readValue v = .ok s ↔ ofJson v = .ok s)
      ∧ (decoder.readText (bytesOf text) = .ok s
        ↔ parse text = .ok s ∧ ¬ Repeats text "surfaceId" ∧ ¬ Repeats text "content") := by
  refine ⟨readValue_eq_ok_iff hv, ?_⟩
  rw [readText_eq_ok_iff, parse_eq_ok_iff]
  constructor
  · rintro ⟨ms, hms, hs⟩
    obtain ⟨hs, honce⟩ := ofEntries_eq_ok_iff.1 hs
    exact ⟨⟨ms, hms, hs⟩, (givenOnce_iff_not_repeats hms).1 honce⟩
  · rintro ⟨⟨ms, hms, hs⟩, hrepeats⟩
    exact ⟨ms, hms, ofEntries_eq_ok_iff.2 ⟨hs, (givenOnce_iff_not_repeats hms).2 hrepeats⟩⟩

/-- The text of a surface with a note that is given twice. -/
def notedText : String :=
  "\x7b\"surfaceId\":\"s\",\"note\":null,\"content\":[],\"note\":true\x7d"

/-- Its members as they stand. -/
def notedMembers : Members :=
  [("surfaceId", .string "s"), ("note", .null), ("content", .array []), ("note", .bool true)]

/-- The value of the text, where the later note is left. -/
def notedDocument : Json :=
  .object [("content", .array []), ("note", .bool true), ("surfaceId", .string "s")]

theorem decoders_agree_notedText : notedDocument.Canonical
    ∧ ∃ s, decoder.readValue notedDocument = .ok s
      ∧ decoder.readText (bytesOf notedText) = .ok s := by
  have hself : notedDocument.canonical = notedDocument := rfl
  have hcanonical : notedDocument.Canonical := hself ▸ canonical_canonical notedDocument
  have hms : readMembers notedText = .ok notedMembers := by cbv
  have honce : GivenOnce notedMembers := by
    rintro key (rfl | rfl)
    · decide
    · decide
  have hdocument : ofJson notedDocument = .ok ⟨"s", [], [("note", .bool true)]⟩ := rfl
  have hparse : parse notedText = .ok ⟨"s", [], [("note", .bool true)]⟩ :=
    parse_eq_ok_iff.2 ⟨notedMembers, hms, rfl⟩
  obtain ⟨hvalue, htext⟩ := decoders_agree hcanonical notedText _
  exact ⟨hcanonical, _, hvalue.2 hdocument,
    htext.2 ⟨hparse, (givenOnce_iff_not_repeats hms).1 honce⟩⟩

end Surface

end SurfaceStudio
