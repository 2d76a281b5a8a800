import SurfaceStudio.Json.Basic

/-!
# Objects as finite maps

The members of an object are kept as a list in ascending order of their keys.  Such a list is a
finite map: what is looked up in it determines it.

  • `get?_insert`, `get?_erase`, `get?_eraseAll` — what an insertion and erasures change,
  • `sorted_insert`, `sorted_erase`, `sorted_collect` — the order is kept,
  • `eq_of_get?_eq` — sorted lists with the same look-ups are equal,
  • `get?_collect`, `get?_collect_eq_last?` — what is found in collected members,
  • `collect_eq_of_perm` — members are collected in the order of their keys.
-/

namespace SurfaceStudio.Members

/-! ## §1. The order of keys. -/

theorem key_lt_of_not_lt {k l : String} (hne : k ≠ l) (h : ¬ l < k) : k < l := by
  by_cases hlt : k < l
  · exact hlt
  · exact absurd (String.le_antisymm (String.not_lt.1 h) (String.not_lt.1 hlt)) hne

theorem ne_of_key_lt {k l : String} (h : k < l) : k ≠ l := by
  rintro rfl
  exact String.lt_irrefl k h

@[simp] theorem sorted_nil : Sorted [] := List.Pairwise.nil

theorem sorted_cons_iff {k : String} {v : Json} {rest : Members} :
    Sorted ((k, v) :: rest) ↔ (∀ m ∈ rest, k < m.1) ∧ Sorted rest := by
  simp only [Sorted, keys, List.map_cons, List.pairwise_cons, List.mem_map]
  constructor
  · intro h
    obtain ⟨h, hs⟩ := h
    exact ⟨fun m hm => h m.1 ⟨m, hm, rfl⟩, hs⟩
  · intro h
    obtain ⟨h, hs⟩ := h
    refine ⟨?_, hs⟩
    rintro _ ⟨m, hm, rfl⟩
    exact h m hm

/-! ## §2. Looking up. -/

@[simp] theorem get?_nil (key : String) : get? key [] = none := rfl

theorem get?_cons (key k : String) (v : Json) (rest : Members) :
    get? key ((k, v) :: rest) = if k = key then some v else get? key rest := rfl

theorem get?_append (key : String) (a b : Members) :
    get? key (a ++ b) = (get? key a).or (get? key b) := by
  induction a with
  | nil => rfl
  | cons m rest ih =>
    obtain ⟨k, v⟩ := m
    rw [List.cons_append, get?_cons, get?_cons, ih]
    split <;> rfl

theorem mem_of_get? {key : String} {v : Json} {members : Members}
    (h : get? key members = some v) : (key, v) ∈ members := by
  induction members with
  | nil => cases h
  | cons m rest ih =>
    obtain ⟨k, w⟩ := m
    rw [get?_cons] at h
    split at h
    next hk =>
      injection h with h
      subst hk h
      exact List.mem_cons_self
    next => exact List.mem_cons_of_mem _ (ih h)

theorem get?_eq_none_iff {key : String} {members : Members} :
    get? key members = none ↔ key ∉ members.keys := by
  induction members with
  | nil => simp [keys]
  | cons m rest ih =>
    obtain ⟨k, v⟩ := m
    rw [get?_cons]
    by_cases hk : k = key
    · subst hk
      simp [keys]
    · have hk' : key ≠ k := fun h => hk h.symm
      rw [if_neg hk, ih]
      simp [keys, hk']

/-- Where no key comes twice, every member is found under its key. -/
theorem get?_of_mem {key : String} {v : Json} {members : Members} (h : members.keys.Nodup)
    (hm : (key, v) ∈ members) : get? key members = some v := by
  induction members with
  | nil => cases hm
  | cons m rest ih =>
    obtain ⟨k, w⟩ := m
    obtain ⟨hk, hrest⟩ := List.nodup_cons.1 h
    rw [get?_cons]
    rcases List.mem_cons.1 hm with heq | hm
    · injection heq with hkey hv
      rw [if_pos hkey.symm, hv]
    · have hkey : k ≠ key := by
        rintro rfl
        exact hk (List.mem_map.2 ⟨_, hm, rfl⟩)
      rw [if_neg hkey]
      exact ih hrest hm

/-- In a sorted list a key that comes before all others is not found behind them. -/
theorem get?_eq_none_of_lt {key : String} {members : Members} (h : ∀ m ∈ members, key < m.1) :
    get? key members = none := by
  rw [get?_eq_none_iff]
  simp only [keys, List.mem_map, not_exists, not_and]
  intro m hm hk
  exact ne_of_key_lt (h m hm) hk.symm

/-- **A sorted list is determined by what is found in it.** -/
theorem eq_of_get?_eq {a b : Members} (ha : Sorted a) (hb : Sorted b)
    (h : ∀ key, get? key a = get? key b) : a = b := by
  induction a generalizing b with
  | nil =>
    cases b with
    | nil => rfl
    | cons m rest =>
      have hm := h m.1
      rw [get?_nil, get?_cons, if_pos rfl] at hm
      cases hm
  | cons m as ih =>
    obtain ⟨k, v⟩ := m
    obtain ⟨hka, has⟩ := sorted_cons_iff.1 ha
    cases b with
    | nil =>
      have hk := h k
      rw [get?_nil, get?_cons, if_pos rfl] at hk
      cases hk
    | cons m' bs =>
      obtain ⟨k', v'⟩ := m'
      obtain ⟨hkb, hbs⟩ := sorted_cons_iff.1 hb
      -- Were the first keys different, each would have to stand behind the other.
      have hkk : k = k' := by
        by_cases hne : k = k'
        · exact hne
        · have hl := h k
          rw [get?_cons, if_pos rfl, get?_cons, if_neg (Ne.symm hne)] at hl
          have hr := h k'
          rw [get?_cons, if_neg hne, get?_cons, if_pos rfl] at hr
          have hlt : k' < k := hkb _ (mem_of_get? hl.symm)
          have hgt : k < k' := hka _ (mem_of_get? hr)
          exact absurd hlt (String.lt_asymm hgt)
      subst hkk
      have hv := h k
      rw [get?_cons, get?_cons, if_pos rfl, if_pos rfl] at hv
      injection hv with hv
      subst hv
      have hrest : as = bs := by
        refine ih has hbs fun key => ?_
        by_cases hk : k = key
        · subst hk
          rw [get?_eq_none_of_lt hka, get?_eq_none_of_lt hkb]
        · have hkey := h key
          rwa [get?_cons, get?_cons, if_neg hk, if_neg hk] at hkey
      rw [hrest]

/-! ## §3. Inserting. -/

theorem get?_insert (key k : String) (v : Json) (members : Members) :
    get? key (insert k v members) = if k = key then some v else get? key members := by
  induction members with
  | nil => rfl
  | cons m rest ih =>
    obtain ⟨l, w⟩ := m
    rw [insert]
    split
    next hl =>
      subst hl
      rw [get?_cons, get?_cons]
      split <;> rfl
    next hl =>
      split
      next => rw [get?_cons]
      next =>
        rw [get?_cons, get?_cons, ih]
        -- The member is inserted further behind, under another key than this one.
        by_cases hkey : l = key
        · subst hkey
          rw [if_pos rfl, if_pos rfl, if_neg (Ne.symm hl)]
        · rw [if_neg hkey, if_neg hkey]

theorem mem_insert {m : String × Json} {k : String} {v : Json} {members : Members}
    (h : m ∈ insert k v members) : m = (k, v) ∨ m ∈ members := by
  induction members with
  | nil => simpa [insert] using h
  | cons m' rest ih =>
    obtain ⟨l, w⟩ := m'
    rw [insert] at h
    split at h
    next =>
      rcases List.mem_cons.1 h with h | h
      · exact .inl h
      · exact .inr (List.mem_cons_of_mem _ h)
    next =>
      split at h
      next => exact List.mem_cons.1 h
      next =>
        rcases List.mem_cons.1 h with h | h
        · exact .inr (h ▸ List.mem_cons_self)
        · exact (ih h).imp_right (List.mem_cons_of_mem _)

theorem sorted_insert (k : String) (v : Json) {members : Members} (h : Sorted members) :
    Sorted (insert k v members) := by
  induction members with
  | nil => exact sorted_cons_iff.2 ⟨by simp, sorted_nil⟩
  | cons m rest ih =>
    obtain ⟨l, w⟩ := m
    obtain ⟨hl, hs⟩ := sorted_cons_iff.1 h
    rw [insert]
    split
    next heq => exact sorted_cons_iff.2 ⟨heq ▸ hl, hs⟩
    next hne =>
      split
      next hlt =>
        refine sorted_cons_iff.2 ⟨fun m hm => ?_, h⟩
        rcases List.mem_cons.1 hm with rfl | hm
        · exact hlt
        · exact String.lt_trans hlt (hl m hm)
      next hnlt =>
        -- The new key belongs behind the first one.
        refine sorted_cons_iff.2 ⟨fun m hm => ?_, ih hs⟩
        rcases mem_insert hm with rfl | hm
        · exact key_lt_of_not_lt hne hnlt
        · exact hl m hm

/-! ## §4. Erasing. -/

theorem erase_sublist (key : String) (members : Members) :
    List.Sublist (erase key members) members := by
  induction members with
  | nil => exact List.Sublist.refl _
  | cons m rest ih =>
    obtain ⟨k, v⟩ := m
    rw [erase]
    split
    · exact List.sublist_cons_self _ _
    · exact ih.cons_cons _

theorem sorted_erase (key : String) {members : Members} (h : Sorted members) :
    Sorted (erase key members) :=
  List.Pairwise.sublist ((erase_sublist key members).map _) h

theorem get?_erase (key k : String) {members : Members} (h : Sorted members) :
    get? key (erase k members) = if k = key then none else get? key members := by
  induction members with
  | nil => simp [erase]
  | cons m rest ih =>
    obtain ⟨l, w⟩ := m
    obtain ⟨hl, hs⟩ := sorted_cons_iff.1 h
    rw [erase]
    split
    next heq =>
      subst heq
      rw [get?_cons]
      split
      -- In a sorted list the key does not come a second time.
      next hkey => exact hkey ▸ get?_eq_none_of_lt hl
      next => rfl
    next hne =>
      rw [get?_cons, get?_cons, ih hs]
      by_cases hkey : l = key
      · subst hkey
        rw [if_pos rfl, if_pos rfl, if_neg (Ne.symm hne)]
      · rw [if_neg hkey, if_neg hkey]

/-- Without the members under any of the keys. -/
def eraseAll (keys : List String) (members : Members) : Members :=
  keys.foldl (fun rest key => erase key rest) members

theorem sorted_eraseAll (keys : List String) {members : Members} (h : Sorted members) :
    Sorted (eraseAll keys members) := by
  induction keys generalizing members with
  | nil => exact h
  | cons key keys ih => exact ih (sorted_erase key h)

theorem eraseAll_sublist (keys : List String) (members : Members) :
    List.Sublist (eraseAll keys members) members := by
  induction keys generalizing members with
  | nil => exact List.Sublist.refl _
  | cons key keys ih => exact (ih _).trans (erase_sublist key members)

/-- **What is left is found as before.** -/
theorem get?_eraseAll (key : String) (keys : List String) {members : Members}
    (h : Sorted members) :
    get? key (eraseAll keys members) = if key ∈ keys then none else get? key members := by
  induction keys generalizing members with
  | nil => rw [if_neg List.not_mem_nil]; rfl
  | cons k keys ih =>
    have hrest : get? key (eraseAll (k :: keys) members) = _ := ih (sorted_erase k h)
    rw [hrest, get?_erase _ _ h]
    by_cases hk : k = key
    · rw [if_pos hk, ite_self, if_pos (hk ▸ List.mem_cons_self)]
    · have hmem : key ∈ k :: keys ↔ key ∈ keys :=
        List.mem_cons.trans (or_iff_right (Ne.symm hk))
      simp only [if_neg hk, hmem]

/-! ## §5. Collecting. -/

theorem sorted_foldl_insert (more : Members) {members : Members} (h : Sorted members) :
    Sorted (more.foldl (fun found m => insert m.1 m.2 found) members) := by
  induction more generalizing members with
  | nil => exact h
  | cons m rest ih => exact ih (sorted_insert m.1 m.2 h)

theorem sorted_collect (members : Members) : Sorted (Json.collect members) :=
  sorted_foldl_insert members sorted_nil

theorem mem_foldl_insert {m : String × Json} (more : Members) {members : Members}
    (h : m ∈ more.foldl (fun found m => insert m.1 m.2 found) members) :
    m ∈ more ∨ m ∈ members := by
  induction more generalizing members with
  | nil => exact .inr h
  | cons m' rest ih =>
    rcases ih h with h | h
    · exact .inl (List.mem_cons_of_mem _ h)
    · rcases mem_insert h with rfl | h
      · exact .inl List.mem_cons_self
      · exact .inr h

theorem mem_of_mem_collect {m : String × Json} {members : Members}
    (h : m ∈ Json.collect members) : m ∈ members := by
  rcases mem_foldl_insert members h with h | h
  · exact h
  · cases h

theorem collect_append_singleton (members : Members) (key : String) (v : Json) :
    Json.collect (members ++ [(key, v)]) = (Json.collect members).insert key v := by
  rw [Json.collect, List.foldl_append]
  rfl

/-- The value of the last member with a key. -/
def last? (key : String) (members : Members) : Option Json := get? key members.reverse

theorem last?_cons (key k : String) (v : Json) (rest : Members) :
    last? key ((k, v) :: rest) = (last? key rest).or (if k = key then some v else none) := by
  rw [last?, List.reverse_cons, get?_append, get?_cons, get?_nil, last?]

theorem get?_foldl_insert_eq_last? (key : String) (more members : Members) :
    get? key (more.foldl (fun found m => insert m.1 m.2 found) members)
      = (last? key more).or (get? key members) := by
  induction more generalizing members with
  | nil => rfl
  | cons m rest ih =>
    obtain ⟨k, v⟩ := m
    rw [List.foldl_cons, ih, get?_insert, last?_cons, Option.or_assoc]
    split <;> rfl

/-- **Of members with the same key the last one counts** when they are collected. -/
theorem get?_collect_eq_last? (key : String) (members : Members) :
    get? key (Json.collect members) = last? key members := by
  rw [Json.collect, get?_foldl_insert_eq_last?, get?_nil, Option.or_none]

/-- The keys of collected members are those of the members. -/
theorem get?_collect_eq_none_iff {key : String} {members : Members} :
    get? key (Json.collect members) = none ↔ key ∉ members.keys := by
  rw [get?_collect_eq_last?, last?, get?_eq_none_iff, keys, keys, List.map_reverse,
    List.mem_reverse]

/-- What is looked up does not depend on the order of members with different keys. -/
theorem get?_eq_of_perm (key : String) {members members' : Members}
    (h : List.Perm members members') (hnodup : members'.keys.Nodup) :
    get? key members = get? key members' := by
  have hkeys : List.Perm members.keys members'.keys := h.map _
  cases hv : get? key members with
  | none =>
    rw [get?_eq_none_iff, hkeys.mem_iff] at hv
    exact (get?_eq_none_iff.2 hv).symm
  | some v => exact (get?_of_mem hnodup (h.mem_iff.1 (mem_of_get? hv))).symm

/-- **Collecting members with different keys changes nothing that can be looked up.** -/
theorem get?_collect (key : String) {members : Members} (h : members.keys.Nodup) :
    get? key (Json.collect members) = get? key members := by
  rw [get?_collect_eq_last?]
  exact get?_eq_of_perm key (List.reverse_perm members) h

theorem nodup_keys_of_sorted {members : Members} (h : Sorted members) : members.keys.Nodup :=
  List.Pairwise.imp ne_of_key_lt h

/-- **Members are collected in the order of their keys**, if no key comes twice. -/
theorem collect_eq_of_perm {members sorted : Members} (h : List.Perm members sorted)
    (hs : Sorted sorted) : Json.collect members = sorted := by
  have hnodup := nodup_keys_of_sorted hs
  have hkeys : List.Perm members.keys sorted.keys := h.map _
  refine eq_of_get?_eq (sorted_collect members) hs fun key => ?_
  rw [get?_collect key (hkeys.nodup_iff.2 hnodup)]
  exact get?_eq_of_perm key h hnodup

/-- Members that are in order already are collected as they stand. -/
theorem collect_of_sorted {members : Members} (h : Sorted members) :
    Json.collect members = members :=
  collect_eq_of_perm (List.Perm.refl members) h

end SurfaceStudio.Members
