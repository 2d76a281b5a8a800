import SurfaceStudio.Proofs.Json.Members

/-!
# Values and their canonical form

What a value is made of: the brackets that are open at once in its text, the numbers in it, and
the canonical value with the same members.

  • `Json.induction` — a property of all values, from arrays and objects of values that have it,
  • `Json.nesting`, `Json.numbers` — the two measures of a value that its text depends on,
  • `Bounded` — bounds on both,
  • `canonical_canonical`, `canonical_eq_self` — the canonical form is canonical, and a canonical
    value is its own form,
  • `member?`, `item?` — looking into a value.
-/

namespace SurfaceStudio.Json

/-! ## §1. Induction. -/

/-- Induction over values: what holds of the elements of an array and of the members of an object
may be used for the whole. -/
@[elab_as_elim]
theorem induction {P : Json → Prop} (null : P .null) (bool : ∀ b, P (.bool b))
    (number : ∀ n, P (.number n)) (string : ∀ s, P (.string s))
    (array : ∀ items, (∀ v ∈ items, P v) → P (.array items))
    (object : ∀ members, (∀ m ∈ members, P m.2) → P (.object members)) (v : Json) : P v := by
  -- The recursor has companions for lists and for members, which say the same of their parts.
  refine @Json.rec P (fun items => ∀ v ∈ items, P v) (fun members => ∀ m ∈ members, P m.2)
    (fun m => P m.2) null bool number string array object ?_ ?_ ?_ ?_ ?_ v
  · exact fun v hv => nomatch hv
  · intro v vs hv hvs w hw
    rcases List.mem_cons.1 hw with rfl | hw
    · exact hv
    · exact hvs w hw
  · exact fun m hm => nomatch hm
  · intro m rest hm hrest m' hm'
    rcases List.mem_cons.1 hm' with rfl | hm'
    · exact hm
    · exact hrest m' hm'
  · exact fun k v hv => hv

/-! ## §2. Depth. -/

mutual

/-- **How many brackets are open at once**, at most, in the text of the value. -/
def nesting : Json → Nat
  | .array items => nestingItems items + 1
  | .object members => nestingMembers members + 1
  | _ => 0

def nestingItems : List Json → Nat
  | [] => 0
  | v :: vs => max v.nesting (nestingItems vs)

def nestingMembers : List (String × Json) → Nat
  | [] => 0
  | (_, v) :: rest => max v.nesting (nestingMembers rest)

end

theorem nestingItems_le_iff {items : List Json} {b : Nat} :
    nestingItems items ≤ b ↔ ∀ v ∈ items, v.nesting ≤ b := by
  induction items with
  | nil => simp [nestingItems]
  | cons v vs ih =>
    rw [nestingItems, Nat.max_le, ih]
    simp

theorem nestingMembers_le_iff {members : Members} {b : Nat} :
    nestingMembers members ≤ b ↔ ∀ m ∈ members, m.2.nesting ≤ b := by
  induction members with
  | nil => simp [nestingMembers]
  | cons m rest ih =>
    obtain ⟨k, v⟩ := m
    rw [nestingMembers, Nat.max_le, ih]
    simp

theorem nesting_array_le_iff {items : List Json} {b : Nat} :
    (array items).nesting ≤ b + 1 ↔ ∀ v ∈ items, v.nesting ≤ b := by
  rw [nesting, Nat.succ_le_succ_iff, nestingItems_le_iff]

theorem nesting_object_le_iff {members : Members} {b : Nat} :
    (object members).nesting ≤ b + 1 ↔ ∀ m ∈ members, m.2.nesting ≤ b := by
  rw [nesting, Nat.succ_le_succ_iff, nestingMembers_le_iff]

/-! ## §3. Numbers. -/

mutual

/-- **The numbers in a value**, in the order of its text. -/
def numbers : Json → List Number
  | .number n => [n]
  | .array items => numbersOfItems items
  | .object members => numbersOfMembers members
  | _ => []

def numbersOfItems : List Json → List Number
  | [] => []
  | v :: vs => v.numbers ++ numbersOfItems vs

def numbersOfMembers : List (String × Json) → List Number
  | [] => []
  | (_, v) :: rest => v.numbers ++ numbersOfMembers rest

end

theorem mem_numbersOfItems {n : Number} {items : List Json} :
    n ∈ numbersOfItems items ↔ ∃ v ∈ items, n ∈ v.numbers := by
  induction items with
  | nil => simp [numbersOfItems]
  | cons v vs ih => simp [numbersOfItems, ih]

theorem mem_numbersOfMembers {n : Number} {members : Members} :
    n ∈ numbersOfMembers members ↔ ∃ m ∈ members, n ∈ m.2.numbers := by
  induction members with
  | nil => simp [numbersOfMembers]
  | cons m rest ih =>
    obtain ⟨k, v⟩ := m
    simp [numbersOfMembers, ih]

theorem mem_numbers_array {n : Number} {items : List Json} :
    n ∈ (array items).numbers ↔ ∃ v ∈ items, n ∈ v.numbers := by
  rw [numbers, mem_numbersOfItems]

theorem mem_numbers_object {n : Number} {members : Members} :
    n ∈ (object members).numbers ↔ ∃ m ∈ members, n ∈ m.2.numbers := by
  rw [numbers, mem_numbersOfMembers]

/-- **What the text of a value demands of its reader**: no more brackets open at once than
`budget`, and numbers with the property `N`. -/
structure Bounded (budget : Nat) (N : Number → Prop) (v : Json) : Prop where
  nesting : v.nesting ≤ budget
  numbers : ∀ n ∈ v.numbers, N n

variable {budget : Nat} {N : Number → Prop}

theorem bounded_string (text : String) : Bounded budget N (.string text) :=
  ⟨Nat.zero_le _, fun _ hn => nomatch hn⟩

theorem bounded_array_iff {items : List Json} :
    Bounded (budget + 1) N (.array items) ↔ ∀ v ∈ items, Bounded budget N v := by
  constructor
  · intro h v hv
    exact ⟨nesting_array_le_iff.1 h.nesting v hv,
      fun n hn => h.numbers n (mem_numbers_array.2 ⟨v, hv, hn⟩)⟩
  · intro h
    refine ⟨nesting_array_le_iff.2 fun v hv => (h v hv).nesting, fun n hn => ?_⟩
    obtain ⟨v, hv, hn⟩ := mem_numbers_array.1 hn
    exact (h v hv).numbers n hn

theorem bounded_object_iff {members : Members} :
    Bounded (budget + 1) N (.object members) ↔ ∀ m ∈ members, Bounded budget N m.2 := by
  constructor
  · intro h m hm
    exact ⟨nesting_object_le_iff.1 h.nesting m hm,
      fun n hn => h.numbers n (mem_numbers_object.2 ⟨m, hm, hn⟩)⟩
  · intro h
    refine ⟨nesting_object_le_iff.2 fun m hm => (h m hm).nesting, fun n hn => ?_⟩
    obtain ⟨m, hm, hn⟩ := mem_numbers_object.1 hn
    exact (h m hm).numbers n hn

/-- An array takes one bracket of the budget for itself. -/
theorem Bounded.exists_of_array {items : List Json} (h : Bounded budget N (.array items)) :
    ∃ b, budget = b + 1 :=
  Nat.exists_eq_add_one.2 (Nat.lt_of_lt_of_le (Nat.succ_pos _) h.nesting)

theorem Bounded.exists_of_object {members : Members} (h : Bounded budget N (.object members)) :
    ∃ b, budget = b + 1 :=
  Nat.exists_eq_add_one.2 (Nat.lt_of_lt_of_le (Nat.succ_pos _) h.nesting)

/-! ## §4. The canonical form. -/

theorem allCanonical_iff {items : List Json} :
    AllCanonical items ↔ ∀ v ∈ items, v.Canonical := by
  induction items with
  | nil => simp [AllCanonical]
  | cons v vs ih => simp [AllCanonical, ih]

theorem membersCanonical_iff {members : Members} :
    MembersCanonical members ↔ ∀ m ∈ members, m.2.Canonical := by
  induction members with
  | nil => simp [MembersCanonical]
  | cons m rest ih =>
    obtain ⟨k, v⟩ := m
    simp [MembersCanonical, ih]

theorem canonicalItems_eq_map (items : List Json) : canonicalItems items = items.map canonical := by
  induction items with
  | nil => rfl
  | cons v vs ih => rw [canonicalItems, ih, List.map_cons]

theorem canonicalMembers_eq_map (members : Members) :
    canonicalMembers members = members.map fun m => (m.1, m.2.canonical) := by
  induction members with
  | nil => rfl
  | cons m rest ih =>
    obtain ⟨k, v⟩ := m
    rw [canonicalMembers, ih, List.map_cons]

theorem keys_canonicalMembers (members : Members) :
    Members.keys (canonicalMembers members) = Members.keys members := by
  rw [canonicalMembers_eq_map, Members.keys, Members.keys, List.map_map]
  rfl

theorem sorted_canonicalMembers {members : Members} (h : members.Sorted) :
    Members.Sorted (canonicalMembers members) := by
  rwa [Members.Sorted, keys_canonicalMembers]

theorem get?_canonicalMembers (key : String) (members : Members) :
    Members.get? key (canonicalMembers members) = (Members.get? key members).map canonical := by
  induction members with
  | nil => rfl
  | cons m rest ih =>
    obtain ⟨k, v⟩ := m
    rw [canonicalMembers, Members.get?_cons, Members.get?_cons, ih]
    split <;> rfl

theorem canonical_string (text : String) : (Json.string text).Canonical := trivial

theorem canonical_number (n : Number) : (Json.number n).Canonical := trivial

theorem canonical_array_iff {items : List Json} :
    (array items).Canonical ↔ ∀ v ∈ items, v.Canonical := by
  rw [Canonical, allCanonical_iff]

theorem canonical_object_iff {members : Members} :
    (object members).Canonical ↔ Members.Sorted members ∧ ∀ m ∈ members, m.2.Canonical := by
  rw [Canonical, membersCanonical_iff]

/-- The canonical form of a member, as far as the collected list has it. -/
theorem exists_of_mem_collect {m : String × Json} {members : Members}
    (h : m ∈ collect (canonicalMembers members)) :
    ∃ m' ∈ members, m'.1 = m.1 ∧ m'.2.canonical = m.2 := by
  have hm := Members.mem_of_mem_collect h
  rw [canonicalMembers_eq_map] at hm
  obtain ⟨m', hm', rfl⟩ := List.mem_map.1 hm
  exact ⟨m', hm', rfl, rfl⟩

/-- **The canonical form is canonical.** -/
theorem canonical_canonical (v : Json) : v.canonical.Canonical := by
  induction v using Json.induction with
  | null => trivial
  | bool b => trivial
  | number n => trivial
  | string s => trivial
  | array items ih =>
    rw [canonical, canonical_array_iff, canonicalItems_eq_map]
    intro v hv
    obtain ⟨w, hw, rfl⟩ := List.mem_map.1 hv
    exact ih w hw
  | object members ih =>
    rw [canonical, canonical_object_iff]
    refine ⟨Members.sorted_collect _, fun m hm => ?_⟩
    obtain ⟨m', hm', -, h⟩ := exists_of_mem_collect hm
    exact h ▸ ih m' hm'

/-- **A canonical value is its own canonical form.** -/
theorem canonical_eq_self {v : Json} (h : v.Canonical) : v.canonical = v := by
  induction v using Json.induction with
  | null => rfl
  | bool b => rfl
  | number n => rfl
  | string s => rfl
  | array items ih =>
    rw [canonical_array_iff] at h
    have hitems : items.map canonical = items.map id :=
      List.map_congr_left fun v hv => ih v hv (h v hv)
    rw [canonical, canonicalItems_eq_map, hitems, List.map_id]
  | object members ih =>
    obtain ⟨hs, hc⟩ := canonical_object_iff.1 h
    have hmembers : members.map (fun m => (m.1, m.2.canonical)) = members.map id :=
      List.map_congr_left fun m hm => Prod.ext rfl (ih m hm (hc m hm))
    rw [canonical, canonicalMembers_eq_map, hmembers, List.map_id, Members.collect_of_sorted hs]

/-- What is found in a canonical object is canonical already. -/
theorem map_canonical_get? (key : String) {members : Members} (h : (object members).Canonical) :
    (Members.get? key members).map canonical = Members.get? key members := by
  cases hv : Members.get? key members with
  | none => rfl
  | some v =>
    have hc := (canonical_object_iff.1 h).2 _ (Members.mem_of_get? hv)
    rw [Option.map_some, canonical_eq_self hc]

/-- In the canonical form of an object with different keys the canonical values are found. -/
theorem get?_collect_canonicalMembers (key : String) {members : Members}
    (h : members.keys.Nodup) : Members.get? key (collect (canonicalMembers members))
      = (Members.get? key members).map canonical := by
  rw [← keys_canonicalMembers] at h
  rw [Members.get?_collect key h, get?_canonicalMembers]

/-! ## §5. Parts of a value. -/

/-- The value under a key, if this is an object that has the key. -/
def member? (key : String) : Json → Option Json
  | .object members => Members.get? key members
  | _ => none

/-- The element at a position, if this is an array that is long enough. -/
def item? (i : Nat) : Json → Option Json
  | .array items => items[i]?
  | _ => none

theorem member?_canonical (key : String) {members : Members} (h : members.keys.Nodup) :
    (Json.object members).canonical.member? key = (Members.get? key members).map canonical := by
  rw [canonical, member?, get?_collect_canonicalMembers key h]

theorem item?_canonical (i : Nat) (items : List Json) :
    (Json.array items).canonical.item? i = items[i]?.map canonical := by
  rw [canonical, item?, canonicalItems_eq_map, List.getElem?_map]

end SurfaceStudio.Json
