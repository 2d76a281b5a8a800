import SurfaceStudio.Render.Primitive

/-!
# Every tree is the same as itself

Whether a tree has to be shown again is found out by comparing it with the one that was shown.
There is no value that is different from itself, so a tree that has been shown is not shown again.

  • `Json.same_refl` — for the values inside of a tree,
  • `RenderTree.same_refl` — **for trees**.
-/

namespace SurfaceStudio

theorem Number.same_refl (n : Number) : n.same n = true := by
  cases n with
  | integer value _ => exact beq_self_eq_true value
  | double value => exact value.same_refl

mutual

theorem Json.same_refl : (v : Json) → v.same v = true
  | .null => rfl
  | .bool b => beq_self_eq_true b
  | .number n => n.same_refl
  | .string s => beq_self_eq_true s
  | .array items => sameItems_refl items
  | .object members => sameMembers_refl members

theorem Json.sameItems_refl : (vs : List Json) → sameItems vs vs = true
  | [] => rfl
  | v :: vs => by rw [sameItems, v.same_refl, sameItems_refl vs, Bool.true_and]

theorem Json.sameMembers_refl : (ms : List (String × Json)) → sameMembers ms ms = true
  | [] => rfl
  | (k, v) :: rest => by
    rw [sameMembers, beq_self_eq_true, v.same_refl, sameMembers_refl rest]
    rfl

end

mutual

theorem Primitive.same_refl : (p : Primitive) → p.same p = true
  | .text t v => by simp [same]
  | .card t cs => by simp [same, sameList_refl cs]
  | .button l v a => by simp [same]
  | .image s a c => by simp [same]
  | .list t is cs => by simp [same, sameList_refl cs]
  | .statBar l v c => by simp [same, v.same_refl]
  | .fallback t ps cs => by simp [same, Json.sameMembers_refl ps, sameList_refl cs]
  | .failed t f => by simp [same]

theorem Primitive.sameList_refl : (ps : List Primitive) → sameList ps ps = true
  | [] => rfl
  | p :: ps => by rw [sameList, p.same_refl, sameList_refl ps, Bool.true_and]

end

/-- **Every tree is the same as itself.** -/
theorem RenderTree.same_refl (t : RenderTree) : t.same t = true := by
  rw [same, beq_self_eq_true, Primitive.sameList_refl, beq_self_eq_true]
  rfl

end SurfaceStudio
