import SurfaceStudio.Render.Strategy

/-!
# What strategies object to

A strategy objects to properties alone: the children of a node never make it fail, and the
fallback never fails at all.

  • `Strategy.isUnknown_ofTag` — the fallback is for the tags outside the vocabulary,
  • `Strategy.Rejects` — a strategy fails on the properties of a node, whatever its children are,
  • `Strategy.rejects_of_apply` — **it fails with some children only if it fails with all**,
  • `Strategy.not_rejects_of_isUnknown` — the fallback takes everything.
-/

namespace SurfaceStudio.Strategy

/-- **The fallback is for the tags outside the vocabulary.** -/
theorem isUnknown_ofTag (tag : String) : (ofTag tag).isUnknown = true ↔ tag ∉ vocabulary := by
  simp only [vocabulary, List.mem_cons, List.not_mem_nil, or_false, not_or]
  unfold ofTag
  -- One case for each tag of the vocabulary, and one for the rest.
  repeat' split
  all_goals simp_all [isUnknown]

/-- The strategy fails on the properties, whatever the children are. -/
def Rejects (strategy : Strategy) (props : Members) (fault : RenderFault) : Prop :=
  ∀ children, strategy.apply props children = .error fault

/-- Binding in the error monad fails where its first part does, or else where the second does. -/
theorem bind_congr_error {α β γ : Type} {x : Except RenderFault α}
    {f : α → Except RenderFault β} {g : α → Except RenderFault γ} {fault : RenderFault}
    (h : ∀ a, f a = .error fault → g a = .error fault) (hf : x >>= f = .error fault) :
    x >>= g = .error fault := by
  cases x with
  | error e =>
    injection hf with hf
    exact hf ▸ rfl
  | ok a => exact h a hf

/-- **A strategy fails with some children only if it fails with all of them.** -/
theorem rejects_of_apply {strategy : Strategy} {props : Members} {children : List Primitive}
    {fault : RenderFault} (h : strategy.apply props children = .error fault) :
    strategy.Rejects props fault := by
  intro children'
  -- Cards and lists take the children in last, when nothing can fail any more.
  cases strategy with
  | card =>
    unfold apply at h ⊢
    refine bind_congr_error (fun title htitle => ?_) h
    cases htitle
  | list =>
    unfold apply at h ⊢
    refine bind_congr_error (fun title htitle => ?_) h
    refine bind_congr_error (fun items hitems => ?_) htitle
    cases hitems
  | unknown tag => cases h
  | _ => exact h

/-- The fallback takes everything. -/
theorem not_rejects_of_isUnknown {strategy : Strategy} (h : strategy.isUnknown = true)
    (props : Members) (fault : RenderFault) : ¬ strategy.Rejects props fault := by
  intro hrejects
  cases strategy with
  | unknown tag => cases hrejects []
  | _ => cases h

end SurfaceStudio.Strategy
