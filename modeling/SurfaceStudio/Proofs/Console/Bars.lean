import SurfaceStudio.Proofs.Binary64.Rounding
import SurfaceStudio.Proofs.Console.Layout

/-!
# Bars fit

A bar is drawn by subtraction: what is not filled of its twenty cells is left empty.  That is no
number as soon as more than twenty cells are to be filled, so whether a tree can be listed at all
depends on the values of its bars.  The values are clamped where the bars are rendered, and neither
the division nor the multiplication that the filled cells are computed by rounds beyond the top.

  • `RenderTree.listing?` — the lines of a tree whose bars fit,
  • `filledCells_eq`, `filledCells_le`, `filledCells_mono` — **how many cells a percentage fills**,
  • `Surface.BarAt` — a bar with the number that it is drawn for,
  • `Surface.Barred`, `Surface.barred` — **the bars of every surface fit**.
-/

namespace SurfaceStudio

open Json

/-! ## §1. Listings that may fail. -/

mutual

/-- The lines of a primitive, if no bar in it fills more cells than it has. -/
def Primitive.lines? (depth : Nat) : Primitive → Option (List String)
  | .card title children =>
    (Primitive.listLines? (depth + 1) children).map
      (Primitive.ownLines depth (.card title children) ++ ·)
  | .list title items children =>
    (Primitive.listLines? (depth + 1) children).map
      (Primitive.ownLines depth (.list title items children) ++ ·)
  | .fallback tag props children =>
    (Primitive.listLines? (depth + 1) children).map
      (Primitive.ownLines depth (.fallback tag props children) ++ ·)
  | .statBar label value color =>
    if filledCells value ≤ barWidth then
      some (Primitive.ownLines depth (.statBar label value color))
    else none
  | p => some (Primitive.ownLines depth p)

/-- The lines of siblings, if no bar in them fills more cells than it has. -/
def Primitive.listLines? (depth : Nat) : List Primitive → Option (List String)
  | [] => some []
  | p :: ps => do
    let first ← p.lines? depth
    let others ← Primitive.listLines? depth ps
    return first ++ others

end

/-- **The lines of a tree, if no bar in it fills more cells than it has.** -/
def RenderTree.listing? (depth : Nat) (t : RenderTree) : Option (List String) :=
  (Primitive.listLines? (depth + 1) t.nodes).map (t.headerLine depth :: ·)

namespace Primitive

/-- If it is a bar, it fills no more cells than it has. -/
def Fits : Primitive → Prop
  | .statBar _ value _ => filledCells value ≤ barWidth
  | _ => True

theorem listLines?_eq {ps : List Primitive} {depth : Nat}
    (h : ∀ p ∈ ps, p.lines? depth = some (p.lines depth)) :
    listLines? depth ps = some (listLines depth ps) := by
  induction ps with
  | nil => rfl
  | cons p ps ih =>
    rw [listLines?, listLines, h p List.mem_cons_self,
      ih fun p' hp' => h p' (List.mem_cons_of_mem _ hp')]
    rfl

/-- The lines of a primitive are there if every bar inside it fits. -/
theorem lines?_eq {p : Primitive} (h : ∀ path q, p.below? path = some q → q.Fits) (depth : Nat) :
    p.lines? depth = some (p.lines depth) := by
  induction p using Primitive.induction generalizing depth with
  | primitive p ih =>
    have hown : p.Fits := h [] p rfl
    have hchildren : listLines? (depth + 1) p.children
        = some (listLines (depth + 1) p.children) := by
      refine listLines?_eq fun c hc => ih c hc (fun path q hq => ?_) (depth + 1)
      -- What is inside a child is inside the primitive, one index further up.
      obtain ⟨i, hi⟩ := List.getElem?_of_mem hc
      exact h (i :: path) q (Option.bind_eq_some_iff.2 ⟨c, hi, hq⟩)
    rw [lines_eq]
    cases p with
    | card title children =>
      rw [lines?]
      exact congrArg (Option.map _) hchildren
    | list title items children =>
      rw [lines?]
      exact congrArg (Option.map _) hchildren
    | fallback tag props children =>
      rw [lines?]
      exact congrArg (Option.map _) hchildren
    | statBar label value color =>
      have hfits : filledCells value ≤ barWidth := hown
      rw [lines?, if_pos hfits]
      simp [children, listLines]
    | _ => simp [lines?, children, listLines]

end Primitive

/-- **The lines of a tree are there if every bar in it fits.** -/
theorem RenderTree.listing?_eq {t : RenderTree}
    (h : ∀ path q, t.primitiveAt? path = some q → q.Fits) (depth : Nat) :
    t.listing? depth = some (t.listing depth) := by
  have hnodes : Primitive.listLines? (depth + 1) t.nodes
      = some (Primitive.listLines (depth + 1) t.nodes) := by
    refine Primitive.listLines?_eq fun p hp => Primitive.lines?_eq (fun path q hq => ?_) (depth + 1)
    obtain ⟨i, hi⟩ := List.getElem?_of_mem hp
    exact h (i :: path) q (Option.bind_eq_some_iff.2 ⟨p, hi, hq⟩)
  rw [listing?, hnodes]
  rfl

/-! ## §2. Filled cells. -/

open Binary64

/-- A double from zero to one hundred. -/
structure Binary64.Percentage (x : Binary64) : Prop where
  nonneg : 0 ≤ x.signedUnits
  units_le : x.units ≤ 100 * one

theorem Binary64.percentage_toHundred (x : Binary64) : x.toHundred.Percentage where
  nonneg := by
    rw [x.signedUnits_toHundred]
    omega
  units_le := x.toHundred_units_le

/-- A percentage of this many units, divided by one hundred. -/
def shareUnits (units : Nat) : Nat := roundQuotient (units * one) (100 * one)

/-- The part of twenty cells that a percentage of this many units takes up, in units. -/
def cellUnits (units : Nat) : Nat := roundQuotient (shareUnits units * (20 * one)) one

theorem shareUnits_mono {m n : Nat} (h : m ≤ n) : shareUnits m ≤ shareUnits n :=
  roundQuotient_mono (Nat.mul_le_mul_right one h) _

theorem cellUnits_mono {m n : Nat} (h : m ≤ n) : cellUnits m ≤ cellUnits n :=
  roundQuotient_mono (Nat.mul_le_mul_right _ (shareUnits_mono h)) _

/-- One hundred percent are one. -/
theorem shareUnits_hundred : shareUnits (100 * one) = one := by
  have hone : Representable one := by
    have h := representable_mul_one (n := 1) (by decide)
    rwa [Nat.one_mul] at h
  rw [shareUnits, Nat.mul_comm (100 * one) one]
  exact roundQuotient_mul_self hone (Nat.mul_pos (by decide) one_pos)

/-- One hundred percent take up all twenty cells. -/
theorem cellUnits_hundred : cellUnits (100 * one) = 20 * one := by
  have htwenty : Representable (20 * one) := representable_mul_one (by decide)
  rw [cellUnits, shareUnits_hundred, Nat.mul_comm one]
  exact roundQuotient_mul_self htwenty one_pos

/-- No percent take up nothing. -/
theorem cellUnits_zero : cellUnits 0 = 0 := by
  rw [cellUnits, shareUnits, Nat.zero_mul, roundQuotient_zero, Nat.zero_mul, roundQuotient_zero]

/-- A small whole number is not too large for a double. -/
theorem small_mul_one_lt_limit {n : Nat} (h : n < twoPow 53) : n * one < limit :=
  mul_one_lt_limit (Nat.lt_of_lt_of_le h (twoPow_le (by decide)))

theorem exists_share {value : Binary64} (h : value.units ≤ 100 * one) :
    ∃ share, value.div? hundred = some share ∧ share.units = shareUnits value.units := by
  have hle := shareUnits_mono h
  have hlt := small_mul_one_lt_limit (n := 1) (by decide)
  rw [shareUnits_hundred] at hle
  rw [Nat.one_mul] at hlt
  have hhundred : hundred.units ≠ 0 := Nat.ne_of_gt (Nat.mul_pos (by decide) one_pos)
  obtain ⟨share, hshare, hunits⟩ := exists_ofQuotient? (value.negative != hundred.negative)
    (Nat.lt_of_le_of_lt hle hlt)
  exact ⟨share, (if_neg hhundred).trans hshare, hunits⟩

theorem exists_cells {value share : Binary64} (h : value.units ≤ 100 * one)
    (hshare : share.units = shareUnits value.units) :
    ∃ cells, share.mul? twenty = some cells ∧ cells.units = cellUnits value.units := by
  have hle := cellUnits_mono h
  have hlt := small_mul_one_lt_limit (n := 20) (by decide)
  rw [cellUnits_hundred] at hle
  have hunits : roundQuotient (share.units * twenty.units) one = cellUnits value.units := by
    rw [hshare]
    rfl
  obtain ⟨cells, hcells, hcells'⟩ := exists_ofQuotient? (share.negative != twenty.negative)
    (Nat.lt_of_le_of_lt (hunits ▸ hle) hlt)
  exact ⟨cells, hcells, hcells'.trans hunits⟩

/-- The cells that a percentage of this many units fills: the nearest whole number of cells. -/
def wholeCells (units : Nat) : Nat := (2 * cellUnits units + one) / (2 * one)

/-- **How many cells a percentage fills**: neither operation on the way is too large. -/
theorem filledCells_eq {value : Binary64} (h : value.Percentage) :
    filledCells value = wholeCells value.units := by
  unfold filledCells wholeCells
  cases hsign : value.negative with
  | true =>
    -- The negative one of the two zeros is the only percentage with that sign.
    have hzero : value.units = 0 := by
      have hnonneg := h.nonneg
      rw [signedUnits, hsign, if_pos rfl] at hnonneg
      omega
    have hhalf : one / (2 * one) = 0 := Nat.div_eq_of_lt (by have hone := one_pos; omega)
    rw [if_pos rfl, hzero, cellUnits_zero, Nat.mul_zero, Nat.zero_add, hhalf]
  | false =>
    obtain ⟨share, hdiv, hshare⟩ := exists_share h.units_le
    obtain ⟨cells, hmul, hcells⟩ := exists_cells h.units_le hshare
    rw [if_neg (by decide), hdiv, Option.bind_some, hmul, Option.map_some, Option.getD_some,
      roundHalfUp, hcells]

/-- **A percentage fills twenty cells at most.** -/
theorem filledCells_le {value : Binary64} (h : value.Percentage) :
    filledCells value ≤ barWidth := by
  have hle := cellUnits_mono h.units_le
  have hone := one_pos
  rw [cellUnits_hundred] at hle
  rw [filledCells_eq h, wholeCells]
  refine Nat.le_of_lt_succ (Nat.div_lt_of_lt_mul ?_)
  show 2 * cellUnits value.units + one < 2 * one * 21
  omega

/-- **A larger percentage fills no fewer cells.** -/
theorem filledCells_mono {x y : Binary64} (hx : x.Percentage) (hy : y.Percentage)
    (h : x.units ≤ y.units) : filledCells x ≤ filledCells y := by
  have hcells := cellUnits_mono h
  rw [filledCells_eq hx, filledCells_eq hy]
  exact Nat.div_le_div_right (by omega)

theorem toList_bar (value : Binary64) : (bar value).toList
    = List.replicate (filledCells value) '#'
      ++ List.replicate (barWidth - filledCells value) '-' := by
  rw [bar, String.toList_ofList]

/-! ## §3. The bars of a surface. -/

/-- A bar is made from a number, which is rounded to a double and clamped. -/
theorem Strategy.exists_number_of_apply {strategy : Strategy} {props : Members}
    {children : List Primitive} {label : String} {value : Binary64} {color : Option String}
    (h : strategy.apply props children = .ok (.statBar label value color)) :
    ∃ m x, props.get? "value" = some (.number m) ∧ m.toBinary64? = some x
      ∧ value = x.toHundred := by
  cases strategy with
  | statBar =>
    obtain ⟨label', -, h⟩ := exists_of_except_bind h
    obtain ⟨x, hx, h⟩ := exists_of_except_bind h
    obtain ⟨color', -, h⟩ := exists_of_except_bind h
    injection h with h
    injection h with _ hvalue _
    unfold Props.number at hx
    split at hx
    next => cases hx
    next v hv =>
      split at hx
      next y hy =>
        injection hx with hx
        subst hx
        -- Only a number has a double, and it is there as it was found.
        cases v with
        | number m =>
          refine ⟨m, y, ?_, hy, hvalue.symm⟩
          unfold Props.present? at hv
          split at hv
          next => cases hv
          next => exact hv
        | _ => cases hy
      next => cases hx
  | _ =>
    simp only [apply, bind, Except.bind] at h
    repeat' split at h
    all_goals cases h

/-- A bar is its own frame. -/
theorem Node.frame_of_statBar {n : Node} {label : String} {value : Binary64}
    {color : Option String} (h : n.primitive = .statBar label value color) :
    n.frame = .statBar label value color := by
  have hslot : n.frame.isContainer = false := by
    rw [← n.isContainer_primitive, h]
    rfl
  rw [← h, primitive_eq, Primitive.withChildren_of_not_isContainer hslot]

theorem Node.exists_number_of_statBar {n : Node} {label : String} {value : Binary64}
    {color : Option String} (h : n.primitive = .statBar label value color) :
    ∃ m x, n.props.get? "value" = some (.number m) ∧ m.toBinary64? = some x
      ∧ value = x.toHundred := by
  have hframe := frame_of_statBar h
  unfold frame at hframe
  split at hframe
  next => cases hframe
  next =>
    split at hframe
    next q hq => exact Strategy.exists_number_of_apply (hframe ▸ hq)
    next => cases hframe

namespace Surface

/-- At the path stands a bar of this value, drawn for a node with this number. -/
structure BarAt (s : Surface) (path : NodePath) (number : Number) (value : Binary64) : Prop where
  node : ∃ n, s.nodeAt? path = some n ∧ n.props.get? "value" = some (.number number)
  drawn : ∃ label color, s.tree.primitiveAt? path = some (.statBar label value color)

/-- The value of a bar is the double of its number, clamped. -/
theorem BarAt.exists_double {s : Surface} {path : NodePath} {number : Number} {value : Binary64}
    (h : s.BarAt path number value) :
    ∃ x, number.toBinary64? = some x ∧ value = x.toHundred := by
  obtain ⟨n, hn, hnumber⟩ := h.node
  obtain ⟨label, color, hq⟩ := h.drawn
  obtain ⟨m, x, hm, hx, hvalue⟩ :=
    Node.exists_number_of_statBar (primitive_of_primitiveAt? hn hq)
  rw [hnumber] at hm
  injection hm with hm
  injection hm with hm
  exact ⟨x, hm ▸ hx, hvalue⟩

theorem exists_barAt {s : Surface} {path : NodePath} {label : String} {value : Binary64}
    {color : Option String} (h : s.tree.primitiveAt? path = some (.statBar label value color)) :
    ∃ number, s.BarAt path number value := by
  obtain ⟨⟨n, hn, hq⟩, -⟩ := primitiveAt?_iff.1 h
  obtain ⟨m, x, hm, -, -⟩ := Node.exists_number_of_statBar hq
  exact ⟨m, ⟨n, hn, hm⟩, label, color, h⟩

theorem BarAt.percentage {s : Surface} {path : NodePath} {number : Number} {value : Binary64}
    (h : s.BarAt path number value) : value.Percentage := by
  obtain ⟨x, -, rfl⟩ := h.exists_double
  exact x.percentage_toHundred

/-- The bar of a larger number has no smaller value. -/
theorem BarAt.units_mono {s t : Surface} {path path' : NodePath} {m n : Number}
    {value value' : Binary64} (h : s.BarAt path m value) (h' : t.BarAt path' n value')
    (hmn : m.inUnits ≤ n.inUnits) : value.units ≤ value'.units := by
  obtain ⟨x, hx, rfl⟩ := h.exists_double
  obtain ⟨y, hy, rfl⟩ := h'.exists_double
  have hround := Number.signedUnits_toBinary64?_mono hmn hx hy
  have hunits := x.units_toHundred
  have hunits' := y.units_toHundred
  omega

/-- **How the bars of a surface are drawn.** -/
structure Barred (s : Surface) : Prop where
  /-- Each bar is drawn for a number among the properties of its node. -/
  source : ∀ path label value color,
    s.tree.primitiveAt? path = some (.statBar label value color) →
      ∃ number, s.BarAt path number value
  /-- Its value lies between zero and one hundred. -/
  range : ∀ path number value, s.BarAt path number value →
    0 ≤ value.signedUnits ∧ value.signedUnits ≤ (100 * one : Nat)
  /-- It fills no more cells than it has. -/
  fits : ∀ path number value, s.BarAt path number value → filledCells value ≤ barWidth
  /-- It has twenty cells, the filled ones before the empty ones. -/
  cells : ∀ path number value, s.BarAt path number value → (bar value).length = 20
    ∧ (bar value).toList = List.replicate (filledCells value) '#'
      ++ List.replicate (20 - filledCells value) '-'
  /-- A larger number fills no fewer cells, whichever surface it stands in. -/
  mono : ∀ (t : Surface) (path path' : NodePath) (m n : Number) (value value' : Binary64),
    s.BarAt path m value → t.BarAt path' n value' → m.inUnits ≤ n.inUnits →
      (bar value).toList.count '#' ≤ (bar value').toList.count '#'
  /-- So the tree can be listed at every depth. -/
  listed : ∀ depth, s.tree.listing? depth = some (s.tree.listing depth)

theorem count_toList_bar (value : Binary64) : (bar value).toList.count '#' = filledCells value := by
  rw [toList_bar, List.count_append, List.count_replicate_self, List.count_replicate,
    if_neg (by decide), Nat.add_zero]

/-- **The bars of every surface fit**, and every surface can be listed. -/
theorem barred (s : Surface) : s.Barred where
  source _ _ _ _ h := exists_barAt h
  range path number value h := by
    have hle := h.percentage.units_le
    refine ⟨h.percentage.nonneg, ?_⟩
    unfold signedUnits
    split <;> omega
  fits _ _ _ h := filledCells_le h.percentage
  cells path number value h := by
    have hfits : filledCells value ≤ 20 := filledCells_le h.percentage
    refine ⟨?_, toList_bar value⟩
    rw [← String.length_toList, toList_bar, List.length_append, List.length_replicate,
      List.length_replicate, barWidth]
    omega
  mono t path path' m n value value' h h' hmn := by
    rw [count_toList_bar, count_toList_bar]
    exact filledCells_mono h.percentage h'.percentage (h.units_mono h' hmn)
  listed := by
    refine RenderTree.listing?_eq fun path q hq => ?_
    cases q with
    | statBar label value color =>
      obtain ⟨number, hbar⟩ := exists_barAt hq
      exact filledCells_le hbar.percentage
    | _ => trivial

end Surface

end SurfaceStudio
