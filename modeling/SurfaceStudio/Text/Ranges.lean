/-!
# Ranges of code points

Classes of characters are tables of ranges, each given by its first and last code point.

  • `inRanges` — whether a code point lies in one of the ranges.
-/

namespace SurfaceStudio.Text

/-- Whether a code point lies in one of the ranges. -/
def inRanges (ranges : List (Nat × Nat)) (n : Nat) : Bool :=
  ranges.any fun range => range.1 ≤ n && n ≤ range.2

theorem inRanges_of_mem {ranges : List (Nat × Nat)} {n : Nat} {range : Nat × Nat}
    (hmem : range ∈ ranges) (hlo : range.1 ≤ n) (hhi : n ≤ range.2) : inRanges ranges n = true :=
  List.any_eq_true.2 ⟨range, hmem, by simp [hlo, hhi]⟩

end SurfaceStudio.Text
