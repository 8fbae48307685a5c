import Mathlib.Data.List.Sort

/-!
# Ranges that tile an interval

A list of ranges tiles an interval when each range begins where the one
before it ends.  Sorting the ranges by their beginning alone finds such an
order unless it puts an empty range behind another one at the same point.
-/

namespace Pih

variable {Point : Type*}

/-- The ranges follow each other from the first point to the last. -/
def Tiles : Point → Point → List (Point × Point) → Prop
  | first, last, [] => first = last
  | first, last, range :: rest => range.1 = first ∧ Tiles range.2 last rest

/-- Only the last of the ranges that begin at a point has a content. -/
def EmptyFirst (ranges : List (Point × Point)) : Prop :=
  ranges.Pairwise fun early late => early.1 = late.1 → early.1 = early.2

variable [LinearOrder Point] {ranges : List (Point × Point)}

theorem Tiles.ordered (tiles : Tiles first last ranges)
    (upward : ∀ range ∈ ranges, range.1 ≤ range.2) :
    (∀ range ∈ ranges, first ≤ range.1) ∧ ranges.Pairwise fun early late => early.2 ≤ late.1 := by
  induction ranges generalizing first with
  | nil => simp
  | cons range _ induction =>
    rcases tiles with ⟨rfl, tiles⟩
    have later := induction tiles fun other member => upward other (.tail _ member)
    constructor
    · intro other member
      rcases List.mem_cons.mp member with rfl | member
      · exact le_refl _
      · exact (upward range (.head _)).trans (later.1 other member)
    · exact List.pairwise_cons.mpr later

theorem Tiles.emptyFirst (tiles : Tiles first last ranges)
    (upward : ∀ range ∈ ranges, range.1 ≤ range.2) : EmptyFirst ranges := by
  refine (tiles.ordered upward).2.imp_of_mem ?_
  intro early late member _ behind same
  exact le_antisymm (upward early member) (behind.trans same.ge)

/-- The order by beginnings and then by ends. -/
def Before (early late : Point × Point) : Prop :=
  early.1 ≤ late.1 ∧ (early.1 = late.1 → early.2 ≤ late.2)

theorem eq_of_perm_of_ordered (perm : order.Perm ranges)
    (sorted : order.Pairwise Before) (alike : ranges.Pairwise Before) : order = ranges := by
  refine List.Perm.eq_of_pairwise ?_ sorted alike perm
  intro early late _ _ forward backward
  have same := le_antisymm forward.1 backward.1
  exact Prod.ext same (le_antisymm (forward.2 same) (backward.2 same.symm))

/-- What sorting by the beginning finds. -/
theorem tiles_iff_of_sorted (upward : ∀ range ∈ ranges, range.1 ≤ range.2)
    (sorted : ranges.Pairwise fun early late => early.1 ≤ late.1) :
    Tiles first last ranges ↔ EmptyFirst ranges ∧
      ∃ order, order.Perm ranges ∧ Tiles first last order := by
  constructor
  · intro tiles
    exact ⟨tiles.emptyFirst upward, ranges, .refl _, tiles⟩
  · rintro ⟨emptyFirst, order, perm, tiles⟩
    have alike : ∀ range ∈ order, range.1 ≤ range.2 :=
      fun range member => upward range (perm.subset member)
    -- both lists are in the order of beginnings and then of ends
    have equal : order = ranges := by
      apply eq_of_perm_of_ordered perm
      · refine (tiles.ordered alike).2.imp_of_mem ?_
        intro early late earlier later behind
        have further := behind.trans (alike late later)
        exact ⟨(alike early earlier).trans behind, fun _ => further⟩
      · refine (sorted.and emptyFirst).imp_of_mem ?_
        rintro _ late - later ⟨before, empty⟩
        refine ⟨before, fun same => ?_⟩
        rw [← empty same, same]
        exact upward late later
    exact equal ▸ tiles

end Pih
