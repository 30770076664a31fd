import DeskPlan.Proofs.Geometry.Overflow
import Mathlib.Algebra.Order.Ring.Abs
import Mathlib.Data.Int.Interval
import Mathlib.Data.Set.Card
import Mathlib.Order.Bounds.Basic
import Mathlib.Tactic.Ring

/-!
# `DeskPlan.Proofs.Geometry.Points`: rectangles as sets of points

A rectangle stands for the points between its edges, the left and the top edge included
(`Rect.points`). A rectangle with a right edge before its left one has no points.

* `card_inter_points`: the shared area is the number of points that two rectangles share;
* `isLeast_axisDistance`: what is computed on one axis is the distance to the nearest point of an
  interval. The points behind the end of the interval are one step further away than the end;
* `isLeast_trueSquaredDistance`: so the squared distance of the centre is that to the nearest
  point of the other rectangle;
* `measures_exact` says both of the measures that are computed.
-/

set_option autoImplicit false

namespace DeskPlan.Rect

/-! ### Counting points -/

/-- The points of a rectangle. -/
def points (r : Rect) : Set (ℤ × ℤ) := {p | r.Holds p.1 p.2}

/-- The area: the width by the height, and zero where there is nothing between the edges. -/
def area (r : Rect) : ℤ :=
  max 0 (r.right.val - r.left.val) * max 0 (r.bottom.val - r.top.val)

/-- Between four edges there are finitely many points, a row of them for each position between the
top and the bottom. -/
theorem card_between (left right top bottom : ℤ) :
    let box : Set (ℤ × ℤ) := {p | (left ≤ p.1 ∧ p.1 < right) ∧ top ≤ p.2 ∧ p.2 < bottom}
    box.Finite ∧ (box.ncard : ℤ) = max 0 (right - left) * max 0 (bottom - top) := by
  intro box
  have hbox : box = ↑(Finset.Ico left right ×ˢ Finset.Ico top bottom) := by
    ext p
    rw [Finset.mem_coe, Finset.mem_product, Finset.mem_Ico, Finset.mem_Ico]
    rfl
  rw [hbox, Set.ncard_coe_finset, Finset.card_product, Nat.cast_mul, Int.card_Ico, Int.card_Ico,
    Int.toNat_eq_max, Int.toNat_eq_max, max_comm 0, max_comm 0]
  exact ⟨Finset.finite_toSet _, rfl⟩

/-- Two rectangles share the points between the greater of their near edges and the lesser of their
far ones. -/
theorem inter_points (r s : Rect) : r.points ∩ s.points =
    {p | (max r.left.val s.left.val ≤ p.1 ∧ p.1 < min r.right.val s.right.val) ∧
      max r.top.val s.top.val ≤ p.2 ∧ p.2 < min r.bottom.val s.bottom.val} := by
  ext p
  constructor
  · rintro ⟨hr, hs⟩
    exact ⟨⟨max_le hr.left hs.left, lt_min hr.right hs.right⟩, max_le hr.top hs.top,
      lt_min hr.bottom hs.bottom⟩
  · rintro ⟨⟨hleft, hright⟩, htop, hbottom⟩
    rw [max_le_iff] at hleft htop
    rw [lt_min_iff] at hright hbottom
    exact ⟨⟨hleft.1, hright.1, htop.1, hbottom.1⟩, hleft.2, hright.2, htop.2, hbottom.2⟩

theorem finite_inter_points (r s : Rect) : (r.points ∩ s.points).Finite := by
  rw [inter_points]
  exact (card_between _ _ _ _).1

theorem card_inter_points (r s : Rect) :
    ((r.points ∩ s.points).ncard : ℤ) = r.trueSharedArea s := by
  rw [inter_points]
  exact (card_between _ _ _ _).2

/-- A rectangle shares all its points with itself. -/
theorem trueSharedArea_self (r : Rect) : r.trueSharedArea r = r.area := by
  rw [trueSharedArea, min_self, min_self, max_self, max_self, area]

theorem trueSharedArea_comm (r s : Rect) : r.trueSharedArea s = s.trueSharedArea r := by
  rw [← card_inter_points, Set.inter_comm, card_inter_points]

theorem trueSharedArea_le_left (r s : Rect) : r.trueSharedArea s ≤ r.area := by
  have hsubset : r.points ∩ s.points ⊆ r.points ∩ r.points := by
    rw [Set.inter_self]
    exact Set.inter_subset_left
  rw [← trueSharedArea_self, ← card_inter_points, ← card_inter_points]
  exact Int.ofNat_le.2 (Set.ncard_le_ncard hsubset (finite_inter_points r r))

/-! ### The nearest point -/

/-- On an axis, the distance is that to the nearest position of the interval. -/
theorem isLeast_axisDistance {low high : ℤ} (h : low < high) (p : ℤ) :
    IsLeast {d | ∃ x, low ≤ x ∧ x < high ∧ d = |p - x|} (axisDistance p low high) := by
  unfold axisDistance
  split
  · rename_i hbefore
    -- The first position is the nearest.
    refine ⟨⟨low, le_refl low, h, by rw [abs_of_neg (by omega)]; omega⟩, ?_⟩
    rintro d ⟨x, hlow, -, rfl⟩
    exact le_trans (by omega) (neg_le_abs (p - x))
  · split
    · -- The last position is the one before the end.
      refine ⟨⟨high - 1, by omega, by omega, by rw [abs_of_nonneg (by omega)]; omega⟩, ?_⟩
      rintro d ⟨x, -, hhigh, rfl⟩
      exact le_trans (by omega) (le_abs_self (p - x))
    · refine ⟨⟨p, by omega, by omega, by simp⟩, ?_⟩
      rintro d ⟨x, -, -, rfl⟩
      exact abs_nonneg (p - x)

/-- The squared distance of the centre is that to the nearest point. -/
theorem isLeast_trueSquaredDistance (r : Rect) {s : Rect} (hx : s.left.val < s.right.val)
    (hy : s.top.val < s.bottom.val) :
    IsLeast {d | ∃ p ∈ s.points, d = (p.1 - r.centre.1) ^ 2 + (p.2 - r.centre.2) ^ 2}
      (r.trueSquaredDistance s) := by
  obtain ⟨⟨x, hleft, hright, hdx⟩, hleastX⟩ := isLeast_axisDistance hx r.centre.1
  obtain ⟨⟨y, htop, hbottom, hdy⟩, hleastY⟩ := isLeast_axisDistance hy r.centre.2
  constructor
  · refine ⟨(x, y), ⟨hleft, hright, htop, hbottom⟩, ?_⟩
    rw [trueSquaredDistance, hdx, hdy, abs_mul_abs_self, abs_mul_abs_self]
    ring
  · -- Each of the two distances is least, and neither is negative.
    rintro d ⟨p, hin, rfl⟩
    have hleX := hleastX ⟨p.1, hin.left, hin.right, rfl⟩
    have hleY := hleastY ⟨p.2, hin.top, hin.bottom, rfl⟩
    have hsquareX := mul_self_le_mul_self (hdx ▸ abs_nonneg _) hleX
    have hsquareY := mul_self_le_mul_self (hdy ▸ abs_nonneg _) hleY
    rw [abs_mul_abs_self] at hsquareX hsquareY
    calc r.trueSquaredDistance s
        ≤ (r.centre.1 - p.1) * (r.centre.1 - p.1) + (r.centre.2 - p.2) * (r.centre.2 - p.2) :=
          add_le_add hsquareX hsquareY
      _ = (p.1 - r.centre.1) ^ 2 + (p.2 - r.centre.2) ^ 2 := by ring

/-- The distance is zero exactly when the centre is in the other rectangle. -/
theorem trueSquaredDistance_eq_zero_iff (r : Rect) {s : Rect} (hx : s.left.val < s.right.val)
    (hy : s.top.val < s.bottom.val) :
    r.trueSquaredDistance s = 0 ↔ r.centre ∈ s.points := by
  obtain ⟨⟨p, hin, hdistance⟩, hleast⟩ := isLeast_trueSquaredDistance r hx hy
  constructor
  · intro hzero
    rw [hzero] at hdistance
    obtain ⟨hdx, hdy⟩ := (add_eq_zero_iff_of_nonneg (sq_nonneg _) (sq_nonneg _)).1 hdistance.symm
    have hx0 : p.1 = r.centre.1 := sub_eq_zero.1 ((pow_eq_zero_iff two_ne_zero).1 hdx)
    have hy0 : p.2 = r.centre.2 := sub_eq_zero.1 ((pow_eq_zero_iff two_ne_zero).1 hdy)
    rwa [← Prod.ext hx0 hy0]
  · intro hcentre
    refine le_antisymm (hleast ⟨_, hcentre, by ring⟩) ?_
    rw [hdistance]
    exact add_nonneg (sq_nonneg _) (sq_nonneg _)

/-! ### What is computed -/

/-- A shared area that is computed is the number of points that lie in both rectangles. So it does
not depend on their order, is at most the area of either, and is zero exactly when no point is
shared. A squared distance that is computed to a rectangle that has points is the least one from
the centre to any of them, and it is zero exactly when the centre is one of them. -/
theorem measures_exact (a b : Rect) :
    (∀ n, a.sharedArea? b = some n →
      (a.points ∩ b.points).Finite ∧ n = (a.points ∩ b.points).ncard ∧
      b.sharedArea? a = some n ∧ n ≤ a.area ∧ n ≤ b.area ∧
      (n = 0 ↔ a.points ∩ b.points = ∅)) ∧
    (∀ n, a.squaredDistanceTo? b = some n → b.left.val < b.right.val → b.top.val < b.bottom.val →
      IsLeast {d | ∃ p ∈ b.points, d = (p.1 - a.centre.1) ^ 2 + (p.2 - a.centre.2) ^ 2} n ∧
      (n = 0 ↔ a.centre ∈ b.points)) := by
  constructor
  · intro n hn
    obtain rfl := trueSharedArea_of_some hn
    have hfinite := finite_inter_points a b
    refine ⟨hfinite, (card_inter_points a b).symm, (sharedArea?_comm b a).trans hn,
      trueSharedArea_le_left a b, ?_, ?_⟩
    · rw [trueSharedArea_comm]
      exact trueSharedArea_le_left b a
    · rw [← card_inter_points, Int.natCast_eq_zero, Set.ncard_eq_zero hfinite]
  · intro n hn hx hy
    obtain rfl := trueSquaredDistance_of_some hn
    exact ⟨isLeast_trueSquaredDistance a hx hy, trueSquaredDistance_eq_zero_iff a hx hy⟩

/-- A rectangle over the right edge of a screen. -/
def edgeRect : Rect := ⟨.of 1900, .zero, .of 2101, .of 100⟩

/-- A screen. -/
def screenRect : Rect := ⟨.zero, .zero, .of 1920, .of 1080⟩

/-- The two share 20 columns of 100 points. The centre of the first one, at 2000 and 50, is beyond
the edge, and the nearest column of the screen is 1919. -/
theorem measures_of_edgeRect :
    edgeRect.sharedArea? screenRect = some 2000 ∧
    edgeRect.squaredDistanceTo? screenRect = some (81 * 81) ∧
    (edgeRect.points ∩ screenRect.points).ncard = 2000 ∧
    IsLeast {d | ∃ p ∈ screenRect.points, d = (p.1 - 2000) ^ 2 + (p.2 - 50) ^ 2} (81 * 81) := by
  have harea : edgeRect.sharedArea? screenRect = some 2000 := by decide
  have hdistance : edgeRect.squaredDistanceTo? screenRect = some (81 * 81) := by decide
  obtain ⟨hmeasured, hnearest⟩ := measures_exact edgeRect screenRect
  refine ⟨harea, hdistance, ?_, (hnearest _ hdistance (by decide) (by decide)).1⟩
  exact Int.ofNat_inj.1 (hmeasured _ harea).2.1.symm

end DeskPlan.Rect
