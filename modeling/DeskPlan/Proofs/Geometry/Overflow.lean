import DeskPlan.Proofs.Geometry.Rect
import Mathlib.Algebra.Order.Ring.Int

/-!
# `DeskPlan.Proofs.Geometry.Overflow`: which overlaps and distances are computed

An overlap is computed from differences in 32-bit arithmetic and a squared distance in 64-bit
arithmetic, and both stop at the first result out of range. What is computed is the measure over
the integers: `Rect.trueSharedArea` (`trueSharedArea_of_some`) and `Rect.trueSquaredDistance`
(`squaredDistanceTo?_eq`).

For rectangles whose own extents are coordinates (`Rect.Measurable`) the exact conditions are:

* `sharedArea?_isSome_iff`: neither rectangle begins more than `2 ^ 31` behind the end of the other
  (`Rect.WithinReach`). Rectangles far apart are out of reach;
* `squaredDistanceTo?_isSome_iff`: the squared distance itself fits 64 bits. Nothing else that is
  computed on the way can overflow before.
-/

set_option autoImplicit false

namespace DeskPlan

namespace Rect

/-! ### Overlaps -/

theorem lesser_val (a b : Coordinate) : (lesser a b).val = min a.val b.val := by
  unfold lesser
  split <;> omega

theorem greater_val (a b : Coordinate) : (greater a b).val = max a.val b.val := by
  unfold greater
  split <;> omega

/-- What is computed when nothing overflows: two differences, and their product unless one of them
is zero or less. -/
theorem sharedArea?_cases {r s : Rect} {n : Int} (h : r.sharedArea? s = some n) :
    ∃ w h : Coordinate, (lesser r.right s.right).minus? (greater r.left s.left) = some w ∧
      (lesser r.bottom s.bottom).minus? (greater r.top s.top) = some h ∧
      n = if w.val ≤ 0 ∨ h.val ≤ 0 then 0 else w.val * h.val := by
  obtain ⟨w, hw, h⟩ := Option.bind_eq_some_iff.1 h
  obtain ⟨h', hh, h⟩ := Option.bind_eq_some_iff.1 h
  refine ⟨w, h', hw, hh, ?_⟩
  split at h
  · rename_i hempty
    rw [if_pos hempty]
    exact (Option.some.inj h).symm
  · rename_i hfull
    rw [if_neg hfull]
    exact (within64_eq_some_iff.1 h).1.symm

/-- The shared area over the integers. -/
def trueSharedArea (r s : Rect) : Int :=
  max 0 (min r.right.val s.right.val - max r.left.val s.left.val) *
    max 0 (min r.bottom.val s.bottom.val - max r.top.val s.top.val)

/-- A shared area that is computed is the true one. -/
theorem trueSharedArea_of_some {r s : Rect} {n : Int} (h : r.sharedArea? s = some n) :
    r.trueSharedArea s = n := by
  obtain ⟨w, h', hw, hh, rfl⟩ := sharedArea?_cases h
  have hwidth := Coordinate.minus?_eq_some_iff.1 hw
  have hheight := Coordinate.minus?_eq_some_iff.1 hh
  rw [lesser_val, greater_val] at hwidth hheight
  unfold trueSharedArea
  rw [← hwidth, ← hheight]
  split
  · rename_i hempty
    rcases hempty with hw0 | hh0
    · rw [max_eq_left hw0, Int.zero_mul]
    · rw [max_eq_left hh0, Int.mul_zero]
  · rw [max_eq_right (by omega), max_eq_right (by omega)]

/-- The same differences are computed for two rectangles in either order. -/
theorem sharedArea?_comm (r s : Rect) : r.sharedArea? s = s.sharedArea? r := by
  have hlesser : ∀ a b : Coordinate, lesser a b = lesser b a := fun a b =>
    Ranged.ext_val (by rw [lesser_val, lesser_val, min_comm])
  have hgreater : ∀ a b : Coordinate, greater a b = greater b a := fun a b =>
    Ranged.ext_val (by rw [greater_val, greater_val, max_comm])
  unfold sharedArea?
  rw [hlesser r.right, hlesser r.bottom, hgreater r.left, hgreater r.top]

/-- Neither rectangle begins more than `2 ^ 31` behind the end of the other. -/
structure WithinReach (r s : Rect) : Prop where
  right : s.left.val - r.right.val ≤ 2147483648
  left : r.left.val - s.right.val ≤ 2147483648
  below : s.top.val - r.bottom.val ≤ 2147483648
  above : r.top.val - s.bottom.val ≤ 2147483648

instance (r s : Rect) : Decidable (r.WithinReach s) :=
  decidable_of_iff
    ((s.left.val - r.right.val ≤ 2147483648 ∧ r.left.val - s.right.val ≤ 2147483648) ∧
      s.top.val - r.bottom.val ≤ 2147483648 ∧ r.top.val - s.bottom.val ≤ 2147483648)
    ⟨fun h => ⟨h.1.1, h.1.2, h.2.1, h.2.2⟩, fun h => ⟨⟨h.right, h.left⟩, h.below, h.above⟩⟩

/-- On one axis, the difference that gives the overlap is in range exactly when neither side begins
more than `2 ^ 31` behind the end of the other. -/
theorem exists_overlap_iff {low₁ high₁ low₂ high₂ : Coordinate}
    (h₁ : IsCoordinate (high₁.val - low₁.val)) (h₂ : IsCoordinate (high₂.val - low₂.val)) :
    (∃ d, (lesser high₁ high₂).minus? (greater low₁ low₂) = some d) ↔
      low₂.val - high₁.val ≤ 2147483648 ∧ low₁.val - high₂.val ≤ 2147483648 := by
  unfold Coordinate.minus?
  rw [← Coordinate.isCoordinate_iff, lesser_val, greater_val]
  unfold IsCoordinate at *
  omega

/-- The product of two extents always fits. -/
theorem within64_mul {w h : Coordinate} (hw : 0 < w.val) (hh : 0 < h.val) :
    within64 (w.val * h.val) = some (w.val * h.val) := by
  have hpos : 0 < w.val * h.val := Int.mul_pos hw hh
  have hle : w.val * h.val ≤ 2147483647 * 2147483647 :=
    Int.mul_le_mul w.le_hi h.le_hi (Int.le_of_lt hh) (by omega)
  exact within64_eq_some_iff.2 ⟨rfl, by omega, by omega⟩

section
variable {r s : Rect} (hr : r.Measurable) (hs : s.Measurable)
include hr hs

/-- An overlap is computed exactly when the rectangles are within reach of each other. -/
theorem sharedArea?_isSome_iff : (r.sharedArea? s).isSome ↔ r.WithinReach s := by
  have hwidth := exists_overlap_iff ⟨hr.width_ge, hr.width_le⟩ ⟨hs.width_ge, hs.width_le⟩
  have hheight := exists_overlap_iff ⟨hr.height_ge, hr.height_le⟩ ⟨hs.height_ge, hs.height_le⟩
  rw [Option.isSome_iff_exists]
  constructor
  · rintro ⟨n, hn⟩
    obtain ⟨w, h, hw, hh, -⟩ := sharedArea?_cases hn
    obtain ⟨hright, hleft⟩ := hwidth.1 ⟨w, hw⟩
    obtain ⟨hbelow, habove⟩ := hheight.1 ⟨h, hh⟩
    exact ⟨hright, hleft, hbelow, habove⟩
  · rintro ⟨hright, hleft, hbelow, habove⟩
    obtain ⟨w, hw⟩ := hwidth.2 ⟨hright, hleft⟩
    obtain ⟨h, hh⟩ := hheight.2 ⟨hbelow, habove⟩
    refine ⟨if w.val ≤ 0 ∨ h.val ≤ 0 then 0 else w.val * h.val,
      Option.bind_eq_some_iff.2 ⟨w, hw, Option.bind_eq_some_iff.2 ⟨h, hh, ?_⟩⟩⟩
    split
    · rfl
    · exact within64_mul (by omega) (by omega)

end

/-! ### Points -/

/-- The point lies in the rectangle; the right and the bottom edge are outside. -/
structure Holds (r : Rect) (x y : Int) : Prop where
  left : r.left.val ≤ x
  right : x < r.right.val
  top : r.top.val ≤ y
  bottom : y < r.bottom.val

/-- The rectangles have a point in common. -/
def Meets (r s : Rect) : Prop := ∃ x y, r.Holds x y ∧ s.Holds x y

theorem trueSharedArea_nonneg (r s : Rect) : 0 ≤ r.trueSharedArea s :=
  Int.mul_nonneg (le_max_left _ _) (le_max_left _ _)

/-- The shared area is positive exactly when a point is shared. -/
theorem trueSharedArea_pos_iff {r s : Rect} : 0 < r.trueSharedArea s ↔ r.Meets s := by
  constructor
  · intro hpos
    -- Neither factor is zero, so the corner where the intersection begins is shared.
    have hw : max 0 (min r.right.val s.right.val - max r.left.val s.left.val) ≠ 0 := fun h0 => by
      rw [trueSharedArea, h0, Int.zero_mul] at hpos
      exact lt_irrefl 0 hpos
    have hh : max 0 (min r.bottom.val s.bottom.val - max r.top.val s.top.val) ≠ 0 := fun h0 => by
      rw [trueSharedArea, h0, Int.mul_zero] at hpos
      exact lt_irrefl 0 hpos
    refine ⟨max r.left.val s.left.val, max r.top.val s.top.val,
      ⟨?_, ?_, ?_, ?_⟩, ?_, ?_, ?_, ?_⟩ <;>
      omega
  · rintro ⟨x, y, ⟨h₁, h₂, h₃, h₄⟩, h₅, h₆, h₇, h₈⟩
    exact Int.mul_pos (by omega) (by omega)

/-! ### Distances -/

/-- The distance from a position to the positions `low, …, high - 1`, over the integers. -/
def axisDistance (p low high : Int) : Int :=
  if p < low then low - p else if high ≤ p then p - high + 1 else 0

/-- The centre over the integers, with half an extent rounded toward zero. -/
def centre (r : Rect) : Int × Int :=
  (r.left.val + (r.right.val - r.left.val).tdiv 2, r.top.val + (r.bottom.val - r.top.val).tdiv 2)

/-- The squared distance from the centre over the integers. -/
def trueSquaredDistance (r s : Rect) : Int :=
  let dx := axisDistance r.centre.1 s.left.val s.right.val
  let dy := axisDistance r.centre.2 s.top.val s.bottom.val
  dx * dx + dy * dy

/-- The middle between two edges whose difference is in range is computed, and is a coordinate
itself. -/
theorem middle?_eq (low high : Coordinate) (h : IsCoordinate (high.val - low.val)) :
    middle? low high = some (low.val + (high.val - low.val).tdiv 2) ∧
      IsCoordinate (low.val + (high.val - low.val).tdiv 2) := by
  have hhalf : 2 * (high.val - low.val).tdiv 2 + (high.val - low.val).tmod 2 =
    high.val - low.val := Int.mul_tdiv_add_tmod _ _
  have hrest := Int.tmod_two_eq (high.val - low.val)
  have hlow := Coordinate.isCoordinate_val low
  have hhigh := Coordinate.isCoordinate_val high
  obtain ⟨extent, hextent⟩ := Coordinate.isCoordinate_iff.1 h
  have hval : high.val - low.val = extent.val := Ranged.ofInt?_eq_some_iff.1 hextent
  unfold IsCoordinate at *
  refine ⟨Option.bind_eq_some_iff.2 ⟨extent, hextent, ?_⟩, ?_, ?_⟩
  · rw [← hval]
    exact within64_eq_some_iff.2 ⟨rfl, by omega, by omega⟩
  all_goals omega

/-- Between coordinates every distance on an axis is computed. -/
theorem axisDistance?_eq {p low high : Int} (hp : IsCoordinate p) (hlow : IsCoordinate low)
    (hhigh : IsCoordinate high) : axisDistance? p low high = some (axisDistance p low high) := by
  unfold IsCoordinate at *
  unfold axisDistance? axisDistance
  split
  · exact within64_eq_some_iff.2 ⟨rfl, by omega, by omega⟩
  · split
    · have hbeyond : within64 (p - high) = some (p - high) :=
        within64_eq_some_iff.2 ⟨rfl, by omega, by omega⟩
      rw [hbeyond]
      exact within64_eq_some_iff.2 ⟨rfl, by omega, by omega⟩
    · rfl

theorem within64_of_nonneg {n : Int} (h : 0 ≤ n) :
    within64 n = if n ≤ 9223372036854775807 then some n else none := by
  unfold within64
  have hlow : -9223372036854775808 ≤ n := by omega
  simp only [hlow, true_and]

/-- When a sum of two squares fits, each square fits. -/
theorem within64_add_squares (dx dy : Int) :
    ((within64 (dx * dx)).bind fun dx2 => (within64 (dy * dy)).bind fun dy2 =>
      within64 (dx2 + dy2)) = within64 (dx * dx + dy * dy) := by
  have hx : 0 ≤ dx * dx := mul_self_nonneg dx
  have hy : 0 ≤ dy * dy := mul_self_nonneg dy
  rw [within64_of_nonneg hx, within64_of_nonneg hy]
  by_cases hfitsX : dx * dx ≤ 9223372036854775807
  · rw [if_pos hfitsX, Option.bind_some]
    by_cases hfitsY : dy * dy ≤ 9223372036854775807
    · rw [if_pos hfitsY, Option.bind_some]
    · rw [if_neg hfitsY, Option.bind_none, within64_of_nonneg (by omega), if_neg (by omega)]
  · rw [if_neg hfitsX, Option.bind_none, within64_of_nonneg (by omega), if_neg (by omega)]

/-- Only the squares and their sum can overflow, and they do when the sum does. -/
theorem squaredDistanceTo?_eq {r : Rect} (hr : r.Measurable) (s : Rect) :
    r.squaredDistanceTo? s = within64 (r.trueSquaredDistance s) := by
  obtain ⟨hmiddleX, hx⟩ := middle?_eq r.left r.right ⟨hr.width_ge, hr.width_le⟩
  obtain ⟨hmiddleY, hy⟩ := middle?_eq r.top r.bottom ⟨hr.height_ge, hr.height_le⟩
  have hdx : axisDistance? r.centre.1 s.left.val s.right.val =
      some (axisDistance r.centre.1 s.left.val s.right.val) :=
    axisDistance?_eq hx s.left.isCoordinate_val s.right.isCoordinate_val
  have hdy : axisDistance? r.centre.2 s.top.val s.bottom.val =
      some (axisDistance r.centre.2 s.top.val s.bottom.val) :=
    axisDistance?_eq hy s.top.isCoordinate_val s.bottom.isCoordinate_val
  calc r.squaredDistanceTo? s
      = (axisDistance? r.centre.1 s.left.val s.right.val).bind fun dx =>
          (axisDistance? r.centre.2 s.top.val s.bottom.val).bind fun dy =>
          (within64 (dx * dx)).bind fun dx2 => (within64 (dy * dy)).bind fun dy2 =>
            within64 (dx2 + dy2) := by
        show (middle? r.left r.right).bind _ = _
        rw [hmiddleX, Option.bind_some]
        show (middle? r.top r.bottom).bind _ = _
        rw [hmiddleY, Option.bind_some]
        rfl
    _ = within64 (r.trueSquaredDistance s) := by
        rw [hdx, Option.bind_some, hdy, Option.bind_some]
        exact within64_add_squares _ _

/-- A squared distance is computed only from a rectangle that can be measured. -/
theorem measurable_of_squaredDistanceTo? {r s : Rect} {n : Int}
    (h : r.squaredDistanceTo? s = some n) : r.Measurable := by
  -- The middles come first, and each is computed from an extent.
  have hextent : ∀ {low high : Coordinate} {p : Int}, middle? low high = some p →
      IsCoordinate (high.val - low.val) := by
    intro low high p hp
    obtain ⟨extent, hextent, -⟩ := Option.bind_eq_some_iff.1 hp
    exact Coordinate.isCoordinate_iff.2 ⟨extent, hextent⟩
  obtain ⟨x, hx, h⟩ := Option.bind_eq_some_iff.1 h
  obtain ⟨y, hy, -⟩ := Option.bind_eq_some_iff.1 h
  exact ⟨(hextent hx).1, (hextent hx).2, (hextent hy).1, (hextent hy).2⟩

/-- A squared distance that is computed is the true one. -/
theorem trueSquaredDistance_of_some {r s : Rect} {n : Int} (h : r.squaredDistanceTo? s = some n) :
    r.trueSquaredDistance s = n := by
  rw [squaredDistanceTo?_eq (measurable_of_squaredDistanceTo? h)] at h
  exact (within64_eq_some_iff.1 h).1

/-- A squared distance is computed exactly when it fits 64 bits. -/
theorem squaredDistanceTo?_isSome_iff {r : Rect} (hr : r.Measurable) (s : Rect) :
    (r.squaredDistanceTo? s).isSome ↔ r.trueSquaredDistance s ≤ 9223372036854775807 := by
  have hnonneg : 0 ≤ r.trueSquaredDistance s :=
    Int.add_nonneg (mul_self_nonneg _) (mul_self_nonneg _)
  rw [squaredDistanceTo?_eq hr, within64_of_nonneg hnonneg]
  split
  · rename_i hfits
    exact iff_of_true rfl hfits
  · rename_i hexceeds
    exact iff_of_false Bool.false_ne_true hexceeds

end Rect

end DeskPlan
