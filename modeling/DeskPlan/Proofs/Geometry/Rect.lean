import DeskPlan.Geometry.Rect

/-!
# `DeskPlan.Proofs.Geometry.Rect`: rectangles measured over the integers

The edges of a rectangle are coordinates, and the differences between them need not be.

* `IsCoordinate` says of an integer that it is in range, and `Ranged.ofInt?` accepts exactly these
  (`isCoordinate_iff`);
* `Rect.Measurable`: the true extents are coordinates. Exactly such rectangles are measured
  (`measurable_iff`), and the extents found are the true ones (`box?_eq_some_iff`);
* `ofOriginSize?_eq_some_iff`: a rectangle is made from its origin and extent exactly when the far
  edges are coordinates. Measuring it again finds this origin and this extent
  (`box?_eq_some_iff_ofOriginSize?`).
-/

set_option autoImplicit false

namespace DeskPlan

/-! ### Coordinates -/

/-- The integer is in the range of the coordinates. -/
def IsCoordinate (n : Int) : Prop := -2147483648 ≤ n ∧ n ≤ 2147483647

instance (n : Int) : Decidable (IsCoordinate n) := inferInstanceAs (Decidable (_ ∧ _))

namespace Coordinate

theorem isCoordinate_val (a : Coordinate) : IsCoordinate a.val := ⟨a.lo_le, a.le_hi⟩

/-- The integers in range are those that are accepted as a coordinate. -/
theorem isCoordinate_iff {n : Int} :
    IsCoordinate n ↔ ∃ a : Coordinate, Ranged.ofInt? n = some a := by
  constructor
  · intro h
    exact ⟨⟨n, h.1, h.2⟩, Ranged.ofInt?_eq_some_iff.2 rfl⟩
  · rintro ⟨a, ha⟩
    rw [Ranged.ofInt?_eq_some_iff.1 ha]
    exact a.isCoordinate_val

/-- A difference that is computed is the true one. -/
theorem minus?_eq_some_iff {a b d : Coordinate} : a.minus? b = some d ↔ d.val = a.val - b.val := by
  unfold minus?
  rw [Ranged.ofInt?_eq_some_iff, eq_comm]

end Coordinate

/-! ### Rectangles -/

/-- The extents of the rectangle are coordinates. -/
structure Rect.Measurable (r : Rect) : Prop where
  width_ge : -2147483648 ≤ r.right.val - r.left.val
  width_le : r.right.val - r.left.val ≤ 2147483647
  height_ge : -2147483648 ≤ r.bottom.val - r.top.val
  height_le : r.bottom.val - r.top.val ≤ 2147483647

instance (r : Rect) : Decidable r.Measurable :=
  decidable_of_iff
    ((-2147483648 ≤ r.right.val - r.left.val ∧ r.right.val - r.left.val ≤ 2147483647) ∧
      -2147483648 ≤ r.bottom.val - r.top.val ∧ r.bottom.val - r.top.val ≤ 2147483647)
    ⟨fun h => ⟨h.1.1, h.1.2, h.2.1, h.2.2⟩,
      fun h => ⟨⟨h.width_ge, h.width_le⟩, h.height_ge, h.height_le⟩⟩

namespace Rect

/-- The rectangle has the corner and the extent, as integers. -/
structure HasBox (r : Rect) (x y w h : Int) : Prop where
  left : r.left.val = x
  top : r.top.val = y
  right : r.right.val = x + w
  bottom : r.bottom.val = y + h

theorem width?_eq_some_iff {r : Rect} {w : Coordinate} :
    r.width? = some w ↔ w.val = r.right.val - r.left.val :=
  Coordinate.minus?_eq_some_iff

theorem height?_eq_some_iff {r : Rect} {h : Coordinate} :
    r.height? = some h ↔ h.val = r.bottom.val - r.top.val :=
  Coordinate.minus?_eq_some_iff

/-- What is measured is the true box. -/
theorem box?_eq_some_iff {r : Rect} {b : Box} :
    r.box? = some b ↔ r.HasBox b.left.val b.top.val b.width.val b.height.val := by
  unfold box?
  simp only [bind, Option.bind_eq_some_iff, width?_eq_some_iff, height?_eq_some_iff, pure,
    Option.some.injEq]
  constructor
  · rintro ⟨w, hw, h, hh, rfl⟩
    exact ⟨rfl, rfl, by dsimp only; omega, by dsimp only; omega⟩
  · rintro ⟨hleft, htop, hright, hbottom⟩
    refine ⟨b.width, by omega, b.height, by omega, ?_⟩
    rw [Ranged.ext_val hleft, Ranged.ext_val htop]

/-- A rectangle is made from an origin and an extent exactly when its far edges are coordinates. -/
theorem ofOriginSize?_eq_some_iff {x y w h : Coordinate} {r : Rect} :
    ofOriginSize? x y w h = some r ↔ r.HasBox x.val y.val w.val h.val := by
  unfold ofOriginSize?
  simp only [bind, Option.bind_eq_some_iff, Ranged.ofInt?_eq_some_iff, pure, Option.some.injEq]
  constructor
  · rintro ⟨right, hright, bottom, hbottom, rfl⟩
    exact ⟨rfl, rfl, hright.symm, hbottom.symm⟩
  · rintro ⟨hleft, htop, hright, hbottom⟩
    refine ⟨r.right, hright.symm, r.bottom, hbottom.symm, ?_⟩
    rw [← Ranged.ext_val hleft, ← Ranged.ext_val htop]

/-- Measuring is the inverse of making a rectangle from its origin and extent. -/
theorem box?_eq_some_iff_ofOriginSize? {r : Rect} {b : Box} :
    r.box? = some b ↔ ofOriginSize? b.left b.top b.width b.height = some r :=
  box?_eq_some_iff.trans ofOriginSize?_eq_some_iff.symm

/-- The rectangles that are measured are those whose true extents are coordinates. -/
theorem measurable_iff {r : Rect} : r.Measurable ↔ ∃ b, r.box? = some b := by
  constructor
  · rintro ⟨hwidth, hwidth', hheight, hheight'⟩
    refine ⟨⟨r.left, r.top, ⟨r.right.val - r.left.val, hwidth, hwidth'⟩,
      ⟨r.bottom.val - r.top.val, hheight, hheight'⟩⟩, ?_⟩
    exact box?_eq_some_iff.2 ⟨rfl, rfl, by dsimp only; omega, by dsimp only; omega⟩
  · rintro ⟨b, hb⟩
    obtain ⟨hleft, htop, hright, hbottom⟩ := box?_eq_some_iff.1 hb
    have hw := b.width.isCoordinate_val
    have hh := b.height.isCoordinate_val
    unfold IsCoordinate at hw hh
    constructor <;> omega

/-- A rectangle is told in words when it can be measured. -/
theorem describe?_isSome_iff {r : Rect} : r.describe?.isSome ↔ r.Measurable := by
  rw [describe?, Option.isSome_map, Option.isSome_iff_exists, measurable_iff]

end Rect

end DeskPlan
