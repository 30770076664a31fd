import DeskPlan.Json.Schema
import DeskPlan.Json.Value
import DeskPlan.Number.Checked

/-!
# `DeskPlan.Geometry.Rect`: rectangles of the virtual screen

A `Rect` is given by its four edges; the right and the bottom edge are not part of it. Extents
and overlaps are computed in 32-bit arithmetic, squared distances in 64-bit arithmetic. A result
that leaves its range ends the program, so all of these are `Checked`.

* `Rect.ofOriginSize?` builds a rectangle from its origin and extent, if its edges are
  coordinates, and `Rect.box?` finds its origin and extent again;
* `Rect.sharedArea?` is the area of the intersection;
* `Rect.squaredDistanceTo?` is the squared distance from the centre to another rectangle.
-/

set_option autoImplicit false

namespace DeskPlan

/-- A rectangle of the virtual screen. -/
structure Rect where
  left : Coordinate
  top : Coordinate
  right : Coordinate
  bottom : Coordinate
deriving DecidableEq, Repr

/-- A rectangle by its origin and its extent. -/
structure Box where
  left : Coordinate
  top : Coordinate
  width : Coordinate
  height : Coordinate
deriving DecidableEq, Repr

/-- The box in words. -/
def Box.describe (b : Box) : String :=
  s!"(left: {b.left.val}, top: {b.top.val}, width: {b.width.val}, height: {b.height.val})"

/-- The difference of two coordinates. -/
def Coordinate.minus? (a b : Coordinate) : Checked Coordinate := Ranged.ofInt? (a.val - b.val)

namespace Rect

/-- The rectangle with the given origin and extent, if its far edges are coordinates. -/
def ofOriginSize? (left top width height : Coordinate) : Option Rect := do
  let right ← Ranged.ofInt? (left.val + width.val)
  let bottom ← Ranged.ofInt? (top.val + height.val)
  return ⟨left, top, right, bottom⟩

/-! ### Extents -/

/-- The horizontal extent. -/
def width? (r : Rect) : Checked Coordinate := r.right.minus? r.left

/-- The vertical extent. -/
def height? (r : Rect) : Checked Coordinate := r.bottom.minus? r.top

/-- The origin and the extent. -/
def box? (r : Rect) : Checked Box := do
  let width ← r.width?
  let height ← r.height?
  return ⟨r.left, r.top, width, height⟩

/-- The origin and the extent in words. -/
def describe? (r : Rect) : Checked String := r.box?.map Box.describe

/-! ### Overlaps -/

/-- The lesser of two coordinates. -/
def lesser (a b : Coordinate) : Coordinate := if a.val ≤ b.val then a else b

/-- The greater of two coordinates. -/
def greater (a b : Coordinate) : Coordinate := if a.val ≤ b.val then b else a

/-- The area of the intersection of two rectangles, zero when they are disjoint. -/
def sharedArea? (r s : Rect) : Checked Int := do
  let w ← (lesser r.right s.right).minus? (greater r.left s.left)
  let h ← (lesser r.bottom s.bottom).minus? (greater r.top s.top)
  if w.val ≤ 0 ∨ h.val ≤ 0 then return 0 else within64 (w.val * h.val)

/-! ### Distances -/

/-- The middle between two edges; half their difference is rounded toward zero. -/
def middle? (low high : Coordinate) : Checked Int := do
  let extent ← high.minus? low
  within64 (low.val + extent.val.tdiv 2)

/-- The distance from a position to the positions `low, …, high - 1`. -/
def axisDistance? (at_ low high : Int) : Checked Int :=
  if at_ < low then within64 (low - at_)
  else if high ≤ at_ then do
    let beyond ← within64 (at_ - high)
    within64 (beyond + 1)
  else some 0

/-- The squared distance from the centre of `r` to the closest point of `s`. -/
def squaredDistanceTo? (r s : Rect) : Checked Int := do
  let x ← middle? r.left r.right
  let y ← middle? r.top r.bottom
  let dx ← axisDistance? x s.left.val s.right.val
  let dy ← axisDistance? y s.top.val s.bottom.val
  let dx2 ← within64 (dx * dx)
  let dy2 ← within64 (dy * dy)
  within64 (dx2 + dy2)

/-! ### Documents -/

/-- The fields of a rectangle in a document. -/
def schema : Json.Schema (Coordinate × Coordinate × Coordinate × Coordinate × Unit) :=
  .required "left" .coordinate <| .required "top" .coordinate <|
  .required "right" .coordinate <| .required "bottom" .coordinate .done

/-- Reads a rectangle out of a document. -/
def decode : Json.Decoder Rect := fun v => do
  let (left, top, right, bottom, ()) ← schema.record "Rect" v
  return ⟨left, top, right, bottom⟩

/-- A rectangle as a document. -/
def toJson (r : Rect) : Json :=
  .obj [("left", .int r.left.val), ("top", .int r.top.val), ("right", .int r.right.val),
    ("bottom", .int r.bottom.val)]

end Rect

end DeskPlan
