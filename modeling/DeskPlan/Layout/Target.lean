import DeskPlan.Blueprint.Basic
import DeskPlan.Script.Interpreter

/-!
# `DeskPlan.Layout.Target`: where a rule puts a window

The box of a window is computed in a fixed order: extent, then the centred position, then the
explicit position. What a rule leaves open keeps its current value, and an explicit position
wins over centring. `targetFor?` does this with the scripts bound to the target monitor, which is
measured before any formula is evaluated.
-/

set_option autoImplicit false

namespace DeskPlan

open Script (Context ScriptFailure)

/-- Where a window goes and in which state. -/
structure Target where
  rect : Rect
  state : ShowState
deriving DecidableEq, Repr

/-- A computation that evaluates formulas one after another. -/
abbrev Formulas (α : Type) := ExceptT ScriptFailure (StateM Context) α

namespace BoxField

/-- What the formula of a field is called in messages. -/
def formulaName (f : BoxField) : String := f.name ++ " expression"

end BoxField

namespace Layout

/-- A number that is no coordinate. -/
def outOfRange (what value : String) : ScriptFailure := ⟨what, .outOfRange value⟩

/-- An integer as a coordinate. -/
def coordinate (what : String) (n : Int) : Except ScriptFailure Coordinate :=
  match Ranged.ofInt? n with
  | some c => .ok c
  | none => .error (outOfRange what (toString n))

/-- The leading edge that centres `size` within `extent` starting at `start`. -/
def centred (field : BoxField) (start extent size : Coordinate) :
    Except ScriptFailure Coordinate :=
  let refused : Except ScriptFailure Coordinate :=
    .error (outOfRange field.formulaName (toString size.val))
  match (Ranged.ofInt? (extent.val - size.val) : Option Coordinate) with
  | none => refused
  -- The free space is negative for a box that is too large; halving cuts toward zero.
  | some free =>
    match Ranged.ofInt? (start.val + free.val.tdiv 2) with
    | some edge => .ok edge
    | none => refused

/-- The value of a formula, or the current value if there is none. -/
def field (f : BoxField) (formula : Option String) (current : Coordinate) :
    Formulas Coordinate :=
  match formula with
  | some source => fun c => c.evalCoordinate f.formulaName source
  | none => return current

/-- The rectangle a rule asks for on a screen, starting from the current one. -/
def rect (current : Rect) (spec : TargetBox) (screen : Box) : Formulas Rect := do
  -- Two edges that are coordinates can be further apart than a coordinate reaches.
  let width ← liftM (coordinate "current width" (current.right.val - current.left.val))
  let height ← liftM (coordinate "current height" (current.bottom.val - current.top.val))
  let width ← field .width spec.width width
  let height ← field .height spec.height height
  -- The centred position depends on the extent, so the extent comes first.
  let left ← if spec.center then liftM (centred .width screen.left screen.width width)
    else pure current.left
  let top ← if spec.center then liftM (centred .height screen.top screen.height height)
    else pure current.top
  -- An explicit position replaces the centred one.
  let left ← field .posX spec.posX left
  let top ← field .posY spec.posY top
  match Rect.ofOriginSize? left top width height with
  | some rect => return rect
  | none => throw (outOfRange "target rect"
      s!"{width.val}x{height.val} at ({left.val}, {top.val})")

end Layout

/-- Where a rule puts a window on a screen, with scripts that see the numbers of the monitor. -/
def targetOn (current : Rect) (rule : Rule) (constants : Script.MonitorConstants) (screen : Box) :
    Formulas Target := do
  modify fun c => c.bind constants
  let rect ← Layout.rect current rule.targetBox screen
  return ⟨rect, rule.targetState⟩

/-- Where a rule puts a window on a monitor, starting from the current rectangle. -/
def targetFor? (current : Rect) (rule : Rule) (monitor : Monitor) :
    Checked (Formulas Target) := do
  let constants ← Script.MonitorConstants.of? monitor
  let screen ← monitor.monitorRect.box?
  return targetOn current rule constants screen

end DeskPlan
