import DeskPlan.Geometry.Rect
import DeskPlan.NameMap

/-!
# `DeskPlan.Monitor.Basic`: live monitors and their fingerprints

A `Monitor` is a monitor as the host reports it. Its `Fingerprint` is the physical geometry and
resolution by which a blueprint recognises it: a monitor fits a fingerprint exactly when all
six numbers are equal. The extents are measured when they are looked at, so a monitor that is at
another place than the fingerprint says is told apart without being measured.
-/

set_option autoImplicit false

namespace DeskPlan

/-- A 64-bit handle as sixteen upper-case hexadecimal digits. -/
def handleText (h : Word64) : String :=
  let digits := (Nat.toDigits 16 h.val.toNat).map Char.toUpper
  String.ofList (List.replicate (16 - digits.length) '0' ++ digits)

/-- The geometry and resolution by which a monitor is recognised. -/
structure Fingerprint where
  x : Coordinate
  y : Coordinate
  width : Coordinate
  height : Coordinate
  dpiX : Word32
  dpiY : Word32
deriving DecidableEq, Repr

namespace Fingerprint

/-- The fingerprint in words. -/
def describe (f : Fingerprint) : String :=
  s!"{f.width.val}x{f.height.val} at ({f.x.val}, {f.y.val}), dpi {f.dpiX.val}x{f.dpiY.val}"

/-- The fields of a fingerprint in a document. -/
def schema : Json.Schema
    (Coordinate × Coordinate × Coordinate × Coordinate × Word32 × Word32 × Unit) :=
  .required "x" .coordinate <| .required "y" .coordinate <| .required "width" .coordinate <|
  .required "height" .coordinate <| .required "dpiX" .word32 <| .required "dpiY" .word32 .done

/-- Reads a fingerprint out of a document. -/
def decode : Json.Decoder Fingerprint := fun v => do
  let (x, y, width, height, dpiX, dpiY, ()) ← schema.record "MonitorMatcher" v
  return ⟨x, y, width, height, dpiX, dpiY⟩

/-- A fingerprint as a document. -/
def toJson (f : Fingerprint) : Json :=
  .obj [("x", .int f.x.val), ("y", .int f.y.val), ("width", .int f.width.val),
    ("height", .int f.height.val), ("dpiX", .int f.dpiX.val), ("dpiY", .int f.dpiY.val)]

end Fingerprint

/-- A monitor as the host reports it. The handle identifies it within one enumeration. -/
structure Monitor where
  handle : Word64
  name : String
  monitorRect : Rect
  workAreaRect : Rect
  dpiX : Word32
  dpiY : Word32
deriving DecidableEq, Repr

namespace Monitor

/-- The fingerprint of a monitor, as a blueprint would give it. -/
def fingerprint? (m : Monitor) : Checked Fingerprint := do
  let box ← m.monitorRect.box?
  return ⟨box.left, box.top, box.width, box.height, m.dpiX, m.dpiY⟩

/-- Whether the monitor has the fingerprint. The numbers are compared one after the other, up to the
first that differs. -/
def fits? (m : Monitor) (f : Fingerprint) : Checked Bool :=
  if m.monitorRect.left ≠ f.x ∨ m.monitorRect.top ≠ f.y then some false
  else do
    let width ← m.monitorRect.width?
    if width ≠ f.width then return false
    else
      let height ← m.monitorRect.height?
      return height = f.height ∧ m.dpiX = f.dpiX ∧ m.dpiY = f.dpiY

/-- The monitor in words. -/
def describe? (m : Monitor) : Checked String := do
  let box ← m.monitorRect.box?
  return s!"'{m.name}' (x: {box.left.val}, y: {box.top.val}, width: {box.width.val}, " ++
    s!"height: {box.height.val}, dpiX: {m.dpiX.val}, dpiY: {m.dpiY.val})"

/-- The monitor with the handle. -/
def withHandle (handle : Word64) (monitors : List Monitor) : Option Monitor :=
  monitors.find? fun m => m.handle = handle

/-- The fields of a monitor in a document. -/
def schema : Json.Schema (Word64 × String × Rect × Rect × Word32 × Word32 × Unit) :=
  .required "handle" .word64 <| .required "name" .string <|
  .required "monitorRect" Rect.decode <| .required "workAreaRect" Rect.decode <|
  .required "dpiX" .word32 <| .required "dpiY" .word32 .done

/-- Reads a monitor out of a document. -/
def decode : Json.Decoder Monitor := fun v => do
  let (handle, name, monitorRect, workAreaRect, dpiX, dpiY, ()) ← schema.record "LiveMonitor" v
  return ⟨handle, name, monitorRect, workAreaRect, dpiX, dpiY⟩

/-- A monitor as a document. -/
def toJson (m : Monitor) : Json :=
  .obj [("handle", .int m.handle.val), ("name", .str m.name),
    ("monitorRect", m.monitorRect.toJson), ("workAreaRect", m.workAreaRect.toJson),
    ("dpiX", .int m.dpiX.val), ("dpiY", .int m.dpiY.val)]

end Monitor

end DeskPlan
