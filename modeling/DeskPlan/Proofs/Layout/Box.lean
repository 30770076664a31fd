import DeskPlan.Proofs.Geometry.Rect
import DeskPlan.Proofs.Layout.Target
import DeskPlan.Proofs.Monitor.Location

/-!
# `DeskPlan.Proofs.Layout.Box`: the box a rule asks for

A box is computed in two phases. `Layout.extent` evaluates width and height, and `Layout.placed`
puts a box of that extent somewhere: in the middle of the monitor or where the window is, unless
a formula says otherwise.

What is computed is stated over the integers. `Gives` says what a formula or its absence gives,
`ExtentOf` and `CornerOf` put two of these in a row, and `CentringFits` is the range of the
arithmetic between them. `BoxOf` collects them: the box, and everything that has to be in range.

* `centred_eq_ok_iff`, `field_eq_ok_iff`, `extent_eq_ok_iff`, `rect_eq_ok_iff`: each computation
  succeeds exactly when its relation holds;
* `centredEdge_near`: a centred box has its middle within half a pixel of that of the monitor;
* `targetOn_eq_ok_iff` is the outcome for a rule, and `target_exact` the main statement.
-/

set_option autoImplicit false

namespace DeskPlan

open Script (Context MonitorConstants ScriptFailure)

variable {α β : Type}

/-! ### Running formulas in a row -/

namespace Formulas

/-- A sequence goes on with the answer of its first step, in the context after it. -/
theorem run_bind (x : Formulas α) (f : α → Formulas β) (c : Context) :
    (x >>= f).run c = match x.run c with
      | (.ok a, c') => (f a).run c'
      | (.error e, c') => (.error e, c') := by
  change ExceptT.bindCont f (x.run c).1 (x.run c).2 = _
  rcases x.run c with ⟨answer, c'⟩
  cases answer <;> rfl

/-- A sequence succeeds exactly when its steps do, each in the context the step before leaves. -/
theorem run_bind_eq_ok_iff {x : Formulas α} {f : α → Formulas β} {b : β} {c c' : Context} :
    (x >>= f).run c = (.ok b, c') ↔
      ∃ a c₁, x.run c = (.ok a, c₁) ∧ (f a).run c₁ = (.ok b, c') := by
  rw [run_bind]
  constructor
  · intro h
    rcases hrun : x.run c with ⟨answer, c₁⟩
    rw [hrun] at h
    cases answer with
    | ok a => exact ⟨a, c₁, rfl, h⟩
    | error e => cases h
  · rintro ⟨a, c₁, hrun, h⟩
    rw [hrun]
    exact h

/-- A computation without scripts has its result, and leaves the context alone. -/
theorem run_lift_eq_ok_iff {x : Except ScriptFailure α} {a : α} {c c' : Context} :
    (liftM x : Formulas α).run c = (.ok a, c') ↔ x = .ok a ∧ c' = c := by
  cases x with
  | ok b =>
    show ((.ok b, c) : Except ScriptFailure α × Context) = (.ok a, c') ↔ _
    simp [eq_comm]
  | error e =>
    show ((.error e, c) : Except ScriptFailure α × Context) = (.ok a, c') ↔ _
    simp

theorem run_pure_eq_ok_iff {a b : α} {c c' : Context} :
    (pure b : Formulas α).run c = (.ok a, c') ↔ b = a ∧ c' = c := by
  show ((.ok b, c) : Except ScriptFailure α × Context) = (.ok a, c') ↔ _
  simp [eq_comm]

/-- A run that has no answer has an error. -/
theorem exists_error_iff {x : Formulas α} {c : Context} :
    (∃ e c', x.run c = (.error e, c')) ↔ ¬ ∃ a c', x.run c = (.ok a, c') := by
  rcases hrun : x.run c with ⟨answer, c'⟩
  cases answer with
  | ok a =>
    constructor
    · rintro ⟨e, c₁, h⟩
      cases h
    · exact fun h => absurd ⟨a, c', rfl⟩ h
  | error e =>
    constructor
    · rintro - ⟨a, c₁, h⟩
      cases h
    · exact fun _ => ⟨e, c', rfl⟩

end Formulas

open Formulas

namespace Layout

/-! ### Numbers -/

/-- An integer is accepted as itself, if it is in range. -/
theorem coordinate_eq_ok_iff {what : String} {n : Int} {v : Coordinate} :
    coordinate what n = .ok v ↔ n = v.val := by
  rw [← Ranged.ofInt?_eq_some_iff, coordinate]
  cases (Ranged.ofInt? n : Option Coordinate) <;> simp

/-- The leading edge that centres `size` within `extent` from `start` on; half of the free space
is cut toward zero. -/
def centredEdge (start extent size : Int) : Int := start + (extent - size).tdiv 2

/-- Centring stays in range: the free space and the edge are coordinates. -/
structure CentringFits (start extent size : Int) : Prop where
  free : IsCoordinate (extent - size)
  edge : IsCoordinate (centredEdge start extent size)

/-- Centring gives its edge exactly when it stays in range. -/
theorem centred_eq_ok_iff {f : BoxField} {start extent size edge : Coordinate} :
    centred f start extent size = .ok edge ↔
      CentringFits start.val extent.val size.val ∧
        edge.val = centredEdge start.val extent.val size.val := by
  unfold centred
  dsimp only
  cases hfree : (Ranged.ofInt? (extent.val - size.val) : Option Coordinate) with
  | none =>
    simp only [reduceCtorEq, false_iff]
    rintro ⟨hfits, -⟩
    exact Ranged.ofInt?_eq_none_iff.1 hfree hfits.free
  | some free =>
    have hval := Ranged.ofInt?_eq_some_iff.1 hfree
    dsimp only
    rw [← hval, show start.val + (extent.val - size.val).tdiv 2 =
      centredEdge start.val extent.val size.val from rfl]
    cases hedge : (Ranged.ofInt? (centredEdge start.val extent.val size.val) :
        Option Coordinate) with
    | none =>
      simp only [reduceCtorEq, false_iff]
      rintro ⟨hfits, -⟩
      exact Ranged.ofInt?_eq_none_iff.1 hedge hfits.edge
    | some e =>
      have he := Ranged.ofInt?_eq_some_iff.1 hedge
      simp only [Except.ok.injEq]
      constructor
      · rintro rfl
        exact ⟨⟨hval ▸ Coordinate.isCoordinate_val free,
          he ▸ Coordinate.isCoordinate_val e⟩, he.symm⟩
      · rintro ⟨-, h⟩
        exact Ranged.ext_val (he.symm.trans h.symm)

/-- A centred box has its middle within half a pixel of the middle of what it is centred in, also
when it is larger or turned over. -/
theorem centredEdge_near (start extent size : Int) :
    ((2 * centredEdge start extent size + size) - (2 * start + extent)).natAbs ≤ 1 := by
  have hhalf : 2 * (extent - size).tdiv 2 + (extent - size).tmod 2 = extent - size :=
    Int.mul_tdiv_add_tmod _ _
  have hrest := Int.tmod_two_eq (extent - size)
  unfold centredEdge
  omega

/-! ### Formulas -/

/-- What a formula gives when it is evaluated in `c` and leaves `c'`: its value, or the number that
stands in where there is no formula. -/
def Gives (f : BoxField) (formula : Option String) (otherwise : Int) (c : Context) (n : Int)
    (c' : Context) : Prop :=
  match formula with
  | some source =>
    ∃ v : Coordinate, c.evalCoordinate f.formulaName source = (.ok v, c') ∧ v.val = n
  | none => n = otherwise ∧ c' = c

/-- Only coordinates are given, if what stands in is one. -/
theorem Gives.isCoordinate {f : BoxField} {formula : Option String} {otherwise n : Int}
    {c c' : Context} (h : Gives f formula otherwise c n c') (hother : IsCoordinate otherwise) :
    IsCoordinate n := by
  cases formula with
  | some source =>
    obtain ⟨v, -, rfl⟩ := h
    exact Coordinate.isCoordinate_val v
  | none => exact h.1 ▸ hother

/-- A number is computed exactly as its formula gives it. -/
theorem field_eq_ok_iff {f : BoxField} {formula : Option String} {current v : Coordinate}
    {c c' : Context} :
    (field f formula current).run c = (.ok v, c') ↔ Gives f formula current.val c v.val c' := by
  cases formula with
  | some source =>
    constructor
    · exact fun h => ⟨v, h, rfl⟩
    · rintro ⟨u, h, hval⟩
      rw [← Ranged.ext_val hval]
      exact h
  | none =>
    show (pure current : Formulas Coordinate).run c = _ ↔ _
    rw [run_pure_eq_ok_iff]
    constructor
    · rintro ⟨rfl, rfl⟩
      exact ⟨rfl, rfl⟩
    · rintro ⟨hval, rfl⟩
      exact ⟨Ranged.ext_val hval.symm, rfl⟩

/-! ### The extent -/

/-- The extent a box gets: width and then height, evaluated from `c` on. -/
def extent (current : Rect) (spec : TargetBox) : Formulas (Coordinate × Coordinate) := do
  let width ← liftM (coordinate "current width" (current.right.val - current.left.val))
  let height ← liftM (coordinate "current height" (current.bottom.val - current.top.val))
  let width ← field .width spec.width width
  let height ← field .height spec.height height
  return (width, height)

/-- The extent of a box is `w` by `h`: the current extents are in range, and the formulas or the
current extents give these numbers. -/
structure ExtentOf (current : Rect) (spec : TargetBox) (c : Context) (w h : Int)
    (c' : Context) : Prop where
  width : IsCoordinate (current.right.val - current.left.val)
  height : IsCoordinate (current.bottom.val - current.top.val)
  gives : ∃ c₁, Gives .width spec.width (current.right.val - current.left.val) c w c₁ ∧
    Gives .height spec.height (current.bottom.val - current.top.val) c₁ h c'

theorem ExtentOf.isCoordinate {current : Rect} {spec : TargetBox} {c c' : Context} {w h : Int}
    (he : ExtentOf current spec c w h c') : IsCoordinate w ∧ IsCoordinate h := by
  obtain ⟨c₁, hw, hh⟩ := he.gives
  exact ⟨hw.isCoordinate he.width, hh.isCoordinate he.height⟩

/-- The extent is computed exactly when there is one. -/
theorem extent_eq_ok_iff {current : Rect} {spec : TargetBox} {c c' : Context}
    {e : Coordinate × Coordinate} :
    (extent current spec).run c = (.ok e, c') ↔
      ExtentOf current spec c e.1.val e.2.val c' := by
  unfold extent
  simp only [run_bind_eq_ok_iff, run_lift_eq_ok_iff, coordinate_eq_ok_iff, field_eq_ok_iff,
    run_pure_eq_ok_iff]
  constructor
  · rintro ⟨width, c₁, ⟨hwidth, rfl⟩, height, c₂, ⟨hheight, rfl⟩, w, c₃, hw, h, c₄, hh, rfl, rfl⟩
    exact ⟨hwidth ▸ Coordinate.isCoordinate_val width, hheight ▸ Coordinate.isCoordinate_val height,
      c₃, hwidth ▸ hw, hheight ▸ hh⟩
  · rintro ⟨hwidth, hheight, c₁, hw, hh⟩
    exact ⟨⟨_, hwidth.1, hwidth.2⟩, c, ⟨rfl, rfl⟩, ⟨_, hheight.1, hheight.2⟩, c, ⟨rfl, rfl⟩,
      e.1, c₁, hw, e.2, c', hh, rfl, rfl⟩

/-! ### The position -/

/-- The edge of a box that no formula moves: the centred one or the current one. -/
def startEdge (center : Bool) (start extent size current : Int) : Int :=
  if center then centredEdge start extent size else current

/-- The edge of a box that no formula moves is a coordinate: a centred one because it fits. -/
theorem isCoordinate_startEdge (current : Coordinate) {center : Bool} {start extent size : Int}
    (h : center = true → CentringFits start extent size) :
    IsCoordinate (startEdge center start extent size current.val) := by
  unfold startEdge
  split
  · exact (h ‹_›).edge
  · exact Coordinate.isCoordinate_val current

/-- The default edge is computed exactly when centring, if asked for, stays in range. -/
theorem defaultEdge_eq_ok_iff {center : Bool} {f : BoxField}
    {start extent size current edge : Coordinate} {c c' : Context} :
    (defaultEdge center f start extent size current).run c = (.ok edge, c') ↔
      ((center = true → CentringFits start.val extent.val size.val) ∧
        edge.val = startEdge center start.val extent.val size.val current.val) ∧ c' = c := by
  cases center with
  | true =>
    show (liftM (centred f start extent size) : Formulas Coordinate).run c = _ ↔ _
    rw [run_lift_eq_ok_iff, centred_eq_ok_iff]
    simp [startEdge]
  | false =>
    show (pure current : Formulas Coordinate).run c = _ ↔ _
    rw [run_pure_eq_ok_iff]
    simp only [false_implies, true_and, startEdge, Bool.false_eq_true, if_false]
    exact and_congr_left fun _ => ⟨fun h => h ▸ rfl, fun h => Ranged.ext_val h.symm⟩

/-- Puts a box of the given extent where the rule asks for it. -/
def placed (current : Rect) (spec : TargetBox) (screen : Box) (width height : Coordinate) :
    Formulas Rect := do
  let left ← defaultEdge spec.center .width screen.left screen.width width current.left
  let top ← defaultEdge spec.center .height screen.top screen.height height current.top
  let left ← field .posX spec.posX left
  let top ← field .posY spec.posY top
  match Rect.ofOriginSize? left top width height with
  | some rect => return rect
  | none => throw (outOfRange "target rect"
      s!"{width.val}x{height.val} at ({left.val}, {top.val})")

/-- A box is an extent that is put somewhere. -/
theorem rect_eq_placed (current : Rect) (spec : TargetBox) (screen : Box) :
    rect current spec screen =
      extent current spec >>= fun e => placed current spec screen e.1 e.2 := by
  rw [rect_eq, extent]
  simp only [bind_assoc, pure_bind]
  rfl

/-- The corner of a box of the given extent is at `x` and `y`: formulas give these numbers, or the
default edges do. -/
def CornerOf (current : Rect) (spec : TargetBox) (monitor : Rect) (w h : Int) (c : Context)
    (x y : Int) (c' : Context) : Prop :=
  ∃ c₁, Gives .posX spec.posX (startEdge spec.center monitor.left.val
      (monitor.right.val - monitor.left.val) w current.left.val) c x c₁ ∧
    Gives .posY spec.posY (startEdge spec.center monitor.top.val
      (monitor.bottom.val - monitor.top.val) h current.top.val) c₁ y c'

/-- A box of this extent can be centred on the monitor, on both axes. -/
def Centrable (monitor : Rect) (w h : Int) : Prop :=
  CentringFits monitor.left.val (monitor.right.val - monitor.left.val) w ∧
    CentringFits monitor.top.val (monitor.bottom.val - monitor.top.val) h

/-- The corner and the extent that are measured are those over the integers. -/
theorem measures_of_box? {monitor : Rect} {screen : Box} (h : monitor.box? = some screen) :
    (screen.left.val = monitor.left.val ∧ screen.top.val = monitor.top.val) ∧
      screen.width.val = monitor.right.val - monitor.left.val ∧
      screen.height.val = monitor.bottom.val - monitor.top.val := by
  obtain ⟨hleft, htop, hright, hbottom⟩ := Rect.box?_eq_some_iff.1 h
  omega

section
variable {current : Rect} {spec : TargetBox} {monitor : Rect} {screen : Box}
  (hscreen : monitor.box? = some screen)
include hscreen

/-- A box of a given extent is put somewhere exactly when it has a corner and ends in range. -/
theorem placed_eq_ok_iff {width height : Coordinate} {c c' : Context} {r : Rect} :
    (placed current spec screen width height).run c = (.ok r, c') ↔
      (spec.center = true → Centrable monitor width.val height.val) ∧
        ∃ x y, CornerOf current spec monitor width.val height.val c x y c' ∧
          r.HasBox x y width.val height.val := by
  obtain ⟨⟨hstartX, hstartY⟩, hextentX, hextentY⟩ := measures_of_box? hscreen
  unfold placed
  simp only [run_bind_eq_ok_iff, defaultEdge_eq_ok_iff, field_eq_ok_iff, hstartX, hstartY, hextentX,
    hextentY]
  constructor
  · rintro ⟨left, c₁, ⟨⟨hfitsX, hleft⟩, rfl⟩, top, c₂, ⟨⟨hfitsY, htop⟩, rfl⟩, x, c₃, hx, y, c₄, hy,
      hrect⟩
    refine ⟨fun hcenter => ⟨hfitsX hcenter, hfitsY hcenter⟩, x.val, y.val, ?_⟩
    cases hmade : Rect.ofOriginSize? x y width height with
    | none =>
      rw [hmade] at hrect
      cases hrect
    | some made =>
      rw [hmade] at hrect
      obtain ⟨rfl, rfl⟩ := run_pure_eq_ok_iff.1 hrect
      exact ⟨⟨c₃, hleft ▸ hx, htop ▸ hy⟩, Rect.ofOriginSize?_eq_some_iff.1 hmade⟩
  · rintro ⟨hfits, x, y, ⟨c₁, hx, hy⟩, hbox⟩
    have hfitsX := fun hcenter => (hfits hcenter).1
    have hfitsY := fun hcenter => (hfits hcenter).2
    have hleft := isCoordinate_startEdge current.left hfitsX
    have htop := isCoordinate_startEdge current.top hfitsY
    obtain rfl : r.left.val = x := hbox.left
    obtain rfl : r.top.val = y := hbox.top
    refine ⟨⟨_, hleft.1, hleft.2⟩, c, ⟨⟨hfitsX, rfl⟩, rfl⟩, ⟨_, htop.1, htop.2⟩, c,
      ⟨⟨hfitsY, rfl⟩, rfl⟩, r.left, c₁, hx, r.top, c', hy, ?_⟩
    rw [Rect.ofOriginSize?_eq_some_iff.2 hbox]
    rfl

end

/-! ### The box -/

/-- The box that a rule asks for, evaluated from `c` on, is `w` by `h` at `x` and `y`:

- `computed`: there is an extent, and after it there is a corner;
- `centrable`: centring, if it is asked for, stays in range, even where a formula replaces it;
- `right` and `bottom`: the far edges are in range. -/
structure BoxOf (current : Rect) (spec : TargetBox) (monitor : Rect) (c : Context)
    (x y w h : Int) (c' : Context) : Prop where
  computed : ∃ c₁, ExtentOf current spec c w h c₁ ∧
    CornerOf current spec monitor w h c₁ x y c'
  centrable : spec.center = true → Centrable monitor w h
  right : IsCoordinate (x + w)
  bottom : IsCoordinate (y + h)

section
variable {current : Rect} {spec : TargetBox} {monitor : Rect}

/-- The corner of a box is at coordinates. -/
theorem BoxOf.isCoordinate {c c' : Context} {x y w h : Int}
    (hbox : BoxOf current spec monitor c x y w h c') : IsCoordinate x ∧ IsCoordinate y := by
  obtain ⟨c₁, -, c₂, hx, hy⟩ := hbox.computed
  exact ⟨hx.isCoordinate (isCoordinate_startEdge _ fun hcenter => (hbox.centrable hcenter).1),
    hy.isCoordinate (isCoordinate_startEdge _ fun hcenter => (hbox.centrable hcenter).2)⟩

/-- A box is computed exactly when there is one, and it is this one. -/
theorem rect_eq_ok_iff {screen : Box} (hscreen : monitor.box? = some screen) {c c' : Context}
    {r : Rect} :
    (rect current spec screen).run c = (.ok r, c') ↔
      ∃ x y w h, BoxOf current spec monitor c x y w h c' ∧ r.HasBox x y w h := by
  rw [rect_eq_placed]
  simp only [run_bind_eq_ok_iff, extent_eq_ok_iff, placed_eq_ok_iff hscreen]
  constructor
  · rintro ⟨⟨w, h⟩, c₁, hextent, hcentrable, x, y, hcorner, hbox⟩
    exact ⟨x, y, w.val, h.val, ⟨⟨c₁, hextent, hcorner⟩, hcentrable,
      hbox.right ▸ Coordinate.isCoordinate_val _,
      hbox.bottom ▸ Coordinate.isCoordinate_val _⟩, hbox⟩
  · rintro ⟨x, y, w, h, ⟨⟨c₁, hextent, hcorner⟩, hcentrable, -, -⟩, hbox⟩
    obtain ⟨hw, hh⟩ := hextent.isCoordinate
    exact ⟨(⟨w, hw.1, hw.2⟩, ⟨h, hh.1, hh.2⟩), c₁, hextent, hcentrable, x, y, hcorner, hbox⟩

end

end Layout

/-! ### The target of a rule -/

open Layout

/-- The numbers of a monitor that formulas refer to, over the integers. -/
def trueConstants (m : Monitor) : MonitorConstants :=
  ⟨m.dpiX.val, m.dpiY.val, m.monitorRect.right.val - m.monitorRect.left.val,
    m.monitorRect.bottom.val - m.monitorRect.top.val,
    m.workAreaRect.right.val - m.workAreaRect.left.val,
    m.workAreaRect.bottom.val - m.workAreaRect.top.val⟩

/-- Formulas see the true numbers of a monitor. -/
theorem eq_trueConstants {m : Monitor} {constants : MonitorConstants}
    (h : MonitorConstants.of? m = some constants) : constants = trueConstants m := by
  obtain ⟨screen, hscreen, h⟩ := Option.bind_eq_some_iff.1 h
  obtain ⟨workArea, hwork, h⟩ := Option.bind_eq_some_iff.1 h
  obtain ⟨-, hwidth, hheight⟩ := measures_of_box? hscreen
  obtain ⟨-, hworkWidth, hworkHeight⟩ := measures_of_box? hwork
  rw [← Option.some.inj h, trueConstants, hwidth, hheight, hworkWidth, hworkHeight]

/-- They see those of a monitor that can be measured with its work area. -/
theorem of?_eq_trueConstants {m : Monitor} (hmonitor : m.monitorRect.Measurable)
    (hwork : m.workAreaRect.Measurable) : MonitorConstants.of? m = some (trueConstants m) := by
  obtain ⟨screen, hscreen⟩ := Rect.measurable_iff.1 hmonitor
  obtain ⟨workArea, hworkArea⟩ := Rect.measurable_iff.1 hwork
  have hsome : ∃ constants, MonitorConstants.of? m = some constants := by
    unfold MonitorConstants.of?
    rw [hscreen, hworkArea]
    exact ⟨_, rfl⟩
  obtain ⟨constants, hconstants⟩ := hsome
  rw [hconstants, eq_trueConstants hconstants]

/-- On a monitor that can be measured, a target is computed with its true numbers. -/
theorem targetFor?_of_measurable (current : Rect) (rule : Rule) {monitor : Monitor}
    (hmonitor : monitor.monitorRect.Measurable) (hwork : monitor.workAreaRect.Measurable) :
    ∃ screen, monitor.monitorRect.box? = some screen ∧
      targetFor? current rule monitor =
        some (targetOn current rule (trueConstants monitor) screen) := by
  obtain ⟨screen, hscreen⟩ := Rect.measurable_iff.1 hmonitor
  exact ⟨screen, hscreen, targetFor?_eq_some_iff.2
    ⟨_, screen, of?_eq_trueConstants hmonitor hwork, hscreen, rfl⟩⟩

/-- The target of a rule is the box it asks for, with its state, computed in the context that is
bound to the monitor. -/
theorem run_targetOn (current : Rect) (rule : Rule) (constants : MonitorConstants) (screen : Box)
    (c : Context) :
    (targetOn current rule constants screen).run c =
      (Layout.rect current rule.targetBox screen >>= fun rect =>
        (pure ⟨rect, rule.targetState⟩ : Formulas Target)).run (c.bind constants) := by
  rw [targetOn, run_bind]
  rfl

section
variable {current : Rect} {rule : Rule} {monitor : Rect} {constants : MonitorConstants}
  {screen : Box} (hscreen : monitor.box? = some screen)
include hscreen

/-- A target is computed exactly when there is a box, and has this box and the state of the
rule. -/
theorem targetOn_eq_ok_iff {c c' : Context} {target : Target} :
    (targetOn current rule constants screen).run c = (.ok target, c') ↔
      target.state = rule.targetState ∧ ∃ x y w h,
        BoxOf current rule.targetBox monitor (c.bind constants) x y w h c' ∧
          target.rect.HasBox x y w h := by
  rw [run_targetOn]
  simp only [run_bind_eq_ok_iff, run_pure_eq_ok_iff, rect_eq_ok_iff hscreen]
  constructor
  · rintro ⟨rect, c₁, hbox, rfl, rfl⟩
    exact ⟨rfl, hbox⟩
  · rintro ⟨hstate, hbox⟩
    exact ⟨target.rect, c', hbox, by rw [← hstate], rfl⟩

/-- Where there is a box, a target with this box is computed. -/
theorem targetOn_of_box {c c' : Context} {x y w h : Int}
    (hbox : BoxOf current rule.targetBox monitor (c.bind constants) x y w h c') :
    ∃ target, (targetOn current rule constants screen).run c = (.ok target, c') ∧
      target.state = rule.targetState ∧ target.rect.HasBox x y w h := by
  obtain ⟨hx, hy⟩ := hbox.isCoordinate
  let rect : Rect := ⟨⟨x, hx.1, hx.2⟩, ⟨y, hy.1, hy.2⟩, ⟨x + w, hbox.right.1, hbox.right.2⟩,
    ⟨y + h, hbox.bottom.1, hbox.bottom.2⟩⟩
  have hrect : rect.HasBox x y w h := ⟨rfl, rfl, rfl, rfl⟩
  exact ⟨⟨rect, rule.targetState⟩,
    (targetOn_eq_ok_iff hscreen).2 ⟨rfl, x, y, w, h, hbox, hrect⟩, rfl, hrect⟩

end

/-- Computing the target of a rule on a monitor that can be measured, with its work area, comes to
an end:

* it succeeds exactly when there is a box, and fails in every other case;
* where there is a box of `w` by `h` at `x` and `y`, the target has this corner, ends at `x + w` and
  `y + h`, measures `w` by `h` and has the state of the rule. On an axis that is centred its middle
  is within half a pixel of the middle of the monitor;
* the arithmetic on the way is exact: formulas and centring see the true extents of the monitor and
  of its work area, and half of a coordinate is a coordinate. All other arithmetic is refused where
  it would leave the range. -/
theorem target_exact (current : Rect) (rule : Rule) {monitor : Monitor}
    (hmonitor : monitor.monitorRect.Measurable) (hwork : monitor.workAreaRect.Measurable)
    (c : Context) :
    ∃ formulas, targetFor? current rule monitor = some formulas ∧
    let run := formulas.run c
    let IsBox := BoxOf current rule.targetBox monitor.monitorRect (c.bind (trueConstants monitor))
    ((∃ target c', run = (.ok target, c')) ↔ ∃ x y w h c', IsBox x y w h c') ∧
    ((∃ e c', run = (.error e, c')) ↔ ¬ ∃ x y w h c', IsBox x y w h c') ∧
    (∀ x y w h c', IsBox x y w h c' →
      ∃ target, run = (.ok target, c') ∧ target.state = rule.targetState ∧
        target.rect.HasBox x y w h ∧
        (∃ b, target.rect.box? = some b ∧ b.width.val = w ∧ b.height.val = h) ∧
        (rule.targetBox.center = true →
          (rule.targetBox.posX = none → ((2 * x + w) -
            (monitor.monitorRect.left.val + monitor.monitorRect.right.val)).natAbs ≤ 1) ∧
          (rule.targetBox.posY = none → ((2 * y + h) -
            (monitor.monitorRect.top.val + monitor.monitorRect.bottom.val)).natAbs ≤ 1))) ∧
    MonitorConstants.of? monitor = some (trueConstants monitor) ∧
    ∀ free : Coordinate, IsCoordinate (free.val.tdiv 2) := by
  obtain ⟨screen, hscreen, hformulas⟩ := targetFor?_of_measurable current rule hmonitor hwork
  refine ⟨_, hformulas, ?_⟩
  intro run IsBox
  have hok : (∃ target c', run = (.ok target, c')) ↔ ∃ x y w h c', IsBox x y w h c' := by
    constructor
    · rintro ⟨target, c', hrun⟩
      obtain ⟨-, x, y, w, h, hbox, -⟩ := (targetOn_eq_ok_iff hscreen).1 hrun
      exact ⟨x, y, w, h, c', hbox⟩
    · rintro ⟨x, y, w, h, c', hbox⟩
      obtain ⟨target, hrun, -⟩ := targetOn_of_box hscreen hbox
      exact ⟨target, c', hrun⟩
  refine ⟨hok, exists_error_iff.trans (not_congr hok), ?_, of?_eq_trueConstants hmonitor hwork, ?_⟩
  · intro x y w h c' hbox
    obtain ⟨target, hrun, hstate, hrect⟩ := targetOn_of_box hscreen hbox
    obtain ⟨c₁, hextent, c₂, hx, hy⟩ := hbox.computed
    obtain ⟨hw, hh⟩ := hextent.isCoordinate
    have hmeasured : target.rect.box? = some ⟨target.rect.left, target.rect.top, ⟨w, hw.1, hw.2⟩,
        ⟨h, hh.1, hh.2⟩⟩ := Rect.box?_eq_some_iff.2 (by rw [hrect.left, hrect.top]; exact hrect)
    refine ⟨target, hrun, hstate, hrect, ⟨_, hmeasured, rfl, rfl⟩, fun hcenter => ⟨?_, ?_⟩⟩
    · intro hnone
      rw [hnone] at hx
      have hedge : x = _ := hx.1
      have hnear := centredEdge_near monitor.monitorRect.left.val
        (monitor.monitorRect.right.val - monitor.monitorRect.left.val) w
      rw [startEdge, if_pos hcenter] at hedge
      rw [← hedge] at hnear
      omega
    · intro hnone
      rw [hnone] at hy
      have hedge : y = _ := hy.1
      have hnear := centredEdge_near monitor.monitorRect.top.val
        (monitor.monitorRect.bottom.val - monitor.monitorRect.top.val) h
      rw [startEdge, if_pos hcenter] at hedge
      rw [← hedge] at hnear
      omega
  · intro free
    have hlow := free.lo_le
    have hhigh := free.le_hi
    have hhalf : 2 * free.val.tdiv 2 + free.val.tmod 2 = free.val := Int.mul_tdiv_add_tmod _ _
    have hrest := Int.tmod_two_eq free.val
    unfold IsCoordinate
    omega

/-- A rule that centres a window twice as wide as its monitor, at a height of its own. -/
def wideRule : Rule where
  targetBox := { posY := some "10", width := some "2 * monitorWidth + 1", center := true }

/-- A window of 100 by 200 pixels. -/
def smallBox : Rect := ⟨.zero, .zero, .of 100, .of 200⟩

/-- How computing a target ends in a context that has run no script, if it does. -/
def resultOf (formulas : Checked (Formulas Target)) : Option Target :=
  formulas.bind fun f => (f.run (Context.new [])).1.toOption

/-- On a screen left of the origin the wide window sticks out on both sides. The free space of
-1921 pixels is halved toward zero. -/
theorem target_of_wideRule :
    leftScreen.monitorRect.Measurable ∧ leftScreen.workAreaRect.Measurable ∧
    ∃ formulas target c', targetFor? smallBox wideRule leftScreen = some formulas ∧
      formulas.run (Context.new []) = (.ok target, c') ∧
      BoxOf smallBox wideRule.targetBox leftScreen.monitorRect
        ((Context.new []).bind (trueConstants leftScreen)) (-2880) 10 3841 200 c' ∧
      target.rect.HasBox (-2880) 10 3841 200 := by
  have hmonitor : leftScreen.monitorRect.Measurable := by decide
  have hwork : leftScreen.workAreaRect.Measurable := by decide
  obtain ⟨formulas, hformulas, hok, -, hbox, -, -⟩ :=
    target_exact smallBox wideRule hmonitor hwork (Context.new [])
  have hran : resultOf (targetFor? smallBox wideRule leftScreen) =
      some ⟨⟨.of (-2880), .of 10, .of 961, .of 210⟩, .restored⟩ := by decide +kernel
  rw [hformulas, resultOf, Option.bind_some] at hran
  rcases hrun : formulas.run (Context.new []) with ⟨answer, c'⟩
  rw [hrun] at hran
  cases answer with
  | error e => cases hran
  | ok target =>
    obtain ⟨x, y, w, h, c'', his⟩ := hok.1 ⟨target, c', hrun⟩
    obtain ⟨target', hrun', -, hrect, -⟩ := hbox x y w h c'' his
    obtain ⟨htarget, hcontext⟩ := Prod.mk.inj (hrun.symm.trans hrun')
    obtain rfl : target = target' := Except.ok.inj htarget
    -- The numbers of the box are read off the target.
    have htarget := Option.some.inj hran
    obtain ⟨hleft, htop, hright, hbottom⟩ := hrect
    rw [htarget] at hleft htop hright hbottom
    have hx : -2880 = x := hleft
    have hy : 10 = y := htop
    have hw : 3841 = w := by have h : (961 : Int) = x + w := hright; omega
    have hh : 200 = h := by have h' : (210 : Int) = y + h := hbottom; omega
    subst hx hy hw hh hcontext
    refine ⟨hmonitor, hwork, formulas, target, c', hformulas, hrun, his, ?_⟩
    rw [htarget]
    exact ⟨rfl, rfl, rfl, rfl⟩

end DeskPlan
