import DeskPlan.Proofs.Layout.Box

/-!
# `DeskPlan.Proofs.Layout.FixedPoint`: a window that has been put somewhere stays there

A rule that is applied to a window a second time finds it where the first time left it. What the
rule leaves open it keeps, what it centres it centres again, and its formulas are evaluated anew.
Only these can move the window on.

So the numbers that formulas give are taken apart from what is done with them. `Layout.readings`
evaluates the formulas of a box in their order, and `Layout.Arranged` is the box that the numbers
make, from the current one and on a screen. No script is run for that.

* `rect_eq_ok_iff_arranged`: a box is computed exactly when its formulas have numbers and these make
  the box;
* `Arranged.again`: the same numbers make the same box out of the box itself;
* `targetFor_again` is the main statement.
-/

set_option autoImplicit false

namespace DeskPlan

open Script (Context MonitorConstants ScriptFailure)
open Formulas

namespace Layout

/-! ### The numbers of the formulas -/

/-- The numbers that the formulas of a box give, where there are formulas. -/
structure Readings where
  width : Option Coordinate
  height : Option Coordinate
  posX : Option Coordinate
  posY : Option Coordinate
deriving DecidableEq

/-- Evaluates a formula, if there is one. -/
def reading (f : BoxField) (formula : Option String) : Formulas (Option Coordinate) :=
  match formula with
  | some source => do
    let n : Coordinate ← fun c => c.evalCoordinate f.formulaName source
    return some n
  | none => return none

/-- Evaluates the formulas of a box, in their order. -/
def readings (spec : TargetBox) : Formulas Readings := do
  let width ← reading .width spec.width
  let height ← reading .height spec.height
  let posX ← reading .posX spec.posX
  let posY ← reading .posY spec.posY
  return ⟨width, height, posX, posY⟩

/-- A number is the reading of its formula. Where there is no formula the current value stands
in. -/
theorem field_eq (f : BoxField) (formula : Option String) (current : Coordinate) :
    field f formula current = (do return (← reading f formula).getD current) := by
  cases formula with
  | none => rfl
  | some source =>
    simp only [reading, bind_assoc, pure_bind, Option.getD_some, bind_pure]
    rfl

/-! ### The box that numbers make -/

/-- The edge at which a box starts that no formula moves: the centred one, if there is one, or the
current one. -/
def StartsAt (center : Bool) (f : BoxField) (start extent size current edge : Coordinate) : Prop :=
  if center then centred f start extent size = .ok edge else current = edge

/-- The numbers `g` make the box `r` out of the current one. The extents of the current box are in
range, and stand in where no number is given. With these extents the box starts at some edges, which
stand in for a position. -/
def Arranged (current : Rect) (center : Bool) (screen : Box) (g : Readings) (r : Rect) : Prop :=
  ∃ width height left top : Coordinate,
    current.right.val - current.left.val = width.val ∧
    current.bottom.val - current.top.val = height.val ∧
    StartsAt center .width screen.left screen.width (g.width.getD width) current.left left ∧
    StartsAt center .height screen.top screen.height (g.height.getD height) current.top top ∧
    r.HasBox (g.posX.getD left).val (g.posY.getD top).val (g.width.getD width).val
      (g.height.getD height).val

/-- The default edge is computed exactly when a box starts there. -/
theorem defaultEdge_eq_ok_iff_startsAt {center : Bool} {f : BoxField}
    {start extent size current edge : Coordinate} {c c' : Context} :
    (defaultEdge center f start extent size current).run c = (.ok edge, c') ↔
      StartsAt center f start extent size current edge ∧ c' = c := by
  cases center with
  | true => exact run_lift_eq_ok_iff
  | false => exact run_pure_eq_ok_iff

/-- A rectangle is handed on exactly when it has the corner and the extent. -/
theorem made_eq_ok_iff {x y w h : Coordinate} {e : ScriptFailure} {r : Rect} {c c' : Context} :
    (match Rect.ofOriginSize? x y w h with
      | some rect => (pure rect : Formulas Rect)
      | none => throw e).run c = (.ok r, c') ↔ r.HasBox x.val y.val w.val h.val ∧ c' = c := by
  rw [← Rect.ofOriginSize?_eq_some_iff]
  cases Rect.ofOriginSize? x y w h with
  | some rect => simpa using run_pure_eq_ok_iff
  | none =>
    show ((.error e, c) : Except ScriptFailure Rect × Context) = _ ↔ _
    simp

/-- A box is computed exactly when its formulas have numbers and these make the box. -/
theorem rect_eq_ok_iff_arranged {current : Rect} {spec : TargetBox} {screen : Box} {r : Rect}
    {c c' : Context} :
    (rect current spec screen).run c = (.ok r, c') ↔
      ∃ g, (readings spec).run c = (.ok g, c') ∧ Arranged current spec.center screen g r := by
  rw [rect_eq]
  unfold readings
  simp only [run_bind_eq_ok_iff, run_lift_eq_ok_iff, coordinate_eq_ok_iff,
    field_eq, defaultEdge_eq_ok_iff_startsAt, run_pure_eq_ok_iff]
  constructor
  · rintro ⟨width, _, ⟨hwidth, rfl⟩, height, _, ⟨hheight, rfl⟩, _, _, ⟨w, c₁, hw, rfl, rfl⟩,
      _, _, ⟨h, c₂, hh, rfl, rfl⟩, left, _, ⟨hleft, rfl⟩, top, _, ⟨htop, rfl⟩,
      _, _, ⟨x, c₃, hx, rfl, rfl⟩, _, _, ⟨y, c₄, hy, rfl, rfl⟩, hmade⟩
    obtain ⟨hbox, rfl⟩ := made_eq_ok_iff.1 hmade
    exact ⟨⟨w, h, x, y⟩, ⟨w, _, hw, h, _, hh, x, _, hx, y, _, hy, rfl, rfl⟩,
      width, height, left, top, hwidth, hheight, hleft, htop, hbox⟩
  · rintro ⟨_, ⟨w, c₁, hw, h, c₂, hh, x, c₃, hx, y, c₄, hy, rfl, rfl⟩,
      width, height, left, top, hwidth, hheight, hleft, htop, hbox⟩
    exact ⟨width, c, ⟨hwidth, rfl⟩, height, c, ⟨hheight, rfl⟩, _, c₁, ⟨w, c₁, hw, rfl, rfl⟩,
      _, c₂, ⟨h, c₂, hh, rfl, rfl⟩, left, c₂, ⟨hleft, rfl⟩, top, c₂, ⟨htop, rfl⟩,
      _, c₃, ⟨x, c₃, hx, rfl, rfl⟩, _, c', ⟨y, c', hy, rfl, rfl⟩, made_eq_ok_iff.2 ⟨hbox, rfl⟩⟩

/-- The numbers that made a box make it out of the box again. -/
theorem Arranged.again {current : Rect} {center : Bool} {screen : Box} {g : Readings} {r : Rect}
    (h : Arranged current center screen g r) : Arranged r center screen g r := by
  obtain ⟨width, height, left, top, -, -, hleft, htop, hbox⟩ := h
  have hkept : ∀ (n : Option Coordinate) (m : Coordinate), n.getD (n.getD m) = n.getD m := by
    intro n m
    cases n <;> rfl
  -- The box measures what the numbers or the old extents gave, and starts where they put it.
  have hwidth : r.right.val - r.left.val = (g.width.getD width).val := by
    rw [hbox.right, hbox.left]
    omega
  have hheight : r.bottom.val - r.top.val = (g.height.getD height).val := by
    rw [hbox.bottom, hbox.top]
    omega
  have hx : r.left = g.posX.getD left := Ranged.ext_val hbox.left
  have hy : r.top = g.posY.getD top := Ranged.ext_val hbox.top
  cases center with
  | true =>
    -- A centred edge depends on the extent alone.
    refine ⟨_, _, left, top, hwidth, hheight, ?_, ?_, ?_⟩
    · rw [hkept]
      exact hleft
    · rw [hkept]
      exact htop
    · rw [hkept, hkept]
      exact hbox
  | false =>
    refine ⟨_, _, r.left, r.top, hwidth, hheight, rfl, rfl, ?_⟩
    rw [hkept, hkept, hx, hy, hkept, hkept]
    exact hbox

end Layout

/-! ### The main statement -/

open Layout

/-- A target that is computed comes of numbers that the formulas have given. When these give the
same numbers again, the target is the same for the window at this target. -/
theorem targetOn_again {current : Rect} {rule : Rule} {constants : MonitorConstants} {screen : Box}
    {c c' : Context} {target : Target}
    (h : (targetOn current rule constants screen).run c = (.ok target, c')) :
    ∃ g, (readings rule.targetBox).run (c.bind constants) = (.ok g, c') ∧
      ∀ c₂ c₂', (readings rule.targetBox).run (c₂.bind constants) = (.ok g, c₂') →
        (targetOn target.rect rule constants screen).run c₂ = (.ok target, c₂') := by
  simp only [run_targetOn, run_bind_eq_ok_iff, run_pure_eq_ok_iff, rect_eq_ok_iff_arranged] at h ⊢
  obtain ⟨rect, c₁, ⟨g, hread, harranged⟩, rfl, rfl⟩ := h
  exact ⟨g, hread, fun c₂ c₂' hagain => ⟨rect, c₂', ⟨g, hagain, harranged.again⟩, rfl, rfl⟩⟩

/-- A target that a rule has for a window on a monitor comes of numbers that its formulas have
given, with the constants of the monitor. When the formulas, in whatever context they are evaluated
next, give the same numbers again, the rule has the same target for the window at this target. -/
theorem targetFor_again {current : Rect} {rule : Rule} {monitor : Monitor}
    {formulas : Formulas Target} {c c' : Context} {target : Target}
    (hformulas : targetFor? current rule monitor = some formulas)
    (h : formulas.run c = (.ok target, c')) :
    ∃ constants g, MonitorConstants.of? monitor = some constants ∧
      (readings rule.targetBox).run (c.bind constants) = (.ok g, c') ∧
      ∀ c₂ c₂', (readings rule.targetBox).run (c₂.bind constants) = (.ok g, c₂') →
        ∃ again, targetFor? target.rect rule monitor = some again ∧
          again.run c₂ = (.ok target, c₂') := by
  obtain ⟨constants, screen, hconstants, hscreen, rfl⟩ := targetFor?_eq_some_iff.1 hformulas
  obtain ⟨g, hread, hagain⟩ := targetOn_again h
  exact ⟨constants, g, hconstants, hread, fun c₂ c₂' hread' =>
    ⟨_, targetFor?_eq_some_iff.2 ⟨constants, screen, hconstants, hscreen, rfl⟩,
      hagain c₂ c₂' hread'⟩⟩

/-- The window that is centred at a height of its own moves, and when the rule is applied again in
the context that is left it moves no more. -/
theorem wideRule_again :
    ∃ formulas target c' again c₂, targetFor? smallBox wideRule leftScreen = some formulas ∧
      formulas.run (Context.new []) = (.ok target, c') ∧ target.rect ≠ smallBox ∧
      targetFor? target.rect wideRule leftScreen = some again ∧
      again.run c' = (.ok target, c₂) := by
  let screen : Box := ⟨.of (-1920), .zero, .of 1920, .of 1080⟩
  let formulas := targetOn smallBox wideRule (trueConstants leftScreen) screen
  have hconstants : MonitorConstants.of? leftScreen = some (trueConstants leftScreen) :=
    of?_eq_trueConstants (by decide) (by decide)
  have hformulas : targetFor? smallBox wideRule leftScreen = some formulas :=
    targetFor?_eq_some_iff.2 ⟨_, screen, hconstants, by decide, rfl⟩
  have hmoved : (formulas.run (Context.new [])).1.toOption =
      some ⟨⟨.of (-2880), .of 10, .of 961, .of 210⟩, .restored⟩ := by decide +kernel
  have hsame : ((readings wideRule.targetBox).run
        ((formulas.run (Context.new [])).2.bind (trueConstants leftScreen))).1.toOption =
      ((readings wideRule.targetBox).run
        ((Context.new []).bind (trueConstants leftScreen))).1.toOption := by
    decide +kernel
  rcases hrun : formulas.run (Context.new []) with ⟨answer, c'⟩
  rw [hrun] at hmoved hsame
  cases answer with
  | error e => cases hmoved
  | ok target =>
    obtain ⟨constants, g, hconstants', hread, hagain⟩ := targetFor_again hformulas hrun
    obtain rfl := eq_trueConstants hconstants'
    rw [hread] at hsame
    rcases hread' : (readings wideRule.targetBox).run (c'.bind (trueConstants leftScreen)) with
      ⟨numbers, c₂⟩
    rw [hread'] at hsame
    cases numbers with
    | error e => cases hsame
    | ok g' =>
      obtain rfl : g' = g := Option.some.inj hsame
      obtain ⟨again, hagain, hrun'⟩ := hagain c' c₂ hread'
      refine ⟨formulas, target, c', again, c₂, hformulas, hrun, ?_, hagain, hrun'⟩
      rw [Option.some.inj hmoved]
      decide

end DeskPlan
