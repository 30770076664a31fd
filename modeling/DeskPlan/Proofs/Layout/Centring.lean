import DeskPlan.Proofs.Layout.Box

/-!
# `DeskPlan.Proofs.Layout.Centring`: what centring does to a box that has a position

A rule may give both coordinates of a box and ask for centring, too. The position that is given
replaces the centred one. But the centred one is computed before, and this can fail: the middle of
the monitor need not be within reach for a box that is very large.

* `placed_centring`: where the box can be centred, centring does not matter;
* `placed_not_centrable`: where it cannot, the box is refused before its position is evaluated;
* `centring_overruled_iff`: a given position makes centring irrelevant exactly when the box can be
  centred;
* `overruled_centring_fails`: so it does not always.
-/

set_option autoImplicit false

namespace DeskPlan

open Script (Context MonitorConstants ScriptFailure)

/-! ### What a failure is about -/

namespace Layout

open Formulas

/-- A formula that is evaluated fails under the name of its field. -/
theorem field_failsOnly_named (f : BoxField) (formula : Option String) (current : Coordinate) :
    FailsOnly (fun e => e.what = f.formulaName) (field f formula current) := by
  cases formula with
  | none => exact FailsOnly.pure current
  | some source =>
    intro c c' e hrun
    exact (Script.Session.failure_of_evalCoordinate hrun).1

/-- Centring that stays in range gives its edge. -/
theorem centred_of_fits {f : BoxField} {start extent size : Coordinate}
    (h : CentringFits start.val extent.val size.val) :
    centred f start extent size = .ok ⟨_, h.edge.1, h.edge.2⟩ :=
  centred_eq_ok_iff.2 ⟨h, rfl⟩

/-- What centring refuses is the extent. -/
theorem centred_eq_error {f : BoxField} {start extent size : Coordinate}
    (h : ¬ CentringFits start.val extent.val size.val) :
    centred f start extent size = .error (outOfRange f.formulaName (toString size.val)) := by
  cases hcentred : centred f start extent size with
  | ok edge => exact absurd (centred_eq_ok_iff.1 hcentred).1 h
  | error e =>
    unfold centred at hcentred
    dsimp only at hcentred
    split at hcentred
    · exact hcentred.symm
    · split at hcentred
      · cases hcentred
      · exact hcentred.symm

/-! ### A box with a position -/

section
variable {current : Rect} {spec : TargetBox} {monitor : Rect} {screen : Box}
  {width height : Coordinate} (hscreen : monitor.box? = some screen)
include hscreen

/-- A box can be centred on the monitor exactly when it can be centred in what is measured of it. -/
theorem centrable_iff : Centrable monitor width.val height.val ↔
    CentringFits screen.left.val screen.width.val width.val ∧
      CentringFits screen.top.val screen.height.val height.val := by
  obtain ⟨⟨hstartX, hstartY⟩, hextentX, hextentY⟩ := measures_of_box? hscreen
  rw [hstartX, hstartY, hextentX, hextentY]
  exact Iff.rfl

/-- Where a box can be centred, a given position replaces the centred one and nothing else is left
of centring. -/
theorem placed_centring {x y : String} (hx : spec.posX = some x) (hy : spec.posY = some y)
    (hfits : Centrable monitor width.val height.val) :
    placed current { spec with center := true } screen width height =
      placed current { spec with center := false } screen width height := by
  obtain ⟨hfitsX, hfitsY⟩ := (centrable_iff hscreen).1 hfits
  unfold placed defaultEdge
  simp only [if_true, Bool.false_eq_true, if_false]
  rw [centred_of_fits hfitsX, centred_of_fits hfitsY, hx, hy]
  -- A formula that is there does not look at the number it replaces.
  rfl

/-- Where a box cannot be centred, it is refused for its width or its height, and its position is
not evaluated. -/
theorem placed_not_centrable (current : Rect) (spec : TargetBox)
    (hfits : ¬ Centrable monitor width.val height.val) (c : Context) :
    ∃ f value, (f = BoxField.width ∨ f = .height) ∧
      (placed current { spec with center := true } screen width height).run c =
        (.error (outOfRange f.formulaName value), c) := by
  rw [centrable_iff hscreen] at hfits
  unfold placed defaultEdge
  simp only [if_true]
  by_cases hfitsX : CentringFits screen.left.val screen.width.val width.val
  · have hfitsY : ¬ CentringFits screen.top.val screen.height.val height.val :=
      fun h => hfits ⟨hfitsX, h⟩
    refine ⟨.height, toString height.val, .inr rfl, ?_⟩
    rw [centred_of_fits hfitsX, centred_eq_error hfitsY]
    rfl
  · refine ⟨.width, toString width.val, .inl rfl, ?_⟩
    rw [centred_eq_error hfitsX]
    rfl

end

/-- Without centring, a box that cannot be placed is refused for its position or for its far
edges. -/
theorem placed_failsOnly (current : Rect) (spec : TargetBox) (screen : Box)
    (width height : Coordinate) :
    FailsOnly (fun e => e.what ∈ [BoxField.posX.formulaName, BoxField.posY.formulaName,
        "target rect"])
      (placed current { spec with center := false } screen width height) := by
  have hnamed : ∀ (f : BoxField) (formula : Option String) (edge : Coordinate),
      f.formulaName ∈ [BoxField.posX.formulaName, BoxField.posY.formulaName, "target rect"] →
      FailsOnly (fun e => e.what ∈ [BoxField.posX.formulaName, BoxField.posY.formulaName,
        "target rect"]) (field f formula edge) := by
    intro f formula edge hmem c c' e hrun
    rw [field_failsOnly_named f formula edge c c' e hrun]
    exact hmem
  refine (FailsOnly.pure current.left).bind fun left => ?_
  refine (FailsOnly.pure current.top).bind fun top => ?_
  refine (hnamed .posX spec.posX left (by simp)).bind fun left => ?_
  refine (hnamed .posY spec.posY top (by simp)).bind fun top => ?_
  split
  · exact FailsOnly.pure _
  · exact FailsOnly.throw (by simp [outOfRange])

end Layout

/-! ### The rule -/

open Layout Formulas

/-- The rule with centring asked for or not. -/
def Rule.centring (r : Rule) (on : Bool) : Rule :=
  { r with targetBox := { r.targetBox with center := on } }

section
variable {current : Rect} {rule : Rule} {monitor : Rect} {screen : Box}
  {constants : MonitorConstants} {c c₁ : Context}

/-- The run of a rule with and without centring: the extent is the same, and then the box is placed
in the one way or the other. -/
theorem run_targetOn_centring (on : Bool) :
    (targetOn current (rule.centring on) constants screen).run c =
      ((extent current rule.targetBox >>= fun e =>
          placed current { rule.targetBox with center := on } screen e.1 e.2) >>=
        fun rect => (pure ⟨rect, rule.targetState⟩ : Formulas Target)).run (c.bind constants) := by
  rw [run_targetOn, rect_eq_placed]
  rfl

/-- Without an extent, centring does not come into it. -/
theorem run_of_extent_error {e : ScriptFailure}
    (h : (extent current rule.targetBox).run (c.bind constants) = (.error e, c₁)) (on : Bool) :
    (targetOn current (rule.centring on) constants screen).run c = (.error e, c₁) := by
  rw [run_targetOn_centring, run_bind, run_bind, h]

/-- With an extent, the run is that of placing the box. -/
theorem run_of_extent_ok {e : Coordinate × Coordinate}
    (h : (extent current rule.targetBox).run (c.bind constants) = (.ok e, c₁)) (on : Bool) :
    (targetOn current (rule.centring on) constants screen).run c =
      (placed current { rule.targetBox with center := on } screen e.1 e.2 >>=
        fun rect => (pure ⟨rect, rule.targetState⟩ : Formulas Target)).run c₁ := by
  rw [run_targetOn_centring, run_bind, run_bind, h, run_bind]

/-- A box that cannot be centred fails for its extent, right after that is known. Without centring
the run ends otherwise, whether it fails or not. -/
theorem run_of_not_centrable (hscreen : monitor.box? = some screen) {w h : Int}
    (hextent : ExtentOf current rule.targetBox (c.bind constants) w h c₁)
    (hfits : ¬ Centrable monitor w h) :
    (∃ f value, (f = BoxField.width ∨ f = .height) ∧
      (targetOn current (rule.centring true) constants screen).run c =
        (.error (outOfRange f.formulaName value), c₁)) ∧
    ((targetOn current (rule.centring false) constants screen).run c).1 ≠
      ((targetOn current (rule.centring true) constants screen).run c).1 := by
  obtain ⟨hw, hh⟩ := hextent.isCoordinate
  have hok := extent_eq_ok_iff (e := (⟨w, hw.1, hw.2⟩, ⟨h, hh.1, hh.2⟩)).2 hextent
  have hnot : ¬ Centrable monitor (⟨w, hw.1, hw.2⟩ : Coordinate).val
      (⟨h, hh.1, hh.2⟩ : Coordinate).val := hfits
  obtain ⟨f, value, hf, hplaced⟩ :=
    placed_not_centrable hscreen current rule.targetBox hnot c₁
  have hon : (targetOn current (rule.centring true) constants screen).run c =
      (.error (outOfRange f.formulaName value), c₁) := by
    rw [run_of_extent_ok hok, run_bind, hplaced]
  refine ⟨⟨f, value, hf, hon⟩, ?_⟩
  rw [hon]
  intro hsame
  rcases hoff : (targetOn current (rule.centring false) constants screen).run c with ⟨answer, c₂⟩
  rw [hoff] at hsame
  obtain rfl : answer = _ := hsame
  rw [run_of_extent_ok hok] at hoff
  -- Without centring the position or a far edge would be to blame, not the extent.
  have hblame : f.formulaName ∈ [BoxField.posX.formulaName, BoxField.posY.formulaName,
      "target rect"] :=
    ((placed_failsOnly current rule.targetBox screen _ _).bind
      fun rect => FailsOnly.pure (⟨rect, rule.targetState⟩ : Target)) c₁ c₂ _ hoff
  rcases hf with rfl | rfl
  · exact absurd hblame (by decide)
  · exact absurd hblame (by decide)

/-- Centring makes no difference exactly when the extent, if it can be computed, can be centred. -/
theorem run_centring_eq_iff (hscreen : monitor.box? = some screen)
    (hx : rule.targetBox.posX.isSome) (hy : rule.targetBox.posY.isSome) :
    (targetOn current (rule.centring true) constants screen).run c =
        (targetOn current (rule.centring false) constants screen).run c ↔
      ∀ w h c₁, ExtentOf current rule.targetBox (c.bind constants) w h c₁ →
        Centrable monitor w h := by
  constructor
  · intro hsame w h c₁ hextent
    by_contra hfits
    exact (run_of_not_centrable hscreen hextent hfits).2 (congrArg Prod.fst hsame.symm)
  · intro hfits
    obtain ⟨x, hx⟩ := Option.isSome_iff_exists.1 hx
    obtain ⟨y, hy⟩ := Option.isSome_iff_exists.1 hy
    rcases hextent : (extent current rule.targetBox).run (c.bind constants) with ⟨answer, c₁⟩
    cases answer with
    | error e =>
      exact (run_of_extent_error hextent true).trans (run_of_extent_error hextent false).symm
    | ok e =>
      have hcentrable := hfits _ _ _ (extent_eq_ok_iff.1 hextent)
      rw [run_of_extent_ok hextent, placed_centring hscreen hx hy hcentrable]
      exact (run_of_extent_ok hextent false).symm

end

/-- A rule that gives both coordinates of its box. Whatever the monitor, the context and the current
box, centring makes no difference to the result and to the context that is left exactly when the
extent, if it can be computed, can be centred on the monitor. If it cannot, centring fails with the
name of an extent and leaves the context as it was before the position is evaluated, and without
centring the result is another one. On a monitor that can be measured, with its work area, there is
a result both times. -/
theorem centring_overruled_iff {rule : Rule} (hx : rule.targetBox.posX.isSome)
    (hy : rule.targetBox.posY.isSome) (current : Rect) (monitor : Monitor) (c : Context) :
    let run := fun on => (targetFor? current (rule.centring on) monitor).map (·.run c)
    let IsExtent := fun w h c₁ => ∃ constants, MonitorConstants.of? monitor = some constants ∧
      ExtentOf current rule.targetBox (c.bind constants) w h c₁
    (run true = run false ↔
      ∀ w h c₁, IsExtent w h c₁ → Centrable monitor.monitorRect w h) ∧
    (∀ w h c₁, IsExtent w h c₁ → ¬ Centrable monitor.monitorRect w h →
      ∃ f value result c₂, (f = BoxField.width ∨ f = .height) ∧
        run true = some (.error (outOfRange f.formulaName value), c₁) ∧
        run false = some (result, c₂) ∧ result ≠ .error (outOfRange f.formulaName value)) ∧
    (monitor.monitorRect.Measurable → monitor.workAreaRect.Measurable →
      ∀ on, (run on).isSome) := by
  intro run IsExtent
  cases hconstants : MonitorConstants.of? monitor with
  | none =>
    -- A monitor that cannot be measured has no result and no extent.
    have hnone : ∀ on, run on = none := fun on => by
      show Option.map _ ((MonitorConstants.of? monitor).bind _) = none
      rw [hconstants]
      rfl
    have hextent : ∀ w h c₁, ¬ IsExtent w h c₁ := by
      rintro w h c₁ ⟨constants, hsome, -⟩
      rw [hconstants] at hsome
      cases hsome
    refine ⟨⟨fun _ w h c₁ hw => absurd hw (hextent w h c₁), fun _ => ?_⟩,
      fun w h c₁ hw => absurd hw (hextent w h c₁), fun hmonitor hwork => ?_⟩
    · rw [hnone, hnone]
    · rw [of?_eq_trueConstants hmonitor hwork] at hconstants
      cases hconstants
  | some constants =>
    obtain ⟨screen, hscreen, -⟩ := Option.bind_eq_some_iff.1 hconstants
    have hrun : ∀ on, run on =
        some ((targetOn current (rule.centring on) constants screen).run c) := fun on =>
      congrArg (Option.map _)
        (targetFor?_eq_some_iff.2 ⟨constants, screen, hconstants, hscreen, rfl⟩)
    have hextent : ∀ w h c₁, IsExtent w h c₁ ↔
        ExtentOf current rule.targetBox (c.bind constants) w h c₁ := by
      intro w h c₁
      constructor
      · rintro ⟨constants', hsome, hw⟩
        rwa [Option.some.inj (hconstants.symm.trans hsome)]
      · exact fun hw => ⟨constants, hconstants, hw⟩
    simp only [hrun, hextent]
    refine ⟨?_, ?_, fun _ _ _ => rfl⟩
    · rw [Option.some.injEq]
      exact run_centring_eq_iff hscreen hx hy
    · intro w h c₁ hw hfits
      obtain ⟨⟨f, value, hf, hon⟩, hother⟩ := run_of_not_centrable hscreen hw hfits
      rw [hon] at hother ⊢
      exact ⟨f, value, _, _, hf, rfl, rfl, hother⟩

/-- A rule that puts a window at the origin and asks for centring, too. -/
def originRule : Rule where
  targetBox := { posX := some "0", posY := some "0", center := true }

/-- A window of the given width, and 600 pixels high. -/
def windowOfWidth (width : Coordinate) : Rect := ⟨.zero, .zero, width, .of 600⟩

/-- A screen far left of the origin. -/
def remoteScreen : Monitor :=
  MonitorCheck.fullScreen (.of 1) (.of (-2000000000)) (.of (-1999998080))

/-- A common window is put at the origin of the screens whether the rule asks for centring or not.
A window of a thousand million pixels is not: its middle would be out of reach. -/
theorem centring_on_remoteScreen :
    originRule.targetBox.posX.isSome ∧ originRule.targetBox.posY.isSome ∧
    (∀ on, ((targetFor? (windowOfWidth (.of 800)) (originRule.centring on) remoteScreen).map
      (·.run (Context.new []))).isSome) ∧
    (targetFor? (windowOfWidth (.of 800)) (originRule.centring true) remoteScreen).map
        (·.run (Context.new [])) =
      (targetFor? (windowOfWidth (.of 800)) (originRule.centring false) remoteScreen).map
        (·.run (Context.new [])) ∧
    (targetFor? (windowOfWidth (.of 1000000000)) (originRule.centring true) remoteScreen).map
        (·.run (Context.new [])) ≠
      (targetFor? (windowOfWidth (.of 1000000000)) (originRule.centring false) remoteScreen).map
        (·.run (Context.new [])) := by
  have hmonitor : remoteScreen.monitorRect.Measurable := by decide
  have hwork : remoteScreen.workAreaRect.Measurable := by decide
  have hx : originRule.targetBox.posX.isSome := rfl
  have hy : originRule.targetBox.posY.isSome := rfl
  obtain ⟨hcommon, -, hsome⟩ := centring_overruled_iff hx hy (windowOfWidth (.of 800)) remoteScreen
    (Context.new [])
  obtain ⟨hlarge, -, -⟩ :=
    centring_overruled_iff hx hy (windowOfWidth (.of 1000000000)) remoteScreen
    (Context.new [])
  refine ⟨hx, hy, hsome hmonitor hwork, hcommon.2 ?_, fun hsame => ?_⟩
  · rintro w h c₁ ⟨constants, -, -, -, c₂, ⟨rfl, -⟩, ⟨rfl, -⟩⟩
    exact ⟨⟨by decide, by decide⟩, ⟨by decide, by decide⟩⟩
  · have hextent : ExtentOf (windowOfWidth (.of 1000000000)) originRule.targetBox
        ((Context.new []).bind (trueConstants remoteScreen)) 1000000000 600
        ((Context.new []).bind (trueConstants remoteScreen)) :=
      ⟨by decide, by decide, _, ⟨rfl, rfl⟩, ⟨rfl, rfl⟩⟩
    have hfits := (hlarge.1 hsame _ _ _ ⟨_, of?_eq_trueConstants hmonitor hwork, hextent⟩).1.edge
    exact absurd hfits (by decide)

/-- Not always does a given position make centring irrelevant. -/
theorem overruled_centring_fails :
    ¬ ∀ (current : Rect) (rule : Rule) (monitor : Monitor) (c : Context),
      monitor.monitorRect.Measurable → monitor.workAreaRect.Measurable →
      rule.targetBox.posX.isSome → rule.targetBox.posY.isSome →
      (targetFor? current (rule.centring true) monitor).map (·.run c) =
        (targetFor? current (rule.centring false) monitor).map (·.run c) := by
  intro h
  have hsame := h (windowOfWidth (.of 1000000000)) originRule remoteScreen (Context.new [])
    (by decide) (by decide) rfl rfl
  have hdiffers : (resultOf (targetFor? (windowOfWidth (.of 1000000000)) (originRule.centring true)
      remoteScreen)).isSome ≠
    (resultOf (targetFor? (windowOfWidth (.of 1000000000)) (originRule.centring false)
      remoteScreen)).isSome := by decide +kernel
  have hresult : ∀ formulas : Checked (Formulas Target), resultOf formulas =
      (formulas.map (·.run (Context.new []))).bind fun run => run.1.toOption := by
    intro formulas
    rw [Option.bind_map]
    rfl
  rw [hresult, hresult, hsame] at hdiffers
  exact hdiffers rfl

end DeskPlan
