import DeskPlan.Layout.Target
import DeskPlan.Proofs.Script.Failure

/-!
# `DeskPlan.Proofs.Layout.Target`: how the computation of a box fails

The box of a window is computed in several steps, each of which may fail and each of which hands
its script context to the next. `Formulas.FailsOnly` says that a computation, in whatever
context it starts, fails only with failures of a kind. Such a statement is put together along
the computation: `FailsOnly.bind` passes it from the steps to their sequence.

`targetOn_failsOnly` is the outcome: if the formulas of a rule compile, then computing its
target never fails because one does not compile.
-/

set_option autoImplicit false

namespace DeskPlan

open Script (Compiles ScriptFailure)

variable {α β : Type}

namespace Formulas

/-- In whatever context it starts, the computation fails only with failures that have the
property. -/
def FailsOnly (P : ScriptFailure → Prop) (x : Formulas α) : Prop :=
  ∀ c c' e, x.run c = (.error e, c') → P e

variable {P : ScriptFailure → Prop}

/-- A computation that only returns a value does not fail. -/
theorem FailsOnly.pure (a : α) : FailsOnly P (Pure.pure a : Formulas α) := by
  intro c c' e h
  cases h

/-- A sequence fails only as its steps do. -/
theorem FailsOnly.bind {x : Formulas α} {f : α → Formulas β} (hx : FailsOnly P x)
    (hf : ∀ a, FailsOnly P (f a)) : FailsOnly P (x >>= f) := by
  intro c c' e h
  -- A sequence hands the answer of its first step, with the context after it, to the second.
  change ExceptT.bindCont f (x.run c).1 (x.run c).2 = _ at h
  rcases hrun : x.run c with ⟨answer, middle⟩
  rw [hrun] at h
  cases answer with
  | ok a => exact hf a _ _ _ h
  | error e' =>
    cases h
    exact hx _ _ _ hrun

/-- A computation without scripts fails as its result does. -/
theorem FailsOnly.lift {x : Except ScriptFailure α} (h : ∀ e, x = .error e → P e) :
    FailsOnly P (liftM x : Formulas α) := by
  intro c c' e hrun
  cases x with
  | ok a => cases hrun
  | error e' =>
    cases hrun
    exact h e rfl

/-- A failure that is raised is the one the computation fails with. -/
theorem FailsOnly.throw {e : ScriptFailure} (h : P e) :
    FailsOnly P (MonadExcept.throw e : Formulas α) := by
  intro c c' e' hrun
  cases hrun
  exact h

end Formulas

open Formulas (FailsOnly)

/-- The formulas of the box compile. -/
def TargetBox.Compiles (spec : TargetBox) : Prop := ∀ f ∈ spec.formulas, Script.Compiles f.2

namespace Layout

/-- A number that is no coordinate is refused as being out of range. -/
theorem coordinate_failsOnly (what : String) (n : Int) :
    FailsOnly (fun e => e.isCompile = false) (liftM (coordinate what n)) := by
  apply FailsOnly.lift
  intro e h
  unfold coordinate at h
  split at h <;> cases h
  rfl

/-- A centred edge that is no coordinate is refused as being out of range. -/
theorem centred_failsOnly (f : BoxField) (start extent size : Coordinate) :
    FailsOnly (fun e => e.isCompile = false) (liftM (centred f start extent size)) := by
  apply FailsOnly.lift
  intro e h
  unfold centred at h
  dsimp only at h
  split at h
  · cases h
    rfl
  · split at h <;> cases h
    rfl

/-- A formula that compiles does not fail for not compiling. -/
theorem field_failsOnly {f : BoxField} {formula : Option String} {current : Coordinate}
    (h : ∀ source, formula = some source → Compiles source) :
    FailsOnly (fun e => e.isCompile = false) (field f formula current) := by
  cases formula with
  | none => exact FailsOnly.pure current
  | some source =>
    intro c c' e hrun
    have hiff := (Script.Session.failure_of_evalCoordinate hrun).2
    have hreads : Script.interpreter.Reads source := Script.interpreter_reads_iff.2 (h source rfl)
    simpa [hreads] using hiff

/-- The edge that a box has unless a formula moves it: the centred one or the current one. -/
def defaultEdge (center : Bool) (f : BoxField) (start extent size current : Coordinate) :
    Formulas Coordinate :=
  if center then liftM (centred f start extent size) else pure current

/-- The box is computed in a row: extent, default edges, explicit position. -/
theorem rect_eq (current : Rect) (spec : TargetBox) (screen : Box) :
    rect current spec screen = (do
      let width ← liftM (coordinate "current width" (current.right.val - current.left.val))
      let height ← liftM (coordinate "current height" (current.bottom.val - current.top.val))
      let width ← field .width spec.width width
      let height ← field .height spec.height height
      let left ← defaultEdge spec.center .width screen.left screen.width width current.left
      let top ← defaultEdge spec.center .height screen.top screen.height height current.top
      let left ← field .posX spec.posX left
      let top ← field .posY spec.posY top
      match Rect.ofOriginSize? left top width height with
      | some rect => return rect
      | none => throw (outOfRange "target rect"
          s!"{width.val}x{height.val} at ({left.val}, {top.val})")) := by
  unfold rect defaultEdge
  cases spec.center <;> rfl

/-- A default edge is refused only as being out of range. -/
theorem defaultEdge_failsOnly (center : Bool) (f : BoxField)
    (start extent size current : Coordinate) :
    FailsOnly (fun e => e.isCompile = false)
      (defaultEdge center f start extent size current) := by
  cases center with
  | false => exact FailsOnly.pure current
  | true => exact centred_failsOnly f start extent size

/-- If the formulas of a box compile, computing it does not fail for not compiling. -/
theorem rect_failsOnly (current : Rect) {spec : TargetBox} (screen : Box)
    (h : spec.Compiles) : FailsOnly (fun e => e.isCompile = false) (rect current spec screen) := by
  have hfield : ∀ (f : BoxField) (formula : Option String) (start : Coordinate),
      (f, formula) ∈ [(BoxField.width, spec.width), (.height, spec.height), (.posX, spec.posX),
        (.posY, spec.posY)] →
      FailsOnly (fun e => e.isCompile = false) (field f formula start) := by
    intro f formula start hmem
    apply field_failsOnly
    rintro source rfl
    exact h (f, source) (List.mem_filterMap.2 ⟨(f, some source), hmem, rfl⟩)
  rw [rect_eq]
  refine (coordinate_failsOnly _ _).bind fun width => ?_
  refine (coordinate_failsOnly _ _).bind fun height => ?_
  refine (hfield _ _ _ (by simp)).bind fun width => ?_
  refine (hfield _ _ _ (by simp)).bind fun height => ?_
  refine (defaultEdge_failsOnly _ _ _ _ _ _).bind fun left => ?_
  refine (defaultEdge_failsOnly _ _ _ _ _ _).bind fun top => ?_
  refine (hfield _ _ _ (by simp)).bind fun left => ?_
  refine (hfield _ _ _ (by simp)).bind fun top => ?_
  split
  · exact FailsOnly.pure _
  · exact FailsOnly.throw rfl

end Layout

/-- If the formulas of a rule compile, computing its target does not fail for not compiling. -/
theorem targetOn_failsOnly (current : Rect) {rule : Rule} (constants : Script.MonitorConstants)
    (screen : Box) (h : rule.targetBox.Compiles) :
    FailsOnly (fun e => e.isCompile = false) (targetOn current rule constants screen) := by
  unfold targetOn
  refine FailsOnly.bind ?_ fun _ => ?_
  · intro c c' e hrun
    cases hrun
  · exact (Layout.rect_failsOnly current screen h).bind fun rect => FailsOnly.pure _

/-! ### Measuring the monitor -/

section
variable {current : Rect} {rule : Rule} {monitor : Monitor}

/-- A target is computed on a monitor exactly when the monitor can be measured. -/
theorem targetFor?_eq_some_iff {f : Formulas Target} :
    targetFor? current rule monitor = some f ↔
      ∃ constants screen, Script.MonitorConstants.of? monitor = some constants ∧
        monitor.monitorRect.box? = some screen ∧ f = targetOn current rule constants screen := by
  unfold targetFor?
  simp only [bind, Option.bind_eq_some_iff, pure, Option.some.injEq]
  constructor
  · rintro ⟨constants, hconstants, screen, hscreen, rfl⟩
    exact ⟨constants, screen, hconstants, hscreen, rfl⟩
  · rintro ⟨constants, screen, hconstants, hscreen, rfl⟩
    exact ⟨constants, hconstants, screen, hscreen, rfl⟩

end

end DeskPlan
