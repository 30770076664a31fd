import DeskPlan.Apply.Run
import DeskPlan.Command.Workspace

/-!
# `DeskPlan.Command.Applying`: the command that applies a blueprint

The blueprint is the one asked for, or one of those in the directories of the settings whose
monitors fit: the only one, the one picked, or the one that is answered when there is somebody to
ask. It is applied to the windows of the desktop, which notes the placements.
-/

set_option autoImplicit false

namespace DeskPlan.Command

namespace Workspace

/-! ### Choosing a blueprint -/

/-- The candidate of a path that was asked for; its monitors must fit. -/
def explicitCandidate (s : Workspace) (path : String) (monitors : List Monitor) :
    Work Candidate := do
  let b ← s.load path
  let c ← Work.ofChecked (Blueprint.candidate? path b monitors)
  if c.fits then return c
  else Work.fail ⟨.mismatch, s!"blueprint '{b.name}' does not match the connected monitors", [],
    c.issues.map MonitorIssue.message⟩

/-- The candidate that a choice picks; a choice that picks none offers the names. -/
def picked (valid : List Candidate) (choice : Except Candidate.ChoiceError Candidate) :
    Work Candidate :=
  Work.ofExcept (fun e => ⟨.badChoice, e.message, valid.map Candidate.name, []⟩) choice

/-- One of the candidates whose monitors fit. -/
def chooseAmong (s : Workspace) (valid : List Candidate) (pick : Option String) :
    Work Candidate :=
  match pick, valid with
  | some choice, _ => picked valid (Candidate.choose valid choice)
  | none, [c] => pure c
  | none, _ =>
    -- A program that reads JSON cannot answer a question.
    if s.form ≠ .json && s.interactive then do
      Work.ask (Candidate.question valid)
      picked valid (Candidate.answered valid s.answer)
    else
      Work.fail ⟨.badChoice, s!"{valid.length} blueprints match the connected monitors, " ++
        "choose one with --pick", valid.map Candidate.name, []⟩

/-- A candidate of the directories of the settings. -/
def foundCandidate (s : Workspace) (pick : Option String) (monitors : List Monitor) :
    Work Candidate := do
  let paths ← s.findBlueprints
  Work.tell (Blueprint.candidates monitors s.files paths).2
  let candidates ← Work.ofChecked (Blueprint.candidates monitors s.files paths).1
  let valid := candidates.filter Candidate.fits
  if valid.isEmpty then
    Work.fail ⟨.noBlueprint, s!"no valid blueprint for the connected monitors " ++
      s!"({paths.length} found)", [],
      (candidates.filter fun c => !c.fits).map fun c => c.path ++ ": monitor match failed"⟩
  else s.chooseAmong valid pick

/-- The blueprint to apply. -/
def chooseBlueprint (s : Workspace) (explicit pick : Option String) (monitors : List Monitor) :
    Work Candidate :=
  match explicit with
  | some path => s.explicitCandidate path monitors
  | none => s.foundCandidate pick monitors

end Workspace

/-! ### Applying it -/

/-- A blueprint that was applied, with the placements the desktop was told. -/
structure Applied where
  path : String
  report : Report
  placements : List Placement

/-- The failure of a run. -/
def runFailure (e : RunError) : Failure :=
  match e with
  | .monitorMatch issues => ⟨.mismatch, e.message, [], issues.map MonitorIssue.message⟩
  | .programWindows _ => ⟨.failure, e.message, [], []⟩
  | .initScript _ => ⟨.badFile, e.message, [], []⟩

/-- Applies the blueprint of a candidate to a desktop. -/
def applyCandidate (c : Candidate) (d : Desktop) (options : RunOptions) : Work Applied :=
  match apply .recorder c.blueprint d.monitors d.liveWindows options [] with
  | (result, placements, events) => do
    Work.tell events
    let report ← Work.ofExcept runFailure (← Work.ofChecked result)
    -- The desktop notes the latest placement first.
    return ⟨c.path, report, placements.reverse⟩

/-- The event of finding a monitor. -/
def monitorEvent (m : Monitor) : Event :=
  { level := .info, target := .command
    message := m.describe?.map fun description => "found monitor " ++ description }

/-- Chooses a blueprint and applies it. -/
def Workspace.applyBlueprint (s : Workspace) (explicit : Option String) (dryRun : Bool)
    (pick : Option String) : Work Applied := do
  let d ← s.readDesktop
  Work.tell (d.monitors.map monitorEvent)
  let c ← s.chooseBlueprint explicit pick d.monitors
  Work.tell [{ level := .info, target := .command
               message := s!"found {d.liveWindows.length} windows" }]
  applyCandidate c d ⟨dryRun || s.settings.dryRun, d.taskbarAvailable,
    s.settings.fuzzyThreshold.val.toNat⟩

/-! ### The result -/

namespace Applied

/-- The result as a document. -/
def toJson (a : Applied) : Json :=
  .obj ([("path", .str a.path)] ++ a.report.fields ++
    [("placements", .list (a.placements.map Placement.toJson))])

/-- What came of a window, in words. -/
def outcomeText? : Verdict → Checked String
  | .placed rule monitor target => target.rect.describe?.map fun place =>
    s!"{place} {target.state.name} on '{monitor}' (rule '{rule}')"
  | .noMatchingRule => some "no matching rule"
  | .patternFailure e => some ("filter error: " ++ e.message)
  | .skipped rule reason => some (s!"skipped (rule '{rule}'): " ++ reason.message)

/-- The result in words. -/
def text? (a : Applied) : Checked String := do
  let r := a.report
  let verb := if r.dryRun then "Dry run of" else "Applied"
  let windows ← Checked.tagged (fun w => outcomeText? w.outcome) r.windows
  return asLines ([s!"{verb} blueprint '{r.blueprint}' ({a.path})"] ++
    (r.ignoredRules.map fun name => s!"  ! rule '{name}' ignored: taskbar info unavailable") ++
    (windows.map fun w => s!"  {handleText w.1.handle} {w.1.title}: " ++ w.2) ++
    ["", s!"Total: {r.windows.length} windows, {r.placed} placed, {r.unmatched} unmatched, " ++
      s!"{r.failed} failed"])

/-- The result in the form asked for. -/
def output? (a : Applied) : OutputForm → Checked String
  | .json => some (resultLine a.toJson)
  | .quiet => some ""
  | _ => a.text?

end Applied

/-- The command that applies a blueprint. -/
def Workspace.applyCommand (s : Workspace) (explicit : Option String) (dryRun : Bool)
    (pick : Option String) : Work (Exit × String) := do
  let a ← s.applyBlueprint explicit dryRun pick
  let output ← Work.ofChecked (a.output? s.form)
  return (.success, output)

end DeskPlan.Command
