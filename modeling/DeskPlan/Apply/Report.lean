import DeskPlan.Blueprint.Selection
import DeskPlan.Layout.Target
import DeskPlan.Monitor.Check
import DeskPlan.Text.Distance

/-!
# `DeskPlan.Apply.Report`: what came of every window

A run reports one outcome per window: it was placed, no rule was for it, an invalid pattern
stopped the search for a rule, or its rule could not be carried out for an `Obstacle`.
-/

set_option autoImplicit false

namespace DeskPlan

/-- A window move handed to the host. -/
structure Placement where
  handle : Word64
  rect : Rect
  state : ShowState
deriving DecidableEq, Repr

/-- A placement as a document. -/
def Placement.toJson (p : Placement) : Json :=
  .obj [("handle", .int p.handle.val), ("rect", p.rect.toJson), ("state", p.state.toJson)]

/-- Why a window with a rule was not placed. -/
inductive Obstacle where
  | unknownTargetMonitor (name : String) (suggestions : List String)
  | currentMonitorNotFound (handle : Option Word64)
  | currentRectUnavailable
  | expression (e : Script.ScriptFailure)

namespace Obstacle

/-- The reason in words. -/
def message : Obstacle → String
  | unknownTargetMonitor name suggestions =>
    s!"no mapped monitor named '{name}'" ++ Text.hint suggestions
  | currentMonitorNotFound handle =>
    "current monitor " ++ (handle.map handleText).getD "(none)" ++
      " of the window is not among the live monitors"
  | currentRectUnavailable => "current window rect could not be read"
  | expression e => e.message

/-- The name of the kind of reason. -/
def kind : Obstacle → String
  | unknownTargetMonitor _ _ => "unknown_target_monitor"
  | currentMonitorNotFound _ => "current_monitor_not_found"
  | currentRectUnavailable => "current_rect_unavailable"
  | expression _ => "expression"

/-- The reason as a document. -/
def toJson (r : Obstacle) : Json := .obj [("kind", .str r.kind), ("message", .str r.message)]

end Obstacle

/-- What came of a window. -/
inductive Verdict where
  | placed (rule monitor : String) (target : Target)
  | noMatchingRule
  | patternFailure (e : PatternFailure)
  | skipped (rule : String) (reason : Obstacle)

namespace Verdict

/-- The outcome as the fields of a document. -/
def fields : Verdict → List (String × Json)
  | placed rule monitor target =>
    [("status", .str "placed"), ("rule", .str rule), ("monitor", .str monitor),
      ("rect", target.rect.toJson), ("state", target.state.toJson)]
  | noMatchingRule => [("status", .str "no_matching_rule")]
  | patternFailure e =>
    [("status", .str "filter_error"), ("rule", .str e.rule), ("message", .str e.message)]
  | skipped rule reason =>
    [("status", .str "skipped"), ("rule", .str rule), ("reason", reason.toJson)]

/-- The target of a window that was placed. -/
def target? : Verdict → Option Target
  | placed _ _ target => some target
  | _ => none

/-- Whether a rule was found and could not be carried out, or none could be found. -/
def isFailure : Verdict → Bool
  | patternFailure _ | skipped _ _ => true
  | _ => false

/-- Whether no rule was for the window. -/
def isUnmatched : Verdict → Bool
  | noMatchingRule => true
  | _ => false

end Verdict

/-- A window with what came of it. -/
structure WindowEntry where
  handle : Word64
  title : String
  programPath : Option String
  outcome : Verdict

namespace WindowEntry

/-- The report on a window. -/
def of (w : Window) (outcome : Verdict) : WindowEntry :=
  ⟨w.handle, w.title, w.programPath, outcome⟩

/-- The report as a document. -/
def toJson (r : WindowEntry) : Json :=
  .obj ([("handle", .int r.handle.val), ("title", .str r.title),
    ("programPath", .optStr r.programPath)] ++ r.outcome.fields)

/-- The placement the report speaks of. -/
def placement? (r : WindowEntry) : Option Placement :=
  r.outcome.target?.map fun t => ⟨r.handle, t.rect, t.state⟩

end WindowEntry

/-- The report on a run. -/
structure Report where
  blueprint : String
  dryRun : Bool
  /-- The enabled rules that cannot match because taskbar attributes are unavailable. -/
  ignoredRules : List String
  windows : List WindowEntry

namespace Report

/-- The number of windows placed. -/
def placed (r : Report) : Nat := r.windows.countP fun w => w.outcome.target?.isSome

/-- The number of windows no rule was for. -/
def unmatched (r : Report) : Nat := r.windows.countP fun w => w.outcome.isUnmatched

/-- The number of windows skipped or stopped by an invalid pattern. -/
def failed (r : Report) : Nat := r.windows.countP fun w => w.outcome.isFailure

/-- What came of the first window with a handle. -/
def verdictOn (r : Report) (handle : Word64) : Option Verdict :=
  (r.windows.find? fun w => w.handle = handle).map (·.outcome)

/-- The report as the fields of a document. -/
def fields (r : Report) : List (String × Json) :=
  [("blueprint", .str r.blueprint), ("dryRun", .bool r.dryRun),
    ("ignoredRules", .strings r.ignoredRules),
    ("windows", .list (r.windows.map WindowEntry.toJson))]

/-- The report as a document. -/
def toJson (r : Report) : Json := .obj r.fields

end Report

/-- Why a run came to nothing. -/
inductive RunError where
  | monitorMatch (issues : List MonitorIssue)
  | programWindows (e : Script.ScriptFailure)
  | initScript (e : Script.ScriptFailure)

namespace RunError

/-- The error in words. -/
def message : RunError → String
  | monitorMatch issues =>
    "monitor configuration does not match the blueprint: " ++
      String.intercalate "; " (issues.map MonitorIssue.message)
  | programWindows e => "could not expose program windows to scripts: " ++ e.message
  | initScript e => e.message

end RunError

end DeskPlan
