import DeskPlan.Command.Workspace

/-!
# `DeskPlan.Command.Verifying`: the command that verifies a blueprint

The problems of a blueprint file are listed. Problems that only show on a desktop are looked for
when there is one.
-/

set_option autoImplicit false

namespace DeskPlan.Command

/-- The problems of a file. -/
structure VerifiedFile where
  path : String
  /-- Whether there was a desktop. -/
  hostChecked : Bool
  problems : List String
deriving DecidableEq, Repr

namespace VerifiedFile

/-- Whether there is no problem. -/
def isClean (v : VerifiedFile) : Bool := v.problems.isEmpty

/-- The problems as a document. -/
def toJson (v : VerifiedFile) : Json :=
  .obj [("path", .str v.path), ("valid", .bool v.isClean), ("hostChecked", .bool v.hostChecked),
    ("errors", .strings v.problems)]

/-- The problems in words. -/
def lines (v : VerifiedFile) : List String :=
  if v.isClean then ["✓ Blueprint is valid: " ++ v.path]
  else [s!"✗ Blueprint has {v.problems.length} error(s): {v.path}", ""] ++
    v.problems.map ("  - " ++ ·)

/-- The problems in the form asked for. -/
def output (v : VerifiedFile) : OutputForm → String
  | .json => resultLine v.toJson
  | .quiet => ""
  | _ => asLines v.lines

end VerifiedFile

namespace Workspace

/-- The events of looking for a desktop that need not be there. -/
def desktopEvents (s : Workspace) : List Event :=
  match Desktop.openAt s.desktopPath s.files with
  | .ok d => (s.desktopPath.map fun path => Desktop.openedEvent path d).toList
  | .error e =>
    [{ level := .debug, target := .command
       message := "verifying without host checks: " ++ e.account.line }]

/-- Lists the problems of a file. -/
def verifyFile (s : Workspace) (path : String) : Work VerifiedFile := do
  Work.tell s.desktopEvents
  let desktop := (Desktop.openAt s.desktopPath s.files).toOption
  let problems ← Work.ofExcept
    (fun e : Blueprint.InspectError => ⟨.badFile, e.account.line, [], []⟩)
    (Blueprint.fileProblems path desktop s.settings.fuzzyThreshold.val.toNat s.files)
  let problems ← Work.ofChecked problems
  return ⟨path, desktop.isSome, problems.map Problem.message⟩

/-- The command that verifies a blueprint. -/
def verifyCommand (s : Workspace) (path : String) : Work (Exit × String) := do
  let v ← s.verifyFile path
  return (if v.isClean then .success else .badFile, v.output s.form)

end Workspace

end DeskPlan.Command
