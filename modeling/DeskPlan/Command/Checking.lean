import DeskPlan.Command.Workspace

/-!
# `DeskPlan.Command.Checking`: the command that checks monitors

The monitors of the desktop are compared with those of one blueprint, or of every blueprint in the
directories of the settings. The exit status tells whether one fits.
-/

set_option autoImplicit false

namespace DeskPlan.Command

/-- The outcome of a check of one file. -/
structure CheckedFile where
  path : String
  outcome : Except Blueprint.LoadError (Blueprint × MonitorCheck)

namespace CheckedFile

/-- The outcome for a file that cannot be loaded. -/
def unreadable (path : String) (e : Blueprint.LoadError) : CheckedFile := ⟨path, .error e⟩

/-- The outcome for a blueprint. -/
def of? (path : String) (monitors : List Monitor) (b : Blueprint) : Checked CheckedFile :=
  (MonitorCheck.of? b.monitorMatch monitors).map fun m => ⟨path, .ok (b, m)⟩

/-- Whether the monitors fit. -/
def fits (c : CheckedFile) : Bool :=
  match c.outcome with
  | .ok (_, m) => m.issues.isEmpty
  | .error _ => false

/-- The monitors that the names of the blueprint stand for, by their own names. -/
def monitorNames (m : MonitorCheck) : List (String × Option String) :=
  m.entries.entries.map fun e => (e.1, e.2.map (·.name))

/-- The outcome as a document. -/
def toJson (c : CheckedFile) : Json :=
  match c.outcome with
  | .ok (b, m) =>
    .obj [("path", .str c.path), ("name", .str b.name), ("valid", .bool c.fits),
      ("monitors", .obj ((monitorNames m).map fun e => (e.1, .optStr e.2))),
      ("issues", .list (m.issues.map MonitorIssue.toJson))]
  | .error e =>
    .obj [("path", .str c.path), ("valid", .bool false), ("monitors", .obj []),
      ("issues", .list []), ("error", .str e.account.line)]

/-- The outcome in words. -/
def lines (c : CheckedFile) : List String :=
  let mark := if c.fits then "✓" else "✗"
  match c.outcome with
  | .ok (b, m) =>
    [s!"{mark} {b.name} ({c.path})"] ++
      (monitorNames m).map (fun e => s!"    {e.1} -> " ++ e.2.getD "(no match)") ++
      m.issues.map (fun i => "    - " ++ i.message)
  | .error e => [s!"{mark} <unreadable> ({c.path})", "    - " ++ e.account.line]

/-- The outcomes in the form asked for. -/
def output (cs : List CheckedFile) : OutputForm → String
  | .json => resultLine (.obj [("items", .list (cs.map toJson))])
  | .quiet => ""
  | _ => asLines (cs.flatMap lines ++ if cs.isEmpty then ["No blueprints found."] else [])

end CheckedFile

namespace Workspace

/-- Checks a file that was asked for. -/
def checkExplicit (s : Workspace) (path : String) (monitors : List Monitor) :
    Work (List CheckedFile) := do
  let b ← s.load path
  let c ← Work.ofChecked (CheckedFile.of? path monitors b)
  return [c]

/-- Checks a file. One that cannot be loaded is an outcome, too. -/
def checkFile (s : Workspace) (monitors : List Monitor) (path : String) : Work CheckedFile :=
  match Blueprint.load path s.files with
  | .error e => return .unreadable path e
  | .ok b => do
    Work.tell [Blueprint.loadedEvent path b]
    Work.ofChecked (CheckedFile.of? path monitors b)

/-- Checks files. -/
def checkFiles (s : Workspace) (monitors : List Monitor) : List String → Work (List CheckedFile)
  | [] => return []
  | path :: rest => do
    let c ← s.checkFile monitors path
    let later ← s.checkFiles monitors rest
    return c :: later

/-- Checks the files in the directories of the settings. -/
def checkFound (s : Workspace) (monitors : List Monitor) : Work (List CheckedFile) := do
  s.checkFiles monitors (← s.findBlueprints)

/-- Checks the file that was asked for, or the files in the directories. -/
def checkBlueprints (s : Workspace) (explicit : Option String) (monitors : List Monitor) :
    Work (List CheckedFile) :=
  match explicit with
  | some path => s.checkExplicit path monitors
  | none => s.checkFound monitors

/-- The exit status of a check. -/
def checkExit (cs : List CheckedFile) (explicit : Option String) : Exit :=
  if cs.any CheckedFile.fits then .success
  else if explicit.isSome then .mismatch else .noBlueprint

/-- The command that checks monitors. -/
def checkCommand (s : Workspace) (explicit : Option String) : Work (Exit × String) := do
  let d ← s.readDesktop
  let cs ← s.checkBlueprints explicit d.monitors
  return (checkExit cs explicit, CheckedFile.output cs s.form)

end Workspace

end DeskPlan.Command
