import DeskPlan.Blueprint.Candidate
import DeskPlan.Blueprint.Diagnosis
import DeskPlan.Files.Tree
import DeskPlan.Log.Event
import DeskPlan.Text.Account

/-!
# `DeskPlan.Blueprint.Store`: the files of blueprints

`Blueprint.load` reads a blueprint from a file, `Blueprint.findFiles` finds the blueprint files of
directories, `Blueprint.candidates` loads files and checks the monitors of the blueprints, and
`Blueprint.fileProblems` lists the problems of a file.
-/

set_option autoImplicit false

namespace DeskPlan.Blueprint

/-- The end of the names of blueprint files. -/
def fileSuffix : String := ".windowblueprint.json"

/-- Why a blueprint cannot be loaded. -/
inductive LoadError where
  | unreadable (path : String) (cause : FileError)
  | invalid (path : String) (cause : ParseError)

/-- The error in words. -/
def LoadError.account : LoadError → Account
  | unreadable path cause => ⟨s!"failed to read blueprint: {path}", [cause.message]⟩
  | invalid path cause => ⟨s!"failed to parse blueprint: {path}", [cause.message]⟩

/-- The name of a file without the end that names of blueprint files have. -/
def nameOfFile (path : String) : String :=
  let name := (Path.fileName path).getD ""
  if name.endsWith fileSuffix then
    String.ofList (name.toList.take (name.length - fileSuffix.length))
  else name

/-- The blueprint with the name of its file, if it has none of its own. -/
def withNameOf (b : Blueprint) (path : String) : Blueprint :=
  if b.name.isEmpty then { b with name := nameOfFile path } else b

/-- Reads a blueprint from a file. -/
def load (path : String) (files : FileTree) : Except LoadError Blueprint := do
  let content ← (files.read path).mapError (.unreadable path)
  let b ← (parse content).mapError (.invalid path)
  return b.withNameOf path

/-- The event of loading a blueprint. -/
def loadedEvent (path : String) (b : Blueprint) : Event :=
  { level := .debug, target := .blueprint, message := "loaded blueprint"
    fields := [("name", b.name), ("rules", toString b.rules.length), ("path", path)] }

/-! ### Discovery -/

/-- The paths of the blueprint files that lie directly in a directory. -/
def filesIn (files : FileTree) (directory : String) : List String :=
  match files.locate directory with
  | .ok location =>
    ((files.fileNames location).filter (·.endsWith fileSuffix)).map (Path.join directory)
  | .error _ => []

/-- The paths of the blueprint files of directories, in order, each once. A directory that does
not exist has none. -/
def findFiles (directories : List String) (files : FileTree) : List String :=
  Path.sorted ((directories.filter files.isDirectory).flatMap (filesIn files))

/-- The events of looking for blueprint files. -/
def findEvents (directories : List String) (files : FileTree) : List Event :=
  (directories.filter fun d => !files.isDirectory d).map fun (d : String) =>
    { level := .warn, target := .blueprint, message := "blueprint directory not found, skipping"
      fields := [("dir", d)] }

/-! ### Candidates -/

/-- A loaded blueprint with the outcome of the check of its monitors. -/
def candidate? (path : String) (b : Blueprint) (monitors : List Monitor) : Checked Candidate :=
  (MonitorCheck.of? b.monitorMatch monitors).map fun m => ⟨path, b, m.issues⟩

/-- The event of loading and checking a candidate. -/
def candidateEvent (c : Candidate) : Event :=
  if c.issues.isEmpty then
    { level := .info, target := .blueprint
      message :=
        s!"loaded blueprint '{c.blueprint.name}' ({c.blueprint.rules.length} rules, {c.path})" }
  else
    { level := .warn, target := .blueprint
      message := s!"blueprint '{c.blueprint.name}' does not match the monitors: " ++
        String.intercalate "; " (c.issues.map MonitorIssue.message) }

/-- The blueprints of files that can be loaded, checked against live monitors, with the events on
the way. -/
def candidates (monitors : List Monitor) (files : FileTree) :
    List String → Checked (List Candidate) × List Event
  | [] => (some [], [])
  | path :: rest =>
    match load path files with
    | .error e =>
      match candidates monitors files rest with
      | (found, later) =>
        (found, { level := .warn, target := .blueprint
                  message := s!"skipping {path}: {e.account.line}" } :: later)
    | .ok b =>
      match candidate? path b monitors with
      | none => (none, [loadedEvent path b])
      | some c =>
        match candidates monitors files rest with
        | (found, later) =>
          (found.map (c :: ·), loadedEvent path b :: candidateEvent c :: later)

/-! ### Verification -/

/-- Why a file cannot be verified. -/
inductive InspectError where
  | missing (path : String)
  | unreadable (path : String) (cause : FileError)
  | invalid (cause : Json.DecodeError)

/-- The error in words. -/
def InspectError.account : InspectError → Account
  | missing path => ⟨s!"blueprint file not found: {path}", []⟩
  | unreadable path cause => ⟨s!"failed to read blueprint: {path}", [cause.message]⟩
  | invalid cause => ⟨"invalid JSON: " ++ cause.message, []⟩

/-- The problems of the blueprint in a file. -/
def fileProblems (path : String) (desktop : Option Desktop) (threshold : Nat) (files : FileTree) :
    Except InspectError (Checked (List Problem)) := do
  if files.holds path then
    let content ← (files.read path).mapError (.unreadable path)
    let b ← (Json.decodeText decode content).mapError .invalid
    return b.problems? desktop threshold
  else .error (.missing path)

end DeskPlan.Blueprint
