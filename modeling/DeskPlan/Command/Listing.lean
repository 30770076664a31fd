import DeskPlan.Command.Request
import DeskPlan.Command.Workspace
import DeskPlan.Command.Template

/-!
# `DeskPlan.Command.Listing`: the command that lists things

Monitors, windows and blueprint files are listed by name, by a template, as a document or in
words.
-/

set_option autoImplicit false

namespace DeskPlan.Command

/-- A list in all its forms. -/
structure Listing where
  /-- The items as the fields of documents. -/
  items : List (List (String × Json))
  /-- The names of the items that have one. -/
  names : List String
  /-- The list in words. -/
  lines : List String

namespace Listing

/-- The list in the form asked for. -/
def output (l : Listing) : OutputForm → String
  | .names => asLines l.names
  | .format template => asLines (l.items.map (fillTemplate template))
  | .json => resultLine (.obj [("items", .list (l.items.map .obj))])
  -- A list is the whole point of the command, so it is shown even when silence is asked for.
  | .text | .quiet => asLines l.lines

/-! ### Monitors -/

/-- A monitor with its box, as the fields of a document. -/
def monitorFields (m : Monitor) (box : Box) : List (String × Json) :=
  [("handle", .str (handleText m.handle)), ("name", .str m.name),
    ("x", .int box.left.val), ("y", .int box.top.val), ("width", .int box.width.val),
    ("height", .int box.height.val), ("dpiX", .int m.dpiX.val), ("dpiY", .int m.dpiY.val),
    ("workArea", m.workAreaRect.toJson)]

/-- A monitor in words, with what a blueprint says to mean it. -/
def monitorLines? (m : Monitor) : Checked (List String) := do
  let description ← m.describe?
  let fingerprint ← m.fingerprint?
  return [s!"  {description} [{handleText m.handle}]",
    "    monitorMatch: " ++ fingerprint.toJson.compact]

/-- The list of monitors. All are measured, whatever the form of the list. -/
def ofMonitors? (monitors : List Monitor) : Checked Listing := do
  let items ← Checked.tagged (fun m => m.monitorRect.box?) monitors
  let lines ← Checked.tagged monitorLines? monitors
  return {
    items := items.map fun i => monitorFields i.1 i.2
    names := monitors.map (·.name)
    lines := ["Monitors:"] ++ lines.flatMap Prod.snd ++
      ["", s!"Total: {monitors.length} monitors"] }

/-! ### Windows -/

/-- A window as the fields of a document. -/
def windowFields (w : Window) : List (String × Json) :=
  ("program", .str w.fileName) :: w.fields

/-- A window in words. -/
def windowLine (w : Window) : String :=
  let program := if w.fileName.isEmpty then "<unknown>" else w.fileName
  s!"  {handleText w.handle} {program} [{w.className}] {w.title}"

/-- The list of windows. -/
def ofWindows (windows : List Window) : Listing where
  items := windows.map windowFields
  names := windows.map (·.title)
  lines := ["Windows:"] ++ windows.map windowLine ++ ["", s!"Total: {windows.length} windows"]

/-! ### Blueprints -/

/-- A blueprint file. -/
structure FoundFile where
  path : String
  loaded : Except Blueprint.LoadError Blueprint

/-- A blueprint file as the fields of a document. -/
def FoundFile.fields (f : FoundFile) : List (String × Json) :=
  match f.loaded with
  | .ok b =>
    [("path", .str f.path), ("name", .str b.name), ("rules", .int b.rules.length),
      ("monitors", .strings b.monitorMatch.names)]
  | .error e =>
    [("path", .str f.path), ("rules", .int 0), ("monitors", .list []),
      ("error", .str e.account.line)]

/-- A blueprint file in words. -/
def FoundFile.line (f : FoundFile) : String :=
  match f.loaded with
  | .ok b =>
    s!"  {b.name} ({b.rules.length} rules, monitors: " ++
      String.intercalate ", " b.monitorMatch.names ++ s!") {f.path}"
  | .error e => s!"  ✗ {f.path}: " ++ e.account.line

/-- The name of the blueprint in a file. -/
def FoundFile.name? (f : FoundFile) : Option String := f.loaded.toOption.map (·.name)

/-- The list of blueprint files. -/
def ofFiles (files : List FoundFile) : Listing where
  items := files.map FoundFile.fields
  names := files.filterMap FoundFile.name?
  lines := ["Blueprints:"] ++ files.map FoundFile.line ++
    ["", s!"Total: {files.length} blueprints"]

/-! ### Help -/

/-- What is said when it is not said what to list. -/
def resources : List String :=
  ["Available resources:", "  monitors    Connected monitors",
    "  windows     Visible top-level windows",
    "  blueprints  Blueprint files in the configured directories", "",
    "Usage: bwm list <RESOURCE> [OPTIONS]", "", "Examples:",
    "  bwm list monitors --desktop desktop.json", "  bwm list windows --names",
    "  bwm list monitors --format '\x7bname\x7d: \x7bwidth\x7dx\x7bheight\x7d'"]

end Listing

namespace Workspace

/-- Lists a resource. -/
def listing (s : Workspace) : Resource → Work Listing
  | .monitors => do
    let d ← s.readDesktop
    Work.ofChecked (Listing.ofMonitors? d.monitors)
  | .windows => do
    let d ← s.readDesktop
    return .ofWindows d.liveWindows
  | .blueprints => do
    let paths ← s.findBlueprints
    Work.tell (paths.flatMap s.loadEvents)
    return .ofFiles (paths.map fun path => ⟨path, Blueprint.load path s.files⟩)

/-- The command that lists a resource. -/
def listCommand (s : Workspace) (resource : Resource) : Work (Exit × String) := do
  let l ← s.listing resource
  return (.success, l.output s.form)

end Workspace

end DeskPlan.Command
