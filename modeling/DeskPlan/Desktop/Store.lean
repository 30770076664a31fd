import DeskPlan.Desktop.Snapshot
import DeskPlan.Files.Tree
import DeskPlan.Log.Event
import DeskPlan.Text.Account

/-!
# `DeskPlan.Desktop.Store`: opening a desktop

The program works on a desktop that is written down in a file. `Desktop.load` opens one.
-/

set_option autoImplicit false

namespace DeskPlan.Desktop

/-- Why there is no desktop to work on. -/
inductive OpenError where
  | unsupported
  | unreadable (path : String) (cause : FileError)
  | invalid (path : String) (cause : Json.DecodeError)

/-- The error in words. -/
def OpenError.account : OpenError → Account
  | unsupported =>
    ⟨"native desktop introspection is only supported on Windows; pass --desktop " ++
      "<snapshot.json> or set BWM_DESKTOP", []⟩
  | unreadable path cause => ⟨s!"failed to read desktop snapshot {path}", [cause.message]⟩
  | invalid path cause => ⟨s!"invalid desktop snapshot {path}", [cause.message]⟩

/-- Opens the desktop written down in a file. -/
def load (path : String) (files : FileTree) : Except OpenError Desktop := do
  let content ← (files.read path).mapError (.unreadable path)
  (Json.decodeText decode content).mapError (.invalid path)

/-- Opens the desktop to work on, if a file is given. -/
def openAt (path : Option String) (files : FileTree) : Except OpenError Desktop :=
  match path with
  | some p => load p files
  | none => .error .unsupported

/-- The event of opening a desktop. -/
def openedEvent (path : String) (d : Desktop) : Event :=
  { level := .debug, target := .snapshot, message := "loaded desktop snapshot"
    fields := [("path", path), ("monitors", toString d.monitors.length),
      ("windows", toString d.windows.length)] }

end DeskPlan.Desktop
