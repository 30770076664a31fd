import DeskPlan.Blueprint.Store
import DeskPlan.Command.Reply
import DeskPlan.Desktop.Store
import DeskPlan.Settings.Store

/-!
# `DeskPlan.Command.Workspace`: what commands work with

A `Workspace` holds what the commands on blueprints and desktops share: the settings, the files and
the form of the result.
-/

set_option autoImplicit false

namespace DeskPlan.Command

/-- What commands work with. -/
structure Workspace where
  settings : Settings
  form : OutputForm
  /-- The file of the desktop to work on. -/
  desktopPath : Option String
  home : Option String
  files : FileTree
  /-- Whether questions can be asked. -/
  interactive : Bool
  /-- What is answered to a question. -/
  answer : String

namespace Workspace

/-- Opens the desktop. -/
def readDesktop (s : Workspace) : Work Desktop := do
  let d ← Work.ofExcept (fun e : Desktop.OpenError => ⟨.failure, e.account.line, [], []⟩)
    (Desktop.openAt s.desktopPath s.files)
  match s.desktopPath with
  | some path => Work.tell [Desktop.openedEvent path d]
  | none => pure ()
  return d

/-- The directories in which blueprints are looked for. -/
def directories (s : Workspace) : List String :=
  s.settings.directories s.home s.files.currentPath

/-- The paths of the blueprint files in the directories of the settings. -/
def blueprintPaths (s : Workspace) : List String := Blueprint.findFiles s.directories s.files

/-- Looks for blueprint files. -/
def findBlueprints (s : Workspace) : Work (List String) := do
  Work.tell (Blueprint.findEvents s.directories s.files)
  return s.blueprintPaths

/-- Loads a blueprint that was asked for. -/
def load (s : Workspace) (path : String) : Work Blueprint := do
  let b ← Work.ofExcept (fun e : Blueprint.LoadError => ⟨.badFile, e.account.line, [], []⟩)
    (Blueprint.load path s.files)
  Work.tell [Blueprint.loadedEvent path b]
  return b

/-- The events of loading a blueprint that may be unreadable. -/
def loadEvents (s : Workspace) (path : String) : List Event :=
  match Blueprint.load path s.files with
  | .ok b => [Blueprint.loadedEvent path b]
  | .error _ => []

end Workspace

end DeskPlan.Command
