import DeskPlan.Command.Request
import DeskPlan.Settings.Store

/-!
# `DeskPlan.Command.Configuring`: the command that shows and changes settings

Each action reads the file of the settings anew. A file is written only after everything that can
go wrong with the change has been looked at.
-/

set_option autoImplicit false

namespace DeskPlan.Command

/-- The settings with one of them changed, and the files with the changed settings. -/
def changeSetting (path key value : String) (files : FileTree) : Except Account FileTree := do
  let (settings, files) ← (Settings.load path files).mapError (·.account)
  let settings ← (settings.set key value).mapError (·.account)
  (settings.save path files).mapError (·.account)

namespace SettingsAction

/-- Carries an action out. The result is what is told about it, with the files as they are
afterwards. -/
def run (action : SettingsAction) (path : String) (files : FileTree) :
    Except Account (String × FileTree) :=
  match action with
  | .show => do
    let (settings, files) ← (Settings.load path files).mapError (·.account)
    return (settings.text, files)
  | .path => .ok (path, files)
  | .set key value => do
    let files ← changeSetting path key value files
    return (s!"Set {key} = {value}", files)
  | .reset => do
    let files ← (Settings.save {} path files).mapError (·.account)
    return ("Configuration reset to defaults", files)

end SettingsAction

end DeskPlan.Command
