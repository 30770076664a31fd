import DeskPlan.Files.Tree
import DeskPlan.Settings.Basic

/-!
# `DeskPlan.Settings.Store`: the file of the settings

The settings are kept in a file. `Settings.load` reads it, and makes one with the default
settings if there is none; `Settings.save` writes it. `Settings.directories` are the directories
of the settings as paths.
-/

set_option autoImplicit false

namespace DeskPlan

/-- What the program reads from its environment. -/
structure Environment where
  home : Option String := none
  settingsPath : Option String := none
  desktopPath : Option String := none
  logFilter : Option String := none
deriving DecidableEq, Repr

namespace Environment

/-- The environment that variables make up. An empty path counts as none. -/
def ofVariables (value : String → Option String) : Environment where
  home := (value "HOME").filter (!·.isEmpty)
  settingsPath := (value "BWM_CONFIG").filter (!·.isEmpty)
  desktopPath := (value "BWM_DESKTOP").filter (!·.isEmpty)
  logFilter := value "RUST_LOG"

end Environment

namespace Settings

/-- Why the settings cannot be read or written. -/
inductive FileFault where
  | noHome
  | unreadable (path : String) (cause : FileError)
  | invalid (path : String) (cause : Json.DecodeError)
  | noDirectory (cause : FileError)
  | unwritable (path : String) (cause : FileError)

/-- The fault in words. -/
def FileFault.account : FileFault → Account
  | noHome => ⟨"Could not find home directory", []⟩
  | unreadable path cause => ⟨s!"Failed to read config file: {path}", [cause.message]⟩
  | invalid path cause => ⟨s!"Failed to parse config file: {path}", [cause.message]⟩
  | noDirectory cause => ⟨cause.message, []⟩
  | unwritable path cause => ⟨s!"Failed to write config file: {path}", [cause.message]⟩

/-- The file of the settings: the one asked for, else the one of the environment, else one in the
home directory. -/
def path (explicit : Option String) (e : Environment) : Except FileFault String :=
  match explicit.or e.settingsPath, e.home with
  | some p, _ => .ok p
  | none, some home => .ok (Path.join (Path.join home ".bwm") "config.json")
  | none, none => .error .noHome

/-- Writes the settings to a file. -/
def save (s : Settings) (path : String) (files : FileTree) : Except FileFault FileTree := do
  let files ← (files.makeParent path).mapError .noDirectory
  (files.write path s.text).mapError (.unwritable path)

/-- Reads the settings from a file that exists. -/
def read (path : String) (files : FileTree) : Except FileFault Settings := do
  let content ← (files.read path).mapError (.unreadable path)
  (Json.decodeText decode content).mapError (.invalid path)

/-- Reads the settings from a file; a file that does not exist is made with the default
settings. -/
def load (path : String) (files : FileTree) : Except FileFault (Settings × FileTree) :=
  if files.holds path then (read path files).map fun s => (s, files)
  else (save {} path files).map fun files => ({}, files)

/-- The directories in which blueprints are looked for, as paths. Relative ones lead from
`base`. -/
def directories (s : Settings) (home : Option String) (base : String) : List String :=
  s.blueprintDirs.map fun d => Path.join base (Path.expandHome home d)

end Settings

end DeskPlan
