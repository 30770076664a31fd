import DeskPlan.Command.Options
import DeskPlan.Log.Filter

/-!
# `DeskPlan.Command.Request`: what the program is asked to do

A `Request` is a command with the options that any command takes. `Request.read` makes one out of
the arguments. An option that any command takes may stand before or after the command's name; of
two values given at different levels the inner one counts.
-/

set_option autoImplicit false

namespace DeskPlan.Command

/-- What can be listed. -/
inductive Resource where
  | monitors
  | windows
  | blueprints
deriving DecidableEq, Repr

namespace Resource

/-- The resources by name. -/
def known : List (String × Resource) :=
  [("monitors", monitors), ("windows", windows), ("blueprints", blueprints)]

end Resource

/-- A shell for which completions can be made. -/
inductive Shell where
  | bash
  | elvish
  | fish
  | powershell
  | zsh
deriving DecidableEq, Repr

namespace Shell

/-- The shells by name. -/
def known : List (String × Shell) :=
  [("bash", bash), ("elvish", elvish), ("fish", fish), ("powershell", powershell), ("zsh", zsh)]

end Shell

/-- What is done with the settings. -/
inductive SettingsAction where
  | show
  | path
  | set (key value : String)
  | reset
deriving DecidableEq, Repr

/-- A command. -/
inductive Action where
  | apply (blueprint : Option String) (dryRun : Bool) (pick : Option String)
  | check (blueprint : Option String)
  | verify (blueprint : String)
  | list (resource : Option Resource) (names : Bool) (format : Option String)
  | settings (action : SettingsAction)
  | completions (shell : Shell)
deriving DecidableEq, Repr

/-- A command with the options that any command takes. -/
structure Request where
  action : Action
  settingsPath : Option String := none
  desktopPath : Option String := none
  json : Bool := false
  noJson : Bool := false
  quiet : Bool := false
  log : LogChoice := {}
deriving DecidableEq, Repr

namespace Request

/-! ### Forms -/

/-- The options that any command takes. -/
def commonOptions : List OptionForm :=
  [⟨"config", none, .path⟩, ⟨"desktop", none, .text⟩, ⟨"json", some 'j', .flag⟩,
    ⟨"no-json", none, .flag⟩, ⟨"quiet", some 'q', .flag⟩, ⟨"trace", none, .flag⟩,
    ⟨"debug", none, .flag⟩, ⟨"log-level", none, .text⟩, ⟨"log-filter", none, .text⟩]

/-- The commands on the settings. -/
def settingsCommands : List String := ["show", "path", "set", "reset"]

/-- The level of the program itself. -/
def programLevel : Level where
  options := commonOptions
  commands := ["apply", "check", "verify", "list", "config", "completions", "help"]
  hasVersion := true

/-- The level of a command. -/
def commandLevel (command : String) : Level :=
  match command with
  | "apply" =>
    { options := commonOptions ++ [⟨"dry-run", none, .flag⟩, ⟨"pick", none, .text⟩]
      places := [.path] }
  | "check" => { options := commonOptions, places := [.path] }
  | "verify" => { options := commonOptions, places := [.path] }
  | "list" =>
    { options := (commonOptions.filter fun o => o.name ≠ "json") ++
        [⟨"json", none, .flag⟩, ⟨"names", none, .flag⟩, ⟨"format", none, .text⟩]
      places := [.oneOf (Resource.known.map Prod.fst)] }
  | "config" => { options := commonOptions, commands := settingsCommands ++ ["help"] }
  | "completions" =>
    { options := commonOptions, places := [.oneOf (Shell.known.map Prod.fst)] }
  | _ => { options := commonOptions }

/-- The level of a command on the settings. -/
def settingsLevel (command : String) : Level :=
  { options := commonOptions, places := if command = "set" then [.text, .text] else [] }

/-- The options that exclude each other at one level. -/
def conflicts : List (String × String) :=
  [("json", "no-json"), ("trace", "debug"), ("trace", "log-level"), ("trace", "log-filter"),
    ("debug", "log-level"), ("debug", "log-filter"), ("names", "json"), ("format", "json"),
    ("format", "names")]

/-! ### Reading -/

/-- Whether help is asked for on a command that exists. -/
def helpHalt : List String → Halt
  | [] => .help
  | ["config", c] => if (settingsCommands ++ ["help"]).contains c then .help else .usage
  | [c] => if programLevel.commands.contains c then .help else .usage
  | _ => .usage

/-- The action that a command and its plain arguments ask for. -/
def actionOf (command : String) (r : Reading) : Option Action :=
  match command, r.plain with
  | "apply", plain => some (.apply plain.head? (r.has "dry-run") (r.value? "pick"))
  | "check", plain => some (.check plain.head?)
  | "verify", [path] => some (.verify path)
  | "list", [] => some (.list none (r.has "names") (r.value? "format"))
  | "list", [resource] =>
    (Resource.known.lookup resource).map fun x => .list (some x) (r.has "names") (r.value? "format")
  | "completions", [shell] => (Shell.known.lookup shell).map .completions
  | _, _ => none

/-- The action on the settings that a command and its plain arguments ask for. -/
def settingsActionOf (command : String) (r : Reading) : Option Action :=
  match command, r.plain with
  | "show", [] => some (.settings .show)
  | "path", [] => some (.settings .path)
  | "set", [key, value] => some (.settings (.set key value))
  | "reset", [] => some (.settings .reset)
  | _, _ => none

/-- The request of an action with what was given at the levels, the innermost first. -/
def assemble (action : Action) (readings : List Reading) : Request :=
  let has (name : String) : Bool := readings.any fun r => r.has name
  let value? (name : String) : Option String := readings.findSome? fun r => r.value? name
  { action := action
    settingsPath := value? "config"
    desktopPath := value? "desktop"
    json := has "json"
    noJson := has "no-json"
    quiet := has "quiet"
    log := ⟨has "trace", has "debug", value? "log-level", value? "log-filter"⟩ }

/-- The request that an action and the readings of the levels make, the innermost level first. -/
def ofReadings (action : Option Action) (readings : List Reading) : Except Halt Request :=
  match action with
  | some action =>
    -- Options that exclude each other may stand at different levels.
    if readings.any fun r => conflicts.any r.hasBoth then .error .usage
    else .ok (assemble action readings)
  | none => .error .usage

/-- The request that arguments make. -/
def read (arguments : List String) : Except Halt Request :=
  match programLevel.read arguments with
  | .error h => .error h
  | .ok outer =>
    match outer.next with
    | none => .error .usage
    | some (command, rest) =>
      if command = "help" then .error (helpHalt rest)
      else
        match (commandLevel command).read rest with
        | .error h => .error h
        | .ok inner =>
          match inner.next with
          | none => ofReadings (actionOf command inner) [inner, outer]
          | some (command, rest) =>
            if command = "help" then .error (helpHalt ("config" :: rest))
            else
              match (settingsLevel command).read rest with
              | .error h => .error h
              | .ok innermost =>
                ofReadings (settingsActionOf command innermost) [innermost, inner, outer]

end Request

end DeskPlan.Command
