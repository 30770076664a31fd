import DeskPlan.Json.Schema
import DeskPlan.Json.Value
import DeskPlan.Number.Reading
import DeskPlan.Text.Account
import DeskPlan.Text.Blank
import DeskPlan.Text.Case

/-!
# `DeskPlan.Settings.Basic`: the settings of the program

`Settings` are kept in a document whose only field is `settings`. `Settings.assign` changes the one
setting that a key names in place, or says why it does not; `Settings.set` gives the settings after
a change that has succeeded.
-/

set_option autoImplicit false

namespace DeskPlan

/-- The greatest edit distance of a suggested name as long as none is set. -/
def Settings.defaultThreshold : Word64 := ⟨2, by decide, by decide⟩

/-- The settings of the program. -/
structure Settings where
  /-- The directories in which blueprints are looked for. -/
  blueprintDirs : List String := ["."]
  /-- Whether runs are dry by default. -/
  dryRun : Bool := false
  /-- The greatest edit distance of a suggested name. -/
  fuzzyThreshold : Word64 := Settings.defaultThreshold
  /-- The level up to which events are shown. -/
  logLevel : Option String := none
deriving DecidableEq, Repr

namespace Settings

/-! ### Documents -/

/-- The fields of the settings in a document. -/
def schema : Json.Schema (List String × Bool × Word64 × Option String × Unit) :=
  let defaults : Settings := {}
  .withDefault "blueprint_dirs" (.list .string) defaults.blueprintDirs <|
  .withDefault "dry_run" .bool defaults.dryRun <|
  .withDefault "fuzzy_threshold" .size defaults.fuzzyThreshold <|
  .optional "log_level" .string .done

/-- Reads the settings. -/
def decodeFields : Json.Decoder Settings := fun v => do
  let (blueprintDirs, dryRun, fuzzyThreshold, logLevel, ()) ← schema.record "Settings" v
  return ⟨blueprintDirs, dryRun, fuzzyThreshold, logLevel⟩

/-- Reads the settings out of the document that holds them. -/
def decode : Json.Decoder Settings := fun v => do
  let (settings, ()) ←
    (Json.Schema.withDefault "settings" decodeFields {} .done).record "Config" v
  return settings

/-- The document that holds the settings. -/
def toJson (s : Settings) : Json :=
  .obj [("settings", .obj ([("blueprint_dirs", .strings s.blueprintDirs),
    ("dry_run", .bool s.dryRun), ("fuzzy_threshold", .int s.fuzzyThreshold.val)] ++
    Json.fieldIf "log_level" .str s.logLevel))]

/-- The text in which the settings are kept. -/
def text (s : Settings) : String := s.toJson.pretty

/-! ### Changes -/

/-- Why a setting is not changed. -/
inductive SetError where
  | badBoolean (value : String)
  | badNumber (value : String) (cause : IntegerFault)
  | noDirectory
  | unknownKey (key : String)
deriving DecidableEq, Repr

/-- The error in words. -/
def SetError.account : SetError → Account
  | badBoolean value =>
    ⟨s!"Invalid boolean value: {value}. Use true/false, yes/no, 1/0, or on/off", []⟩
  | badNumber value cause => ⟨s!"Invalid number: {value}", [cause.message]⟩
  | noDirectory => ⟨"blueprint_dirs needs at least one directory", []⟩
  | unknownKey key =>
    ⟨s!"Unknown config key: {key}. Valid keys: settings.blueprint_dirs, settings.dry_run, " ++
      "settings.fuzzy_threshold, settings.log_level", []⟩

/-- The truth value a word stands for. -/
def readBool (value : String) : Except SetError Bool :=
  let word := Text.lower value
  if ["true", "1", "yes", "on"].contains word then .ok true
  else if ["false", "0", "no", "off"].contains word then .ok false
  else .error (.badBoolean value)

/-- The number that a text gives. -/
def readThreshold (value : String) : Except SetError Word64 :=
  (readWord64 value).mapError (.badNumber value)

/-- The directories of a list separated by commas. -/
def readDirs (value : String) : Except SetError (List String) :=
  let dirs := ((Text.pieces ',' value).map Text.trim).filter (!·.isEmpty)
  if dirs.isEmpty then .error .noDirectory else .ok dirs

/-- The level a text names; nothing and `none` name no level. -/
def readLevel (value : String) : Option String :=
  -- Whether a level is known is left to the log.
  let level := Text.trim value
  if level.isEmpty || level = "none" then none else some level

/-- Changes the setting that a key names in place. -/
def assign (key value : String) : ExceptT SetError (StateM Settings) Unit := do
  if key = "settings.dry_run" then
    let b ← readBool value
    modify fun s => { s with dryRun := b }
  else if key = "settings.fuzzy_threshold" then
    let n ← readThreshold value
    modify fun s => { s with fuzzyThreshold := n }
  else if key = "settings.blueprint_dirs" then
    let dirs ← readDirs value
    modify fun s => { s with blueprintDirs := dirs }
  else if key = "settings.log_level" then
    modify fun s => { s with logLevel := readLevel value }
  else throw (.unknownKey key)

/-- The settings after a change that has succeeded. -/
def set (s : Settings) (key value : String) : Except SetError Settings :=
  match (assign key value).run s with
  | (.ok (), s) => .ok s
  | (.error e, _) => .error e

end Settings

end DeskPlan
