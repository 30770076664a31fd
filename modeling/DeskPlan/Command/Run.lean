import DeskPlan.Command.Applying
import DeskPlan.Command.Checking
import DeskPlan.Command.Completion
import DeskPlan.Command.Configuring
import DeskPlan.Command.Listing
import DeskPlan.Command.Verifying

/-!
# `DeskPlan.Command.Run`: a run of the program

`run` is the whole program as a function: from the arguments, the environment and the files to
the exit status, what is written, and the files afterwards. The settings are loaded first, whatever
the command; commands that do not use them do not mind if they cannot be.
-/

set_option autoImplicit false

namespace DeskPlan.Command

/-- What a run starts from. -/
structure Surroundings where
  arguments : List String
  environment : Environment
  files : FileTree
  inputIsTerminal : Bool := false
  outputIsTerminal : Bool := false
  /-- What is answered to a question. -/
  answer : String := ""

/-- What a run ends with. -/
structure Ended where
  reply : Reply
  filter : LogFilter
  files : FileTree

namespace Ended

/-- What is written to the standard error. -/
def errors (e : Ended) : String := String.join (e.reply.notes.filterMap (Note.shown? e.filter))

end Ended

/-- The settings of a run, with the files afterwards; a file that is missing is made. -/
def loadSettings (r : Request) (s : Surroundings) :
    Except Settings.FileFault Settings × FileTree :=
  match (Settings.path r.settingsPath s.environment).bind fun p => Settings.load p s.files with
  | .ok (settings, files) => (.ok settings, files)
  | .error e => (.error e, s.files)

/-- The text of the filter of a run. -/
def filterText (r : Request) (s : Surroundings) (loaded : Except Settings.FileFault Settings) :
    String :=
  r.log.spec s.environment.logFilter (loaded.toOption.bind (·.logLevel))

/-- The answer of a command that needs the settings. -/
def withWorkspace (r : Request) (s : Surroundings) (files : FileTree)
    (loaded : Except Settings.FileFault Settings) (names : Bool) (format : Option String)
    (work : Workspace → Work (Exit × String)) : Reply :=
  let form := OutputForm.choose r.quiet names format r.json r.noJson s.outputIsTerminal
  match loaded with
  | .ok settings =>
    (work ⟨settings, form, r.desktopPath.or s.environment.desktopPath, s.environment.home, files,
      s.inputIsTerminal, s.answer⟩).reply form
  | .error e =>
    (Work.fail ⟨.badFile, e.account.line, [], []⟩ : Work (Exit × String)).reply form

/-- The answer of an action on the settings, with the files afterwards. -/
def settingsReply (action : SettingsAction) (r : Request) (s : Surroundings) (files : FileTree) :
    Reply × FileTree :=
  match ((Settings.path r.settingsPath s.environment).mapError (·.account)).bind fun path =>
      action.run path files with
  | .ok (told, files) => (⟨.success, asLine told, []⟩, files)
  | .error a => (⟨.failure, "", [.text a.report]⟩, files)

/-- The answer to a request, with the files afterwards. -/
def answer (r : Request) (s : Surroundings) (files : FileTree)
    (loaded : Except Settings.FileFault Settings) : Reply × FileTree :=
  match r.action with
  | .apply blueprint dryRun pick =>
    (withWorkspace r s files loaded false none fun x => x.applyCommand blueprint dryRun pick, files)
  | .check blueprint =>
    (withWorkspace r s files loaded false none fun x => x.checkCommand blueprint, files)
  | .verify blueprint =>
    (withWorkspace r s files loaded false none fun x => x.verifyCommand blueprint, files)
  | .list none _ _ => (⟨.success, asLines Listing.resources, []⟩, files)
  | .list (some resource) names format =>
    (withWorkspace r s files loaded names format fun x => x.listCommand resource, files)
  | .settings action => settingsReply action r s files
  | .completions shell => (⟨.success, shell.completions, []⟩, files)

/-- Carries a request out. -/
def perform (r : Request) (s : Surroundings) : Ended :=
  -- A missing file of settings is made even for a command that needs none.
  let (loaded, files) := loadSettings r s
  let text := filterText r s loaded
  let (reply, files) := answer r s files loaded
  let filter := LogFilter.read text
  let complaints := (LogFilter.complaints text).map fun c => Note.text (asLine c)
  ⟨{ reply with notes := complaints ++ reply.notes }.heard filter, filter, files⟩

/-- What a run answers that is not asked to carry anything out. -/
def Halt.reply : Halt → Reply
  | .help => ⟨.success, helpText, []⟩
  | .version => ⟨.success, versionText, []⟩
  | .usage => ⟨.usage, "", [.text usageText]⟩

/-- A run of the program. -/
def run (s : Surroundings) : Ended :=
  match Request.read s.arguments with
  | .ok r => perform r s
  | .error h => ⟨h.reply, ⟨[]⟩, s.files⟩

end DeskPlan.Command
