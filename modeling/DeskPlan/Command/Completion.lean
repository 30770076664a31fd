import DeskPlan.Command.Request

/-!
# `DeskPlan.Command.Completion`: help at the shell

`Shell.completions` is a script that teaches a shell the words that can follow the program's name.
`helpText` tells how the program is called.
-/

set_option autoImplicit false

namespace DeskPlan.Command

/-- The name of the program. -/
def programName : String := "bwm"

/-- The version of the program. -/
def versionText : String := programName ++ " 0.1.0\n"

/-- An option as it is written. -/
def OptionForm.word (o : OptionForm) : String := "--" ++ o.name

/-- The words that can follow the program's name. -/
def words : List String :=
  Request.programLevel.commands ++ Request.commonOptions.map OptionForm.word

/-- The words that can follow the program's name, each on a line that starts and ends alike. -/
def wordLines (before after : String) : String :=
  String.join (words.map fun w => before ++ w ++ after ++ "\n")

/-- A script that teaches a shell the words that can follow the program's name. -/
def Shell.completions : Shell → String
  | .bash => "complete -W \"" ++ String.intercalate " " words ++ "\" " ++ programName ++ "\n"
  | .zsh =>
    "#compdef " ++ programName ++ "\ncompadd -- " ++ String.intercalate " " words ++ "\n"
  | .fish => wordLines ("complete -c " ++ programName ++ " -f -a '") "'"
  | .powershell =>
    "Register-ArgumentCompleter -Native -CommandName " ++ programName ++
      " -ScriptBlock \x7b\n" ++ wordLines "  '" "'" ++ "\x7d\n"
  | .elvish =>
    "set edit:completion:arg-completer[" ++ programName ++ "] = \x7b |@args|\n" ++
      wordLines "  put '" "'" ++ "\x7d\n"

/-- How the program is called. -/
def usageText : String := s!"Usage: {programName} [OPTIONS] <COMMAND>\n"

/-- How the program is called, with its commands and options. -/
def helpText : String :=
  "Apply declarative window layouts across multiple monitors\n\n" ++ usageText ++
    "\nCommands:\n" ++ String.join (Request.programLevel.commands.map fun c => s!"  {c}\n") ++
    "\nOptions:\n" ++ String.join (Request.commonOptions.map fun o => s!"  {o.word}\n")

end DeskPlan.Command
