import DeskPlan.Command.Run

/-!
# `DeskPlan.Main`: the program

The program looks at the files that a run can ask about, carries the run out, and writes what it
changed and what it has to say. Everything it decides is decided by `Command.run`.
-/

set_option autoImplicit false

namespace DeskPlan.Main

open DeskPlan.Command

/-- A location as a path. -/
def pathOf (location : Location) : String := "/" ++ String.intercalate "/" location

/-- The tree with what a location holds. -/
def look (t : FileTree) (location : Location) : IO FileTree := do
  let place := (← IO.currentDir) / pathOf location
  if ← place.isDir then return t.insert location .directory
  else if ← place.pathExists then
    try return t.insert location (.file (← IO.FS.readFile place))
    catch
      | .permissionDenied .. => return t.insert location (.unreadable .denied)
      | _ => return t.insert location (.unreadable .notText)
  else return t

/-- The tree with what lies along a path. -/
def lookAlong (t : FileTree) (path : String) : IO FileTree := do
  let mut t := t
  let mut location := t.current
  for s in Path.steps path do
    location := FileTree.step location s
    t ← look t location
  return t

/-- The tree with the blueprint files of a directory. -/
def lookInside (t : FileTree) (path : String) : IO FileTree := do
  let mut t ← lookAlong t path
  match t.locate path with
  | .error _ => return t
  | .ok location =>
    let place := (← IO.currentDir) / pathOf location
    if ← place.isDir then
      for entry in ← place.readDir do
        if entry.fileName.endsWith Blueprint.fileSuffix then
          t ← look t (location ++ [entry.fileName])
    return t

/-- The files that a request can ask about. -/
def observe (r : Request) (e : Environment) (t : FileTree) : IO FileTree := do
  let mut t := t
  if let .ok path := Settings.path r.settingsPath e then
    t ← lookAlong t path
  if let some path := r.desktopPath.or e.desktopPath then
    t ← lookAlong t path
  match r.action with
  | .apply (some path) _ _ | .check (some path) | .verify path => t ← lookAlong t path
  | _ => pure ()
  if let (.ok settings, _) := loadSettings r { arguments := [], environment := e, files := t } then
    for d in settings.directories e.home t.currentPath do
      t ← lookInside t d
  return t

/-- Writes the files and directories of a tree that are not the same in another. -/
def writeChanges (before after : FileTree) : IO Unit := do
  for (location, entry) in after.entries do
    if before.entry? location ≠ some entry then
      match entry with
      | .directory => IO.FS.createDirAll (pathOf location)
      | .file content => IO.FS.writeFile (pathOf location) content
      -- A run makes no file unreadable.
      | .unreadable _ => pure ()

/-- The variables of the environment that the program knows. -/
def readEnvironment : IO Environment := do
  let names := ["HOME", "BWM_CONFIG", "BWM_DESKTOP", "RUST_LOG"]
  let values ← names.mapM fun n => do return (n, ← IO.getEnv n)
  return .ofVariables fun n => (values.lookup n).join

/-- Carries a run out and writes what it has to say. A question is asked before it is answered. -/
def perform (s : Surroundings) : IO Ended := do
  let stderr ← IO.getStderr
  let say (filter : LogFilter) (notes : List Note) : IO Unit :=
    stderr.putStr (String.join (notes.filterMap (Note.shown? filter)))
  let first := run s
  let asked := first.reply.notes.takeWhile fun n => !n.isQuestion
  let ended ←
    if asked.length = first.reply.notes.length then do
      say first.filter first.reply.notes
      pure first
    else do
      let told := asked.length + 1
      say first.filter (first.reply.notes.take told)
      stderr.flush
      let answered := run { s with answer := ← (← IO.getStdin).getLine }
      say answered.filter (answered.reply.notes.drop told)
      pure answered
  (← IO.getStdout).putStr ended.reply.output
  return ended

end DeskPlan.Main

open DeskPlan DeskPlan.Main in
/-- Runs the program on its arguments. -/
def main (arguments : List String) : IO UInt32 := do
  let environment ← readEnvironment
  let current := (Text.pieces '/' (← IO.currentDir).toString).filter (!·.isEmpty)
  let mut files : FileTree := ⟨[], []⟩
  for n in List.range current.length do
    files ← look files (current.take (n + 1))
  files := { files with current := current }
  if let .ok request := Command.Request.read arguments then
    files ← observe request environment files
  let ended ← perform
    { arguments := arguments, environment := environment, files := files
      inputIsTerminal := ← (← IO.getStdin).isTty
      outputIsTerminal := ← (← IO.getStdout).isTty }
  writeChanges files ended.files
  return UInt32.ofNat ended.reply.exit.code
