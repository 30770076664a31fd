import DeskPlan.Files.Path

/-!
# `DeskPlan.Files.Tree`: files and directories

A `FileTree` holds the files and directories below a root and is seen from a current directory.
Every operation takes the path it works on as a text and follows it step by step.

* `FileTree.find` is what a path leads to; `read`, `holds` and `isDirectory` ask about it;
* `FileTree.write` sets the content of a file, `FileTree.makeParent` makes the directory it is to
  lie in, with all the directories above it.
-/

set_option autoImplicit false

namespace DeskPlan

/-- The names that lead from the root to a file or directory. -/
abbrev Location := List String

/-- Why an operation on files fails. -/
inductive FileError where
  | notFound
  | isDirectory
  | notDirectory
  | alreadyExists
  | denied
  /-- The bytes of a file are no text. -/
  | notText
deriving DecidableEq, Repr

/-- The error in the words of the operating system, or of the reader of texts. -/
def FileError.message : FileError → String
  | notFound => "No such file or directory (os error 2)"
  | isDirectory => "Is a directory (os error 21)"
  | notDirectory => "Not a directory (os error 20)"
  | alreadyExists => "File exists (os error 17)"
  | denied => "Permission denied (os error 13)"
  | notText => "stream did not contain valid UTF-8"

/-- What a place holds. -/
inductive FileEntry where
  | file (content : String)
  /-- A file that cannot be read, and why. -/
  | unreadable (cause : FileError)
  | directory
deriving DecidableEq, Repr

/-- Files and directories, seen from a current directory. -/
structure FileTree where
  entries : List (Location × FileEntry)
  current : Location
deriving DecidableEq, Repr

namespace FileTree

/-- What a location holds. The root is a directory. -/
def entry? (t : FileTree) (location : Location) : Option FileEntry :=
  if location.isEmpty then some .directory else t.entries.lookup location

/-- The entries with one location set to an entry. -/
def insertEntry (location : Location) (entry : FileEntry) :
    List (Location × FileEntry) → List (Location × FileEntry)
  | [] => [(location, entry)]
  | (l, e) :: rest =>
    if location = l then (l, entry) :: rest else (l, e) :: insertEntry location entry rest

/-- The tree with one location set to an entry. -/
def insert (t : FileTree) (location : Location) (entry : FileEntry) : FileTree :=
  { t with entries := insertEntry location entry t.entries }

/-- The current directory as a path. -/
def currentPath (t : FileTree) : String :=
  if t.current.isEmpty then "/" else String.join (t.current.map ("/" ++ ·))

/-! ### Following a path -/

/-- The location after a step from a directory. -/
def step (location : Location) : PathStep → Location
  | .root => []
  | .here => location
  | .up => location.dropLast
  | .name s => location ++ [s]

/-- Follows steps from a location. Every place on the way must be a directory; the last one need
not exist. -/
def walk (t : FileTree) : Location → List PathStep → Except FileError Location
  | location, [] => .ok location
  | location, s :: rest =>
    -- Only a directory can be left, even by a step that stays where it is.
    match t.entry? location with
    | none => .error .notFound
    | some .directory => walk t (step location s) rest
    | some _ => .error .notDirectory

/-- Whether the spelling of a path asks for a directory. -/
def asksDirectory (path : String) : Bool :=
  match (Text.pieces '/' path).getLast? with
  | some piece => piece.isEmpty || piece = "."
  | none => false

/-- The location a path leads to. -/
def locate (t : FileTree) (path : String) : Except FileError Location :=
  if path.isEmpty then .error .notFound else t.walk t.current (Path.steps path)

/-- What a path leads to. -/
def find (t : FileTree) (path : String) : Except FileError FileEntry :=
  match t.locate path with
  | .error e => .error e
  | .ok location =>
    match t.entry? location with
    | none => .error .notFound
    | some .directory => .ok .directory
    | some entry =>
      -- A file is not found under a name that asks for a directory.
      if asksDirectory path then .error .notDirectory else .ok entry

/-- Whether a path leads to something. -/
def holds (t : FileTree) (path : String) : Bool :=
  match t.find path with
  | .ok _ => true
  | .error _ => false

/-- Whether a path leads to a directory. -/
def isDirectory (t : FileTree) (path : String) : Bool :=
  match t.find path with
  | .ok .directory => true
  | _ => false

/-- The content of the file a path leads to. -/
def read (t : FileTree) (path : String) : Except FileError String :=
  match t.find path with
  | .error e => .error e
  | .ok (.file content) => .ok content
  | .ok (.unreadable cause) => .error cause
  | .ok .directory => .error .isDirectory

/-- The names of the files that lie directly in the directory at a location. -/
def fileNames (t : FileTree) (location : Location) : List String :=
  t.entries.filterMap fun e =>
    match e.2 with
    | .directory => none
    | _ => if e.1.dropLast = location then e.1.getLast? else none

/-! ### Changes -/

/-- Sets the content of the file a path leads to; the directory it lies in must exist. -/
def write (t : FileTree) (path content : String) : Except FileError FileTree :=
  match t.locate path with
  | .error e => .error e
  | .ok location =>
    match t.entry? location with
    | some .directory => .error .isDirectory
    | some entry =>
      if asksDirectory path then .error .notDirectory
      else if entry = .unreadable .denied then .error .denied
      else .ok (t.insert location (.file content))
    | none =>
      -- A name that asks for a directory cannot become a file.
      if asksDirectory path then .error .isDirectory else .ok (t.insert location (.file content))

/-- Makes the directories along steps that do not exist. -/
def makeAlong : FileTree → Location → List PathStep → Except FileError FileTree
  | t, _, [] => .ok t
  | t, location, s :: rest =>
    match t.entry? (step location s) with
    | some .directory => makeAlong t (step location s) rest
    -- A file in the way of the last directory exists already; further up it is no directory.
    | some _ => .error (if rest.isEmpty then .alreadyExists else .notDirectory)
    | none => makeAlong (t.insert (step location s) .directory) (step location s) rest

/-- Makes the directory that the last step of a path starts from, with all the directories above
it. -/
def makeParent (t : FileTree) (path : String) : Except FileError FileTree :=
  t.makeAlong t.current (Path.steps path).dropLast

end FileTree

end DeskPlan
