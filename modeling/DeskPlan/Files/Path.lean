import DeskPlan.Text.Blank

/-!
# `DeskPlan.Files.Path`: the names of files

A path is a text. Its `steps` are what stands between slashes: repeated slashes and the steps
`.` do not count, except that a relative path may begin with one. Paths are compared step by
step, so `a/x` comes before `a-b/x`, and two spellings with the same steps are the same path.
-/

set_option autoImplicit false

namespace DeskPlan

/-- A step of a path. -/
inductive PathStep where
  | root
  | here
  | up
  | name (s : String)
deriving DecidableEq, Repr

namespace PathStep

/-- The place of the kinds of steps in the order. -/
def rank : PathStep → Nat
  | root => 0
  | here => 1
  | up => 2
  | name _ => 3

/-- Whether one step comes before another. Names are compared by their bytes, which is the order
of their characters. -/
def before : PathStep → PathStep → Bool
  -- Comparing characters compares the bytes of their UTF-8 forms.
  | name a, name b => a < b
  | a, b => a.rank < b.rank

/-- The step between two slashes, none if it does not count. -/
def ofPiece (piece : String) : Option PathStep :=
  if piece.isEmpty || piece = "." then none
  else if piece = ".." then some up
  else some (name piece)

end PathStep

namespace Path

/-- Whether a path starts at the root. -/
def isAbsolute (path : String) : Bool := path.startsWith "/"

/-- The step a path starts with, apart from the pieces between slashes. -/
def start (path : String) : List PathStep :=
  if isAbsolute path then [.root]
  else if (Text.pieces '/' path).head? = some "." then [.here]
  else []

/-- The steps of a path. -/
def steps (path : String) : List PathStep :=
  start path ++ (Text.pieces '/' path).filterMap PathStep.ofPiece

/-- Whether the steps of one path come before those of another, or are the same. -/
def stepsLE : List PathStep → List PathStep → Bool
  | [], _ => true
  | _ :: _, [] => false
  | a :: as, b :: bs => a.before b || (a = b && stepsLE as bs)

/-- Whether one path comes before another, or is the same. -/
def le (a b : String) : Bool := stepsLE (steps a) (steps b)

/-- Whether two paths are the same. -/
def same (a b : String) : Bool := steps a = steps b

/-- The path that leads from a directory along another path. -/
def join (directory path : String) : String :=
  if isAbsolute path || directory.isEmpty then path
  else if directory.endsWith "/" then directory ++ path
  else directory ++ "/" ++ path

/-- The name of the file at the end of a path. -/
def fileName (path : String) : Option String :=
  match (steps path).getLast? with
  | some (.name s) => some s
  | _ => none

/-- A path in which a leading tilde that stands alone or before a slash is replaced by the home
directory. -/
def expandHome (home : Option String) (path : String) : String :=
  match path.toList, home with
  | ['~'], some h => h
  | '~' :: '/' :: rest, some h => h ++ String.ofList ('/' :: rest)
  | _, _ => path

/-- The paths of a sorted list that are not the same as the path before them, which for the
first one is `last`. -/
def distinctAfter (last : String) : List String → List String
  | [] => []
  | p :: rest => if same last p then distinctAfter last rest else p :: distinctAfter p rest

/-- A sorted list of paths without those that are the same as the one before. -/
def distinct : List String → List String
  | [] => []
  | p :: rest => p :: distinctAfter p rest

/-- The paths in order, each once. Of several spellings of a path the first one stays. -/
def sorted (paths : List String) : List String := distinct (paths.mergeSort le)

end Path

end DeskPlan
