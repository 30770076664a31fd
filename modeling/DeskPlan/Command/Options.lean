/-!
# `DeskPlan.Command.Options`: options and plain arguments

The arguments of a program are read level by level: the program itself, then the command it is
asked to run, then perhaps a command of that command. A `Level` says which options there are and
what else may stand there. `Level.read` goes through the arguments of one level from left to
right and stops at the first that has no place there.
-/

set_option autoImplicit false

namespace DeskPlan.Command

/-- What comes with an option. -/
inductive OptionKind where
  | flag
  | text
  /-- A text that is not empty. -/
  | path
deriving DecidableEq, Repr

/-- An option: its name after two dashes, perhaps a letter after one, and what comes with it. -/
structure OptionForm where
  name : String
  letter : Option Char := none
  kind : OptionKind
deriving DecidableEq, Repr

/-- What a plain argument may be. -/
inductive Place where
  | text
  /-- A text that is not empty. -/
  | path
  | oneOf (words : List String)
deriving DecidableEq, Repr

/-- Whether a plain argument may stand at a place. -/
def Place.accepts : Place → String → Bool
  | text, _ => true
  | path, s => !s.isEmpty
  | oneOf words, s => words.contains s

/-- An option that was given, with what came with it; a flag comes with nothing. -/
structure Given where
  name : String
  value : String := ""
deriving DecidableEq, Repr

/-- Why the arguments are not a command to carry out. -/
inductive Halt where
  | help
  | version
  | usage
deriving DecidableEq, Repr

/-- What may stand among the arguments of one level. -/
structure Level where
  options : List OptionForm
  /-- The commands of which one follows. -/
  commands : List String := []
  /-- The places for plain arguments, in order. -/
  places : List Place := []
  /-- Whether the program tells its version here. -/
  hasVersion : Bool := false
deriving DecidableEq, Repr

/-- What the arguments of a level give. -/
structure Reading where
  given : List Given := []
  plain : List String := []
  /-- The command that follows, with its arguments. -/
  next : Option (String × List String) := none
deriving DecidableEq, Repr

namespace Reading

/-- Whether an option was given. -/
def has (r : Reading) (name : String) : Bool := r.given.any fun g => g.name = name

/-- What came with an option. -/
def value? (r : Reading) (name : String) : Option String :=
  (r.given.find? fun g => g.name = name).map (·.value)

/-- Whether two options were both given. -/
def hasBoth (r : Reading) (names : String × String) : Bool := r.has names.1 && r.has names.2

end Reading

namespace Level

/-- Adds an option to what was given. No option is given twice, and a path is not empty. -/
def add (r : Reading) (form : OptionForm) (value : String) : Except Halt Reading :=
  if r.has form.name then .error .usage
  else if form.kind = .path && value.isEmpty then .error .usage
  else .ok { r with given := r.given ++ [⟨form.name, value⟩] }

/-- Adds a plain argument, if there is a place for it. -/
def addPlain (l : Level) (r : Reading) (s : String) : Except Halt Reading :=
  match l.places[r.plain.length]? with
  | some place =>
    if place.accepts s then .ok { r with plain := r.plain ++ [s] } else .error .usage
  | none => .error .usage

/-- Adds the options of letters written after one dash. -/
def addLetters (l : Level) : Reading → List Char → Except Halt Reading
  | r, [] => .ok r
  | r, c :: rest =>
    match l.options.find? fun o => o.letter = some c && o.kind = .flag with
    | some form =>
      match add r form "" with
      | .ok r => addLetters l r rest
      | .error h => .error h
    | none =>
      if c = 'h' then .error .help
      else if c = 'V' && l.hasVersion then .error .version
      else .error .usage

/-- What a long argument stands for. -/
inductive Long where
  /-- An option that is complete. -/
  | complete (form : OptionForm) (value : String)
  /-- An option whose value is the next argument. -/
  | pending (form : OptionForm)
  | halt (h : Halt)

/-- What the text after two dashes stands for. -/
def long (l : Level) (text : List Char) : Long :=
  let name := String.ofList (text.takeWhile (· ≠ '='))
  match l.options.find? fun o => o.name = name, text.dropWhile (· ≠ '=') with
  | some form, [] => if form.kind = .flag then .complete form "" else .pending form
  | some form, _ :: value =>
    if form.kind = .flag then .halt .usage else .complete form (String.ofList value)
  | none, [] =>
    .halt (if name = "help" then .help
      else if name = "version" && l.hasVersion then .version else .usage)
  | none, _ :: _ => .halt .usage

/-- Whether an argument is written like an option. -/
def looksLikeOption : List Char → Bool
  | '-' :: _ :: _ => true
  | _ => false

/-- Reads plain arguments only. -/
def readPlain (l : Level) : Reading → List String → Except Halt Reading
  | r, [] => .ok r
  | r, a :: rest =>
    match l.addPlain r a with
    | .ok r => readPlain l r rest
    | .error h => .error h

/-- Reads the arguments of a level after what has been read already. -/
def readAfter (l : Level) (r : Reading) (arguments : List String) : Except Halt Reading :=
  match arguments with
  | [] => .ok r
  | a :: rest =>
    match a.toList with
    -- After two dashes nothing is an option any more.
    | ['-', '-'] => l.readPlain r rest
    | '-' :: '-' :: text =>
      match l.long text with
      | .halt h => .error h
      | .complete form value =>
        match add r form value with
        | .ok r => readAfter l r rest
        | .error h => .error h
      | .pending form =>
        match rest with
        | [] => .error .usage
        | value :: rest =>
          -- An option does not take another option for its value.
          if looksLikeOption value.toList then .error .usage
          else
            match add r form value with
            | .ok r => readAfter l r rest
            | .error h => .error h
    | '-' :: c :: letters =>
      match l.addLetters r (c :: letters) with
      | .ok r => readAfter l r rest
      | .error h => .error h
    | _ =>
      if l.commands.isEmpty then
        match l.addPlain r a with
        | .ok r => readAfter l r rest
        | .error h => .error h
      -- The first plain word is the command; what follows is for its own level.
      else if l.commands.contains a then .ok { r with next := some (a, rest) }
      else .error .usage
termination_by structural arguments

/-- Reads the arguments of a level. -/
def read (l : Level) (arguments : List String) : Except Halt Reading := l.readAfter {} arguments

end Level

end DeskPlan.Command
