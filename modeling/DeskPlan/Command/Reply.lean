import DeskPlan.Json.Value
import DeskPlan.Log.Filter

/-!
# `DeskPlan.Command.Reply`: what a command answers

A command ends with an exit status. It writes its result to the standard output and notes to the
standard error. A result for machines is a JSON-RPC 2.0 response on one line, with either a
result or an error.

A command whose arithmetic leaves its range is stopped: it has an exit status of its own and no
result. What the language says on the standard error about the place where it was stopped is no
part of the answer here.

* `Work` is what a command does, up to a failure or a stop;
* `Reply.heard` stops a command at a note that cannot be shown.
-/

set_option autoImplicit false

namespace DeskPlan.Command

/-- How a command ends. -/
inductive Exit where
  | success
  /-- Nothing more particular is known. -/
  | failure
  /-- The arguments are no request. -/
  | usage
  /-- No blueprint is chosen. -/
  | badChoice
  /-- A file of settings or of a blueprint is not in order. -/
  | badFile
  /-- The monitors do not fit the blueprint. -/
  | mismatch
  /-- No blueprint fits the monitors. -/
  | noBlueprint
  /-- A number has left its range. -/
  | stopped
deriving DecidableEq, Repr

/-- The number of the exit status. -/
def Exit.code : Exit → Nat
  | success => 0
  | failure => 1
  | usage => 2
  | badChoice => 4
  | badFile => 5
  | mismatch => 7
  | noBlueprint => 8
  | stopped => 101

/-- The form of the result. -/
inductive OutputForm where
  | text
  | json
  | quiet
  | names
  | format (template : String)
deriving DecidableEq, Repr

namespace OutputForm

/-- The form that flags ask for; by default a terminal gets text and anything else JSON. -/
def choose (quiet names : Bool) (format : Option String) (json noJson terminal : Bool) :
    OutputForm :=
  if quiet then .quiet
  else if names then .names
  else match format with
    | some template => .format template
    | none => if json then .json else if noJson || terminal then .text else .json

end OutputForm

/-- A failure that ends a command. -/
structure Failure where
  exit : Exit
  message : String
  suggestions : List String := []
  details : List String := []
deriving DecidableEq, Repr

/-- A JSON-RPC response that holds a member beside the version and the absent request. -/
def envelope (member : String) (value : Json) : Json :=
  .obj [("jsonrpc", .str "2.0"), (member, value), ("id", .null)]

/-- A line. -/
def asLine (s : String) : String := s ++ "\n"

/-- Lines. -/
def asLines (ls : List String) : String := String.join (ls.map asLine)

/-- A result for machines. -/
def resultLine (value : Json) : String := asLine (envelope "result" value).compact

namespace Failure

/-- A field with a list that is left out when the list is empty. -/
def listField (key : String) (xs : List String) : List (String × Json) :=
  if xs.isEmpty then [] else [(key, .strings xs)]

/-- The failure as an error of a response. -/
def toJson (f : Failure) : Json :=
  let data := listField "suggestions" f.suggestions ++ listField "details" f.details
  .obj ([("code", .int (-32000 - f.exit.code)), ("message", .str f.message)] ++
    if data.isEmpty then [] else [("data", .obj data)])

/-- The failure for machines. -/
def errorLine (f : Failure) : String := asLine (envelope "error" f.toJson).compact

/-- The failure for readers. -/
def text (f : Failure) : String :=
  asLines (["Error: " ++ f.message] ++ f.details.map ("  - " ++ ·) ++
    if f.suggestions.isEmpty then []
    else ["  Did you mean: " ++ String.intercalate ", " f.suggestions ++ "?"])

end Failure

/-- A note to the standard error. -/
inductive Note where
  /-- An event, which is shown if the filter lets it through. -/
  | event (e : Event)
  /-- A question that waits for an answer. -/
  | question (s : String)
  | text (s : String)

namespace Note

/-- What is seen of a note. The text of an event that is not shown is not made. -/
def shown? (filter : LogFilter) : Note → Checked String
  | event e => if filter.shows e then e.line?.map asLine else some ""
  | question s => some s
  | text s => some s

/-- Whether a note waits for an answer. -/
def isQuestion : Note → Bool
  | question _ => true
  | _ => false

end Note

/-- What a command answers. -/
structure Reply where
  exit : Exit
  output : String := ""
  notes : List Note := []

/-- The reply as it is heard. A note that cannot be shown stops the command. -/
def Reply.heard (filter : LogFilter) (r : Reply) : Reply :=
  if r.notes.all fun n => (n.shown? filter).isSome then r
  else ⟨.stopped, "", r.notes.takeWhile fun n => (n.shown? filter).isSome⟩

/-- Why work ends before its end. -/
inductive Interruption where
  | failure (f : Failure)
  /-- A number has left its range. -/
  | stop
deriving DecidableEq, Repr

/-- Work that notes things and may be interrupted. -/
structure Work (α : Type) where
  notes : List Note
  result : Except Interruption α

namespace Work

variable {α β : Type}

/-- Work that is done. -/
def done (a : α) : Work α := ⟨[], .ok a⟩

/-- Work that ends in a failure. -/
def fail (f : Failure) : Work α := ⟨[], .error (.failure f)⟩

/-- Notes events. -/
def tell (events : List Event) : Work Unit := ⟨events.map .event, .ok ()⟩

/-- Asks a question. -/
def ask (question : String) : Work Unit := ⟨[.question question], .ok ()⟩

/-- Goes on with what work results in; an interruption ends it. -/
def andThen (w : Work α) (f : α → Work β) : Work β :=
  match w.result with
  | .ok a => ⟨w.notes ++ (f a).notes, (f a).result⟩
  | .error i => ⟨w.notes, .error i⟩

instance : Monad Work where
  pure := done
  bind := andThen

/-- The result of a step that may fail. -/
def ofExcept {ε : Type} (failure : ε → Failure) : Except ε α → Work α
  | .ok a => done a
  | .error e => fail (failure e)

/-- The result of arithmetic. -/
def ofChecked : Checked α → Work α
  | some a => done a
  | none => ⟨[], .error .stop⟩

/-- Noting events changes no result. -/
theorem result_tell (events : List Event) : (tell events).result = .ok () := rfl

end Work

/-- The answer of work whose result ends a command: a failure is written in the form of the
result, where only JSON goes to the standard output. -/
def Work.reply (form : OutputForm) (w : Work (Exit × String)) : Reply :=
  match w.result with
  | .ok (exit, output) => ⟨exit, output, w.notes⟩
  | .error (.failure f) =>
    if form = .json then ⟨f.exit, f.errorLine, w.notes⟩
    else ⟨f.exit, "", w.notes ++ [.text f.text]⟩
  | .error .stop => ⟨.stopped, "", w.notes⟩

end DeskPlan.Command
