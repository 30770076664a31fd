import DeskPlan.Blueprint.Basic
import DeskPlan.Monitor.Check
import DeskPlan.Number.Reading
import DeskPlan.Text.Blank
import DeskPlan.Text.Case

/-!
# `DeskPlan.Blueprint.Candidate`: choosing a blueprint

A `Candidate` is a blueprint that was found, with the outcome of the check of its monitors.
`Candidate.choose` chooses among candidates by what somebody writes: a number counts from zero,
anything else is a name, case ignored if no name is exactly the one written.
-/

set_option autoImplicit false

namespace DeskPlan

/-- A blueprint with the place it was read from and the issues with its monitors. -/
structure Candidate where
  path : String
  blueprint : Blueprint
  issues : List MonitorIssue

namespace Candidate

/-- Whether the monitors fit. -/
def fits (c : Candidate) : Bool := c.issues.isEmpty

/-- The name of the blueprint. -/
def name (c : Candidate) : String := c.blueprint.name

/-- Why nothing is chosen. -/
inductive ChoiceError where
  | noSuchIndex (index count : Nat)
  | noSuchName (name : String)
deriving DecidableEq, Repr

/-- The error in words. -/
def ChoiceError.message : ChoiceError → String
  | noSuchIndex index count => s!"invalid selection {index}: {count} blueprints available"
  | noSuchName name => s!"no valid blueprint named '{name}'"

/-- The candidate with a name; one of exactly that name goes before one that is the same when the
case of ASCII letters is ignored. -/
def named? (candidates : List Candidate) (name : String) : Option Candidate :=
  (candidates.find? fun c => c.name = name).or
    (candidates.find? fun c => Text.lowerAscii c.name = Text.lowerAscii name)

/-- The candidate that a text chooses. -/
def choose (candidates : List Candidate) (choice : String) : Except ChoiceError Candidate :=
  let choice := Text.trim choice
  match readWord64 choice with
  | .ok index =>
    match candidates[index.val.toNat]? with
    | some c => .ok c
    | none => .error (.noSuchIndex index.val.toNat candidates.length)
  | .error _ =>
    match named? candidates choice with
    | some c => .ok c
    | none => .error (.noSuchName choice)

/-- The question that offers candidates. -/
def question (candidates : List Candidate) : String :=
  "Blueprints available:\n" ++
    String.join (candidates.zipIdx.map fun c => s!"  {c.2}: {c.1.name}\n") ++
    "Which would you like to apply? "

/-- The first line of a text. -/
def firstLine (s : String) : String := String.ofList (s.toList.takeWhile (· ≠ '\n'))

/-- The candidate that the first line of an answer chooses. -/
def answered (candidates : List Candidate) (answer : String) : Except ChoiceError Candidate :=
  choose candidates (firstLine answer)

end Candidate

end DeskPlan
