import DeskPlan.Number.Checked
import DeskPlan.Text.Quoted

/-!
# `DeskPlan.Log.Event`: what the program tells about its work

An `Event` has a level, a target (the part of the program it comes from), a message and fields.
Its texts are made when it is shown. They may tell the extent of a rectangle, so they are
`Checked`: to show an event can end the program, and to have it without showing it cannot.
A `LogFilter` lets some events through; `LogFilter.spec` says which filter a run uses.
-/

set_option autoImplicit false

namespace DeskPlan

/-- How important an event is. -/
inductive Level where
  | error
  | warn
  | info
  | debug
  | trace
deriving DecidableEq, Repr

namespace Level

/-- The place of the level, the most important first. -/
def rank : Level → Nat
  | error => 1
  | warn => 2
  | info => 3
  | debug => 4
  | trace => 5

/-- The name of the level in a line, five characters wide. -/
def label : Level → String
  | error => "ERROR"
  | warn => " WARN"
  | info => " INFO"
  | debug => "DEBUG"
  | trace => "TRACE"

end Level

/-- The part of the program an event comes from, as filters name it. -/
abbrev EventSource := String

namespace EventSource

/-- The name under which all targets lie. -/
def root : EventSource := "bwm"

def apply : EventSource := "bwm::apply"
def blueprint : EventSource := "bwm::blueprint"
def command : EventSource := "bwm::cli::commands"
def snapshot : EventSource := "bwm::desktop::snapshot"
def script : EventSource := "bwm::script"
def selection : EventSource := "bwm::window::matching"

end EventSource

/-- Something that happened. -/
structure Event where
  level : Level
  target : EventSource
  message : Checked String
  fields : List (String × Checked String) := []
deriving DecidableEq, Repr

namespace Event

/-- The event on a line. -/
def line? (e : Event) : Checked String := do
  let message ← e.message
  let fields ← Checked.tagged Prod.snd e.fields
  return e.level.label ++ " " ++ message ++
    String.join (fields.map fun f => " " ++ f.1.1 ++ "=" ++ f.2)

/-- An event can be shown when all its texts are there. -/
theorem line?_isSome_iff {e : Event} :
    e.line?.isSome ↔ e.message.isSome ∧ ∀ f ∈ e.fields, f.2.isSome := by
  rw [← Checked.tagged_isSome_iff]
  unfold line?
  cases e.message <;> cases Checked.tagged Prod.snd e.fields <;> simp

end Event

end DeskPlan
