import DeskPlan.Log.Event
import DeskPlan.Text.Blank
import DeskPlan.Text.Case

/-!
# `DeskPlan.Log.Filter`: which events are shown

A filter is a list of directives separated by commas. A directive is a level, a target, or a
target with a level. Of the directives whose target begins an event's target the longest one
decides; an event no directive speaks of is not shown.

`LogChoice.spec` is the text of the filter for a run: an explicit filter, a flag, the
environment, the settings, in this order.
-/

set_option autoImplicit false

namespace DeskPlan

/-- Where the filter of a run may come from. -/
structure LogChoice where
  trace : Bool := false
  debug : Bool := false
  level : Option String := none
  filter : Option String := none
deriving DecidableEq, Repr

namespace LogChoice

/-- The filter that shows the program's own events up to a level. -/
def levelSpec (level : String) : String := EventSource.root ++ "=" ++ Text.lowerAscii level

/-- The text of the filter for a run. -/
def spec (c : LogChoice) (environment settings : Option String) : String :=
  match c.filter with
  | some s => s
  | none =>
    if c.trace then levelSpec "trace"
    else if c.debug then levelSpec "debug"
    else match c.level with
      | some l => levelSpec l
      | none =>
        match environment.filter (!·.isEmpty) with
        | some s => s
        | none => levelSpec (settings.getD "info")

end LogChoice

/-- A directive: the events of a target up to a rank, `0` for none. -/
structure Directive where
  target : EventSource
  rank : Nat
deriving DecidableEq, Repr

namespace Directive

/-- The rank written by a level name or a digit, case ignored. -/
def rank? (s : String) : Option Nat :=
  [("off", 0), ("error", 1), ("warn", 2), ("info", 3), ("debug", 4), ("trace", 5), ("0", 0),
    ("1", 1), ("2", 2), ("3", 3), ("4", 4), ("5", 5)].lookup (Text.lowerAscii s)

/-- Whether a character may stand in a target. -/
def targetChar (c : Char) : Bool := c.isAlphanum || c = '_' || c = ':' || c = '-'

/-- A directive, none if the text is no valid one. -/
def read (s : String) : Option Directive :=
  match s.toList.span (· ≠ '=') with
  | (t, []) =>
    match rank? s with
    | some r => some ⟨"", r⟩
    | none => if !t.isEmpty && t.all targetChar then some ⟨s, 5⟩ else none
  | (t, _ :: l) =>
    if t.all targetChar then
      if l.isEmpty then some ⟨String.ofList t, 5⟩
      else (rank? (String.ofList l)).map fun r => ⟨String.ofList t, r⟩
    else none

/-- Whether the directive speaks of a target. -/
def covers (d : Directive) (t : EventSource) : Bool := d.target.toList.isPrefixOf t.toList

end Directive

/-- The directives of a filter. -/
structure LogFilter where
  directives : List Directive
deriving DecidableEq, Repr

namespace LogFilter

/-- The parts of a text between commas. -/
def parts (s : String) : List String :=
  ((Text.pieces ',' s).map Text.trim).filter (!·.isEmpty)

/-- The filter a text describes. Without a valid directive it shows errors only. -/
def read (s : String) : LogFilter :=
  let ds := (parts s).filterMap Directive.read
  ⟨if ds.isEmpty then [⟨"", 1⟩] else ds⟩

/-- The directives of a text that are not valid, as the program reports them. -/
def complaints (s : String) : List String :=
  ((parts s).filter fun p => (Directive.read p).isNone).map fun p =>
    "ignoring " ++ "`" ++ p ++ "`: invalid filter directive"

/-- The directive that decides on a target: the longest one, the last one of those. -/
def decisive (f : LogFilter) (t : EventSource) : Option Directive :=
  f.directives.foldl (fun best d =>
    if d.covers t then
      match best with
      | some b => if d.target.length < b.target.length then best else some d
      | none => some d
    else best) none

/-- Whether an event is shown. -/
def shows (f : LogFilter) (e : Event) : Bool :=
  match f.decisive e.target with
  | some d => e.level.rank ≤ d.rank
  | none => false

end LogFilter

end DeskPlan
