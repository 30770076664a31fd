import DeskPlan.Blueprint.Basic
import DeskPlan.Pattern.Cache
import DeskPlan.Window.Basic

/-!
# `DeskPlan.Blueprint.Selection`: the rule for a window

A rule's patterns are tried in a fixed order on the attributes of a window; each must match
somewhere in its attribute, and an attribute that is unknown matches nothing. A pattern is read
before its attribute is looked at, so an invalid pattern is an error even then. The rule for a
window is the first one, in the order of the blueprint, that is enabled and whose filters pass;
an invalid pattern ends the walk.

* `Filters.passes` judges the filters of one rule;
* `chooseRule` walks the rules.
-/

set_option autoImplicit false

namespace DeskPlan

open DeskPlan.Pattern (PatternError)

/-- An invalid pattern, with its place. -/
structure PatternFailure where
  rule : String
  subject : Attribute
  pattern : String
  cause : PatternError

namespace PatternFailure

/-- The error in words. -/
def message (e : PatternFailure) : String :=
  s!"invalid {e.subject.name} pattern '{e.pattern}' in rule '{e.rule}': " ++
    e.cause.message e.pattern

end PatternFailure

/-- The text of an attribute. An index is decimal, and empty when it is unknown. -/
def Window.attribute? (w : Window) : Attribute → Option String
  | .windowTitle => some w.title
  | .windowClass => some w.className
  | .programPath => w.programPath
  | .taskbarAppId => w.taskbarAppId
  | .taskbarIndex => some ((w.taskbarIndex.map fun n => toString n.val).getD "")
  | .taskbarSubIndex => some ((w.taskbarSubIndex.map fun n => toString n.val).getD "")

namespace Filters

/-- Tries patterns one after the other, up to the first that is invalid or does not match. -/
def tryPatterns (w : Window) (rule : String) :
    List (Attribute × String) → PatternCache → Except PatternFailure Bool × PatternCache
  | [], cache => (.ok true, cache)
  | (a, p) :: rest, cache =>
    match cache.lookup p with
    | .error cause => (.error ⟨rule, a, p, cause⟩, cache)
    | .ok (r, cache) =>
      if (w.attribute? a).any r.isMatch then tryPatterns w rule rest cache else (.ok false, cache)

/-- Whether the filter for tool windows passes. -/
def passesToolWindow (f : Filters) (w : Window) : Bool :=
  match f.isToolWindow with
  | some expected => expected = w.isToolWindow
  | none => true

/-- Whether all filters pass. -/
def passes (f : Filters) (w : Window) (rule : String) (cache : PatternCache) :
    Except PatternFailure Bool × PatternCache :=
  match tryPatterns w rule f.patterns cache with
  | (.ok true, cache) => (.ok (f.passesToolWindow w), cache)
  | answer => answer

end Filters

/-- Whether a rule is tried at all. -/
def Rule.eligible (r : Rule) (taskbarAvailable : Bool) : Bool :=
  r.enabled && (taskbarAvailable || !r.filters.needsTaskbar)

/-- The first eligible rule, from position `index` on, whose filters pass. -/
def chooseFrom (w : Window) (taskbarAvailable : Bool) :
    Nat → List Rule → PatternCache → Except PatternFailure (Option (Nat × Rule)) × PatternCache
  | _, [], cache => (.ok none, cache)
  | index, r :: rules, cache =>
    if r.eligible taskbarAvailable then
      match r.filters.passes w r.name cache with
      | (.error e, cache) => (.error e, cache)
      | (.ok true, cache) => (.ok (some (index, r)), cache)
      | (.ok false, cache) => chooseFrom w taskbarAvailable (index + 1) rules cache
    else chooseFrom w taskbarAvailable (index + 1) rules cache

/-- The rule for a window, with its position. -/
def chooseRule (w : Window) (rules : List Rule) (taskbarAvailable : Bool) (cache : PatternCache) :
    Except PatternFailure (Option (Nat × Rule)) × PatternCache :=
  chooseFrom w taskbarAvailable 0 rules cache

end DeskPlan
