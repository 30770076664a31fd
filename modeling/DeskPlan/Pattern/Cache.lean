import DeskPlan.NameMap
import DeskPlan.Pattern.Syntax

/-!
# `DeskPlan.Pattern.Cache`: compiled patterns, kept by their text

A run tries the same patterns on many windows. A `PatternCache` keeps the expression of every
valid pattern that was looked up, so that each is read once; an invalid pattern is not kept.
-/

set_option autoImplicit false

namespace DeskPlan

open DeskPlan.Pattern (PatternError compile)

/-- Compiled patterns by their text. -/
structure PatternCache where
  compiled : NameMap Regex

namespace PatternCache

/-- The cache without patterns. -/
def empty : PatternCache := ⟨.empty⟩

/-- The number of patterns kept. -/
def size (c : PatternCache) : Nat := c.compiled.entries.length

/-- Whether no pattern is kept. -/
def isEmpty (c : PatternCache) : Bool := c.compiled.isEmpty

/-- The expression of a pattern, and the cache that keeps it. -/
def lookup (c : PatternCache) (pattern : String) : Except PatternError (Regex × PatternCache) :=
  match c.compiled.get? pattern with
  | some r => .ok (r, c)
  | none =>
    match compile pattern with
    | .ok r => .ok (r, ⟨c.compiled.insert pattern r⟩)
    | .error e => .error e

end PatternCache

end DeskPlan
