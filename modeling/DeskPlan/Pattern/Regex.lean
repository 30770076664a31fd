import DeskPlan.Pattern.CharSet

/-!
# `DeskPlan.Pattern.Regex`: regular expressions and their search

A `Regex` describes parts of a text. Anchors describe the empty part at a position, so whether
an expression matches the empty part depends on the characters around the position.

The search keeps the set of expressions that the characters read so far may still become. One
character turns an expression into its residuals (`residuals`): what is left to be matched after
that character. The number of distinct residuals is bounded by the size of the expression, so
the search takes time proportional to the length of the text.

* `Regex.isMatch` decides whether some part of a text matches.
-/

set_option autoImplicit false

namespace DeskPlan

/-- A condition on a position of a text. -/
inductive Anchor where
  | textStart
  | textEnd
  | lineStart
  | lineEnd
  | wordBoundary
  | noWordBoundary
  | wordStart
  | wordEnd
  | wordStartHalf
  | wordEndHalf
deriving DecidableEq, Repr

/-- Whether the anchor holds between the two characters; an absent one is an end of the text. -/
def Anchor.holds (a : Anchor) (before after : Option Char) : Bool :=
  let wordBefore := before.any CharSet.isWord
  let wordAfter := after.any CharSet.isWord
  match a with
  | textStart => before.isNone
  | textEnd => after.isNone
  | lineStart => before.isNone || before = some '\n'
  | lineEnd => after.isNone || after = some '\n'
  | wordBoundary => wordBefore != wordAfter
  | noWordBoundary => wordBefore == wordAfter
  | wordStart => !wordBefore && wordAfter
  | wordEnd => wordBefore && !wordAfter
  | wordStartHalf => !wordBefore
  | wordEndHalf => !wordAfter

/-- A regular expression. -/
inductive Regex where
  | empty
  | chars (s : CharSet)
  | anchor (a : Anchor)
  | seq (a b : Regex)
  | alt (a b : Regex)
  | star (a : Regex)
deriving DecidableEq, Repr

namespace Regex

/-- Whether the expression matches the empty part between the two characters. -/
def nullable : Regex → Option Char → Option Char → Bool
  | empty, _, _ => true
  | chars _, _, _ => false
  | anchor a, before, after => a.holds before after
  | seq a b, before, after => a.nullable before after && b.nullable before after
  | alt a b, before, after => a.nullable before after || b.nullable before after
  | star _, _, _ => true

/-- One expression after the other. -/
def andThen : Regex → Regex → Regex
  | empty, b => b
  | a, b => seq a b

/-- What is left of the expression after the character `c` that follows `before`. -/
def residuals : Regex → Option Char → Char → List Regex
  | empty, _, _ => []
  | chars s, _, c => if s.has c.toNat then [empty] else []
  | anchor _, _, _ => []
  | seq a b, before, c =>
    (a.residuals before c).map (·.andThen b) ++
      if a.nullable before (some c) then b.residuals before c else []
  | alt a b, before, c => a.residuals before c ++ b.residuals before c
  | star a, before, c => (a.residuals before c).map (·.andThen (star a))

/-- The search: `states` are the residuals of the parts that started earlier, and at each
position a new part may start. -/
def searchFrom (r : Regex) : List Regex → Option Char → List Char → Bool
  | states, before, [] => (r :: states).any (·.nullable before none)
  | states, before, c :: s =>
    -- A new part may start at every position.
    let states := r :: states
    states.any (·.nullable before (some c)) ||
      searchFrom r (states.flatMap (·.residuals before c)).eraseDups (some c) s

/-- Whether some part of the text matches. -/
def isMatch (r : Regex) (text : String) : Bool := r.searchFrom [] none text.toList

/-- `n` copies of an expression. -/
def copies (r : Regex) : Nat → Regex
  | 0 => empty
  | 1 => r
  | n + 1 => seq r (copies r n)

/-- At most `n` copies of an expression. -/
def upTo (r : Regex) : Nat → Regex
  | 0 => empty
  | n + 1 => alt (seq r (upTo r n)) empty

/-- At least `least` copies of an expression, and at most `most` if it is given. -/
def repeated (r : Regex) (least : Nat) : Option Nat → Regex
  | some most =>
    if most ≤ least then r.copies least
    else if least = 0 then r.upTo most
    else seq (r.copies least) (r.upTo (most - least))
  | none => if least = 0 then star r else seq (r.copies least) (star r)

/-- The number of character sets and anchors in the expression. -/
def size : Regex → Nat
  | empty => 1
  | chars _ => 1
  | anchor _ => 1
  | seq a b => a.size + b.size
  | alt a b => a.size + b.size
  | star a => a.size

end Regex

end DeskPlan
