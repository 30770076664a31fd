import DeskPlan.Text.Blank
import DeskPlan.Text.Case
import DeskPlan.Text.WordTable

/-!
# `DeskPlan.Pattern.CharSet`: sets of characters

The sets that a pattern can write: ranges, the classes of word characters, digits and blanks,
the Boolean operations, and the closure of a set under changes of case. `CharSet.has` decides
membership of a code point.
-/

set_option autoImplicit false

namespace DeskPlan

/-- A set of characters. -/
inductive CharSet where
  | none
  | range (first last : Nat)
  | word
  | digit
  | blank
  | union (a b : CharSet)
  | inter (a b : CharSet)
  | diff (a b : CharSet)
  | symm (a b : CharSet)
  | compl (a : CharSet)
  /-- The characters equal to one of the set when case is ignored. -/
  | anyCase (a : CharSet)
deriving DecidableEq, Repr

namespace CharSet

/-- Whether a code point is in the set. -/
def has : CharSet → Nat → Bool
  | none, _ => false
  | range first last, c => first ≤ c && c ≤ last
  | word, c => Text.inRanges Text.wordRanges c
  | digit, c => Text.inRanges Text.digitRanges c
  | blank, c => Text.inRanges Text.blankRanges c
  | union a b, c => a.has c || b.has c
  | inter a b, c => a.has c && b.has c
  | diff a b, c => a.has c && !b.has c
  | symm a b, c => a.has c != b.has c
  | compl a, c => !a.has c
  | anyCase a, c => (Text.folds c).any a.has

/-- The set of one character. -/
def single (c : Char) : CharSet := range c.toNat c.toNat

/-- The union of several ranges. -/
def ofRanges (rs : List (Nat × Nat)) : CharSet :=
  rs.foldr (fun r s => union (range r.1 r.2) s) none

/-- Every character. -/
def all : CharSet := range 0 0x10FFFF

/-- A character that is part of words. -/
def isWord (c : Char) : Bool := word.has c.toNat

end CharSet

end DeskPlan
