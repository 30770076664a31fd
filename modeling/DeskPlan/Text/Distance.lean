import DeskPlan.Text.Case

/-!
# `DeskPlan.Text.Distance`: edit distance and suggestions

`editDistance` counts the least number of insertions, deletions and substitutions of single
characters that turn one text into another. `suggestions` lists the candidates within a
threshold of a name, case ignored, nearest first; `hint` words them.
-/

set_option autoImplicit false

namespace DeskPlan.Text

/-- The next row of distances: from the distances of the prefixes of `b` to a text, those to the
text with `c` appended. `diagonal` is the distance of the prefix before the current one to the
text, `left` the distance computed last. -/
def nextRow (c : Char) : Nat → Nat → List Char → List Nat → List Nat
  | diagonal, left, d :: ds, up :: ups =>
    let here := min (min (left + 1) (up + 1)) (diagonal + if c = d then 0 else 1)
    -- What was above is the diagonal of the next place.
    here :: nextRow c up here ds ups
  | _, _, _, _ => []

/-- The distances of the prefixes of `b` to a text, after the characters `a` are appended to
it. -/
def distanceRow (b : List Char) : List Char → List Nat → List Nat
  | [], row => row
  | c :: a, row =>
    match row with
    | [] => []
    | first :: rest => distanceRow b a ((first + 1) :: nextRow c first (first + 1) b rest)

/-- The least number of single-character edits between two texts. -/
def editDistance (a b : String) : Nat :=
  ((distanceRow b.toList a.toList (List.range (b.toList.length + 1))).getLast?).getD 0

/-- Whether one scored name comes before another or is equal to it: smaller distance first, then
the order of the names. -/
def scoreLE (a b : Nat × String) : Bool := a.1 < b.1 || (a.1 = b.1 && !(b.2 < a.2))

/-- The candidates whose distance to a name, case ignored, is within the threshold; nearest
first, then by name. -/
def suggestions (name : String) (candidates : List String) (threshold : Nat) : List String :=
  let scored := candidates.map fun c => (editDistance (lower name) (lower c), c)
  ((scored.filter fun s => s.1 ≤ threshold).mergeSort scoreLE).map Prod.snd

/-- The end of a message that offers other names. -/
def hint (names : List String) : String :=
  if names.isEmpty then ""
  else " (did you mean '" ++ String.intercalate "', '" names ++ "'?)"

end DeskPlan.Text
