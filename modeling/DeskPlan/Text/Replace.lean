/-!
# `DeskPlan.Text.Replace`: replacing parts of a text

`replaceAll` replaces every occurrence of a part, from left to right; occurrences do not overlap.
-/

set_option autoImplicit false

namespace DeskPlan.Text

/-- The characters with every occurrence of `part` replaced; the first `skip` characters belong to
an occurrence that has been replaced already. -/
def replaceChars (part replacement : List Char) : Nat → List Char → List Char
  | _, [] => []
  | skip + 1, _ :: s => replaceChars part replacement skip s
  | 0, c :: s =>
    if part.isPrefixOf (c :: s) then
      replacement ++ replaceChars part replacement (part.length - 1) s
    else c :: replaceChars part replacement 0 s

/-- A text with every occurrence of a part that is not empty replaced. -/
def replaceAll (part replacement s : String) : String :=
  if part.isEmpty then s
  else String.ofList (replaceChars part.toList replacement.toList 0 s.toList)

end DeskPlan.Text
