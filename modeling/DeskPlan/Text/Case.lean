import DeskPlan.Text.CaseTable
import DeskPlan.Text.CharRange

/-!
# `DeskPlan.Text.Case`: lower case and case folding

`lower` maps a text to lower case character by character. Two characters need more than a table
of single characters: a capital I with a dot becomes two characters, and a capital sigma takes
its final form at the end of a word.

`upper` maps a text to upper case. `folds` lists the characters that are the same as a given one
when case is ignored.
-/

set_option autoImplicit false

namespace DeskPlan.Text

/-- The image of a code point under a table of runs; a code point of no run is its own image. -/
def shiftOf (runs : List CaseRun) (code : Nat) : Nat :=
  match runs.find? fun r => r.first ≤ code && code ≤ r.last && (code - r.first) % r.step = 0 with
  | some r => ((code : Int) + r.shift).toNat
  | none => code

/-- The lower-case form of a character that has a single one. -/
def lowerChar (c : Char) : Char := Char.ofNat (shiftOf lowerRuns c.toNat)

/-- Whether the first character that is not passed over has case. -/
def meetsCased (s : List Char) : Bool :=
  match s.dropWhile fun c => inRanges caseIgnorableRanges c.toNat with
  | c :: _ => inRanges casedRanges c.toNat
  | [] => false

/-- The lower-case form of the characters `s` that follow the characters `before`, which are
given last first. -/
def lowerChars (before : List Char) : List Char → List Char
  | [] => []
  | c :: s =>
    -- A capital sigma, whose final form stands after a letter and before none.
    (if c.toNat = 0x3A3 then
      [if meetsCased before && !meetsCased s then Char.ofNat 0x3C2 else Char.ofNat 0x3C3]
    -- A capital I with a dot keeps the dot.
    else if c.toNat = 0x130 then ['i', Char.ofNat 0x307]
    else [lowerChar c]) ++ lowerChars (c :: before) s

/-- A text in lower case. -/
def lower (s : String) : String := String.ofList (lowerChars [] s.toList)

/-- The code point that stands for all code points equal to `code` when case is ignored. -/
def foldCode (code : Nat) : Nat := shiftOf foldRuns code

/-- The code points of a run that are shifted onto `target`. -/
def CaseRun.preimage (r : CaseRun) (target : Nat) : List Nat :=
  let source := (target : Int) - r.shift
  if 0 ≤ source then
    let code := source.toNat
    if r.first ≤ code && code ≤ r.last && (code - r.first) % r.step = 0 then [code] else []
  else []

/-- The code points equal to `code` when case is ignored, itself included. -/
def folds (code : Nat) : List Nat :=
  let root := foldCode code
  root :: foldRuns.flatMap fun r => r.preimage root

/-- The upper-case form of a character: the first character whose lower-case form it is. The
characters without one of their own share that of a relative, and a sharp s is doubled. -/
def upperChar (c : Char) : List Char :=
  let code := c.toNat
  -- A sharp s, the micro sign, a dotless i, a long s and a final sigma.
  if code = 0xDF then ['S', 'S']
  else if code = 0xB5 then [Char.ofNat 0x39C]
  else if code = 0x131 then ['I']
  else if code = 0x17F then ['S']
  else if code = 0x3C2 then [Char.ofNat 0x3A3]
  else match lowerRuns.flatMap fun r => r.preimage code with
    | u :: _ => [Char.ofNat u]
    | [] => [c]

/-- A text in upper case. -/
def upper (s : String) : String := String.ofList (s.toList.flatMap upperChar)

/-- A text with its ASCII letters in lower case. -/
def lowerAscii (s : String) : String := String.ofList (s.toList.map Char.toLower)

end DeskPlan.Text
