import DeskPlan.Text.CharRange

/-!
# `DeskPlan.Text.Blank`: white space and separators

`isBlank` is the white space of every script. `trim` drops it from both ends of a text. `pieces`
cuts a text at a separator: as many separators as the text holds, one piece more.
-/

set_option autoImplicit false

namespace DeskPlan.Text

/-- The white space of every script. -/
def blankRanges : List (Nat × Nat) :=
  [(9, 13), (32, 32), (0x85, 0x85), (0xA0, 0xA0), (0x1680, 0x1680), (0x2000, 0x200A),
    (0x2028, 0x2029), (0x202F, 0x202F), (0x205F, 0x205F), (0x3000, 0x3000)]

/-- Whether a character is white space. -/
def isBlank (c : Char) : Bool := inRanges blankRanges c.toNat

/-- Characters without the white space at their ends. -/
def trimChars (s : List Char) : List Char :=
  ((s.dropWhile isBlank).reverse.dropWhile isBlank).reverse

/-- A text without the white space at its ends. -/
def trim (s : String) : String := String.ofList (trimChars s.toList)

/-- The pieces of characters between separators. -/
def cut (separator : Char) : List Char → List (List Char)
  | [] => [[]]
  | c :: s =>
    if c = separator then [] :: cut separator s
    else
      match cut separator s with
      | [] => [[c]]
      | p :: ps => (c :: p) :: ps

/-- The pieces of a text between separators. -/
def pieces (separator : Char) (s : String) : List String :=
  (cut separator s.toList).map String.ofList

/-- There is always a first piece. -/
theorem cut_ne_nil (separator : Char) (s : List Char) : cut separator s ≠ [] := by
  cases s with
  | nil => simp [cut]
  | cons c s =>
    rw [cut]
    split
    · simp
    · split <;> simp

end DeskPlan.Text
