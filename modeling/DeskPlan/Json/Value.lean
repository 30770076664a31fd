import DeskPlan.Number.FloatText

/-!
# `DeskPlan.Json.Value`: JSON values and their text

`Json` is the value type of every document the library writes. An object keeps its fields in
the order they are given. `Json.compact` writes a value on one line without spaces,
`Json.pretty` with two spaces of indentation per level.

The escape of a character is `escapeChar`: a quote, a backslash and the control characters are
escaped, everything else stands for itself.
-/

set_option autoImplicit false

namespace DeskPlan

/-- A JSON value. -/
inductive Json where
  | null
  | bool (value : Bool)
  | int (value : Int)
  | real (value : Float)
  | str (value : String)
  | list (items : List Json)
  | obj (fields : List (String × Json))
deriving Inhabited

namespace Json

/-- The hexadecimal digit of `n`, in lower case. -/
def hexDigit (n : Nat) : Char :=
  if n < 10 then Char.ofNat (48 + n) else Char.ofNat (87 + n)

/-- A character inside a quoted text. -/
def escapeChar (c : Char) : List Char :=
  if c = '"' then ['\\', '"']
  else if c = '\\' then ['\\', '\\']
  else if c = '\n' then ['\\', 'n']
  else if c = '\r' then ['\\', 'r']
  else if c = '\t' then ['\\', 't']
  else if c = '\x08' then ['\\', 'b']
  else if c = '\x0c' then ['\\', 'f']
  else if c.toNat < 32 then
    ['\\', 'u', '0', '0', hexDigit (c.toNat / 16), hexDigit (c.toNat % 16)]
  else [c]

/-- A text in quotes. -/
def quoted (s : String) : List Char :=
  '"' :: (s.toList.flatMap escapeChar ++ ['"'])

/-- A value without spaces. Integers are decimal; reals follow the document layout. -/
def chars : Json → List Char
  | null => "null".toList
  | bool true => "true".toList
  | bool false => "false".toList
  | int n => (toString n).toList
  | real x => (FloatLayout.document.write x).toList
  | str s => quoted s
  | list items => '[' :: itemChars true items
  | obj fields => '{' :: fieldChars true fields
where
  /-- The items of a list with the closing bracket; a comma stands before each but the first. -/
  itemChars : Bool → List Json → List Char
    | _, [] => [']']
    | first, v :: vs => (if first then [] else [',']) ++ chars v ++ itemChars false vs
  /-- The fields of an object with the closing brace. -/
  fieldChars : Bool → List (String × Json) → List Char
    | _, [] => ['}']
    | first, (k, v) :: fs =>
      (if first then [] else [',']) ++ quoted k ++ ':' :: chars v ++ fieldChars false fs

/-- The text of a value on one line. -/
def compact (v : Json) : String := String.ofList v.chars

/-- A line break followed by the indentation of the level. -/
def newline (level : Nat) : List Char := '\n' :: List.replicate (2 * level) ' '

/-- A value with one item or field to a line, nested containers two spaces deeper. -/
def prettyChars (level : Nat) : Json → List Char
  | list [] => ['[', ']']
  | list items => '[' :: itemChars level true items
  | obj [] => ['{', '}']
  | obj fields => '{' :: fieldChars level true fields
  | v => chars v
where
  /-- The items of a list, each on its own line, with the closing bracket. -/
  itemChars (level : Nat) : Bool → List Json → List Char
    | _, [] => newline level ++ [']']
    | first, v :: vs =>
      (if first then [] else [',']) ++ newline (level + 1) ++ prettyChars (level + 1) v ++
        itemChars level false vs
  /-- The fields of an object, each on its own line, with the closing brace. -/
  fieldChars (level : Nat) : Bool → List (String × Json) → List Char
    | _, [] => newline level ++ ['}']
    | first, (k, v) :: fs =>
      (if first then [] else [',']) ++ newline (level + 1) ++ quoted k ++
        ':' :: ' ' :: prettyChars (level + 1) v ++ fieldChars level false fs

/-- The text of a value over several lines. -/
def pretty (v : Json) : String := String.ofList (v.prettyChars 0)

/-- A text, or null. -/
def optStr : Option String → Json
  | some s => str s
  | none => null

/-- An integer, or null. -/
def optInt : Option Int → Json
  | some n => int n
  | none => null

/-- A list of texts. -/
def strings (xs : List String) : Json := list (xs.map str)

/-- A field that is left out when its value is absent. -/
def fieldIf {α : Type} (key : String) (encode : α → Json) : Option α → List (String × Json)
  | some v => [(key, encode v)]
  | none => []

end Json

end DeskPlan
