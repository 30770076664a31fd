import DeskPlan.Json.Token

/-!
# `DeskPlan.Json.Node`: a JSON text as far as it can be read

A `Node` is the tree of a text up to its first defect. A container records how it ends: closed,
or where the defect stands. A reader walks the tree in the order of the text, so that the first
defect it meets is the one reported, whether it is a defect of the text or a value of the wrong
kind.

* `Node.read` builds the tree from words;
* `Node.skip` passes over a value and reports the first defect in it.
-/

set_option autoImplicit false

namespace DeskPlan.Json

/-- How the items of a list end. -/
inductive ListEnd where
  | closed
  /-- The text ends after an item, or after the opening bracket. -/
  | endOfText
  /-- A comma, then the closing bracket. -/
  | danglingComma
  /-- A comma, then the end of the text. -/
  | commaAtEnd
  /-- Something other than a comma or a bracket follows an item. -/
  | unseparated
  /-- The last item has a defect. -/
  | broken
deriving DecidableEq

/-- How the fields of an object end. -/
inductive ObjectEnd where
  | closed
  /-- The text ends after a field, or after the opening brace. -/
  | endOfText
  /-- A comma, then the closing brace. -/
  | danglingComma
  /-- A comma, then the end of the text. -/
  | commaAtEnd
  /-- Something other than a comma or a brace follows a field. -/
  | unseparated
  /-- A word that is no text stands in the place of a key. -/
  | keyNotText (found : Token)
  /-- The text in the place of a key has a defect. -/
  | badKey (read skipped : Fault)
  /-- The last field has a defect. -/
  | broken

/-- The tree of a text up to its first defect. -/
inductive Node where
  | null
  | bool (value : Bool)
  | number (value : Numeral)
  | text (content : Except Fault String)
  | list (items : List Node) (ending : ListEnd)
  | object (fields : List (Except Fault String × Node)) (ending : ObjectEnd)
  /-- The text ends where a value is due. -/
  | missing
  /-- No value starts here; the two defects are those of a reader that wants the value and of
  one that passes over it. -/
  | stray (read skipped : Fault)
  /-- A text that has a defect either way. -/
  | badText (read skipped : Fault)

/-- The defect at the end of a list, for a reader of its items. -/
def ListEnd.check : ListEnd → Except Fault Unit
  | closed => .ok ()
  | endOfText => .error .endInList
  | danglingComma => .error .trailingComma
  | commaAtEnd => .error .endInValue
  | unseparated => .error .expectedItemEnd
  | broken => .error .endInValue

/-- The defect at the end of a list, for a reader that passes over it. -/
def ListEnd.skip : ListEnd → Except Fault Unit
  | danglingComma => .error .expectedValue
  | e => e.check

/-- The defect at the end of an object, for a reader of its fields. -/
def ObjectEnd.check : ObjectEnd → Except Fault Unit
  | closed => .ok ()
  | endOfText => .error .endInObject
  | danglingComma => .error .trailingComma
  | commaAtEnd => .error .endInValue
  | unseparated => .error .expectedFieldEnd
  | keyNotText _ => .error .keyNotText
  | badKey f _ => .error f
  | broken => .error .endInValue

/-- The defect at the end of an object, for a reader that passes over it. -/
def ObjectEnd.skip : ObjectEnd → Except Fault Unit
  | danglingComma => .error .keyNotText
  | commaAtEnd => .error .endInObject
  | badKey _ g => .error g
  | e => e.check

namespace Node

/-- Whether the text goes on after the node. -/
def complete : Node → Bool
  | list _ ending => ending = .closed
  | object _ .closed => true
  | object _ _ => false
  | missing => false
  | stray _ _ => false
  | badText _ _ => false
  | _ => true

mutual

/-- The value at the head of a list of words, and the words after it. The fuel bounds the
number of words. -/
def readValue : Nat → List Token → Node × List Token
  | 0, _ => (missing, [])
  | _ + 1, [] => (missing, [])
  | _ + 1, .null :: ts => (null, ts)
  | _ + 1, .bool b :: ts => (bool b, ts)
  | _ + 1, .number n :: ts => (number n, ts)
  | _ + 1, .text t :: ts => (text t, ts)
  | _ + 1, .badText f g :: _ => (badText f g, [])
  | _ + 1, .stray f g :: _ => (stray f g, [])
  | fuel + 1, .openList :: ts =>
    match ts with
    | [] => (list [] .endOfText, [])
    | .closeList :: ts => (list [] .closed, ts)
    | ts =>
      let (items, ending, rest) := readItems fuel ts
      (list items ending, rest)
  | fuel + 1, .openObject :: ts =>
    match ts with
    | [] => (object [] .endOfText, [])
    | .closeObject :: ts => (object [] .closed, ts)
    | ts =>
      let (fields, ending, rest) := readFields fuel ts
      (object fields ending, rest)
  | _ + 1, .closeObject :: _ => (stray .expectedValue .expectedValue, [])
  | _ + 1, .closeList :: _ => (stray .expectedValue .expectedValue, [])
  | _ + 1, .colon :: _ => (stray .expectedValue .expectedValue, [])
  | _ + 1, .comma :: _ => (stray .expectedValue .expectedValue, [])

/-- The items of a list from an item on, and the words after the list. -/
def readItems : Nat → List Token → List Node × ListEnd × List Token
  | 0, _ => ([], .endOfText, [])
  | fuel + 1, ts =>
    let (v, rest) := readValue fuel ts
    if v.complete then
      match rest with
      | [] => ([v], .endOfText, [])
      | .closeList :: rest => ([v], .closed, rest)
      | [.comma] => ([v], .commaAtEnd, [])
      | .comma :: .closeList :: _ => ([v], .danglingComma, [])
      | .comma :: rest =>
        let (vs, ending, rest) := readItems fuel rest
        (v :: vs, ending, rest)
      | _ => ([v], .unseparated, [])
    -- What follows a defect is never looked at.
    else ([v], .broken, [])

/-- The fields of an object from a key on, and the words after the object. -/
def readFields : Nat → List Token →
    List (Except Fault String × Node) × ObjectEnd × List Token
  | 0, _ => ([], .endOfText, [])
  | _ + 1, [] => ([], .endOfText, [])
  | fuel + 1, .text k :: ts =>
    match ts with
    -- The key is there, but no value follows it.
    | [] => ([(k, stray .endInObject .endInObject)], .broken, [])
    | .colon :: ts =>
      let (v, rest) := readValue fuel ts
      if v.complete then
        match rest with
        | [] => ([(k, v)], .endOfText, [])
        | .closeObject :: rest => ([(k, v)], .closed, rest)
        | [.comma] => ([(k, v)], .commaAtEnd, [])
        | .comma :: .closeObject :: _ => ([(k, v)], .danglingComma, [])
        | .comma :: rest =>
          let (fs, ending, rest) := readFields fuel rest
          ((k, v) :: fs, ending, rest)
        | _ => ([(k, v)], .unseparated, [])
      else ([(k, v)], .broken, [])
    | _ => ([(k, stray .expectedColon .expectedColon)], .broken, [])
  | _ + 1, .badText f g :: _ => ([], .badKey f g, [])
  | _ + 1, t :: _ => ([], .keyNotText t, [])

end

/-- The value at the head of a text, and whether anything follows it. -/
def read (s : String) : Node × Bool :=
  let ts := tokens s
  let (v, rest) := readValue (ts.length + 1) ts
  (v, !rest.isEmpty)

mutual

/-- Passes over a value; the first defect in it, if there is one. -/
def skip : Node → Except Fault Unit
  | null | bool _ | number _ | text _ => .ok ()
  | missing => .error .endInValue
  | stray _ f => .error f
  | badText _ f => .error f
  | list items ending => do skipItems items; ending.skip
  | object fields ending => do skipFields fields; ending.skip

/-- Passes over the items of a list. -/
def skipItems : List Node → Except Fault Unit
  | [] => .ok ()
  | v :: vs => do skip v; skipItems vs

/-- Passes over the fields of an object. -/
def skipFields : List (Except Fault String × Node) → Except Fault Unit
  | [] => .ok ()
  | (_, v) :: fs => do skip v; skipFields fs

end

mutual

/-- Reads a value of any kind; the first defect in it, if there is one. -/
def check : Node → Except Fault Unit
  | null | bool _ | number (.integer _) | number (.real _) | text (.ok _) => .ok ()
  | number .tooLarge => .error .numberTooLarge
  | text (.error f) => .error f
  | missing => .error .endInValue
  | stray f _ => .error f
  | badText f _ => .error f
  | list items ending => do checkItems items; ending.check
  | object fields ending => do checkFields fields; ending.check

/-- Reads the items of a list. -/
def checkItems : List Node → Except Fault Unit
  | [] => .ok ()
  | v :: vs => do check v; checkItems vs

/-- Reads the fields of an object. -/
def checkFields : List (Except Fault String × Node) → Except Fault Unit
  | [] => .ok ()
  | (.error f, _) :: _ => .error f
  | (.ok _, v) :: fs => do check v; checkFields fs

end

end Node

end DeskPlan.Json
