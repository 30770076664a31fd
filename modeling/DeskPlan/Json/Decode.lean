import DeskPlan.Json.Node
import DeskPlan.Number.Ranged

/-!
# `DeskPlan.Json.Decode`: reading values out of a document

A `Decoder α` turns a node into an `α` or says why it does not describe one. Nothing is
converted: an integer is not a text, a real is not an integer, and `null` stands only for an
absent optional value.

* `decodeText` reads a whole text with a decoder; what follows the value is a defect, reported
  only when the value itself is in order.
-/

set_option autoImplicit false

namespace DeskPlan.Json

/-- Reads a value of type `α` out of a node. -/
abbrev Decoder (α : Type) := Node → Except DecodeError α

/-- A defect of the text, as an error of a decoder. -/
def ofFault {α : Type} (f : Fault) : Except DecodeError α := .error (.fault f)

/-- The result of a check of the text, as a result of a decoder. -/
def liftFault {α : Type} : Except Fault α → Except DecodeError α
  | .ok a => .ok a
  | .error f => ofFault f

namespace Decoder

/-- The error of finding the wrong kind of value. A defect at the place goes first. -/
def mismatch {α : Type} (expected : String) : Decoder α
  | .null => .error (.wrongType .null expected)
  | .bool b => .error (.wrongType (.bool b) expected)
  | .number (.integer n) => .error (.wrongType (.integer n) expected)
  | .number (.real x) => .error (.wrongType (.real x) expected)
  | .number .tooLarge => ofFault .numberTooLarge
  | .text (.ok s) => .error (.wrongType (.text s) expected)
  | .text (.error f) => ofFault f
  | .list _ _ => .error (.wrongType .sequence expected)
  | .object _ _ => .error (.wrongType .map expected)
  | .missing => ofFault .endInValue
  | .stray f _ => ofFault f
  | .badText f _ => ofFault f

/-- A text. -/
def string : Decoder String
  | .text (.ok s) => .ok s
  | v => mismatch "a string" v

/-- A boolean. -/
def bool : Decoder Bool
  | .bool b => .ok b
  | v => mismatch "a boolean" v

/-- An integer of a range; `kind` names the range in messages. -/
def ranged {lo hi : Int} (kind : String) : Decoder (Ranged lo hi)
  | .number (.integer n) =>
    match Ranged.ofInt? n with
    | some r => .ok r
    | none => .error (.outOfRange n kind)
  | v => mismatch kind v

/-- A coordinate. -/
def coordinate : Decoder Coordinate := ranged "i32"

/-- An unsigned 32-bit integer. -/
def word32 : Decoder Word32 := ranged "u32"

/-- An unsigned 64-bit integer. -/
def word64 : Decoder Word64 := ranged "u64"

/-- An unsigned integer of the size of a length. -/
def size : Decoder Word64 := ranged "usize"

/-- A value that may be null. -/
def optional {α : Type} (d : Decoder α) : Decoder (Option α)
  | .null => .ok none
  | v => (d v).map some

/-- The value that a word standing alone describes. -/
def ofToken : Token → Node
  | .null => .null
  | .bool b => .bool b
  | .number n => .number n
  | .text t => .text t
  | .openList => .list [] .endOfText
  | .openObject => .object [] .endOfText
  | .badText f g => .badText f g
  | .stray f g => .stray f g
  | .closeList | .closeObject | .colon | .comma => .stray .expectedValue .expectedValue

/-- One of several named constants: its name as a text, or an object whose only field has that
name and the value null. -/
def variant {α : Type} (known : List (String × α)) : Decoder α
  | .text (.ok s) => find s
  | .text (.error f) => ofFault f
  | .badText f _ => ofFault f
  | .missing => ofFault .endInValue
  | .object ((key, v) :: more) ending => do
    let a ← find (← liftFault key)
    match v with
    | .null => pure ()
    | v => mismatch "unit" v
    match more, ending with
    | [], .closed => return a
    | [], .endOfText => ofFault .endInObject
    | _, _ => ofFault .expectedValue
  | .object [] .endOfText => ofFault .endInValue
  | .object [] (.badKey f _) => ofFault f
  | .object [] (.keyNotText t) => mismatch "variant identifier" (ofToken t)
  | _ => ofFault .expectedValue
where
  /-- The constant with a name. -/
  find (s : String) : Except DecodeError α :=
    match known.lookup s with
    | some a => .ok a
    | none => .error (.unknownVariant s (known.map Prod.fst))

/-- A text, or a number as the text it is written with. -/
def textOrNumber (union : String) : Decoder String := fun v => do
  liftFault v.check
  match v with
  | .text (.ok s) => return s
  | .number (.integer n) => return toString n
  | .number (.real x) => return FloatLayout.document.write x
  | _ => .error (.noVariant union)

/-- A list of values. -/
def list {α : Type} (d : Decoder α) : Decoder (List α)
  | .list items ending => do
    let xs ← items.mapM d
    liftFault ending.check
    return xs
  | v => mismatch "a sequence" v

/-- The entries of an object whose keys are free, in the order of the text. -/
def entries {α : Type} (d : Decoder α) : Decoder (List (String × α))
  | .object fields ending => do
    let xs ← fields.mapM fun f => do
      let k ← liftFault f.1
      let v ← d f.2
      return (k, v)
    liftFault ending.check
    return xs
  | v => mismatch "a map" v

end Decoder

/-- Reads a whole text with a decoder. -/
def decodeText {α : Type} (d : Decoder α) (s : String) : Except DecodeError α := do
  let (v, more) := Node.read s
  let a ← d v
  if more then ofFault .trailingText else return a

end DeskPlan.Json
