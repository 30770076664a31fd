import DeskPlan.Number.FloatText
import DeskPlan.Text.Quoted

/-!
# `DeskPlan.Json.Fault`: what can be wrong with a document

A `Fault` is a defect of the text itself. A `DecodeError` adds the ways in which well-formed
text fails to describe the value that is asked for. `DecodeError.message` is the one place
where either is worded.
-/

set_option autoImplicit false

namespace DeskPlan.Json

/-- A defect of a text as JSON. -/
inductive Fault where
  | endInValue
  | endInObject
  | endInList
  | endInString
  | expectedValue
  | expectedIdent
  | expectedColon
  | expectedFieldEnd
  | expectedItemEnd
  | keyNotText
  | trailingComma
  | trailingText
  | badEscape
  | badNumber
  | numberTooLarge
  | controlCharacter
  | loneSecondHalf
  | missingSecondHalf
deriving DecidableEq, Repr

/-- The wording of a defect. -/
def Fault.message : Fault → String
  | endInValue => "EOF while parsing a value"
  | endInObject => "EOF while parsing an object"
  | endInList => "EOF while parsing a list"
  | endInString => "EOF while parsing a string"
  | expectedValue => "expected value"
  | expectedIdent => "expected ident"
  | expectedColon => "expected `:`"
  | expectedFieldEnd => "expected `,` or `\x7d`"
  | expectedItemEnd => "expected `,` or `]`"
  | keyNotText => "key must be a string"
  | trailingComma => "trailing comma"
  | trailingText => "trailing characters"
  | badEscape => "invalid escape"
  | badNumber => "invalid number"
  | numberTooLarge => "number out of range"
  | controlCharacter => "control character (\\u0000-\\u001F) found while parsing a string"
  | loneSecondHalf => "lone leading surrogate in hex escape"
  | missingSecondHalf => "unexpected end of hex escape"

/-- What stands in a document where something else was asked for. -/
inductive Found where
  | null
  | bool (value : Bool)
  | integer (value : Int)
  | real (value : Float)
  | text (value : String)
  | sequence
  | map

/-- A name in a message stands between backticks. -/
def ticked (s : String) : String := "`" ++ s ++ "`"

/-- The description of what was found. -/
def Found.describe : Found → String
  | null => "null"
  | bool b => "boolean " ++ ticked (if b then "true" else "false")
  | integer n => "integer " ++ ticked (toString n)
  | real x => "floating point " ++ ticked (FloatLayout.document.write x)
  | text s => "string " ++ Text.quoted s
  | sequence => "sequence"
  | map => "map"

/-- Why a document does not describe the value asked for. -/
inductive DecodeError where
  | fault (f : Fault)
  | wrongType (found : Found) (expected : String)
  | outOfRange (value : Int) (expected : String)
  | wrongLength (length : Nat) (record : String) (arity : Nat)
  | missingField (name : String)
  | duplicateField (name : String)
  | unknownVariant (name : String) (known : List String)
  | noVariant (union : String)

/-- The wording of an error. -/
def DecodeError.message : DecodeError → String
  | fault f => f.message
  | wrongType found expected => "invalid type: " ++ found.describe ++ ", expected " ++ expected
  | outOfRange n expected =>
    "invalid value: integer " ++ ticked (toString n) ++ ", expected " ++ expected
  | wrongLength n record arity =>
    "invalid length " ++ toString n ++ ", expected struct " ++ record ++ " with " ++
      toString arity ++ " element" ++ if arity = 1 then "" else "s"
  | missingField name => "missing field " ++ ticked name
  | duplicateField name => "duplicate field " ++ ticked name
  | unknownVariant name known =>
    "unknown variant " ++ ticked name ++ ", expected one of " ++
      String.intercalate ", " (known.map ticked)
  | noVariant union => "data did not match any variant of untagged enum " ++ union

end DeskPlan.Json
