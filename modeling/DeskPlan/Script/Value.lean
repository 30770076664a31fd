import DeskPlan.NameMap
import DeskPlan.Number.FloatText
import DeskPlan.Number.Reading
import DeskPlan.Script.Syntax
import DeskPlan.Text.Quoted

/-!
# `DeskPlan.Script.Value`: what scripts compute with

Values are copied when they are passed on. Only closures refer to something they share with
others: the variables they capture live in cells, which a closure holds by number.

* `Value.text` is how a value is written where a text is asked for;
* `Value.same` is the equality of scripts, in which an integer equals the float of its value;
* `Value.compare?` is their order, on numbers, texts, characters, booleans and units.
-/

set_option autoImplicit false

namespace DeskPlan.Script

/-- A value of a script. -/
inductive Value where
  | unit
  | bool (value : Bool)
  | int (value : Int)
  | float (value : Float)
  | char (value : Char)
  | str (value : String)
  | array (items : List Value)
  /-- The entries are in increasing order of their keys. -/
  | map (entries : List (String × Value))
  | range (first last : Int) (inclusive : Bool)
  | steps (first last step : Int)
  /-- A function without a name, with the constants and the cells it captured. -/
  | closure (params : List String) (body : Expr) (constants : List (String × Value))
      (cells : List (String × Nat))
  /-- A reference to a named function. -/
  | function (name : String)

namespace Value

/-- The value of a literal. -/
def ofLiteral : Literal → Value
  | .unit => unit
  | .bool b => bool b
  | .int n => int n
  | .float x => float x
  | .char c => char c
  | .text s => str s

/-- The name of a value's type. -/
def typeName : Value → String
  | unit => "()"
  | bool _ => "bool"
  | int _ => "i64"
  | float _ => "f64"
  | char _ => "char"
  | str _ => "string"
  | array _ => "array"
  | map _ => "map"
  | range _ _ inclusive => if inclusive then "range=" else "range"
  | steps _ _ _ => "range"
  | closure _ _ _ _ | function _ => "Fn"

/-- The name of a value's type in the signature of a call. -/
def signatureName : Value → String
  | str _ => "&str | ImmutableString | String"
  | v => v.typeName

/-- A character in quotes inside a message. -/
def quotedChar (c : Char) : String :=
  if c = '\'' then "'\\''" else if c = '"' then "'\"'"
  else "'" ++ String.ofList (Text.quoteChar c) ++ "'"

mutual

/-- A value inside the text of another one. -/
def inner : Value → String
  | unit => "()"
  | bool b => if b then "true" else "false"
  | int n => toString n
  | float x => FloatLayout.formula.write x
  | char c => quotedChar c
  | str s => Text.quoted s
  | array items => "[" ++ String.intercalate ", " (innerItems items) ++ "]"
  | map entries => "#\x7b" ++ String.intercalate ", " (innerEntries entries) ++ "\x7d"
  | range a b inclusive => toString a ++ (if inclusive then "..=" else "..") ++ toString b
  | steps a b _ => toString a ++ ".." ++ toString b
  | closure _ _ _ _ => "Fn"
  | function name => "Fn(" ++ name ++ ")"

/-- The items of an array inside its text. -/
def innerItems : List Value → List String
  | [] => []
  | v :: rest => v.inner :: innerItems rest

/-- The entries of a map inside its text. -/
def innerEntries : List (String × Value) → List String
  | [] => []
  | (k, v) :: rest => (Text.quoted k ++ ": " ++ v.inner) :: innerEntries rest

end

/-- A value where a text is asked for. -/
def text : Value → String
  | str s => s
  | char c => String.singleton c
  | unit => ""
  | v => v.inner

mutual

/-- The equality of scripts. -/
def same : Value → Value → Bool
  | unit, unit => true
  | bool a, bool b => a = b
  | int a, int b => a = b
  | float a, float b => a == b
  | int a, float b => Float.ofInt a == b
  | float a, int b => a == Float.ofInt b
  | char a, char b => a = b
  | str a, str b => a = b
  | char a, str b => String.singleton a = b
  | str a, char b => a = String.singleton b
  | array a, array b => sameItems a b
  | map a, map b => sameEntries a b
  | range a b i, range c d j => a = c && b = d && i = j
  | function a, function b => a = b
  | _, _ => false

/-- The equality of scripts, item by item. -/
def sameItems : List Value → List Value → Bool
  | [], [] => true
  | a :: as, b :: bs => same a b && sameItems as bs
  | _, _ => false

/-- The equality of scripts, entry by entry. -/
def sameEntries : List (String × Value) → List (String × Value) → Bool
  | [], [] => true
  | (j, a) :: as, (k, b) :: bs => j = k && same a b && sameEntries as bs
  | _, _ => false

end

/-- The order of two floats, none if one of them is no number. -/
def compareFloats (a b : Float) : Option Ordering :=
  if a < b then some .lt else if b < a then some .gt else if a == b then some .eq else none

/-- The order of two texts, by code point. -/
def compareTexts (a b : String) : Ordering :=
  if a < b then .lt else if a = b then .eq else .gt

/-- The order of two integers. -/
def compareInts (a b : Int) : Ordering :=
  if a < b then .lt else if a = b then .eq else .gt

/-- Whether two values are of types that scripts compare with each other. -/
def comparable : Value → Value → Bool
  | unit, unit | bool _, bool _ | int _, int _ | float _, float _ | int _, float _
  | float _, int _ | char _, char _ | str _, str _ | char _, str _ | str _, char _ => true
  | _, _ => false

/-- The order of scripts. -/
def compare? : Value → Value → Option Ordering
  | unit, unit => some .eq
  | bool a, bool b => some (compareInts a.toNat b.toNat)
  | int a, int b => some (compareInts a b)
  | float a, float b => compareFloats a b
  | int a, float b => compareFloats (Float.ofInt a) b
  | float a, int b => compareFloats a (Float.ofInt b)
  | char a, char b => some (compareInts a.toNat b.toNat)
  | str a, str b => some (compareTexts a b)
  | char a, str b => some (compareTexts (String.singleton a) b)
  | str a, char b => some (compareTexts a (String.singleton b))
  | _, _ => none

/-- Whether two values have the same type. -/
def sameType : Value → Value → Bool
  | unit, unit | bool _, bool _ | int _, int _ | float _, float _ | char _, char _
  | str _, str _ | array _, array _ | map _, map _ | range _ _ _, range _ _ _
  | steps _ _ _, steps _ _ _ => true
  | closure _ _ _ _, closure _ _ _ _ | closure _ _ _ _, function _
  | function _, closure _ _ _ _ | function _, function _ => true
  | _, _ => false

end Value

/-! ### Faults -/

/-- Why the evaluation of a script failed. -/
inductive EvalError where
  | variableNotFound (name : String)
  | functionNotFound (name : String) (types : List String)
  | divisionByZero (a b : Int)
  | divisionOverflow (a b : Int)
  | badModulo (a b : Int)
  | overflow (what : String) (a : Int) (op : Operator) (b : Int)
  | negativePower (a b : Int)
  | negationOverflow
  | badInteger (text : String) (cause : IntegerFault)
  | noInteger (x : Float)
  | constantModified (name : String)
  | constantReceiver (method : String)
  | arrayBounds (index : Int) (size : Nat)
  | textBounds (index : Int) (size : Nat)
  | noIndex (type key : String)
  | noProperty (name type : String)
  | noWritableProperty (name type value : String)
  | typeMismatch (found expected : String)
  | notIterable
  | thrown (value : Value)
  | stackOverflow
  | inFunction (name : String) (cause : EvalError)
  | inClosure (cause : EvalError)

namespace EvalError

/-- How many items there are, in words. -/
def countWords (item : String) (size : Nat) : String :=
  if size = 0 then "" else if size = 1 then s!"only 1 {item}" else s!"only {size} {item}s"

/-- The wording of the fault. -/
def message : EvalError → String
  | variableNotFound name => s!"Variable not found: {name}"
  | functionNotFound name types =>
    "Function not found: " ++ name ++ " (" ++ String.intercalate ", " types ++ ")"
  | divisionByZero a b => s!"Division by zero: {a} / {b}"
  | divisionOverflow a b => s!"Division overflow: {a} / {b}"
  | badModulo a b => s!"Modulo division by zero or overflow: {a} % {b}"
  | overflow what a op b => s!"{what} overflow: {a} {op.symbol} {b}"
  | negativePower a b => s!"Integer raised to a negative power: {a} ** {b}"
  | negationOverflow => "integer overflow"
  | badInteger text cause => s!"Error parsing integer number '{text}': " ++ cause.message
  | noInteger x => "Integer overflow: to_int(" ++ FloatLayout.formula.write x ++ ")"
  | constantModified name => s!"Cannot modify constant {name}"
  | constantReceiver method => s!"Non-pure method {method} cannot be called on a constant"
  | arrayBounds index size =>
    s!"Array index {index} out of bounds: " ++
      if size = 0 then "array is empty" else countWords "element" size ++ " in array"
  | textBounds index size =>
    s!"String index {index} out of bounds: " ++
      if size = 0 then "string is empty" else countWords "character" size ++ " in string"
  | noIndex type key => s!"Indexer unavailable: {type} [{key}]"
  | noProperty name type =>
    s!"Unknown property '{name}' - a getter is not registered for type '{type}'"
  | noWritableProperty name type value =>
    s!"No writable property '{name}' - a setter is not registered for type '{type}' " ++
      s!"to handle '{value}'"
  | typeMismatch found expected => s!"Data type incorrect: {found} (expecting {expected})"
  | notIterable => "For loop expects iterable type"
  | thrown .unit | thrown (.str "") => "Runtime error"
  | thrown v => "Runtime error: " ++ v.text
  | stackOverflow => "Stack overflow"
  | inFunction name cause => cause.message ++ s!"\nin call to function '{name}'"
  | inClosure cause => cause.message ++ "\nin call to closure"

/-- The fault without the calls it passed through. -/
def root : EvalError → EvalError
  | inFunction _ cause | inClosure cause => cause.root
  | e => e

/-- Whether a script can catch the fault. -/
def catchable (e : EvalError) : Bool :=
  match e.root with
  | stackOverflow => false
  | _ => true

/-- What a script gets when it catches the fault: the value thrown, or a description. -/
def caught (e : EvalError) : Value :=
  match e.root with
  | thrown v => v
  | r => .map [("message", .str r.message)]

/-- What is left of a fault whose handler ended in another fault: a handler that throws nothing
throws the first fault again. -/
def handledBy (e again : EvalError) : EvalError :=
  match again with
  | thrown .unit => e
  | again => again

end EvalError

end DeskPlan.Script
