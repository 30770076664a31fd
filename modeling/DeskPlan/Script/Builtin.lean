import DeskPlan.Script.Arithmetic
import DeskPlan.Text.Case

/-!
# `DeskPlan.Script.Builtin`: the functions every script can call

A built-in function of values is a row of `pureFunctions`; one that changes the value it is
called on is a row of `changingFunctions` and returns the changed value beside its result.
A call that no row answers is a call of an unknown function. The rows are those of numbers, texts,
arrays and maps that scripts for windows have use for, a part of what the language offers; running
a text as a script is not among them. What is proved of all scripts rests on `Engine.Lawful` and
not on these rows.
-/

set_option autoImplicit false

namespace DeskPlan.Script

namespace Value

/-- The number of parts of a value that has parts. -/
def size? : Value → Option Nat
  | .array items => some items.length
  | .map entries => some entries.length
  | .str s => some s.length
  | _ => none

/-- The value of a property that is no entry of a map. -/
def property? (v : Value) (name : String) : Option Value :=
  match v with
  | .array _ | .str _ =>
    if name = "len" then v.size?.map fun n => .int n
    else if name = "is_empty" then v.size?.map fun n => .bool (n = 0)
    else none
  | _ => none

/-- The place meant by an index, which counts from the end when it is negative. -/
def place? (size : Nat) (index : Int) : Option Nat :=
  let i := if index < 0 then index + size else index
  if 0 ≤ i ∧ i < size then some i.toNat else none

end Value

/-- A step into a value with its operands evaluated. -/
inductive Key where
  | index (key : Value)
  | field (name : String)
  | method (position : Position) (name : String) (args : List Value)

/-- The part of a value at an index or property. -/
def Value.part (v : Value) (key : Key) : Except EvalError Value :=
  match v, key with
  | .map entries, .index (.str k) | .map entries, .field k => .ok ((entries.lookup k).getD .unit)
  | .map _, .index k => .error (.typeMismatch k.typeName "string")
  | .array items, .index (.int i) =>
    match Value.place? items.length i with
    | some n => .ok (items[n]?.getD .unit)
    | none => .error (.arrayBounds i items.length)
  | .array _, .index k => .error (.typeMismatch k.typeName "i64")
  | .str s, .index (.int i) =>
    match (Value.place? s.length i).bind fun n => s.toList[n]? with
    | some c => .ok (.char c)
    | none => .error (.textBounds i s.length)
  | v, .field name =>
    match v.property? name with
    | some p => .ok p
    | none => .error (.noProperty name v.typeName)
  | v, .index k => .error (.noIndex v.typeName k.typeName)
  | v, .method _ name _ => .error (.functionNotFound name [v.signatureName])

/-- The value with the part at an index or property replaced. -/
def Value.withPart (v : Value) (key : Key) (part : Value) : Except EvalError Value :=
  match v, key with
  | .map entries, .index (.str k) | .map entries, .field k =>
    .ok (.map (NameMap.insertEntry k part entries))
  | .map _, .index k => .error (.typeMismatch k.typeName "string")
  | .array items, .index (.int i) =>
    match Value.place? items.length i with
    | some n => .ok (.array (items.set n part))
    | none => .error (.arrayBounds i items.length)
  | .array _, .index k => .error (.typeMismatch k.typeName "i64")
  | v, .field name => .error (.noWritableProperty name v.typeName part.signatureName)
  | v, .index k => .error (.noIndex v.typeName k.typeName)
  | v, .method _ name _ => .error (.functionNotFound name [v.signatureName])

/-! ### Functions of values -/

/-- Two numbers of different types as floats; other values as they are. -/
def aligned (a b : Value) : Value × Value :=
  match a, b with
  | .float _, .int n => (a, .float (Float.ofInt n))
  | .int n, .float _ => (.float (Float.ofInt n), b)
  | a, b => (a, b)

/-- The greater or the lesser of two values, the first one if they are equal. -/
def extremum (keep : Ordering → Bool) (a b : Value) : Option Value :=
  let (a, b) := aligned a b
  if a.comparable b then
    some (match a.compare? b with
      | some o => if keep o then a else b
      | none => b)
  else none

/-- A float as an integer, the fraction cut off. -/
def truncated (x : Float) : Except EvalError Value :=
  -- The bound itself is let through and becomes the greatest integer.
  if 9223372036854775808.0 < x || x < -9223372036854775808.0 then
    .error (.noInteger x)
  else .ok (.int x.toInt64.toInt)

/-- The sign of a float as an integer. -/
def floatSign (x : Float) : Int := if x == 0.0 then 0 else if x < 0.0 then -1 else 1

/-- A function of one float. -/
def onFloat (f : Float → Float) : List Value → Option (Except EvalError Value)
  | [.float x] => some (.ok (.float (f x)))
  | _ => none

/-- A test of one text by another. -/
def onTexts (f : List Char → List Char → Bool) : List Value → Option (Except EvalError Value)
  | [.str a, .str b] => some (.ok (.bool (f a.toList b.toList)))
  | [.str a, .char b] => some (.ok (.bool (f a.toList [b])))
  | _ => none

/-- The functions that compute a value and change nothing. -/
def pureFunctions : List (String × (List Value → Option (Except EvalError Value))) := [
  ("abs", fun
    | [.int n] => some (checkedInt n.natAbs .negationOverflow)
    | [.float x] => some (.ok (.float x.abs))
    | _ => none),
  ("sign", fun
    | [.int n] => some (.ok (.int n.sign))
    | [.float x] => some (.ok (.int (floatSign x)))
    | _ => none),
  ("floor", onFloat Float.floor),
  ("ceiling", onFloat Float.ceil),
  ("round", onFloat Float.round),
  ("sqrt", onFloat Float.sqrt),
  ("int", onFloat fun x => if x < 0.0 then x.ceil else x.floor),
  ("fraction", onFloat fun x => if x < 0.0 then x - x.ceil else x - x.floor),
  ("to_int", fun
    | [.int n] => some (.ok (.int n))
    | [.float x] => some (truncated x)
    | [.char c] => some (.ok (.int c.toNat))
    | _ => none),
  ("to_float", fun
    | [.int n] => some (.ok (.float (Float.ofInt n)))
    | [.float x] => some (.ok (.float x))
    | _ => none),
  ("parse_int", fun
    | [.str s] =>
      let t := s.trimAscii.toString
      some (match readInteger 9223372036854775808 9223372036854775807 t with
        | .ok n => .ok (.int n)
        | .error e => .error (.badInteger s e))
    | _ => none),
  ("min", fun
    | [a, b] => (extremum (· ≠ .gt) a b).map .ok
    | _ => none),
  ("max", fun
    | [a, b] => (extremum (· ≠ .lt) a b).map .ok
    | _ => none),
  ("is_zero", fun
    | [.int n] => some (.ok (.bool (n = 0)))
    | [.float x] => some (.ok (.bool (x == 0.0)))
    | _ => none),
  ("is_odd", fun
    | [.int n] => some (.ok (.bool (n % 2 = 1)))
    | _ => none),
  ("is_even", fun
    | [.int n] => some (.ok (.bool (n % 2 = 0)))
    | _ => none),
  ("range", fun
    | [.int a, .int b] => some (.ok (.range a b false))
    | [.int a, .int b, .int step] => some (.ok (.steps a b step))
    | _ => none),
  ("len", fun
    | [v] => v.size?.map fun n => .ok (.int n)
    | _ => none),
  ("is_empty", fun
    | [v] => v.size?.map fun n => .ok (.bool (n = 0))
    | _ => none),
  ("contains", fun
    | [c, v] => some (isMember v c)
    | _ => none),
  ("starts_with", onTexts fun s t => t.isPrefixOf s),
  ("ends_with", onTexts fun s t => t.isSuffixOf s),
  ("to_upper", fun
    | [.str s] => some (.ok (.str (Text.upper s)))
    | _ => none),
  ("to_lower", fun
    | [.str s] => some (.ok (.str (Text.lower s)))
    | _ => none),
  ("keys", fun
    | [.map entries] => some (.ok (.array (entries.map fun e => .str e.1)))
    | _ => none),
  ("values", fun
    | [.map entries] => some (.ok (.array (entries.map Prod.snd)))
    | _ => none),
  ("to_string", fun
    | [v] => some (.ok (.str v.text))
    | _ => none),
  ("type_of", fun
    | [v] => some (.ok (.str v.typeName))
    | _ => none),
  ("Fn", fun
    | [.str name] => some (.ok (.function name))
    | _ => none)]

/-- Sorts values that scripts can compare; equal values keep their order. -/
def sortValues (items : List Value) : List Value :=
  items.mergeSort fun a b => a.compare? b ≠ some .gt

/-- The functions that change the value they are called on. They return their result and the
changed value. -/
def changingFunctions : List (String × (Value → List Value → Option (Value × Value))) := [
  ("push", fun
    | .array items, [v] => some (.unit, .array (items ++ [v]))
    | _, _ => none),
  ("sort", fun
    | .array items, [] => some (.unit, .array (sortValues items))
    | _, _ => none),
  ("reverse", fun
    | .array items, [] => some (.unit, .array items.reverse)
    | _, _ => none),
  ("pop", fun
    | .array items, [] => some (items.getLast?.getD .unit, .array items.dropLast)
    | _, _ => none),
  ("shift", fun
    | .array (v :: items), [] => some (v, .array items)
    | .array [], [] => some (.unit, .array [])
    | _, _ => none),
  ("clear", fun
    | .array _, [] => some (.unit, .array [])
    | .map _, [] => some (.unit, .map [])
    | _, _ => none),
  ("remove", fun
    | .map entries, [.str k] =>
      some ((entries.lookup k).getD .unit, .map (entries.filter fun e => e.1 ≠ k))
    | .array items, [.int i] =>
      match Value.place? items.length i with
      | some n => some (items[n]?.getD .unit, .array (items.eraseIdx n))
      | none => some (.unit, .array items)
    | _, _ => none)]

/-- A call of a function that every script can call: its result, and the changed first argument
if it changes one. -/
def builtin (name : String) (args : List Value) : Except EvalError (Value × Option Value) :=
  let unknown : Except EvalError (Value × Option Value) :=
    .error (.functionNotFound name (args.map Value.signatureName))
  match pureFunctions.lookup name, changingFunctions.lookup name, args with
  | some f, _, args =>
    match f args with
    | some result => result.map fun v => (v, none)
    | none => unknown
  | none, some f, receiver :: rest =>
    match f receiver rest with
    | some (result, changed) => .ok (result, some changed)
    | none => unknown
  | none, _, _ => unknown

end DeskPlan.Script
