import DeskPlan.Script.Lexer
import DeskPlan.Script.Value

/-!
# `DeskPlan.Script.Arithmetic`: the operators

Integers are 64 bits wide and every operation that leaves their range is a fault. An integer
next to a float is taken as a float. Values of different types are unequal and in no order.
-/

set_option autoImplicit false

namespace DeskPlan.Script

/-- An integer result, if scripts can hold it. -/
def checkedInt (n : Int) (otherwise : EvalError) : Except EvalError Value :=
  if fitsInt n then .ok (.int n) else .error otherwise

/-- The remainder of the division of two floats, exact, with the sign of the first. -/
def floatRem (x y : Float) : Float :=
  match Binary.ofFloat? x, Binary.ofFloat? y with
  | some a, some b =>
    if b.mantissa = 0 then 0.0 / 0.0
    else
      -- Both numbers are whole multiples of the smaller power of two.
      let e := min a.exponent b.exponent
      let r := a.mantissa * Nat.pow 2 (a.exponent - e).toNat %
        (b.mantissa * Nat.pow 2 (b.exponent - e).toNat)
      let r := Float.scaleB (Float.ofNat r) e
      if x.toBits.toNat / Nat.pow 2 63 = 1 then -r else r
  | some _, none => if y.isNaN then y else x
  | none, _ => 0.0 / 0.0

/-- `a ** b` for integers; the exponent has to fit 32 bits. -/
def intPow (a b : Int) : Except EvalError Value :=
  if b < 0 then .error (.negativePower a b)
  else if 4294967295 < b then .error (.overflow "Exponential" a .pow b)
  else if a = 0 || a = 1 then .ok (.int (if b = 0 then 1 else a))
  else if a = -1 then .ok (.int (if b % 2 = 0 then 1 else -1))
  else if 64 < b then .error (.overflow "Exponential" a .pow b)
  else checkedInt (Int.pow a b.toNat) (.overflow "Exponential" a .pow b)

/-- `a` shifted left by `b` bits, the bits that leave the word being lost. -/
def shiftLeft (a : Int) (b : Nat) : Int := if 64 ≤ b then 0 else wrapInt (a * Int.pow 2 b)

/-- `a` shifted right by `b` bits, the sign being kept. -/
def shiftRight (a : Int) (b : Nat) : Int :=
  if 64 ≤ b then (if a < 0 then -1 else 0) else Int.fdiv a (Int.pow 2 b)

/-- An operation on the bits of two integers. -/
def bitwise (f : Nat → Nat → Nat) (a b : Int) : Int :=
  let word (n : Int) : Nat := (n.emod 18446744073709551616).toNat
  wrapInt (f (word a) (word b) : Nat)

/-- The operators on two integers. -/
def intOperation (op : Operator) (a b : Int) : Option (Except EvalError Value) :=
  match op with
  | .add => some (checkedInt (a + b) (.overflow "Addition" a .add b))
  | .sub => some (checkedInt (a - b) (.overflow "Subtraction" a .sub b))
  | .mul => some (checkedInt (a * b) (.overflow "Multiplication" a .mul b))
  | .div =>
    some (if b = 0 then .error (.divisionByZero a b)
      else checkedInt (a.tdiv b) (.divisionOverflow a b))
  | .rem =>
    some (if b = 0 || (b = -1 && a = leastInt) then .error (.badModulo a b)
      else .ok (.int (a.tmod b)))
  | .pow => some (intPow a b)
  | .shl => some (.ok (.int (if b < 0 then shiftRight a b.natAbs else shiftLeft a b.toNat)))
  | .shr => some (.ok (.int (if b < 0 then shiftLeft a b.natAbs else shiftRight a b.toNat)))
  | .bitAnd => some (.ok (.int (bitwise (· &&& ·) a b)))
  | .bitOr => some (.ok (.int (bitwise (· ||| ·) a b)))
  | .bitXor => some (.ok (.int (bitwise (· ^^^ ·) a b)))
  | _ => none

/-- The operators on two floats. -/
def floatOperation (op : Operator) (a b : Float) : Option Value :=
  match op with
  | .add => some (.float (a + b))
  | .sub => some (.float (a - b))
  | .mul => some (.float (a * b))
  | .div => some (.float (a / b))
  | .rem => some (.float (floatRem a b))
  | .pow => some (.float (Float.pow a b))
  | _ => none

/-- The entries of two maps together; those of the second win. -/
def mergeEntries (a b : List (String × Value)) : List (String × Value) :=
  b.foldl (fun m e => NameMap.insertEntry e.1 e.2 m) a

/-- The operators that build a value from two others. -/
def combine (op : Operator) (l r : Value) : Option (Except EvalError Value) :=
  match l, r with
  | .int a, .int b => intOperation op a b
  | .float a, .float b => (floatOperation op a b).map .ok
  | .int a, .float b => (floatOperation op (Float.ofInt a) b).map .ok
  | .float a, .int b => (floatOperation op a (Float.ofInt b)).map .ok
  | .bool a, .bool b =>
    match op with
    | .bitAnd => some (.ok (.bool (a && b)))
    | .bitOr => some (.ok (.bool (a || b)))
    | .bitXor => some (.ok (.bool (a != b)))
    | _ => none
  | .array a, .array b => if op = .add then some (.ok (.array (a ++ b))) else none
  | .map a, .map b => if op = .add then some (.ok (.map (mergeEntries a b))) else none
  | .char a, .char b => if op = .add then some (.ok (.str (String.ofList [a, b]))) else none
  | .str a, v => if op = .add then some (.ok (.str (a ++ v.text))) else none
  | v, .str b => if op = .add then some (.ok (.str (v.text ++ b))) else none
  | _, _ => none

/-- The tests that compare two values. -/
def comparison (op : Operator) (l r : Value) : Option Bool :=
  let ordered (test : Ordering → Bool) : Option Bool :=
    if l.comparable r then some (((l.compare? r).map test).getD false)
    else if l.sameType r then none
    else some false
  match op with
  | .eq => some (l.same r)
  | .ne => some (!l.same r)
  | .lt => ordered (· = .lt)
  | .le => ordered (· ≠ .gt)
  | .gt => ordered (· = .gt)
  | .ge => ordered (· ≠ .lt)
  | _ => none

/-- The value of an operator on two operands. -/
def applyOperator (op : Operator) (l r : Value) : Except EvalError Value :=
  match comparison op l r with
  | some b => .ok (.bool b)
  | none =>
    match combine op l r with
    | some result => result
    | none => .error (.functionNotFound op.symbol [l.signatureName, r.signatureName])

/-- What a variable holds after an operator is applied to it in place. What is added to an array
in place becomes its last item, unless it is an array itself. -/
def applyAssignment (op : Operator) (old operand : Value) : Except EvalError Value :=
  match op, old, operand with
  | .add, .array a, .array b => .ok (.array (a ++ b))
  | .add, .array a, v => .ok (.array (a ++ [v]))
  | op, old, v => applyOperator op old v

/-- The value of a sign in front of an operand. -/
def applySign (sign : Sign) (v : Value) : Except EvalError Value :=
  match sign, v with
  | .minus, .int n => checkedInt (-n) .negationOverflow
  | .minus, .float x => .ok (.float (-x))
  | .plus, .int n => .ok (.int n)
  | .plus, .float x => .ok (.float x)
  | .not, .bool b => .ok (.bool (!b))
  | .minus, v => .error (.functionNotFound "-" [v.signatureName])
  | .plus, v => .error (.functionNotFound "+" [v.signatureName])
  | .not, v => .error (.functionNotFound "!" [v.signatureName])

/-- Whether a text holds another one. -/
def holdsText (s part : List Char) : Bool :=
  part.isPrefixOf s || match s with
    | [] => false
    | _ :: rest => holdsText rest part

/-- Whether an item is in a collection. -/
def isMember (item collection : Value) : Except EvalError Value :=
  match collection, item with
  | .array items, v => .ok (.bool (items.any v.same))
  | .map entries, .str k => .ok (.bool (entries.any fun e => e.1 = k))
  | .str s, .str part => .ok (.bool (holdsText s.toList part.toList))
  | .str s, .char c => .ok (.bool (s.toList.contains c))
  | .range a b inclusive, .int n => .ok (.bool (a ≤ n && (n < b || (inclusive && n = b))))
  | c, v => .error (.functionNotFound "contains" [c.signatureName, v.signatureName])

end DeskPlan.Script
