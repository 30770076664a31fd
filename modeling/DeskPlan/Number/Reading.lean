import DeskPlan.Number.Ranged

/-!
# `DeskPlan.Number.Reading`: integers out of texts

`readInteger` reads an integer of a range out of a text that holds nothing else, and says what is
wrong with a text that is none. `readWord64` reads an unsigned 64-bit integer.
-/

set_option autoImplicit false

namespace DeskPlan

/-- What is wrong with the text of an integer. -/
inductive IntegerFault where
  | empty
  | badDigit
  | tooLarge
  | tooSmall
deriving DecidableEq, Repr

/-- The wording of the fault. -/
def IntegerFault.message : IntegerFault → String
  | empty => "cannot parse integer from empty string"
  | badDigit => "invalid digit found in string"
  | tooLarge => "number too large to fit in target type"
  | tooSmall => "number too small to fit in target type"

/-- The number written by decimal digits after the digits of `n`, as long as it does not exceed
`most`. -/
def readDigits (most : Nat) (excess : IntegerFault) : Nat → List Char → Except IntegerFault Nat
  | n, [] => .ok n
  | n, c :: rest =>
    if !c.isDigit then .error .badDigit
    else
      let next := n * 10 + (c.toNat - 48)
      if most < next then .error excess else readDigits most excess next rest

/-- The integer between `-low` and `high` that a text writes; a range without negative integers
knows no minus sign. -/
def readInteger (low high : Nat) (s : String) : Except IntegerFault Int :=
  let positive (digits : List Char) : Except IntegerFault Int :=
    (readDigits high .tooLarge 0 digits).map fun n => (n : Int)
  match s.toList with
  | [] => .error .empty
  | ['+'] | ['-'] => .error .badDigit
  | '+' :: rest => positive rest
  | '-' :: rest =>
    if low = 0 then .error .badDigit
    else (readDigits low .tooSmall 0 rest).map fun n => -(n : Int)
  | digits => positive digits

/-- The unsigned 64-bit integer that a text writes. -/
def readWord64 (s : String) : Except IntegerFault Word64 :=
  match readInteger 0 18446744073709551615 s with
  | .error e => .error e
  | .ok n =>
    match Ranged.ofInt? n with
    | some w => .ok w
    | none => .error .tooLarge

end DeskPlan
