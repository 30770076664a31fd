import DeskPlan.Script.Token

/-!
# `DeskPlan.Script.Syntax`: scripts as trees

A `Program` is a sequence of expressions and a list of functions. Statements are expressions
too: a declaration or a loop has a value like every other form. `Expr.isPure` marks the forms
whose evaluation can be left out when nobody asks for their value.
-/

set_option autoImplicit false

namespace DeskPlan.Script

/-- A value that is written down. -/
inductive Literal where
  | unit
  | bool (value : Bool)
  | int (value : Int)
  | float (value : Float)
  | char (value : Char)
  | text (value : String)

/-- An operator between two operands that are always both evaluated. -/
inductive Operator where
  | add
  | sub
  | mul
  | div
  | rem
  | pow
  | shl
  | shr
  | bitAnd
  | bitOr
  | bitXor
  | eq
  | ne
  | lt
  | le
  | gt
  | ge
deriving DecidableEq, Repr

namespace Operator

/-- The operator as it is written. -/
def symbol : Operator → String
  | add => "+"
  | sub => "-"
  | mul => "*"
  | div => "/"
  | rem => "%"
  | pow => "**"
  | shl => "<<"
  | shr => ">>"
  | bitAnd => "&"
  | bitOr => "|"
  | bitXor => "^"
  | eq => "=="
  | ne => "!="
  | lt => "<"
  | le => "<="
  | gt => ">"
  | ge => ">="

end Operator

/-- An operator in front of one operand. -/
inductive Sign where
  | minus
  | plus
  | not
deriving DecidableEq, Repr

/-- What a case of a switch is for: a literal or the integers of a range. -/
inductive Label where
  | literal (value : Literal)
  | range (first last : Int) (inclusive : Bool)

mutual

/-- An expression or a statement. -/
inductive Expr where
  | lit (value : Literal)
  | template (parts : List Expr)
  | array (items : List Expr)
  | map (keys : List String) (values : List Expr)
  | var (name : String)
  | unary (sign : Sign) (operand : Expr)
  | binary (op : Operator) (left right : Expr)
  | both (left right : Expr)
  | either (left right : Expr)
  | orElse (left right : Expr)
  | member (negated : Bool) (item collection : Expr)
  | range (inclusive : Bool) (first last : Expr)
  | call (position : Position) (name : String) (args : List Expr)
  | chain (root : Expr) (links : List Link)
  | closure (params : List String) (body : Expr) (captured : List String)
  | declare (constant : Bool) (name : String) (value : Expr)
  | assign (op : Option Operator) (name : String) (links : List Link) (value : Expr)
  | block (body : List Expr)
  | cond (test thenPart elsePart : Expr)
  | select (scrutinee : Expr) (cases : List Case)
  | whileLoop (test : Expr) (body : List Expr)
  | doLoop (body : List Expr) (stopWhen : Bool) (test : Expr)
  | forLoop (item : String) (counter : Option String) (source : Expr) (body : List Expr)
  | breakLoop (value : Expr)
  | continueLoop
  | giveBack (value : Expr)
  | raise (value : Expr)
  | attempt (body : Expr) (caught : Option String) (handler : Expr)

/-- A step from a value into one of its parts, or a call with the value as receiver. -/
inductive Link where
  | index (key : Expr)
  | field (name : String)
  | method (position : Position) (name : String) (args : List Expr)

/-- A case of a switch. The default case has no label. -/
inductive Case where
  | mk (labels : List Label) (isDefault : Bool) (guard body : Expr)

end

/-- The literal without information. -/
def Expr.unit : Expr := .lit .unit

mutual

/-- Whether leaving the evaluation out changes nothing but the value. -/
def Expr.isPure : Expr → Bool
  | .lit _ | .var _ => true
  | .template parts => purely parts
  | .array items => purely items
  | .map _ values => purely values
  | .both l r | .either l r | .orElse l r => l.isPure && r.isPure
  | .block body => purely body
  | .cond test t e => test.isPure && t.isPure && e.isPure
  | .select scrutinee cases => scrutinee.isPure && purelyCases cases
  | .forLoop _ _ source body => source.isPure && purely body
  | .attempt body _ handler => body.isPure && handler.isPure
  | _ => false

/-- Whether all expressions are pure. -/
def purely : List Expr → Bool
  | [] => true
  | e :: rest => e.isPure && purely rest

/-- Whether all cases are pure. -/
def purelyCases : List Case → Bool
  | [] => true
  | .mk _ _ guard body :: rest => guard.isPure && body.isPure && purelyCases rest

end

/-- The name of what a method is called on. It belongs to the call, so closures do not capture
it. -/
def receiverName : String := "this"

/-- A named function. -/
structure FunctionDef where
  name : String
  params : List String
  body : Expr

/-- A script: what is evaluated, and the functions it defines. -/
structure Program where
  body : List Expr
  functions : List FunctionDef

/-- Whether two functions answer the same calls. -/
def FunctionDef.sameSignature (f g : FunctionDef) : Bool :=
  f.name = g.name && f.params.length = g.params.length

/-- The functions of two lists together; a later function replaces an earlier one that answers
the same calls. -/
def mergeFunctions (older newer : List FunctionDef) : List FunctionDef :=
  older.filter (fun f => !newer.any f.sameSignature) ++ newer

/-- The function that answers a call. -/
def findFunction? (functions : List FunctionDef) (name : String) (arity : Nat) :
    Option FunctionDef :=
  functions.find? fun f => f.name = name && f.params.length = arity

end DeskPlan.Script
