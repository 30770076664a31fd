import DeskPlan.Script.Token
import DeskPlan.Window.Basic

/-!
# `DeskPlan.Script.Engine`: the language of scripts, as the host uses it

Scripts are written in a language that comes from elsewhere. An `Engine` is what the host uses of
it: its values, its programs and its scopes, with the operations on them. How programs are read and
run is the engine's own business; `DeskPlan.Script.Interpreter` has the engine of this program.

`Engine.Lawful` lists what the language promises. A scope is known by its variables
(`Engine.vars`) and a program by the functions it defines (`Engine.function?`). The host adds
constants at the end of a scope and cuts its end off. A program that is run may do as it likes,
whether it comes to an end or fails, but

* it adds variables at the end: those that were there keep their places, their names, and whether
  they are constants (`run_declares`);
* it cannot write to constants (`run_spares_constants`).
-/

set_option autoImplicit false

namespace DeskPlan.Script

/-- What a script says to its host. -/
inductive Output where
  | printed (text : String)
  | debugged (text : String) (position : Position)
deriving DecidableEq, Repr

/-- A variable of a scope with its present value. -/
structure Variable (α : Type) where
  name : String
  constant : Bool
  value : α
deriving DecidableEq, Repr

/-- What a variable is declared as. -/
def Variable.declaration {α : Type} (v : Variable α) : String × Bool := (v.name, v.constant)

/-- How a program that was run has ended: its value or a message, the scope it has left, and what
it has said. -/
structure Finished (Value Scope : Type) where
  result : Except String Value
  scope : Scope
  said : List Output

/-- A language for scripts. -/
structure Engine where
  Value : Type
  Program : Type
  Scope : Type
  /-- A named function of a program. -/
  Function : Type
  /-- An integer as a value. -/
  integer : Int → Value
  /-- The windows as a value, unless they cannot be one. -/
  windows : List Window → Except String Value
  /-- The integer that a value is. -/
  integer? : Value → Option Int
  /-- The float that a value is. -/
  float? : Value → Option Float
  typeName : Value → String
  text : Value → String
  /-- The scope without variables. -/
  emptyScope : Scope
  /-- The variables of a scope, oldest first. -/
  vars : Scope → List (Variable Value)
  /-- The number of variables. -/
  length : Scope → Nat
  pushConstant : Scope → String → Value → Scope
  /-- The scope with that many of its oldest variables. -/
  rewind : Scope → Nat → Scope
  /-- Reads a script; the message says why it is none. -/
  compile : String → Except String Program
  /-- The program that does nothing. -/
  emptyProgram : Program
  /-- One program after the other, with the functions of both. -/
  merge : Program → Program → Program
  /-- The functions of a program without its statements. -/
  functionsOnly : Program → Program
  /-- The function that answers calls by the name with that many arguments. -/
  function? : Program → String → Nat → Option Function
  run : Program → Scope → Finished Value Scope

namespace Engine

/-- What the declarations of a scope are, oldest first. -/
def declarations (E : Engine) (s : E.Scope) : List (String × Bool) :=
  (E.vars s).map Variable.declaration

/-- What the language promises. -/
structure Lawful (E : Engine) : Prop where
  vars_emptyScope : E.vars E.emptyScope = []
  length_eq : ∀ s, E.length s = (E.vars s).length
  vars_pushConstant : ∀ s name v,
    E.vars (E.pushConstant s name v) = E.vars s ++ [⟨name, true, v⟩]
  vars_rewind : ∀ s count, E.vars (E.rewind s count) = (E.vars s).take count
  /-- A run declares variables behind those that are there. -/
  run_declares : ∀ p s, E.declarations s <+: E.declarations (E.run p s).scope
  /-- A run does not write to constants. -/
  run_spares_constants : ∀ p s (i : Nat) (v : Variable E.Value), (E.vars s)[i]? = some v →
    v.constant = true → (E.vars (E.run p s).scope)[i]? = some v
  function?_emptyProgram : ∀ name arity, E.function? E.emptyProgram name arity = none
  /-- A later function replaces an earlier one of the same name and as many parameters. -/
  function?_merge : ∀ p q name arity, E.function? (E.merge p q) name arity =
    (E.function? q name arity).or (E.function? p name arity)
  function?_functionsOnly : ∀ p name arity,
    E.function? (E.functionsOnly p) name arity = E.function? p name arity

end Engine

end DeskPlan.Script
