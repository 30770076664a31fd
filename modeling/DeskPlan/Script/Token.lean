/-!
# `DeskPlan.Script.Token`: the words of a formula

A script is a sequence of lexemes, each a token with the position of its first character. The
reasons why a text is no script are collected in `CompileError`.
-/

set_option autoImplicit false

namespace DeskPlan.Script

/-- A place in a script; lines and columns count from one. -/
structure Position where
  line : Nat
  column : Nat
deriving DecidableEq, Repr

namespace Position

/-- The place of the first character. -/
def start : Position := ⟨1, 1⟩

/-- The place after a character. -/
def after (p : Position) (c : Char) : Position :=
  if c = '\n' then ⟨p.line + 1, 1⟩ else ⟨p.line, p.column + 1⟩

/-- The place in a message. -/
def describe (p : Position) : String := s!"{p.line}:{p.column}"

end Position

/-- Why a text is no script. -/
inductive CompileError where
  | unexpected (what : String)
  | missing (what : String)
  | unknownCharacter (c : Char)
  | openText
  | badEscape
  | badNumber (text : String)
  | badCharacter
  | reserved (word : String)
  | badName (name : String)
  | tooDeep
  | constantAssigned (name : String)
  | notAssignable
  | outsideLoop (word : String)
  | conditionNotBoolean
  | notIterable
  | functionNotGlobal
  | duplicateFunction (name : String)
  | duplicateParameter (name : String)
  | duplicateKey (name : String)
  | misplacedDefault
deriving DecidableEq, Repr

namespace CompileError

/-- The wording of the error. -/
def message : CompileError → String
  | unexpected what => s!"unexpected {what}"
  | missing what => s!"expecting {what}"
  | unknownCharacter c => s!"unexpected character '{c}'"
  | openText => "text is not closed"
  | badEscape => "invalid escape sequence"
  | badNumber text => s!"invalid number '{text}'"
  | badCharacter => "invalid character"
  | reserved word => s!"'{word}' is a reserved word"
  | badName name => s!"invalid name '{name}'"
  | tooDeep => "expression exceeds the greatest depth"
  | constantAssigned name => s!"cannot assign to constant '{name}'"
  | notAssignable => "cannot assign to this expression"
  | outsideLoop word => s!"'{word}' outside of a loop"
  | conditionNotBoolean => "expecting a boolean expression"
  | notIterable => "expecting an iterable expression"
  | functionNotGlobal => "functions must be defined at global level"
  | duplicateFunction name => s!"function '{name}' already exists"
  | duplicateParameter name => s!"duplicated parameter '{name}'"
  | duplicateKey name => s!"duplicated property '{name}'"
  | misplacedDefault => "the default case must be the last one"

end CompileError

/-- A word of a script. -/
inductive Token where
  | int (value : Int)
  | float (value : Float)
  | char (value : Char)
  | text (value : String)
  /-- A piece of a template, which may be the first one; an embedded script follows it unless it
  is the last one. -/
  | piece (value : String) (first last : Bool)
  | name (value : String)
  | keyword (value : String)
  /-- An operator or a bracket. -/
  | mark (value : String)

namespace Token

/-- The token in a message. -/
def describe : Token → String
  | int n => s!"number {n}"
  | float _ => "number"
  | char c => s!"character '{c}'"
  | text _ => "text"
  | piece _ _ _ => "template"
  | name n => s!"name '{n}'"
  | keyword w => s!"'{w}'"
  | mark m => s!"'{m}'"

/-- Whether the token ends an operand, so that a minus after it subtracts. -/
def endsOperand : Token → Bool
  | int _ | float _ | char _ | text _ | name _ => true
  | piece _ _ last => last
  | keyword w => w = "true" || w = "false"
  | mark m => m = ")" || m = "]" || m = "\x7d"

end Token

/-- A token and the place where it starts. -/
structure Lexeme where
  token : Token
  position : Position

/-- The words with a meaning of their own. -/
def keywords : List String :=
  ["true", "false", "let", "const", "if", "else", "switch", "do", "while", "until", "loop", "for",
    "in", "fn", "return", "break", "continue", "throw", "try", "catch", "_"]

/-- The words that no script may use. -/
def reservedWords : List String :=
  ["private", "import", "export", "as", "var", "static", "shared", "goto", "exit", "unless",
    "match", "case", "default", "with", "is", "public", "protected", "super", "new", "use",
    "module", "package", "thread", "spawn", "go", "sync", "async", "await", "yield", "void", "null",
    "nil"]

/-- The operators and brackets, longer ones before their beginnings. -/
def marks : List String :=
  ["**=", "<<=", ">>=", "..=", "+=", "-=", "*=", "/=", "%=", "&=", "|=", "^=", "==", "!=", "<=",
    ">=", "=>", "&&", "||", "??", "**", "<<", ">>", "..", "#\x7b", "+", "-", "*", "/", "%", "&",
    "|", "^", "!", "<", ">", "=", ".", ",", ";", ":", "(", ")", "[", "]", "\x7b", "\x7d"]

/-- Sequences of operator characters without a meaning, which no script may use. -/
def reservedMarks : List String :=
  ["===", "!==", "...", "->", "<-", "<|", "|>", ":=", "::", "++", "--", "(*", "*)", "?.", "?["]

end DeskPlan.Script
