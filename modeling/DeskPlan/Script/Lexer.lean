import DeskPlan.Json.Token
import DeskPlan.Script.Token
import DeskPlan.Text.Blank

/-!
# `DeskPlan.Script.Lexer`: from text to lexemes

`lexemes` splits a script into lexemes. Blanks and comments separate them. A minus in front of a
digit belongs to the number unless an operand ends before it, so `-2 ** 2` is a power of `-2`.
A template between backticks becomes pieces of text with the lexemes of the embedded scripts
between them.
-/

set_option autoImplicit false

namespace DeskPlan.Script

open Json (natOfDigits)

/-! ### Numbers -/

/-- The greatest integer of a script. -/
def greatestInt : Int := 9223372036854775807

/-- The least integer of a script. -/
def leastInt : Int := -9223372036854775808

/-- Whether an integer is one of a script. -/
def fitsInt (n : Int) : Bool := leastInt ≤ n && n ≤ greatestInt

/-- The digits at the head of a text without the underscores between them, and the rest. -/
def digitRun (accepts : Char → Bool) (s : List Char) : List Char × List Char :=
  ((s.takeWhile fun c => accepts c || c = '_').filter (· ≠ '_'),
    s.dropWhile fun c => accepts c || c = '_')

/-- The value of a hexadecimal digit. -/
def hexValue? (c : Char) : Option Nat :=
  if c.isDigit then some (c.toNat - 48)
  else if 'a' ≤ c ∧ c ≤ 'f' then some (c.toNat - 87)
  else if 'A' ≤ c ∧ c ≤ 'F' then some (c.toNat - 55)
  else none

/-- Whether a character is a digit in the base. -/
def isDigitIn (base : Nat) (c : Char) : Bool :=
  match hexValue? c with
  | some n => n < base
  | none => false

/-- The number written by digits of the base. -/
def numberIn (base : Nat) (ds : List Char) : Nat :=
  ds.foldl (fun n c => n * base + (hexValue? c).getD 0) 0

/-- An integer reduced modulo `2 ^ 64` into the integers of a script. -/
def wrapInt (n : Int) : Int := n.bmod 18446744073709551616

/-- The base announced by the character after a leading zero. -/
def baseMark? (c : Char) : Option Nat :=
  if c = 'x' || c = 'X' then some 16
  else if c = 'o' || c = 'O' then some 8
  else if c = 'b' || c = 'B' then some 2
  else none

/-- Whether a character starts a name or may precede its first letter. -/
def startsName (c : Char) : Bool := c.isAlpha || c = '_'

/-- The fraction of a number, after its whole part. A point counts only in front of a digit, of
a character that cannot continue a property access or a range, or of the end. -/
def fraction (s : List Char) : Option (List Char) × List Char :=
  match s with
  | ['.'] => (some [], [])
  | '.' :: c :: r =>
    if c.isDigit then
      let (ds, rest) := digitRun Char.isDigit (c :: r)
      (some ds, rest)
    else if c = '.' || startsName c then (none, s)
    else (some [], c :: r)
  | _ => (none, s)

/-- The exponent of a number: whether it is negative, its digits, and the rest. -/
def exponent (s : List Char) : Option (Bool × List Char) × List Char :=
  match s with
  | 'e' :: '+' :: r => let (ds, rest) := digitRun Char.isDigit r; (some (false, ds), rest)
  | 'e' :: '-' :: r => let (ds, rest) := digitRun Char.isDigit r; (some (true, ds), rest)
  | 'e' :: c :: r =>
    if c.isDigit then
      let (ds, rest) := digitRun Char.isDigit (c :: r)
      (some (false, ds), rest)
    else (none, s)
  | _ => (none, s)

/-- The float `digits · 10 ^ e`; exponents that no digit can outweigh are cut off. -/
def floatOf (negative : Bool) (digits : List Char) (e : Int) : Float :=
  let m := natOfDigits digits
  let bound : Int := 400 + digits.length
  let e := if e < -bound - 400 then -bound - 400 else if bound < e then bound else e
  let x := if 0 ≤ e then Float.ofScientific (m * Nat.pow 10 e.toNat) false 0
    else Float.ofScientific m true e.natAbs
  if negative then -x else x

/-- The number at the head of a text that starts with a digit. An integer that is too large is
a float. -/
def number (negative : Bool) (s : List Char) : Except CompileError (Token × List Char) :=
  let based := match s with
    | '0' :: c :: r => (baseMark? c).map fun base => (base, r)
    | _ => none
  match based with
  | some (base, r) =>
    let (ds, rest) := digitRun (isDigitIn base) r
    let n := numberIn base ds
    if ds.isEmpty || 18446744073709551615 < n then .error (.badNumber (String.ofList ds))
    else .ok (.int (if negative then wrapInt (-wrapInt n) else wrapInt n), rest)
  | none =>
    let (whole, rest) := digitRun Char.isDigit s
    let (frac, rest) := fraction rest
    let (exp, rest) := exponent rest
    match frac, exp with
    | none, none =>
      let n : Int := if negative then -(natOfDigits whole : Int) else natOfDigits whole
      .ok (if fitsInt n then .int n else .float (floatOf negative whole 0), rest)
    | _, some (_, []) => .error (.badNumber (String.ofList whole))
    | _, _ =>
      let frac := frac.getD []
      let e : Int := match exp with
        | some (down, ds) => if down then -(natOfDigits ds : Int) else natOfDigits ds
        | none => 0
      .ok (.float (floatOf negative (whole ++ frac) (e - frac.length)), rest)

/-! ### Texts -/

/-- The character with the code written by exactly `count` hexadecimal digits. -/
def hexEscape (count : Nat) (s : List Char) : Except CompileError (Char × List Char) :=
  let ds := s.take count
  let n := numberIn 16 ds
  if ds.length = count ∧ ds.all (isDigitIn 16) ∧ n.isValidChar then
    .ok (Char.ofNat n, s.drop count)
  else .error .badEscape

/-- The character of the escape sequence after a backslash. -/
def escape (close : Char) (s : List Char) : Except CompileError (Char × List Char) :=
  match s with
  | 't' :: r => .ok ('\t', r)
  | 'n' :: r => .ok ('\n', r)
  | 'r' :: r => .ok ('\r', r)
  | '\\' :: r => .ok ('\\', r)
  | 'x' :: r => hexEscape 2 r
  | 'u' :: r => hexEscape 4 r
  | 'U' :: r => hexEscape 8 r
  | c :: r => if c = close then .ok (c, r) else .error .badEscape
  | [] => .error .openText

/-- The characters up to the closing quote, with those read so far in reverse. The fuel bounds
the number of characters. -/
def quotedRun (close : Char) : Nat → List Char → List Char →
    Except CompileError (List Char × List Char)
  | 0, _, _ => .error .openText
  | fuel + 1, read, s =>
    match s with
    | [] => .error .openText
    | '\n' :: _ => .error .openText
    | '\\' :: '\n' :: r => quotedRun close fuel read (r.dropWhile fun c => c = ' ' || c = '\t')
    | '\\' :: r => do
      let (c, r) ← escape close r
      quotedRun close fuel (c :: read) r
    | c :: r =>
      if c = close then
        match r with
        | d :: r' =>
          if d = close && close = '"' then quotedRun close fuel (c :: read) r'
          else .ok (read.reverse, r)
        | [] => .ok (read.reverse, r)
      else quotedRun close fuel (c :: read) r

/-- A piece of a template, and whether it is the last one. A backtick is doubled inside. -/
def templateRun : List Char → List Char → Except CompileError (String × Bool × List Char)
  | _, [] => .error .openText
  | read, '\x60' :: '\x60' :: r => templateRun ('\x60' :: read) r
  | read, '\x60' :: r => .ok (String.ofList read.reverse, true, r)
  | read, '$' :: '\x7b' :: r => .ok (String.ofList read.reverse, false, r)
  | read, c :: r => templateRun (c :: read) r

/-! ### Blanks, names and marks -/

/-- The text after a comment between `/*` and `*/`; comments nest. -/
def skipComment : Nat → List Char → List Char
  | _, [] => []
  | depth, '/' :: '*' :: r => skipComment (depth + 1) r
  | 0, '*' :: '/' :: r => r
  | depth + 1, '*' :: '/' :: r => skipComment depth r
  | depth, _ :: r => skipComment depth r

/-- Whether a character continues a name. -/
def continuesName (c : Char) : Bool := c.isAlphanum || c = '_'

/-- The token of a word. A name has a letter in front of its first digit. -/
def wordToken (word : List Char) : Except CompileError Token :=
  let s := String.ofList word
  if keywords.contains s then .ok (.keyword s)
  else if reservedWords.contains s then .error (.reserved s)
  else match word.dropWhile (· = '_') with
    | c :: _ => if c.isAlpha then .ok (.name s) else .error (.badName s)
    | [] => .error (.badName s)

/-- The first text of a list that the input starts with. -/
def startingWith? (texts : List String) (s : List Char) : Option String :=
  texts.find? fun t => t.toList.isPrefixOf s

/-! ### Lexemes -/

/-- What the reader remembers between lexemes: the last token, and for each template that is
open the number of its braces that are. -/
structure LexerState where
  last : Option Token := none
  templates : List Nat := []

/-- The token at the head of a text, the templates open after it, and the rest; `none` for a
blank or a comment. -/
def nextToken (state : LexerState) (s : List Char) :
    Except CompileError (Option (Token × List Nat) × List Char) := do
  let here (t : Token) (rest : List Char) :
      Except CompileError (Option (Token × List Nat) × List Char) :=
    .ok (some (t, state.templates), rest)
  let unaryPlace := match state.last with
    | some t => !t.endsOperand
    | none => true
  match s with
  | [] => .ok (none, [])
  | '/' :: '/' :: r => .ok (none, r.dropWhile (· ≠ '\n'))
  | '/' :: '*' :: r => .ok (none, skipComment 0 r)
  | '"' :: r =>
    let (cs, rest) ← quotedRun '"' (r.length + 1) [] r
    here (.text (String.ofList cs)) rest
  | '\'' :: r =>
    let (cs, rest) ← quotedRun '\'' (r.length + 1) [] r
    match cs with
    | [c] => here (.char c) rest
    | _ => .error .badCharacter
  | '\x60' :: r =>
    let (text, last, rest) ← templateRun [] r
    .ok (some (.piece text true last, if last then state.templates else 0 :: state.templates),
      rest)
  | '\x7b' :: r =>
    let templates := match state.templates with
      | n :: outer => (n + 1) :: outer
      | [] => []
    .ok (some (.mark "\x7b", templates), r)
  | '#' :: '\x7b' :: r =>
    let templates := match state.templates with
      | n :: outer => (n + 1) :: outer
      | [] => []
    .ok (some (.mark "#\x7b", templates), r)
  | '\x7d' :: r =>
    match state.templates with
    -- This brace closes the embedded script, so the text of the template goes on.
    | 0 :: outer =>
      let (text, last, rest) ← templateRun [] r
      .ok (some (.piece text false last, if last then outer else 0 :: outer), rest)
    | (n + 1) :: outer => .ok (some (.mark "\x7d", n :: outer), r)
    | [] => here (.mark "\x7d") r
  | '-' :: c :: r =>
    -- A minus that cannot subtract belongs to the number after it.
    if unaryPlace && c.isDigit then
      let (t, rest) ← number true (c :: r)
      here t rest
    else
      match startingWith? reservedMarks s, startingWith? marks s with
      | some m, _ => .error (.reserved m)
      | none, some m => here (.mark m) (s.drop m.length)
      | none, none => .error (.unknownCharacter '-')
  | c :: _ =>
    if Text.isBlank c then .ok (none, s.dropWhile Text.isBlank)
    else if c.isDigit then
      let (t, rest) ← number false s
      here t rest
    else if startsName c then
      here (← wordToken (s.takeWhile continuesName)) (s.dropWhile continuesName)
    else match startingWith? reservedMarks s, startingWith? marks s with
      | some m, _ => .error (.reserved m)
      | none, some m => here (.mark m) (s.drop m.length)
      | none, none => .error (.unknownCharacter c)

/-- The lexemes of a text after those read so far, which are in reverse. The fuel bounds their
number. -/
def lexemesFrom : Nat → LexerState → Position → List Lexeme → List Char →
    Except CompileError (List Lexeme)
  | 0, _, _, read, _ => .ok read.reverse
  | fuel + 1, state, position, read, s =>
    if s.isEmpty then
      if state.templates.isEmpty then .ok read.reverse else .error .openText
    else do
      let (found, rest) ← nextToken state s
      -- The next token starts where the characters read so far end.
      let after := (s.take (s.length - rest.length)).foldl Position.after position
      match found with
      | none => lexemesFrom fuel state after read rest
      | some (t, templates) =>
        lexemesFrom fuel ⟨some t, templates⟩ after (⟨t, position⟩ :: read) rest

/-- The lexemes of a script. -/
def lexemes (source : String) : Except CompileError (List Lexeme) :=
  let s := source.toList
  lexemesFrom (s.length + 1) {} .start [] s

end DeskPlan.Script
