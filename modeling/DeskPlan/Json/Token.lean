import DeskPlan.Json.Fault

/-!
# `DeskPlan.Json.Token`: the words of a JSON text

`tokens` splits a text into punctuation, literals, numbers and texts. Where no word starts, the
list ends with a `stray` or a `badText`, which carries the defect that a reader meets there.
Defects differ between a reader that wants the value and one that passes over it: a text with
half a surrogate pair, and a number that the end of the text cuts off, are examples.

Numbers are classified while they are read: an integer is written without point and exponent,
is not `-0`, and fits 64 bits; every other number is a real.
-/

set_option autoImplicit false

namespace DeskPlan.Json

/-- A number of a text. -/
inductive Numeral where
  | integer (value : Int)
  | real (value : Float)
  | tooLarge

/-- A word of a JSON text. -/
inductive Token where
  | openObject
  | closeObject
  | openList
  | closeList
  | colon
  | comma
  | null
  | bool (value : Bool)
  | number (value : Numeral)
  /-- A text, or the defect met when its characters are asked for. -/
  | text (content : Except Fault String)
  /-- A text with a defect that also stops a reader passing over it. -/
  | badText (read skipped : Fault)
  /-- No word starts here. -/
  | stray (read skipped : Fault)

/-! ### Numbers -/

/-- The value of a decimal digit. -/
def digitValue (c : Char) : Nat := c.toNat - 48

/-- The digits at the head of a text, and what follows them. -/
def spanDigits (s : List Char) : List Char × List Char :=
  (s.takeWhile Char.isDigit, s.dropWhile Char.isDigit)

/-- The natural number written by a list of digits. -/
def natOfDigits (ds : List Char) : Nat := ds.foldl (fun n c => n * 10 + digitValue c) 0

/-- The greatest significand, an unsigned 64-bit integer. -/
def maxSignificand : Nat := 18446744073709551615

/-- Appends digits to a significand while it fits; the digits that do not fit are returned. -/
def takeSignificand : Nat → List Char → Nat × List Char
  | n, [] => (n, [])
  | n, d :: ds =>
    if n * 10 + digitValue d ≤ maxSignificand then takeSignificand (n * 10 + digitValue d) ds
    else (n, d :: ds)

/-- `x · 10 ^ e`, computed with one rounding per factor; `none` when it is too large. -/
def scaleTen (x : Float) (e : Int) : Option Float :=
  if e.natAbs ≤ 308 then
    if 0 ≤ e then
      let y := x * Float.ofScientific 1 false e.natAbs
      if y.isInf then none else some y
    else some (x / Float.ofScientific 1 false e.natAbs)
  else if x == 0.0 then some x
  else if 0 ≤ e then none
  else scaleTen (x / 1e308) (e + 308)
termination_by e.natAbs
decreasing_by omega

/-- The greatest exponent that is read digit by digit. -/
def maxExponent : Nat := 2147483647

/-- The real with the given digits before and after the point and the given exponent. -/
def realOf (negative : Bool) (whole fraction : List Char) (exponent : Option (Bool × List Char)) :
    Numeral :=
  let sign (x : Float) : Float := if negative then -x else x
  let (n, unread) := takeSignificand 0 whole
  let (m, rest) := takeSignificand n fraction
  let base : Int := unread.length - (fraction.length - rest.length : Nat)
  match exponent with
  | none => match scaleTen (Float.ofNat m) base with
    | some x => .real (sign x)
    | none => .tooLarge
  | some (down, digits) =>
    -- An exponent this large decides alone whether the number is zero or too large.
    if maxExponent < natOfDigits digits then
      if m ≠ 0 && !down then .tooLarge else .real (sign 0.0)
    else
      match scaleTen (Float.ofNat m) (if down then base - natOfDigits digits
        else base + natOfDigits digits) with
      | some x => .real (sign x)
      | none => .tooLarge

/-- The number without point and exponent that has the given digits. -/
def integerOf (negative : Bool) (digits : List Char) : Numeral :=
  let n := natOfDigits digits
  if negative then
    -- No integer keeps the sign of a negative zero.
    if 0 < n && n ≤ 9223372036854775808 then .integer (-(n : Int)) else realOf true digits [] none
  else if n ≤ maxSignificand then .integer n
  else realOf false digits [] none

/-- The defect of a number that breaks off before `rest`. -/
def cutOff (rest : List Char) : Token × List Char :=
  (.stray (if rest.isEmpty then .endInValue else .badNumber) .badNumber, [])

/-- The exponent of a number, after its mark. -/
def readExponent (negative : Bool) (whole fraction : List Char) (s : List Char) :
    Token × List Char :=
  let (down, s) := match s with
    | '+' :: r => (false, r)
    | '-' :: r => (true, r)
    | _ => (false, s)
  match spanDigits s with
  | ([], rest) => cutOff rest
  | (digits, rest) => (.number (realOf negative whole fraction (some (down, digits))), rest)

/-- What follows the digits before the point. -/
def readFraction (negative : Bool) (whole : List Char) : List Char → Token × List Char
  | '.' :: s =>
    match spanDigits s with
    | ([], rest) => cutOff rest
    | (digits, 'e' :: rest) => readExponent negative whole digits rest
    | (digits, 'E' :: rest) => readExponent negative whole digits rest
    | (digits, rest) => (.number (realOf negative whole digits none), rest)
  | 'e' :: s => readExponent negative whole [] s
  | 'E' :: s => readExponent negative whole [] s
  | s => (.number (integerOf negative whole), s)

/-- A number, after its sign. A zero is followed by no further digit. -/
def readNumber (negative : Bool) (s : List Char) : Token × List Char :=
  match s with
  | '0' :: r =>
    match r with
    | c :: _ =>
      if c.isDigit then (.stray .badNumber .badNumber, []) else readFraction negative ['0'] r
    | [] => readFraction negative ['0'] []
  | _ =>
    match spanDigits s with
    | ([], rest) => cutOff rest
    | (digits, rest) => readFraction negative digits rest

/-! ### Texts -/

/-- The value of a hexadecimal digit. -/
def hexValue? (c : Char) : Option Nat :=
  if c.isDigit then some (c.toNat - 48)
  else if 'a' ≤ c && c ≤ 'f' then some (c.toNat - 87)
  else if 'A' ≤ c && c ≤ 'F' then some (c.toNat - 55)
  else none

/-- The number of bytes that characters take in UTF-8, counted up to `limit`. -/
def byteCount (limit : Nat) (s : List Char) : Nat :=
  (s.take limit).foldl (fun n c => n + c.utf8Size) 0

/-- Four hexadecimal digits. Fewer than four bytes of text are an early end. -/
def readHex (s : List Char) : Except Fault (Nat × List Char) :=
  match s with
  | a :: b :: c :: d :: rest =>
    match hexValue? a, hexValue? b, hexValue? c, hexValue? d with
    | some a, some b, some c, some d => .ok (((a * 16 + b) * 16 + c) * 16 + d, rest)
    | _, _, _, _ => .error .badEscape
  | _ => .error (if byteCount 4 s < 4 then .endInString else .badEscape)

/-- The character of a one-letter escape. -/
def plainEscape? (c : Char) : Option Char :=
  if c = '"' || c = '\\' || c = '/' then some c
  else if c = 'b' then some '\x08'
  else if c = 'f' then some '\x0c'
  else if c = 'n' then some '\n'
  else if c = 'r' then some '\r'
  else if c = 't' then some '\t'
  else none

/-- The character written by the escape `\u` whose first four digits have the value `n`; a
first surrogate half must be followed by the escape of a second one. -/
def readUnicode (n : Nat) (s : List Char) : Except Fault (Char × List Char) :=
  if 0xDC00 ≤ n && n ≤ 0xDFFF then .error .loneSecondHalf
  else if n < 0xD800 || 0xDBFF < n then .ok (Char.ofNat n, s)
  else match s with
    | [] => .error .endInString
    | '\\' :: [] => .error .endInString
    | '\\' :: 'u' :: s =>
      match readHex s with
      | .error f => .error f
      | .ok (low, s) =>
        if low < 0xDC00 || 0xDFFF < low then .error .loneSecondHalf
        else .ok (Char.ofNat ((n - 0xD800) * 0x400 + (low - 0xDC00) + 0x10000), s)
    | _ => .error .missingSecondHalf

/-- The characters of a text up to its closing quote. The fuel bounds the length. -/
def readText : Nat → List Char → List Char → Except Fault (List Char × List Char)
  | 0, _, _ => .error .endInString
  | _ + 1, _, [] => .error .endInString
  | fuel + 1, acc, c :: s =>
    if c = '"' then .ok (acc.reverse, s)
    else if c = '\\' then
      match s with
      | [] => .error .endInString
      | e :: s =>
        if e = 'u' then
          match readHex s with
          | .error f => .error f
          | .ok (n, s) =>
            match readUnicode n s with
            | .error f => .error f
            | .ok (c, s) => readText fuel (c :: acc) s
        else match plainEscape? e with
          | some c => readText fuel (c :: acc) s
          | none => .error .badEscape
    else if c.toNat < 32 then .error .controlCharacter
    else readText fuel (c :: acc) s

/-- Passes over a text up to its closing quote. The fuel bounds the length. -/
def skipText : Nat → List Char → Except Fault (List Char)
  | 0, _ => .error .endInString
  | _ + 1, [] => .error .endInString
  | fuel + 1, c :: s =>
    if c = '"' then .ok s
    else if c = '\\' then
      match s with
      | [] => .error .endInString
      | e :: s =>
        if e = 'u' then
          match readHex s with
          | .error f => .error f
          | .ok (_, s) => skipText fuel s
        else match plainEscape? e with
          | some _ => skipText fuel s
          | none => .error .badEscape
    else if c.toNat < 32 then .error .controlCharacter
    else skipText fuel s

/-- A text after its opening quote. -/
def readQuoted (s : List Char) : Token × List Char :=
  match readText (s.length + 1) [] s with
  | .ok (cs, rest) => (.text (.ok (String.ofList cs)), rest)
  | .error f =>
    -- A reader that passes over the text may still get past what stopped the other one.
    match skipText (s.length + 1) s with
    | .ok rest => (.text (.error f), rest)
    | .error g => (.badText f g, [])

/-! ### Words -/

/-- The rest of a literal whose first letter has been read. -/
def readLiteral (value : Token) : List Char → List Char → Token × List Char
  | [], s => (value, s)
  | _ :: _, [] => (.stray .endInValue .endInValue, [])
  | e :: es, c :: s =>
    if c = e then readLiteral value es s else (.stray .expectedIdent .expectedIdent, [])

/-- The word that starts with `c`; nothing follows a word that is no word. -/
def readToken (c : Char) (s : List Char) : Token × List Char :=
  if c = '\x7b' then (.openObject, s)
  else if c = '\x7d' then (.closeObject, s)
  else if c = '[' then (.openList, s)
  else if c = ']' then (.closeList, s)
  else if c = ':' then (.colon, s)
  else if c = ',' then (.comma, s)
  else if c = '"' then readQuoted s
  else if c = 'n' then readLiteral .null ['u', 'l', 'l'] s
  else if c = 't' then readLiteral (.bool true) ['r', 'u', 'e'] s
  else if c = 'f' then readLiteral (.bool false) ['a', 'l', 's', 'e'] s
  else if c = '-' then readNumber true s
  else if c.isDigit then readNumber false (c :: s)
  else (.stray .expectedValue .expectedValue, [])

/-- The characters that stand between words. -/
def isBlank (c : Char) : Bool := c = ' ' || c = '\n' || c = '\t' || c = '\r'

/-- The words of a text. The fuel bounds their number. -/
def readTokens : Nat → List Char → List Token
  | 0, _ => []
  | _ + 1, [] => []
  | fuel + 1, c :: s =>
    if isBlank c then readTokens fuel s
    else
      let (t, rest) := readToken c s
      t :: readTokens fuel rest

/-- The words of a text. -/
def tokens (s : String) : List Token := readTokens (s.toList.length + 1) s.toList

end DeskPlan.Json
