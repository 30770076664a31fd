import DeskPlan.Pattern.Regex

/-!
# `DeskPlan.Pattern.Syntax`: patterns as text

`Pattern.compile` reads a pattern into a regular expression or says what is wrong with it. A
pattern has literals, the wildcard, character classes with set operations, groups, alternatives,
repetitions, anchors, and flags that hold to the end of their group.

Look-around and references to groups are not part of the language. Whether a repetition prefers
more or fewer copies does not matter for the question whether a part of a text matches, so the
mark that says so is read and dropped.

Two things are smaller than in a full library of expressions. The classes that go by the name of
a character property are the few of `propertySets`. The size of a pattern is bounded by `maxSize`,
a bound chosen for the reader at hand, and the depth of its groups is not bounded at all.
-/

set_option autoImplicit false

namespace DeskPlan.Pattern

/-- What is wrong with a pattern. -/
inductive PatternError where
  | groupUnclosed
  | groupUnopened
  | groupNameInvalid
  | groupNameEmpty
  | groupNameUnclosed
  | groupNameRepeated (name : String)
  | lookAround
  | repetitionMissing
  | countUnclosed
  | countEmpty
  | countTooLarge
  | countReversed
  | classUnclosed
  | classEscape
  | rangeNotLiteral
  | rangeReversed
  | escapeAtEnd
  | escapeUnknown
  | backreference
  | hexEmpty
  | hexDigit
  | hexInvalid
  | propertyUnknown
  | flagUnknown
  | flagRepeated
  | flagUnclosed
  | negationRepeated
  | negationDangling
  | boundaryUnknown
  | tooLarge
deriving DecidableEq, Repr

/-- The cause of an error in words. -/
def PatternError.cause : PatternError → String
  | groupUnclosed => "unclosed group"
  | groupUnopened => "unopened group"
  | groupNameInvalid => "invalid capture group character"
  | groupNameEmpty => "empty capture group name"
  | groupNameUnclosed => "unclosed capture group name"
  | groupNameRepeated _ => "duplicate capture group name"
  | lookAround => "look-around, including look-ahead and look-behind, is not supported"
  | repetitionMissing => "repetition operator missing expression"
  | countUnclosed => "unclosed counted repetition"
  | countEmpty => "repetition quantifier expects a valid decimal"
  | countTooLarge => "decimal literal invalid"
  | countReversed =>
    "invalid repetition count range, the start must be <= the end"
  | classUnclosed => "unclosed character class"
  | classEscape => "invalid escape sequence found in character class"
  | rangeNotLiteral => "invalid range boundary, must be a literal"
  | rangeReversed => "invalid character class range, the start must be <= the end"
  | escapeAtEnd => "incomplete escape sequence, reached end of pattern prematurely"
  | escapeUnknown => "unrecognized escape sequence"
  | backreference => "backreferences are not supported"
  | hexEmpty => "hexadecimal literal empty"
  | hexDigit => "invalid hexadecimal digit"
  | hexInvalid => "hexadecimal literal is not a Unicode scalar value"
  | propertyUnknown => "Unicode property not found"
  | flagUnknown => "unrecognized flag"
  | flagRepeated => "duplicate flag"
  | flagUnclosed => "expected flag but got end of regex"
  | negationRepeated => "flag negation operator repeated"
  | negationDangling => "dangling flag negation operator"
  | boundaryUnknown => "unrecognized word boundary"
  | tooLarge => "compiled pattern exceeds the size limit"

/-- The error for a pattern, with the pattern. -/
def PatternError.message (e : PatternError) (pattern : String) : String :=
  "regex parse error:\n    " ++ pattern ++ "\nerror: " ++ e.cause

/-- The flags in force at a place of a pattern. -/
structure Flags where
  ignoreCase : Bool := false
  multiLine : Bool := false
  dotAll : Bool := false
  extended : Bool := false
  unicode : Bool := true
deriving DecidableEq, Repr

/-- Blanks and comments, which carry no meaning under the flag for extended patterns. -/
def skipBlanks (flags : Flags) (s : List Char) : List Char :=
  if flags.extended then go s.length s else s
where
  /-- Skips one blank or comment at a time. The fuel bounds the length. -/
  go : Nat → List Char → List Char
    | 0, s => s
    | _ + 1, [] => []
    | fuel + 1, c :: s =>
      if CharSet.blank.has c.toNat then go fuel s
      else if c = '#' then go fuel ((s.dropWhile (· ≠ '\n')).drop 1)
      else c :: s

/-! ### Escapes -/

/-- What an escape stands for. -/
inductive Escape where
  | literal (c : Char)
  | set (s : CharSet)
  | anchor (a : Anchor)

/-- The characters with a meaning of their own in patterns. -/
def metaChars : List Char :=
  ['\\', '.', '+', '*', '?', '(', ')', '|', '[', ']', '\x7b', '\x7d', '^', '$', '#', '&', '-', '~']

/-- Whether a backslash before the character makes it stand for itself. -/
def standsForItself (c : Char) : Bool :=
  metaChars.contains c || (c.toNat < 128 && !c.isAlphanum && c ≠ '<' && c ≠ '>')

/-- The value of a hexadecimal digit. -/
def hexValue? (c : Char) : Option Nat :=
  if c.isDigit then some (c.toNat - 48)
  else if 'a' ≤ c && c ≤ 'f' then some (c.toNat - 87)
  else if 'A' ≤ c && c ≤ 'F' then some (c.toNat - 55)
  else none

/-- The character with a code point, if there is one. -/
def charOfCode? (n : Nat) : Except PatternError Char :=
  if n.isValidChar then .ok (Char.ofNat n) else .error .hexInvalid

/-- The value of a list of hexadecimal digits. -/
def hexNumber (ds : List Char) : Except PatternError Nat :=
  ds.foldlM (fun n c => match hexValue? c with
    | some d => .ok (n * 16 + d)
    | none => .error .hexDigit) 0

/-- A character given by the hexadecimal digits of its code point: `width` digits, or any number
of them in braces. -/
def readHexEscape (flags : Flags) (width : Nat) (s : List Char) :
    Except PatternError (Char × List Char) :=
  match skipBlanks flags s with
  | [] => .error .escapeAtEnd
  | '\x7b' :: s => do
    let digits := s.takeWhile (· ≠ '\x7d')
    let rest := s.drop digits.length
    let n ← hexNumber digits
    if rest.isEmpty then .error .escapeAtEnd
    else if digits.isEmpty then .error .hexEmpty
    else return (← charOfCode? n, rest.drop 1)
  | s => do
    let digits := s.take width
    let n ← hexNumber digits
    if digits.length < width then .error .escapeAtEnd
    else return (← charOfCode? n, s.drop width)

/-- A class of characters by its letter, an upper-case letter for the complement. -/
def classOfLetter (flags : Flags) (c : Char) : CharSet :=
  let pick (all : CharSet) (ascii : List (Nat × Nat)) : CharSet :=
    if flags.unicode then all else .ofRanges ascii
  let base : CharSet :=
    if c = 'd' || c = 'D' then pick .digit [(48, 57)]
    else if c = 's' || c = 'S' then pick .blank [(9, 13), (32, 32)]
    else pick .word [(48, 57), (65, 90), (95, 95), (97, 122)]
  if c.isUpper then .compl base else base

/-- The properties of characters that a pattern may name. -/
def propertySets : List (String × CharSet) :=
  [("any", .all), ("ascii", .range 0 127), ("nd", .digit), ("decimalnumber", .digit),
    ("whitespace", .blank), ("space", .blank)]

/-- A class of characters by the name of a property, after the letter `p` or `P`. -/
def readProperty (negated : Bool) (s : List Char) : Except PatternError (CharSet × List Char) :=
  let find (negated : Bool) (name : List Char) (rest : List Char) :
      Except PatternError (CharSet × List Char) :=
    let key := String.ofList ((name.filter fun c => c ≠ ' ' && c ≠ '_' && c ≠ '-').map
      Char.toLower)
    match propertySets.lookup key with
    | some set => .ok (if negated then .compl set else set, rest)
    | none => .error .propertyUnknown
  match s with
  | [] => .error .escapeAtEnd
  | '\x7b' :: s =>
    let name := s.takeWhile (· ≠ '\x7d')
    let rest := s.drop name.length
    if rest.isEmpty then .error .escapeAtEnd
    else match name with
      | '^' :: name => find (!negated) name (rest.drop 1)
      | name => find negated name (rest.drop 1)
  | c :: s => find negated [c] s

/-- The anchors with a name in braces after the letter `b`. -/
def boundaryNames : List (String × Anchor) :=
  [("start", .wordStart), ("end", .wordEnd), ("start-half", .wordStartHalf),
    ("end-half", .wordEndHalf)]

/-- The anchor written by the letter `b` and what follows it. Braces that hold no name belong to
a repetition. -/
def readBoundary (s : List Char) : Except PatternError (Escape × List Char) :=
  match s with
  | '\x7b' :: r =>
    let name := r.takeWhile fun c => c.isAlpha || c = '-'
    -- Braces without a name are a count.
    if name.isEmpty then .ok (.anchor .wordBoundary, s)
    else match r.drop name.length with
      | '\x7d' :: rest =>
        match boundaryNames.lookup (String.ofList name) with
        | some a => .ok (.anchor a, rest)
        | none => .error .boundaryUnknown
      | _ => .error .boundaryUnknown
  | _ => .ok (.anchor .wordBoundary, s)

/-- The characters that a letter stands for by itself. -/
def controlEscapes : List (Char × Char) :=
  [('a', '\x07'), ('f', '\x0c'), ('t', '\t'), ('n', '\n'), ('r', '\r'), ('v', '\x0b')]

/-- The anchors written by one character after a backslash. -/
def anchorEscapes : List (Char × Anchor) :=
  [('A', .textStart), ('z', .textEnd), ('B', .noWordBoundary), ('<', .wordStart),
    ('>', .wordEnd)]

/-- An escape, after its backslash. -/
def readEscape (flags : Flags) : List Char → Except PatternError (Escape × List Char)
  | [] => .error .escapeAtEnd
  | c :: s =>
    if c.isDigit then .error .backreference
    else if c = 'x' then do let (c, s) ← readHexEscape flags 2 s; return (.literal c, s)
    else if c = 'u' then do let (c, s) ← readHexEscape flags 4 s; return (.literal c, s)
    else if c = 'U' then do let (c, s) ← readHexEscape flags 8 s; return (.literal c, s)
    else if c = 'p' || c = 'P' then do
      let (set, s) ← readProperty (c = 'P') s
      return (.set set, s)
    else if ['d', 'D', 's', 'S', 'w', 'W'].contains c then
      .ok (.set (classOfLetter flags c), s)
    else if standsForItself c then .ok (.literal c, s)
    else if c = 'b' then readBoundary s
    else match controlEscapes.lookup c with
      | some d => .ok (.literal d, s)
      | none =>
        match anchorEscapes.lookup c with
        | some a => .ok (.anchor a, s)
        | none => .error .escapeUnknown

/-! ### Classes -/

/-- The ASCII classes with a name between colons. -/
def namedClasses : List (String × List (Nat × Nat)) :=
  [("alnum", [(48, 57), (65, 90), (97, 122)]), ("alpha", [(65, 90), (97, 122)]),
    ("ascii", [(0, 127)]), ("blank", [(9, 9), (32, 32)]), ("cntrl", [(0, 31), (127, 127)]),
    ("digit", [(48, 57)]), ("graph", [(33, 126)]), ("lower", [(97, 122)]),
    ("print", [(32, 126)]), ("punct", [(33, 47), (58, 64), (91, 96), (123, 126)]),
    ("space", [(9, 13), (32, 32)]), ("upper", [(65, 90)]),
    ("word", [(48, 57), (65, 90), (95, 95), (97, 122)]),
    ("xdigit", [(48, 57), (65, 70), (97, 102)])]

/-- A named class, after its opening bracket; `none` if there is none. -/
def readNamedClass? : List Char → Option (CharSet × List Char)
  | ':' :: s =>
    let (negated, s) := match s with
      | '^' :: s => (true, s)
      | s => (false, s)
    let name := s.takeWhile (· ≠ ':')
    match s.drop name.length with
    | ':' :: ']' :: rest =>
      (namedClasses.lookup (String.ofList name)).map fun ranges =>
        (if negated then .compl (.ofRanges ranges) else .ofRanges ranges, rest)
    | _ => none
  | _ => none

/-- The closure of a set under changes of case, if the flag asks for it. -/
def foldIf (flags : Flags) (s : CharSet) : CharSet := if flags.ignoreCase then .anyCase s else s

/-- An operation between two sets of a class, still lacking its right operand. -/
abbrev PendingOp := Option ((CharSet → CharSet → CharSet) × CharSet)

/-- The operation with its right operand. -/
def applyPending (flags : Flags) (pending : PendingOp) (right : CharSet) : CharSet :=
  match pending with
  | some (op, left) => op (foldIf flags left) (foldIf flags right)
  | none => right

/-- One member of a class: a character, or an escape. -/
def readMember (flags : Flags) : List Char → Except PatternError (Escape × List Char)
  | [] => .error .classUnclosed
  | '\\' :: s => readEscape flags s
  | c :: s => .ok (.literal c, s)

/-- The members written by an escape. -/
def memberSet : Escape → Except PatternError CharSet
  | .literal c => .ok (.single c)
  | .set s => .ok s
  | .anchor _ => .error .classEscape

/-- The character of an end of a range. -/
def memberChar : Escape → Except PatternError Char
  | .literal c => .ok c
  | _ => .error .rangeNotLiteral

/-- A member of a class or a range of them. -/
def readRange (flags : Flags) (s : List Char) : Except PatternError (CharSet × List Char) := do
  let (first, s) ← readMember flags s
  match skipBlanks flags s with
  | [] => .error .classUnclosed
  | '-' :: s' =>
    match skipBlanks flags s' with
    | [] => .error .classUnclosed
    -- A hyphen before the closing bracket or another hyphen makes no range.
    | ']' :: _ => return (← memberSet first, '-' :: s')
    | '-' :: _ => return (← memberSet first, '-' :: s')
    | s' => do
      let (last, rest) ← readMember flags s'
      let a ← memberChar first
      let b ← memberChar last
      if b < a then .error .rangeReversed else return (.range a.toNat b.toNat, rest)
  | s => return (← memberSet first, s)

/-- The hyphens at the start of a class, which stand for themselves. -/
def readHyphens (flags : Flags) : Nat → CharSet → List Char → CharSet × List Char
  | 0, set, s => (set, s)
  | fuel + 1, set, s =>
    match skipBlanks flags s with
    | '-' :: s => readHyphens flags fuel (.union set (.single '-')) s
    | s => (set, s)

/-- The start of a class, after its opening bracket: whether it is a complement, and the members
that stand for themselves only at the start. -/
def openClass (flags : Flags) (s : List Char) :
    Except PatternError (Bool × CharSet × List Char) :=
  let s := skipBlanks flags s
  let (negated, s) := match s with
    | '^' :: s => (true, skipBlanks flags s)
    | s => (false, s)
  let (set, s) := readHyphens flags s.length .none s
  match s with
  | [] => .error .classUnclosed
  -- A closing bracket right at the start is a member.
  | ']' :: s => if set = .none then .ok (negated, .single ']', s) else .ok (negated, set, ']' :: s)
  | s => .ok (negated, set, s)

/-- The members of a class up to its closing bracket. `set` holds the members read since the
last operation. The fuel bounds the length. -/
def readClass (flags : Flags) :
    Nat → Bool → PendingOp → CharSet → List Char → Except PatternError (CharSet × List Char)
  | 0, _, _, _, _ => .error .classUnclosed
  | fuel + 1, negated, pending, set, s =>
    match skipBlanks flags s with
    | [] => .error .classUnclosed
    | ']' :: s =>
      let whole := foldIf flags (applyPending flags pending set)
      .ok (if negated then .compl whole else whole, s)
    | '[' :: s =>
      match readNamedClass? s with
      | some (inner, rest) => readClass flags fuel negated pending (.union set inner) rest
      -- A bracket that opens no named class opens a class inside the class.
      | none => do
        let (innerNegated, start, s) ← openClass flags s
        let (inner, rest) ← readClass flags fuel innerNegated none start s
        readClass flags fuel negated pending (.union set inner) rest
    | '&' :: '&' :: s =>
      readClass flags fuel negated (some (.inter, applyPending flags pending set)) .none s
    | '-' :: '-' :: s =>
      readClass flags fuel negated (some (.diff, applyPending flags pending set)) .none s
    | '~' :: '~' :: s =>
      readClass flags fuel negated (some (.symm, applyPending flags pending set)) .none s
    | s => do
      let (member, rest) ← readRange flags s
      readClass flags fuel negated pending (.union set member) rest

/-! ### Groups and repetitions -/

/-- One flag letter, set or cleared. -/
def setFlag (flags : Flags) (on : Bool) (c : Char) : Option Flags :=
  if c = 'i' then some { flags with ignoreCase := on }
  else if c = 'm' then some { flags with multiLine := on }
  else if c = 's' then some { flags with dotAll := on }
  else if c = 'x' then some { flags with extended := on }
  else if c = 'u' then some { flags with unicode := on }
  else if c = 'U' || c = 'R' then some flags
  else none

/-- Flag letters up to a colon or a closing parenthesis, which stays in the rest. `seen` holds
the letters met so far, `on` whether they are being set, `dangling` whether the last character
was the sign that clears. -/
def readFlags (seen : List Char) (on dangling : Bool) (flags : Flags) :
    List Char → Except PatternError (Flags × List Char)
  | [] => .error .flagUnclosed
  | c :: s =>
    if c = ':' || c = ')' then
      if dangling then .error .negationDangling else .ok (flags, c :: s)
    else if c = '-' then
      if !on then .error .negationRepeated else readFlags ('-' :: seen) false true flags s
    else match setFlag flags on c with
      | none => .error .flagUnknown
      | some flags' =>
        if seen.contains c then .error .flagRepeated
        else readFlags (c :: seen) on false flags' s

/-- Whether a character may stand in the name of a group. -/
def isNameChar (first : Bool) (c : Char) : Bool :=
  let letter := CharSet.isWord c && !CharSet.digit.has c.toNat
  c = '_' || letter || (!first && (c = '.' || c = '[' || c = ']' || CharSet.isWord c))

/-- The characters of a group's name up to the closing angle bracket. -/
def readGroupName (first : Bool) : List Char → Except PatternError (List Char × List Char)
  | [] => .error .groupNameUnclosed
  | c :: s =>
    if c = '>' then .ok ([], s)
    else if isNameChar first c then do
      let (name, rest) ← readGroupName false s
      return (c :: name, rest)
    else .error .groupNameInvalid

/-- The name of a group, which no group before has. -/
def groupName (names : List String) (s : List Char) :
    Except PatternError (String × List Char) := do
  let (name, rest) ← readGroupName true s
  let name := String.ofList name
  if name.isEmpty then .error .groupNameEmpty
  else if names.contains name then .error (.groupNameRepeated name)
  else return (name, rest)

/-- How a group starts, after its parenthesis. -/
inductive GroupStart where
  /-- A group; the names include its own, the flags hold inside it. -/
  | group (names : List String) (flags : Flags) (rest : List Char)
  /-- Flags for what follows. -/
  | flags (flags : Flags) (rest : List Char)

/-- Reads how a group starts. -/
def readGroupStart (flags : Flags) (names : List String) (s : List Char) :
    Except PatternError GroupStart :=
  match skipBlanks flags s with
  | '?' :: '=' :: _ | '?' :: '!' :: _ | '?' :: '<' :: '=' :: _ | '?' :: '<' :: '!' :: _ =>
    .error .lookAround
  | '?' :: 'P' :: '<' :: s | '?' :: '<' :: s => do
    let (name, rest) ← groupName names s
    return .group (name :: names) flags rest
  | ['?'] => .error .groupUnclosed
  | '?' :: s => do
    let (inner, rest) ← readFlags [] true false flags s
    match rest with
    | ')' :: rest =>
      if s.head? = some ')' then .error .repetitionMissing else return .flags inner rest
    | rest => return .group names inner (rest.drop 1)
  | s => .ok (.group names flags s)

/-- A decimal number with blanks around it; the digits and the rest. -/
def readDecimal (flags : Flags) (s : List Char) : List Char × List Char :=
  let trim (s : List Char) := s.dropWhile fun c => CharSet.blank.has c.toNat
  let rec digits : Nat → List Char → List Char × List Char
    | 0, s => ([], s)
    | _ + 1, [] => ([], [])
    | fuel + 1, c :: s =>
      if c.isDigit then
        let (ds, rest) := digits fuel (skipBlanks flags s)
        (c :: ds, rest)
      else ([], c :: s)
  let (ds, rest) := digits (s.length + 1) (trim s)
  (ds, trim rest)

/-- The greatest number of a counted repetition. -/
def maxCount : Nat := 4294967295

/-- The value of the digits of a count. -/
def countOf (ds : List Char) : Except PatternError Nat :=
  if ds.isEmpty then .error .countEmpty
  else
    let n := ds.foldl (fun n c => n * 10 + (c.toNat - 48)) 0
    if maxCount < n then .error .countTooLarge else .ok n

/-- The closing brace of a count, and the mark after it. -/
def closeCount (flags : Flags) : List Char → Except PatternError (List Char)
  | '\x7d' :: s =>
    match skipBlanks flags s with
    | '?' :: s => .ok s
    | s => .ok s
  | _ => .error .countUnclosed

/-- A count in braces, after the opening one: the least and the greatest number of copies. -/
def readCount (flags : Flags) (s : List Char) :
    Except PatternError (Nat × Option Nat × List Char) :=
  match skipBlanks flags s with
  | [] => .error .countUnclosed
  | s =>
    let (ds, s) := readDecimal flags s
    match s with
    | [] => .error .countUnclosed
    | ',' :: s =>
      match skipBlanks flags s with
      | [] => .error .countUnclosed
      | '\x7d' :: s => do
        let least ← countOf ds
        return (least, none, ← closeCount flags ('\x7d' :: s))
      | s => do
        let least ← countOf ds
        let (es, s) := readDecimal flags s
        let most ← countOf es
        let rest ← closeCount flags s
        if most < least then .error .countReversed else return (least, some most, rest)
    | s => do
      let n ← countOf ds
      return (n, some n, ← closeCount flags s)

/-- The greatest size of an expression. -/
def maxSize : Nat := 200000

/-- Repeats the item read last. A flag change is no item. -/
def repeatLast (least : Nat) (most : Option Nat) :
    List (Option Regex) → Except PatternError (List (Option Regex))
  | some r :: items =>
    if maxSize < r.size * max 1 (max least (most.getD 0)) then .error .tooLarge
    else .ok (some (r.repeated least most) :: items)
  | _ => .error .repetitionMissing

/-- The items of a branch in sequence; they are given last first. -/
def sequence (items : List (Option Regex)) : Regex :=
  match items.filterMap id with
  | [] => .empty
  | r :: rs => rs.foldl (fun acc a => .seq a acc) r

/-- The branches of a group as alternatives; they are given last first. -/
def alternatives (branches : List Regex) : Regex :=
  match branches with
  | [] => .empty
  | r :: rs => rs.foldl (fun acc a => .alt a acc) r

/-- A character that stands for itself. -/
def literal (flags : Flags) (c : Char) : Regex := .chars (foldIf flags (.single c))

/-- The expression of an escape. -/
def ofEscape (flags : Flags) : Escape → Regex
  | .literal c => literal flags c
  | .set s => .chars s
  | .anchor a => .anchor a

/-- The part of a pattern from a place on to the end of its group. `branches` and `items` hold
what the group has so far, last first; `inside` tells a group in parentheses from the whole
pattern. The fuel bounds the length. -/
def readItems : Nat → Bool → Flags → List String → List Regex → List (Option Regex) →
    List Char → Except PatternError (Regex × List String × List Char)
  | 0, _, _, _, _, _, _ => .error .groupUnclosed
  | fuel + 1, inside, flags, names, branches, items, s =>
    match skipBlanks flags s with
    | [] =>
      if inside then .error .groupUnclosed
      else .ok (alternatives (sequence items :: branches), names, [])
    | c :: s =>
      if c = ')' then
        if inside then .ok (alternatives (sequence items :: branches), names, s)
        else .error .groupUnopened
      else if c = '|' then readItems fuel inside flags names (sequence items :: branches) [] s
      else if c = '(' then do
        match ← readGroupStart flags names s with
        -- Flags without a colon hold to the end of the group around them.
        | .flags flags rest => readItems fuel inside flags names branches (none :: items) rest
        | .group names inner rest =>
          let (r, names, rest) ← readItems fuel true inner names [] [] rest
          readItems fuel inside flags names branches (some r :: items) rest
      else if c = '[' then do
        let (negated, start, rest) ← openClass flags s
        let (set, rest) ← readClass flags (rest.length + 1) negated none start rest
        readItems fuel inside flags names branches (some (.chars set) :: items) rest
      else if c = '*' || c = '+' || c = '?' then do
        let items ← repeatLast (if c = '+' then 1 else 0) (if c = '?' then some 1 else none) items
        -- A question mark here prefers fewer copies; whether there is a match stays the same.
        let rest := match s with
          | '?' :: rest => rest
          | rest => rest
        readItems fuel inside flags names branches items rest
      else if c = '\x7b' then
        match items with
        | some _ :: _ => do
          let (least, most, rest) ← readCount flags s
          let items ← repeatLast least most items
          readItems fuel inside flags names branches items rest
        | _ => .error .repetitionMissing
      else if c = '\\' then do
        let (e, rest) ← readEscape flags s
        readItems fuel inside flags names branches (some (ofEscape flags e) :: items) rest
      else
        let r : Regex :=
          if c = '.' then .chars (if flags.dotAll then .all else .compl (.single '\n'))
          else if c = '^' then .anchor (if flags.multiLine then .lineStart else .textStart)
          else if c = '$' then .anchor (if flags.multiLine then .lineEnd else .textEnd)
          else literal flags c
        readItems fuel inside flags names branches (some r :: items) s

/-- Reads a pattern into a regular expression. -/
def compile (pattern : String) : Except PatternError Regex := do
  let s := pattern.toList
  let (r, _, _) ← readItems (s.length + 1) false {} [] [] [] s
  if maxSize < r.size then .error .tooLarge else return r

end DeskPlan.Pattern
