import DeskPlan.Json.Token
import DeskPlan.Json.Value

/-!
# `DeskPlan.Proofs.Json.Words`: the words of a written value

A value is written as characters and read back as words. `Json.words` lists the words that a value
should be read as, and `Json.Spelled` says of characters, without fuel, which words they are read
as. The two layouts differ in the blanks between the words, which are passed over.

* `readText_escaped`: a text is read back character by character, whatever is escaped in it;
* `spelled_int`: an integer is read as its numeral, if what follows it cannot belong to it
  (`Delimited`), and `numeral_eq`: an integer of 64 bits is read back;
* `tokens_compact` and `tokens_pretty`: the words of a written value are its words, if its numbers
  are integers (`Json.Plain`).
-/

set_option autoImplicit false

namespace DeskPlan.Json

/-! ### Values and their words -/

/-- A value whose numbers are integers. -/
inductive Plain : Json → Prop where
  | null : Plain .null
  | bool (b : Bool) : Plain (.bool b)
  | int (n : Int) : Plain (.int n)
  | str (s : String) : Plain (.str s)
  | list {items : List Json} (h : ∀ v ∈ items, Plain v) : Plain (.list items)
  | obj {fields : List (String × Json)} (h : ∀ f ∈ fields, Plain f.2) : Plain (.obj fields)

attribute [simp] Plain.null Plain.bool Plain.int Plain.str

namespace Plain

@[simp] theorem list_iff {items : List Json} : Plain (.list items) ↔ ∀ v ∈ items, Plain v :=
  ⟨fun h => by cases h; assumption, .list⟩

@[simp] theorem obj_iff {fields : List (String × Json)} :
    Plain (.obj fields) ↔ ∀ f ∈ fields, Plain f.2 :=
  ⟨fun h => by cases h; assumption, .obj⟩

@[simp] theorem strings (xs : List String) : Plain (.strings xs) := by simp [Json.strings]

@[simp] theorem optStr (a : Option String) : Plain (.optStr a) := by cases a <;> simp [Json.optStr]

@[simp] theorem optInt (a : Option Int) : Plain (.optInt a) := by cases a <;> simp [Json.optInt]

end Plain

/-- What the digits of an integer are read as: the integer itself, if it fits 64 bits. -/
def numeral (n : Int) : Numeral := integerOf (n < 0) (Nat.toDigits 10 n.natAbs)

/-- The words of a value. -/
def words : Json → List Token
  | null => [.null]
  | bool b => [.bool b]
  | int n => [.number (numeral n)]
  | real x => [.number (.real x)]
  | str s => [.text (.ok s)]
  | list items => .openList :: itemWords true items
  | obj fields => .openObject :: fieldWords true fields
where
  /-- The words of the items of a list, with the closing bracket. -/
  itemWords : Bool → List Json → List Token
    | _, [] => [.closeList]
    | first, v :: vs => (if first then [] else [.comma]) ++ words v ++ itemWords false vs
  /-- The words of the fields of an object, with the closing brace. -/
  fieldWords : Bool → List (String × Json) → List Token
    | _, [] => [.closeObject]
    | first, (k, v) :: fs =>
      (if first then [] else [.comma]) ++ .text (.ok k) :: .colon :: words v ++
        fieldWords false fs

/-! ### Reading without fuel -/

/-- The characters are read as the words. -/
inductive Spelled : List Char → List Token → Prop where
  | done : Spelled [] []
  | blank {c : Char} {s : List Char} {ts : List Token} (hblank : isBlank c = true)
      (h : Spelled s ts) : Spelled (c :: s) ts
  | word {c : Char} {s rest : List Char} {t : Token} {ts : List Token}
      (hblank : isBlank c = false) (hread : readToken c s = (t, rest))
      (hshort : rest.length ≤ s.length) (h : Spelled rest ts) : Spelled (c :: s) (t :: ts)

/-- With enough fuel the words are read. -/
theorem Spelled.readTokens_eq {s : List Char} {ts : List Token} (h : Spelled s ts) :
    ∀ {fuel : Nat}, s.length < fuel → readTokens fuel s = ts := by
  induction h with
  | done =>
    intro fuel hfuel
    cases fuel with
    | zero => cases hfuel
    | succ fuel => rfl
  | blank hblank h ih =>
    intro fuel hfuel
    cases fuel with
    | zero => cases hfuel
    | succ fuel =>
      rw [readTokens, if_pos hblank]
      exact ih (Nat.lt_of_succ_lt_succ hfuel)
  | word hblank hread hshort h ih =>
    intro fuel hfuel
    cases fuel with
    | zero => cases hfuel
    | succ fuel =>
      rw [readTokens, if_neg (by simp [hblank]), hread]
      exact congrArg _ (ih (by simp only [List.length_cons] at hfuel; omega))

/-- The words of a text. -/
theorem Spelled.tokens_eq {s : List Char} {ts : List Token} (h : Spelled s ts) :
    tokens (String.ofList s) = ts := by
  rw [tokens, String.toList_ofList]
  exact h.readTokens_eq (Nat.lt_succ_self _)

/-! ### Texts -/

/-- A hexadecimal digit is read back. -/
theorem hexValue?_hexDigit {n : Nat} (h : n < 16) : hexValue? (hexDigit n) = some n := by
  have hall : ∀ n : Fin 16, hexValue? (hexDigit n) = some n.val := by decide
  exact hall ⟨n, h⟩

/-- The escape of a control character is read back. -/
theorem readText_control {c : Char} (h : c.toNat < 32) (fuel : Nat) (acc s : List Char) :
    readText (fuel + 1) acc
      ('\\' :: 'u' :: '0' :: '0' :: hexDigit (c.toNat / 16) :: hexDigit (c.toNat % 16) :: s) =
      readText fuel (c :: acc) s := by
  have hhex : readHex ('0' :: '0' :: hexDigit (c.toNat / 16) :: hexDigit (c.toNat % 16) :: s) =
      .ok (c.toNat, s) := by
    have hzero : hexValue? '0' = some 0 := by decide
    rw [readHex, hzero, hexValue?_hexDigit (by omega), hexValue?_hexDigit (by omega)]
    dsimp only
    rw [show ((0 * 16 + 0) * 16 + c.toNat / 16) * 16 + c.toNat % 16 = c.toNat by omega]
  have hunicode : readUnicode c.toNat s = .ok (c, s) := by
    unfold readUnicode
    rw [if_neg (by simp; omega), if_pos (by simp; omega), Char.ofNat_toNat]
  rw [readText, if_neg (by decide), if_pos rfl]
  simp only [if_true, hhex, hunicode]

/-- The escape of a character is read back as the character. -/
theorem readText_escapeChar (c : Char) (fuel : Nat) (acc s : List Char) :
    readText (fuel + 1) acc (escapeChar c ++ s) = readText fuel (c :: acc) s := by
  unfold escapeChar
  -- Seven characters have an escape of their own.
  split
  · next h => rw [h]; rfl
  rename_i hquote
  split
  · next h => rw [h]; rfl
  rename_i hbackslash
  split
  · next h => rw [h]; rfl
  split
  · next h => rw [h]; rfl
  split
  · next h => rw [h]; rfl
  split
  · next h => rw [h]; rfl
  split
  · next h => rw [h]; rfl
  split
  · next hcontrol => exact readText_control hcontrol fuel acc s
  · next hplain =>
    show readText (fuel + 1) acc (c :: s) = _
    rw [readText.eq_def]
    dsimp only
    rw [if_neg hquote, if_neg hbackslash, if_neg hplain]

/-- A text is read back up to its closing quote. -/
theorem readText_escaped (cs rest : List Char) :
    ∀ {fuel : Nat} (acc : List Char), cs.length < fuel →
      readText fuel acc (cs.flatMap escapeChar ++ '"' :: rest) = .ok (acc.reverse ++ cs, rest) := by
  induction cs with
  | nil =>
    intro fuel acc hfuel
    cases fuel with
    | zero => cases hfuel
    | succ fuel => simp [readText]
  | cons c cs ih =>
    intro fuel acc hfuel
    cases fuel with
    | zero => cases hfuel
    | succ fuel =>
      rw [List.flatMap_cons, List.append_assoc, readText_escapeChar,
        ih (c :: acc) (Nat.lt_of_succ_lt_succ hfuel)]
      simp

/-- An escape is not empty. -/
theorem length_le_flatMap_escapeChar (cs : List Char) :
    cs.length ≤ (cs.flatMap escapeChar).length := by
  have hone : ∀ c, 1 ≤ (escapeChar c).length := by
    intro c
    unfold escapeChar
    repeat' split
    all_goals simp
  induction cs with
  | nil => simp
  | cons c cs ih =>
    have := hone c
    simp only [List.flatMap_cons, List.length_append, List.length_cons]
    omega

/-- A text in quotes is read as the text. -/
theorem spelled_quoted (s : String) {rest : List Char} {ts : List Token} (h : Spelled rest ts) :
    Spelled (quoted s ++ rest) (.text (.ok s) :: ts) := by
  have hlength := length_le_flatMap_escapeChar s.toList
  have hread : readQuoted (s.toList.flatMap escapeChar ++ '"' :: rest) = (.text (.ok s), rest) := by
    rw [readQuoted, readText_escaped s.toList rest []]
    · simp
    · simp only [List.length_append, List.length_cons]
      omega
  have hword : Spelled ('"' :: (s.toList.flatMap escapeChar ++ '"' :: rest))
      (.text (.ok s) :: ts) :=
    .word (by decide) hread (by simp only [List.length_append, List.length_cons]; omega) h
  simpa [quoted] using hword

/-! ### Numbers -/

/-- What follows cannot belong to a number that stands before it. -/
def Delimited (rest : List Char) : Prop :=
  ∀ c s, rest = c :: s → c.isDigit = false ∧ c ≠ '.' ∧ c ≠ 'e' ∧ c ≠ 'E'

theorem delimited_nil : Delimited [] := nofun

theorem delimited_cons {c : Char} (hdigit : c.isDigit = false) (hpoint : c ≠ '.') (he : c ≠ 'e')
    (hE : c ≠ 'E') (s : List Char) : Delimited (c :: s) := by
  intro d t h
  cases h
  exact ⟨hdigit, hpoint, he, hE⟩

/-- The digits of a number are those before what follows. -/
theorem spanDigits_append {ds rest : List Char} (hds : ∀ c ∈ ds, c.isDigit = true)
    (hrest : Delimited rest) : spanDigits (ds ++ rest) = (ds, rest) := by
  have hhead : rest.takeWhile Char.isDigit = [] ∧ rest.dropWhile Char.isDigit = rest := by
    cases rest with
    | nil => exact ⟨rfl, rfl⟩
    | cons c s => simp [(hrest c s rfl).1]
  rw [spanDigits, List.takeWhile_append_of_pos hds, List.dropWhile_append_of_pos hds, hhead.1,
    hhead.2, List.append_nil]

/-- Without point and exponent a number is an integer. -/
theorem readFraction_delimited (negative : Bool) (ds : List Char) {rest : List Char}
    (hrest : Delimited rest) :
    readFraction negative ds rest = (.number (integerOf negative ds), rest) := by
  unfold readFraction
  split
  · next s => exact absurd rfl (hrest _ _ rfl).2.1
  · next s => exact absurd rfl (hrest _ _ rfl).2.2.1
  · next s => exact absurd rfl (hrest _ _ rfl).2.2.2
  · rfl

/-- The first digit of a natural number is no zero, unless the number is zero. -/
theorem toDigits_eq_cons {n : Nat} (h : 0 < n) : ∃ c ds, Nat.toDigits 10 n = c :: ds ∧ c ≠ '0' := by
  induction n using Nat.strongRecOn with
  | ind n ih =>
    rw [Nat.toDigits_eq_if (by decide)]
    split
    · next hsmall =>
      have hall : ∀ n : Fin 10, 0 < n.val → n.val.digitChar ≠ '0' := by decide
      exact ⟨n.digitChar, [], rfl, hall ⟨n, hsmall⟩ h⟩
    · next hlarge =>
      obtain ⟨c, ds, hdigits, hc⟩ := ih (n / 10) (by omega) (by omega)
      exact ⟨c, ds ++ [(n % 10).digitChar], by rw [hdigits]; rfl, hc⟩

theorem natOfDigits_toDigits (n : Nat) : natOfDigits (Nat.toDigits 10 n) = n := by
  have hdigits : natOfDigits (Nat.toDigits 10 n) = Nat.ofDigitChars 10 (Nat.toDigits 10 n) 0 := by
    rw [natOfDigits, Nat.ofDigitChars]
    congr 1
    funext m c
    rw [Nat.mul_comm]
    rfl
  rw [hdigits, Nat.ofDigitChars_toDigits (by decide) (by decide)]

/-- The digits of a natural number are read back. -/
theorem readNumber_toDigits (negative : Bool) (n : Nat) {rest : List Char}
    (hrest : Delimited rest) :
    readNumber negative (Nat.toDigits 10 n ++ rest) =
      (.number (integerOf negative (Nat.toDigits 10 n)), rest) := by
  have hds : ∀ c ∈ Nat.toDigits 10 n, c.isDigit = true := fun c hc =>
    Nat.isDigit_of_mem_toDigits (by decide) (by decide) hc
  rcases Nat.eq_zero_or_pos n with rfl | hpos
  · have hdelimited := readFraction_delimited negative ['0'] hrest
    rw [Nat.toDigits_zero]
    cases rest with
    | nil => exact hdelimited
    | cons c s =>
      show (if c.isDigit then _ else readFraction negative ['0'] (c :: s)) = _
      rw [if_neg (by simp [(hrest c s rfl).1])]
      exact hdelimited
  · obtain ⟨c, ds, hdigits, hc⟩ := toDigits_eq_cons hpos
    have hspan := spanDigits_append hds hrest
    rw [hdigits] at hspan ⊢
    rw [List.cons_append] at hspan ⊢
    unfold readNumber
    split
    · next r h => cases h; exact absurd rfl hc
    · rw [hspan]
      exact readFraction_delimited negative _ hrest

/-- A word that starts with a digit is a number. -/
theorem readToken_digit {c : Char} (hc : c.isDigit = true) (s : List Char) :
    isBlank c = false ∧ readToken c s = readNumber false (c :: s) := by
  have hne : ∀ d : Char, d.isDigit = false → (c = d) = False := by
    intro d hd
    rw [eq_iff_iff, iff_false]
    rintro rfl
    exact nomatch hc.symm.trans hd
  constructor
  · simp [isBlank, hne ' ' rfl, hne '\n' rfl, hne '\t' rfl, hne '\r' rfl]
  · simp only [readToken, hne '\x7b' rfl, hne '\x7d' rfl, hne '[' rfl, hne ']' rfl, hne ':' rfl,
      hne ',' rfl, hne '"' rfl, hne 'n' rfl, hne 't' rfl, hne 'f' rfl, hne '-' rfl, if_false, hc,
      if_true]

/-- An integer of 64 bits, with or without a sign, is read back. -/
theorem numeral_eq {n : Int} (hlow : -9223372036854775808 ≤ n)
    (hhigh : n ≤ 18446744073709551615) : numeral n = .integer n := by
  rcases Int.lt_or_le n 0 with hneg | hpos
  · have hn : 0 < n.natAbs ∧ n.natAbs ≤ 9223372036854775808 := by omega
    have hback : -(n.natAbs : Int) = n := by omega
    simp only [numeral, integerOf, natOfDigits_toDigits, hneg, hn, hback, decide_true,
      Bool.and_self, if_true]
  · have hn : n.natAbs ≤ maxSignificand := by
      simp only [maxSignificand]
      omega
    have hback : (n.natAbs : Int) = n := by omega
    simp only [numeral, integerOf, natOfDigits_toDigits, Int.not_lt.2 hpos, hn, hback, decide_false,
      if_true, Bool.false_eq_true, if_false]

theorem toList_negSucc (m : Nat) :
    (toString (Int.negSucc m)).toList = '-' :: Nat.toDigits 10 (m + 1) := by
  show ("-" ++ (m + 1).repr).toList = _
  rw [String.toList_append, Nat.toList_repr]
  rfl

/-- An integer is written with digits, and a sign if it is negative. -/
theorem minus_or_digit_of_mem (n : Int) :
    ∀ c ∈ (toString n).toList, c = '-' ∨ c.isDigit = true := by
  have hdigits : ∀ m : Nat, ∀ c ∈ Nat.toDigits 10 m, c.isDigit = true := fun m c hc =>
    Nat.isDigit_of_mem_toDigits (by decide) (by decide) hc
  intro c hc
  cases n with
  | ofNat m =>
    rw [show (toString (Int.ofNat m)).toList = Nat.toDigits 10 m from Nat.toList_repr] at hc
    exact .inr (hdigits m c hc)
  | negSucc m =>
    rw [toList_negSucc, List.mem_cons] at hc
    exact hc.imp_right (hdigits (m + 1) c)

/-- An integer is read as its numeral. -/
theorem spelled_int (n : Int) {rest : List Char} {ts : List Token} (hrest : Delimited rest)
    (h : Spelled rest ts) :
    Spelled ((toString n).toList ++ rest) (.number (numeral n) :: ts) := by
  cases n with
  | ofNat m =>
    have hdigits : (toString (Int.ofNat m)).toList = Nat.toDigits 10 m := Nat.toList_repr
    have hread : readNumber false (Nat.toDigits 10 m ++ rest) =
        (.number (numeral (Int.ofNat m)), rest) := readNumber_toDigits false m hrest
    rw [hdigits]
    obtain ⟨c, ds, hcons⟩ := List.exists_cons_of_ne_nil (Nat.toDigits_ne_nil (b := 10) (n := m))
    have hc : c.isDigit = true := Nat.isDigit_of_mem_toDigits (by decide) (by decide)
      (hcons ▸ List.mem_cons_self)
    rw [hcons] at hread ⊢
    obtain ⟨hblank, htoken⟩ := readToken_digit hc (ds ++ rest)
    exact .word hblank (htoken.trans hread) (by simp) h
  | negSucc m =>
    have hneg : decide (Int.negSucc m < 0) = true := decide_eq_true (Int.negSucc_lt_zero m)
    have hread : readNumber true (Nat.toDigits 10 (m + 1) ++ rest) =
        (.number (numeral (Int.negSucc m)), rest) := by
      rw [numeral, hneg]
      exact readNumber_toDigits true (m + 1) hrest
    rw [toList_negSucc]
    exact .word (by decide) hread (by simp) h

/-! ### Containers -/

/-- Items that follow an opening bracket: a comma stands before each but the first, a gap before
each, and an end behind the last. -/
def enclosed {α : Type} (gap ending : List Char) (text : α → List Char) :
    Bool → List α → List Char
  | _, [] => ending
  | first, x :: xs =>
    (if first then [] else [',']) ++ gap ++ text x ++ enclosed gap ending text false xs

/-- The words of items that follow an opening bracket. -/
def enclosedWords {α : Type} (ending : Token) (wordsOf : α → List Token) :
    Bool → List α → List Token
  | _, [] => [ending]
  | first, x :: xs =>
    (if first then [] else [.comma]) ++ wordsOf x ++ enclosedWords ending wordsOf false xs

/-- Whatever follows the characters, they are read as the words, unless what follows could belong
to a number at their end. -/
def Reads (s : List Char) (ws : List Token) : Prop :=
  ∀ ⦃rest : List Char⦄ ⦃ts : List Token⦄, Delimited rest → Spelled rest ts →
    Spelled (s ++ rest) (ws ++ ts)

/-- Items are read one after the other, once the gaps are blank and each item is read. -/
theorem reads_enclosed {α : Type} (gap ending : List Char) {text : α → List Char}
    {close : Token} {wordsOf : α → List Token} {xs : List α}
    (hgap : ∀ {rest ts}, Spelled rest ts → Spelled (gap ++ rest) ts)
    (hending : ∀ {rest ts}, Spelled rest ts → Spelled (ending ++ rest) (close :: ts))
    (hdelimited : ∀ rest, Delimited (ending ++ rest))
    (hitems : ∀ x ∈ xs, Reads (text x) (wordsOf x)) (first : Bool) :
    Reads (enclosed gap ending text first xs) (enclosedWords close wordsOf first xs) := by
  intro rest ts hrest h
  -- What stands behind an item, a comma or the end, does not belong to a number.
  have hbehind : ∀ ys : List α, Delimited (enclosed gap ending text false ys ++ rest) := by
    intro ys
    cases ys with
    | nil => exact hdelimited rest
    | cons y ys => exact delimited_cons rfl (by decide) (by decide) (by decide) _
  induction xs generalizing first with
  | nil => exact hending h
  | cons x xs ih =>
    have hxs := ih (fun y hy => hitems y (List.mem_cons_of_mem x hy)) false
    have hx := hgap (hitems x List.mem_cons_self (hbehind xs) hxs)
    cases first with
    | true => simpa [enclosed, enclosedWords] using hx
    | false =>
      have hcomma : Spelled (',' :: _) (.comma :: _) := .word rfl rfl (Nat.le_refl _) hx
      simpa [enclosed, enclosedWords] using hcomma

theorem itemWords_eq (first : Bool) (vs : List Json) :
    words.itemWords first vs = enclosedWords .closeList words first vs := by
  induction vs generalizing first with
  | nil => rfl
  | cons v vs ih => rw [words.itemWords, enclosedWords, ih]

/-- The words of a field. -/
def wordsOfField (f : String × Json) : List Token := .text (.ok f.1) :: .colon :: f.2.words

theorem fieldWords_eq (first : Bool) (fs : List (String × Json)) :
    words.fieldWords first fs = enclosedWords .closeObject wordsOfField first fs := by
  induction fs generalizing first with
  | nil => rfl
  | cons f fs ih =>
    rw [words.fieldWords, enclosedWords, ih]
    simp [wordsOfField]

/-! ### Values -/

theorem spelled_newline (level : Nat) {rest : List Char} {ts : List Token}
    (h : Spelled rest ts) : Spelled (newline level ++ rest) ts := by
  refine .blank rfl ?_
  induction 2 * level with
  | zero => exact h
  | succ n ih => exact .blank rfl ih

theorem reads_bool (b : Bool) : Reads (Json.bool b).chars [.bool b] := by
  intro rest ts _ h
  cases b with
  | true =>
    exact .word (by decide)
      (show readToken 't' ('r' :: 'u' :: 'e' :: rest) = (.bool true, rest) from rfl)
      (by simp +arith) h
  | false =>
    exact .word (by decide)
      (show readToken 'f' ('a' :: 'l' :: 's' :: 'e' :: rest) = (.bool false, rest) from rfl)
      (by simp +arith) h

theorem reads_null : Reads Json.null.chars [.null] := fun {rest _} _ h =>
  .word (by decide) (show readToken 'n' ('u' :: 'l' :: 'l' :: rest) = (.null, rest) from rfl)
    (by simp +arith) h

/-- The end of a container is read as its closing word, whatever blanks stand before it. -/
theorem ending_bracket (close : Char) {t : Token}
    (h : close = ']' ∧ t = .closeList ∨ close = '\x7d' ∧ t = .closeObject) :
    (∀ {rest ts}, Spelled rest ts → Spelled ([close] ++ rest) (t :: ts)) ∧
      ∀ rest, Delimited ([close] ++ rest) := by
  rcases h with ⟨rfl, rfl⟩ | ⟨rfl, rfl⟩
  · exact ⟨.word rfl rfl (Nat.le_refl _),
      delimited_cons rfl (by decide) (by decide) (by decide)⟩
  · exact ⟨.word rfl rfl (Nat.le_refl _),
      delimited_cons rfl (by decide) (by decide) (by decide)⟩

/-- A field is read as its words, if its value is. -/
theorem reads_field (gap : List Char) {f : String × Json} {text : List Char}
    (h : Reads text f.2.words) (hgap : ∀ {rest ts}, Spelled rest ts → Spelled (gap ++ rest) ts) :
    Reads (quoted f.1 ++ ':' :: (gap ++ text)) (wordsOfField f) := by
  intro rest ts hrest hts
  have hvalue : Spelled (':' :: (gap ++ (text ++ rest))) (.colon :: (f.2.words ++ ts)) :=
    .word rfl rfl (Nat.le_refl _) (hgap (h hrest hts))
  simpa [wordsOfField] using spelled_quoted f.1 hvalue

theorem itemChars_eq (first : Bool) (vs : List Json) :
    chars.itemChars first vs = enclosed [] [']'] chars first vs := by
  induction vs generalizing first with
  | nil => rfl
  | cons v vs ih => simp [chars.itemChars, enclosed, ih]

/-- The text of a field on one line. -/
def charsOfField (f : String × Json) : List Char := quoted f.1 ++ ':' :: ([] ++ f.2.chars)

theorem fieldChars_eq (first : Bool) (fs : List (String × Json)) :
    chars.fieldChars first fs = enclosed [] ['\x7d'] charsOfField first fs := by
  induction fs generalizing first with
  | nil => rfl
  | cons f fs ih => simp [chars.fieldChars, enclosed, charsOfField, ih]

/-- The text of a value on one line is read as its words. -/
theorem Plain.reads_chars {v : Json} (h : Plain v) : Reads v.chars v.words := by
  induction h with
  | null => exact reads_null
  | bool b => exact reads_bool b
  | int n => exact fun _ _ hrest h => spelled_int n hrest h
  | str s => exact fun _ _ _ h => spelled_quoted s h
  | @list items _ ih =>
    obtain ⟨hending, hdelimited⟩ := ending_bracket ']' (.inl ⟨rfl, rfl⟩)
    intro rest ts hrest h
    rw [chars, words, itemChars_eq, itemWords_eq]
    exact .word rfl rfl (Nat.le_refl _)
      (reads_enclosed [] [']'] id hending hdelimited ih true hrest h)
  | @obj fields _ ih =>
    obtain ⟨hending, hdelimited⟩ := ending_bracket '\x7d' (.inr ⟨rfl, rfl⟩)
    intro rest ts hrest h
    rw [chars, words, fieldChars_eq, fieldWords_eq]
    exact .word rfl rfl (Nat.le_refl _) (reads_enclosed [] ['\x7d'] id hending hdelimited
      (fun f hf => reads_field [] (ih f hf) id) true hrest h)

/-- The end of a container on a line of its own. -/
theorem ending_line (level : Nat) (close : Char) {t : Token}
    (h : close = ']' ∧ t = .closeList ∨ close = '\x7d' ∧ t = .closeObject) :
    (∀ {rest ts}, Spelled rest ts → Spelled (newline level ++ [close] ++ rest) (t :: ts)) ∧
      ∀ rest, Delimited (newline level ++ [close] ++ rest) := by
  obtain ⟨hbracket, -⟩ := ending_bracket close h
  refine ⟨fun hrest => ?_, fun rest => delimited_cons rfl (by decide) (by decide) (by decide) _⟩
  rw [List.append_assoc]
  exact spelled_newline level (hbracket hrest)

/-- The text of a value over several lines is read as its words. -/
theorem Plain.reads_prettyChars {v : Json} (h : Plain v) :
    ∀ level, Reads (v.prettyChars level) v.words := by
  induction h with
  | null => exact fun _ => reads_null
  | bool b => exact fun _ => reads_bool b
  | int n => exact fun _ _ _ hrest h => spelled_int n hrest h
  | str s => exact fun _ _ _ _ h => spelled_quoted s h
  | @list items _ ih =>
    intro level rest ts hrest h
    have hchars : ∀ first vs, prettyChars.itemChars level first vs =
        enclosed (newline (level + 1)) (newline level ++ [']']) (prettyChars (level + 1))
          first vs := by
      intro first vs
      induction vs generalizing first with
      | nil => rfl
      | cons v vs ih => simp [prettyChars.itemChars, enclosed, ih]
    obtain ⟨hending, hdelimited⟩ := ending_line level ']' (.inl ⟨rfl, rfl⟩)
    rw [words, itemWords_eq]
    cases items with
    -- An empty list has no lines.
    | nil => exact .word rfl rfl (Nat.le_refl _) (.word rfl rfl (Nat.le_refl _) h)
    | cons v vs =>
      show Spelled ('[' :: prettyChars.itemChars level true (v :: vs) ++ rest) _
      rw [hchars]
      exact .word rfl rfl (Nat.le_refl _) (reads_enclosed _ _ (spelled_newline (level + 1))
        hending hdelimited (fun x hx => ih x hx (level + 1)) true hrest h)
  | @obj fields _ ih =>
    intro level rest ts hrest h
    have hchars : ∀ first fs, prettyChars.fieldChars level first fs =
        enclosed (newline (level + 1)) (newline level ++ ['\x7d'])
          (fun f => quoted f.1 ++ ':' :: ([' '] ++ f.2.prettyChars (level + 1))) first fs := by
      intro first fs
      induction fs generalizing first with
      | nil => rfl
      | cons f fs ih => simp [prettyChars.fieldChars, enclosed, ih]
    obtain ⟨hending, hdelimited⟩ := ending_line level '\x7d' (.inr ⟨rfl, rfl⟩)
    rw [words, fieldWords_eq]
    cases fields with
    | nil => exact .word rfl rfl (Nat.le_refl _) (.word rfl rfl (Nat.le_refl _) h)
    | cons f fs =>
      show Spelled ('\x7b' :: prettyChars.fieldChars level true (f :: fs) ++ rest) _
      rw [hchars]
      exact .word rfl rfl (Nat.le_refl _) (reads_enclosed _ _ (spelled_newline (level + 1))
        hending hdelimited (fun f hf => reads_field [' '] (ih f hf (level + 1)) (.blank rfl))
        true hrest h)

/-- What reads as words whatever follows does so at the end of a text. -/
theorem Reads.tokens_eq {s : List Char} {ws : List Token} (h : Reads s ws) :
    tokens (String.ofList s) = ws := by
  have hspelled := h delimited_nil .done
  rw [List.append_nil, List.append_nil] at hspelled
  exact hspelled.tokens_eq

theorem tokens_compact {v : Json} (h : Plain v) : tokens v.compact = v.words :=
  h.reads_chars.tokens_eq

theorem tokens_pretty {v : Json} (h : Plain v) : tokens v.pretty = v.words :=
  (h.reads_prettyChars 0).tokens_eq

end DeskPlan.Json
