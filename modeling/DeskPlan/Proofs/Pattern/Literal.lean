import DeskPlan.Pattern.Syntax
import DeskPlan.Proofs.Pattern.Search

/-!
# `DeskPlan.Proofs.Pattern.Literal`: patterns that stand for themselves

A character that begins no other form of pattern is `Plain`. A pattern of plain characters is always
valid, and it is found in exactly the texts that contain it (`compile_plain`): it is read as one set
of a single character after the other, and such a sequence describes its own characters only.
-/

set_option autoImplicit false

namespace DeskPlan.Pattern

open Regex

/-- The characters that begin another form of pattern than a literal. -/
def formChars : List Char := ['\\', '.', '+', '*', '?', '(', ')', '|', '[', '\x7b', '^', '$']

/-- A character that stands for itself wherever it is written outside of a class. -/
def Plain (c : Char) : Prop := c ∉ formChars

/-- The items that characters are read as which stand for themselves, last first. -/
def letters (w : List Char) : List (Option Regex) := w.reverse.map fun c => some (literal {} c)

theorem letters_cons (c : Char) (w : List Char) :
    letters (c :: w) = letters w ++ [some (literal {} c)] := by
  rw [letters, List.reverse_cons, List.map_append]
  rfl

/-! ### What a sequence of letters describes -/

variable {before after : Option Char} {s w : List Char}

theorem matches_literal_iff {c : Char} : Matches (literal {} c) before s after ↔ s = [c] := by
  have hsingle : ∀ d : Char, (CharSet.single c).has d.toNat = true ↔ d = c := by
    intro d
    rw [CharSet.single, CharSet.has, Bool.and_eq_true, decide_eq_true_iff, decide_eq_true_iff,
      ← Nat.le_antisymm_iff, Char.toNat_inj, eq_comm]
  constructor
  · intro h
    cases h with
    | chars h => rw [(hsingle _).1 h]
  · rintro rfl
    exact .chars ((hsingle c).2 rfl)

/-- The item that is first in a sequence stands before the others. -/
theorem sequence_concat (items : List (Option Regex)) (r : Regex) :
    sequence (items ++ [some r]) =
      if items.filterMap id = [] then r else .seq r (sequence items) := by
  -- Items are given last first, so the item at the end of the list is wrapped around the others.
  rw [sequence, List.filterMap_append, sequence]
  cases items.filterMap id with
  | nil => rfl
  | cons x xs =>
    rw [if_neg (List.cons_ne_nil x xs)]
    show (xs ++ [r]).foldl _ x = _
    rw [List.foldl_append]
    rfl

theorem matches_sequence_concat_iff (items : List (Option Regex)) (r : Regex) :
    Matches (sequence (items ++ [some r])) before s after ↔
      Matches (.seq r (sequence items)) before s after := by
  rw [sequence_concat]
  split
  · next hitems =>
    rw [sequence, hitems]
    exact matches_seq_empty_right.symm
  · exact Iff.rfl

theorem matches_letters_iff : Matches (sequence (letters w)) before s after ↔ s = w := by
  induction w generalizing before s with
  | nil => exact matches_empty_iff
  | cons c w ih =>
    rw [letters_cons, matches_sequence_concat_iff, matches_seq_iff]
    constructor
    · rintro ⟨u, v, rfl, hu, hv⟩
      rw [matches_literal_iff.1 hu, ih.1 hv]
      rfl
    · rintro rfl
      exact ⟨[c], w, rfl, matches_literal_iff.2 rfl, ih.2 rfl⟩

/-- A sequence of letters is found in a text exactly if its characters stand there in a row. -/
theorem isMatch_letters_iff (w : List Char) (text : String) :
    (sequence (letters w)).isMatch text = true ↔ w <:+: text.toList := by
  rw [isMatch_iff]
  constructor
  · rintro ⟨pre, part, post, hs, h⟩
    rw [matches_letters_iff.1 h] at hs
    exact ⟨pre, post, hs.symm⟩
  · rintro ⟨pre, post, hs⟩
    exact ⟨pre, w, post, hs.symm, matches_letters_iff.2 rfl⟩

theorem size_letters_le (w : List Char) : (sequence (letters w)).size ≤ w.length + 1 := by
  induction w with
  | nil => exact Nat.le_refl _
  | cons c w ih =>
    rw [letters_cons, sequence_concat, List.length_cons]
    split
    · exact Nat.le_add_left _ _
    · show 1 + (sequence (letters w)).size ≤ _
      omega

/-! ### Reading -/

/-- A plain character is read as a letter. -/
theorem readItems_plain {c : Char} (hc : Plain c) (fuel : Nat) (names : List String)
    (branches : List Regex) (items : List (Option Regex)) (s : List Char) :
    readItems (fuel + 1) false {} names branches items (c :: s) =
      readItems fuel false {} names branches (some (literal {} c) :: items) s := by
  have hskip : ∀ s, skipBlanks {} s = s := fun s => rfl
  -- Every other form is told by its first character, and none of these is plain.
  simp only [Plain, formChars, List.mem_cons, List.not_mem_nil, or_false, not_or] at hc
  rw [readItems]
  simp only [hskip, hc, if_false, Bool.false_eq_true, decide_false, Bool.or_self]

/-- Plain characters are read as letters. -/
theorem readItems_letters (names : List String) (branches : List Regex)
    (hw : ∀ c ∈ w, Plain c) : ∀ (items : List (Option Regex)) {fuel : Nat}, w.length < fuel →
      readItems fuel false {} names branches items w =
        .ok (alternatives (sequence (letters w ++ items) :: branches), names, []) := by
  induction w with
  | nil =>
    intro items fuel hfuel
    obtain ⟨fuel, rfl⟩ : ∃ n, fuel = n + 1 := ⟨fuel - 1, by omega⟩
    rfl
  | cons c w ih =>
    intro items fuel hfuel
    obtain ⟨fuel, rfl⟩ : ∃ n, fuel = n + 1 := ⟨fuel - 1, by omega⟩
    rw [readItems_plain (hw c List.mem_cons_self),
      ih (fun d hd => hw d (List.mem_cons_of_mem c hd)) _ (Nat.lt_of_succ_lt_succ hfuel),
      letters_cons, List.append_assoc]
    rfl

/-- A pattern of plain characters is valid, unless it is too long, and found in exactly the texts
that contain it. -/
theorem compile_plain {pattern : String} (hplain : ∀ c ∈ pattern.toList, Plain c)
    (hlength : pattern.toList.length < maxSize) : ∃ r, compile pattern = .ok r ∧
      ∀ text : String, r.isMatch text = true ↔ pattern.toList <:+: text.toList := by
  have hread := readItems_letters [] [] hplain [] (Nat.lt_succ_self _)
  have hsize := size_letters_le pattern.toList
  refine ⟨sequence (letters pattern.toList), ?_, isMatch_letters_iff _⟩
  rw [List.append_nil] at hread
  rw [compile, hread]
  show (if maxSize < (sequence (letters pattern.toList)).size then _ else _) = _
  rw [if_neg (by omega)]
  rfl

end DeskPlan.Pattern
