import DeskPlan.Proofs.Blueprint.FirstMatch
import DeskPlan.Proofs.Json.Record
import DeskPlan.Proofs.Pattern.Literal
import Mathlib.Data.Nat.Digits.Defs

/-!
# `DeskPlan.Proofs.Blueprint.NumericFilter`: an index that is asked for as a number

A filter for an index on the taskbar may be given as a number. The number is kept as the text it is
written with, and this text is a pattern like any other: it is looked for in the decimal text of the
index, not compared with the index. Since digits and a minus stand for themselves, what is found is
the text in a row, anywhere (`passes_only_decimal`). A filter for 12 thus lets the index 3123 pass.

`numeric_filter` goes all the way from a document that asks for one index by a number, however its
words are spaced, to the windows that pass.
-/

set_option autoImplicit false

namespace DeskPlan

open Json
open Pattern (compile compile_plain)

/-! ### Filters for one attribute -/

/-- Whether the attribute is an index on the taskbar. -/
def Attribute.IsIndex (a : Attribute) : Prop := a = .taskbarIndex ∨ a = .taskbarSubIndex

/-- The index of a window that the attribute stands for, if it is one and the window has it. -/
def Window.index? (w : Window) : Attribute → Option Word32
  | .taskbarIndex => w.taskbarIndex
  | .taskbarSubIndex => w.taskbarSubIndex
  | _ => none

/-- Filters with a pattern for one attribute. -/
def Filters.only (pattern : String) : Attribute → Filters
  | .windowTitle => { windowTitle := some pattern }
  | .windowClass => { windowClass := some pattern }
  | .programPath => { programPath := some pattern }
  | .taskbarAppId => { taskbarAppId := some pattern }
  | .taskbarIndex => { taskbarIndex := some pattern }
  | .taskbarSubIndex => { taskbarSubIndex := some pattern }

/-- The text of an index is decimal, and empty when the window does not have it. -/
theorem Attribute.IsIndex.attribute?_eq {a : Attribute} (ha : a.IsIndex) (w : Window) :
    w.attribute? a = some (((w.index? a).map fun i => toString i.val).getD "") := by
  rcases ha with rfl | rfl <;> rfl

/-- A window passes a valid pattern for one attribute if the attribute is known and the pattern is
found in it. -/
theorem Filters.passes_only {pattern : String} {r : Regex} (hcompile : compile pattern = .ok r)
    (a : Attribute) (w : Window) (rule : String) {cache : PatternCache} (hcache : cache.Faithful) :
    ((only pattern a).passes w rule cache).1 = .ok ((w.attribute? a).any r.isMatch) := by
  have hpatterns : (only pattern a).patterns = [(a, pattern)] := by cases a <;> rfl
  have htool : (only pattern a).passesToolWindow w = true := by cases a <;> rfl
  rw [passes, hpatterns, tryPatterns]
  rcases PatternCache.lookup_cases hcache pattern with
    ⟨cause, hcause, -⟩ | ⟨r', cache', hcompile', hlookup, -⟩
  · rw [hcompile] at hcause
    cases hcause
  · obtain rfl : r = r' := Except.ok.inj (hcompile.symm.trans hcompile')
    rw [hlookup]
    cases hmatch : (w.attribute? a).any r.isMatch with
    | false => simp [hmatch]
    | true => simp [hmatch, tryPatterns, htool]

/-! ### Decimal texts as patterns -/

/-- The characters of a decimal text stand for themselves. -/
theorem plain_of_mem_decimal (n : Int) : ∀ c ∈ (toString n).toList, Pattern.Plain c := by
  intro c hc hform
  have hnone : ∀ d ∈ Pattern.formChars, d ≠ '-' ∧ d.isDigit = false := by
    simp [Pattern.formChars]
  rcases minus_or_digit_of_mem n c hc with h | h
  · exact (hnone c hform).1 h
  · rw [(hnone c hform).2] at h
    cases h

/-- The decimal text of an integer of 64 bits has at most 20 characters. -/
theorem length_decimal_le {n : Int} (hlow : -9223372036854775808 ≤ n)
    (hhigh : n ≤ 18446744073709551615) : (toString n).toList.length ≤ 20 := by
  have hdigits : ∀ {m e : Nat}, 0 < e → m < 10 ^ e → (Nat.toDigits 10 m).length ≤ e := by
    intro m e he hm
    have hrepr := Nat.repr_length m e he hm
    rwa [← String.length_toList, Nat.toList_repr] at hrepr
  cases n with
  | ofNat m =>
    have hm : m ≤ 18446744073709551615 := Int.ofNat_le.1 hhigh
    rw [show (toString (Int.ofNat m)).toList = Nat.toDigits 10 m from Nat.toList_repr]
    exact hdigits (by decide) (by omega)
  | negSucc m =>
    have hm : m + 1 ≤ 9223372036854775808 := by omega
    -- The sign takes the place of a digit.
    rw [toList_negSucc, List.length_cons]
    exact Nat.succ_le_succ (hdigits (e := 19) (by decide) (by omega))

/-- A window passes the decimal text of an integer as a pattern for an index exactly if it has the
index and the text stands somewhere in that of the index. The pattern is never invalid. -/
theorem passes_only_decimal {a : Attribute} (ha : a.IsIndex) {n : Int}
    (hlow : -9223372036854775808 ≤ n) (hhigh : n ≤ 18446744073709551615) (w : Window)
    (rule : String) {cache : PatternCache} (hcache : cache.Faithful) :
    ∃ answer, ((Filters.only (toString n) a).passes w rule cache).1 = .ok answer ∧
      (answer = true ↔
        ∃ i, w.index? a = some i ∧ (toString n).toList <:+: (toString i.val).toList) := by
  have hlength := length_decimal_le hlow hhigh
  obtain ⟨r, hcompile, hfound⟩ :=
    compile_plain (plain_of_mem_decimal n) (by rw [Pattern.maxSize]; omega)
  refine ⟨_, Filters.passes_only hcompile a w rule hcache, ?_⟩
  rw [ha.attribute?_eq, Option.any_some, hfound]
  cases w.index? a with
  | some i => simp
  | none =>
    -- The absent index counts as the empty text, which no number is part of.
    have hne : (toString n).toList ≠ [] := by
      cases n with
      | ofNat m => exact Nat.toList_repr ▸ Nat.toDigits_ne_nil
      | negSucc m => rw [toList_negSucc]; exact List.cons_ne_nil _ _
    simpa using hne

/-! ### Documents -/

/-- The document that asks for one attribute by a number. -/
def Filters.numericDocument (a : Attribute) (n : Int) : Json := .obj [(a.name, .int n)]

/-- Characters that are passed over between words. -/
structure Blanks where
  chars : List Char
  blank : ∀ c ∈ chars, isBlank c = true

/-- The text of the document with blanks around its words. -/
def Filters.numericText (gap : Fin 6 → Blanks) (a : Attribute) (n : Int) : String :=
  String.ofList ((gap 0).chars ++ '\x7b' :: ((gap 1).chars ++ (quoted a.name ++
    ((gap 2).chars ++ ':' :: ((gap 3).chars ++ ((toString n).toList ++
      ((gap 4).chars ++ '\x7d' :: ((gap 5).chars ++ []))))))))

theorem Blanks.spelled (gap : Blanks) {rest : List Char} {ts : List Token}
    (h : Spelled rest ts) : Spelled (gap.chars ++ rest) ts := by
  obtain ⟨chars, hblank⟩ := gap
  induction chars with
  | nil => exact h
  | cons c chars ih =>
    exact .blank (hblank c List.mem_cons_self) (ih fun d hd => hblank d (List.mem_cons_of_mem c hd))

/-- A blank does not belong to a number. -/
theorem Blanks.delimited (gap : Blanks) {rest : List Char} (hrest : Delimited rest) :
    Delimited (gap.chars ++ rest) := by
  obtain ⟨chars, hblank⟩ := gap
  cases chars with
  | nil => exact hrest
  | cons c chars =>
    have hc := hblank c List.mem_cons_self
    simp only [isBlank, Bool.or_eq_true, decide_eq_true_eq] at hc
    rcases hc with ((rfl | rfl) | rfl) | rfl <;>
      exact delimited_cons rfl (by decide) (by decide) (by decide) _

/-- Blanks do not change the words of the document. -/
theorem Filters.tokens_numericText (gap : Fin 6 → Blanks) (a : Attribute) (n : Int) :
    tokens (numericText gap a n) = (numericDocument a n).words := by
  have hending : Spelled ('\x7d' :: ((gap 5).chars ++ [])) [.closeObject] :=
    .word rfl rfl (Nat.le_refl _) ((gap 5).spelled .done)
  have hbehind : Delimited ((gap 4).chars ++ '\x7d' :: ((gap 5).chars ++ [])) :=
    (gap 4).delimited (delimited_cons rfl (by decide) (by decide) (by decide) _)
  have hvalue := (gap 3).spelled (spelled_int n hbehind ((gap 4).spelled hending))
  have hcolon : Spelled (':' :: _) (.colon :: _) := .word rfl rfl (Nat.le_refl _) hvalue
  have hfield := (gap 1).spelled (spelled_quoted a.name ((gap 2).spelled hcolon))
  have hobject : Spelled ('\x7b' :: _) (.openObject :: _) := .word rfl rfl (Nat.le_refl _) hfield
  exact ((gap 0).spelled hobject).tokens_eq

/-- A number of 64 bits is read as the text it is written with. -/
theorem recovers_number {n : Int} (hlow : -9223372036854775808 ≤ n)
    (hhigh : n ≤ 18446744073709551615) (union : String) :
    Recovers (.textOrNumber union) (.int n) (toString n) where
  plain := .int n
  decodes := by
    rw [node, numeral_eq hlow hhigh]
    rfl

/-- The document is read as filters for the one index. -/
theorem Filters.recovers_numeric {a : Attribute} (ha : a.IsIndex) {n : Int}
    (hlow : -9223372036854775808 ≤ n) (hhigh : n ≤ 18446744073709551615) :
    Recovers decode (numericDocument a n) (only (toString n) a) := by
  have hgiven := recovers_some (recovers_number hlow hhigh "Raw") nofun
  rcases ha with rfl | rfl
  · have hfilled : schema.Filled [("taskbarIndex", .int n)]
        (none, none, none, none, some (toString n), none, none, ()) :=
      .left <| .left <| .left <| .left <| .given hgiven <| .left <| .left .done
    exact (Schema.recovers_record hfilled (by decide) "WindowFilters").andThen rfl
  · have hfilled : schema.Filled [("taskbarSubIndex", .int n)]
        (none, none, none, none, none, some (toString n), none, ()) :=
      .left <| .left <| .left <| .left <| .left <| .given hgiven <| .left .done
    exact (Schema.recovers_record hfilled (by decide) "WindowFilters").andThen rfl

/-! ### The main statement -/

/-- An integer of 64 bits that a document of filters asks for as one index and nothing else:

* however the document is spaced, its words are those of the document without blanks;
* every text with these words is read as the same filters;
* these never fail to judge a window, whatever the cache has been asked before, and let it pass
  exactly if it has the index and the decimal text of the integer stands in a row in that of the
  index. So a window without the index does not pass. -/
theorem numeric_filter {a : Attribute} (ha : a.IsIndex) {n : Int}
    (hlow : -9223372036854775808 ≤ n) (hhigh : n ≤ 18446744073709551615) :
    (∀ gap, tokens (Filters.numericText gap a n) = (Filters.numericDocument a n).words) ∧
    ∃ f : Filters,
      (∀ text, tokens text = (Filters.numericDocument a n).words →
        decodeText Filters.decode text = .ok f) ∧
      ∀ (w : Window) (rule : String) (queries : List Query), ∃ answer,
        (f.passes w rule (PatternCache.empty.afterAll queries)).1 = .ok answer ∧
        (answer = true ↔
          ∃ i, w.index? a = some i ∧ (toString n).toList <:+: (toString i.val).toList) ∧
        (w.index? a = none → answer = false) := by
  refine ⟨fun gap => Filters.tokens_numericText gap a n, Filters.only (toString n) a,
    fun text htext => (Filters.recovers_numeric ha hlow hhigh).decodeText_eq htext, ?_⟩
  intro w rule queries
  obtain ⟨answer, hanswer, hiff⟩ :=
    passes_only_decimal ha hlow hhigh w rule (PatternCache.faithful_afterAll queries)
  refine ⟨answer, hanswer, hiff, fun hnone => ?_⟩
  rw [← Bool.not_eq_true, hiff, hnone]
  rintro ⟨i, hi, -⟩
  cases hi

/-- The blanks of a document with its field on a line of its own. -/
def indented : Fin 6 → Blanks
  | 1 => ⟨['\n', ' ', ' '], by simp [isBlank]⟩
  | 3 => ⟨[' '], by simp [isBlank]⟩
  | 4 => ⟨['\n'], by simp [isBlank]⟩
  | _ => ⟨[], by simp⟩

/-- A window that is listed at an index. -/
def windowAt (i : Word32) : Window := { bareWindow with taskbarIndex := some i }

/-- A document that asks for the index 12 is read, and lets 3123 pass as well as 12, but neither 102
nor a window without an index. -/
theorem numeric_filter_of_twelve :
    Filters.numericText indented .taskbarIndex 12 = "\x7b\n  \"taskbarIndex\": 12\n\x7d" ∧
    ∃ f, decodeText Filters.decode "\x7b\n  \"taskbarIndex\": 12\n\x7d" = .ok f ∧
      ∀ queries,
        let passes (w : Window) := (f.passes w "twelve" (PatternCache.empty.afterAll queries)).1
        passes (windowAt ⟨12, by decide, by decide⟩) = .ok true ∧
        passes (windowAt ⟨3123, by decide, by decide⟩) = .ok true ∧
        passes (windowAt ⟨102, by decide, by decide⟩) = .ok false ∧
        passes bareWindow = .ok false := by
  obtain ⟨hspaced, f, hread, hpasses⟩ :=
    numeric_filter (a := .taskbarIndex) (.inl rfl) (n := 12) (by decide) (by decide)
  have htext : Filters.numericText indented .taskbarIndex 12 =
      "\x7b\n  \"taskbarIndex\": 12\n\x7d" := rfl
  refine ⟨htext, f, hread _ (htext ▸ hspaced indented), fun queries => ?_⟩
  have hjudged : ∀ (w : Window) (expected : Bool),
      (expected = true ↔
        ∃ i, w.index? .taskbarIndex = some i ∧ ['1', '2'] <:+: (toString i.val).toList) →
      (f.passes w "twelve" (PatternCache.empty.afterAll queries)).1 = .ok expected := by
    intro w expected hexpected
    obtain ⟨answer, hanswer, hiff, -⟩ := hpasses w "twelve" queries
    rw [hanswer, Bool.eq_iff_iff.2 (hiff.trans hexpected.symm)]
  have hlisted : ∀ (i : Word32) (expected : Bool),
      (expected = true ↔ ['1', '2'] <:+: (toString i.val).toList) →
      (f.passes (windowAt i) "twelve" (PatternCache.empty.afterAll queries)).1 = .ok expected := by
    intro i expected hexpected
    refine hjudged (windowAt i) expected (hexpected.trans ⟨fun h => ⟨i, rfl, h⟩, ?_⟩)
    rintro ⟨j, hj, h⟩
    cases hj
    exact h
  refine ⟨hlisted _ true (by decide), hlisted _ true (by decide), hlisted _ false (by decide),
    hjudged _ false ⟨nofun, ?_⟩⟩
  rintro ⟨i, hi, -⟩
  cases hi

end DeskPlan
