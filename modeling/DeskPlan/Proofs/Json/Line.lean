import DeskPlan.Proofs.Json.Tree

/-!
# `DeskPlan.Proofs.Json.Line`: documents on one line

A document on one line is followed by a line break. `Json.LineOf` says of a text that it is one such
line: the only line break stands at its end, and what stands before is read as the document, with
nothing behind it.

* `Plain.printable_chars`: no control character is written, whatever the texts in a document hold;
* `Plain.lineOf`: so the compact text of a document is one line, and is read as the document.
-/

set_option autoImplicit false

namespace DeskPlan.Json

/-- The text is one line, and the line is read as the document. -/
def LineOf (text : String) (v : Json) : Prop :=
  ∃ line : String, text = line ++ "\n" ∧ '\n' ∉ line.toList ∧ Node.read line = (v.node, false)

/-- The character is no control character of ASCII. -/
def Printable (c : Char) : Prop := 32 ≤ c.toNat

instance (c : Char) : Decidable (Printable c) := inferInstanceAs (Decidable (32 ≤ c.toNat))

theorem printable_of_all {cs : List Char} (h : cs.all (fun c => decide (Printable c)) = true) :
    ∀ c ∈ cs, Printable c :=
  fun c hc => of_decide_eq_true (List.all_eq_true.1 h c hc)

theorem printable_hexDigit {n : Nat} (h : n < 16) : Printable (hexDigit n) := by
  have hall : ∀ n : Fin 16, Printable (hexDigit n) := by decide
  exact hall ⟨n, h⟩

/-- Whatever a character is, its escape is printable. -/
theorem printable_escapeChar (c : Char) : ∀ d ∈ escapeChar c, Printable d := by
  unfold escapeChar
  -- Seven characters have an escape of their own.
  iterate 7
    split
    · exact printable_of_all (by decide)
  split
  · rename_i hcontrol
    have hhigh : Printable (hexDigit (c.toNat / 16)) := printable_hexDigit (by omega)
    have hlow : Printable (hexDigit (c.toNat % 16)) := printable_hexDigit (by omega)
    have hmark : Printable '\\' ∧ Printable 'u' ∧ Printable '0' := by decide
    simp [hhigh, hlow, hmark]
  · rename_i hplain
    simpa [Printable] using hplain

theorem printable_quoted (s : String) : ∀ c ∈ quoted s, Printable c := by
  have hquote : Printable '"' := by decide
  intro c hc
  rw [quoted, List.mem_cons, List.mem_append, List.mem_singleton, List.mem_flatMap] at hc
  rcases hc with rfl | ⟨d, -, hd⟩ | rfl
  · exact hquote
  · exact printable_escapeChar d c hd
  · exact hquote

theorem printable_toString (n : Int) : ∀ c ∈ (toString n).toList, Printable c := by
  intro c hc
  rcases minus_or_digit_of_mem n c hc with rfl | hdigit
  · decide
  · exact Nat.le_trans (by decide) (Char.isDigit_iff_toNat.1 hdigit).1

/-- Items and what stands around them are printable, if each of them is. -/
theorem printable_enclosed {α : Type} {ending : List Char} {text : α → List Char} {xs : List α}
    (hending : ∀ c ∈ ending, Printable c) (htext : ∀ x ∈ xs, ∀ c ∈ text x, Printable c)
    (first : Bool) : ∀ c ∈ enclosed [] ending text first xs, Printable c := by
  have hcomma : Printable ',' := by decide
  induction xs generalizing first with
  | nil => exact hending
  | cons x xs ih =>
    have hx := htext x List.mem_cons_self
    have hxs := ih (fun y hy => htext y (List.mem_cons_of_mem x hy)) false
    intro c hc
    rw [enclosed, List.append_nil, List.mem_append, List.mem_append] at hc
    rcases hc with (hc | hc) | hc
    · cases first with
      | true => cases hc
      | false => exact List.mem_singleton.1 hc ▸ hcomma
    · exact hx c hc
    · exact hxs c hc

/-- No control character is written on a line. -/
theorem Plain.printable_chars {v : Json} (h : Plain v) : ∀ c ∈ v.chars, Printable c := by
  induction h with
  | null => exact printable_of_all (by decide)
  | bool b => cases b <;> exact printable_of_all (by decide)
  | int n => exact printable_toString n
  | str s => exact printable_quoted s
  | @list items _ ih =>
    intro c hc
    rw [chars, itemChars_eq, List.mem_cons] at hc
    rcases hc with rfl | hc
    · decide
    · exact printable_enclosed (printable_of_all (by decide)) ih true c hc
  | @obj fields _ ih =>
    have hfield : ∀ f ∈ fields, ∀ c ∈ charsOfField f, Printable c := by
      intro f hf c hc
      rw [charsOfField, List.nil_append, List.mem_append, List.mem_cons] at hc
      rcases hc with hc | rfl | hc
      · exact printable_quoted f.1 c hc
      · decide
      · exact ih f hf c hc
    intro c hc
    rw [chars, fieldChars_eq, List.mem_cons] at hc
    rcases hc with rfl | hc
    · decide
    · exact printable_enclosed (printable_of_all (by decide)) hfield true c hc

/-- The compact text of a document with a line break behind it is one line, and the line is read as
the document. -/
theorem Plain.lineOf {v : Json} (h : Plain v) : LineOf (v.compact ++ "\n") v := by
  refine ⟨v.compact, rfl, fun hbreak => ?_, h.read_eq (tokens_compact h)⟩
  rw [compact, String.toList_ofList] at hbreak
  exact absurd (h.printable_chars '\n' hbreak) (by decide)

end DeskPlan.Json
