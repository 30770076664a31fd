import DeskPlan.Text.Blank
import Mathlib.Data.List.DropRight

/-!
# `DeskPlan.Proofs.Text.Blank`: what is left without white space and separators

A trimmed text has no white space at its ends (`Trimmed`). Trimming makes every text trimmed and
leaves trimmed texts alone (`trimmed_trim`, `Trimmed.trim_eq`).

Cutting at a separator is `List.splitOn` (`cut_eq_splitOn`). So no piece holds the separator
(`not_mem_of_mem_cut`), and pieces that do not hold it are got back from the joined text
(`pieces_intercalate`).
-/

set_option autoImplicit false

namespace DeskPlan.Text

/-! ### White space at the ends -/

/-- The text has no white space at its ends. -/
structure Trimmed (s : String) : Prop where
  head : ∀ c, s.toList.head? = some c → isBlank c = false
  last : ∀ c, s.toList.getLast? = some c → isBlank c = false

/-- White space is dropped from the front, then from the back. -/
theorem trimChars_eq (s : List Char) : trimChars s = (s.dropWhile isBlank).rdropWhile isBlank := rfl

/-- Trimming drops characters and adds none. -/
theorem sublist_trimChars (s : List Char) : (trimChars s).Sublist s := by
  rw [trimChars_eq]
  exact (List.rdropWhile_prefix _ _).sublist.trans (List.dropWhile_suffix _).sublist

theorem trimmed_trim (s : String) : Trimmed (trim s) where
  head c hc := by
    rw [trim, String.toList_ofList, trimChars_eq] at hc
    -- What is left at the front was at the front before the back was trimmed.
    obtain ⟨back, hback⟩ := List.rdropWhile_prefix isBlank (s.toList.dropWhile isBlank)
    have hfront : (s.toList.dropWhile isBlank).head? = some c := by
      rw [← hback, List.head?_append, hc, Option.some_or]
    have hnot := List.head?_dropWhile_not isBlank s.toList
    rw [hfront] at hnot
    exact hnot
  last c hc := by
    rw [trim, String.toList_ofList, trimChars_eq] at hc
    have hne : (s.toList.dropWhile isBlank).rdropWhile isBlank ≠ [] :=
      List.getLast?_isSome.1 (Option.isSome_of_eq_some hc)
    obtain rfl := Option.some.inj ((List.getLast?_eq_some_getLast hne).symm.trans hc)
    exact Bool.eq_false_iff.2 (List.rdropWhile_last_not isBlank _ hne)

/-- Trimming leaves a trimmed text alone. -/
theorem Trimmed.trim_eq {s : String} (h : Trimmed s) : trim s = s := by
  have hfront : s.toList.dropWhile isBlank = s.toList := by
    rw [List.dropWhile_eq_self_iff]
    intro hlength
    rw [h.head _ (List.head?_eq_getElem?.trans (List.getElem?_eq_getElem hlength))]
    exact Bool.false_ne_true
  have hback : s.toList.rdropWhile isBlank = s.toList := by
    rw [List.rdropWhile_eq_self_iff]
    intro hne
    rw [h.last _ (List.getLast?_eq_some_getLast hne)]
    exact Bool.false_ne_true
  rw [trim, trimChars_eq, hfront, hback, String.ofList_toList]

/-! ### Pieces between separators -/

theorem cut_eq_splitOn (separator : Char) (s : List Char) :
    cut separator s = s.splitOn separator := by
  induction s with
  | nil => rfl
  | cons c s ih =>
    rw [cut, List.splitOn_cons_eq_if_modifyHead, ← ih]
    by_cases hc : c = separator
    · rw [if_pos hc, if_pos (beq_iff_eq.2 hc)]
    · rw [if_neg hc, if_neg fun h => hc (beq_iff_eq.1 h)]
      obtain ⟨p, ps, hp⟩ := List.exists_cons_of_ne_nil (cut_ne_nil separator s)
      rw [hp]
      rfl

/-- No piece holds the separator. -/
theorem not_mem_of_mem_cut {separator : Char} {s p : List Char} (h : p ∈ cut separator s) :
    separator ∉ p := by
  induction s generalizing p with
  | nil =>
    obtain rfl := List.mem_singleton.1 h
    exact List.not_mem_nil
  | cons c s ih =>
    obtain ⟨q, qs, hq⟩ := List.exists_cons_of_ne_nil (cut_ne_nil separator s)
    rw [cut, hq] at h
    rw [hq] at ih
    split at h
    · rcases List.mem_cons.1 h with rfl | h
      · exact List.not_mem_nil
      · exact ih h
    · rename_i hc
      rcases List.mem_cons.1 h with rfl | h
      · exact List.not_mem_cons_of_ne_of_not_mem (Ne.symm hc) (ih List.mem_cons_self)
      · exact ih (List.mem_cons_of_mem q h)

/-- Pieces that do not hold the separator are got back from the joined text. -/
theorem pieces_intercalate {separator : Char} {ps : List String} (hps : ps ≠ [])
    (hplain : ∀ p ∈ ps, separator ∉ p.toList) :
    pieces separator ((String.singleton separator).intercalate ps) = ps := by
  have hchars : (ps.map String.toList).map String.ofList = ps := by
    rw [List.map_map]
    exact (List.map_congr_left fun p _ => String.ofList_toList).trans (List.map_id ps)
  rw [pieces, String.toList_intercalate, String.toList_singleton, cut_eq_splitOn,
    List.splitOn_intercalate, hchars]
  · intro p hp
    obtain ⟨q, hq, rfl⟩ := List.mem_map.1 hp
    exact hplain q hq
  · exact fun h => hps (List.map_eq_nil_iff.1 h)

end DeskPlan.Text
