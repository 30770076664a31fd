import Mathlib.Data.Prod.Lex
import Mathlib.Data.String.Basic

/-!
# `DeskPlan.Proofs.Sorting`: sorting by a key

A list is sorted with a Boolean test. Where the test compares keys of a linear order, the keys come
out in order (`pairwise_mergeSort`), elements of one key keep their order
(`filter_mergeSort`), and they stand side by side (`eq_append_of_pairwise`). It makes no difference
whether the keys are computed beforehand (`map_mergeSort_map`).

The order of pairs that the library uses, first by one component and then by the other, is the
lexicographic order (`lexTest_iff`).
-/

set_option autoImplicit false

namespace DeskPlan.Sorting

variable {α κ : Type} [LinearOrder κ]

/-- The test compares the keys of two elements. -/
def Compares (le : α → α → Bool) (key : α → κ) : Prop :=
  ∀ a b, le a b = true ↔ key a ≤ key b

namespace Compares

variable {le : α → α → Bool} {key : α → κ}

theorem trans (h : Compares le key) (a b c : α) (hab : le a b = true) (hbc : le b c = true) :
    le a c = true :=
  (h a c).2 (le_trans ((h a b).1 hab) ((h b c).1 hbc))

theorem total (h : Compares le key) (a b : α) : (le a b || le b a) = true := by
  rw [Bool.or_eq_true, h a b, h b a]
  exact le_total (key a) (key b)

/-- The keys come out in order. -/
theorem pairwise_mergeSort (h : Compares le key) (l : List α) :
    (l.mergeSort le).Pairwise fun a b => key a ≤ key b :=
  (List.pairwise_mergeSort h.trans h.total l).imp fun hle => (h _ _).1 hle

/-- Elements of one key keep their order. -/
theorem filter_mergeSort (h : Compares le key) (l : List α) (k : κ) :
    (l.mergeSort le).filter (key · = k) = l.filter (key · = k) := by
  have hequal : (l.filter (key · = k)).Pairwise fun a b => le a b = true :=
    List.pairwise_filter.2 <| List.pairwise_of_forall fun a b ha hb =>
      (h a b).2 (le_of_eq ((of_decide_eq_true ha).trans (of_decide_eq_true hb).symm))
  -- They are in order already, so sorting finds them in the order they have.
  have hsub : (l.filter (key · = k)).Sublist (l.mergeSort le) :=
    List.sublist_mergeSort h.trans h.total hequal List.filter_sublist
  have hfilter := hsub.filter (key · = k)
  simp only [List.filter_filter, Bool.and_self] at hfilter
  refine (hfilter.eq_of_length ?_).symm
  exact ((List.mergeSort_perm l le).filter _).length_eq.symm

end Compares

/-- In a list whose keys are in order, the elements of one key stand side by side. -/
theorem eq_append_of_pairwise {key : α → κ} {l : List α}
    (h : l.Pairwise fun a b => key a ≤ key b) (k : κ) :
    l = l.filter (key · < k) ++ l.filter (key · = k) ++ l.filter (k < key ·) := by
  induction l with
  | nil => rfl
  | cons a l ih =>
    obtain ⟨hfirst, hrest⟩ := List.pairwise_cons.1 h
    have hsplit := ih hrest
    rcases lt_trichotomy (key a) k with hlt | heq | hgt
    · simp only [List.filter_cons, hlt, hlt.ne, hlt.not_gt, decide_true, decide_false, if_true,
        Bool.false_eq_true, if_false, List.cons_append]
      exact congrArg _ hsplit
    · have hnone : l.filter (key · < k) = [] :=
        List.filter_eq_nil_iff.2 fun b hb => by simpa [heq] using hfirst b hb
      rw [hnone] at hsplit
      simp only [List.filter_cons, heq, lt_irrefl, decide_true, decide_false, if_true,
        Bool.false_eq_true, if_false, hnone, List.nil_append, List.cons_append]
      exact congrArg _ hsplit
    · have hnone : ∀ b ∈ l, k < key b := fun b hb => lt_of_lt_of_le hgt (hfirst b hb)
      have hless : l.filter (key · < k) = [] :=
        List.filter_eq_nil_iff.2 fun b hb => by simpa using (hnone b hb).le
      have hequal : l.filter (key · = k) = [] :=
        List.filter_eq_nil_iff.2 fun b hb => by simpa using (hnone b hb).ne'
      rw [hless, hequal] at hsplit
      simp only [List.filter_cons, hgt, hgt.ne', hgt.not_gt, decide_true, decide_false, if_true,
        Bool.false_eq_true, if_false, hless, hequal, List.nil_append]
      exact congrArg _ hsplit

/-- What is sorted beside its key, and then freed of it, is sorted by the key. -/
theorem map_mergeSort_map {β : Type} {f : α → β} {g : β → α} (hgf : ∀ a, g (f a) = a)
    (le : β → β → Bool) (l : List α) :
    ((l.map f).mergeSort le).map g = l.mergeSort fun a b => le (f a) (f b) := by
  have hsort : (l.mergeSort fun a b => le (f a) (f b)).map f = (l.map f).mergeSort le :=
    List.map_mergeSort fun _ _ _ _ => rfl
  rw [← hsort, List.map_map]
  exact (List.map_congr_left fun a _ => hgf a).trans (List.map_id' _)

/-- First one component and then the other is compared. -/
theorem lexTest_iff {ι : Type} [LinearOrder ι] (a b : ι × κ) :
    (decide (a.1 < b.1) || decide (a.1 = b.1) && !decide (b.2 < a.2)) = true ↔
      toLex a ≤ toLex b := by
  simp [Prod.Lex.toLex_le_toLex]

end DeskPlan.Sorting
