import DeskPlan.Text.Replace

/-!
# `DeskPlan.Proofs.Text.Replace`: what a replacement does to a composed text

`Text.replaceChars` walks over a text once. The walk is known on two kinds of stretches, whatever
follows them: an occurrence of the part gives the replacement (`replaceChars_part`), and a text in
which no occurrence can begin stays as it is (`replaceChars_inert`).

`Inert` says that no occurrence can begin in a text: at none of its characters does the text begin
with the part, nor does what is left of the text begin the part.
-/

set_option autoImplicit false

namespace DeskPlan.Text

/-- No occurrence of a part begins in the text, whatever follows it. -/
def Inert (part : List Char) : List Char → Prop
  | [] => True
  | c :: s => (¬ part <+: c :: s ∧ ¬ c :: s <+: part) ∧ Inert part s

instance decidableInert (part : List Char) : (s : List Char) → Decidable (Inert part s)
  | [] => inferInstanceAs (Decidable True)
  | c :: s =>
    have : Decidable (Inert part s) := decidableInert part s
    inferInstanceAs (Decidable ((¬ part <+: c :: s ∧ ¬ c :: s <+: part) ∧ Inert part s))

/-- A text without the first character of the part is inert. -/
theorem inert_of_not_mem {d : Char} {part s : List Char} (h : d ∉ s) : Inert (d :: part) s := by
  induction s with
  | nil => trivial
  | cons c s ih =>
    rw [List.mem_cons, not_or] at h
    refine ⟨⟨fun hbegins => h.1 (List.cons_prefix_cons.1 hbegins).1, fun hbegun => ?_⟩, ih h.2⟩
    exact h.1 (List.cons_prefix_cons.1 hbegun).1.symm

variable {part s : List Char}

/-- What belongs to an occurrence is skipped. -/
theorem replaceChars_skip (replacement rest : List Char) :
    replaceChars part replacement s.length (s ++ rest) = replaceChars part replacement 0 rest := by
  induction s with
  | nil => rfl
  | cons c s ih => exact ih

/-- An occurrence of the part is replaced. -/
theorem replaceChars_part (hpart : part ≠ []) (replacement rest : List Char) :
    replaceChars part replacement 0 (part ++ rest) =
      replacement ++ replaceChars part replacement 0 rest := by
  obtain ⟨c, s, rfl⟩ := List.exists_cons_of_ne_nil hpart
  have hbegins : (c :: s).isPrefixOf (c :: s ++ rest) = true :=
    List.isPrefixOf_iff_prefix.2 (List.prefix_append _ _)
  rw [List.cons_append] at hbegins ⊢
  rw [replaceChars, if_pos hbegins]
  exact congrArg _ (replaceChars_skip replacement rest)

/-- A text in which no occurrence begins stays as it is. -/
theorem replaceChars_inert (h : Inert part s) (replacement rest : List Char) :
    replaceChars part replacement 0 (s ++ rest) = s ++ replaceChars part replacement 0 rest := by
  induction s with
  | nil => rfl
  | cons c s ih =>
    obtain ⟨⟨hbegins, hbegun⟩, hrest⟩ := h
    -- An occurrence would end in the text, or the text would end in it.
    have hnone : ¬ part.isPrefixOf (c :: s ++ rest) = true := by
      intro hoccurs
      have hoccurs : part <+: c :: s ++ rest := List.isPrefixOf_iff_prefix.1 hoccurs
      rcases List.prefix_or_prefix_of_prefix hoccurs (List.prefix_append (c :: s) rest) with h | h
      · exact hbegins h
      · exact hbegun h
    rw [List.cons_append] at hnone ⊢
    rw [replaceChars, if_neg hnone, ih hrest, List.cons_append]

end DeskPlan.Text
