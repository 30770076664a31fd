import DeskPlan.Pattern.Regex

/-!
# `DeskPlan.Proofs.Pattern.Search`: what the search for a pattern finds

`Regex.Matches` says which texts an expression describes, without residuals and without a search. An
anchor looks at the characters around its position, so a text is described between the character
before it and the one after it.

* `matches_cons_iff`: what an expression describes is what its residuals describe, behind the first
  character. A turn of a repetition may describe the empty text and change nothing, so the way back
  is an induction over the description, not over the expression;
* `searchFrom_iff`: the search goes on with what the parts that have started may still become, and
  starts a new part at every position;
* `isMatch_iff`: it finds a text exactly if some part of the text is described where it stands.
-/

set_option autoImplicit false

namespace DeskPlan.Regex

/-! ### Descriptions -/

/-- The expression describes the text, between the character before it and the one after it. -/
inductive Matches : Regex → Option Char → List Char → Option Char → Prop where
  | empty {before after : Option Char} : Matches .empty before [] after
  | chars {s : CharSet} {c : Char} {before after : Option Char} (h : s.has c.toNat = true) :
      Matches (.chars s) before [c] after
  | anchor {a : Anchor} {before after : Option Char} (h : a.holds before after = true) :
      Matches (.anchor a) before [] after
  -- Each text is the context of the other; past an empty one the context of the whole is seen.
  | seq {a b : Regex} {before after : Option Char} {u v : List Char}
      (ha : Matches a before u (v.head?.or after))
      (hb : Matches b (u.getLast?.or before) v after) : Matches (.seq a b) before (u ++ v) after
  | altLeft {a b : Regex} {before after : Option Char} {s : List Char}
      (h : Matches a before s after) : Matches (.alt a b) before s after
  | altRight {a b : Regex} {before after : Option Char} {s : List Char}
      (h : Matches b before s after) : Matches (.alt a b) before s after
  | starNil {a : Regex} {before after : Option Char} : Matches (.star a) before [] after
  | starCons {a : Regex} {before after : Option Char} {u v : List Char}
      (ha : Matches a before u (v.head?.or after))
      (hs : Matches (.star a) (u.getLast?.or before) v after) :
      Matches (.star a) before (u ++ v) after

variable {r a b x : Regex} {before after : Option Char} {c : Char} {s : List Char}

/-- The character before what follows a text that starts with a character. -/
theorem getLast?_cons_or (c : Char) (u : List Char) (before : Option Char) :
    (c :: u).getLast?.or before = u.getLast?.or (some c) := by
  rw [List.getLast?_cons]
  cases u.getLast? <;> rfl

theorem matches_empty_iff : Matches .empty before s after ↔ s = [] := by
  constructor
  · intro h
    cases h
    rfl
  · rintro rfl
    exact .empty

theorem matches_seq_iff : Matches (.seq a b) before s after ↔ ∃ u v, s = u ++ v ∧
    Matches a before u (v.head?.or after) ∧ Matches b (u.getLast?.or before) v after := by
  constructor
  · intro h
    cases h with
    | seq ha hb => exact ⟨_, _, rfl, ha, hb⟩
  · rintro ⟨u, v, rfl, ha, hb⟩
    exact .seq ha hb

/-- Nothing has to stand before an expression. -/
theorem matches_seq_empty_left : Matches (.seq .empty b) before s after ↔
    Matches b before s after := by
  rw [matches_seq_iff]
  constructor
  · rintro ⟨u, v, rfl, ha, hb⟩
    obtain rfl := matches_empty_iff.1 ha
    exact hb
  · exact fun h => ⟨[], s, rfl, .empty, h⟩

/-- Nothing has to stand behind an expression. -/
theorem matches_seq_empty_right : Matches (.seq a .empty) before s after ↔
    Matches a before s after := by
  rw [matches_seq_iff]
  constructor
  · rintro ⟨u, v, rfl, ha, hb⟩
    obtain rfl := matches_empty_iff.1 hb
    rw [List.append_nil]
    exact ha
  · exact fun h => ⟨s, [], (List.append_nil s).symm, h, .empty⟩

/-- One expression after the other describes what their sequence does. -/
theorem matches_andThen_iff : Matches (a.andThen b) before s after ↔
    Matches (.seq a b) before s after := by
  cases a with
  | empty => exact matches_seq_empty_left.symm
  | _ => exact Iff.rfl

/-! ### One character -/

/-- An expression that matches the empty part at a position describes the empty text there. -/
theorem Matches.of_nullable (h : r.nullable before after = true) : Matches r before [] after := by
  induction r with
  | empty => exact .empty
  | chars s => cases h
  | anchor a => exact .anchor h
  | seq a b iha ihb =>
    obtain ⟨ha, hb⟩ := Bool.and_eq_true_iff.1 h
    exact Matches.seq (u := []) (v := []) (iha ha) (ihb hb)
  | alt a b iha ihb =>
    rcases Bool.or_eq_true_iff.1 h with ha | hb
    · exact .altLeft (iha ha)
    · exact .altRight (ihb hb)
  | star a => exact .starNil

/-- The empty text is described at a position where the expression matches the empty part. -/
theorem Matches.nullable (h : Matches r before s after) (hs : s = []) :
    r.nullable before after = true := by
  induction h with
  | empty => rfl
  | chars => cases hs
  | anchor h => exact h
  | seq ha hb iha ihb =>
    obtain ⟨rfl, rfl⟩ := List.append_eq_nil_iff.1 hs
    exact Bool.and_eq_true_iff.2 ⟨iha rfl, ihb rfl⟩
  | altLeft h ih => exact Bool.or_eq_true_iff.2 (.inl (ih hs))
  | altRight h ih => exact Bool.or_eq_true_iff.2 (.inr (ih hs))
  | starNil => rfl
  | starCons => rfl

theorem nullable_iff : r.nullable before after = true ↔ Matches r before [] after :=
  ⟨.of_nullable, fun h => h.nullable rfl⟩

/-- What is left of one expression, and another after it, behind a character. -/
theorem matches_andThen_behind_iff (before : Option Char) :
    Matches (x.andThen b) (some c) s after ↔
      ∃ u v, s = u ++ v ∧ Matches x (some c) u (v.head?.or after) ∧
        Matches b ((c :: u).getLast?.or before) v after := by
  simp only [matches_andThen_iff, matches_seq_iff, getLast?_cons_or]

/-- What a residual describes the expression describes with the character in front. -/
theorem Matches.of_residual (hx : x ∈ r.residuals before c) (h : Matches x (some c) s after) :
    Matches r before (c :: s) after := by
  induction r generalizing x s after with
  | empty => cases hx
  | chars set =>
    rw [residuals] at hx
    split at hx
    · next hc =>
      obtain rfl := List.mem_singleton.1 hx
      obtain rfl := matches_empty_iff.1 h
      exact .chars hc
    · cases hx
  | anchor a => cases hx
  | seq a b iha ihb =>
    rcases List.mem_append.1 hx with hx | hx
    · obtain ⟨y, hy, rfl⟩ := List.mem_map.1 hx
      obtain ⟨u, v, rfl, hu, hv⟩ := (matches_andThen_behind_iff before).1 h
      exact Matches.seq (iha hy hu) hv
    · split at hx
      · next hnullable =>
        exact Matches.seq (u := []) (nullable_iff.1 hnullable) (ihb hx h)
      · cases hx
  | alt a b iha ihb =>
    rcases List.mem_append.1 hx with hx | hx
    · exact .altLeft (iha hx h)
    · exact .altRight (ihb hx h)
  | star a iha =>
    obtain ⟨y, hy, rfl⟩ := List.mem_map.1 hx
    obtain ⟨u, v, rfl, hu, hv⟩ := (matches_andThen_behind_iff before).1 h
    exact Matches.starCons (iha hy hu) hv

/-- What an expression describes is described, behind the first character, by a residual. -/
theorem Matches.exists_residual {t : List Char} (h : Matches r before t after) (ht : t = c :: s) :
    ∃ x ∈ r.residuals before c, Matches x (some c) s after := by
  induction h generalizing s with
  | empty => cases ht
  | @chars set d before after hd =>
    cases ht
    refine ⟨.empty, ?_, .empty⟩
    rw [residuals, if_pos hd]
    exact List.mem_singleton_self _
  | anchor h => cases ht
  | @seq a b before after u v ha hb iha ihb =>
    cases u with
    | nil =>
      obtain ⟨x, hx, hmatches⟩ := ihb ht
      have hnullable : a.nullable before (some c) = true := by
        rw [show v = c :: s from ht] at ha
        exact ha.nullable rfl
      refine ⟨x, List.mem_append_right _ ?_, hmatches⟩
      rw [if_pos hnullable]
      exact hx
    | cons d u =>
      cases ht
      obtain ⟨x, hx, hmatches⟩ := iha rfl
      exact ⟨x.andThen b, List.mem_append_left _ (List.mem_map_of_mem hx),
        (matches_andThen_behind_iff before).2 ⟨u, v, rfl, hmatches, hb⟩⟩
  | altLeft h ih =>
    obtain ⟨x, hx, hmatches⟩ := ih ht
    exact ⟨x, List.mem_append_left _ hx, hmatches⟩
  | altRight h ih =>
    obtain ⟨x, hx, hmatches⟩ := ih ht
    exact ⟨x, List.mem_append_right _ hx, hmatches⟩
  | starNil => cases ht
  | @starCons a before after u v ha hs iha ihs =>
    cases u with
    -- A turn that describes the empty text is left out.
    | nil => exact ihs ht
    | cons d u =>
      cases ht
      obtain ⟨x, hx, hmatches⟩ := iha rfl
      exact ⟨x.andThen (.star a), List.mem_map_of_mem hx,
        (matches_andThen_behind_iff before).2 ⟨u, v, rfl, hmatches, hs⟩⟩

theorem matches_cons_iff : Matches r before (c :: s) after ↔
    ∃ x ∈ r.residuals before c, Matches x (some c) s after :=
  ⟨fun h => h.exists_residual rfl, fun ⟨_, hx, h⟩ => .of_residual hx h⟩

/-! ### The search -/

/-- The expression describes some start of the text. -/
def Starts (r : Regex) (before : Option Char) (s : List Char) : Prop :=
  ∃ part post, s = part ++ post ∧ Matches r before part post.head?

/-- The expression describes some part of the text. -/
def Occurs (r : Regex) (before : Option Char) (s : List Char) : Prop :=
  ∃ pre rest, s = pre ++ rest ∧ r.Starts (pre.getLast?.or before) rest

theorem starts_nil_iff : r.Starts before [] ↔ r.nullable before none = true := by
  rw [nullable_iff]
  constructor
  · rintro ⟨part, post, hs, h⟩
    obtain ⟨rfl, rfl⟩ := List.append_eq_nil_iff.1 hs.symm
    exact h
  · exact fun h => ⟨[], [], rfl, h⟩

/-- A start of a text is empty, or goes on behind the first character. -/
theorem starts_cons_iff : r.Starts before (c :: s) ↔
    r.nullable before (some c) = true ∨ ∃ x ∈ r.residuals before c, x.Starts (some c) s := by
  rw [nullable_iff]
  constructor
  · rintro ⟨part, post, hs, h⟩
    cases part with
    | nil =>
      rw [show post = c :: s from hs.symm] at h
      exact .inl h
    | cons d part =>
      cases hs
      obtain ⟨x, hx, hmatches⟩ := matches_cons_iff.1 h
      exact .inr ⟨x, hx, part, post, rfl, hmatches⟩
  · rintro (h | ⟨x, hx, part, post, rfl, h⟩)
    · exact ⟨[], c :: s, rfl, h⟩
    · exact ⟨c :: part, post, rfl, matches_cons_iff.2 ⟨x, hx, h⟩⟩

theorem occurs_nil_iff : r.Occurs before [] ↔ r.Starts before [] := by
  constructor
  · rintro ⟨pre, rest, hs, h⟩
    obtain ⟨rfl, rfl⟩ := List.append_eq_nil_iff.1 hs.symm
    exact h
  · exact fun h => ⟨[], [], rfl, h⟩

/-- A part of a text is at its start, or behind the first character. -/
theorem occurs_cons_iff : r.Occurs before (c :: s) ↔
    r.Starts before (c :: s) ∨ r.Occurs (some c) s := by
  constructor
  · rintro ⟨pre, rest, hs, h⟩
    cases pre with
    | nil =>
      rw [show rest = c :: s from hs.symm] at h
      exact .inl h
    | cons d pre =>
      cases hs
      rw [getLast?_cons_or] at h
      exact .inr ⟨pre, rest, rfl, h⟩
  · rintro (h | ⟨pre, rest, rfl, h⟩)
    · exact ⟨[], c :: s, rfl, h⟩
    · exact ⟨c :: pre, rest, rfl, by rwa [getLast?_cons_or]⟩

/-- The search succeeds if a part that has started goes on to its end, or a new one occurs. -/
theorem searchFrom_iff (r : Regex) (s : List Char) :
    ∀ (states : List Regex) (before : Option Char), r.searchFrom states before s = true ↔
      (∃ x ∈ states, x.Starts before s) ∨ r.Occurs before s := by
  induction s with
  | nil =>
    intro states before
    rw [searchFrom, List.any_cons, Bool.or_eq_true, List.any_eq_true, occurs_nil_iff,
      starts_nil_iff, or_comm]
    simp only [starts_nil_iff]
  | cons c s ih =>
    intro states before
    -- A part that does not end here goes on as a residual.
    have hstates : ∀ l : List Regex, (∃ x ∈ l, x.Starts before (c :: s)) ↔
        l.any (·.nullable before (some c)) = true ∨
          ∃ y ∈ (l.flatMap (·.residuals before c)).eraseDups, y.Starts (some c) s := by
      intro l
      simp only [starts_cons_iff, List.any_eq_true, List.mem_eraseDups, List.mem_flatMap]
      constructor
      · rintro ⟨x, hx, h | ⟨y, hy, h⟩⟩
        · exact .inl ⟨x, hx, h⟩
        · exact .inr ⟨y, ⟨x, hx, hy⟩, h⟩
      · rintro (⟨x, hx, h⟩ | ⟨y, ⟨x, hx, hy⟩, h⟩)
        · exact ⟨x, hx, .inl h⟩
        · exact ⟨x, hx, .inr ⟨y, hy, h⟩⟩
    rw [searchFrom, Bool.or_eq_true, ih, ← or_assoc, ← hstates (r :: states), occurs_cons_iff,
      ← or_assoc, or_comm (b := r.Starts before (c :: s))]
    simp only [List.mem_cons, exists_eq_or_imp]

/-- A text is found exactly if some part of it is described where it stands. -/
theorem isMatch_iff (r : Regex) (text : String) : r.isMatch text = true ↔
    ∃ pre part post, text.toList = pre ++ part ++ post ∧
      Matches r pre.getLast? part post.head? := by
  rw [isMatch, searchFrom_iff]
  constructor
  · rintro (⟨x, hx, -⟩ | ⟨pre, rest, hs, part, post, rfl, h⟩)
    · cases hx
    · rw [Option.or_none] at h
      exact ⟨pre, part, post, hs.trans (List.append_assoc pre part post).symm, h⟩
  · rintro ⟨pre, part, post, hs, h⟩
    refine .inr ⟨pre, part ++ post, hs.trans (List.append_assoc pre part post), part, post, rfl, ?_⟩
    rw [Option.or_none]
    exact h

end DeskPlan.Regex
