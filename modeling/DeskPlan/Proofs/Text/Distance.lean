import DeskPlan.Proofs.Sorting
import DeskPlan.Text.Distance
import Mathlib.Order.Bounds.Defs

/-!
# `DeskPlan.Proofs.Text.Distance`: the least number of edits

An `Edit` puts one character in, takes one out, or exchanges one for another, and `Edits` counts
them. That no way from one text to another has fewer edits than the table of `editDistance` says is
shown in two steps.

* `distance` is the recurrence of the table on the first characters. One edit changes it by one at
  most (`distance_le_of_edit`), so it is not above the number of edits (`Edits.distance_le`); and
  there are as many edits as it says (`edits_distance`).
* A row of the table holds the distances of one text to the beginnings of another, both read
  backwards. `nextRow_eq` makes one row out of the row before, and `distanceRow_eq` the last out of
  the first.

`suggestions_exact` says what the suggestions are: the candidates within the threshold, nearest
first.
-/

set_option autoImplicit false

namespace DeskPlan.Text

/-! ### Edits -/

/-- One edit of a text. -/
inductive Edit : List Char → List Char → Prop where
  | insert (before after : List Char) (c : Char) : Edit (before ++ after) (before ++ c :: after)
  | delete (before after : List Char) (c : Char) : Edit (before ++ c :: after) (before ++ after)
  | substitute (before after : List Char) (c d : Char) :
      Edit (before ++ c :: after) (before ++ d :: after)

/-- So many edits, one after the other, lead from one text to another. -/
inductive Edits : Nat → List Char → List Char → Prop where
  | done (s : List Char) : Edits 0 s s
  | step {n : Nat} {s t u : List Char} (hedit : Edit s t) (h : Edits n t u) : Edits (n + 1) s u

/-- An edit behind a character. -/
theorem Edit.cons {s t : List Char} (h : Edit s t) (c : Char) : Edit (c :: s) (c :: t) := by
  cases h with
  | insert before after d => exact .insert (c :: before) after d
  | delete before after d => exact .delete (c :: before) after d
  | substitute before after d e => exact .substitute (c :: before) after d e

/-- An edit of the text read backwards. -/
theorem Edit.reverse {s t : List Char} (h : Edit s t) : Edit s.reverse t.reverse := by
  cases h with
  | insert before after c => simpa using Edit.insert after.reverse before.reverse c
  | delete before after c => simpa using Edit.delete after.reverse before.reverse c
  | substitute before after c d => simpa using Edit.substitute after.reverse before.reverse c d

theorem Edits.cons {n : Nat} {s t : List Char} (h : Edits n s t) (c : Char) :
    Edits n (c :: s) (c :: t) := by
  induction h with
  | done s => exact .done (c :: s)
  | step hedit h ih => exact .step (hedit.cons c) ih

theorem Edits.reverse {n : Nat} {s t : List Char} (h : Edits n s t) :
    Edits n s.reverse t.reverse := by
  induction h with
  | done s => exact .done s.reverse
  | step hedit h ih => exact .step hedit.reverse ih

theorem edits_reverse_iff {n : Nat} {s t : List Char} :
    Edits n s.reverse t.reverse ↔ Edits n s t :=
  ⟨fun h => by simpa using h.reverse, Edits.reverse⟩

/-! ### The recurrence -/

/-- The distance of two texts by their first characters: one of them is taken out, or one is
exchanged for the other. -/
def distance : List Char → List Char → Nat
  | [], t => t.length
  | _ :: s, [] => s.length + 1
  | c :: s, d :: t =>
    min (min (distance (c :: s) t + 1) (distance s (d :: t) + 1))
      (distance s t + if c = d then 0 else 1)
termination_by s t => s.length + t.length

@[simp] theorem distance_nil_left (t : List Char) : distance [] t = t.length := by
  rw [distance]

@[simp] theorem distance_nil_right (s : List Char) : distance s [] = s.length := by
  cases s with
  | nil => rw [distance]
  | cons c s => rw [distance, List.length_cons]

theorem distance_cons_cons (c d : Char) (s t : List Char) : distance (c :: s) (d :: t) =
    min (min (distance (c :: s) t + 1) (distance s (d :: t) + 1))
      (distance s t + if c = d then 0 else 1) := by
  rw [distance]

theorem distance_self (s : List Char) : distance s s = 0 := by
  induction s with
  | nil => rw [distance_nil_left, List.length_nil]
  | cons c s ih => rw [distance_cons_cons, if_pos rfl, ih, Nat.add_zero, Nat.min_zero]

theorem distance_cons_left_le (c : Char) (s t : List Char) :
    distance (c :: s) t ≤ distance s t + 1 := by
  cases t with
  | nil => simp
  | cons d t => rw [distance_cons_cons]; omega

theorem distance_cons_right_le (d : Char) (s t : List Char) :
    distance s (d :: t) ≤ distance s t + 1 := by
  cases s with
  | nil => simp
  | cons c s => rw [distance_cons_cons]; omega

/-- A character more makes no text nearer by more than one. -/
theorem distance_le_cons_right (d : Char) (s t : List Char) :
    distance s t ≤ distance s (d :: t) + 1 := by
  induction s with
  | nil => simp; omega
  | cons c s ih =>
    have hleft := distance_cons_left_le c s t
    rw [distance_cons_cons]
    omega

/-- Neither does another first character. -/
theorem distance_exchange_le (d e : Char) (s t : List Char) :
    distance s (d :: t) ≤ distance s (e :: t) + 1 := by
  induction s with
  | nil => simp
  | cons c s ih =>
    rw [distance_cons_cons, distance_cons_cons]
    split <;> split <;> omega

/-- What changes the distances by one at most does so behind other characters. -/
theorem distance_append_le {t t' : List Char}
    (h : ∀ s, distance s t ≤ distance s t' + 1) (before : List Char) :
    ∀ s, distance s (before ++ t) ≤ distance s (before ++ t') + 1 := by
  -- The recurrence takes characters from both texts, so the induction is on both.
  induction before with
  | nil => exact h
  | cons d before ih =>
    intro s
    rw [List.cons_append, List.cons_append]
    induction s with
    | nil =>
      have hlength := ih []
      rw [distance_nil_left, distance_nil_left] at hlength ⊢
      rw [List.length_cons, List.length_cons]
      omega
    | cons c s ihs =>
      have hboth := ih (c :: s)
      have hrest := ih s
      rw [distance_cons_cons, distance_cons_cons]
      omega

/-- One edit changes the distances by one at most. -/
theorem distance_le_of_edit {t t' : List Char} (h : Edit t t') :
    ∀ s, distance s t ≤ distance s t' + 1 := by
  cases h with
  | insert before after c =>
    exact distance_append_le (fun s => distance_le_cons_right c s after) before
  | delete before after c =>
    exact distance_append_le (fun s => distance_cons_right_le c s after) before
  | substitute before after c d =>
    exact distance_append_le (fun s => distance_exchange_le c d s after) before

/-- The distance is not above the number of edits. -/
theorem Edits.distance_le {n : Nat} {t s : List Char} (h : Edits n t s) : distance s t ≤ n := by
  induction h with
  | done s => rw [distance_self]
  | step hedit h ih => exact (distance_le_of_edit hedit _).trans (Nat.succ_le_succ ih)

/-- There are as many edits as the distance says. -/
theorem edits_distance (s t : List Char) : Edits (distance s t) t s := by
  induction s generalizing t with
  | nil =>
    rw [distance_nil_left]
    induction t with
    | nil => exact .done []
    | cons d t ih => exact .step (.delete [] t d) ih
  | cons c s ihs =>
    induction t with
    | nil =>
      have hrest := ihs []
      rw [distance_nil_right] at hrest ⊢
      exact .step (.insert [] [] c) (hrest.cons c)
    | cons d t iht =>
      -- The least of the three numbers says which edit comes first.
      rw [distance_cons_cons]
      rcases min_choice (min (distance (c :: s) t + 1) (distance s (d :: t) + 1))
        (distance s t + if c = d then 0 else 1) with hmin | hmin
      · rw [hmin]
        rcases min_choice (distance (c :: s) t + 1) (distance s (d :: t) + 1) with hmin' | hmin'
        · rw [hmin']
          exact .step (.delete [] t d) iht
        · rw [hmin']
          exact .step (.insert [] (d :: t) c) ((ihs (d :: t)).cons c)
      · rw [hmin]
        split
        · rename_i hsame
          subst hsame
          exact (ihs t).cons c
        · exact .step (.substitute [] t d c) ((ihs t).cons c)

/-! ### The table -/

/-- The distances of `s` to `t` with more and more of the characters in front of it. -/
def distancesAlong (s : List Char) : List Char → List Char → List Nat
  | _, [] => []
  | t, d :: ds => distance s (d :: t) :: distancesAlong s (d :: t) ds

/-- One row is made out of the row before. -/
theorem nextRow_eq (c : Char) (s : List Char) (ds : List Char) : ∀ t : List Char,
    nextRow c (distance s t) (distance (c :: s) t) ds (distancesAlong s t ds) =
      distancesAlong (c :: s) t ds := by
  induction ds with
  | nil => intro t; rfl
  | cons d ds ih =>
    intro t
    rw [distancesAlong, distancesAlong, nextRow, ← distance_cons_cons, ih]

/-- The last row is made out of the first. -/
theorem distanceRow_eq (b a : List Char) : ∀ s : List Char,
    distanceRow b a (distance s [] :: distancesAlong s [] b) =
      distance (a.reverse ++ s) [] :: distancesAlong (a.reverse ++ s) [] b := by
  induction a with
  | nil => intro s; rfl
  | cons c a ih =>
    intro s
    have hfirst : distance s [] + 1 = distance (c :: s) [] := by
      rw [distance_nil_right, distance_nil_right, List.length_cons]
    rw [distanceRow, hfirst, nextRow_eq, ih, List.reverse_cons, List.append_assoc,
      List.singleton_append]

/-- The distances of the empty text are the numbers of characters. -/
theorem distancesAlong_nil (b : List Char) : ∀ t : List Char,
    distancesAlong [] t b = List.range' (t.length + 1) b.length := by
  induction b with
  | nil => intro t; rfl
  | cons d b ih =>
    intro t
    rw [distancesAlong, ih, distance_nil_left, List.length_cons, List.length_cons,
      List.range'_succ]

/-- A row ends with the distance to the whole text. -/
theorem getLast?_distancesAlong (s b : List Char) : ∀ t : List Char,
    (distance s t :: distancesAlong s t b).getLast? = some (distance s (b.reverse ++ t)) := by
  induction b with
  | nil => intro t; rfl
  | cons d b ih =>
    intro t
    rw [distancesAlong, List.getLast?_cons_cons, ih, List.reverse_cons, List.append_assoc,
      List.singleton_append]

/-- The table ends with the distance of the two texts read backwards. -/
theorem editDistance_eq (a b : String) :
    editDistance a b = distance a.toList.reverse b.toList.reverse := by
  have hfirst : List.range (b.toList.length + 1) =
      distance [] [] :: distancesAlong [] [] b.toList := by
    rw [distancesAlong_nil, distance_nil_left, List.range_eq_range', List.range'_succ]
    rfl
  rw [editDistance, hfirst, distanceRow_eq, List.append_nil, getLast?_distancesAlong,
    List.append_nil, Option.getD_some]

/-- The edit distance is the least number of edits. -/
theorem isLeast_editDistance (a b : String) :
    IsLeast {n | Edits n b.toList a.toList} (editDistance a b) := by
  rw [editDistance_eq]
  exact ⟨edits_reverse_iff.1 (edits_distance _ _), fun n h => (edits_reverse_iff.2 h).distance_le⟩

theorem editDistance_eq_zero_iff (a b : String) : editDistance a b = 0 ↔ b = a := by
  constructor
  · intro h
    have hnone : Edits 0 b.toList a.toList := h ▸ (isLeast_editDistance a b).1
    generalize hs : b.toList = s at hnone
    generalize ht : a.toList = t at hnone
    cases hnone with
    | done => exact String.toList_inj.1 (hs.trans ht.symm)
  · rintro rfl
    exact Nat.le_zero.1 ((isLeast_editDistance b b).2 (.done b.toList))

/-! ### Suggestions -/

/-- Some number of edits up to `n` leads from one text to the other. -/
def WithinEdits (n : Nat) (s t : String) : Prop := ∃ m ≤ n, Edits m s.toList t.toList

theorem withinEdits_iff {n : Nat} {s t : String} : WithinEdits n s t ↔ editDistance t s ≤ n := by
  constructor
  · rintro ⟨m, hm, h⟩
    exact ((isLeast_editDistance t s).2 h).trans hm
  · exact fun h => ⟨_, h, (isLeast_editDistance t s).1⟩

instance (n : Nat) (s t : String) : Decidable (WithinEdits n s t) :=
  decidable_of_iff _ withinEdits_iff.symm

theorem scoreLE_iff (a b : Nat × String) : scoreLE a b = true ↔ toLex a ≤ toLex b :=
  Sorting.lexTest_iff a b

/-- Scored names that are kept and sorted are names that are kept and sorted by their scores. -/
theorem map_snd_mergeSort (score : String → Nat) (names : List String) (most : Nat) :
    (((names.map fun c => (score c, c)).filter fun s => s.1 ≤ most).mergeSort scoreLE).map
      Prod.snd = (names.filter fun c => score c ≤ most).mergeSort fun c d =>
        scoreLE (score c, c) (score d, d) := by
  have hkept : ((names.map fun c => (score c, c)).filter fun s => s.1 ≤ most) =
      (names.filter fun c => score c ≤ most).map fun c => (score c, c) := List.filter_map
  rw [hkept]
  exact Sorting.map_mergeSort_map (fun _ => rfl) scoreLE _

/-- Names that are kept and sorted by their scores come in order, those of score zero first. -/
theorem sorted_by_score (score : String → Nat) (names : List String) (most : Nat) :
    let found := (names.filter fun c => score c ≤ most).mergeSort fun c d =>
      scoreLE (score c, c) (score d, d)
    (found.Pairwise fun c d => toLex (score c, c) ≤ toLex (score d, d)) ∧
    ∃ front back, found = front ++ back ∧ front.Perm (names.filter fun c => score c = 0) ∧
      ∀ c ∈ back, score c ≠ 0 := by
  intro found
  have hcompares : Sorting.Compares (fun c d => scoreLE (score c, c) (score d, d))
      fun c => toLex (score c, c) := fun c d => scoreLE_iff (score c, c) (score d, d)
  have hsorted : found.Pairwise fun c d => toLex (score c, c) ≤ toLex (score d, d) :=
    hcompares.pairwise_mergeSort _
  have hscores : found.Pairwise fun c d => score c ≤ score d :=
    hsorted.imp fun h => (Prod.Lex.toLex_le_toLex.1 h).elim le_of_lt fun heq => heq.1.le
  have hsplit := Sorting.eq_append_of_pairwise hscores 0
  have hnone : found.filter (score · < 0) = [] := List.filter_eq_nil_iff.2 fun c _ => by simp
  rw [hnone, List.nil_append] at hsplit
  refine ⟨hsorted, _, _, hsplit, ?_, fun c hc => ?_⟩
  · have hfront := (List.mergeSort_perm (names.filter fun c => score c ≤ most) fun c d =>
      scoreLE (score c, c) (score d, d)).filter (score · = 0)
    have hzero : ((names.filter fun c => score c ≤ most).filter (score · = 0)) =
        names.filter fun c => score c = 0 := by
      rw [List.filter_filter]
      refine List.filter_congr fun c _ => ?_
      simp only [← Bool.decide_and, decide_eq_decide]
      omega
    rwa [hzero] at hfront
  · have hpositive : 0 < score c := of_decide_eq_true (List.mem_filter.1 hc).2
    exact hpositive.ne'

/-- The suggestions are the candidates, each as often as it is one, that lead to the name with a
number of edits up to the threshold, case ignored. They come by the least number of edits, and
those of one number by their order. So whatever the threshold is, the candidates that are the name
when case is ignored come first, and all others behind them. -/
theorem suggestions_exact (name : String) (candidates : List String) (threshold : Nat) :
    let found := suggestions name candidates threshold
    (found.Perm (candidates.filter fun c => WithinEdits threshold (lower c) (lower name))) ∧
    (found.Pairwise fun c d => ∃ m n, IsLeast {k | Edits k (lower c).toList (lower name).toList} m ∧
      IsLeast {k | Edits k (lower d).toList (lower name).toList} n ∧ toLex (m, c) ≤ toLex (n, d)) ∧
    ∃ front back, found = front ++ back ∧
      front.Perm (candidates.filter fun c => lower c = lower name) ∧
      ∀ c ∈ back, lower c ≠ lower name := by
  intro found
  have hfound : found =
      (candidates.filter fun c => editDistance (lower name) (lower c) ≤ threshold).mergeSort
        fun c d => scoreLE (editDistance (lower name) (lower c), c)
          (editDistance (lower name) (lower d), d) :=
    map_snd_mergeSort (fun c => editDistance (lower name) (lower c)) candidates threshold
  have hnear : (candidates.filter fun c => editDistance (lower name) (lower c) ≤ threshold) =
      candidates.filter fun c => WithinEdits threshold (lower c) (lower name) :=
    List.filter_congr fun c _ => decide_eq_decide.2 withinEdits_iff.symm
  have hsame : (candidates.filter fun c => editDistance (lower name) (lower c) = 0) =
      candidates.filter fun c => lower c = lower name :=
    List.filter_congr fun c _ => decide_eq_decide.2 (editDistance_eq_zero_iff _ _)
  have hleast : ∀ c, IsLeast {k | Edits k (lower c).toList (lower name).toList}
      (editDistance (lower name) (lower c)) := fun c => isLeast_editDistance _ _
  obtain ⟨hsorted, front, back, hsplit, hfront, hback⟩ :=
    sorted_by_score (fun c => editDistance (lower name) (lower c)) candidates threshold
  rw [← hfound] at hsorted hsplit
  refine ⟨?_, hsorted.imp fun {c d} h => ⟨_, _, hleast c, hleast d, h⟩, front, back, hsplit,
    hsame ▸ hfront, fun c hc h => hback c hc ((editDistance_eq_zero_iff _ _).2 h)⟩
  rw [hfound, ← hnear]
  exact List.mergeSort_perm _ _

/-- Names of monitors of which two are the same when case is ignored. -/
def monitorNames : List String := ["Wain", "Projector", "main", "Main"]

/-- Two letters that are exchanged are two edits. A name that is written in another case stands in
front of one that is an edit away. -/
theorem suggestions_of_monitorNames :
    (suggestions "Mian" monitorNames 2).Perm ["main", "Main"] ∧
    ∃ front back, suggestions "MAIN" monitorNames 1 = front ++ back ∧
      front.Perm ["main", "Main"] ∧ "Wain" ∈ back ∧ lower "Wain" ≠ lower "MAIN" := by
  have hmian : (monitorNames.filter fun c => WithinEdits 2 (lower c) (lower "Mian")) =
      ["main", "Main"] := by decide +kernel
  have hmain : (monitorNames.filter fun c => WithinEdits 1 (lower c) (lower "MAIN")) =
      ["Wain", "main", "Main"] := by decide +kernel
  have hsame : (monitorNames.filter fun c => lower c = lower "MAIN") = ["main", "Main"] := by
    decide +kernel
  obtain ⟨hfound, -, -⟩ := suggestions_exact "Mian" monitorNames 2
  obtain ⟨hfound', -, front, back, hsplit, hfront, hback⟩ := suggestions_exact "MAIN" monitorNames 1
  rw [hmian] at hfound
  rw [hmain, hsplit] at hfound'
  rw [hsame] at hfront
  have hwain : "Wain" ∈ back := by
    have hlisted : "Wain" ∈ front ++ back := hfound'.mem_iff.2 List.mem_cons_self
    rcases List.mem_append.1 hlisted with h | h
    · exact absurd (hfront.subset h) (by decide)
    · exact h
  exact ⟨hfound, front, back, hsplit, hfront, hwain, hback "Wain" hwain⟩

end DeskPlan.Text
