import DeskPlan.Files.Path
import DeskPlan.Proofs.Sorting
import DeskPlan.Proofs.Text.Blank
import Mathlib.Data.List.Lex
import Mathlib.Data.List.Sort

/-!
# `DeskPlan.Proofs.Files.Path`: paths in order, and paths of names in directories

The order of paths is the lexicographic order of their steps, so the steps are the key by which
paths are sorted (`compares_le`). Sorting brings paths with the same steps together, and of such
neighbours one is kept. Up to their steps the sorted paths are therefore the paths that were
given, each once:

* `increasing_sorted`: the steps of the sorted paths increase strictly;
* `mem_map_steps_sorted`: they are the steps of the paths given;
* `map_steps_sorted_congr`: they have one order, so they are the same if they are the same steps.

A name that a file can have (`IsName`) is one step. Behind a directory it adds this step, however
the directory is spelled (`steps_join`).
-/

set_option autoImplicit false

namespace DeskPlan

/-- A text ends with another one that stands behind the rest of it. -/
theorem Text.endsWith_iff {s last : String} :
    s.endsWith last = true ↔ ∃ front, s = front ++ last := by
  rw [String.endsWith, String.Slice.endsWith_string_iff, String.copy_toSlice]
  constructor
  · rintro ⟨front, hfront⟩
    refine ⟨String.ofList front, String.toList_inj.1 ?_⟩
    rw [String.toList_append, String.toList_ofList, hfront]
  · rintro ⟨front, rfl⟩
    rw [String.toList_append]
    exact List.suffix_append front.toList last.toList

namespace PathStep

/-! ### The order of the steps -/

/-- The name of a step that is one. -/
def text : PathStep → String
  | name s => s
  | _ => ""

/-- The place of a step among all steps: the root, the current directory and the way up come before
the names, and the names are in the order of their characters. -/
def place (s : PathStep) : ℕ ×ₗ String := toLex (s.rank, s.text)

theorem place_injective : Function.Injective place := by
  intro a b h
  have hpair : (a.rank, a.text) = (b.rank, b.text) := toLex.injective h
  cases a <;> cases b <;> simp_all [rank, text]

instance : LinearOrder PathStep := LinearOrder.lift' place place_injective

theorem lt_iff (a b : PathStep) : a < b ↔ a.rank < b.rank ∨ a.rank = b.rank ∧ a.text < b.text :=
  Prod.Lex.toLex_lt_toLex

theorem before_iff (a b : PathStep) : a.before b = true ↔ a < b := by
  rw [lt_iff]
  cases a <;> cases b <;> simp [before, rank, text]

end PathStep

namespace Path

/-! ### The order of the paths -/

/-- Steps are compared one after the other. -/
theorem stepsLE_iff (as bs : List PathStep) : stepsLE as bs = true ↔ as ≤ bs := by
  rw [← not_lt]
  induction as generalizing bs with
  | nil => exact iff_of_true rfl (List.not_lt_nil bs)
  | cons a as ih =>
    cases bs with
    | nil => exact iff_of_false Bool.false_ne_true (not_not_intro (List.nil_lt_cons a as))
    | cons b bs =>
      rw [stepsLE, Bool.or_eq_true, Bool.and_eq_true, PathStep.before_iff, decide_eq_true_iff, ih,
        List.cons_lt_cons_iff]
      rcases lt_trichotomy a b with hlt | rfl | hgt
      · simp [hlt, hlt.not_gt, hlt.ne']
      · simp
      · simp [hgt, hgt.not_gt, hgt.ne']

/-- Paths are sorted by their steps. -/
theorem compares_le : Sorting.Compares le steps := fun a b => stepsLE_iff (steps a) (steps b)

theorem same_iff (a b : String) : same a b = true ↔ steps a = steps b := decide_eq_true_iff

/-! ### Neighbours that are the same -/

/-- Up to their steps, nothing is lost with a path that is the same as the one before. -/
theorem mem_map_steps_distinctAfter (last : String) (paths : List String) (s : List PathStep) :
    s ∈ (last :: distinctAfter last paths).map steps ↔ s ∈ (last :: paths).map steps := by
  induction paths generalizing last with
  | nil => rfl
  | cons p paths ih =>
    rw [distinctAfter]
    split
    · rename_i hsame
      rw [ih last, List.map_cons, List.map_cons, List.map_cons, ← (same_iff last p).1 hsame]
      simp
    · rw [List.map_cons, List.mem_cons, ih p]
      simp

/-- Where the steps are in order, they increase strictly once neighbours that are the same are left
out. -/
theorem increasing_distinctAfter {last : String} {paths : List String}
    (h : (last :: paths).Pairwise fun a b => steps a ≤ steps b) :
    (last :: distinctAfter last paths).Pairwise fun a b => steps a < steps b := by
  induction paths generalizing last with
  | nil => exact List.pairwise_singleton _ _
  | cons p paths ih =>
    obtain ⟨hlast, hrest⟩ := List.pairwise_cons.1 h
    rw [distinctAfter]
    split
    · exact ih (List.pairwise_cons.2 ⟨fun q hq => hlast q (List.mem_cons_of_mem p hq),
        (List.pairwise_cons.1 hrest).2⟩)
    · rename_i hdiffers
      have hlt : steps last < steps p := lt_of_le_of_ne (hlast p List.mem_cons_self) fun heq =>
        hdiffers ((same_iff last p).2 heq)
      have hkept := ih hrest
      refine List.pairwise_cons.2 ⟨fun q hq => ?_, hkept⟩
      rcases List.mem_cons.1 hq with rfl | hq
      · exact hlt
      · exact hlt.trans ((List.pairwise_cons.1 hkept).1 q hq)

theorem sublist_distinctAfter (last : String) (paths : List String) :
    (distinctAfter last paths).Sublist paths := by
  induction paths generalizing last with
  | nil => exact List.Sublist.slnil
  | cons p paths ih =>
    rw [distinctAfter]
    split
    · exact (ih last).cons p
    · exact (ih p).cons_cons p

/-! ### Sorted paths -/

/-- The steps of sorted paths increase strictly, so no two of them are the same path. -/
theorem increasing_sorted (paths : List String) :
    (sorted paths).Pairwise fun a b => steps a < steps b := by
  have hordered := compares_le.pairwise_mergeSort paths
  unfold sorted
  cases hsorted : paths.mergeSort le with
  | nil => exact List.Pairwise.nil
  | cons p rest => exact increasing_distinctAfter (hsorted ▸ hordered)

/-- Up to their steps, the sorted paths are the paths. -/
theorem mem_map_steps_sorted (paths : List String) (s : List PathStep) :
    s ∈ (sorted paths).map steps ↔ s ∈ paths.map steps := by
  rw [← ((List.mergeSort_perm paths le).map steps).mem_iff]
  unfold sorted
  cases paths.mergeSort le with
  | nil => rfl
  | cons p rest => exact mem_map_steps_distinctAfter p rest s

/-- Sorting adds no path. -/
theorem mem_of_mem_sorted {paths : List String} {p : String} (h : p ∈ sorted paths) :
    p ∈ paths := by
  rw [← (List.mergeSort_perm paths le).mem_iff]
  unfold sorted at h
  cases hsorted : paths.mergeSort le with
  | nil =>
    rw [hsorted] at h
    cases h
  | cons q rest =>
    rw [hsorted] at h
    exact ((sublist_distinctAfter q rest).cons_cons q).mem h

/-- Sorted paths that are the same up to their spelling have the same steps in the same order. -/
theorem map_steps_sorted_congr {paths paths' : List String}
    (h : ∀ s, s ∈ (sorted paths).map steps ↔ s ∈ (sorted paths').map steps) :
    (sorted paths).map steps = (sorted paths').map steps := by
  have hincreasing : ∀ paths, ((sorted paths).map steps).Pairwise (· < ·) := fun paths =>
    List.pairwise_map.2 (increasing_sorted paths)
  exact (hincreasing paths).eq_of_mem_iff (hincreasing paths') h

/-! ### Names in directories -/

/-- The text is a name that a file can have. -/
structure IsName (s : String) : Prop where
  not_empty : s ≠ ""
  not_here : s ≠ "."
  not_up : s ≠ ".."
  no_slash : '/' ∉ s.toList

instance (s : String) : Decidable (IsName s) :=
  decidable_of_iff (s ≠ "" ∧ s ≠ "." ∧ s ≠ ".." ∧ '/' ∉ s.toList)
    ⟨fun ⟨hempty, hhere, hup, hslash⟩ => ⟨hempty, hhere, hup, hslash⟩,
      fun h => ⟨h.not_empty, h.not_here, h.not_up, h.no_slash⟩⟩

theorem IsName.pieces {name : String} (h : IsName name) : Text.pieces '/' name = [name] := by
  rw [Text.pieces, Text.cut_eq_splitOn, List.splitOn_eq_singleton h.no_slash, List.map_singleton,
    String.ofList_toList]

theorem IsName.ofPiece {name : String} (h : IsName name) :
    PathStep.ofPiece name = some (.name name) := by
  simp [PathStep.ofPiece, h.not_empty, h.not_here, h.not_up]

theorem pieces_slash (directory path : String) : Text.pieces '/' (directory ++ "/" ++ path) =
    Text.pieces '/' directory ++ Text.pieces '/' path := by
  have hchars : (directory ++ "/" ++ path).toList = directory.toList ++ '/' :: path.toList := by
    simp
  simp only [Text.pieces, hchars, Text.cut_eq_splitOn, List.splitOn_append_cons_self,
    List.map_append]

/-- Only the first character says whether a path starts at the root. -/
theorem isAbsolute_append {path : String} (h : path ≠ "") (rest : String) :
    isAbsolute (path ++ rest) = isAbsolute path := by
  rw [Bool.eq_iff_iff, isAbsolute, isAbsolute, String.startsWith_string_iff,
    String.startsWith_string_iff, String.toList_append]
  cases hchars : path.toList with
  | nil => exact absurd (String.toList_eq_nil_iff.1 hchars) h
  | cons c chars => simp

/-- What stands behind a slash is not the first piece. -/
theorem head?_pieces_slash (directory path : String) :
    (Text.pieces '/' (directory ++ "/" ++ path)).head? = (Text.pieces '/' directory).head? := by
  rw [pieces_slash, List.head?_append_of_ne_nil]
  exact fun hnil => Text.cut_ne_nil _ _ (List.map_eq_nil_iff.1 hnil)

theorem head?_pieces_concat_slash (directory : String) :
    (Text.pieces '/' (directory ++ "/")).head? = (Text.pieces '/' directory).head? := by
  have hhead := head?_pieces_slash directory ""
  rwa [String.append_empty] at hhead

/-- Behind a slash at the end there is an empty piece, which does not count. -/
theorem filterMap_pieces_concat_slash (directory : String) :
    (Text.pieces '/' (directory ++ "/")).filterMap PathStep.ofPiece =
      (Text.pieces '/' directory).filterMap PathStep.ofPiece := by
  have hpieces := pieces_slash directory ""
  have hempty : (Text.pieces '/' "").filterMap PathStep.ofPiece = [] := rfl
  rw [String.append_empty] at hpieces
  rw [hpieces, List.filterMap_append, hempty, List.append_nil]

/-- A slash at the end adds no step. -/
theorem steps_concat_slash {directory : String} (h : directory ≠ "") :
    steps (directory ++ "/") = steps directory := by
  rw [steps, steps, start, start, head?_pieces_concat_slash, isAbsolute_append h,
    filterMap_pieces_concat_slash]

/-- What stands behind a slash adds its own steps. -/
theorem steps_slash (directory path : String) : steps (directory ++ "/" ++ path) =
    steps (directory ++ "/") ++ (Text.pieces '/' path).filterMap PathStep.ofPiece := by
  have hne : directory ++ "/" ≠ "" := by simp
  rw [steps, steps, start, start, head?_pieces_slash, head?_pieces_concat_slash,
    isAbsolute_append hne, pieces_slash, List.filterMap_append, filterMap_pieces_concat_slash,
    List.append_assoc]

theorem IsName.not_isAbsolute {name : String} (h : IsName name) : isAbsolute name = false := by
  rw [isAbsolute, String.startsWith_string_eq_false_iff]
  exact fun hstarts => h.no_slash (hstarts.subset List.mem_cons_self)

/-- A name is put behind a directory with one slash between them. -/
theorem join_cases {name : String} (h : IsName name) (directory : String) :
    (directory = "" ∧ join directory name = name) ∨
    (∃ front, directory = front ++ "/" ∧ join directory name = front ++ "/" ++ name) ∨
    directory ≠ "" ∧ join directory name = directory ++ "/" ++ name := by
  rw [join, h.not_isAbsolute, Bool.false_or]
  by_cases hempty : directory = ""
  · exact .inl ⟨hempty, by simp [hempty]⟩
  · rw [if_neg (by simpa using hempty)]
    split
    · rename_i hslash
      obtain ⟨front, rfl⟩ := Text.endsWith_iff.1 hslash
      exact .inr (.inl ⟨front, rfl, rfl⟩)
    · exact .inr (.inr ⟨hempty, rfl⟩)

/-- However a directory is spelled, a name in it is one step more. -/
theorem steps_join {name : String} (h : IsName name) (directory : String) :
    steps (join directory name) = steps directory ++ [.name name] := by
  have hname : (Text.pieces '/' name).filterMap PathStep.ofPiece = [.name name] := by
    rw [h.pieces, List.filterMap_cons, h.ofPiece, List.filterMap_nil]
  rcases join_cases h directory with ⟨rfl, hjoin⟩ | ⟨front, rfl, hjoin⟩ | ⟨hne, hjoin⟩
  · have hstart : start name = [] := by simp [start, h.not_isAbsolute, h.pieces, h.not_here]
    rw [hjoin, steps, hstart, hname]
    rfl
  · rw [hjoin, steps_slash, hname]
  · rw [hjoin, steps_slash, hname, steps_concat_slash hne]

/-- The name is the last piece of the path. -/
theorem getLast?_pieces_join {name : String} (h : IsName name) (directory : String) :
    (Text.pieces '/' (join directory name)).getLast? = some name := by
  rcases join_cases h directory with ⟨-, hjoin⟩ | ⟨front, -, hjoin⟩ | ⟨-, hjoin⟩
  · rw [hjoin, h.pieces, List.getLast?_singleton]
  · rw [hjoin, pieces_slash, h.pieces, List.getLast?_concat]
  · rw [hjoin, pieces_slash, h.pieces, List.getLast?_concat]

end Path

end DeskPlan
