import DeskPlan.Proofs.Files.Path
import DeskPlan.Proofs.Files.Tree
import DeskPlan.Proofs.NameMap

/-!
# `DeskPlan.Proofs.Files.Listing`: the files that lie in a directory

A `FileTree` is a list of places with what they hold. It stands for files and directories if no
place is listed twice and the places are reached by names that files can have
(`FileTree.WellFormed`); a tree is built by changes that keep this (`wellFormed_empty`,
`WellFormed.insert`).

In such a tree, listing a directory and following a path agree:

* `mem_fileNames_iff`: the names listed for a directory are those under which a file lies in it;
* `find_join`: the path that joins a directory and such a name leads to the file.

What a path leads to does not depend on the order in which the places are listed (`entry?_perm`,
`locate_perm`).
-/

set_option autoImplicit false

namespace DeskPlan.FileTree

/-! ### Trees of files and directories -/

/-- No place is listed twice, and every name on the way to a place is one that a file can have. -/
structure WellFormed (t : FileTree) : Prop where
  distinct : (t.entries.map Prod.fst).Nodup
  named : ∀ e ∈ t.entries, ∀ name ∈ e.1, Path.IsName name

theorem wellFormed_empty (current : Location) : WellFormed ⟨[], current⟩ where
  distinct := List.nodup_nil
  named _ he := absurd he List.not_mem_nil

/-- Setting a place lists it once more only if it was not listed. -/
theorem map_fst_insertEntry (location : Location) (entry : FileEntry)
    (entries : List (Location × FileEntry)) :
    (insertEntry location entry entries).map Prod.fst =
      if location ∈ entries.map Prod.fst then entries.map Prod.fst
      else entries.map Prod.fst ++ [location] := by
  induction entries with
  | nil => rfl
  | cons e rest ih =>
    obtain ⟨place, old⟩ := e
    rw [insertEntry]
    by_cases hhere : location = place
    · subst hhere
      simp
    · rw [if_neg hhere, List.map_cons, List.map_cons, ih]
      by_cases hrest : location ∈ rest.map Prod.fst
      · rw [if_pos hrest, if_pos (List.mem_cons_of_mem place hrest)]
      · have hnew : location ∉ place :: rest.map Prod.fst :=
          List.not_mem_cons_of_ne_of_not_mem hhere hrest
        rw [if_neg hrest, if_neg hnew, List.cons_append]

theorem WellFormed.insert {t : FileTree} (h : t.WellFormed) {location : Location}
    (hlocation : ∀ name ∈ location, Path.IsName name) (entry : FileEntry) :
    WellFormed (t.insert location entry) := by
  have hplaces := map_fst_insertEntry location entry t.entries
  constructor
  · show ((insertEntry location entry t.entries).map Prod.fst).Nodup
    rw [hplaces]
    split
    · exact h.distinct
    · rename_i hnew
      exact h.distinct.append (List.nodup_singleton location) (by simpa using hnew)
  · intro e he
    have hmem : e.1 ∈ (insertEntry location entry t.entries).map Prod.fst := List.mem_map_of_mem he
    rw [hplaces] at hmem
    have hcases : e.1 ∈ t.entries.map Prod.fst ∨ e.1 = location := by
      split at hmem
      · exact .inl hmem
      · simpa using hmem
    rcases hcases with hold | hnew
    · obtain ⟨e', he', hplace⟩ := List.mem_map.1 hold
      exact hplace ▸ h.named e' he'
    · exact hnew ▸ hlocation

/-- The tree after places are set one after the other. -/
def setAll (t : FileTree) (entries : List (Location × FileEntry)) : FileTree :=
  entries.foldl (fun t e => t.insert e.1 e.2) t

theorem WellFormed.setAll {t : FileTree} (h : t.WellFormed) {entries : List (Location × FileEntry)}
    (hnamed : ∀ e ∈ entries, ∀ name ∈ e.1, Path.IsName name) : (t.setAll entries).WellFormed := by
  induction entries generalizing t with
  | nil => exact h
  | cons e rest ih =>
    obtain ⟨hfirst, hrest⟩ := List.forall_mem_cons.1 hnamed
    exact ih (h.insert hfirst e.2) hrest

/-- In a well-formed tree a place below the root holds what it is listed with. -/
theorem WellFormed.entry?_eq_some_iff {t : FileTree} (h : t.WellFormed) {location : Location}
    (hroot : location ≠ []) (entry : FileEntry) :
    t.entry? location = some entry ↔ (location, entry) ∈ t.entries := by
  unfold entry?
  rw [if_neg (by simpa using hroot)]
  exact NameMap.lookup_eq_some_iff h.distinct

/-! ### The order of the places -/

theorem WellFormed.perm {t t' : FileTree} (h : t.WellFormed)
    (hentries : t'.entries.Perm t.entries) : t'.WellFormed where
  distinct := (hentries.map Prod.fst).nodup_iff.2 h.distinct
  named e he := h.named e (hentries.mem_iff.1 he)

/-- What the places hold does not depend on the order in which they are listed. -/
theorem entry?_perm {t t' : FileTree} (h : t.WellFormed) (hentries : t'.entries.Perm t.entries)
    (location : Location) : t'.entry? location = t.entry? location := by
  unfold entry?
  split
  · rfl
  · ext entry
    rw [NameMap.lookup_eq_some_iff h.distinct,
      NameMap.lookup_eq_some_iff (h.perm hentries).distinct, hentries.mem_iff]

theorem walk_congr {t t' : FileTree} (h : ∀ location, t'.entry? location = t.entry? location)
    (location : Location) (steps : List PathStep) :
    t'.walk location steps = t.walk location steps := by
  induction steps generalizing location with
  | nil => rfl
  | cons s steps ih =>
    rw [walk, walk, h]
    cases t.entry? location with
    | none => rfl
    | some entry => cases entry <;> first | rfl | exact ih _

theorem locate_perm {t t' : FileTree} (h : t.WellFormed) (hentries : t'.entries.Perm t.entries)
    (hcurrent : t'.current = t.current) (path : String) : t'.locate path = t.locate path := by
  rw [locate, locate, hcurrent, walk_congr (entry?_perm h hentries)]

/-! ### Directories and what lies in them -/

theorem isDirectory_iff (t : FileTree) (path : String) : t.isDirectory path = true ↔
    ∃ location, t.locate path = .ok location ∧ t.entry? location = some .directory := by
  unfold isDirectory find
  cases t.locate path with
  | error e => simp
  | ok location =>
    cases hentry : t.entry? location with
    | none => simp [hentry]
    | some entry => cases entry <;> cases asksDirectory path <;> simp [hentry]

/-- The names that are listed for a directory are those of the files in it. -/
theorem mem_fileNames_iff (t : FileTree) (location : Location) (name : String) :
    name ∈ t.fileNames location ↔
      ∃ entry, (location ++ [name], entry) ∈ t.entries ∧ entry ≠ .directory := by
  have hplace : ∀ place : Location, place.dropLast = location ∧ place.getLast? = some name ↔
      place = location ++ [name] := by
    intro place
    constructor
    · rintro ⟨rfl, hlast⟩
      exact (List.dropLast_append_getLast? name hlast).symm
    · rintro rfl
      exact ⟨List.dropLast_concat, List.getLast?_concat⟩
  unfold fileNames
  rw [List.mem_filterMap]
  constructor
  · rintro ⟨⟨place, entry⟩, hmem, hname⟩
    cases entry with
    | directory => cases hname
    | _ =>
      split at hname
      · cases hname
      · rw [Option.ite_none_right_eq_some] at hname
        rw [(hplace place).1 hname] at hmem
        exact ⟨_, hmem, nofun⟩
  · rintro ⟨entry, hmem, hfile⟩
    obtain ⟨hdirectory, hname⟩ := (hplace (location ++ [name])).2 rfl
    refine ⟨_, hmem, ?_⟩
    cases entry with
    | directory => exact absurd rfl hfile
    | _ => exact (if_pos hdirectory).trans hname

/-- A way that goes on from where another one ends. -/
theorem walk_append {t : FileTree} {start location : Location} {steps : List PathStep}
    (h : t.walk start steps = .ok location) (rest : List PathStep) :
    t.walk start (steps ++ rest) = t.walk location rest := by
  induction steps generalizing start with
  | nil =>
    cases h
    rfl
  | cons s steps ih =>
    rw [List.cons_append, walk]
    rw [walk] at h
    split at h <;> first | exact ih h | cases h

/-- A name in a directory leads to the place under this name. -/
theorem locate_join {t : FileTree} {directory name : String} {location : Location}
    (hname : Path.IsName name) (hlocate : t.locate directory = .ok location)
    (hdirectory : t.entry? location = some .directory) :
    t.locate (Path.join directory name) = .ok (location ++ [name]) := by
  have hne : Path.join directory name ≠ "" := by
    intro hempty
    have hsteps := Path.steps_join hname directory
    rw [hempty] at hsteps
    exact absurd hsteps.symm (List.append_ne_nil_of_right_ne_nil _ (List.cons_ne_nil _ _))
  rw [locate, if_neg (by simpa using hne), Path.steps_join hname]
  unfold locate at hlocate
  split at hlocate
  · cases hlocate
  · rw [walk_append hlocate, walk, hdirectory]
    rfl

/-- A file in a directory is found by the path that joins the two. -/
theorem find_join {t : FileTree} {directory name : String} {location : Location} {entry : FileEntry}
    (hname : Path.IsName name) (hlocate : t.locate directory = .ok location)
    (hdirectory : t.entry? location = some .directory)
    (hentry : t.entry? (location ++ [name]) = some entry) :
    t.find (Path.join directory name) = .ok entry := by
  refine find_of_locate (locate_join hname hlocate hdirectory) hentry ?_
  rw [asksDirectory, Path.getLast?_pieces_join hname]
  simp [hname.not_empty, hname.not_here]

end DeskPlan.FileTree
