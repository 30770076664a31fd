import DeskPlan.Files.Tree
import DeskPlan.NameMap

/-!
# `DeskPlan.Proofs.Files.Tree`: files that are written

A path is followed through directories only. So setting the content of a file changes the way of no
path, and the file is found where it was written.

* `lookup_insert` says what a location holds after a change of one location;
* `walk_insert`: a change at a location that is no directory changes no way;
* `makeParent_of_find`: above what a path leads to, there is no directory to make;
* `write_of_find`: a file is replaced, and found under the same path with the new content.
-/

set_option autoImplicit false

namespace DeskPlan

/-- The entry is a file that may be read and written, with a text or with bytes that are none. -/
def FileEntry.IsFile : FileEntry → Prop
  | file _ => True
  | unreadable cause => cause = .notText
  | directory => False

namespace FileTree

/-! ### Changing one location -/

theorem lookup_insertEntry (location l : Location) (entry : FileEntry)
    (entries : List (Location × FileEntry)) :
    (insertEntry location entry entries).lookup l =
      if l = location then some entry else entries.lookup l := by
  induction entries with
  | nil => exact NameMap.lookup_entry l location entry []
  | cons e entries ih =>
    obtain ⟨k, old⟩ := e
    rw [insertEntry]
    by_cases hkey : location = k
    · subst hkey
      rw [if_pos rfl, NameMap.lookup_entry, NameMap.lookup_entry]
      split <;> rfl
    · rw [if_neg hkey, NameMap.lookup_entry, NameMap.lookup_entry, ih]
      by_cases h : l = k
      · subst h
        rw [if_pos rfl, if_neg (Ne.symm hkey), if_pos rfl]
      · rw [if_neg h, if_neg h]

/-- Only the location that is changed holds something else than before. -/
theorem lookup_insert (t : FileTree) {location : Location} (h : location ≠ []) (entry : FileEntry)
    (l : Location) :
    FileTree.entry? (t.insert location entry) l =
      if l = location then some entry else t.entry? l := by
  unfold entry?
  cases l with
  | nil => rw [if_neg (Ne.symm h)]; rfl
  | cons name l => exact lookup_insertEntry location (name :: l) entry t.entries

/-- The root is a directory. -/
theorem ne_root_of_lookup {t : FileTree} {location : Location} {entry : FileEntry}
    (h : t.entry? location = some entry) (hentry : entry ≠ .directory) : location ≠ [] := by
  rintro rfl
  exact hentry (Option.some.inj h).symm

/-- No way leads through a file, so a path leads where it did before a file was changed. -/
theorem walk_insert {t : FileTree} {location : Location} {old entry : FileEntry}
    (h : t.entry? location = some old) (hold : old ≠ .directory) (hentry : entry ≠ .directory)
    (start : Location) (steps : List PathStep) :
    (t.insert location entry).walk start steps = t.walk start steps := by
  have hroot := ne_root_of_lookup h hold
  induction steps generalizing start with
  | nil => rfl
  | cons s steps ih =>
    -- Neither tree lets a step leave the file.
    rw [walk, walk, lookup_insert t hroot]
    by_cases hhere : start = location
    · subst hhere
      rw [if_pos rfl, h]
      cases old <;> cases entry <;> first | rfl | contradiction
    · rw [if_neg hhere]
      cases t.entry? start with
      | none => rfl
      | some e =>
        cases e with
        | directory => exact ih _
        | file content => rfl
        | unreadable cause => rfl

/-! ### What a path leads to -/

/-- What is found is held by the location that the path leads to. A file is found only where no
directory is asked for. -/
theorem locate_of_find {t : FileTree} {path : String} {entry : FileEntry}
    (h : t.find path = .ok entry) :
    ∃ location, t.locate path = .ok location ∧ t.entry? location = some entry ∧
      (entry ≠ .directory → asksDirectory path = false) := by
  unfold find at h
  cases hlocate : t.locate path with
  | error e => simp [hlocate] at h
  | ok location =>
    rw [hlocate] at h
    dsimp only at h
    refine ⟨location, rfl, ?_⟩
    cases hentry : t.entry? location with
    | none => simp [hentry] at h
    | some e =>
      cases e <;> cases hasks : asksDirectory path <;> simp_all

/-- A file is found where a path leads that asks for no directory. -/
theorem find_of_locate {t : FileTree} {path : String} {location : Location} {entry : FileEntry}
    (hlocate : t.locate path = .ok location) (hentry : t.entry? location = some entry)
    (hasks : asksDirectory path = false) : t.find path = .ok entry := by
  rw [find, hlocate]
  dsimp only
  rw [hentry, hasks]
  cases entry <;> rfl

/-- The directories along a way are there. -/
theorem makeAlong_of_walk {t : FileTree} {start location : Location} {steps : List PathStep}
    (h : t.walk start steps = .ok location) : t.makeAlong start steps.dropLast = .ok t := by
  induction steps generalizing start with
  | nil => rfl
  | cons s steps ih =>
    have hrest : t.walk (step start s) steps = .ok location := by
      rw [walk] at h
      split at h <;> first | exact h | cases h
    cases steps with
    | nil => rfl
    | cons next steps =>
      -- The way goes on from here.
      have hdirectory : t.entry? (step start s) = some .directory := by
        rw [walk] at hrest
        split at hrest <;> first | assumption | cases hrest
      rw [List.dropLast_cons_cons, makeAlong, hdirectory]
      exact ih hrest

theorem makeParent_of_find {t : FileTree} {path : String} {entry : FileEntry}
    (h : t.find path = .ok entry) : t.makeParent path = .ok t := by
  obtain ⟨location, hlocate, -⟩ := locate_of_find h
  unfold locate at hlocate
  split at hlocate
  · cases hlocate
  · exact makeAlong_of_walk hlocate

/-- A file that is found is replaced, and found again with the new content. -/
theorem write_of_find {t : FileTree} {path : String} {entry : FileEntry}
    (h : t.find path = .ok entry) (hfile : entry.IsFile) (content : String) :
    ∃ t', t.write path content = .ok t' ∧ t'.find path = .ok (.file content) := by
  have hdirectory : entry ≠ .directory := fun he => by simp [he, FileEntry.IsFile] at hfile
  have hdenied : entry ≠ .unreadable .denied := fun he => by simp [he, FileEntry.IsFile] at hfile
  obtain ⟨location, hlocate, hentry, hasks⟩ := locate_of_find h
  have hcontent : FileEntry.file content ≠ .directory := nofun
  have hwalk := walk_insert hentry hdirectory hcontent t.current (Path.steps path)
  have hlocate' : (t.insert location (.file content)).locate path = .ok location := by
    rw [← hlocate]
    unfold locate
    split
    · rfl
    · exact hwalk
  have hentry' : FileTree.entry? (t.insert location (.file content)) location =
      some (.file content) := by
    rw [lookup_insert t (ne_root_of_lookup hentry hdirectory), if_pos rfl]
  refine ⟨t.insert location (.file content), ?_, find_of_locate hlocate' hentry' (hasks hdirectory)⟩
  rw [write, hlocate]
  dsimp only
  rw [hentry, hasks hdirectory]
  cases entry with
  | directory => exact absurd rfl hdirectory
  | file old => rfl
  | unreadable cause => simp [hdenied]

end FileTree

end DeskPlan
