import DeskPlan.Blueprint.Store
import DeskPlan.Proofs.Files.Listing

/-!
# `DeskPlan.Proofs.Blueprint.Discovery`: which blueprint files are found

`Blueprint.findFiles` lists every directory it is given, joins each name with the directory as it
is spelled, and sorts the paths. So one file can come up several times: its directory may be given
twice, or in two spellings. `FileAmong` says of the steps of a path that they lead to a blueprint
file in one of the directories, without listing, joining or sorting anything.

* `mem_filesIn_iff`: the paths of the files in one directory;
* `mem_map_steps_found`: the steps of all of them are those of `FileAmong`;
* `findFiles_exact`: each file is found once, in the order of the steps, whatever the order of the
  directories and of the places in the tree.
-/

set_option autoImplicit false

namespace DeskPlan

/-- The entry lies directly in an existing directory, under the name. -/
def FileTree.LiesIn (t : FileTree) (directory name : String) (entry : FileEntry) : Prop :=
  ∃ location, t.locate directory = .ok location ∧ t.entry? location = some .directory ∧
    t.entry? (location ++ [name]) = some entry

namespace Blueprint

/-- The steps lead to a blueprint file that lies directly in one of the directories. -/
def FileAmong (files : FileTree) (directories : List String) (steps : List PathStep) : Prop :=
  ∃ directory ∈ directories, ∃ stem entry,
    files.LiesIn directory (stem ++ fileSuffix) entry ∧ entry ≠ .directory ∧
      steps = Path.steps directory ++ [.name (stem ++ fileSuffix)]

section
variable {files : FileTree} (h : files.WellFormed)
include h

/-- What lies in a directory has a name that files can have. -/
theorem isName_of_liesIn {directory name : String} {entry : FileEntry}
    (hlies : files.LiesIn directory name entry) : Path.IsName name := by
  obtain ⟨location, -, -, hentry⟩ := hlies
  have hmem := (h.entry?_eq_some_iff (List.concat_ne_nil name location) entry).1 hentry
  exact h.named _ hmem name (List.mem_append_right location List.mem_cons_self)

/-- The paths of an existing directory are those of the blueprint files that lie in it. -/
theorem mem_filesIn_iff (directory path : String) :
    files.isDirectory directory = true ∧ path ∈ filesIn files directory ↔
      ∃ stem entry, files.LiesIn directory (stem ++ fileSuffix) entry ∧ entry ≠ .directory ∧
        path = Path.join directory (stem ++ fileSuffix) := by
  rw [FileTree.isDirectory_iff]
  constructor
  · rintro ⟨⟨location, hlocate, hdirectory⟩, hpath⟩
    rw [filesIn, hlocate] at hpath
    obtain ⟨name, hname, rfl⟩ := List.mem_map.1 hpath
    obtain ⟨hlisted, hsuffix⟩ := List.mem_filter.1 hname
    obtain ⟨stem, rfl⟩ := Text.endsWith_iff.1 hsuffix
    obtain ⟨entry, hentry, hfile⟩ := (files.mem_fileNames_iff location _).1 hlisted
    refine ⟨stem, entry, ⟨location, hlocate, hdirectory, ?_⟩, hfile, rfl⟩
    exact (h.entry?_eq_some_iff (List.concat_ne_nil _ location) entry).2 hentry
  · rintro ⟨stem, entry, ⟨location, hlocate, hdirectory, hentry⟩, hfile, rfl⟩
    refine ⟨⟨location, hlocate, hdirectory⟩, ?_⟩
    have hlisted := (files.mem_fileNames_iff location (stem ++ fileSuffix)).2
      ⟨entry, (h.entry?_eq_some_iff (List.concat_ne_nil _ location) entry).1 hentry, hfile⟩
    rw [filesIn, hlocate]
    exact List.mem_map_of_mem (List.mem_filter.2 ⟨hlisted, Text.endsWith_iff.2 ⟨stem, rfl⟩⟩)

/-- The paths of all directories are those of the blueprint files that lie in one of them. -/
theorem mem_found_iff (directories : List String) (path : String) :
    path ∈ (directories.filter files.isDirectory).flatMap (filesIn files) ↔
      ∃ directory ∈ directories, ∃ stem entry,
        files.LiesIn directory (stem ++ fileSuffix) entry ∧ entry ≠ .directory ∧
          path = Path.join directory (stem ++ fileSuffix) := by
  simp only [List.mem_flatMap, List.mem_filter, and_assoc, mem_filesIn_iff h]

/-- Up to the spelling, these are the steps that lead to a blueprint file in one of them. -/
theorem mem_map_steps_found (directories : List String) (steps : List PathStep) :
    steps ∈ (findFiles directories files).map Path.steps ↔ FileAmong files directories steps := by
  rw [findFiles, Path.mem_map_steps_sorted, List.mem_map]
  constructor
  · rintro ⟨path, hpath, rfl⟩
    obtain ⟨directory, hdirectory, stem, entry, hlies, hfile, rfl⟩ :=
      (mem_found_iff h directories path).1 hpath
    exact ⟨directory, hdirectory, stem, entry, hlies, hfile,
      Path.steps_join (isName_of_liesIn h hlies) directory⟩
  · rintro ⟨directory, hdirectory, stem, entry, hlies, hfile, rfl⟩
    exact ⟨_, (mem_found_iff h directories _).2
      ⟨directory, hdirectory, stem, entry, hlies, hfile, rfl⟩,
      Path.steps_join (isName_of_liesIn h hlies) directory⟩

/-- A path that is found leads to a file. -/
theorem find_of_mem_findFiles {directories : List String} {path : String}
    (hpath : path ∈ findFiles directories files) :
    ∃ entry, files.find path = .ok entry ∧ entry ≠ .directory := by
  obtain ⟨directory, -, stem, entry, hlies, hfile, rfl⟩ :=
    (mem_found_iff h directories path).1 (Path.mem_of_mem_sorted hpath)
  have hname := isName_of_liesIn h hlies
  obtain ⟨location, hlocate, hdirectory, hentry⟩ := hlies
  exact ⟨entry, FileTree.find_join hname hlocate hdirectory hentry, hfile⟩

/-- The order of the places in the tree does not matter, nor the order of the directories and how
often they are given. -/
theorem fileAmong_congr {directories directories' : List String}
    (hdirectories : ∀ d, d ∈ directories' ↔ d ∈ directories) {files' : FileTree}
    (hentries : files'.entries.Perm files.entries) (hcurrent : files'.current = files.current)
    (steps : List PathStep) :
    FileAmong files' directories' steps ↔ FileAmong files directories steps := by
  simp only [FileAmong, FileTree.LiesIn, hdirectories, FileTree.locate_perm h hentries hcurrent,
    FileTree.entry?_perm h hentries]

end

/-- A directory that does not exist adds nothing. -/
theorem findFiles_missing {files : FileTree} {directory : String}
    (hmissing : files.isDirectory directory = false) (before after : List String) :
    findFiles (before ++ directory :: after) files = findFiles (before ++ after) files := by
  unfold findFiles
  rw [List.filter_append, List.filter_append,
    List.filter_cons_of_neg (by rw [hmissing]; exact Bool.false_ne_true)]

/-- The paths that are found increase strictly step by step, so no two of them are the same. Up to
their spelling they are those of the blueprint files that lie directly in the existing
directories, and each leads to its file. Directories that do not exist add nothing. Up to the
spelling, the paths do not depend on the order in which the directories are given, or how often,
nor on the order of the places in the tree. -/
theorem findFiles_exact {files : FileTree} (h : files.WellFormed) (directories : List String) :
    let found := findFiles directories files
    (found.Pairwise fun a b => Path.steps a < Path.steps b) ∧
    (found.Pairwise fun a b => Path.same a b = false) ∧
    (∀ steps, steps ∈ found.map Path.steps ↔ FileAmong files directories steps) ∧
    (∀ path ∈ found, ∃ entry, files.find path = .ok entry ∧ entry ≠ .directory) ∧
    (∀ before directory after, directories = before ++ directory :: after →
      files.isDirectory directory = false → findFiles (before ++ after) files = found) ∧
    ∀ directories' entries', (∀ d, d ∈ directories' ↔ d ∈ directories) →
      entries'.Perm files.entries →
      (findFiles directories' { files with entries := entries' }).map Path.steps =
        found.map Path.steps := by
  intro found
  have hincreasing : found.Pairwise fun a b => Path.steps a < Path.steps b :=
    Path.increasing_sorted _
  refine ⟨hincreasing, ?_, mem_map_steps_found h directories,
    fun path hpath => find_of_mem_findFiles h hpath, ?_, ?_⟩
  · refine hincreasing.imp fun hlt => ?_
    rw [Bool.eq_false_iff, Ne, Path.same_iff]
    exact ne_of_lt hlt
  · rintro before directory after rfl hmissing
    exact (findFiles_missing hmissing before after).symm
  · intro directories' entries' hdirectories hentries
    refine Path.map_steps_sorted_congr fun steps => ?_
    let files' : FileTree := { files with entries := entries' }
    have hperm : files'.entries.Perm files.entries := hentries
    have h' : files'.WellFormed := h.perm hperm
    calc steps ∈ (findFiles directories' files').map Path.steps
        ↔ FileAmong files' directories' steps := mem_map_steps_found h' directories' steps
      _ ↔ FileAmong files directories steps :=
        fileAmong_congr h hdirectories hperm rfl steps
      _ ↔ steps ∈ found.map Path.steps := (mem_map_steps_found h directories steps).symm

/-- The name of a blueprint file. -/
def deskFileName : String := "desk.windowblueprint.json"

/-- Two directories with a blueprint file each, one of which cannot be read. In the first one there
are also another file, and a directory with a name that blueprint files have. -/
def libraryFiles : FileTree := FileTree.setAll ⟨[], []⟩
  [(["a"], .directory), (["a", deskFileName], .file "text"), (["a", "notes.txt"], .file ""),
    (["a", "old.windowblueprint.json"], .directory), (["a-b"], .directory),
    (["a-b", deskFileName], .unreadable .notText)]

/-- The first directory is given in two spellings, and its file is found once. When the
directories and the places are taken in the opposite order, the same files are found. -/
theorem found_in_libraryFiles :
    libraryFiles.WellFormed ∧
    findFiles ["a/.", "missing", "a", "a-b"] libraryFiles =
      ["a/./desk.windowblueprint.json", "a-b/desk.windowblueprint.json"] ∧
    (findFiles ["a/.", "missing", "a", "a-b"].reverse
      { libraryFiles with entries := libraryFiles.entries.reverse }).map Path.steps =
      [[.name "a", .name deskFileName], [.name "a-b", .name deskFileName]] := by
  have hwellFormed : libraryFiles.WellFormed :=
    (FileTree.wellFormed_empty []).setAll (by decide)
  have hfound : findFiles ["a/.", "missing", "a", "a-b"] libraryFiles =
      ["a/./desk.windowblueprint.json", "a-b/desk.windowblueprint.json"] := by
    have hlisted : (["a/.", "missing", "a", "a-b"].filter libraryFiles.isDirectory).flatMap
        (filesIn libraryFiles) = ["a/./desk.windowblueprint.json", "a/desk.windowblueprint.json",
          "a-b/desk.windowblueprint.json"] := by decide +kernel
    rw [findFiles, hlisted, Path.sorted, List.mergeSort_of_pairwise (by decide +kernel)]
    decide +kernel
  obtain ⟨-, -, -, -, -, horder⟩ := findFiles_exact hwellFormed ["a/.", "missing", "a", "a-b"]
  refine ⟨hwellFormed, hfound,
    (horder _ _ (fun d => List.mem_reverse) (List.reverse_perm _)).trans ?_⟩
  rw [hfound]
  decide +kernel

end Blueprint

end DeskPlan
