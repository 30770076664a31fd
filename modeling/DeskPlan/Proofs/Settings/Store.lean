import DeskPlan.Proofs.Document
import DeskPlan.Proofs.Files.Tree
import DeskPlan.Settings.Store

/-!
# `DeskPlan.Proofs.Settings.Store`: settings that are kept

The settings are kept in a file as a document over several lines. What is written there is read
back: the document loses nothing (`Settings.recovers`), and a file that is there already can be
replaced whatever it holds (`save_of_find`).
-/

set_option autoImplicit false

namespace DeskPlan.Settings

open Json

theorem recovers (s : Settings) : Recovers decode s.toJson s := by
  have hfilled : schema.Filled _
      (s.blueprintDirs, s.dryRun, s.fuzzyThreshold, s.logLevel, ()) :=
    .given (recovers_list fun d _ => recovers_string d) <| .given (recovers_bool _) <|
      .given (recovers_ranged (by decide) (by decide) "usize" _) <| filled_text _ .done
  have hfields : Recovers decodeFields _ s :=
    (Schema.recovers_record hfilled (by decide) "Settings").andThen rfl
  have hdocument : Recovers decode _ s :=
    (Schema.recovers_record (.given hfields .done) (by decide) "Config").andThen rfl
  simpa only [toJson, strings, List.append_nil, List.cons_append, List.nil_append] using hdocument

/-- The settings are read back from the text in which they are kept. -/
theorem text_read_back (s : Settings) : decodeText decode s.text = .ok s := s.recovers.pretty

/-- A file that is there is not changed by loading. -/
theorem load_of_find {path : String} {files : FileTree} {entry : FileEntry}
    (h : files.find path = .ok entry) :
    load path files = (read path files).map fun s => (s, files) := by
  have hholds : files.holds path = true := by rw [FileTree.holds, h]
  rw [load, if_pos hholds]

/-- Settings that are saved in a file that is there are loaded from it. -/
theorem save_of_find {path : String} {files : FileTree} {entry : FileEntry}
    (h : files.find path = .ok entry) (hfile : entry.IsFile) (s : Settings) :
    ∃ files', s.save path files = .ok files' ∧ load path files' = .ok (s, files') := by
  obtain ⟨files', hwrite, hfind⟩ := FileTree.write_of_find h hfile s.text
  have hsave : s.save path files = .ok files' := by
    rw [save, FileTree.makeParent_of_find h]
    dsimp only [Except.mapError, bind, Except.bind]
    rw [hwrite]
  have hread : read path files' = .ok s := by
    have hcontent : files'.read path = .ok s.text := by rw [FileTree.read, hfind]
    rw [read, hcontent]
    dsimp only [Except.mapError, bind, Except.bind]
    rw [text_read_back]
  refine ⟨files', hsave, ?_⟩
  rw [load_of_find hfind, hread]
  rfl

end DeskPlan.Settings
