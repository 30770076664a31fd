import DeskPlan.Proofs.Command.Reply
import DeskPlan.Proofs.Settings.Store

/-!
# `DeskPlan.Proofs.Command.Configuring`: settings that are changed

A change of the settings reads their file twice: once because every command does, and once more for
the change. It writes the file at the very end, when nothing can go wrong any more.

* `changeSetting_cases`: a change that fails fails before anything is written, and a change that
  succeeds is loaded afterwards;
* `KeptAt.ended_of_action`: a run that does something to the settings in a file ends as that ends.

`settings_changed_by_success` says so of whole runs, whatever the file holds before.
-/

set_option autoImplicit false

namespace DeskPlan.Command

/-- A change of the settings in a file goes through exactly if there are settings in the file and
they can be changed. Then the changed settings are loaded from the file. -/
theorem changeSetting_cases {path : String} {files : FileTree} {entry : FileEntry}
    (h : files.find path = .ok entry) (hfile : entry.IsFile) (key value : String) :
    (∃ c c' files', Settings.read path files = .ok c ∧ c.set key value = .ok c' ∧
      changeSetting path key value files = .ok files' ∧
      Settings.load path files' = .ok (c', files')) ∨
    (∀ c, Settings.read path files = .ok c → ∃ e, c.set key value = .error e) ∧
      ∃ a, changeSetting path key value files = .error a := by
  unfold changeSetting
  rw [Settings.load_of_find h]
  cases hread : Settings.read path files with
  | error e => exact .inr ⟨nofun, _, rfl⟩
  | ok c =>
    -- Loading has left the files as they were.
    dsimp only [Except.map, Except.mapError, bind, Except.bind]
    cases hset : c.set key value with
    | error e => exact .inr ⟨fun d hd => by cases hd; exact ⟨e, hset⟩, _, rfl⟩
    | ok c' =>
      obtain ⟨files', hsave, hload⟩ := Settings.save_of_find h hfile c'
      dsimp only
      rw [hsave]
      exact .inl ⟨c, c', files', rfl, hset, rfl, hload⟩

/-! ### Runs -/

/-- The settings of a run are looked for in a file that is there, whatever it holds. -/
structure KeptAt (s : Surroundings) (r : Request) (path : String) : Prop where
  reads : Request.read s.arguments = .ok r
  place : Settings.path r.settingsPath s.environment = .ok path
  file : ∃ entry, s.files.find path = .ok entry ∧ entry.IsFile

namespace KeptAt

variable {s : Surroundings} {r : Request} {path : String}

/-- A file that is there is not changed before the command. -/
theorem files_loadSettings (h : KeptAt s r path) : (loadSettings r s).2 = s.files := by
  obtain ⟨entry, hfind, -⟩ := h.file
  unfold loadSettings
  rw [h.place]
  dsimp only [Except.bind]
  rw [Settings.load_of_find hfind]
  cases Settings.read path s.files <;> rfl

theorem answer_settings (h : KeptAt s r path) {action : SettingsAction}
    (haction : r.action = .settings action) :
    answer r s (loadSettings r s).2 (loadSettings r s).1 = settingsReply action r s s.files := by
  rw [answer, haction, h.files_loadSettings]

/-- Nothing that is noted about the settings is an event, so it is heard in any case. -/
theorem exit_run (h : KeptAt s r path) {action : SettingsAction}
    (haction : r.action = .settings action) :
    (run s).reply.exit = (settingsReply action r s s.files).1.exit := by
  have hanswered : answered r s = (settingsReply action r s s.files).1 := by
    rw [answered, h.answer_settings haction]
  have hshown : AllShown (run s).filter (answered r s).notes := by
    rw [hanswered]
    unfold settingsReply
    split
    · exact allShown_texts id []
    · exact allShown_texts id [_]
  rw [(heard_of_shown h.reads hshown).1, hanswered]

/-- A run that does something to the settings ends as that ends. -/
theorem ended_of_action (h : KeptAt s r path) {action : SettingsAction}
    (haction : r.action = .settings action) :
    match action.run path s.files with
    | .ok (_, files) => (run s).reply.exit.code = 0 ∧ (run s).files = files
    | .error _ => (run s).reply.exit.code ≠ 0 ∧ (run s).files = s.files := by
  rw [files_run h.reads, h.answer_settings haction, h.exit_run haction, settingsReply, h.place]
  dsimp only [Except.mapError, Except.bind]
  cases action.run path s.files with
  | ok done => exact ⟨rfl, rfl⟩
  | error a => exact ⟨nofun, rfl⟩

end KeptAt

/-- Settings are read back from their text. A run that sets a key in a file succeeds exactly if
there are settings in the file and the key can be set to the value. Then the changed settings are
loaded from the file afterwards; otherwise no file has been changed. After a run that resets the
settings the default settings are loaded, whatever there was in the file. -/
theorem settings_changed_by_success :
    (∀ c : Settings, Json.decodeText Settings.decode c.text = .ok c) ∧
    ∀ (s : Surroundings) (r : Request) (path : String), KeptAt s r path →
      (∀ key value, r.action = .settings (.set key value) →
        ((run s).reply.exit.code = 0 ∧ ∃ c c', Settings.read path s.files = .ok c ∧
          c.set key value = .ok c' ∧
          Settings.load path (run s).files = .ok (c', (run s).files)) ∨
        ((run s).reply.exit.code ≠ 0 ∧ (run s).files = s.files ∧
          ∀ c, Settings.read path s.files = .ok c → ∃ e, c.set key value = .error e)) ∧
      (r.action = .settings .reset → (run s).reply.exit.code = 0 ∧
        Settings.load path (run s).files = .ok ({}, (run s).files)) := by
  refine ⟨Settings.text_read_back,
    fun s r path h => ⟨fun key value haction => ?_, fun haction => ?_⟩⟩
  · obtain ⟨entry, hfind, hfile⟩ := h.file
    have hended := h.ended_of_action haction
    rcases changeSetting_cases hfind hfile key value with
      ⟨c, c', files', hread, hset, hchange, hload⟩ | ⟨hnot, a, hchange⟩
    · rw [SettingsAction.run, hchange] at hended
      obtain ⟨hexit, hfiles⟩ := hended
      exact .inl ⟨hexit, c, c', hread, hset, hfiles ▸ hload⟩
    · rw [SettingsAction.run, hchange] at hended
      obtain ⟨hexit, hfiles⟩ := hended
      exact .inr ⟨hexit, hfiles, hnot⟩
  · obtain ⟨entry, hfind, hfile⟩ := h.file
    have hended := h.ended_of_action haction
    obtain ⟨files', hsave, hload⟩ := Settings.save_of_find hfind hfile {}
    rw [SettingsAction.run, hsave] at hended
    obtain ⟨hexit, hfiles⟩ := hended
    exact ⟨hexit, hfiles ▸ hload⟩

/-- A run that does something to the settings, which are in a file with the content. -/
def settingRun (content : String) (arguments : List String) : Surroundings where
  arguments := ["--config", "conf/settings", "config"] ++ arguments
  environment := {}
  files := ⟨[(["conf"], .directory), (["conf", "settings"], .file content)], []⟩

theorem keptAt_settingRun (content : String) (arguments : List String) (action : SettingsAction)
    (h : Request.read (settingRun content arguments).arguments =
      .ok { action := .settings action, settingsPath := some "conf/settings" }) :
    KeptAt (settingRun content arguments)
      { action := .settings action, settingsPath := some "conf/settings" } "conf/settings" := by
  have hsteps : Path.steps "conf/settings" = [.name "conf", .name "settings"] := by decide +kernel
  have hasks : FileTree.asksDirectory "conf/settings" = false := by decide +kernel
  have hlocate : (settingRun content arguments).files.locate "conf/settings" =
      .ok ["conf", "settings"] := by
    rw [FileTree.locate, hsteps]
    rfl
  exact ⟨h, rfl, .file content, FileTree.find_of_locate hlocate rfl hasks, trivial⟩

/-- An empty document holds the default settings, and one of them is changed. An empty text holds no
settings: it is left alone until it is replaced. -/
theorem settings_changed_in_conf :
    Settings.load "conf/settings"
      (run (settingRun "\x7b\x7d" ["set", "settings.dry_run", "yes"])).files = .ok
        ({ dryRun := true },
          (run (settingRun "\x7b\x7d" ["set", "settings.dry_run", "yes"])).files) ∧
    (run (settingRun "" ["set", "settings.dry_run", "yes"])).files = (settingRun "" []).files ∧
    Settings.load "conf/settings" (run (settingRun "" ["reset"])).files =
      .ok ({}, (run (settingRun "" ["reset"])).files) := by
  refine ⟨?_, ?_, ?_⟩
  · have hchanged : ((Settings.read "conf/settings" (settingRun "\x7b\x7d" []).files).toOption.bind
        fun c => (c.set "settings.dry_run" "yes").toOption) = some { dryRun := true } := by
      decide +kernel
    have hkept := keptAt_settingRun "\x7b\x7d" ["set", "settings.dry_run", "yes"]
      (.set "settings.dry_run" "yes") rfl
    have hexit : (run (settingRun "\x7b\x7d" ["set", "settings.dry_run", "yes"])).reply.exit.code =
        0 := by
      rw [hkept.exit_run rfl]
      decide +kernel
    obtain ⟨hset, -⟩ := settings_changed_by_success.2 _ _ _ hkept
    rcases hset _ _ rfl with ⟨-, c, c', hread, hc', hload⟩ | ⟨hfails, -⟩
    · have hc : c' = { dryRun := true } := by
        rw [show Settings.read "conf/settings" (settingRun "\x7b\x7d" []).files = .ok c from hread]
          at hchanged
        simpa [Except.toOption, hc'] using hchanged
      exact hc ▸ hload
    · exact absurd hexit hfails
  · have hkept := keptAt_settingRun "" ["set", "settings.dry_run", "yes"]
      (.set "settings.dry_run" "yes") rfl
    have hexit : (run (settingRun "" ["set", "settings.dry_run", "yes"])).reply.exit.code ≠ 0 := by
      rw [hkept.exit_run rfl]
      decide +kernel
    obtain ⟨hset, -⟩ := settings_changed_by_success.2 _ _ _ hkept
    rcases hset _ _ rfl with ⟨hsucceeds, -⟩ | ⟨-, hfiles, -⟩
    · exact absurd hsucceeds hexit
    · exact hfiles
  · obtain ⟨-, hreset⟩ := settings_changed_by_success.2 _ _ _ (keptAt_settingRun ""
      ["reset"] .reset rfl)
    exact (hreset rfl).2

end DeskPlan.Command
