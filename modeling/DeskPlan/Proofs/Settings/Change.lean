import DeskPlan.Proofs.Text.Blank
import DeskPlan.Settings.Basic

/-!
# `DeskPlan.Proofs.Settings.Change`: settings changed one call after the other

A call gives the key of a setting and a text. What it does is said here setting by setting:
`Setting.key` names a setting, `Setting.value` is its value in the settings, and `Setting.read` is
the value that a text stands for.

* `assign_key` and `assign_of_unknown`: a call reads its text for the setting that its key names,
  and then changes this setting; a key that names no setting is an error;
* `assign_cases`: so a call is one of two steps, and `value_afterAll` follows the steps of a run;
* `WellFormed` says what every setting keeps to, and `WellFormed.afterAll` that a run of calls never
  leaves it;
* `WellFormed.assign_own_dirs`: the directories of well-formed settings can be written as a list and
  read back.

`settings_after_calls` puts these together.
-/

set_option autoImplicit false

namespace DeskPlan

/-- A setting. -/
inductive Setting where
  | blueprintDirs
  | dryRun
  | fuzzyThreshold
  | logLevel
deriving DecidableEq

namespace Setting

open Settings (SetError readBool readDirs readLevel readThreshold)

/-- The key that names a setting. -/
def key : Setting → String
  | blueprintDirs => "settings.blueprint_dirs"
  | dryRun => "settings.dry_run"
  | fuzzyThreshold => "settings.fuzzy_threshold"
  | logLevel => "settings.log_level"

/-- The values of a setting. -/
abbrev Value : Setting → Type
  | blueprintDirs => List String
  | dryRun => Bool
  | fuzzyThreshold => Word64
  | logLevel => Option String

/-- The value of a setting. -/
def value : (x : Setting) → Settings → x.Value
  | blueprintDirs, s => s.blueprintDirs
  | dryRun, s => s.dryRun
  | fuzzyThreshold, s => s.fuzzyThreshold
  | logLevel, s => s.logLevel

/-- The settings with another value of one of them. -/
def put : (x : Setting) → x.Value → Settings → Settings
  | blueprintDirs, dirs, s => { s with blueprintDirs := dirs }
  | dryRun, b, s => { s with dryRun := b }
  | fuzzyThreshold, n, s => { s with fuzzyThreshold := n }
  | logLevel, level, s => { s with logLevel := level }

/-- The value of a setting that a text stands for. -/
def read : (x : Setting) → String → Except SetError x.Value
  | blueprintDirs, text => readDirs text
  | dryRun, text => readBool text
  | fuzzyThreshold, text => readThreshold text
  | logLevel, text => .ok (readLevel text)

@[simp] theorem value_put (x : Setting) (v : x.Value) (s : Settings) : x.value (x.put v s) = v := by
  cases x <;> rfl

/-- The other settings are left alone. -/
theorem value_put_of_ne {x y : Setting} (h : y ≠ x) (v : x.Value) (s : Settings) :
    y.value (x.put v s) = y.value s := by
  cases x <;> cases y <;> first | rfl | exact absurd rfl h

theorem key_injective {x y : Setting} (h : x.key = y.key) : x = y := by
  cases x <;> cases y <;> first | rfl | exact absurd h (by decide)

/-- The value that a call gives to the setting; a call for another setting and a call that fails
give none. -/
def given? (x : Setting) (call : String × String) : Option x.Value :=
  if call.1 = x.key then (x.read call.2).toOption else none

end Setting

namespace Settings

/-! ### One call -/

/-- The settings after a call with a key and a text, whether it succeeds or fails. -/
def afterCall (s : Settings) (call : String × String) : Settings :=
  ((assign call.1 call.2).run s).2

/-- The settings after calls, one after the other. -/
def afterAll (s : Settings) (calls : List (String × String)) : Settings := calls.foldl afterCall s

/-- A call reads its text for the setting that its key names, and then changes this setting. -/
theorem assign_key (x : Setting) (text : String) :
    assign x.key text = (do let v ← x.read text; modify (x.put v)) := by
  cases x <;> rfl

/-- A key that names no setting is an error. -/
theorem assign_of_unknown {key : String} (h : ∀ x : Setting, x.key ≠ key) (text : String) :
    assign key text = throw (.unknownKey key) := by
  have hne : ∀ x : Setting, key ≠ x.key := fun x => (h x).symm
  exact (if_neg (hne .dryRun)).trans <| (if_neg (hne .fuzzyThreshold)).trans <|
    (if_neg (hne .blueprintDirs)).trans <| if_neg (hne .logLevel)

/-- A call gives the setting that its key names the value that its text stands for, or fails and
leaves the settings as they were. -/
theorem assign_cases (key text : String) (s : Settings) :
    (∃ (x : Setting) (v : x.Value), x.key = key ∧ x.read text = .ok v ∧
      (assign key text).run s = (.ok (), x.put v s)) ∨
    ∃ e, (∀ x : Setting, x.given? (key, text) = none) ∧
      (assign key text).run s = (.error e, s) := by
  by_cases hknown : ∃ x : Setting, x.key = key
  · obtain ⟨x, rfl⟩ := hknown
    rw [assign_key]
    cases hread : x.read text with
    | ok v => exact .inl ⟨x, v, rfl, hread, rfl⟩
    -- The text is read before anything is changed.
    | error e =>
      refine .inr ⟨e, fun y => ?_, rfl⟩
      unfold Setting.given?
      split
      · next hkey =>
        obtain rfl := Setting.key_injective hkey
        rw [hread]
        rfl
      · rfl
  · have hne : ∀ x : Setting, x.key ≠ key := fun x hx => hknown ⟨x, hx⟩
    rw [assign_of_unknown hne]
    exact .inr ⟨_, fun x => if_neg fun hkey => hne x hkey.symm, rfl⟩

/-- The setting that a call gives a value is the one that its key names. -/
theorem given?_of_read {x : Setting} {key text : String} {v : x.Value} (hkey : x.key = key)
    (hread : x.read text = .ok v) :
    x.given? (key, text) = some v ∧ ∀ y : Setting, y ≠ x → y.given? (key, text) = none := by
  subst hkey
  constructor
  · rw [Setting.given?, if_pos rfl, hread]
    rfl
  · exact fun y hy => if_neg fun hkey => hy (Setting.key_injective hkey).symm

/-- A call sets a setting to the value that it gives, if it gives one. -/
theorem value_afterCall (s : Settings) (call : String × String) (x : Setting) :
    x.value (s.afterCall call) = (x.given? call).getD (x.value s) := by
  obtain ⟨key, text⟩ := call
  unfold afterCall
  rcases assign_cases key text s with ⟨y, v, hkey, hread, hrun⟩ | ⟨e, hnone, hrun⟩
  · obtain ⟨hgiven, hothers⟩ := given?_of_read hkey hread
    rw [hrun]
    by_cases hxy : x = y
    · subst hxy
      rw [hgiven, Setting.value_put]
      rfl
    · rw [hothers x hxy, Setting.value_put_of_ne hxy]
      rfl
  · rw [hrun, hnone x]
    rfl

/-! ### Runs of calls -/

/-- After a run of calls a setting has the value that was given last, and the one that it had if
none was given. -/
theorem value_afterAll (s : Settings) (calls : List (String × String)) (x : Setting) :
    x.value (s.afterAll calls) = (calls.filterMap x.given?).getLast?.getD (x.value s) := by
  induction calls generalizing s with
  | nil => rfl
  | cons call calls ih =>
    have hstep := s.value_afterCall call x
    rw [afterAll, List.foldl_cons, ← afterAll, ih, List.filterMap_cons]
    cases hgiven : x.given? call with
    | none =>
      rw [hgiven] at hstep
      rw [hstep]
      rfl
    | some v =>
      rw [hgiven] at hstep
      rw [hstep, List.getLast?_cons]
      rfl

/-- What the settings keep to: there are directories, each with a name that can stand in a list, and
the level is a name if there is one. -/
structure WellFormed (s : Settings) : Prop where
  dirs_ne_nil : s.blueprintDirs ≠ []
  dirs : ∀ d ∈ s.blueprintDirs, d ≠ "" ∧ Text.Trimmed d ∧ ',' ∉ d.toList
  level : ∀ level, s.logLevel = some level → level ≠ "" ∧ Text.Trimmed level ∧ level ≠ "none"

theorem wellFormed_default : WellFormed {} where
  dirs_ne_nil := by simp
  dirs d hd := by
    obtain rfl := List.mem_singleton.1 hd
    have hpoint : ∀ c, some '.' = some c → Text.isBlank c = false := by
      rintro c ⟨⟩
      decide
    exact ⟨by decide, ⟨hpoint, hpoint⟩, by decide⟩
  level := nofun

/-- Directories are read without commas and without white space at their ends, and there are
some. -/
theorem readDirs_wellFormed {text : String} {dirs : List String} (h : readDirs text = .ok dirs) :
    dirs ≠ [] ∧ ∀ d ∈ dirs, d ≠ "" ∧ Text.Trimmed d ∧ ',' ∉ d.toList := by
  unfold readDirs at h
  dsimp only at h
  split at h
  · cases h
  · rename_i hsome
    cases h
    refine ⟨fun hnil => hsome (List.isEmpty_iff.2 hnil), fun d hd => ?_⟩
    obtain ⟨hpiece, hne⟩ := List.mem_filter.1 hd
    obtain ⟨_, htrimmed, rfl⟩ := List.mem_map.1 hpiece
    obtain ⟨p, hp, rfl⟩ := List.mem_map.1 htrimmed
    refine ⟨by simpa using hne, Text.trimmed_trim _, fun hcomma => ?_⟩
    rw [Text.trim, String.toList_ofList, String.toList_ofList] at hcomma
    exact Text.not_mem_of_mem_cut hp ((Text.sublist_trimChars p).subset hcomma)

theorem readLevel_wellFormed {text level : String} (h : readLevel text = some level) :
    level ≠ "" ∧ Text.Trimmed level ∧ level ≠ "none" := by
  unfold readLevel at h
  dsimp only at h
  split at h
  · cases h
  · rename_i hnamed
    cases h
    rw [Bool.or_eq_true, not_or] at hnamed
    exact ⟨by simpa using hnamed.1, Text.trimmed_trim text, by simpa using hnamed.2⟩

/-- A call keeps the settings well-formed. -/
theorem WellFormed.afterCall {s : Settings} (h : s.WellFormed) (call : String × String) :
    (s.afterCall call).WellFormed := by
  unfold Settings.afterCall
  rcases assign_cases call.1 call.2 s with ⟨x, v, -, hread, hrun⟩ | ⟨e, -, hrun⟩
  · rw [hrun]
    cases x with
    | blueprintDirs =>
      obtain ⟨hne, hdirs⟩ := readDirs_wellFormed hread
      exact ⟨hne, hdirs, h.level⟩
    | dryRun => exact ⟨h.dirs_ne_nil, h.dirs, h.level⟩
    | fuzzyThreshold => exact ⟨h.dirs_ne_nil, h.dirs, h.level⟩
    | logLevel =>
      have hv : readLevel call.2 = v := Except.ok.inj hread
      exact ⟨h.dirs_ne_nil, h.dirs, fun level hlevel => readLevel_wellFormed (hv.trans hlevel)⟩
  · rw [hrun]
    exact h

theorem WellFormed.afterAll {s : Settings} (h : s.WellFormed) (calls : List (String × String)) :
    (s.afterAll calls).WellFormed := by
  induction calls generalizing s with
  | nil => exact h
  | cons call calls ih => exact ih (h.afterCall call)

/-- The directories of well-formed settings are read back from their list. -/
theorem WellFormed.assign_own_dirs {s : Settings} (h : s.WellFormed) :
    (assign Setting.blueprintDirs.key (",".intercalate s.blueprintDirs)).run s = (.ok (), s) := by
  have hpieces : Text.pieces ',' (",".intercalate s.blueprintDirs) = s.blueprintDirs :=
    Text.pieces_intercalate h.dirs_ne_nil fun d hd => (h.dirs d hd).2.2
  have htrim : s.blueprintDirs.map Text.trim = s.blueprintDirs :=
    (List.map_congr_left fun d hd => (h.dirs d hd).2.1.trim_eq).trans (List.map_id' _)
  have hkeep : s.blueprintDirs.filter (!·.isEmpty) = s.blueprintDirs :=
    List.filter_eq_self.2 fun d hd => by simpa using (h.dirs d hd).1
  have hread : Setting.blueprintDirs.read (",".intercalate s.blueprintDirs) =
      .ok s.blueprintDirs := by
    have hsome : s.blueprintDirs.isEmpty = false := List.isEmpty_eq_false_iff.2 h.dirs_ne_nil
    show readDirs _ = _
    unfold readDirs
    dsimp only
    rw [hpieces, htrim, hkeep, hsome]
    rfl
  rw [assign_key, hread]
  rfl

/-- A call that fails gives no setting a value and leaves all as they were. A call that succeeds
gives a value to the setting that its key names and to no other, and leaves every other as it was.
So after a run of calls each setting has the value that was given last, and the one that it had if
none was given. After a run from the default settings the settings are well-formed, and to set the
directories to their own list changes nothing. -/
theorem settings_after_calls (s : Settings) (calls : List (String × String)) :
    (∀ key text,
      (∀ e s', (assign key text).run s = (.error e, s') →
        s' = s ∧ ∀ x : Setting, x.given? (key, text) = none) ∧
      ∀ s', (assign key text).run s = (.ok (), s') →
        ∃ x : Setting, x.key = key ∧ x.given? (key, text) = some (x.value s') ∧
          ∀ y, y ≠ x → y.given? (key, text) = none ∧ y.value s' = y.value s) ∧
    (∀ x : Setting,
      x.value (s.afterAll calls) = (calls.filterMap x.given?).getLast?.getD (x.value s)) ∧
    let reached := Settings.afterAll {} calls
    reached.WellFormed ∧
      (assign Setting.blueprintDirs.key (",".intercalate reached.blueprintDirs)).run reached =
        (.ok (), reached) := by
  have hreached : (Settings.afterAll {} calls).WellFormed := wellFormed_default.afterAll calls
  refine ⟨fun key text => ?_, s.value_afterAll calls, hreached, hreached.assign_own_dirs⟩
  rcases assign_cases key text s with ⟨x, v, hkey, hread, hrun⟩ | ⟨e, hnone, hrun⟩
  · obtain ⟨hgiven, hothers⟩ := given?_of_read hkey hread
    rw [hrun]
    refine ⟨nofun, fun s' hs' => ?_⟩
    obtain rfl := (Prod.mk.inj hs').2
    refine ⟨x, hkey, by rw [hgiven, Setting.value_put], fun y hy => ?_⟩
    exact ⟨hothers y hy, Setting.value_put_of_ne hy v s⟩
  · rw [hrun]
    refine ⟨fun e' s' hs' => ?_, nofun⟩
    exact ⟨(Prod.mk.inj hs').2.symm, hnone⟩

/-- Calls of which three fail. -/
def mixedCalls : List (String × String) :=
  [("settings.blueprint_dirs", " ., ~/layouts ,"), ("settings.blueprint_dirs", " , "),
    ("settings.dry_run", "YES"), ("settings.dry_run", "maybe"), ("settings.animate", "on"),
    ("settings.log_level", " none ")]

/-- The calls that fail leave no trace, and of the others each leaves its value. -/
theorem settings_after_mixedCalls :
    Settings.afterAll {} mixedCalls = { blueprintDirs := [".", "~/layouts"], dryRun := true } ∧
    Settings.afterCall {} ("settings.dry_run", "maybe") = {} ∧
    (∀ y, y ≠ Setting.dryRun → y.value (Settings.afterCall {} ("settings.dry_run", "YES")) =
      y.value {}) ∧
    (Settings.afterAll {} mixedCalls).WellFormed := by
  have hreached : Settings.afterAll {} mixedCalls =
      { blueprintDirs := [".", "~/layouts"], dryRun := true } := by decide +kernel
  have hfails : ((assign "settings.dry_run" "maybe").run {}).1 =
      .error (.badBoolean "maybe") := by decide +kernel
  have hsucceeds : ((assign "settings.dry_run" "YES").run {}).1 = .ok () := by decide +kernel
  obtain ⟨hcalls, -, hwell, -⟩ := settings_after_calls {} mixedCalls
  obtain ⟨hkept, -⟩ := (hcalls "settings.dry_run" "maybe").1 _ _ (Prod.ext hfails rfl)
  refine ⟨hreached, hkept, fun y hy => ?_, hwell⟩
  obtain ⟨x, hkey, -, hothers⟩ := (hcalls "settings.dry_run" "YES").2 _ (Prod.ext hsucceeds rfl)
  obtain rfl : x = .dryRun := Setting.key_injective hkey
  exact (hothers y hy).2

end Settings

end DeskPlan
