import DeskPlan.Proofs.Apply.Verified
import DeskPlan.Proofs.Command.Reply

/-!
# `DeskPlan.Proofs.Command.Agreement`: checking and applying agree

Whether a blueprint fits the monitors is decided at three places: by the command that checks, by
the choice of the blueprint to apply, and once more when it is applied. They share the comparison
of the monitors, but each goes its own way to the files and to the exit status. All of them stop
where a monitor that is compared cannot be measured.

* `fitsFile?` and `anyFits?` are what the three have in common: a file holds a
  blueprint that fits, or one of several files does;
* `exitUnder_checkCommand` gives the exit status of a check for every workspace and every filter;
* `result_foundCandidate`: without a path, the choice is among the blueprints that fit
  (`Workspace.fitting?`);
* `chooseBlueprint_end` says how the choice of a blueprint ends (`ChoiceEnd`), and
  `exitUnder_applyCommand` how an application ends by then;
* `mapping_of_chosen`: the comparison made when a blueprint is applied never refuses what was
  chosen.

An application tells of every monitor that was found before it chooses. A check does not, and this
is where the two can part: an application stops at a monitor that cannot be measured, if its filter
shows what it tells (`StopsAtMonitors`), even where no blueprint is compared with it.

Two runs on the same ground (`SameGround`) may differ in everything else: in what is picked, in
the form of the results, in the log, in the terminals and in what is answered.
`check_agrees_with_apply` compares a check with an application on the same ground.
-/

set_option autoImplicit false

namespace DeskPlan.Command

open Work (exitOf result_bind_ok result_bind_error exitUnder_bind_of_ok
  exitUnder_bind_of_error exitUnder_of_shown exitUnder_of_hidden
  shown_tell shown_ofExcept shown_ofChecked)

/-! ### What is asked of the files -/

/-- Whether the blueprint in a file can be loaded and fits the monitors. -/
def fitsFile? (files : FileTree) (monitors : List Monitor) (path : String) : Checked Bool :=
  match Blueprint.load path files with
  | .ok b => (MonitorCheck.of? b.monitorMatch monitors).map fun check => check.issues.isEmpty
  | .error _ => some false

/-- Whether one of the blueprints in files fits the monitors. All of them are compared. -/
def anyFits? (files : FileTree) (monitors : List Monitor) : List String → Checked Bool
  | [] => some false
  | path :: rest =>
    (fitsFile? files monitors path).bind fun fits =>
      (anyFits? files monitors rest).map fun later => fits || later

/-- The work comes to a result that passes or fails a test as the answer says; without an answer it
is stopped. -/
def Work.Finds {α : Type} (w : Work α) (test : α → Bool) : Checked Bool → Prop
  | some answer => ∃ a, w.result = .ok a ∧ test a = answer
  | none => w.result = .error .stop

namespace Workspace

variable (x : Workspace) {filter : LogFilter}

/-- The failure for a desktop that cannot be opened. -/
def openFailure (e : Desktop.OpenError) : Failure := ⟨.failure, e.account.line, [], []⟩

/-- The failure for a blueprint that cannot be loaded. -/
def loadFailure (e : Blueprint.LoadError) : Failure := ⟨.badFile, e.account.line, [], []⟩

theorem result_readDesktop :
    x.readDesktop.result =
      (Desktop.openAt x.desktopPath x.files).mapError fun e => .failure (openFailure e) := by
  unfold readDesktop
  cases hopen : Desktop.openAt x.desktopPath x.files with
  | error e => rfl
  | ok d => cases x.desktopPath <;> rfl

theorem shown_readDesktop : x.readDesktop.Shown filter := by
  refine (shown_ofExcept _ _).bind fun d _ => ?_
  cases x.desktopPath with
  | none => exact Work.shown_of_notes_eq_nil rfl
  | some path =>
    refine Work.Shown.bind (shown_tell ?_) fun _ _ => Work.shown_of_notes_eq_nil rfl
    simp [Desktop.openedEvent, Event.line?_isSome_iff, -Prod.forall]

theorem result_load (path : String) :
    (x.load path).result =
      (Blueprint.load path x.files).mapError fun e => .failure (loadFailure e) := by
  unfold load
  cases hload : Blueprint.load path x.files <;> rfl

theorem line?_loadedEvent (path : String) (b : Blueprint) :
    (Blueprint.loadedEvent path b).line?.isSome := by
  simp [Blueprint.loadedEvent, Event.line?_isSome_iff]

theorem shown_load (path : String) : (x.load path).Shown filter :=
  (shown_ofExcept _ _).bind fun b _ =>
    Work.Shown.bind (shown_tell (by simpa using line?_loadedEvent path b)) fun _ _ =>
      Work.shown_of_notes_eq_nil rfl

theorem shown_findBlueprints : x.findBlueprints.Shown filter := by
  refine Work.Shown.bind (shown_tell (List.forall_mem_map.2 fun directory _ => ?_)) fun _ _ =>
    Work.shown_of_notes_eq_nil rfl
  simp [Event.line?_isSome_iff, -Prod.forall]

/-! ### Checking -/

theorem finds_checkFile (monitors : List Monitor) (path : String) :
    (x.checkFile monitors path).Finds CheckedFile.fits (fitsFile? x.files monitors path) := by
  unfold checkFile fitsFile?
  cases Blueprint.load path x.files with
  | error e => exact ⟨_, rfl, rfl⟩
  | ok b =>
    dsimp only [CheckedFile.of?]
    cases MonitorCheck.of? b.monitorMatch monitors with
    | none => rfl
    | some check => exact ⟨_, rfl, rfl⟩

/-- Going through the files finds out whether one of them fits. -/
theorem finds_checkFiles (monitors : List Monitor) (paths : List String) :
    (x.checkFiles monitors paths).Finds (·.any CheckedFile.fits)
      (anyFits? x.files monitors paths) := by
  induction paths with
  | nil => exact ⟨[], rfl, rfl⟩
  | cons path rest ih =>
    have hfile := x.finds_checkFile monitors path
    unfold checkFiles anyFits?
    cases hfits : fitsFile? x.files monitors path with
    | none =>
      rw [hfits] at hfile
      exact result_bind_error hfile _
    | some fits =>
      rw [hfits] at hfile
      obtain ⟨c, hc, rfl⟩ := hfile
      rw [Option.bind_some]
      cases hany : anyFits? x.files monitors rest with
      | none =>
        rw [hany] at ih
        exact (result_bind_ok hc _).trans (result_bind_error ih _)
      | some later =>
        rw [hany] at ih
        obtain ⟨cs, hcs, rfl⟩ := ih
        exact ⟨c :: cs, (result_bind_ok hc _).trans (result_bind_ok hcs _), rfl⟩

theorem shown_checkFile (monitors : List Monitor) (path : String) :
    (x.checkFile monitors path).Shown filter := by
  unfold checkFile
  cases Blueprint.load path x.files with
  | error e => exact Work.shown_of_notes_eq_nil rfl
  | ok b =>
    exact Work.Shown.bind (shown_tell (by simpa using line?_loadedEvent path b)) fun _ _ =>
      shown_ofChecked _

theorem shown_checkFiles (monitors : List Monitor) (paths : List String) :
    (x.checkFiles monitors paths).Shown filter := by
  induction paths with
  | nil => exact Work.shown_of_notes_eq_nil rfl
  | cons path rest ih =>
    exact (x.shown_checkFile monitors path).bind fun c _ => Work.Shown.bind ih fun cs _ =>
      Work.shown_of_notes_eq_nil rfl

/-- Without a path the files in the directories are checked. -/
theorem finds_checkFound (monitors : List Monitor) :
    (x.checkFound monitors).Finds (·.any CheckedFile.fits)
      (anyFits? x.files monitors x.blueprintPaths) :=
  x.finds_checkFiles monitors x.blueprintPaths

theorem shown_checkFound (monitors : List Monitor) : (x.checkFound monitors).Shown filter :=
  x.shown_findBlueprints.bind fun paths _ => x.shown_checkFiles monitors paths

/-- The exit status for what was found out about blueprints. -/
def fitExit (unfit : Exit) : Checked Bool → Exit
  | some true => .success
  | some false => unfit
  | none => .stopped

/-- Files that were checked end the command as what was found out about them says. -/
theorem exitUnder_of_finds {w : Work (List CheckedFile)} {answer : Checked Bool}
    (h : w.Finds (·.any CheckedFile.fits) answer) (hshown : w.Shown filter)
    (explicit : Option String) (output : List CheckedFile → String) :
    (w >>= fun cs => pure (checkExit cs explicit, output cs)).exitUnder filter =
      fitExit (if explicit.isSome then .mismatch else .noBlueprint) answer := by
  cases answer with
  | none => exact exitUnder_bind_of_error hshown h _
  | some answer =>
    obtain ⟨cs, hresult, rfl⟩ := h
    rw [exitUnder_bind_of_ok hshown hresult,
      Work.exitUnder_of_shown (Work.shown_of_notes_eq_nil rfl)]
    show (if cs.any CheckedFile.fits then _ else _) = fitExit _ (some (cs.any CheckedFile.fits))
    cases cs.any CheckedFile.fits <;> rfl

theorem finds_checkExplicit {path : String} {b : Blueprint}
    (hload : Blueprint.load path x.files = .ok b) (monitors : List Monitor) :
    (x.checkExplicit path monitors).Finds (·.any CheckedFile.fits)
      (fitsFile? x.files monitors path) := by
  have hresult := x.result_load path
  rw [hload] at hresult
  have hcheck := result_bind_ok hresult fun b => do
    let c ← Work.ofChecked (CheckedFile.of? path monitors b)
    return [c]
  unfold checkExplicit fitsFile?
  rw [hload]
  dsimp only [CheckedFile.of?] at hcheck ⊢
  cases hof : MonitorCheck.of? b.monitorMatch monitors with
  | none =>
    rw [hof] at hcheck
    exact hcheck
  | some check =>
    rw [hof] at hcheck
    exact ⟨_, hcheck, Bool.or_false _⟩

theorem shown_checkExplicit (path : String) (monitors : List Monitor) :
    (x.checkExplicit path monitors).Shown filter :=
  (x.shown_load path).bind fun _ _ => (shown_ofChecked _).bind fun _ _ =>
    Work.shown_of_notes_eq_nil rfl

/-- The exit status of a check. -/
theorem exitUnder_checkCommand (explicit : Option String) :
    (x.checkCommand explicit).exitUnder filter =
      match Desktop.openAt x.desktopPath x.files, explicit with
      | .error _, _ => .failure
      | .ok d, some path =>
        match Blueprint.load path x.files with
        | .error _ => .badFile
        | .ok _ => fitExit .mismatch (fitsFile? x.files d.monitors path)
      | .ok d, none => fitExit .noBlueprint (anyFits? x.files d.monitors x.blueprintPaths) := by
  have hread := x.result_readDesktop
  cases hopen : Desktop.openAt x.desktopPath x.files with
  | error e =>
    rw [hopen] at hread
    exact exitUnder_bind_of_error x.shown_readDesktop hread _
  | ok d =>
    rw [hopen] at hread
    rw [checkCommand, exitUnder_bind_of_ok x.shown_readDesktop hread]
    cases explicit with
    | none =>
      exact exitUnder_of_finds (x.finds_checkFound d.monitors) (x.shown_checkFound d.monitors)
        none _
    | some path =>
      have hshown : (x.checkBlueprints (some path) d.monitors).Shown filter :=
        x.shown_checkExplicit path d.monitors
      dsimp only
      cases hload : Blueprint.load path x.files with
      | error e =>
        have hresult := x.result_load path
        rw [hload] at hresult
        exact exitUnder_bind_of_error hshown (result_bind_error hresult _) _
      | ok b =>
        exact exitUnder_of_finds (x.finds_checkExplicit hload d.monitors) hshown (some path) _

/-! ### Choosing -/

/-- The ways in which the choice of a blueprint can end. -/
inductive ChoiceEnd (monitors : List Monitor) :
    Option String → Except Interruption Candidate → Prop where
  | unloadable {path : String} {e : Blueprint.LoadError} {f : Failure}
      (hload : Blueprint.load path x.files = .error e) (hexit : f.exit = .badFile) :
      ChoiceEnd monitors (some path) (.error (.failure f))
  | uncompared {path : String} {b : Blueprint} (hload : Blueprint.load path x.files = .ok b)
      (hfits : fitsFile? x.files monitors path = none) :
      ChoiceEnd monitors (some path) (.error .stop)
  | refused {path : String} {b : Blueprint} {f : Failure}
      (hload : Blueprint.load path x.files = .ok b)
      (hfits : fitsFile? x.files monitors path = some false) (hexit : f.exit = .mismatch) :
      ChoiceEnd monitors (some path) (.error (.failure f))
  | accepted {path : String} {b : Blueprint} {c : Candidate}
      (hload : Blueprint.load path x.files = .ok b)
      (hfits : fitsFile? x.files monitors path = some true)
      (hcandidate : Blueprint.candidate? path b monitors = some c) (hc : c.fits = true) :
      ChoiceEnd monitors (some path) (.ok c)
  | unsearched (hany : anyFits? x.files monitors x.blueprintPaths = none) :
      ChoiceEnd monitors none (.error .stop)
  | nothing {f : Failure} (hany : anyFits? x.files monitors x.blueprintPaths = some false)
      (hexit : f.exit = .noBlueprint) :
      ChoiceEnd monitors none (.error (.failure f))
  | undecided {f : Failure} (hany : anyFits? x.files monitors x.blueprintPaths = some true)
      (hexit : f.exit = .badChoice) :
      ChoiceEnd monitors none (.error (.failure f))
  | found {path : String} {b : Blueprint} {c : Candidate}
      (hany : anyFits? x.files monitors x.blueprintPaths = some true)
      (hmem : path ∈ x.blueprintPaths)
      (hload : Blueprint.load path x.files = .ok b)
      (hcandidate : Blueprint.candidate? path b monitors = some c) (hc : c.fits = true) :
      ChoiceEnd monitors none (.ok c)

theorem fits_candidate? {path : String} {b : Blueprint} (monitors : List Monitor)
    (hload : Blueprint.load path x.files = .ok b) :
    (Blueprint.candidate? path b monitors).map Candidate.fits =
      fitsFile? x.files monitors path := by
  rw [fitsFile?, hload, Blueprint.candidate?, Option.map_map]
  rfl

theorem explicitCandidate_end (path : String) (monitors : List Monitor) :
    x.ChoiceEnd monitors (some path) (x.explicitCandidate path monitors).result := by
  have hresult := x.result_load path
  unfold explicitCandidate
  cases hload : Blueprint.load path x.files with
  | error e =>
    rw [hload] at hresult
    rw [result_bind_error hresult]
    exact .unloadable hload rfl
  | ok b =>
    rw [hload] at hresult
    rw [result_bind_ok hresult]
    have hfits := x.fits_candidate? monitors hload
    cases hcandidate : Blueprint.candidate? path b monitors with
    | none =>
      rw [hcandidate] at hfits
      exact .uncompared hload hfits.symm
    | some c =>
      rw [hcandidate] at hfits
      rw [result_bind_ok (w := Work.ofChecked (some c)) rfl]
      cases hc : c.fits with
      | true => exact .accepted hload (hfits.symm.trans (congrArg some hc)) hcandidate hc
      | false => exact .refused hload (hfits.symm.trans (congrArg some hc)) rfl

theorem shown_explicitCandidate (path : String) (monitors : List Monitor) :
    (x.explicitCandidate path monitors).Shown filter :=
  (x.shown_load path).bind fun _ _ => (shown_ofChecked _).bind fun c _ => by
    cases c.fits <;> exact Work.shown_of_notes_eq_nil rfl

end Workspace

/-- A candidate that is chosen is one of those offered. -/
theorem mem_of_choose {candidates : List Candidate} {choice : String} {c : Candidate}
    (h : Candidate.choose candidates choice = .ok c) : c ∈ candidates := by
  unfold Candidate.choose at h
  dsimp only at h
  split at h
  · split at h
    · rename_i hindex
      cases h
      exact List.mem_of_getElem? hindex
    · cases h
  · split at h
    · rename_i hnamed
      cases h
      unfold Candidate.named? at hnamed
      rcases Option.or_eq_some_iff.1 hnamed with hexact | ⟨-, hloose⟩
      · exact List.mem_of_find?_eq_some hexact
      · exact List.mem_of_find?_eq_some hloose
    · cases h

namespace Workspace

variable (x : Workspace) {filter : LogFilter}

/-- A choice among candidates takes one of them, or fails as a bad choice. -/
theorem chooseAmong_cases (valid : List Candidate) (pick : Option String) :
    (∃ c ∈ valid, (x.chooseAmong valid pick).result = .ok c) ∨
      ∃ f, (x.chooseAmong valid pick).result = .error (.failure f) ∧ f.exit = .badChoice := by
  have hpicked : ∀ choice,
      (∃ c ∈ valid, (picked valid (Candidate.choose valid choice)).result = .ok c) ∨
        ∃ f, (picked valid (Candidate.choose valid choice)).result = .error (.failure f) ∧
          f.exit = .badChoice := by
    intro choice
    cases hchoice : Candidate.choose valid choice with
    | error e => exact .inr ⟨_, rfl, rfl⟩
    | ok c => exact .inl ⟨c, mem_of_choose hchoice, rfl⟩
  unfold chooseAmong
  split
  · exact hpicked _
  · exact .inl ⟨_, List.mem_singleton_self _, rfl⟩
  · split
    · rw [result_bind_ok (w := Work.ask _) rfl]
      exact hpicked (Candidate.firstLine x.answer)
    · exact .inr ⟨_, rfl, rfl⟩

/-- A question is heard in any case. -/
theorem shown_chooseAmong (valid : List Candidate) (pick : Option String) :
    (x.chooseAmong valid pick).Shown filter := by
  have hpicked : ∀ choice, (picked valid choice).Shown filter := fun choice => shown_ofExcept _ _
  have hask : ∀ question, (Work.ask question).Shown filter := fun question n hn => by
    cases List.mem_singleton.1 hn
    rfl
  unfold chooseAmong
  split
  · exact hpicked _
  · exact Work.shown_of_notes_eq_nil rfl
  · split
    · exact (hask _).bind fun _ _ => hpicked _
    · exact Work.shown_of_notes_eq_nil rfl

/-! ### The blueprints in the directories -/

theorem candidates_any (monitors : List Monitor) (paths : List String) :
    (Blueprint.candidates monitors x.files paths).1.map (·.any Candidate.fits) =
      anyFits? x.files monitors paths := by
  induction paths with
  | nil => rfl
  | cons path rest ih =>
    unfold Blueprint.candidates anyFits?
    rw [← ih]
    cases hload : Blueprint.load path x.files with
    | error e =>
      -- A file that cannot be loaded is passed over, and does not fit.
      have hfits : fitsFile? x.files monitors path = some false := by rw [fitsFile?, hload]
      rw [hfits]
      dsimp only [Option.bind_some]
      cases (Blueprint.candidates monitors x.files rest).1 <;> simp
    | ok b =>
      rw [← x.fits_candidate? monitors hload]
      dsimp only
      cases Blueprint.candidate? path b monitors with
      | none => rfl
      | some c =>
        cases (Blueprint.candidates monitors x.files rest).1 <;> simp

theorem mem_candidates {paths : List String} {monitors : List Monitor} {cs : List Candidate}
    (h : (Blueprint.candidates monitors x.files paths).1 = some cs) {c : Candidate} (hc : c ∈ cs) :
    ∃ path ∈ paths, ∃ b, Blueprint.load path x.files = .ok b ∧
      Blueprint.candidate? path b monitors = some c := by
  induction paths generalizing cs with
  | nil =>
    cases h
    cases hc
  | cons path rest ih =>
    -- A candidate of the later files is found by induction.
    have hlater : ∀ cs', (Blueprint.candidates monitors x.files rest).1 = some cs' → c ∈ cs' →
        ∃ p ∈ path :: rest, ∃ b, Blueprint.load p x.files = .ok b ∧
          Blueprint.candidate? p b monitors = some c := by
      intro cs' hcs' hc'
      obtain ⟨p, hp, hfound⟩ := ih hcs' hc'
      exact ⟨p, List.mem_cons_of_mem path hp, hfound⟩
    unfold Blueprint.candidates at h
    cases hload : Blueprint.load path x.files with
    | error e =>
      rw [hload] at h
      exact hlater cs h hc
    | ok b =>
      rw [hload] at h
      dsimp only at h
      cases hcandidate : Blueprint.candidate? path b monitors with
      | none =>
        rw [hcandidate] at h
        cases h
      | some first =>
        rw [hcandidate] at h
        obtain ⟨cs', hcs', rfl⟩ := Option.map_eq_some_iff.1 h
        rcases List.mem_cons.1 hc with rfl | hc'
        · exact ⟨path, List.mem_cons_self, b, hload, hcandidate⟩
        · exact hlater cs' hcs' hc'

theorem line?_candidates (monitors : List Monitor) (paths : List String) :
    ∀ e ∈ (Blueprint.candidates monitors x.files paths).2, e.line?.isSome := by
  induction paths with
  | nil => exact List.forall_mem_nil _
  | cons path rest ih =>
    unfold Blueprint.candidates
    cases Blueprint.load path x.files with
    | error e => exact List.forall_mem_cons.2 ⟨by simp [Event.line?_isSome_iff], ih⟩
    | ok b =>
      dsimp only
      cases Blueprint.candidate? path b monitors with
      | none => simpa using line?_loadedEvent path b
      | some c =>
        have hcandidate : (Blueprint.candidateEvent c).line?.isSome := by
          unfold Blueprint.candidateEvent
          split <;> simp [Event.line?_isSome_iff]
        exact List.forall_mem_cons.2 ⟨line?_loadedEvent path b,
          List.forall_mem_cons.2 ⟨hcandidate, ih⟩⟩

/-- The blueprints in the directories of the settings that fit the monitors. -/
def fitting? (monitors : List Monitor) : Checked (List Candidate) :=
  (Blueprint.candidates monitors x.files x.blueprintPaths).1.map (·.filter Candidate.fits)

/-- There is a blueprint that fits exactly when one of the files fits. -/
theorem fitting?_isEmpty (monitors : List Monitor) :
    (x.fitting? monitors).map (fun valid => !valid.isEmpty) =
      anyFits? x.files monitors x.blueprintPaths := by
  rw [← candidates_any, fitting?, Option.map_map]
  refine congrArg (Option.map · _) (funext fun cs => ?_)
  rw [Function.comp_apply, Bool.eq_iff_iff]
  simp [List.filter_eq_nil_iff]

theorem mem_fitting? {monitors : List Monitor} {valid : List Candidate}
    (h : x.fitting? monitors = some valid) {c : Candidate} (hc : c ∈ valid) :
    ∃ path ∈ x.blueprintPaths, ∃ b, Blueprint.load path x.files = .ok b ∧
      Blueprint.candidate? path b monitors = some c ∧ c.fits = true := by
  obtain ⟨cs, hcs, rfl⟩ := Option.map_eq_some_iff.1 h
  obtain ⟨hc, hfits⟩ := List.mem_filter.1 hc
  obtain ⟨path, hpath, b, hload, hcandidate⟩ := x.mem_candidates hcs hc
  exact ⟨path, hpath, b, hload, hcandidate, hfits⟩

/-- Where the blueprints cannot be compared, the choice is stopped. -/
theorem result_foundCandidate_stop (pick : Option String) {monitors : List Monitor}
    (h : x.fitting? monitors = none) :
    (x.foundCandidate pick monitors).result = .error .stop := by
  have hcandidates := Option.map_eq_none_iff.1 h
  unfold foundCandidate
  rw [result_bind_ok (w := x.findBlueprints) rfl, result_bind_ok (Work.result_tell _), hcandidates]
  rfl

/-- Where no blueprint fits, there is nothing to choose, and no name is offered. -/
theorem result_foundCandidate_nothing (pick : Option String) {monitors : List Monitor}
    (h : x.fitting? monitors = some []) :
    ∃ f, (x.foundCandidate pick monitors).result = .error (.failure f) ∧ f.exit = .noBlueprint ∧
      f.suggestions = [] := by
  obtain ⟨cs, hcs, hnone⟩ := Option.map_eq_some_iff.1 h
  unfold foundCandidate
  rw [result_bind_ok (w := x.findBlueprints) rfl, result_bind_ok (Work.result_tell _), hcs]
  exact ⟨_, congrArg Work.result (if_pos (List.isEmpty_iff.2 hnone)), rfl, rfl⟩

/-- Where blueprints fit, one of them is chosen. -/
theorem result_foundCandidate (pick : Option String) {monitors : List Monitor}
    {valid : List Candidate} (h : x.fitting? monitors = some valid) (hvalid : valid ≠ []) :
    (x.foundCandidate pick monitors).result = (x.chooseAmong valid pick).result := by
  obtain ⟨cs, hcs, rfl⟩ := Option.map_eq_some_iff.1 h
  unfold foundCandidate
  rw [result_bind_ok (w := x.findBlueprints) rfl, result_bind_ok (Work.result_tell _), hcs]
  exact congrArg Work.result (if_neg fun hempty => hvalid (List.isEmpty_iff.1 hempty))

theorem shown_foundCandidate (pick : Option String) (monitors : List Monitor) :
    (x.foundCandidate pick monitors).Shown filter := by
  refine x.shown_findBlueprints.bind fun paths _ =>
    (shown_tell (x.line?_candidates monitors paths)).bind fun _ _ =>
      (shown_ofChecked _).bind fun cs _ => ?_
  dsimp only
  split
  · exact Work.shown_of_notes_eq_nil rfl
  · exact x.shown_chooseAmong _ pick

theorem foundCandidate_end (pick : Option String) (monitors : List Monitor) :
    x.ChoiceEnd monitors none (x.foundCandidate pick monitors).result := by
  have hany := x.fitting?_isEmpty monitors
  cases hfitting : x.fitting? monitors with
  | none =>
    rw [hfitting] at hany
    rw [x.result_foundCandidate_stop pick hfitting]
    exact .unsearched hany.symm
  | some valid =>
    rw [hfitting] at hany
    by_cases hnone : valid = []
    · subst hnone
      obtain ⟨f, hresult, hexit, -⟩ := x.result_foundCandidate_nothing pick hfitting
      rw [hresult]
      exact .nothing hany.symm hexit
    · have hsome : anyFits? x.files monitors x.blueprintPaths = some true := by
        rw [← hany]
        simpa using hnone
      rw [x.result_foundCandidate pick hfitting hnone]
      rcases x.chooseAmong_cases valid pick with ⟨c, hc, hresult⟩ | ⟨f, hresult, hexit⟩
      · obtain ⟨path, hpath, b, hload, hcandidate, hfits⟩ := x.mem_fitting? hfitting hc
        rw [hresult]
        exact .found hsome hpath hload hcandidate hfits
      · rw [hresult]
        exact .undecided hsome hexit

/-- How the choice of a blueprint ends. -/
theorem chooseBlueprint_end (explicit pick : Option String) (monitors : List Monitor) :
    x.ChoiceEnd monitors explicit (x.chooseBlueprint explicit pick monitors).result := by
  cases explicit with
  | none => exact x.foundCandidate_end pick monitors
  | some path => exact x.explicitCandidate_end path monitors

theorem shown_chooseBlueprint (explicit pick : Option String) (monitors : List Monitor) :
    (x.chooseBlueprint explicit pick monitors).Shown filter := by
  cases explicit with
  | none => exact x.shown_foundCandidate pick monitors
  | some path => exact x.shown_explicitCandidate path monitors

/-- The monitors fit a blueprint that was chosen. -/
theorem mapping_of_chosen {explicit pick : Option String} {monitors : List Monitor} {c : Candidate}
    (h : (x.chooseBlueprint explicit pick monitors).result = .ok c) :
    ∃ mapping, MonitorCheck.mapping? c.blueprint.monitorMatch monitors = some (.ok mapping) := by
  have hmapping : ∀ {path b}, Blueprint.candidate? path b monitors = some c → c.fits = true →
      ∃ mapping, MonitorCheck.mapping? c.blueprint.monitorMatch monitors = some (.ok mapping) := by
    intro path b hcandidate hfits
    obtain ⟨check, hcheck, rfl⟩ := Option.map_eq_some_iff.1 hcandidate
    have hok : check.mapping = .ok (MonitorCheck.resolved check.entries) :=
      MonitorCheck.mapping_eq_ok_iff.2 ⟨List.isEmpty_iff.1 hfits, rfl⟩
    exact ⟨_, (congrArg (Option.map MonitorCheck.mapping) hcheck).trans (congrArg some hok)⟩
  have hend := x.chooseBlueprint_end explicit pick monitors
  rw [h] at hend
  cases hend with
  | accepted hload hfits hcandidate hc => exact hmapping hcandidate hc
  | found hany hmem hload hcandidate hc => exact hmapping hcandidate hc

end Workspace

/-! ### Applying -/

/-- Applying a blueprint whose monitors fit ends the program, or with a report, or because an init
script fails. -/
theorem apply_of_mapping {b : Blueprint} {monitors : List Monitor} {mapping : MonitorAssignment}
    (h : MonitorCheck.mapping? b.monitorMatch monitors = some (.ok mapping)) {σ : Type}
    (placer : Placer σ) (windows : List Window) (options : RunOptions) (host : σ) :
    (apply placer b monitors windows options host).1 = none ∨
      (∃ report, (apply placer b monitors windows options host).1 = some (.ok report)) ∨
      ∃ e, (apply placer b monitors windows options host).1 = some (.error (.initScript e)) := by
  have hran : RanAs placer b monitors windows options host _ := ranAs_apply
  generalize apply placer b monitors windows options host = ran at hran ⊢
  cases hran with
  | unmeasured hmapping => exact .inl rfl
  | unfit hmapping => cases h.symm.trans hmapping
  | uninitialised hmapping hinit => exact .inr (.inr ⟨_, rfl⟩)
  | stopped hmapping hinit hstopped => exact .inl rfl
  | reported hmapping hinit hprocessed => exact .inr (.inl ⟨_, rfl⟩)

/-- Monitors can be told of when they can be measured, or when they are not shown. -/
theorem shown_monitors_iff {filter : LogFilter} {monitors : List Monitor} :
    (Work.tell (monitors.map monitorEvent)).Shown filter ↔
      ∀ m ∈ monitors, filter.shows (monitorEvent m) → m.monitorRect.Measurable := by
  have hmonitor : ∀ m : Monitor, ((Note.event (monitorEvent m)).shown? filter).isSome ↔
      (filter.shows (monitorEvent m) → m.monitorRect.Measurable) := by
    intro m
    rw [Note.shown?_event_isSome_iff, Event.line?_isSome_iff, ← Monitor.describe?_isSome_iff]
    simp [monitorEvent]
  simp only [Work.Shown, AllShown, Work.tell, List.forall_mem_map, hmonitor]

namespace Workspace

variable (x : Workspace) {filter : LogFilter}

/-- Once the monitors fit, the application of a candidate fails only with an init script. -/
theorem applyCandidate_cases {c : Candidate} {d : Desktop} {mapping : MonitorAssignment}
    (h : MonitorCheck.mapping? c.blueprint.monitorMatch d.monitors = some (.ok mapping))
    (options : RunOptions) :
    (∃ a, (applyCandidate c d options).result = .ok a) ∨
      (∃ f, (applyCandidate c d options).result = .error (.failure f) ∧ f.exit = .badFile) ∨
      (applyCandidate c d options).result = .error .stop := by
  have hends := apply_of_mapping h .recorder d.liveWindows options []
  unfold applyCandidate
  rcases happly : apply .recorder c.blueprint d.monitors d.liveWindows options [] with
    ⟨result, placements, events⟩
  rw [happly] at hends
  rcases hends with hstop | ⟨report, hreport⟩ | ⟨e, he⟩
  · cases hstop
    exact .inr (.inr rfl)
  · cases hreport
    exact .inl ⟨_, rfl⟩
  · cases he
    exact .inr (.inl ⟨_, rfl, rfl⟩)

/-- What is applied once the desktop is open. -/
theorem result_applyBlueprint {d : Desktop} (hopen : Desktop.openAt x.desktopPath x.files = .ok d)
    (explicit : Option String) (dryRun : Bool) (pick : Option String) :
    (x.applyBlueprint explicit dryRun pick).result =
      (x.chooseBlueprint explicit pick d.monitors).result.bind fun c =>
        (applyCandidate c d ⟨dryRun || x.settings.dryRun, d.taskbarAvailable,
          x.settings.fuzzyThreshold.val.toNat⟩).result := by
  have hread := x.result_readDesktop
  rw [hopen] at hread
  rw [applyBlueprint, result_bind_ok hread, result_bind_ok (Work.result_tell _)]
  cases hchoice : (x.chooseBlueprint explicit pick d.monitors).result with
  | error f => exact result_bind_error hchoice _
  | ok c => rw [result_bind_ok hchoice, result_bind_ok (Work.result_tell _)]; rfl

/-- An application of which the filter shows the monitors stops at one that cannot be measured. -/
def StopsAtMonitors (filter : LogFilter) : Prop :=
  ∃ d, Desktop.openAt x.desktopPath x.files = .ok d ∧
    ∃ m ∈ d.monitors, filter.shows (monitorEvent m) ∧ ¬ m.monitorRect.Measurable

theorem exitUnder_applyCommand_of_stops (h : x.StopsAtMonitors filter) (explicit : Option String)
    (dryRun : Bool) (pick : Option String) :
    (x.applyCommand explicit dryRun pick).exitUnder filter = .stopped := by
  obtain ⟨d, hopen, m, hm, hshows, hmeasurable⟩ := h
  have hread := x.result_readDesktop
  rw [hopen] at hread
  refine exitUnder_of_hidden fun hshown => hmeasurable ?_
  exact shown_monitors_iff.1 (hshown.of_bind.of_bind_ok hread).of_bind m hm hshows

/-- After a blueprint has been chosen, only an init script or a measure can end the application. -/
theorem exitUnder_applyCommand_of_chosen {d : Desktop} {explicit pick : Option String}
    {c : Candidate} (hopen : Desktop.openAt x.desktopPath x.files = .ok d)
    (hchoice : (x.chooseBlueprint explicit pick d.monitors).result = .ok c) (dryRun : Bool) :
    let exit := (x.applyCommand explicit dryRun pick).exitUnder filter
    exit = .success ∨ exit = .badFile ∨ exit = .stopped := by
  have happly := x.result_applyBlueprint hopen explicit dryRun pick
  rw [hchoice] at happly
  obtain ⟨mapping, hmapping⟩ := x.mapping_of_chosen hchoice
  dsimp only
  by_cases hshown : (x.applyCommand explicit dryRun pick).Shown filter
  · rw [exitUnder_of_shown hshown, applyCommand]
    rcases applyCandidate_cases hmapping ⟨dryRun || x.settings.dryRun, d.taskbarAvailable,
      x.settings.fuzzyThreshold.val.toNat⟩ with ⟨a, ha⟩ | ⟨f, hf, hexit⟩ | hstop
    · rw [result_bind_ok (happly.trans ha)]
      -- The answer in words tells extents, too.
      cases a.output? x.form with
      | some output => exact .inl rfl
      | none => exact .inr (.inr rfl)
    · rw [result_bind_error (happly.trans hf)]
      exact .inr (.inl hexit)
    · rw [result_bind_error (happly.trans hstop)]
      exact .inr (.inr rfl)
  · exact .inr (.inr (exitUnder_of_hidden hshown))

/-- Otherwise its exit status is determined by the way the choice of the blueprint ends. -/
theorem exitUnder_applyCommand (h : ¬ x.StopsAtMonitors filter) (explicit : Option String)
    (dryRun : Bool) (pick : Option String) :
    let exit := (x.applyCommand explicit dryRun pick).exitUnder filter
    match Desktop.openAt x.desktopPath x.files with
    | .error _ => exit = .failure
    | .ok d =>
      match (x.chooseBlueprint explicit pick d.monitors).result with
      | .error i => exit = i.exit
      | .ok _ => exit = .success ∨ exit = .badFile ∨ exit = .stopped := by
  have hread := x.result_readDesktop
  cases hopen : Desktop.openAt x.desktopPath x.files with
  | error e =>
    rw [hopen] at hread
    have hshown : (x.applyBlueprint explicit dryRun pick).Shown filter :=
      x.shown_readDesktop.bind fun d hd => nomatch hread.symm.trans hd
    exact exitUnder_bind_of_error hshown (result_bind_error hread _) _
  | ok d =>
    rw [hopen] at hread
    -- The monitors are told of before the choice, and nothing of them is silenced.
    have hmonitors : (Work.tell (d.monitors.map monitorEvent)).Shown filter :=
      shown_monitors_iff.2 fun m hm hshows => by_contra fun hmeasurable =>
        h ⟨d, hopen, m, hm, hshows, hmeasurable⟩
    dsimp only
    cases hchoice : (x.chooseBlueprint explicit pick d.monitors).result with
    | error i =>
      have happly := x.result_applyBlueprint hopen explicit dryRun pick
      rw [hchoice] at happly
      have hshown : (x.applyBlueprint explicit dryRun pick).Shown filter := by
        refine x.shown_readDesktop.bind fun d' hd' => ?_
        cases hread.symm.trans hd'
        exact hmonitors.bind fun _ _ => (x.shown_chooseBlueprint explicit pick d.monitors).bind
          fun c hc => nomatch hchoice.symm.trans hc
      exact exitUnder_bind_of_error hshown happly _
    | ok c => exact x.exitUnder_applyCommand_of_chosen hopen hchoice dryRun

/-! ### The two commands in one workspace -/

/-- A check finds nothing that fits exactly when an application finds nothing. -/
theorem noBlueprint_iff (h : ¬ x.StopsAtMonitors filter) (checkFilter : LogFilter) (dryRun : Bool)
    (pick : Option String) :
    (x.checkCommand none).exitUnder checkFilter = .noBlueprint ↔
      (x.applyCommand none dryRun pick).exitUnder filter = .noBlueprint := by
  have happly := x.exitUnder_applyCommand h none dryRun pick
  rw [exitUnder_checkCommand]
  cases hopen : Desktop.openAt x.desktopPath x.files with
  | error e =>
    rw [hopen] at happly
    rw [happly]
  | ok d =>
    rw [hopen] at happly
    have hend := x.chooseBlueprint_end none pick d.monitors
    dsimp only at happly ⊢
    cases hchoice : (x.chooseBlueprint none pick d.monitors).result with
    | error i =>
      rw [hchoice] at happly hend
      rw [happly]
      cases hend with
      | unsearched hany => simp [Interruption.exit, fitExit, hany]
      | nothing hany hexit => simp [Interruption.exit, fitExit, hany, hexit]
      | undecided hany hexit => simp [Interruption.exit, fitExit, hany, hexit]
    | ok c =>
      rw [hchoice] at happly hend
      cases hend with
      | found hany hmem hload hcandidate hc =>
        rcases happly with h | h | h <;> simp [h, fitExit, hany]

/-- A check of a file finds that its monitors do not fit exactly when an application does. -/
theorem mismatch_iff (h : ¬ x.StopsAtMonitors filter) (checkFilter : LogFilter) (path : String)
    (dryRun : Bool) (pick : Option String) :
    (x.checkCommand (some path)).exitUnder checkFilter = .mismatch ↔
      (x.applyCommand (some path) dryRun pick).exitUnder filter = .mismatch := by
  have happly := x.exitUnder_applyCommand h (some path) dryRun pick
  rw [exitUnder_checkCommand]
  cases hopen : Desktop.openAt x.desktopPath x.files with
  | error e =>
    rw [hopen] at happly
    rw [happly]
  | ok d =>
    rw [hopen] at happly
    have hend := x.chooseBlueprint_end (some path) pick d.monitors
    dsimp only at happly ⊢
    cases hchoice : (x.chooseBlueprint (some path) pick d.monitors).result with
    | error i =>
      rw [hchoice] at happly hend
      rw [happly]
      cases hend with
      | unloadable hload hexit => simp [Interruption.exit, hload, hexit]
      | uncompared hload hfits => simp [Interruption.exit, fitExit, hload, hfits]
      | refused hload hfits hexit => simp [Interruption.exit, fitExit, hload, hfits, hexit]
    | ok c =>
      rw [hchoice] at happly hend
      cases hend with
      | accepted hload hfits hcandidate hc =>
        rcases happly with h | h | h <;> simp [h, fitExit, hload, hfits]

/-- A file that a check finds to fit is chosen. -/
theorem chosen_of_success {path : String}
    (h : (x.checkCommand (some path)).exitUnder filter = .success) (pick : Option String) :
    ∃ d c, Desktop.openAt x.desktopPath x.files = .ok d ∧
      (x.chooseBlueprint (some path) pick d.monitors).result = .ok c := by
  rw [exitUnder_checkCommand] at h
  cases hopen : Desktop.openAt x.desktopPath x.files with
  | error e =>
    rw [hopen] at h
    cases h
  | ok d =>
    rw [hopen] at h
    have hend := x.chooseBlueprint_end (some path) pick d.monitors
    dsimp only at h
    cases hchoice : (x.chooseBlueprint (some path) pick d.monitors).result with
    | ok c => exact ⟨d, c, rfl, hchoice⟩
    | error i =>
      rw [hchoice] at hend
      cases hend with
      | unloadable hload hexit => simp [hload] at h
      | uncompared hload hfits => simp [fitExit, hload, hfits] at h
      | refused hload hfits hexit => simp [fitExit, hload, hfits] at h

end Workspace

/-! ### Two runs on the same ground -/

/-- The workspace of a run that checks or applies, unless its settings cannot be loaded. -/
def workspace? (r : Request) (s : Surroundings) : Option Workspace :=
  (loadSettings r s).1.toOption.map fun settings =>
    { settings := settings
      form := OutputForm.choose r.quiet false none r.json r.noJson s.outputIsTerminal
      desktopPath := r.desktopPath.or s.environment.desktopPath
      home := s.environment.home
      files := (loadSettings r s).2
      interactive := s.inputIsTerminal
      answer := s.answer }

/-- The exit status of a run whose command works in a workspace. -/
theorem exit_run {s : Surroundings} {r : Request} (hread : Request.read s.arguments = .ok r)
    {work : Workspace → Work (Exit × String)}
    (hwork : ∀ files loaded, (answer r s files loaded).1 =
      withWorkspace r s files loaded false none work) :
    (run s).reply.exit =
      ((workspace? r s).map fun x => (work x).exitUnder (run s).filter).getD .badFile := by
  have hanswered : answered r s = _ := hwork (loadSettings r s).2 (loadSettings r s).1
  unfold withWorkspace at hanswered
  unfold workspace?
  cases hloaded : (loadSettings r s).1 with
  | error e =>
    rw [hloaded] at hanswered
    rw [exit_of_answered hread hanswered, exitUnder_of_shown (Work.shown_of_notes_eq_nil rfl)]
    rfl
  | ok settings =>
    rw [hloaded] at hanswered
    exact exit_of_answered hread hanswered

/-- The two runs have the same settings, the same desktop and the same directories. -/
structure SameGround (s t : Surroundings) (r q : Request) : Prop where
  settings : Settings.path r.settingsPath s.environment = Settings.path q.settingsPath t.environment
  desktop : r.desktopPath.or s.environment.desktopPath =
    q.desktopPath.or t.environment.desktopPath
  home : s.environment.home = t.environment.home
  files : s.files = t.files

/-- On the same ground a check comes to the same as it would in the workspace of the other run. -/
theorem SameGround.exit_check {s t : Surroundings} {r q : Request} (h : SameGround s t r q)
    (filter : LogFilter) (explicit : Option String) :
    (workspace? r s).map (fun x => (x.checkCommand explicit).exitUnder filter) =
      (workspace? q t).map fun y => (y.checkCommand explicit).exitUnder filter := by
  have hload : loadSettings r s = loadSettings q t := by
    unfold loadSettings
    rw [h.settings, h.files]
  unfold workspace?
  rw [hload, h.desktop, h.home, Option.map_map, Option.map_map]
  refine congrArg (Option.map · _) (funext fun settings => ?_)
  simp only [Function.comp_apply, Workspace.exitUnder_checkCommand]
  rfl

/-- The desktop of a run, if its settings can be loaded and the desktop can be opened. -/
def desktop? (r : Request) (s : Surroundings) : Option Desktop :=
  (workspace? r s).bind fun x => (Desktop.openAt x.desktopPath x.files).toOption

theorem desktop?_eq_some_iff {r : Request} {s : Surroundings} {d : Desktop} :
    desktop? r s = some d ↔
      ∃ x, workspace? r s = some x ∧ Desktop.openAt x.desktopPath x.files = .ok d := by
  have htoOption : ∀ e : Except Desktop.OpenError Desktop, e.toOption = some d ↔ e = .ok d := by
    intro e
    cases e <;> simp [Except.toOption]
  simp only [desktop?, Option.bind_eq_some_iff, htoOption]

/-- With settings the desktop of a run is the one that is opened. -/
theorem desktop?_of_loaded {r : Request} {s : Surroundings} {settings : Settings}
    (h : (loadSettings r s).1 = .ok settings) {d : Desktop} :
    desktop? r s = some d ↔
      Desktop.openAt (r.desktopPath.or s.environment.desktopPath) (loadSettings r s).2 = .ok d := by
  rw [desktop?_eq_some_iff, workspace?, h]
  constructor
  · rintro ⟨x, hx, hopen⟩
    cases hx
    exact hopen
  · exact fun hopen => ⟨_, rfl, hopen⟩

/-- The run of an application has chosen a blueprint to apply to a desktop. -/
def Chooses (q : Request) (t : Surroundings) (explicit pick : Option String) (d : Desktop)
    (c : Candidate) : Prop :=
  ∃ y, workspace? q t = some y ∧ Desktop.openAt y.desktopPath y.files = .ok d ∧
    (y.chooseBlueprint explicit pick d.monitors).result = .ok c

/-- The filter of a run shows the monitors that are told of, and one of those of the desktop cannot
be measured. -/
def StopsAtMonitors (q : Request) (t : Surroundings) : Prop :=
  ∃ d ∈ desktop? q t, ∃ m ∈ d.monitors,
    (run t).filter.shows (monitorEvent m) ∧ ¬ m.monitorRect.Measurable

instance (q : Request) (t : Surroundings) : Decidable (StopsAtMonitors q t) :=
  inferInstanceAs (Decidable (∃ d ∈ desktop? q t, ∃ m ∈ d.monitors, _ ∧ _))

theorem stopsAtMonitors_iff {q : Request} {t : Surroundings} :
    StopsAtMonitors q t ↔ ∃ y, workspace? q t = some y ∧ y.StopsAtMonitors (run t).filter := by
  constructor
  · rintro ⟨d, hd, hm⟩
    obtain ⟨y, hy, hopen⟩ := desktop?_eq_some_iff.1 hd
    exact ⟨y, hy, d, hopen, hm⟩
  · rintro ⟨y, hy, d, hopen, hm⟩
    exact ⟨d, desktop?_eq_some_iff.2 ⟨y, hy, hopen⟩, hm⟩

/-- The numbers tell the ways to end apart. -/
theorem Exit.code_eq_iff (a b : Exit) : a.code = b.code ↔ a = b := by
  cases a <;> cases b <;> decide

/-- A run that checks and a run that applies, on the same ground. The application is stopped,
whatever the check ends with, where it shows a monitor that cannot be measured. Otherwise the two
agree on what fits: without a path one of them finds nothing that fits exactly when the other does;
with a path one of them finds that the monitors do not fit exactly when the other does, and a file
that is found to fit is chosen, after which only an init script or a measure can end the
application. In any case the monitors are never found not to fit a blueprint that was chosen. -/
theorem check_agrees_with_apply {s t : Surroundings} {r q : Request} {explicit pick : Option String}
    {dryRun : Bool}
    (hcheck : Request.read s.arguments = .ok r) (hchecks : r.action = .check explicit)
    (happly : Request.read t.arguments = .ok q) (happlies : q.action = .apply explicit dryRun pick)
    (hground : SameGround s t r q) :
    (StopsAtMonitors q t → (run t).reply.exit.code = 101) ∧
    (¬ StopsAtMonitors q t →
      (explicit = none → ((run s).reply.exit.code = 8 ↔ (run t).reply.exit.code = 8)) ∧
      (explicit ≠ none → ((run s).reply.exit.code = 7 ↔ (run t).reply.exit.code = 7)) ∧
      (explicit ≠ none → (run s).reply.exit.code = 0 →
        (∃ d c, Chooses q t explicit pick d c) ∧
        ((run t).reply.exit = .success ∨ (run t).reply.exit = .badFile ∨
          (run t).reply.exit = .stopped))) ∧
    ∀ d c, Chooses q t explicit pick d c → ∀ options issues,
      (apply .recorder c.blueprint d.monitors d.liveWindows options []).1 ≠
        some (.error (.monitorMatch issues)) := by
  -- Both exit statuses are those of commands in one workspace, under the filters of the two runs.
  have hexit_s : (run s).reply.exit = ((workspace? q t).map fun y =>
      (y.checkCommand explicit).exitUnder (run s).filter).getD .badFile :=
    (exit_run hcheck fun _ _ => by rw [answer, hchecks]).trans
      (congrArg (Option.getD · Exit.badFile) (hground.exit_check _ explicit))
  have hexit_t : (run t).reply.exit = ((workspace? q t).map fun y =>
      (y.applyCommand explicit dryRun pick).exitUnder (run t).filter).getD .badFile :=
    exit_run happly fun _ _ => by rw [answer, happlies]
  have hstopped : ∀ e : Exit, e.code = 101 ↔ e = .stopped := fun e => e.code_eq_iff .stopped
  have hnone : ∀ e : Exit, e.code = 8 ↔ e = .noBlueprint := fun e => e.code_eq_iff .noBlueprint
  have hmismatch : ∀ e : Exit, e.code = 7 ↔ e = .mismatch := fun e => e.code_eq_iff .mismatch
  have hsuccess : ∀ e : Exit, e.code = 0 ↔ e = .success := fun e => e.code_eq_iff .success
  rw [hstopped, hnone, hnone, hmismatch, hmismatch, hsuccess, hexit_s, hexit_t, stopsAtMonitors_iff]
  refine ⟨?_, fun hstops => ⟨?_, ?_, ?_⟩, ?_⟩
  · rintro ⟨y, hy, hstops⟩
    rw [hy]
    exact y.exitUnder_applyCommand_of_stops hstops explicit dryRun pick
  · rintro rfl
    cases hy : workspace? q t with
    | none => exact Iff.rfl
    | some y => exact y.noBlueprint_iff (fun h => hstops ⟨y, hy, h⟩) _ dryRun pick
  · intro hpath
    obtain ⟨path, rfl⟩ := Option.ne_none_iff_exists'.1 hpath
    cases hy : workspace? q t with
    | none => exact Iff.rfl
    | some y => exact y.mismatch_iff (fun h => hstops ⟨y, hy, h⟩) _ path dryRun pick
  · intro hpath hfits
    obtain ⟨path, rfl⟩ := Option.ne_none_iff_exists'.1 hpath
    cases hy : workspace? q t with
    | none =>
      rw [hy] at hfits
      cases hfits
    | some y =>
      rw [hy] at hfits
      obtain ⟨d, c, hopen, hchoice⟩ := y.chosen_of_success hfits pick
      have hends := y.exitUnder_applyCommand (fun h => hstops ⟨y, hy, h⟩) (some path) dryRun pick
      rw [hopen] at hends
      dsimp only at hends
      rw [hchoice] at hends
      exact ⟨⟨d, c, y, hy, hopen, hchoice⟩, hends⟩
  · rintro d c ⟨y, -, -, hchoice⟩ options issues
    obtain ⟨mapping, hmapping⟩ := y.mapping_of_chosen hchoice
    rcases apply_of_mapping hmapping .recorder d.liveWindows options [] with
      h | ⟨report, h⟩ | ⟨e, h⟩ <;> simp [h]

/-- A file with a desktop of one screen between two edges, beside the file with a blueprint for a
screen of common size. -/
def screenFiles (left right : String) : FileTree where
  entries := (["desk"], .file ("\x7b\"monitors\": [\x7b\"handle\": 1, \"name\": \"A\", " ++
    "\"monitorRect\": [" ++ left ++ ", 0, " ++ right ++ ", 1080], " ++
    "\"workAreaRect\": [0, 0, 1920, 1040], \"dpiX\": 96, \"dpiY\": 96\x7d]\x7d")) ::
    deskFiles.entries
  current := []

/-- A run on these files. -/
def screenRun (left right : String) (arguments : List String) : Surroundings where
  arguments := arguments
  environment := { home := some "/", desktopPath := some "desk" }
  files := screenFiles left right

/-- A run on a desktop that the blueprint fits. -/
def sharedRun : List String → Surroundings := screenRun "0" "1920"

/-- A run on a desktop with a screen as wide as the whole range of coordinates. -/
def wideRun : List String → Surroundings := screenRun "-2147483648" "2147483647"

/-- The blueprint is checked and chosen by its path. No directory holds a blueprint file, so
without the path there is nothing to check and nothing to pick from. -/
theorem agreement_on_sharedFiles :
    ((run (sharedRun ["check", "plain"])).reply.exit.code = 0 ∧
      ∃ d c, Chooses ⟨.apply (some "plain") true none, none, none, false, false, true, {}⟩
        (sharedRun ["--quiet", "apply", "--dry-run", "plain"]) (some "plain") none d c) ∧
    (run (sharedRun ["check"])).reply.exit.code = 8 ∧
    (run (sharedRun ["apply", "--pick", "1", "--json"])).reply.exit.code = 8 := by
  have hplain : (run (sharedRun ["check", "plain"])).reply.exit.code = 0 := by decide +kernel
  have hcheck : (run (sharedRun ["check"])).reply.exit.code = 8 := by decide +kernel
  obtain ⟨-, hagree, -⟩ := check_agrees_with_apply (s := sharedRun ["check", "plain"])
    (t := sharedRun ["--quiet", "apply", "--dry-run", "plain"])
    (r := ⟨.check (some "plain"), none, none, false, false, false, {}⟩)
    (q := ⟨.apply (some "plain") true none, none, none, false, false, true, {}⟩)
    rfl rfl rfl rfl ⟨rfl, rfl, rfl, rfl⟩
  obtain ⟨-, -, hchosen⟩ := hagree (by decide +kernel)
  obtain ⟨-, hagree, -⟩ := check_agrees_with_apply (s := sharedRun ["check"])
    (t := sharedRun ["apply", "--pick", "1", "--json"])
    (r := ⟨.check none, none, none, false, false, false, {}⟩)
    (q := ⟨.apply none false (some "1"), none, none, true, false, false, {}⟩)
    rfl rfl rfl rfl ⟨rfl, rfl, rfl, rfl⟩
  obtain ⟨hnothing, -⟩ := hagree (by decide +kernel)
  exact ⟨⟨hplain, (hchosen nofun hplain).1⟩, hcheck, (hnothing rfl).1 hcheck⟩

/-- With the wide screen nothing is compared, since no directory holds a blueprint file. A check
finds nothing that fits, and an application is stopped where it tells of the screen. -/
theorem disagreement_on_wideScreen :
    ∃ r q, Request.read (wideRun ["check"]).arguments = .ok r ∧ r.action = .check none ∧
      Request.read (wideRun ["apply"]).arguments = .ok q ∧ q.action = .apply none false none ∧
      SameGround (wideRun ["check"]) (wideRun ["apply"]) r q ∧
      (run (wideRun ["check"])).reply.exit.code = 8 ∧
      (run (wideRun ["apply"])).reply.exit.code = 101 :=
  ⟨⟨.check none, none, none, false, false, false, {}⟩,
    ⟨.apply none false none, none, none, false, false, false, {}⟩,
    rfl, rfl, rfl, rfl, ⟨rfl, rfl, rfl, rfl⟩, by decide +kernel, by decide +kernel⟩

end DeskPlan.Command
