import DeskPlan.Proofs.Apply.Run
import DeskPlan.Proofs.Blueprint.Diagnosis
import DeskPlan.Proofs.Blueprint.Selection
import DeskPlan.Proofs.Blueprint.Store
import DeskPlan.Proofs.Window.Order

/-!
# `DeskPlan.Proofs.Apply.Verified`: a blueprint without problems can be applied

A diagnosis looks at a blueprint alone. It reads every pattern, formula and script once, and
looks every target up among the declared names. A run reads them again: patterns through a
cache, scripts in a context that other scripts have changed, targets in the mapping of the
monitors that are there. The two share no code beyond the readers.

`RunError.isDefect` and `Verdict.isDefect` are the failures of a run that are the fault of the
blueprint. `apply_of_no_problems` says that an empty diagnosis rules them out:

* `JudgedAs.not_defect` is the step: under a sound plan (`Plan.Sound`) no window is judged
  defective, whatever the scripts, the cache and the host have come to;
* `error_not_defect` and `report_not_defect` are the whole run, and `error_ne_monitorMatch` and
  `ignoredRules_of_apply` what a diagnosis with a desktop is compared with.
-/

set_option autoImplicit false

namespace DeskPlan

variable {σ : Type}

/-! ### Failures that are the fault of the blueprint -/

/-- Whether a run ended for a script that does not compile. -/
def RunError.isDefect : RunError → Bool
  | monitorMatch _ => false
  | programWindows e | initScript e => e.isCompile

/-- Whether a window was left alone for an invalid pattern, for a target that is not declared or
for a formula that does not compile. -/
def Verdict.isDefect : Verdict → Bool
  | placed _ _ _ | noMatchingRule => false
  | patternFailure _ => true
  | skipped _ (.unknownTargetMonitor _ _) => true
  | skipped _ (.currentMonitorNotFound _) => false
  | skipped _ .currentRectUnavailable => false
  | skipped _ (.expression e) => e.isCompile

/-! ### One window -/

/-- A plan whose rules have no defects, the names of its mapping being the declared ones. -/
def Plan.Sound (plan : Plan) : Prop := ∀ r ∈ plan.rules, r.Sound plan.mapping.names

/-- Under a sound plan no window is judged defective. -/
theorem JudgedAs.not_defect {plan : Plan} {w : Window} {cache : PatternCache}
    {current : Option Rect} {monitor : Checked (Option Word64)} {context : Script.Context}
    {judged : Judgement} (hsound : plan.Sound)
    (h : JudgedAs plan w (chooseRule w plan.rules plan.taskbarAvailable cache).1 current monitor
      context judged) : judged.outcome.isDefect = false := by
  cases h with
  | patternFailure hchoice =>
    -- The blamed rule is sound, so the blamed pattern compiles.
    obtain ⟨r, hmem, -, hblames⟩ := chooseRule_eq_error (Prod.ext hchoice rfl)
    obtain ⟨regex, hregex⟩ := (hsound r hmem).patterns _ hblames.pattern
    exact nomatch hregex.symm.trans hblames.cause
  | noMatchingRule hchoice => rfl
  | noDestination hchoice hdestination =>
    obtain ⟨hmem, -⟩ := chooseRule_eq_some (Prod.ext hchoice rfl)
    rcases destination_eq_error hdestination with
      ⟨name, suggestions, hname, hmapping, rfl⟩ | ⟨-, handle, -, rfl⟩
    · obtain ⟨m, hm⟩ := (plan.mapping.mem_names_iff name).1 ((hsound _ hmem).target name hname)
      exact nomatch hm.symm.trans hmapping
    · rfl
  | noRect hchoice hdestination hrect => rfl
  | noTarget hchoice hdestination hrect hformulas htarget =>
    obtain ⟨hmem, -⟩ := chooseRule_eq_some (Prod.ext hchoice rfl)
    obtain ⟨constants, screen, -, -, rfl⟩ := targetFor?_eq_some_iff.1 hformulas
    exact targetOn_failsOnly _ _ _ (hsound _ hmem).formulas _ _ _ htarget
  | placed hchoice hdestination hrect hformulas htarget => rfl

/-! ### Whole runs -/

section
variable {placer : Placer σ} {b : Blueprint} {monitors : List Monitor} {windows : List Window}
  {options : RunOptions} {host : σ}

/-- The plan of a sound blueprint is sound, because a mapping has all the declared names. -/
theorem Blueprint.Sound.plan (h : b.Sound) {mapping : MonitorAssignment}
    (hmapping : (MonitorCheck.of b.monitorMatch monitors).mapping = .ok mapping) :
    (planOf b monitors mapping options).Sound := by
  intro r hmem
  show r.Sound mapping.names
  rw [MonitorCheck.names_of_mapping hmapping]
  exact h.rules r hmem

/-- What is reported on a window of a run with a sound blueprint is no fault of the blueprint. -/
theorem report_not_defect (h : b.Sound) {report : Report}
    (hreport : (apply placer b monitors windows options host).1 = some (.ok report)) :
    ∀ e ∈ report.windows, e.outcome.isDefect = false := by
  intro e he
  obtain ⟨mapping, hmapping, -, hentries⟩ := apply_visits (Prod.ext hreport rfl)
  obtain ⟨v, -, hv⟩ := exists_visit_of_mem hentries he
  obtain ⟨judged, hjudged, rfl⟩ := Option.map_eq_some_iff.1 hv
  exact (judgedAs_judge hjudged).not_defect (h.plan hmapping)

/-- A run with a sound blueprint does not fail for a script that does not compile. -/
theorem error_not_defect (h : b.Sound) {e : RunError}
    (he : (apply placer b monitors windows options host).1 = some (.error e)) :
    e.isDefect = false := by
  obtain ⟨after, events, hran⟩ := ranAs_of_answer he
  cases hran with
  | unfit hmapping => rfl
  | uninitialised hmapping hinit =>
    obtain ⟨source, hmem, number, before, after, hfails⟩ := runInits_eq_error _ _ _ _ hinit
    have hiff := Script.Session.isCompile_of_runInit hfails
    have hreads : Script.interpreter.Reads source :=
      Script.interpreter_reads_iff.2 (h.inits source hmem)
    simpa [RunError.isDefect, hreads] using hiff

/-- A run whose monitors fit does not fail for them. -/
theorem error_ne_monitorMatch (hissues : (MonitorCheck.of b.monitorMatch monitors).issues = [])
    {e : RunError} (he : (apply placer b monitors windows options host).1 = some (.error e))
    (issues : List MonitorIssue) : e ≠ .monitorMatch issues := by
  obtain ⟨after, events, hran⟩ := ranAs_of_answer he
  cases hran with
  | unfit hmapping =>
    have hfits := MonitorCheck.mapping_eq_ok_iff.2 ⟨hissues, rfl⟩
    exact nomatch hfits.symm.trans (MonitorCheck.mapping?_eq_some_iff.1 hmapping).2
  | uninitialised hmapping hinit => exact RunError.noConfusion

/-- What a run reports as ignored are the enabled rules that need what the host lacks. -/
theorem ignoredRules_of_apply {report : Report}
    (hreport : (apply placer b monitors windows options host).1 = some (.ok report)) :
    report.ignoredRules = ignoredRules b options := by
  obtain ⟨after, events, hran⟩ := ranAs_of_answer hreport
  cases hran with
  | reported hmapping hinit hprocessed => rfl

end

/-! ### The main statement -/

/-- A blueprint in which no problem is found can be applied. Whatever the monitors, the windows,
the host and the options, no script is refused for not compiling, and no window is left alone
for an invalid pattern, an unknown target or a formula that does not compile. If a diagnosis on
a desktop finds no problem either, a run on its monitors does not fail for them and ignores no
rule. A file in which no problem is found can be loaded. -/
theorem apply_of_no_problems (b : Blueprint) (threshold : Nat) :
    (b.problems? none threshold = some [] →
      ∀ (σ : Type) (placer : Placer σ) (monitors : List Monitor) (windows : List Window)
        (options : RunOptions) (host : σ),
        let run := apply placer b monitors windows options host
        (∀ e, run.1 = some (.error e) → e.isDefect = false) ∧
        ∀ report, run.1 = some (.ok report) → ∀ w ∈ report.windows, w.outcome.isDefect = false) ∧
    (∀ d : Desktop, b.problems? (some d) threshold = some [] →
      ∀ (σ : Type) (placer : Placer σ) (windows : List Window) (options : RunOptions) (host : σ),
        options.taskbarAvailable = d.taskbarAvailable →
        let run := apply placer b d.monitors windows options host
        (∀ e, run.1 = some (.error e) → ∀ issues, e ≠ .monitorMatch issues) ∧
        ∀ report, run.1 = some (.ok report) → report.ignoredRules = []) ∧
    ∀ (path : String) (desktop : Option Desktop) (files : FileTree),
      Blueprint.fileProblems path desktop threshold files = .ok (some []) →
      ∃ b', Blueprint.load path files = .ok b' ∧ b'.problems? desktop threshold = some [] := by
  refine ⟨?_, ?_, ?_⟩
  · intro h σ placer monitors windows options host
    have hsound := (Blueprint.problems?_none_eq_nil_iff threshold).1 h
    exact ⟨fun e he => error_not_defect hsound he, fun report => report_not_defect hsound⟩
  · intro d h σ placer windows options host htaskbar
    obtain ⟨-, havailable, check, hcheck, hissues⟩ := Blueprint.problems?_some_eq_nil_iff.1 h
    obtain ⟨-, rfl⟩ := MonitorCheck.of?_eq_some_iff.1 hcheck
    refine ⟨fun e he => error_ne_monitorMatch hissues he, fun report hreport => ?_⟩
    rw [ignoredRules_of_apply hreport, ignoredRules]
    rcases havailable with h | h <;> simp [htaskbar, h]
  · intro path desktop files h
    exact Blueprint.load_of_fileProblems h

/-- The desk with its screens and windows, on a host that reports taskbar attributes. -/
def desk : Desktop := ⟨true, MonitorCheck.deskScreens, deskWindows⟩

/-- A file with a blueprint that names one screen and has no rules. -/
def deskFiles : FileTree where
  entries := [(["plain"], .file ("\x7b\"monitorMatch\": \x7b\"Main\": \x7b\"x\": 0, \"y\": 0, " ++
    "\"width\": 1920, \"height\": 1080, \"dpiX\": 96, \"dpiY\": 96\x7d\x7d\x7d"))]
  current := []

/-- The blueprint of the desk has no problems and can be applied there; a file without problems
can be loaded. -/
theorem apply_deskBlueprint :
    deskBlueprint.problems? none 2 = some [] ∧
    (∀ options report,
      (apply .recorder deskBlueprint desk.monitors deskWindows options []).1 = some (.ok report) →
      ∀ w ∈ report.windows, w.outcome.isDefect = false) ∧
    deskBlueprint.problems? (some desk) 2 = some [] ∧
    (∃ report, (apply .recorder deskBlueprint desk.monitors deskWindows {} []).1 =
      some (.ok report) ∧ report.ignoredRules = []) ∧
    Blueprint.fileProblems "plain" none 2 deskFiles = .ok (some []) ∧
    ∃ b, Blueprint.load "plain" deskFiles = .ok b ∧ b.problems? none 2 = some [] := by
  have hempty : ∀ problems : Checked (List Problem),
      problems.map List.isEmpty = some true → problems = some [] := by
    intro problems h
    obtain ⟨found, rfl, hfound⟩ := Option.map_eq_some_iff.1 h
    rw [List.isEmpty_iff.1 hfound]
  have hnone : deskBlueprint.problems? none 2 = some [] := hempty _ (by decide +kernel)
  have hdesk : deskBlueprint.problems? (some desk) 2 = some [] := hempty _ (by decide +kernel)
  have hfile : Blueprint.fileProblems "plain" none 2 deskFiles = .ok (some []) := by
    have hnil : (Blueprint.fileProblems "plain" none 2 deskFiles).toOption.map
        (Option.map List.isEmpty) = some (some true) := by decide +kernel
    cases hresult : Blueprint.fileProblems "plain" none 2 deskFiles with
    | error e =>
      rw [hresult] at hnil
      cases hnil
    | ok problems =>
      rw [hresult] at hnil
      rw [hempty problems (Option.some.inj hnil)]
  have hordered : Window.inProcessingOrder deskWindows = deskWindows :=
    Window.inProcessingOrder_of_pairwise (by decide +kernel)
  have hran : ((apply .recorder deskBlueprint desk.monitors deskWindows {} []).1.bind
      Except.toOption).isSome = true := by
    unfold apply
    rw [hordered]
    decide +kernel
  obtain ⟨hdefect, hfits, hload⟩ := apply_of_no_problems deskBlueprint 2
  refine ⟨hnone, fun options => (hdefect hnone _ .recorder desk.monitors deskWindows options []).2,
    hdesk, ?_, hfile, hload _ _ _ hfile⟩
  match hresult : (apply .recorder deskBlueprint desk.monitors deskWindows {} []).1, hran with
  | some (.ok report), _ =>
    exact ⟨report, rfl, (hfits desk hdesk _ .recorder deskWindows {} [] rfl).2 report hresult⟩

end DeskPlan
