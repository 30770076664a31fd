import DeskPlan.Proofs.Apply.Accounting
import DeskPlan.Proofs.Blueprint.Diagnosis
import DeskPlan.Proofs.Blueprint.FirstMatch

/-!
# `DeskPlan.Proofs.Apply.UnknownTarget`: a monitor that nobody has named

A rule may send windows to a monitor that the blueprint does not name. A diagnosis of the
blueprint reports the rule, and a run skips every window that the rule is chosen for. The
diagnosis looks at the names of the blueprint, the run at the names of the mapping it has made.

* `faithful_visits`: the cache of patterns is faithful whenever a run comes to a window, so the
  rule chosen there is the one chosen without any history (`Blueprint.Chooses`);
* `JudgedAs.unknownTarget_iff`: one judgement tells about an unknown target exactly when the
  chosen rule names a monitor that the mapping does not have;
* `unknown_target_reported_iff` puts these together: the run and the diagnosis speak of the same
  rules, the same targets and the same suggestions.
-/

set_option autoImplicit false

namespace DeskPlan

variable {σ : Type}

/-! ### The rule for a window -/

/-- The rule is the one chosen for the window, and stands at the position. -/
def Blueprint.Chooses (b : Blueprint) (taskbarAvailable : Bool) (w : Window) (index : Nat)
    (r : Rule) : Prop :=
  (chooseRule w b.rules taskbarAvailable .empty).1 = .ok (some (index, r))

/-- The rule sends windows to a monitor that is not among the declared ones. -/
def Rule.Strays (r : Rule) (declared : List String) : Prop :=
  ∃ target, r.targetMonitor = some target ∧ target ∉ declared

/-- The cache is faithful at every visit of a run that starts with a faithful one. -/
theorem faithful_visitsAlong (placer : Placer σ) (dryRun : Bool) (plan : Plan) :
    ∀ (windows : List Window) (progress : Progress) (host : σ), progress.cache.Faithful →
      ∀ v ∈ visitsAlong placer dryRun plan windows progress host, v.progress.cache.Faithful := by
  intro windows
  induction windows with
  | nil =>
    intro progress host hcache v hv
    exact absurd hv List.not_mem_nil
  | cons w rest ih =>
    intro progress host hcache v hv
    rw [visitsAlong] at hv
    rcases List.mem_cons.1 hv with rfl | hv
    · exact hcache
    · cases hjudged : (⟨w, progress, host⟩ : Visit σ).judgement? placer plan with
      | none =>
        rw [hjudged] at hv
        exact absurd hv List.not_mem_nil
      | some judged =>
        rw [hjudged] at hv
        -- A visit hands on the cache that the choice of the rule has left.
        exact ih _ _ (chooseFrom_cases w plan.taskbarAvailable plan.rules 0 hcache).2 v hv

/-- The cache is faithful at every visit of a whole run. -/
theorem faithful_visits {placer : Placer σ} {b : Blueprint} {monitors : List Monitor}
    {windows : List Window} {options : RunOptions} {host : σ} {v : Visit σ}
    (hv : v ∈ visits placer b monitors windows options host) : v.progress.cache.Faithful := by
  unfold visits at hv
  split at hv
  · exact faithful_visitsAlong _ _ _ _ _ _ PatternCache.faithful_empty v hv
  · exact absurd hv List.not_mem_nil

/-! ### One judgement -/

/-- No destination is found for the name of a monitor exactly when the rule gives the name and the
mapping does not have it. -/
theorem destination_eq_unknownTarget_iff {plan : Plan} {r : Rule}
    {current : Checked (Option Word64)} {target : String} {names : List String} :
    destination plan r current = some (.error (.unknownTargetMonitor target names)) ↔
      r.targetMonitor = some target ∧ target ∉ plan.mapping.names ∧
        names = Text.suggestions target plan.mapping.names plan.fuzzyThreshold := by
  unfold destination
  cases r.targetMonitor with
  | none =>
    refine iff_of_false (fun h => ?_) (fun h => nomatch h.1)
    obtain ⟨handle, -, h⟩ := Option.map_eq_some_iff.1 h
    split at h <;> cases h
  | some target' =>
    dsimp only
    cases hmapping : plan.mapping.get? target' with
    | some m =>
      have hnamed : target' ∈ plan.mapping.names := (plan.mapping.mem_names_iff _).2 ⟨m, hmapping⟩
      refine ⟨nofun, ?_⟩
      rintro ⟨htarget, hnot, -⟩
      cases htarget
      exact absurd hnamed hnot
    | none =>
      have hunknown : target' ∉ plan.mapping.names := by
        rw [NameMap.mem_names_iff, hmapping]
        simp
      constructor
      · intro h
        cases h
        exact ⟨rfl, hunknown, rfl⟩
      · rintro ⟨htarget, -, rfl⟩
        cases htarget
        rfl

/-- A judgement tells about an unknown target exactly when this keeps the chosen rule from having
a destination. -/
theorem JudgedAs.unknownTarget_iff {plan : Plan} {w : Window}
    {choice : Except PatternFailure (Option (Nat × Rule))} {current : Option Rect}
    {monitor : Checked (Option Word64)} {context : Script.Context} {judged : Judgement}
    (h : JudgedAs plan w choice current monitor context judged) {name target : String}
    {names : List String} :
    judged.outcome = .skipped name (.unknownTargetMonitor target names) ↔
      ∃ index r, choice = .ok (some (index, r)) ∧ r.name = name ∧
        destination plan r monitor = some (.error (.unknownTargetMonitor target names)) := by
  cases h with
  | noDestination hchoice hdestination =>
    constructor
    · intro h
      cases h
      exact ⟨_, _, hchoice, rfl, hdestination⟩
    · rintro ⟨index, r, hchosen, rfl, hunknown⟩
      cases hchoice.symm.trans hchosen
      cases hdestination.symm.trans hunknown
      rfl
  | patternFailure hchoice | noMatchingRule hchoice =>
    refine ⟨nofun, ?_⟩
    rintro ⟨index, r, hchosen, -⟩
    cases hchoice.symm.trans hchosen
  | noRect hchoice hdestination | noTarget hchoice hdestination | placed hchoice hdestination =>
    -- There is a destination in these cases.
    refine ⟨nofun, ?_⟩
    rintro ⟨index, r, hchosen, -, hunknown⟩
    cases hchoice.symm.trans hchosen
    cases hdestination.symm.trans hunknown

/-! ### Whole runs -/

section
variable {b : Blueprint} {monitors : List Monitor} {mapping : MonitorAssignment}
  {options : RunOptions}

/-- At a visit with a faithful cache, the entry tells about an unknown target exactly when the rule
chosen for the window names a monitor that the blueprint does not name. -/
theorem Visit.unknownTarget_iff {placer : Placer σ} {v : Visit σ} {e : WindowEntry}
    (h : v.entry? placer (planOf b monitors mapping options) = some e)
    (hmapping : (MonitorCheck.of b.monitorMatch monitors).mapping = .ok mapping)
    (hcache : v.progress.cache.Faithful) {name target : String} {names : List String} :
    e.outcome = .skipped name (.unknownTargetMonitor target names) ↔
      ∃ index r, b.Chooses options.taskbarAvailable v.window index r ∧ r.name = name ∧
        r.targetMonitor = some target ∧ target ∉ b.monitorMatch.names ∧
        names = Text.suggestions target b.monitorMatch.names options.fuzzyThreshold := by
  obtain ⟨judged, hjudged, rfl⟩ := Option.map_eq_some_iff.1 h
  -- The run looks names up in its mapping, and the mapping has the names of the blueprint.
  have hnames : (planOf b monitors mapping options).mapping.names = b.monitorMatch.names :=
    MonitorCheck.names_of_mapping hmapping
  have hchoice : (v.choice (planOf b monitors mapping options)).1 =
      (chooseRule v.window b.rules options.taskbarAvailable .empty).1 :=
    chooseRule_eq_of_faithful _ _ _ hcache PatternCache.faithful_empty
  refine (judgedAs_judge hjudged).unknownTarget_iff.trans ?_
  simp only [destination_eq_unknownTarget_iff, hnames, Blueprint.Chooses, ← hchoice]
  rfl

/-- What a diagnosis says of the target of the rule chosen for a window. -/
theorem Blueprint.Chooses.undeclaredTarget_iff {w : Window} {index : Nat} {r : Rule}
    {taskbarAvailable : Bool} (h : b.Chooses taskbarAvailable w index r) {threshold : Nat}
    {target : String} {names : List String} :
    .rule ⟨index, r.name⟩ (.undeclaredTarget target names) ∈ b.ownProblems none threshold ↔
      r.targetMonitor = some target ∧ target ∉ b.monitorMatch.names ∧
        names = Text.suggestions target b.monitorMatch.names threshold :=
  (rule_mem_ownProblems_iff (getElem?_of_chooseRule PatternCache.faithful_empty h)).trans
    Rule.undeclaredTarget_mem_problems_iff

/-- A rule chosen for a window strays exactly when a diagnosis reports its target. -/
theorem Blueprint.Chooses.strays_iff {w : Window} {index : Nat} {r : Rule}
    {taskbarAvailable : Bool} (h : b.Chooses taskbarAvailable w index r) {threshold : Nat} :
    r.Strays b.monitorMatch.names ↔ ∃ target names,
      .rule ⟨index, r.name⟩ (.undeclaredTarget target names) ∈ b.ownProblems none threshold := by
  constructor
  · rintro ⟨target, htarget, hunknown⟩
    exact ⟨target, _, h.undeclaredTarget_iff.2 ⟨htarget, hunknown, rfl⟩⟩
  · rintro ⟨target, names, hproblem⟩
    obtain ⟨htarget, hunknown, -⟩ := h.undeclaredTarget_iff.1 hproblem
    exact ⟨target, htarget, hunknown⟩

end

/-- A diagnosis of the blueprint, without a desktop, comes to an end. In a report the windows stand
in processing order, each with one entry. The entry tells about an unknown target exactly when a
rule is chosen for the window that sends it to a monitor that the blueprint does not name. The
diagnosis, with the threshold of the run, reports an undeclared target of the chosen rule exactly
then, and the entry names the same rule and the same target and offers the same names in the same
order. -/
theorem unknown_target_reported_iff {placer : Placer σ} {b : Blueprint} {monitors : List Monitor}
    {windows : List Window} {options : RunOptions} {host : σ} {report : Report} {after : σ}
    {events : List Event}
    (h : apply placer b monitors windows options host = (some (.ok report), after, events)) :
    ∃ problems, b.problems? none options.fuzzyThreshold = some problems ∧
    List.Forall₂ (fun w e => e.subject = w.subject ∧
        ((∃ name target names, e.outcome = .skipped name (.unknownTargetMonitor target names)) ↔
          ∃ index r, b.Chooses options.taskbarAvailable w index r ∧
            r.Strays b.monitorMatch.names) ∧
        ∀ index r, b.Chooses options.taskbarAvailable w index r →
          (r.Strays b.monitorMatch.names ↔ ∃ target names,
            .rule ⟨index, r.name⟩ (.undeclaredTarget target names) ∈ problems) ∧
          ∀ name target names,
            e.outcome = .skipped name (.unknownTargetMonitor target names) ↔ name = r.name ∧
              .rule ⟨index, r.name⟩ (.undeclaredTarget target names) ∈ problems)
      (Window.inProcessingOrder windows) report.windows := by
  refine ⟨_, b.problems?_none _, ?_⟩
  obtain ⟨mapping, hmapping, hwindows, hentries⟩ := apply_visits h
  rw [← hwindows, List.forall₂_map_left_iff]
  have hfaithful := (List.forall₂_and_left _ _).2 ⟨fun _ hv => faithful_visits hv, hentries⟩
  refine hfaithful.imp ?_
  rintro v e ⟨hcache, hentry⟩
  have htold : ∀ name target names, e.outcome =
      .skipped name (.unknownTargetMonitor target names) ↔ _ :=
    fun name target names => Visit.unknownTarget_iff hentry hmapping hcache
  have hsubject : e.subject = v.window.subject := by
    obtain ⟨judged, -, rfl⟩ := Option.map_eq_some_iff.1 hentry
    rfl
  refine ⟨hsubject, ?_, ?_⟩
  · constructor
    · rintro ⟨name, target, names, hskipped⟩
      obtain ⟨index, r, hchosen, -, htarget, hunknown, -⟩ := (htold _ _ _).1 hskipped
      exact ⟨index, r, hchosen, target, htarget, hunknown⟩
    · rintro ⟨index, r, hchosen, target, htarget, hunknown⟩
      exact ⟨r.name, target, _, (htold _ _ _).2
        ⟨index, r, hchosen, rfl, htarget, hunknown, rfl⟩⟩
  · intro index r hchosen
    refine ⟨hchosen.strays_iff, ?_⟩
    intro name target names
    rw [htold, hchosen.undeclaredTarget_iff]
    constructor
    · rintro ⟨index', r', hchosen', rfl, hundeclared⟩
      -- Of one window only one rule can be the chosen one.
      cases hchosen.symm.trans hchosen'
      exact ⟨rfl, hundeclared⟩
    · rintro ⟨rfl, hundeclared⟩
      exact ⟨index, r, hchosen, rfl, hundeclared⟩

/-- The blueprint of the desk with the name of the main screen misspelt in its rule. -/
def misspeltBlueprint : Blueprint :=
  { deskBlueprint with
    rules := deskBlueprint.rules.map fun r => { r with targetMonitor := some "main" } }

/-- An editor and another program, in processing order. -/
def deskPair : List Window :=
  [deskWindow (.of 1) "C:\\notes\\edit.exe", deskWindow (.of 2) "C:\\mail.exe"]

/-- Only the right spelling is close to the wrong one. -/
theorem suggestions_misspelt :
    Text.suggestions "main" misspeltBlueprint.monitorMatch.names 2 = ["Main"] := by
  have hscored : ((misspeltBlueprint.monitorMatch.names.map fun c =>
      (Text.editDistance (Text.lower "main") (Text.lower c), c)).filter fun s => s.1 ≤ 2) =
      [(0, "Main")] := by
    decide +kernel
  rw [Text.suggestions, hscored, List.mergeSort_singleton]
  rfl

/-- The editor is skipped with the right spelling as a suggestion, as the diagnosis has it. No rule
is chosen for the other program, so nothing is said about a target. -/
theorem report_on_misspeltBlueprint :
    ∃ report after events problems told untold,
      apply .recorder misspeltBlueprint MonitorCheck.deskScreens deskPair {} [] =
        (some (.ok report), after, events) ∧
      misspeltBlueprint.problems? none 2 = some problems ∧
      .rule ⟨0, "editors"⟩ (.undeclaredTarget "main" ["Main"]) ∈ problems ∧
      report.windows = [told, untold] ∧
      told.outcome = .skipped "editors" (.unknownTargetMonitor "main" ["Main"]) ∧
      ¬ ∃ name target names, untold.outcome =
        .skipped name (.unknownTargetMonitor target names) := by
  have hordered : Window.inProcessingOrder deskPair = deskPair :=
    Window.inProcessingOrder_of_pairwise (by decide +kernel)
  have hran : ((apply .recorder misspeltBlueprint MonitorCheck.deskScreens deskPair {}
      []).1.bind Except.toOption).isSome = true := by
    unfold apply
    rw [hordered]
    decide +kernel
  rcases hrun : apply .recorder misspeltBlueprint MonitorCheck.deskScreens deskPair {} [] with
    ⟨result, after, events⟩
  rw [hrun] at hran
  match result, hran with
  | some (.ok report), _ =>
    have hchosen : ∃ r,
        misspeltBlueprint.Chooses true (deskWindow (.of 1) "C:\\notes\\edit.exe") 0 r ∧
        r.name = "editors" ∧ r.targetMonitor = some "main" := ⟨_, rfl, rfl, rfl⟩
    have hnone : (chooseRule (deskWindow (.of 2) "C:\\mail.exe") misspeltBlueprint.rules true
        .empty).1 = .ok none := rfl
    obtain ⟨r, hr, hname, htarget⟩ := hchosen
    obtain ⟨problems, hproblems, hmain⟩ := unknown_target_reported_iff hrun
    have hproblem : .rule ⟨0, r.name⟩ (.undeclaredTarget "main" ["Main"]) ∈ problems := by
      rw [Blueprint.problems?_none] at hproblems
      rw [← Option.some.inj hproblems]
      exact hr.undeclaredTarget_iff.2 ⟨htarget, by decide, suggestions_misspelt.symm⟩
    rw [hordered] at hmain
    obtain ⟨told, others, ⟨-, -, htold⟩, hothers, hwindows⟩ := List.forall₂_cons_left_iff.1 hmain
    obtain ⟨untold, rest, ⟨-, hiff, -⟩, hrest, rfl⟩ := List.forall₂_cons_left_iff.1 hothers
    obtain rfl := List.forall₂_nil_left_iff.1 hrest
    refine ⟨report, after, events, problems, told, untold, rfl, hproblems, hname ▸ hproblem,
      hwindows, ?_, ?_⟩
    · exact ((htold 0 r hr).2 "editors" "main" ["Main"]).2 ⟨hname.symm, hproblem⟩
    · intro htells
      obtain ⟨index, r', hr', -⟩ := hiff.1 htells
      exact nomatch hnone.symm.trans hr'

end DeskPlan
