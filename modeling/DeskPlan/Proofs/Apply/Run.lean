import DeskPlan.Apply.Run
import DeskPlan.Proofs.Monitor.OneToOne

/-!
# `DeskPlan.Proofs.Apply.Run`: a run as a sequence of visits

A run comes to its windows one after the other, with the scripts, the pattern cache and the host as
the windows before have left them. This is a `Visit`. What is decided on a visit is its judgement,
and the run goes on to the next window unless something that had to be measured is out of range.
`processAll_cons` says this of `processAll`, and what is proved of all runs is proved of one visit
first.

* `judgedAs_judge`: the six ways in which one window can be judged (`JudgedAs`), so that no proof
  has to take the judgement apart again. `Judgement.placement_eq`: the move that is decided on is
  the one that the entry in the report tells;
* `visitsAlong`: the visits of a run in order. A run that ends with entries has visited every
  window, and the entries are those that the visits lead to (`entries_processAll`);
* `ranAs_apply`: the five ways in which a whole run can go (`RanAs`), and `apply_visits`: what a
  report says.
-/

set_option autoImplicit false

namespace DeskPlan

variable {σ : Type}

/-! ### One judgement -/

/-- A destination is refused because the rule names a monitor that the mapping does not have, or
because the rule names none and the monitor the window is on is not known. -/
theorem destination_eq_error {plan : Plan} {rule : Rule} {current : Checked (Option Word64)}
    {reason : Obstacle} (h : destination plan rule current = some (.error reason)) :
    (∃ name suggestions, rule.targetMonitor = some name ∧ plan.mapping.get? name = none ∧
        reason = .unknownTargetMonitor name suggestions) ∨
      (rule.targetMonitor = none ∧
        ∃ handle, current = some handle ∧ reason = .currentMonitorNotFound handle) := by
  unfold destination at h
  split at h
  · rename_i name hname
    split at h
    · cases h
    · rename_i hmapping
      cases h
      exact Or.inl ⟨name, _, hname, hmapping, rfl⟩
  · rename_i hname
    obtain ⟨handle, hhandle, h⟩ := Option.map_eq_some_iff.1 h
    split at h
    · cases h
    · cases h
      exact Or.inr ⟨hname, handle, hhandle, rfl⟩

/-- The ways in which a window can be judged, each with everything that must hold for it. -/
inductive JudgedAs (plan : Plan) (w : Window) (choice : Except PatternFailure (Option (Nat × Rule)))
    (current : Option Rect) (monitor : Checked (Option Word64)) (context : Script.Context) :
    Judgement → Prop where
  | patternFailure {e : PatternFailure} (hchoice : choice = .error e) :
      JudgedAs plan w choice current monitor context ⟨.patternFailure e, none, context⟩
  | noMatchingRule (hchoice : choice = .ok none) :
      JudgedAs plan w choice current monitor context ⟨.noMatchingRule, none, context⟩
  | noDestination {index : Nat} {rule : Rule} {reason : Obstacle}
      (hchoice : choice = .ok (some (index, rule)))
      (hdestination : destination plan rule monitor = some (.error reason)) :
      JudgedAs plan w choice current monitor context ⟨.skipped rule.name reason, none, context⟩
  | noRect {index : Nat} {rule : Rule} {name : String} {m : Monitor}
      (hchoice : choice = .ok (some (index, rule)))
      (hdestination : destination plan rule monitor = some (.ok (name, m)))
      (hrect : current = none) :
      JudgedAs plan w choice current monitor context
        ⟨.skipped rule.name .currentRectUnavailable, none, context⟩
  | noTarget {index : Nat} {rule : Rule} {name : String} {m : Monitor} {rect : Rect}
      {formulas : Formulas Target} {e : Script.ScriptFailure} {context' : Script.Context}
      (hchoice : choice = .ok (some (index, rule)))
      (hdestination : destination plan rule monitor = some (.ok (name, m)))
      (hrect : current = some rect) (hformulas : targetFor? rect rule m = some formulas)
      (htarget : formulas.run context = (.error e, context')) :
      JudgedAs plan w choice current monitor context
        ⟨.skipped rule.name (.expression e), none, context'⟩
  | placed {index : Nat} {rule : Rule} {name : String} {m : Monitor} {rect : Rect}
      {formulas : Formulas Target} {target : Target} {context' : Script.Context}
      (hchoice : choice = .ok (some (index, rule)))
      (hdestination : destination plan rule monitor = some (.ok (name, m)))
      (hrect : current = some rect) (hformulas : targetFor? rect rule m = some formulas)
      (htarget : formulas.run context = (.ok target, context')) :
      JudgedAs plan w choice current monitor context
        ⟨.placed rule.name name target, some ⟨w.handle, target.rect, target.state⟩, context'⟩

section
variable {plan : Plan} {w : Window} {choice : Except PatternFailure (Option (Nat × Rule))}
  {current : Option Rect} {monitor : Checked (Option Word64)} {context : Script.Context}
  {judged : Judgement}

/-- A window that is judged is judged in one of these ways. -/
theorem judgedAs_judge (h : judge plan w choice current monitor context = some judged) :
    JudgedAs plan w choice current monitor context judged := by
  unfold judge at h
  match choice with
  | .error e =>
    cases h
    exact .patternFailure rfl
  | .ok none =>
    cases h
    exact .noMatchingRule rfl
  | .ok (some (index, rule)) =>
    dsimp only at h
    obtain ⟨found, hdestination, h⟩ := Option.bind_eq_some_iff.1 h
    match found, current with
    | .error reason, _ =>
      cases h
      exact .noDestination rfl hdestination
    | .ok (name, m), none =>
      cases h
      exact .noRect rfl hdestination rfl
    | .ok (name, m), some rect =>
      obtain ⟨formulas, hformulas, h⟩ := Option.bind_eq_some_iff.1 h
      rcases htarget : formulas.run context with ⟨result, context'⟩
      rw [htarget] at h
      cases result with
      | error e =>
        cases h
        exact .noTarget rfl hdestination rfl hformulas htarget
      | ok target =>
        cases h
        exact .placed rfl hdestination rfl hformulas htarget

/-- The move that is decided on is the one that the report tells. -/
theorem Judgement.placement_eq (h : judge plan w choice current monitor context = some judged) :
    judged.placement = (WindowEntry.of w judged.outcome).placement? := by
  cases judgedAs_judge h <;> rfl

end

/-! ### One window -/

/-- A window with what a run has when it comes to it. -/
structure Visit (σ : Type) where
  window : Window
  progress : Progress
  host : σ

namespace Visit

/-- The rule that is chosen for the window, and the cache afterwards. -/
def choice (plan : Plan) (v : Visit σ) :
    Except PatternFailure (Option (Nat × Rule)) × PatternCache :=
  chooseRule v.window plan.rules plan.taskbarAvailable v.progress.cache

/-- What is decided about the window, with what the host answers then. -/
def judgement? (placer : Placer σ) (plan : Plan) (v : Visit σ) : Checked Judgement :=
  judge plan v.window (v.choice plan).1 (placer.currentRect v.host v.window)
    (placer.currentMonitor v.host v.window plan.monitors) v.progress.context

/-- The entry in the report that the visit leads to. -/
def entry? (placer : Placer σ) (plan : Plan) (v : Visit σ) : Checked WindowEntry :=
  (v.judgement? placer plan).map fun judged => .of v.window judged.outcome

/-- What the run goes on with. -/
def progressAfter (plan : Plan) (v : Visit σ) (judged : Judgement) : Progress :=
  ⟨judged.context.drain.2, (v.choice plan).2⟩

/-- The host the run goes on with. -/
def hostAfter (placer : Placer σ) (dryRun : Bool) (v : Visit σ) (judged : Judgement) : σ :=
  settle placer dryRun judged.placement v.host

/-- The events before anything is measured. -/
def opening (plan : Plan) (total number : Nat) (v : Visit σ) : List Event :=
  windowEvents v.window number total ++ ruleEvents v.window (v.choice plan).1

/-- The events of a visit that comes to an end. -/
def events (placer : Placer σ) (plan : Plan) (total number : Nat) (v : Visit σ)
    (judged : Judgement) : List Event :=
  v.opening plan total number ++ judged.context.drain.1.map scriptEvent ++
    outcomeEvents (placer.currentRect v.host v.window) judged.outcome

end Visit

/-- A run over windows is the visit to the first one. If it comes to an end, the run over the others
follows. -/
theorem processAll_cons (placer : Placer σ) (dryRun : Bool) (plan : Plan) (total number : Nat)
    (w : Window) (rest : List Window) (progress : Progress) (host : σ) :
    processAll placer dryRun plan total number (w :: rest) progress host =
      let v : Visit σ := ⟨w, progress, host⟩
      match v.judgement? placer plan with
      | none => (none, host, v.opening plan total number)
      | some judged =>
        let r := processAll placer dryRun plan total (number + 1) rest
          (v.progressAfter plan judged) (v.hostAfter placer dryRun judged)
        (r.1.map (WindowEntry.of w judged.outcome :: ·), r.2.1,
          v.events placer plan total number judged ++ r.2.2) :=
  rfl

/-! ### All windows -/

/-- The visits of a run over windows. The last of them may be one that does not come to an end. -/
def visitsAlong (placer : Placer σ) (dryRun : Bool) (plan : Plan) :
    List Window → Progress → σ → List (Visit σ)
  | [], _, _ => []
  | w :: rest, progress, host =>
    let v : Visit σ := ⟨w, progress, host⟩
    v :: match v.judgement? placer plan with
      | none => []
      | some judged => visitsAlong placer dryRun plan rest (v.progressAfter plan judged)
          (v.hostAfter placer dryRun judged)

/-- A run that ends with entries has visited every window once, in order, and the entries are those
that the visits lead to. -/
theorem entries_processAll (placer : Placer σ) (dryRun : Bool) (plan : Plan) (total : Nat) :
    ∀ (windows : List Window) (number : Nat) (progress : Progress) (host : σ)
      (entries : List WindowEntry),
      (processAll placer dryRun plan total number windows progress host).1 = some entries →
      let visits := visitsAlong placer dryRun plan windows progress host
      visits.map Visit.window = windows ∧
        List.Forall₂ (fun v e => v.entry? placer plan = some e) visits entries := by
  intro windows
  induction windows with
  | nil =>
    intro number progress host entries h
    cases h
    exact ⟨rfl, .nil⟩
  | cons w rest ih =>
    intro number progress host entries h
    rw [processAll_cons] at h
    dsimp only at h
    rw [visitsAlong]
    dsimp only
    cases hjudged : (⟨w, progress, host⟩ : Visit σ).judgement? placer plan with
    | none =>
      rw [hjudged] at h
      cases h
    | some judged =>
      rw [hjudged] at h
      obtain ⟨later, hlater, rfl⟩ := Option.map_eq_some_iff.1 h
      obtain ⟨hwindows, hentries⟩ := ih _ _ _ _ hlater
      refine ⟨congrArg (w :: ·) hwindows, .cons ?_ hentries⟩
      rw [Visit.entry?, hjudged]
      rfl

/-- Every entry comes of one of the visits. -/
theorem exists_visit_of_mem {placer : Placer σ} {plan : Plan} {visits : List (Visit σ)}
    {entries : List WindowEntry}
    (h : List.Forall₂ (fun v e => v.entry? placer plan = some e) visits entries) {e : WindowEntry}
    (he : e ∈ entries) : ∃ v ∈ visits, v.entry? placer plan = some e := by
  induction h with
  | nil => exact absurd he List.not_mem_nil
  | @cons v e' visits entries hentry _ ih =>
    rcases List.mem_cons.1 he with rfl | he
    · exact ⟨v, List.mem_cons_self, hentry⟩
    · obtain ⟨v', hv', hentry'⟩ := ih he
      exact ⟨v', List.mem_cons_of_mem v hv', hentry'⟩

/-! ### Init scripts -/

/-- When the init scripts fail, one of them failed in the context that those before it left. -/
theorem runInits_eq_error {e : Script.ScriptFailure} :
    ∀ (sources : List String) (index : Nat) (context : Script.Context) (events : List Event),
      runInits index sources context = (.error e, events) →
      ∃ source ∈ sources, ∃ (number : Nat) (before after : Script.Context),
        before.runInit number source = (.error e, after) := by
  intro sources
  induction sources with
  | nil =>
    intro index context events h
    cases h
  | cons source rest ih =>
    intro index context events h
    rw [runInits] at h
    rcases hrun : context.runInit index source with ⟨result, after⟩
    rw [hrun] at h
    cases result with
    | error e' =>
      cases h
      exact ⟨source, List.mem_cons_self, index, context, after, hrun⟩
    | ok u =>
      rcases hrest : runInits (index + 1) rest after.drain.2 with ⟨answer, later⟩
      simp only [hrest] at h
      cases h
      obtain ⟨source', hmem, hfails⟩ := ih _ _ _ hrest
      exact ⟨source', List.mem_cons_of_mem source hmem, hfails⟩

/-! ### Whole runs -/

/-- The mapping of the names to the monitors, or the issues that prevent it. -/
def MonitorCheck.mapping? (fingerprints : NameMap Fingerprint) (monitors : List Monitor) :
    Checked (Except (List MonitorIssue) MonitorAssignment) :=
  (of? fingerprints monitors).map mapping

/-- It comes to an end exactly when every comparison does, and then it is the one over the
integers. -/
theorem MonitorCheck.mapping?_eq_some_iff {fingerprints : NameMap Fingerprint}
    {monitors : List Monitor} {answer : Except (List MonitorIssue) MonitorAssignment} :
    mapping? fingerprints monitors = some answer ↔
      Compares fingerprints monitors ∧ (of fingerprints monitors).mapping = answer := by
  rw [mapping?, Option.map_eq_some_iff]
  constructor
  · rintro ⟨check, hcheck, rfl⟩
    obtain ⟨hcompares, rfl⟩ := of?_eq_some_iff.1 hcheck
    exact ⟨hcompares, rfl⟩
  · rintro ⟨hcompares, rfl⟩
    exact ⟨_, of?_eq_some_iff.2 ⟨hcompares, rfl⟩, rfl⟩

/-- What stays the same during the run of a blueprint on monitors. -/
def planOf (b : Blueprint) (monitors : List Monitor) (mapping : MonitorAssignment)
    (options : RunOptions) : Plan :=
  ⟨b.rules, monitors, mapping, options.taskbarAvailable, options.fuzzyThreshold⟩

/-- The rules that a run tells about as ignored. -/
def ignoredRules (b : Blueprint) (options : RunOptions) : List String :=
  if options.taskbarAvailable then [] else Rule.taskbarDependent b.rules

section
variable {placer : Placer σ} {b : Blueprint} {monitors : List Monitor} {windows : List Window}
  {options : RunOptions} {host : σ}

/-- A run ends the program at once when monitors that are compared cannot be measured. -/
theorem apply_of_unmeasured (h : MonitorCheck.mapping? b.monitorMatch monitors = none) :
    apply placer b monitors windows options host = (none, host, []) := by
  unfold MonitorCheck.mapping? at h
  rw [apply, h]

/-- A run ends at once when the monitors do not fit. -/
theorem apply_of_mapping_error {issues : List MonitorIssue}
    (h : MonitorCheck.mapping? b.monitorMatch monitors = some (.error issues)) :
    apply placer b monitors windows options host =
      (some (.error (.monitorMatch issues)), host, issues.map fun i =>
        { level := .error, target := .apply, message := i.message }) := by
  unfold MonitorCheck.mapping? at h
  rw [apply, h]

/-- A run ends before the first window when an init script fails. -/
theorem apply_of_runInits_error {mapping : MonitorAssignment} {e : Script.ScriptFailure}
    {events : List Event}
    (h : MonitorCheck.mapping? b.monitorMatch monitors = some (.ok mapping))
    (hinit : runInits 0 b.engineInitScripts (.new windows) = (.error e, events)) :
    apply placer b monitors windows options host =
      (some (.error (.initScript e)), host, events) := by
  unfold MonitorCheck.mapping? at h
  rw [apply, h]
  simp only [Script.Context.session_new, hinit]

/-- Otherwise a run goes through the windows in processing order. -/
theorem apply_of_runInits_ok {mapping : MonitorAssignment} {context : Script.Context}
    {events : List Event}
    (h : MonitorCheck.mapping? b.monitorMatch monitors = some (.ok mapping))
    (hinit : runInits 0 b.engineInitScripts (.new windows) = (.ok context, events)) :
    apply placer b monitors windows options host =
      let ordered := Window.inProcessingOrder windows
      let r := processAll placer options.dryRun (planOf b monitors mapping options)
        ordered.length 1 ordered ⟨context, .empty⟩ host
      (r.1.map fun entries => .ok ⟨b.name, options.dryRun, ignoredRules b options, entries⟩, r.2.1,
        events ++ (ignoredRules b options).map (fun name =>
          { level := .warn, target := .apply, message := "taskbar info unavailable, rule ignored"
            fields := [("rule", name)] }) ++ r.2.2) := by
  unfold MonitorCheck.mapping? at h
  rw [apply, h]
  simp only [Script.Context.session_new, hinit]
  rfl

variable (placer b monitors windows options host) in
/-- The ways in which a whole run can go: the monitors cannot be compared, or do not fit; an init
script fails; or the run goes through the windows, and ends the program on the way or reports. -/
inductive RanAs : Checked (Except RunError Report) × σ × List Event → Prop where
  | unmeasured (hmapping : MonitorCheck.mapping? b.monitorMatch monitors = none) :
      RanAs (none, host, [])
  | unfit {issues : List MonitorIssue} {events : List Event}
      (hmapping : MonitorCheck.mapping? b.monitorMatch monitors = some (.error issues)) :
      RanAs (some (.error (.monitorMatch issues)), host, events)
  | uninitialised {mapping : MonitorAssignment} {e : Script.ScriptFailure} {events : List Event}
      (hmapping : MonitorCheck.mapping? b.monitorMatch monitors = some (.ok mapping))
      (hinit : runInits 0 b.engineInitScripts (.new windows) = (.error e, events)) :
      RanAs (some (.error (.initScript e)), host, events)
  | stopped {mapping : MonitorAssignment} {context : Script.Context} {said later : List Event}
      {after : σ} {events : List Event}
      (hmapping : MonitorCheck.mapping? b.monitorMatch monitors = some (.ok mapping))
      (hinit : runInits 0 b.engineInitScripts (.new windows) = (.ok context, said))
      (hstopped : processAll placer options.dryRun (planOf b monitors mapping options)
        (Window.inProcessingOrder windows).length 1 (Window.inProcessingOrder windows)
        ⟨context, .empty⟩ host = (none, after, later)) :
      RanAs (none, after, events)
  | reported {mapping : MonitorAssignment} {context : Script.Context} {said later : List Event}
      {entries : List WindowEntry} {after : σ} {events : List Event}
      (hmapping : MonitorCheck.mapping? b.monitorMatch monitors = some (.ok mapping))
      (hinit : runInits 0 b.engineInitScripts (.new windows) = (.ok context, said))
      (hprocessed : processAll placer options.dryRun (planOf b monitors mapping options)
        (Window.inProcessingOrder windows).length 1 (Window.inProcessingOrder windows)
        ⟨context, .empty⟩ host = (some entries, after, later)) :
      RanAs (some (.ok ⟨b.name, options.dryRun, ignoredRules b options, entries⟩), after, events)

/-- A run goes in one of these ways. -/
theorem ranAs_apply : RanAs placer b monitors windows options host
    (apply placer b monitors windows options host) := by
  match hmapping : MonitorCheck.mapping? b.monitorMatch monitors with
  | none =>
    rw [apply_of_unmeasured hmapping]
    exact .unmeasured hmapping
  | some (.error issues) =>
    rw [apply_of_mapping_error hmapping]
    exact .unfit hmapping
  | some (.ok mapping) =>
    rcases hinit : runInits 0 b.engineInitScripts (.new windows) with ⟨result, said⟩
    cases result with
    | error e =>
      rw [apply_of_runInits_error hmapping hinit]
      exact .uninitialised hmapping hinit
    | ok context =>
      rw [apply_of_runInits_ok hmapping hinit]
      dsimp only
      rcases hprocessed : processAll placer options.dryRun (planOf b monitors mapping options)
        (Window.inProcessingOrder windows).length 1 (Window.inProcessingOrder windows)
        ⟨context, .empty⟩ host with ⟨entries, after, later⟩
      cases entries with
      | none => exact .stopped hmapping hinit hprocessed
      | some entries => exact .reported hmapping hinit hprocessed

/-- A run with a given answer goes in one of the ways that have this answer. -/
theorem ranAs_of_answer {answer : Checked (Except RunError Report)}
    (h : (apply placer b monitors windows options host).1 = answer) :
    ∃ after events, RanAs placer b monitors windows options host (answer, after, events) := by
  subst h
  exact ⟨_, _, ranAs_apply⟩

/-- The visits of a whole run; a run that ends before the first window has none. -/
def visits (placer : Placer σ) (b : Blueprint) (monitors : List Monitor) (windows : List Window)
    (options : RunOptions) (host : σ) : List (Visit σ) :=
  match MonitorCheck.mapping? b.monitorMatch monitors,
    (runInits 0 b.engineInitScripts (.new windows)).1 with
  | some (.ok mapping), .ok context =>
    visitsAlong placer options.dryRun (planOf b monitors mapping options)
      (Window.inProcessingOrder windows) ⟨context, .empty⟩ host
  | _, _ => []

/-- A run that reports has a mapping. It visits the windows in processing order, and its report has
the entries of the visits. -/
theorem apply_visits {report : Report} {after : σ} {events : List Event}
    (h : apply placer b monitors windows options host = (some (.ok report), after, events)) :
    ∃ mapping, (MonitorCheck.of b.monitorMatch monitors).mapping = .ok mapping ∧
      (visits placer b monitors windows options host).map Visit.window =
        Window.inProcessingOrder windows ∧
      List.Forall₂ (fun v e => v.entry? placer (planOf b monitors mapping options) = some e)
        (visits placer b monitors windows options host) report.windows := by
  have hran : RanAs placer b monitors windows options host (some (.ok report), after, events) :=
    h ▸ ranAs_apply
  cases hran with
  | reported hmapping hinit hprocessed =>
    simp only [visits, hmapping, hinit]
    exact ⟨_, (MonitorCheck.mapping?_eq_some_iff.1 hmapping).2,
      entries_processAll _ _ _ _ _ _ _ _ _ (congrArg Prod.fst hprocessed)⟩

end

/-! ### A desk -/

/-- A blueprint for the two plain screens of a desk. It puts every editor on the left half of the
main screen, each a hundred pixels further right than the one before. -/
def deskBlueprint : Blueprint where
  name := "Desk"
  comment := none
  monitorMatch := MonitorCheck.deskNames
  engineInitScripts := ["let step = 0;"]
  rules :=
    [{ enabled := true
       name := "editors"
       filters := { programPath := some "edit\\.exe$" }
       targetMonitor := some "Main"
       targetBox := { posX := some "step += 100; step", width := some "monitorWidth / 2" } }]

/-- A window of a program, in the corner of the main screen. -/
def deskWindow (handle : Word64) (path : String) : Window where
  handle := handle
  rect := ⟨.zero, .zero, .of 800, .of 600⟩
  title := path
  className := ""
  programPath := some path
  taskbarAppId := none
  taskbarIndex := none
  taskbarSubIndex := none
  isToolWindow := false

/-- Two editors and another program, in processing order. -/
def deskWindows : List Window :=
  [deskWindow (.of 1) "C:\\notes\\edit.exe", deskWindow (.of 2) "D:\\drafts\\edit.exe",
    deskWindow (.of 3) "C:\\mail.exe"]

end DeskPlan
