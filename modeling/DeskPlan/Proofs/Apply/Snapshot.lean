import DeskPlan.Proofs.Apply.Accounting
import DeskPlan.Proofs.Monitor.Choice
import DeskPlan.Proofs.Monitor.Issues

/-!
# `DeskPlan.Proofs.Apply.Snapshot`: a run on a desktop that is written down

A desktop that is written down answers with what its windows say of themselves: the rectangle of a
window is the one of the snapshot, and the monitor it is on is the one found for this rectangle. A
run asks for the handle of that monitor and looks the handle up again. This cannot fail: a blueprint
that fits names a monitor (`ne_nil_of_mapping`), so there is a monitor to be found
(`monitorOfRect_eq_some`), and its handle is one of the list (`exists_withHandle`). Only when
handles are shared can the second search come back with another monitor.

* `Visit.located`: under a plan with monitors, no window is left alone for want of a rectangle or of
  a monitor;
* `Belongs` is where a rule sends a window, said of the rectangle and of the fingerprints;
  `belongs_of_destination`: with handles of their own that is where a run sends it;
* `apply_on_snapshot`: both, for every window of a run.
-/

set_option autoImplicit false

namespace DeskPlan

/-! ### Monitors to be found -/

/-- A blueprint fits no empty list of monitors. -/
theorem MonitorCheck.ne_nil_of_mapping {fingerprints : NameMap Fingerprint}
    {monitors : List Monitor}
    {mapping : MonitorAssignment} (h : (of fingerprints monitors).mapping = .ok mapping) :
    monitors ≠ [] := by
  obtain ⟨hnamed, hresolve, -⟩ := (issues_eq_nil_iff _ _).1 (mapping_eq_ok_iff.1 h).1
  obtain ⟨name, hname⟩ := List.exists_mem_of_ne_nil _ hnamed
  obtain ⟨f, hf⟩ := (fingerprints.mem_names_iff name).1 hname
  obtain ⟨m, hm⟩ := hresolve name f hf
  exact List.ne_nil_of_mem (resolve_eq_some_iff_onlyMatch.1 hm).mem

/-- What a mapping has at a name is the only monitor with the fingerprint of the name. -/
theorem MonitorCheck.get?_mapping {fingerprints : NameMap Fingerprint} {monitors : List Monitor}
    {mapping : MonitorAssignment} (h : (of fingerprints monitors).mapping = .ok mapping)
    {name : String} {m : Monitor} (hm : mapping.get? name = some m) :
    ∃ f, fingerprints.get? name = some f ∧ OnlyMatch monitors f m := by
  obtain ⟨-, rfl⟩ := mapping_eq_ok_iff.1 h
  rw [get?_resolved, Option.bind_eq_some_iff] at hm
  obtain ⟨f, hf, hresolve⟩ := hm
  exact ⟨f, hf, resolve_eq_some_iff_onlyMatch.1 hresolve⟩

section
variable {monitors : List Monitor}

/-- Among some monitors one is found for every rectangle that is located. -/
theorem monitorOfRect_eq_some (h : monitors ≠ []) {rect : Rect} {handle : Option Word64}
    (hhandle : monitorOfRect (some rect) monitors = some handle) :
    ∃ m ∈ monitors, Monitor.ofRect? rect monitors = some (some m) ∧ handle = some m.handle := by
  obtain ⟨found, hfound, rfl⟩ := Option.map_eq_some_iff.1 hhandle
  cases found with
  | none => exact absurd (Monitor.eq_nil_of_ofRect? hfound) h
  | some m => exact ⟨m, Monitor.mem_of_ofRect? hfound, hfound, rfl⟩

/-- The handle of a monitor of the list is found in the list. -/
theorem Monitor.exists_withHandle {m : Monitor} (h : m ∈ monitors) :
    ∃ n, Monitor.withHandle m.handle monitors = some n :=
  Option.isSome_iff_exists.1 (List.find?_isSome.2 ⟨m, h, decide_eq_true rfl⟩)

/-- With handles of their own it leads back to the monitor. -/
theorem Monitor.withHandle_self (hhandles : (monitors.map (·.handle)).Nodup) {m : Monitor}
    (h : m ∈ monitors) : Monitor.withHandle m.handle monitors = some m := by
  obtain ⟨n, hn⟩ := exists_withHandle h
  unfold withHandle at hn ⊢
  have hsame : n.handle = m.handle := by simpa using List.find?_some hn
  rw [hn, List.inj_on_of_nodup_map hhandles (List.mem_of_find?_eq_some hn) h hsame]

end

/-! ### Where a rule sends a window -/

/-- Where a rule sends a window, and under which name: to the only monitor with the fingerprint of
the name it gives, or, if it gives none, to the monitor that the rectangle of the window is found
on. -/
def Belongs (b : Blueprint) (monitors : List Monitor) (rule : Rule) (w : Window) (name : String)
    (m : Monitor) : Prop :=
  match rule.targetMonitor with
  | some target => name = target ∧
      ∃ f, b.monitorMatch.get? target = some f ∧ MonitorCheck.OnlyMatch monitors f m
  | none => Monitor.ofRect? w.rect monitors = some (some m) ∧ name = m.name

section
variable {plan : Plan} {rule : Rule} {rect : Rect}

/-- With the monitor that a rectangle is on, only an unknown name is refused. -/
theorem destination_located (hmonitors : plan.monitors ≠ []) {reason : Obstacle}
    (h : destination plan rule (monitorOfRect (some rect) plan.monitors) = some (.error reason)) :
    ∃ name suggestions, reason = .unknownTargetMonitor name suggestions := by
  rcases destination_eq_error h with ⟨name, suggestions, -, -, rfl⟩ | ⟨hname, handle, hhandle, rfl⟩
  · exact ⟨name, suggestions, rfl⟩
  · obtain ⟨m, hm, -, rfl⟩ := monitorOfRect_eq_some hmonitors hhandle
    obtain ⟨n, hn⟩ := Monitor.exists_withHandle hm
    rw [destination, hname, hhandle] at h
    simp only [Option.map_some, Option.bind_some, hn] at h
    cases h

/-- Where the handles are different, the destination is where the rule sends the window. -/
theorem belongs_of_destination {b : Blueprint} {monitors : List Monitor}
    {mapping : MonitorAssignment} {options : RunOptions} {w : Window} {name : String} {m : Monitor}
    (hmapping : (MonitorCheck.of b.monitorMatch monitors).mapping = .ok mapping)
    (hhandles : (monitors.map (·.handle)).Nodup)
    (h : destination (planOf b monitors mapping options) rule
      (monitorOfRect (some w.rect) monitors) = some (.ok (name, m))) :
    Belongs b monitors rule w name m := by
  unfold destination at h
  unfold Belongs
  cases htarget : rule.targetMonitor with
  | some target =>
    simp only [htarget, planOf] at h
    cases hget : mapping.get? target with
    | none => rw [hget] at h; cases h
    | some n =>
      rw [hget] at h
      cases h
      exact ⟨rfl, MonitorCheck.get?_mapping hmapping hget⟩
  | none =>
    simp only [htarget] at h
    obtain ⟨handle, hhandle, h⟩ := Option.map_eq_some_iff.1 h
    obtain ⟨n, hn, hfound, rfl⟩ :=
      monitorOfRect_eq_some (MonitorCheck.ne_nil_of_mapping hmapping) hhandle
    simp only [planOf, Option.bind_some, Monitor.withHandle_self hhandles hn] at h
    cases h
    exact ⟨hfound, rfl⟩

end

/-! ### One window -/

/-- A window was placed: by the rule chosen for it, on the monitor where the rule sends it, with the
target that the rule has there. -/
structure Placing {σ : Type} (b : Blueprint) (monitors : List Monitor) (taskbarAvailable : Bool)
    (v : Visit σ) (rule : Rule) (name : String) (m : Monitor) (target : Target) : Prop where
  chosen : ∃ index cache, chooseRule v.window b.rules taskbarAvailable v.progress.cache =
    (.ok (some (index, rule)), cache)
  belongs : Belongs b monitors rule v.window name m
  computed : ∃ formulas context, targetFor? v.window.rect rule m = some formulas ∧
    formulas.run v.progress.context = (.ok target, context)

section
variable {plan : Plan} {v : Visit (List Placement)} {e : WindowEntry}

/-- On a snapshot the entry is a judgement with the rectangle and the monitor of the window. -/
theorem Visit.judgedAs_of_entry? (h : v.entry? .recorder plan = some e) :
    ∃ judged, e = .of v.window judged.outcome ∧
      JudgedAs plan v.window (v.choice plan).1 (some v.window.rect)
        (monitorOfRect (some v.window.rect) plan.monitors) v.progress.context judged := by
  obtain ⟨judged, hjudged, rfl⟩ := Option.map_eq_some_iff.1 h
  exact ⟨judged, rfl, judgedAs_judge hjudged⟩

/-- Where there are monitors, no window is left alone for want of a rectangle or of a monitor. -/
theorem Visit.located (h : v.entry? .recorder plan = some e) (hmonitors : plan.monitors ≠ [])
    {rule : String} {reason : Obstacle} (hskipped : e.outcome = .skipped rule reason) :
    reason ≠ .currentRectUnavailable ∧ ∀ handle, reason ≠ .currentMonitorNotFound handle := by
  obtain ⟨judged, rfl, hjudged⟩ := Visit.judgedAs_of_entry? h
  cases hjudged with
  | noDestination hchoice hdestination =>
    cases hskipped
    obtain ⟨name, suggestions, rfl⟩ := destination_located hmonitors hdestination
    exact ⟨nofun, nofun⟩
  | noRect hchoice hdestination hrect => cases hrect
  | noTarget hchoice hdestination hrect hformulas htarget =>
    cases hskipped
    exact ⟨nofun, nofun⟩
  | _ => cases hskipped

/-- With different handles, a window that is placed is placed where its rule sends it. -/
theorem Visit.placing {b : Blueprint} {monitors : List Monitor} {mapping : MonitorAssignment}
    {options : RunOptions}
    (h : v.entry? .recorder (planOf b monitors mapping options) = some e)
    (hmapping : (MonitorCheck.of b.monitorMatch monitors).mapping = .ok mapping)
    (hhandles : (monitors.map (·.handle)).Nodup) {ruleName name : String} {target : Target}
    (hplaced : e.outcome = .placed ruleName name target) :
    ∃ rule m, rule.name = ruleName ∧
      Placing b monitors options.taskbarAvailable v rule name m target := by
  obtain ⟨judged, rfl, hjudged⟩ := Visit.judgedAs_of_entry? h
  cases hjudged with
  | placed hchoice hdestination hrect hformulas htarget =>
    cases hplaced
    cases hrect
    exact ⟨_, _, rfl, ⟨_, _, Prod.ext hchoice rfl⟩,
      belongs_of_destination hmapping hhandles hdestination, _, _, hformulas, htarget⟩
  | _ => cases hplaced

end

/-! ### Whole runs -/

/-- In a report on a snapshot no window is left alone because its rectangle could not be read or the
monitor it is on could not be found. If the monitors have handles of their own, the report has an
entry for every window in processing order, and a window that is placed got there by the rule chosen
for it: on the monitor found for its rectangle, under the name of that monitor, or on the only
monitor with the fingerprint of the name that the rule gives. -/
theorem apply_on_snapshot (b : Blueprint) (d : Desktop) (options : RunOptions)
    (host : List Placement) {report : Report} {after : List Placement} {events : List Event}
    (h : apply .recorder b d.monitors d.liveWindows options host =
      (some (.ok report), after, events)) :
    (∀ e ∈ report.windows, ∀ rule reason, e.outcome = .skipped rule reason →
      reason ≠ .currentRectUnavailable ∧ ∀ handle, reason ≠ .currentMonitorNotFound handle) ∧
    ((d.monitors.map (·.handle)).Nodup →
      (visits .recorder b d.monitors d.liveWindows options host).map Visit.window =
        Window.inProcessingOrder d.liveWindows ∧
      List.Forall₂ (fun v e => e.subject = v.window.subject ∧
          ∀ ruleName name target, e.outcome = .placed ruleName name target →
            ∃ rule m, rule.name = ruleName ∧
              Placing b d.monitors options.taskbarAvailable v rule name m target)
        (visits .recorder b d.monitors d.liveWindows options host) report.windows) := by
  obtain ⟨mapping, hmapping, hwindows, hentries⟩ := apply_visits h
  have hmonitors : (planOf b d.monitors mapping options).monitors ≠ [] :=
    MonitorCheck.ne_nil_of_mapping hmapping
  constructor
  · intro e he rule reason hskipped
    obtain ⟨v, -, hv⟩ := exists_visit_of_mem hentries he
    exact Visit.located hv hmonitors hskipped
  · intro hhandles
    refine ⟨hwindows, hentries.imp fun v e hentry => ⟨?_, fun ruleName name target hplaced => ?_⟩⟩
    · obtain ⟨judged, rfl, -⟩ := Visit.judgedAs_of_entry? hentry
      rfl
    · exact Visit.placing hentry hmapping hhandles hplaced

/-- The blueprint of the desk with a rule for all other windows: they are centred on the screen that
they are on. -/
def tidyBlueprint : Blueprint :=
  { deskBlueprint with
    rules := deskBlueprint.rules ++
      [{ enabled := true, name := "others", targetBox := { center := true } }] }

/-- The screens of the desk with its windows. -/
def deskSnapshot : Desktop := ⟨true, MonitorCheck.deskScreens, deskWindows⟩

/-- On the desk the report has the editors on the main screen, which their rule names, and the other
program on the screen that it is on. -/
theorem snapshot_of_desk :
    ∃ report after events,
      apply .recorder tidyBlueprint deskSnapshot.monitors deskSnapshot.liveWindows {} [] =
        (some (.ok report), after, events) ∧
      (deskSnapshot.monitors.map (·.handle)).Nodup ∧
      (report.windows.map fun e => e.outcome.target?.isSome) = [true, true, true] ∧
      (∀ e ∈ report.windows, ∀ rule reason, e.outcome = .skipped rule reason →
        reason ≠ .currentRectUnavailable) ∧
      List.Forall₂ (fun v e => ∀ ruleName name target, e.outcome = .placed ruleName name target →
          ∃ rule m, rule.name = ruleName ∧
            Placing tidyBlueprint deskSnapshot.monitors true v rule name m target)
        (visits .recorder tidyBlueprint deskSnapshot.monitors deskSnapshot.liveWindows {} [])
        report.windows := by
  have hordered : Window.inProcessingOrder deskSnapshot.liveWindows = deskWindows :=
    Window.inProcessingOrder_of_pairwise (by decide +kernel)
  have hplaced : (apply .recorder tidyBlueprint deskSnapshot.monitors deskSnapshot.liveWindows {}
      []).1.bind (fun answer => answer.toOption.map fun r =>
        r.windows.map fun e => e.outcome.target?.isSome) = some [true, true, true] := by
    unfold apply
    rw [hordered]
    decide +kernel
  have hhandles : (deskSnapshot.monitors.map (·.handle)).Nodup := by decide
  rcases hrun : apply .recorder tidyBlueprint deskSnapshot.monitors deskSnapshot.liveWindows {} []
    with ⟨result, after, events⟩
  rw [hrun] at hplaced
  match result, hplaced with
  | some (.ok report), hplaced =>
    obtain ⟨hlocated, hplacing⟩ := apply_on_snapshot tidyBlueprint deskSnapshot {} [] hrun
    exact ⟨report, after, events, rfl, hhandles, Option.some.inj hplaced,
      fun e he rule reason h => (hlocated e he rule reason h).1,
      (hplacing hhandles).2.imp fun _ _ h => h.2⟩

end DeskPlan
