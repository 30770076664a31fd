import DeskPlan.Proofs.Apply.Run
import DeskPlan.Proofs.Layout.Box
import DeskPlan.Proofs.Monitor.Location
import DeskPlan.Proofs.Window.Order

/-!
# `DeskPlan.Proofs.Apply.Reach`: runs that no measure ends

A run measures the monitors, the windows and what it has placed. Each of these can be out of range,
and then the program ends without a report.

* `line?_apply`: what a run tells about its work can be shown, so it is not an event that ends it. A
  window that is placed has been measured before, and so has its place (`measurable_of_targetFor?`);
* `isSome_apply`: a run comes to an end when the monitors can be measured and the host finds the
  monitor of every window. `exists_judgement` is the step, one window;
* `Desktop.InReach`: this holds on a desktop. `inReach_of_moderate`: it does when no edge is further
  than `2 ^ 29` from the origin.
-/

set_option autoImplicit false

namespace DeskPlan

variable {σ : Type}

/-! ### What is told -/

/-- A window for which a target is computed can be measured, and so can its target. -/
theorem measurable_of_targetFor? {current : Rect} {rule : Rule} {m : Monitor}
    {formulas : Formulas Target} (h : targetFor? current rule m = some formulas)
    {c c' : Script.Context} {target : Target} (hrun : formulas.run c = (.ok target, c')) :
    current.Measurable ∧ target.rect.Measurable := by
  obtain ⟨constants, screen, -, hscreen, rfl⟩ := targetFor?_eq_some_iff.1 h
  obtain ⟨-, x, y, w, h, hbox, hrect⟩ := (targetOn_eq_ok_iff hscreen).1 hrun
  obtain ⟨c₁, hextent, -⟩ := hbox.computed
  obtain ⟨hw, hh⟩ := hextent.isCoordinate
  obtain ⟨hleft, htop, hright, hbottom⟩ := hrect
  unfold IsCoordinate at hw hh
  refine ⟨⟨hextent.width.1, hextent.width.2, hextent.height.1, hextent.height.2⟩, ?_⟩
  constructor <;> omega

theorem line?_opening (w : Window) (number total : Nat)
    (choice : Except PatternFailure (Option (Nat × Rule))) :
    ∀ e ∈ windowEvents w number total ++ ruleEvents w choice, e.line?.isSome := by
  refine List.forall_mem_append.2 ⟨?_, ?_⟩
  · have htool : (if w.isToolWindow then some "true" else some "false").isSome := by
      split <;> rfl
    simp [windowEvents, Event.line?_isSome_iff, htool, -Prod.forall]
  · unfold ruleEvents
    split <;> simp [Event.line?_isSome_iff, -Prod.forall]

theorem line?_scriptEvents (said : List Script.Output) :
    ∀ e ∈ said.map scriptEvent, e.line?.isSome := by
  refine List.forall_mem_map.2 fun output _ => ?_
  cases output <;> simp [scriptEvent, Event.line?_isSome_iff]

section
variable {plan : Plan} {w : Window} {choice : Except PatternFailure (Option (Nat × Rule))}
  {current : Option Rect} {monitor : Checked (Option Word64)} {context : Script.Context}
  {judged : Judgement}

/-- What is told about an outcome can be shown: a window that is placed has been measured before,
and so has its place. -/
theorem line?_outcomeEvents (h : judge plan w choice current monitor context = some judged) :
    ∀ e ∈ outcomeEvents current judged.outcome, e.line?.isSome := by
  cases judgedAs_judge h with
  | placed hchoice hdestination hrect hformulas htarget =>
    obtain ⟨hcurrent, hplace⟩ := measurable_of_targetFor? hformulas htarget
    rw [← Rect.describe?_isSome_iff] at hcurrent hplace
    simp [outcomeEvents, Event.line?_isSome_iff, hrect, hcurrent, hplace, -Prod.forall]
  | _ => simp [outcomeEvents, Event.line?_isSome_iff]

end

/-- What is told while windows are processed can be shown. -/
theorem line?_processAll (placer : Placer σ) (dryRun : Bool) (plan : Plan) (total : Nat) :
    ∀ (windows : List Window) (number : Nat) (progress : Progress) (host : σ),
      ∀ e ∈ (processAll placer dryRun plan total number windows progress host).2.2,
        e.line?.isSome := by
  intro windows
  induction windows with
  | nil =>
    intro number progress host
    exact List.forall_mem_nil _
  | cons w rest ih =>
    intro number progress host
    rw [processAll_cons]
    dsimp only
    -- A window that is not judged ends the run, after the events that open it.
    cases hjudged : (⟨w, progress, host⟩ : Visit σ).judgement? placer plan with
    | none => exact line?_opening w number total _
    | some judged =>
      exact List.forall_mem_append.2 ⟨List.forall_mem_append.2 ⟨List.forall_mem_append.2
        ⟨line?_opening w number total _, line?_scriptEvents _⟩, line?_outcomeEvents hjudged⟩,
        ih _ _ _⟩

/-- What is told about init scripts can be shown. -/
theorem line?_runInits : ∀ (sources : List String) (index : Nat) (context : Script.Context),
    ∀ e ∈ (runInits index sources context).2, e.line?.isSome := by
  intro sources
  induction sources with
  | nil =>
    intro index context
    exact List.forall_mem_nil _
  | cons source rest ih =>
    intro index context
    rw [runInits]
    rcases context.runInit index source with ⟨result, after⟩
    cases result with
    | error e =>
      exact List.forall_mem_append.2 ⟨line?_scriptEvents _, by simp [Event.line?_isSome_iff]⟩
    | ok u =>
      exact List.forall_mem_append.2 ⟨line?_scriptEvents _, List.forall_mem_cons.2
        ⟨by simp [Event.line?_isSome_iff], ih _ _⟩⟩

/-- What a run tells about its work can be shown. -/
theorem line?_apply (placer : Placer σ) (b : Blueprint) (monitors : List Monitor)
    (windows : List Window) (options : RunOptions) (host : σ) :
    ∀ e ∈ (apply placer b monitors windows options host).2.2, e.line?.isSome := by
  match hmapping : MonitorCheck.mapping? b.monitorMatch monitors with
  | none =>
    rw [apply_of_unmeasured hmapping]
    exact List.forall_mem_nil _
  | some (.error issues) =>
    rw [apply_of_mapping_error hmapping]
    exact List.forall_mem_map.2 fun i _ => by simp [Event.line?_isSome_iff]
  | some (.ok mapping) =>
    have hinits := line?_runInits b.engineInitScripts 0 (.new windows)
    rcases hinit : runInits 0 b.engineInitScripts (.new windows) with ⟨result, said⟩
    rw [hinit] at hinits
    cases result with
    | error e =>
      rw [apply_of_runInits_error hmapping hinit]
      exact hinits
    | ok context =>
      rw [apply_of_runInits_ok hmapping hinit]
      exact List.forall_mem_append.2 ⟨List.forall_mem_append.2 ⟨hinits,
        List.forall_mem_map.2 fun name _ => by simp [Event.line?_isSome_iff]⟩,
        line?_processAll _ _ _ _ _ _ _ _⟩

/-! ### What ends -/

theorem mem_of_withHandle {h : Word64} {monitors : List Monitor} {m : Monitor}
    (hm : Monitor.withHandle h monitors = some m) : m ∈ monitors :=
  List.mem_of_find?_eq_some hm

/-- A window is sent to one of the monitors, if the mapping names no other ones. -/
theorem mem_of_destination {plan : Plan} {rule : Rule} {current : Checked (Option Word64)}
    (hmapping : ∀ name m, plan.mapping.get? name = some m → m ∈ plan.monitors) {name : String}
    {m : Monitor} (h : destination plan rule current = some (.ok (name, m))) :
    m ∈ plan.monitors := by
  unfold destination at h
  split at h
  · split at h
    · rename_i hname
      cases h
      exact hmapping _ _ hname
    · cases h
  · obtain ⟨handle, -, h⟩ := Option.map_eq_some_iff.1 h
    split at h
    · rename_i hfound
      cases h
      obtain ⟨k, -, hk⟩ := Option.bind_eq_some_iff.1 hfound
      exact mem_of_withHandle hk
    · cases h

/-- The monitors and their work areas can be measured. -/
def AllMeasurable (monitors : List Monitor) : Prop :=
  ∀ m ∈ monitors, m.monitorRect.Measurable ∧ m.workAreaRect.Measurable

instance (monitors : List Monitor) : Decidable (AllMeasurable monitors) :=
  inferInstanceAs (Decidable (∀ m ∈ monitors, _ ∧ _))

/-- A window is judged when the monitors can be measured and its own is found. -/
theorem exists_judgement {plan : Plan} (hmonitors : AllMeasurable plan.monitors)
    (hmapping : ∀ name m, plan.mapping.get? name = some m → m ∈ plan.monitors) (w : Window)
    (choice : Except PatternFailure (Option (Nat × Rule))) (current : Option Rect)
    {monitor : Checked (Option Word64)} (hmonitor : monitor.isSome) (context : Script.Context) :
    ∃ judged, judge plan w choice current monitor context = some judged := by
  -- A rule that names a monitor looks it up; only the others need the one of the window.
  have hdestination : ∀ rule, ∃ found, destination plan rule monitor = some found := by
    intro rule
    obtain ⟨handle, hhandle⟩ := Option.isSome_iff_exists.1 hmonitor
    unfold destination
    rw [hhandle]
    split
    · split <;> exact ⟨_, rfl⟩
    · exact ⟨_, rfl⟩
  match choice with
  | .error e => exact ⟨_, rfl⟩
  | .ok none => exact ⟨_, rfl⟩
  | .ok (some (index, rule)) =>
    obtain ⟨found, hfound⟩ := hdestination rule
    show ∃ judged, carryOut plan w rule current monitor context = some judged
    unfold carryOut
    rw [hfound]
    match found, current with
    | .error reason, _ => exact ⟨_, rfl⟩
    | .ok (name, m), none => exact ⟨_, rfl⟩
    | .ok (name, m), some rect =>
      obtain ⟨hmonitor, hwork⟩ := hmonitors m (mem_of_destination hmapping hfound)
      obtain ⟨screen, -, hformulas⟩ := targetFor?_of_measurable rect rule hmonitor hwork
      dsimp only [bind, Option.bind_some]
      rw [hformulas]
      dsimp only [Option.bind_some]
      split <;> exact ⟨_, rfl⟩

/-- Windows are processed to the end when the host finds the monitor of each, whatever it has been
told before. -/
theorem exists_entries {placer : Placer σ} {plan : Plan} (hmonitors : AllMeasurable plan.monitors)
    (hmapping : ∀ name m, plan.mapping.get? name = some m → m ∈ plan.monitors) (dryRun : Bool)
    (total : Nat) :
    ∀ (windows : List Window),
      (∀ host, ∀ w ∈ windows, (placer.currentMonitor host w plan.monitors).isSome) →
      ∀ (number : Nat) (progress : Progress) (host : σ),
        (processAll placer dryRun plan total number windows progress host).1.isSome := by
  -- What a window leaves in the scripts, the cache and the host is what the next one starts from.
  intro windows
  induction windows with
  | nil =>
    intro _ number progress host
    rfl
  | cons w rest ih =>
    intro hfinds number progress host
    obtain ⟨judged, hjudged⟩ := exists_judgement hmonitors hmapping w
      (chooseRule w plan.rules plan.taskbarAvailable progress.cache).1 (placer.currentRect host w)
      (hfinds host w List.mem_cons_self) progress.context
    have hvisit : (⟨w, progress, host⟩ : Visit σ).judgement? placer plan = some judged := hjudged
    rw [processAll_cons]
    dsimp only
    rw [hvisit, Option.isSome_map]
    exact ih (fun host w' hw' => hfinds host w' (List.mem_cons_of_mem w hw')) _ _ _

/-- A run comes to an end when the monitors can be measured and the host finds the monitor of every
window. -/
theorem isSome_apply {placer : Placer σ} (b : Blueprint) {monitors : List Monitor}
    {windows : List Window} (options : RunOptions) (host : σ) (hmonitors : AllMeasurable monitors)
    (hfinds : ∀ host, ∀ w ∈ windows, (placer.currentMonitor host w monitors).isSome) :
    (apply placer b monitors windows options host).1.isSome := by
  match hmapping : MonitorCheck.mapping? b.monitorMatch monitors with
  | none =>
    -- Monitors that can be measured can be compared.
    have hof := MonitorCheck.of?_of_measurable b.monitorMatch fun m hm => (hmonitors m hm).1
    rw [MonitorCheck.mapping?, hof] at hmapping
    cases hmapping
  | some (.error issues) =>
    rw [apply_of_mapping_error hmapping]
    rfl
  | some (.ok mapping) =>
    rcases hinit : runInits 0 b.engineInitScripts (.new windows) with ⟨result, said⟩
    cases result with
    | error e =>
      rw [apply_of_runInits_error hmapping hinit]
      rfl
    | ok context =>
      rw [apply_of_runInits_ok hmapping hinit, Option.isSome_map]
      have hmem : ∀ name m, mapping.get? name = some m → m ∈ monitors := fun name m hm =>
        MonitorCheck.mem_of_mapping (MonitorCheck.mapping?_eq_some_iff.1 hmapping).2 hm
      have hordered : ∀ host, ∀ w ∈ Window.inProcessingOrder windows,
          (placer.currentMonitor host w monitors).isSome := fun host w hw =>
        hfinds host w ((Window.inProcessingOrder_perm windows).mem_iff.1 hw)
      have hplan : AllMeasurable (planOf b monitors mapping options).monitors := hmonitors
      exact exists_entries hplan hmem _ _ _ hordered _ _ _

/-! ### Desktops -/

namespace Desktop

/-- Nothing that a run measures on the desktop is out of range:

- `monitors`: the monitors and their work areas can be measured;
- `windows`: the search for the monitor of a window comes to an end. -/
structure InReach (d : Desktop) : Prop where
  monitors : AllMeasurable d.monitors
  windows : ∀ w ∈ d.windows, (Monitor.ofRect? w.rect d.monitors).isSome

instance (d : Desktop) : Decidable d.InReach :=
  decidable_of_iff
    (AllMeasurable d.monitors ∧ ∀ w ∈ d.windows, (Monitor.ofRect? w.rect d.monitors).isSome)
    ⟨fun h => ⟨h.1, h.2⟩, fun h => ⟨h.monitors, h.windows⟩⟩

/-- What is hidden of a window does not change where it is. -/
theorem exists_window_of_live {d : Desktop} {w : Window} (h : w ∈ d.liveWindows) :
    ∃ v ∈ d.windows, w.rect = v.rect := by
  unfold liveWindows at h
  split at h
  · exact ⟨w, h, rfl⟩
  · obtain ⟨v, hv, rfl⟩ := List.mem_map.1 h
    exact ⟨v, hv, rfl⟩

/-- On a desktop in reach every run comes to an end. -/
theorem InReach.isSome_apply {d : Desktop} (h : d.InReach) (b : Blueprint) (options : RunOptions)
    (placements : List Placement) :
    (apply .recorder b d.monitors d.liveWindows options placements).1.isSome := by
  refine DeskPlan.isSome_apply b options placements h.monitors fun _ w hw => ?_
  obtain ⟨v, hv, hrect⟩ := exists_window_of_live hw
  show ((Monitor.ofRect? w.rect d.monitors).map _).isSome
  rw [Option.isSome_map, hrect]
  exact h.windows v hv

end Desktop

/-! ### Coordinates of moderate size -/

namespace Rect

/-- No edge of the rectangle is further than `2 ^ 29` from the origin. -/
structure Moderate (r : Rect) : Prop where
  left : -536870912 ≤ r.left.val ∧ r.left.val ≤ 536870912
  top : -536870912 ≤ r.top.val ∧ r.top.val ≤ 536870912
  right : -536870912 ≤ r.right.val ∧ r.right.val ≤ 536870912
  bottom : -536870912 ≤ r.bottom.val ∧ r.bottom.val ≤ 536870912

namespace Moderate

variable {r s : Rect}

theorem measurable (h : r.Moderate) : r.Measurable := by
  obtain ⟨hleft, htop, hright, hbottom⟩ := h
  constructor <;> omega

theorem withinReach (hr : r.Moderate) (hs : s.Moderate) : r.WithinReach s := by
  obtain ⟨hleft, htop, hright, hbottom⟩ := hr
  obtain ⟨hleft', htop', hright', hbottom'⟩ := hs
  constructor <;> omega

/-- A square of a number that is small enough takes half of the range. -/
theorem mul_self_le {d : Int} (h0 : 0 ≤ d) (h : d ≤ 2147483647) :
    d * d ≤ 2147483647 * 2147483647 :=
  Int.mul_le_mul h h h0 (by omega)

theorem trueSquaredDistance_le (hr : r.Moderate) (hs : s.Moderate) :
    r.trueSquaredDistance s ≤ 9223372036854775807 := by
  have haxis : ∀ {low high low' high' : Int}, -536870912 ≤ low ∧ low ≤ 536870912 →
      -536870912 ≤ high ∧ high ≤ 536870912 → -536870912 ≤ low' ∧ low' ≤ 536870912 →
      -536870912 ≤ high' ∧ high' ≤ 536870912 →
      0 ≤ axisDistance (low + (high - low).tdiv 2) low' high' ∧
        axisDistance (low + (high - low).tdiv 2) low' high' ≤ 2147483647 := by
    intro low high low' high' hlow hhigh hlow' hhigh'
    have hhalf : 2 * (high - low).tdiv 2 + (high - low).tmod 2 = high - low :=
      Int.mul_tdiv_add_tmod _ _
    have hrest := Int.tmod_two_eq (high - low)
    unfold axisDistance
    split
    · omega
    · split <;> omega
  obtain ⟨hx0, hx⟩ := haxis hr.left hr.right hs.left hs.right
  obtain ⟨hy0, hy⟩ := haxis hr.top hr.bottom hs.top hs.bottom
  have hdx := mul_self_le hx0 hx
  have hdy := mul_self_le hy0 hy
  unfold trueSquaredDistance centre
  dsimp only
  omega

end Moderate

end Rect

/-- A desktop is in reach when no edge on it is further than `2 ^ 29` from the origin. -/
theorem Desktop.inReach_of_moderate {d : Desktop}
    (hmonitors : ∀ m ∈ d.monitors, m.monitorRect.Moderate ∧ m.workAreaRect.Moderate)
    (hwindows : ∀ w ∈ d.windows, w.rect.Moderate) : d.InReach where
  monitors m hm := ⟨(hmonitors m hm).1.measurable, (hmonitors m hm).2.measurable⟩
  windows w hw := by
    have hmeasurable : ∀ m ∈ d.monitors, m.monitorRect.Measurable := fun m hm =>
      (hmonitors m hm).1.measurable
    have hlocatable : Monitor.Locatable w.rect d.monitors :=
      ⟨fun m hm => (hwindows w hw).withinReach (hmonitors m hm).1,
        fun _ m hm => (hwindows w hw).trueSquaredDistance_le (hmonitors m hm).1⟩
    exact Monitor.ofRect?_isSome_iff.2
      ((Monitor.computed_iff_locatable (hwindows w hw).measurable hmeasurable).2 hlocatable)

end DeskPlan
