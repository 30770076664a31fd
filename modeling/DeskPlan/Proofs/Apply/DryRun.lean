import DeskPlan.Proofs.Apply.Run

/-!
# `DeskPlan.Proofs.Apply.DryRun`: a dry run predicts the real one

The host is asked about a window before it is told to move it, and the answers go into the
judgement. So a dry run can differ from a real one as soon as a move changes an answer. A
`Placer.Steady` host answers as if it had received no placement, and for such a host the two
runs agree.

The proof relates the two runs visit by visit. The scripts and the pattern cache are equal on both
sides, and the two hosts give the same answers (`Placer.AnswersAlike`), although only one of
them has received the placements. So the two judge alike (`Visit.judgement?_alike`), and the hosts
go on giving the same answers (`Placer.Steady.answersAlike_settle`). `processAll_dryRun` is the run,
and `apply_dryRun` the whole run with its ends before the first window.
-/

set_option autoImplicit false

namespace DeskPlan

variable {σ : Type}

namespace Placer

/-- What the host answers does not depend on the placements it has received. -/
structure Steady (placer : Placer σ) : Prop where
  currentRect_place : ∀ p host w,
    placer.currentRect (placer.place p host) w = placer.currentRect host w
  currentMonitor_place : ∀ p host w monitors,
    placer.currentMonitor (placer.place p host) w monitors =
      placer.currentMonitor host w monitors

/-- The host answers alike in two states. -/
structure AnswersAlike (placer : Placer σ) (host₁ host₂ : σ) : Prop where
  currentRect : ∀ w, placer.currentRect host₁ w = placer.currentRect host₂ w
  currentMonitor : ∀ w monitors,
    placer.currentMonitor host₁ w monitors = placer.currentMonitor host₂ w monitors

theorem AnswersAlike.refl (placer : Placer σ) (host : σ) : placer.AnswersAlike host host :=
  ⟨fun _ => rfl, fun _ _ => rfl⟩

/-- The host that only notes placements answers with what the windows say of themselves. -/
theorem recorder_steady : recorder.Steady :=
  ⟨fun _ _ _ => rfl, fun _ _ _ _ => rfl⟩

end Placer

/-- To settle a move leaves the host alone, or tells it the move. -/
theorem settle_cases (placer : Placer σ) (dryRun : Bool) (placement : Option Placement) (host : σ) :
    settle placer dryRun placement host = host ∨
      ∃ p, settle placer dryRun placement host = placer.place p host := by
  unfold settle
  cases placement with
  | none => exact Or.inl rfl
  | some p =>
    cases dryRun with
    | true => exact Or.inl rfl
    | false => exact Or.inr ⟨p, rfl⟩

/-- A dry run leaves the host alone. -/
theorem settle_dryRun (placer : Placer σ) (placement : Option Placement) (host : σ) :
    settle placer true placement host = host := by
  unfold settle
  cases placement <;> rfl

/-- After a move is settled a steady host answers as before. -/
theorem Placer.Steady.answersAlike_settle {placer : Placer σ} (hsteady : placer.Steady)
    (dryRun : Bool) (placement : Option Placement) {host₁ host₂ : σ}
    (halike : placer.AnswersAlike host₁ host₂) :
    placer.AnswersAlike host₁ (settle placer dryRun placement host₂) := by
  rcases settle_cases placer dryRun placement host₂ with h | ⟨p, h⟩ <;> rw [h]
  · exact halike
  · constructor
    · intro w
      rw [halike.currentRect, hsteady.currentRect_place]
    · intro w monitors
      rw [halike.currentMonitor, hsteady.currentMonitor_place]

/-! ### One visit -/

namespace Visit

variable {placer : Placer σ} {host₁ host₂ : σ}

/-- On hosts that answer alike, a window is judged alike. -/
theorem judgement?_alike (halike : placer.AnswersAlike host₁ host₂) (plan : Plan) (w : Window)
    (progress : Progress) :
    (⟨w, progress, host₁⟩ : Visit σ).judgement? placer plan =
      (⟨w, progress, host₂⟩ : Visit σ).judgement? placer plan := by
  unfold judgement?
  dsimp only
  rw [halike.currentRect, halike.currentMonitor]
  rfl

/-- On hosts that answer alike, the same is said on a visit. -/
theorem events_alike (halike : placer.AnswersAlike host₁ host₂) (plan : Plan) (total number : Nat)
    (w : Window) (progress : Progress) (judged : Judgement) :
    (⟨w, progress, host₁⟩ : Visit σ).events placer plan total number judged =
      (⟨w, progress, host₂⟩ : Visit σ).events placer plan total number judged := by
  unfold events
  dsimp only
  rw [halike.currentRect]
  rfl

end Visit

/-! ### All windows -/

/-- On hosts that answer alike, a dry run over windows and a real one report the same and say
the same, or end the program at the same window. The dry one leaves its host alone. -/
theorem processAll_dryRun {placer : Placer σ} (hsteady : placer.Steady) (plan : Plan)
    (total : Nat) :
    ∀ (windows : List Window) (number : Nat) (progress : Progress) (host₁ host₂ : σ),
      placer.AnswersAlike host₁ host₂ →
      let dry := processAll placer true plan total number windows progress host₁
      let real := processAll placer false plan total number windows progress host₂
      dry.1 = real.1 ∧ dry.2.1 = host₁ ∧ dry.2.2 = real.2.2 := by
  intro windows
  induction windows with
  | nil =>
    intro number progress host₁ host₂ _
    exact ⟨rfl, rfl, rfl⟩
  | cons w rest ih =>
    intro number progress host₁ host₂ halike
    simp only [processAll_cons, Visit.judgement?_alike halike]
    cases (⟨w, progress, host₂⟩ : Visit σ).judgement? placer plan with
    | none => exact ⟨rfl, rfl, rfl⟩
    | some judged =>
      have hhost : (⟨w, progress, host₁⟩ : Visit σ).hostAfter placer true judged = host₁ :=
        settle_dryRun placer judged.placement host₁
      have halike' := hsteady.answersAlike_settle false judged.placement halike
      -- Both runs go on with the same scripts and patterns.
      obtain ⟨hreports, hrest, hlater⟩ := ih (number + 1)
        ((⟨w, progress, host₂⟩ : Visit σ).progressAfter plan judged) _ _ halike'
      dsimp only
      rw [hhost, Visit.events_alike halike]
      exact ⟨congrArg _ hreports, hrest, congrArg _ hlater⟩

/-! ### Whole runs -/

/-- For a steady host a dry run and a real one of the same blueprint fail with the same error,
or report the same rules, monitors, boxes, states and reasons for every window, or both end the
program. The reports differ only in saying whether the run was dry. The dry run also says the same,
and leaves its host alone. -/
theorem apply_dryRun {placer : Placer σ} (hsteady : placer.Steady) (b : Blueprint)
    (monitors : List Monitor) (windows : List Window) (options : RunOptions) (host : σ) :
    let dry := apply placer b monitors windows { options with dryRun := true } host
    let real := apply placer b monitors windows { options with dryRun := false } host
    dry.1 = real.1.map (Except.map fun r => { r with dryRun := true }) ∧
      (∀ r, real.1 = some (.ok r) → r.dryRun = false) ∧
      dry.2.1 = host ∧ dry.2.2 = real.2.2 := by
  intro dry real
  match hmapping : MonitorCheck.mapping? b.monitorMatch monitors with
  | none =>
    have hdry : dry = _ := apply_of_unmeasured hmapping
    have hreal : real = _ := apply_of_unmeasured hmapping
    rw [hdry, hreal]
    exact ⟨rfl, nofun, rfl, rfl⟩
  | some (.error issues) =>
    have hdry : dry = _ := apply_of_mapping_error hmapping
    have hreal : real = _ := apply_of_mapping_error hmapping
    rw [hdry, hreal]
    exact ⟨rfl, nofun, rfl, rfl⟩
  | some (.ok mapping) =>
    rcases hinit : runInits 0 b.engineInitScripts (.new windows) with ⟨result, events⟩
    cases result with
    | error e =>
      have hdry : dry = _ := apply_of_runInits_error hmapping hinit
      have hreal : real = _ := apply_of_runInits_error hmapping hinit
      rw [hdry, hreal]
      exact ⟨rfl, nofun, rfl, rfl⟩
    | ok context =>
      obtain ⟨hreports, hhost, hevents⟩ := processAll_dryRun hsteady
        (planOf b monitors mapping options) (Window.inProcessingOrder windows).length
        (Window.inProcessingOrder windows) 1 ⟨context, .empty⟩ host host (.refl placer host)
      have hdry : dry = _ := apply_of_runInits_ok hmapping hinit
      have hreal : real = _ := apply_of_runInits_ok hmapping hinit
      rw [hdry, hreal]
      refine ⟨?_, ?_, hhost, congrArg (List.append _) hevents⟩
      · dsimp only
        rw [Option.map_map]
        exact congrArg (Option.map _) hreports
      · intro r hr
        obtain ⟨entries, -, heq⟩ := Option.map_eq_some_iff.1 hr
        cases heq
        rfl

/-- For the host that only notes placements, a dry run tells what becomes of the editors on the
desk, although each is placed by what the one before has left in the scripts. -/
theorem dryRun_deskBlueprint :
    Placer.recorder.Steady ∧
    let dry := apply .recorder deskBlueprint MonitorCheck.deskScreens deskWindows
      { ({} : RunOptions) with dryRun := true } []
    let real := apply .recorder deskBlueprint MonitorCheck.deskScreens deskWindows
      { ({} : RunOptions) with dryRun := false } []
    dry.1 = real.1.map (Except.map fun r => { r with dryRun := true }) ∧
      (∀ r, real.1 = some (.ok r) → r.dryRun = false) ∧
      dry.2.1 = [] ∧ dry.2.2 = real.2.2 :=
  ⟨Placer.recorder_steady,
    apply_dryRun Placer.recorder_steady deskBlueprint MonitorCheck.deskScreens deskWindows {} []⟩

end DeskPlan
