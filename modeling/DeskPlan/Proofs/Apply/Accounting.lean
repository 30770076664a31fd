import DeskPlan.Proofs.Apply.Run
import DeskPlan.Proofs.Window.Order

/-!
# `DeskPlan.Proofs.Apply.Accounting`: the report tells what the host was told

A `RecordingPlacer` is a host that can say which placements it has received, whatever else it
is and whatever it answers when it is asked about a window. `Report.moves` reads the placements
off a report: the handle, the box and the state of every window that the report calls placed.

`Visit.received_hostAfter` is the invariant of one visit: what the host has received grows by the
move that is decided on, and does not grow in a dry run. `received_processAll` is the same for all
windows, however the run ends. In a run that reports, these are the moves of the report
(`moves_of_visits`), which has one entry for every window (`subjects_of_visits`). `apply_accounts`
puts this together for whole runs, with the runs that end before the first window.
-/

set_option autoImplicit false

namespace DeskPlan

variable {σ : Type}

/-! ### Hosts that keep a record -/

/-- A host that keeps what it is told: after a placement it has received one placement more. -/
structure RecordingPlacer (σ : Type) extends Placer σ where
  received : σ → List Placement
  received_place : ∀ p host, received (place p host) = received host ++ [p]

/-- The host that only notes placements has received what it has noted. -/
def RecordingPlacer.recorder : RecordingPlacer (List Placement) where
  toPlacer := .recorder
  received := List.reverse
  received_place _ _ := List.reverse_cons

/-! ### What a report says -/

/-- The window that an entry is about. -/
def WindowEntry.subject (e : WindowEntry) : Word64 × String × Option String :=
  (e.handle, e.title, e.programPath)

/-- What an entry tells of a window, apart from its outcome. -/
def Window.subject (w : Window) : Word64 × String × Option String :=
  (w.handle, w.title, w.programPath)

/-- The moves that entries speak of: the handle, the box and the state of every window that was
placed, in order. -/
def movesOf (entries : List WindowEntry) : List Placement :=
  entries.filterMap fun e =>
    match e.outcome with
    | .placed _ _ target => some ⟨e.handle, target.rect, target.state⟩
    | .noMatchingRule | .patternFailure _ | .skipped _ _ => none

/-- The moves that a report speaks of. -/
def Report.moves (r : Report) : List Placement := movesOf r.windows

/-- The moves of entries are those of the first one, then those of the others. -/
theorem movesOf_cons (e : WindowEntry) (rest : List WindowEntry) :
    movesOf (e :: rest) = e.placement?.toList ++ movesOf rest := by
  unfold movesOf
  rw [List.filterMap_cons]
  obtain ⟨handle, title, path, outcome⟩ := e
  cases outcome <;> rfl

/-- Every entry is counted once: as placed, as unmatched or as failed. -/
theorem counts_add_up (r : Report) : r.placed + r.unmatched + r.failed = r.windows.length := by
  unfold Report.placed Report.unmatched Report.failed
  induction r.windows with
  | nil => rfl
  | cons e rest ih =>
    simp only [List.countP_cons, List.length_cons]
    -- An outcome is of one of the three kinds and of no other.
    have hkind : (if e.outcome.target?.isSome = true then 1 else 0) +
        (if e.outcome.isUnmatched = true then 1 else 0) +
        (if e.outcome.isFailure = true then 1 else 0) = 1 := by
      cases e.outcome <;> rfl
    omega

/-! ### One visit -/

namespace Visit

/-- The move that is decided on at a visit, if it comes to an end with one. -/
def move? (placer : Placer σ) (plan : Plan) (v : Visit σ) : Option Placement :=
  (v.judgement? placer plan).bind Judgement.placement

/-- After a visit the host has received the move that was decided on, unless the run is dry. -/
theorem received_hostAfter (placer : RecordingPlacer σ) (dryRun : Bool) (v : Visit σ)
    (judged : Judgement) :
    placer.received (v.hostAfter placer.toPlacer dryRun judged) =
      placer.received v.host ++ if dryRun then [] else judged.placement.toList := by
  unfold hostAfter settle
  cases judged.placement with
  | none => simp
  | some p =>
    cases dryRun with
    | true => simp
    | false => simp [placer.received_place]

/-- The move is the one the entry speaks of. -/
theorem move?_of_entry? {placer : Placer σ} {plan : Plan} {v : Visit σ} {e : WindowEntry}
    (h : v.entry? placer plan = some e) : v.move? placer plan = e.placement? := by
  obtain ⟨judged, hjudged, rfl⟩ := Option.map_eq_some_iff.1 h
  rw [move?, hjudged]
  exact Judgement.placement_eq hjudged

end Visit

/-! ### All windows -/

/-- After a run the host has received the moves of its visits, in order, unless the run is dry. This
is so however the run ends. -/
theorem received_processAll (placer : RecordingPlacer σ) (dryRun : Bool) (plan : Plan)
    (total : Nat) :
    ∀ (windows : List Window) (number : Nat) (progress : Progress) (host : σ),
      placer.received
          (processAll placer.toPlacer dryRun plan total number windows progress host).2.1 =
        placer.received host ++ if dryRun then [] else
          (visitsAlong placer.toPlacer dryRun plan windows progress host).filterMap
            (Visit.move? placer.toPlacer plan) := by
  intro windows
  induction windows with
  | nil =>
    intro number progress host
    simp [processAll, visitsAlong]
  | cons w rest ih =>
    intro number progress host
    rw [processAll_cons, visitsAlong]
    dsimp only
    cases hjudged : (⟨w, progress, host⟩ : Visit σ).judgement? placer.toPlacer plan with
    | none =>
      have hmove : (⟨w, progress, host⟩ : Visit σ).move? placer.toPlacer plan = none := by
        rw [Visit.move?, hjudged]
        rfl
      simp [hmove]
    | some judged =>
      have hmove : (⟨w, progress, host⟩ : Visit σ).move? placer.toPlacer plan =
          judged.placement := by
        rw [Visit.move?, hjudged]
        rfl
      dsimp only
      rw [ih, Visit.received_hostAfter]
      cases dryRun with
      | true => simp
      | false => cases hplacement : judged.placement <;> simp [hmove, hplacement]

section
variable {placer : Placer σ} {plan : Plan} {visits : List (Visit σ)} {entries : List WindowEntry}

/-- The moves of visits are those that their entries speak of. -/
theorem moves_of_visits
    (h : List.Forall₂ (fun v e => v.entry? placer plan = some e) visits entries) :
    visits.filterMap (Visit.move? placer plan) = movesOf entries := by
  induction h with
  | nil => rfl
  | @cons v e visits entries hentry _ ih =>
    rw [movesOf_cons, ← ih, ← Visit.move?_of_entry? hentry]
    cases hmove : v.move? placer plan <;> simp [hmove]

/-- Entries are about the windows of their visits. -/
theorem subjects_of_visits
    (h : List.Forall₂ (fun v e => v.entry? placer plan = some e) visits entries) :
    entries.map WindowEntry.subject = (visits.map Visit.window).map Window.subject := by
  induction h with
  | nil => rfl
  | cons hentry _ ih =>
    obtain ⟨judged, -, rfl⟩ := Option.map_eq_some_iff.1 hentry
    rw [List.map_cons, List.map_cons, List.map_cons, ih]
    rfl

end

/-- A run that ends with entries has one for every window, in order, and the host has received what
they speak of, unless the run is dry. -/
theorem accounts_of_processAll {placer : RecordingPlacer σ} {dryRun : Bool} {plan : Plan}
    {total number : Nat} {windows : List Window} {progress : Progress} {host after : σ}
    {entries : List WindowEntry} {events : List Event}
    (h : processAll placer.toPlacer dryRun plan total number windows progress host =
      (some entries, after, events)) :
    entries.map WindowEntry.subject = windows.map Window.subject ∧
      placer.received after = placer.received host ++ if dryRun then [] else movesOf entries := by
  obtain ⟨hwindows, hentries⟩ := entries_processAll _ _ _ _ _ _ _ _ _ (congrArg Prod.fst h)
  have hreceived := received_processAll placer dryRun plan total windows number progress host
  rw [h, moves_of_visits hentries] at hreceived
  exact ⟨(subjects_of_visits hentries).trans (congrArg _ hwindows), hreceived⟩

/-! ### Whole runs -/

section
variable (placer : RecordingPlacer σ) (b : Blueprint) (monitors : List Monitor)
  (windows : List Window) (options : RunOptions) (host : σ)

/-- A run that fails has moved nothing. A run that reports has one entry for every window, in
processing order, and counts every window once. The host has received exactly the moves the
report speaks of, in the same order, and nothing if the run was dry. Nor does a dry run move
anything if it ends the program. -/
theorem apply_accounts :
    let run := apply placer.toPlacer b monitors windows options host
    (∀ e, run.1 = some (.error e) → placer.received run.2.1 = placer.received host) ∧
    (∀ report, run.1 = some (.ok report) →
      report.windows.map WindowEntry.subject =
          (Window.inProcessingOrder windows).map Window.subject ∧
        (Window.inProcessingOrder windows).Perm windows ∧
        report.placed + report.unmatched + report.failed = windows.length ∧
        placer.received run.2.1 =
          placer.received host ++ if options.dryRun then [] else report.moves) ∧
    (options.dryRun = true → placer.received run.2.1 = placer.received host) := by
  intro run
  have hran : RanAs placer.toPlacer b monitors windows options host run := ranAs_apply
  rcases run with ⟨result, after, events⟩
  cases hran with
  | unmeasured hmapping => exact ⟨nofun, nofun, fun _ => rfl⟩
  | unfit hmapping => exact ⟨fun _ _ => rfl, nofun, fun _ => rfl⟩
  | uninitialised hmapping hinit => exact ⟨fun _ _ => rfl, nofun, fun _ => rfl⟩
  | @stopped mapping context said later _ _ hmapping hinit hstopped =>
    have hreceived := received_processAll placer options.dryRun
      (planOf b monitors mapping options) (Window.inProcessingOrder windows).length
      (Window.inProcessingOrder windows) 1 ⟨context, .empty⟩ host
    rw [hstopped] at hreceived
    refine ⟨nofun, nofun, fun hdry => ?_⟩
    rw [if_pos hdry, List.append_nil] at hreceived
    exact hreceived
  | @reported _ _ _ _ entries _ _ hmapping hinit hprocessed =>
    obtain ⟨hsubjects, hreceived⟩ := accounts_of_processAll hprocessed
    refine ⟨nofun, fun report hreport => ?_, fun hdry => ?_⟩
    · cases hreport
      have hperm := Window.inProcessingOrder_perm windows
      refine ⟨hsubjects, hperm, ?_, hreceived⟩
      have hlength := congrArg List.length hsubjects
      rw [List.length_map, List.length_map] at hlength
      rw [counts_add_up]
      exact hlength.trans hperm.length_eq
    · rw [if_pos hdry, List.append_nil] at hreceived
      exact hreceived

end

/-- On the desk the two editors are moved, each a hundred pixels further than the one before. The
third window is reported, too, but no rule is for it. -/
theorem accounts_of_desk :
    ∃ report after events,
      apply RecordingPlacer.recorder.toPlacer deskBlueprint MonitorCheck.deskScreens deskWindows {}
        [] = (some (.ok report), after, events) ∧
      report.windows.map WindowEntry.subject = deskWindows.map Window.subject ∧
      (report.placed, report.unmatched, report.failed) = (2, 1, 0) ∧
      after.reverse = report.moves ∧
      (report.moves.map fun p => (p.handle.val, p.rect.left.val)) = [(1, 100), (2, 200)] := by
  have hordered : Window.inProcessingOrder deskWindows = deskWindows :=
    Window.inProcessingOrder_of_pairwise (by decide +kernel)
  have hran : (apply RecordingPlacer.recorder.toPlacer deskBlueprint MonitorCheck.deskScreens
      deskWindows {} []).1.bind (fun answer => answer.toOption.map fun report =>
        ((report.placed, report.unmatched, report.failed),
          report.moves.map fun p => (p.handle.val, p.rect.left.val))) =
      some ((2, 1, 0), [(1, 100), (2, 200)]) := by
    unfold apply
    rw [hordered]
    decide +kernel
  obtain ⟨-, haccounts, -⟩ := apply_accounts RecordingPlacer.recorder deskBlueprint
    MonitorCheck.deskScreens deskWindows {} []
  rcases hrun : apply RecordingPlacer.recorder.toPlacer deskBlueprint MonitorCheck.deskScreens
    deskWindows {} [] with ⟨result, after, events⟩
  rw [hrun] at hran haccounts
  match result, hran with
  | some (.ok report), hran =>
    obtain ⟨hcounts, hmoves⟩ := Prod.mk.inj (Option.some.inj hran)
    obtain ⟨hsubjects, -, -, hreceived⟩ := haccounts report rfl
    rw [hordered] at hsubjects
    exact ⟨report, after, events, rfl, hsubjects, hcounts, hreceived, hmoves⟩

end DeskPlan
