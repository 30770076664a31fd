import DeskPlan.Apply.Report
import DeskPlan.Desktop.Snapshot
import DeskPlan.Log.Event
import DeskPlan.Window.Order

/-!
# `DeskPlan.Apply.Run`: applying a blueprint

A run checks the monitors, runs the init scripts, and goes through the windows in processing
order. For each window `judge` finds the outcome and the move that goes with it; the host is told
to move the window afterwards, unless the run is dry. So a dry run and a real one judge alike as
long as the host's answers do not depend on the moves it was told.

Monitors and windows are measured on the way, and a measure that is out of range ends the program.
Then there is no report, but the host has been told the earlier moves, and the events up to there
have happened.

* `judge` is what is decided about one window;
* `processAll` goes through the windows, `apply` is the whole run.
-/

set_option autoImplicit false

namespace DeskPlan

/-- The side of the host that moves windows and knows where they are. -/
structure Placer (σ : Type) where
  currentRect : σ → Window → Option Rect
  currentMonitor : σ → Window → List Monitor → Checked (Option Word64)
  place : Placement → σ → σ

/-- The monitor that a window's rectangle is on. -/
def monitorOfRect (rect : Option Rect) (monitors : List Monitor) : Checked (Option Word64) :=
  match rect with
  | some r => (Monitor.ofRect? r monitors).map fun found => found.map (·.handle)
  | none => some none

/-- A host that only notes the placements, latest first. -/
def Placer.recorder : Placer (List Placement) where
  currentRect _ w := some w.rect
  currentMonitor _ w monitors := monitorOfRect (some w.rect) monitors
  place p placements := p :: placements

/-- How a blueprint is applied. -/
structure RunOptions where
  /-- Report the placements without moving anything. -/
  dryRun : Bool := false
  taskbarAvailable : Bool := true
  /-- The greatest edit distance of a suggested name. -/
  fuzzyThreshold : Nat := 2
deriving DecidableEq, Repr

/-- What stays the same during a run. -/
structure Plan where
  rules : List Rule
  monitors : List Monitor
  mapping : MonitorAssignment
  taskbarAvailable : Bool
  fuzzyThreshold : Nat

/-- What changes from window to window. -/
structure Progress where
  context : Script.Context
  cache : PatternCache

/-! ### One window -/

/-- What the scripts have said, as events. -/
def scriptEvent : Script.Output → Event
  | .printed text => { level := .info, target := .script, message := text }
  | .debugged text position =>
    { level := .debug, target := .script, message := text ++ " @ None:" ++ position.describe }

/-- The monitor a rule sends a window to, with the name it is reported under: the named one, or
the one the window is on, which is looked for only then. -/
def destination (plan : Plan) (rule : Rule) (current : Checked (Option Word64)) :
    Checked (Except Obstacle (String × Monitor)) :=
  match rule.targetMonitor with
  | some name =>
    match plan.mapping.get? name with
    | some m => some (.ok (name, m))
    | none => some (.error (.unknownTargetMonitor name
        (Text.suggestions name plan.mapping.names plan.fuzzyThreshold)))
  | none => current.map fun handle =>
    match handle.bind fun h => Monitor.withHandle h plan.monitors with
    | some m => .ok (m.name, m)
    | none => .error (.currentMonitorNotFound handle)

/-- What is decided about a window: the outcome, the move it comes to, and the scripts
afterwards. -/
structure Judgement where
  outcome : Verdict
  placement : Option Placement
  context : Script.Context

/-- What is decided about a window for which a rule was found. -/
def carryOut (plan : Plan) (w : Window) (rule : Rule) (current : Option Rect)
    (monitor : Checked (Option Word64)) (context : Script.Context) : Checked Judgement := do
  -- A missing monitor is told before a missing rectangle, and no script runs without either.
  match ← destination plan rule monitor with
  | .error reason => return ⟨.skipped rule.name reason, none, context⟩
  | .ok (name, m) =>
    match current with
    | none => return ⟨.skipped rule.name .currentRectUnavailable, none, context⟩
    | some rect =>
      match (← targetFor? rect rule m).run context with
      | (.ok target, context) =>
        return ⟨.placed rule.name name target, some ⟨w.handle, target.rect, target.state⟩, context⟩
      | (.error e, context) => return ⟨.skipped rule.name (.expression e), none, context⟩

/-- What is decided about a window, by the rule that was chosen for it with its position. -/
def judge (plan : Plan) (w : Window) (choice : Except PatternFailure (Option (Nat × Rule)))
    (current : Option Rect) (monitor : Checked (Option Word64)) (context : Script.Context) :
    Checked Judgement :=
  match choice with
  | .error e => some ⟨.patternFailure e, none, context⟩
  | .ok none => some ⟨.noMatchingRule, none, context⟩
  | .ok (some (_, rule)) => carryOut plan w rule current monitor context

/-! ### Events -/

/-- The events about a window before it is processed. -/
def windowEvents (w : Window) (number total : Nat) : List Event :=
  let option (n : Option Word32) : String :=
    match n with
    | some n => s!"Some({n.val})"
    | none => "None"
  [{ level := .info, target := .apply
     message := s!"[{number}/{total}] processing window {w.describe}" },
    { level := .debug, target := .apply, message := "window attributes"
      fields := [("class", w.className), ("program", Text.quoted (w.programPath.getD "")),
        ("taskbar_app_id", Text.quoted (w.taskbarAppId.getD "")),
        ("taskbar_index", option w.taskbarIndex),
        ("taskbar_sub_index", option w.taskbarSubIndex),
        ("tool_window", if w.isToolWindow then "true" else "false")] }]

/-- The events about the rule chosen for a window. -/
def ruleEvents (w : Window) : Except PatternFailure (Option (Nat × Rule)) → List Event
  | .ok (some (index, rule)) =>
    [{ level := .debug, target := .selection, message := "rule matches"
       fields := [("rule", rule.name), ("window", handleText w.handle)] },
      { level := .debug, target := .apply, message := "selected rule"
        fields := [("rule", rule.name), ("index", toString index)] }]
  | _ => []

/-- The events about an outcome. -/
def outcomeEvents (current : Option Rect) : Verdict → List Event
  | .placed rule monitor target =>
    [{ level := .debug, target := .apply, message := "target rect"
       fields := [("from", current.bind Rect.describe?), ("to", target.rect.describe?)] },
      { level := .info, target := .apply
        message := target.rect.describe?.map fun place =>
          s!"placed by rule '{rule}' on '{monitor}' at {place} (" ++ target.state.name ++ ")" }]
  | .noMatchingRule => [{ level := .info, target := .apply, message := "no matching rule" }]
  | .patternFailure e => [{ level := .warn, target := .apply, message := e.message }]
  | .skipped rule reason =>
    [{ level := .warn, target := .apply
       message := s!"rule '{rule}' matched but window skipped: " ++ reason.message }]

/-! ### All windows -/

/-- Tells the host a move, unless the run is dry. -/
def settle {σ : Type} (placer : Placer σ) (dryRun : Bool) (placement : Option Placement)
    (host : σ) : σ :=
  match placement with
  | some p => if dryRun then host else placer.place p host
  | none => host

/-- Goes through windows, the first of which has the given number. -/
def processAll {σ : Type} (placer : Placer σ) (dryRun : Bool) (plan : Plan) (total : Nat) :
    Nat → List Window → Progress → σ → Checked (List WindowEntry) × σ × List Event
  | _, [], _, host => (some [], host, [])
  | number, w :: rest, progress, host =>
    -- The host is asked before anything is decided: what it says may depend on earlier moves.
    let current := placer.currentRect host w
    let monitor := placer.currentMonitor host w plan.monitors
    let (choice, cache) := chooseRule w plan.rules plan.taskbarAvailable progress.cache
    let opening := windowEvents w number total ++ ruleEvents w choice
    match judge plan w choice current monitor progress.context with
    | none => (none, host, opening)
    | some judged =>
      -- What the scripts said belongs between the choice of the rule and the outcome.
      let (said, context) := judged.context.drain
      let events := opening ++ said.map scriptEvent ++ outcomeEvents current judged.outcome
      match processAll placer dryRun plan total (number + 1) rest ⟨context, cache⟩
          (settle placer dryRun judged.placement host) with
      | (reports, host, later) =>
        (reports.map (WindowEntry.of w judged.outcome :: ·), host, events ++ later)

/-- Runs the init scripts, the first of which has the given number. -/
def runInits : Nat → List String → Script.Context →
    Except Script.ScriptFailure Script.Context × List Event
  | _, [], context => (.ok context, [])
  | index, source :: rest, context =>
    match context.runInit index source with
    | (.error e, context) =>
      (.error e, context.drain.1.map scriptEvent ++
        [{ level := .error, target := .apply, message := e.message }])
    | (.ok (), context) =>
      let (said, context) := context.drain
      match runInits (index + 1) rest context with
      | (result, later) =>
        (result, said.map scriptEvent ++
          { level := .debug, target := .script, message := "init script executed"
            fields := [("script", toString (index + 1))] } :: later)

/-- Applies a blueprint to windows. Only monitors that do not fit, windows that scripts cannot see
and a failing init script end the run; otherwise every window has an entry in the report. -/
def apply {σ : Type} (placer : Placer σ) (b : Blueprint) (monitors : List Monitor)
    (windows : List Window) (options : RunOptions) (host : σ) :
    Checked (Except RunError Report) × σ × List Event :=
  match (MonitorCheck.of? b.monitorMatch monitors).map MonitorCheck.mapping with
  | none => (none, host, [])
  | some (.error issues) =>
    (some (.error (.monitorMatch issues)), host, issues.map fun i =>
      { level := .error, target := .apply, message := i.message })
  | some (.ok mapping) =>
    -- Nothing has been moved when the windows or an init script end the run.
    match Script.Session.new windows with
    | .error e => (some (.error (.programWindows e)), host, [])
    | .ok context =>
      match runInits 0 b.engineInitScripts context with
      | (.error e, events) => (some (.error (.initScript e)), host, events)
      | (.ok context, events) =>
        -- Rules that cannot match here are told about once and for all windows.
        let ignored := if options.taskbarAvailable then [] else Rule.taskbarDependent b.rules
        let plan : Plan :=
          ⟨b.rules, monitors, mapping, options.taskbarAvailable, options.fuzzyThreshold⟩
        let ordered := Window.inProcessingOrder windows
        match processAll placer options.dryRun plan ordered.length 1 ordered ⟨context, .empty⟩
            host with
        | (reports, host, later) =>
          (reports.map fun reports => .ok ⟨b.name, options.dryRun, ignored, reports⟩, host,
            events ++ ignored.map (fun name =>
              { level := .warn, target := .apply
                message := "taskbar info unavailable, rule ignored",
                fields := [("rule", name)] }) ++
              later)

end DeskPlan
