import DeskPlan.Blueprint.Basic
import DeskPlan.Desktop.Snapshot
import DeskPlan.Monitor.Check
import DeskPlan.Pattern.Syntax
import DeskPlan.Script.Parser
import DeskPlan.Text.Distance

/-!
# `DeskPlan.Blueprint.Diagnosis`: what is wrong with a blueprint

`Blueprint.problems?` lists the problems of a blueprint without applying it: scripts and formulas
that do not compile, invalid patterns, targets that are not declared. With a desktop at hand it
also lists the rules that cannot match there and the monitors that do not fit, which are measured
for it.
-/

set_option autoImplicit false

namespace DeskPlan

/-- A rule's position with its name. -/
structure RulePlace where
  index : Nat
  name : String
deriving DecidableEq, Repr

/-- The place in words. -/
def RulePlace.describe (p : RulePlace) : String :=
  if p.name.isEmpty then s!"rules[{p.index}]" else s!"rules[{p.index}] '{p.name}'"

/-- A problem of one rule. -/
inductive RuleProblem where
  | undeclaredTarget (target : String) (suggestions : List String)
  | invalidPattern (subject : Attribute) (pattern : String) (cause : Pattern.PatternError)
  | invalidFormula (field : BoxField) (cause : Script.CompileError)
  | taskbarUnavailable

/-- The problem of a rule in words. -/
def RuleProblem.message (place : RulePlace) : RuleProblem → String
  | undeclaredTarget target suggestions =>
    s!"{place.describe}: targetMonitor '{target}' is not declared in monitorMatch" ++
      Text.hint suggestions
  | invalidPattern subject pattern cause =>
    s!"{place.describe}: invalid {subject.name} pattern '{pattern}': " ++ cause.message pattern
  | invalidFormula field cause =>
    s!"{place.describe}: {field.name} expression does not compile: " ++ cause.message
  | taskbarUnavailable =>
    s!"{place.describe}: uses taskbar filters, which never match on this host"

/-- A problem of a blueprint. -/
inductive Problem where
  | noMonitors
  | invalidInitScript (index : Nat) (cause : Script.CompileError)
  | rule (place : RulePlace) (problem : RuleProblem)
  | monitors (issue : MonitorIssue)

/-- The problem in words. -/
def Problem.message : Problem → String
  | noMonitors => "monitorMatch: must declare at least one monitor"
  | invalidInitScript index cause =>
    s!"engineInitScripts[{index}] does not compile: " ++ cause.message
  | rule place problem => problem.message place
  | monitors issue => "monitorMatch: " ++ issue.message

/-- The error of a result. -/
def errorOf? {ε α : Type} : Except ε α → Option ε
  | .error e => some e
  | .ok _ => none

namespace Rule

/-- The problem with a rule's target monitor. -/
def targetProblem (r : Rule) (declared : List String) (threshold : Nat) : List RuleProblem :=
  match r.targetMonitor with
  | some target =>
    if declared.contains target then []
    else [.undeclaredTarget target (Text.suggestions target declared threshold)]
  | none => []

/-- The problems with a rule's patterns. -/
def patternProblems (r : Rule) : List RuleProblem :=
  r.filters.patterns.filterMap fun p =>
    (errorOf? (Pattern.compile p.2)).map fun e => .invalidPattern p.1 p.2 e

/-- The problems with a rule's formulas. -/
def formulaProblems (r : Rule) : List RuleProblem :=
  r.targetBox.formulas.filterMap fun f =>
    (errorOf? (Script.compile f.2)).map fun e => .invalidFormula f.1 e

/-- The problem of a rule that is tried although the desktop lacks what its filters need. -/
def taskbarProblem (r : Rule) (desktop : Option Desktop) : List RuleProblem :=
  match desktop with
  | some d =>
    if r.enabled && r.filters.needsTaskbar && !d.taskbarAvailable then [.taskbarUnavailable] else []
  | none => []

/-- The problems of a rule. -/
def problems (r : Rule) (declared : List String) (desktop : Option Desktop) (threshold : Nat) :
    List RuleProblem :=
  r.targetProblem declared threshold ++ r.patternProblems ++ r.formulaProblems ++
    r.taskbarProblem desktop

end Rule

namespace Blueprint

/-- The problems with the init scripts. -/
def initProblems (b : Blueprint) : List Problem :=
  b.engineInitScripts.zipIdx.filterMap fun s =>
    (errorOf? (Script.compile s.1)).map fun e => .invalidInitScript s.2 e

/-- The problems with the rules. -/
def ruleProblems (b : Blueprint) (desktop : Option Desktop) (threshold : Nat) : List Problem :=
  b.rules.zipIdx.flatMap fun r =>
    (r.1.problems b.monitorMatch.names desktop threshold).map (.rule ⟨r.2, r.1.name⟩)

/-- The problems with the monitors of a desktop. That none is declared is no matter of the
desktop. -/
def monitorProblems? (b : Blueprint) (desktop : Option Desktop) : Checked (List Problem) :=
  match desktop with
  | some d => (MonitorCheck.of? b.monitorMatch d.monitors).map fun m =>
    (m.issues.filter (· ≠ .empty)).map .monitors
  | none => some []

/-- The problems of a blueprint. -/
def problems? (b : Blueprint) (desktop : Option Desktop) (threshold : Nat) :
    Checked (List Problem) :=
  (b.monitorProblems? desktop).map fun ofMonitors =>
    (if b.monitorMatch.isEmpty then [.noMonitors] else []) ++ b.initProblems ++
      b.ruleProblems desktop threshold ++ ofMonitors

end Blueprint

end DeskPlan
