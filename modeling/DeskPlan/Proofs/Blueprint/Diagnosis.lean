import DeskPlan.Blueprint.Diagnosis
import DeskPlan.Proofs.Layout.Target
import DeskPlan.Proofs.Monitor.Comparison
import Mathlib.Tactic.ByContra

/-!
# `DeskPlan.Proofs.Blueprint.Diagnosis`: what it means that no problem is found

`Blueprint.problems?` is a list of findings for people to read. That it is empty is a statement
about the blueprint, which is spelled out here without findings:

* `Blueprint.Sound`: a monitor is named, the init scripts compile, and every rule is sound
  (`Rule.Sound`): its target is a declared name, and its patterns and formulas compile. This is
  what an empty diagnosis without a desktop means (`problems?_none_eq_nil_iff`);
* with a desktop at hand, it also means that no enabled rule needs what the desktop lacks, and
  that the monitors can be measured and fit (`problems?_some_eq_nil_iff`).

Neither depends on the threshold, which only chooses the suggestions of a finding. What is found
about the target of a rule is spelled out with its suggestions
(`undeclaredTarget_mem_problems_iff`).
-/

set_option autoImplicit false

namespace DeskPlan

open Script (Compiles)

/-- A result has no error exactly when it is a value. -/
theorem errorOf?_eq_none_iff {ε α : Type} {x : Except ε α} :
    errorOf? x = none ↔ ∃ a, x = .ok a := by
  cases x <;> simp [errorOf?]

/-- What holds of all numbered elements, whatever the number, holds of all elements. -/
theorem forall_mem_zipIdx_iff {α : Type} (items : List α) (P : α → Prop) :
    (∀ e ∈ items.zipIdx, P e.1) ↔ ∀ a ∈ items, P a := by
  conv_rhs => rw [← List.zipIdx_map_fst 0 items]
  exact List.forall_mem_map.symm

/-! ### Rules -/

/-- A rule without defects:

- `target`: the monitor it sends windows to is a declared one;
- `patterns`: its patterns can be read;
- `formulas`: its formulas compile. -/
structure Rule.Sound (r : Rule) (declared : List String) : Prop where
  target : ∀ name, r.targetMonitor = some name → name ∈ declared
  patterns : ∀ p ∈ r.filters.patterns, ∃ regex, Pattern.compile p.2 = .ok regex
  formulas : r.targetBox.Compiles

namespace Rule

/-- No target is reported exactly when the target is declared. -/
theorem targetProblem_eq_nil_iff {r : Rule} {declared : List String} {threshold : Nat} :
    r.targetProblem declared threshold = [] ↔
      ∀ name, r.targetMonitor = some name → name ∈ declared := by
  unfold targetProblem
  cases r.targetMonitor <;> simp

/-- Without a desktop a rule is reported for its target exactly when the target is not declared,
with the declared names that are close to it. -/
theorem undeclaredTarget_mem_problems_iff {r : Rule} {declared : List String} {threshold : Nat}
    {target : String} {names : List String} :
    .undeclaredTarget target names ∈ r.problems declared none threshold ↔
      r.targetMonitor = some target ∧ target ∉ declared ∧
        names = Text.suggestions target declared threshold := by
  have hpatterns : .undeclaredTarget target names ∉ r.patternProblems := by
    simp [patternProblems]
  have hformulas : .undeclaredTarget target names ∉ r.formulaProblems := by
    simp [formulaProblems]
  simp only [problems, taskbarProblem, List.append_nil, List.mem_append, hpatterns, hformulas,
    or_false]
  unfold targetProblem
  cases r.targetMonitor with
  | none => simp
  | some target' =>
    by_cases hdeclared : target' ∈ declared
    · simp only [List.contains_iff_mem, hdeclared, if_true, List.not_mem_nil, false_iff]
      rintro ⟨htarget, hnot, -⟩
      cases htarget
      exact hnot hdeclared
    · simp only [List.contains_iff_mem, hdeclared, if_false, List.mem_singleton,
        RuleProblem.undeclaredTarget.injEq, Option.some.injEq]
      constructor
      · rintro ⟨rfl, rfl⟩
        exact ⟨rfl, hdeclared, rfl⟩
      · rintro ⟨rfl, -, rfl⟩
        exact ⟨rfl, rfl⟩

/-- No pattern is reported exactly when all can be read. -/
theorem patternProblems_eq_nil_iff {r : Rule} :
    r.patternProblems = [] ↔
      ∀ p ∈ r.filters.patterns, ∃ regex, Pattern.compile p.2 = .ok regex := by
  simp only [patternProblems, List.filterMap_eq_nil_iff, Option.map_eq_none_iff,
    errorOf?_eq_none_iff]

/-- No formula is reported exactly when all compile. -/
theorem formulaProblems_eq_nil_iff {r : Rule} :
    r.formulaProblems = [] ↔ r.targetBox.Compiles := by
  simp only [formulaProblems, List.filterMap_eq_nil_iff, Option.map_eq_none_iff,
    errorOf?_eq_none_iff]
  rfl

/-- A rule is reported for its filters exactly when it is enabled and needs taskbar attributes
that the desktop does not have. -/
theorem taskbarProblem_eq_nil_iff {r : Rule} {d : Desktop} :
    r.taskbarProblem (some d) = [] ↔
      (d.taskbarAvailable = true ∨ (r.enabled && r.filters.needsTaskbar) = false) := by
  simp only [taskbarProblem]
  cases d.taskbarAvailable <;> cases (r.enabled && r.filters.needsTaskbar) <;> simp

/-- Without a desktop no rule is reported exactly when the rule is sound. -/
theorem problems_none_eq_nil_iff {r : Rule} {declared : List String} {threshold : Nat} :
    r.problems declared none threshold = [] ↔ r.Sound declared := by
  simp only [problems, taskbarProblem, List.append_nil, List.append_eq_nil_iff,
    targetProblem_eq_nil_iff, patternProblems_eq_nil_iff, formulaProblems_eq_nil_iff]
  constructor
  · rintro ⟨⟨htarget, hpatterns⟩, hformulas⟩
    exact ⟨htarget, hpatterns, hformulas⟩
  · intro h
    exact ⟨⟨h.target, h.patterns⟩, h.formulas⟩

/-- A desktop adds its own findings to those that need none. -/
theorem problems_some (r : Rule) (declared : List String) (d : Desktop) (threshold : Nat) :
    r.problems declared (some d) threshold =
      r.problems declared none threshold ++ r.taskbarProblem (some d) := by
  simp [problems, taskbarProblem]

end Rule

/-! ### Blueprints -/

/-- A blueprint without defects:

- `named`: a monitor is named;
- `inits`: the init scripts compile;
- `rules`: the rules, enabled or not, have no defects. -/
structure Blueprint.Sound (b : Blueprint) : Prop where
  named : b.monitorMatch.names ≠ []
  inits : ∀ source ∈ b.engineInitScripts, Compiles source
  rules : ∀ r ∈ b.rules, r.Sound b.monitorMatch.names

namespace Blueprint

/-- No init script is reported exactly when all compile. -/
theorem initProblems_eq_nil_iff {b : Blueprint} :
    b.initProblems = [] ↔ ∀ source ∈ b.engineInitScripts, Compiles source := by
  simp only [initProblems, List.filterMap_eq_nil_iff, Option.map_eq_none_iff,
    errorOf?_eq_none_iff]
  exact forall_mem_zipIdx_iff b.engineInitScripts Compiles

/-- No rule is reported exactly when none has a problem. -/
theorem ruleProblems_eq_nil_iff {b : Blueprint} {desktop : Option Desktop} {threshold : Nat} :
    b.ruleProblems desktop threshold = [] ↔
      ∀ r ∈ b.rules, r.problems b.monitorMatch.names desktop threshold = [] := by
  simp only [ruleProblems, List.flatMap_eq_nil_iff, List.map_eq_nil_iff]
  exact forall_mem_zipIdx_iff b.rules
    fun r => r.problems b.monitorMatch.names desktop threshold = []

/-- No enabled rule needs taskbar attributes exactly when none is listed as doing so. -/
theorem taskbarDependent_eq_nil_iff {rules : List Rule} :
    Rule.taskbarDependent rules = [] ↔
      ∀ r ∈ rules, (r.enabled && r.filters.needsTaskbar) = false := by
  simp [Rule.taskbarDependent]

/-- What is found without measuring anything: about the declaration of monitors, the init scripts
and the rules. -/
def ownProblems (b : Blueprint) (desktop : Option Desktop) (threshold : Nat) : List Problem :=
  (if b.monitorMatch.isEmpty then [.noMonitors] else []) ++ b.initProblems ++
    b.ruleProblems desktop threshold

/-- Without a desktop there are always findings, and nothing is measured for them. -/
theorem problems?_none (b : Blueprint) (threshold : Nat) :
    b.problems? none threshold = some (b.ownProblems none threshold) :=
  congrArg some (List.append_nil _)

/-- With a desktop the findings about its monitors are added. -/
theorem problems?_some_eq_some_iff {b : Blueprint} {d : Desktop} {threshold : Nat}
    {found : List Problem} :
    b.problems? (some d) threshold = some found ↔
      ∃ check, MonitorCheck.of? b.monitorMatch d.monitors = some check ∧
        found = b.ownProblems (some d) threshold ++
          (check.issues.filter (· ≠ .empty)).map .monitors := by
  unfold problems? monitorProblems?
  rw [Option.map_map, Option.map_eq_some_iff]
  exact exists_congr fun check => and_congr_right fun _ => eq_comm

/-- Without a desktop the problems of the blueprint with a rule are the problems of the rule. -/
theorem rule_mem_ownProblems_iff {b : Blueprint} {threshold index : Nat} {r : Rule}
    (h : b.rules[index]? = some r) {problem : RuleProblem} :
    .rule ⟨index, r.name⟩ problem ∈ b.ownProblems none threshold ↔
      problem ∈ r.problems b.monitorMatch.names none threshold := by
  -- Nothing else that is reported without a desktop is a problem of a rule.
  have hnamed : .rule ⟨index, r.name⟩ problem ∉
      if b.monitorMatch.isEmpty then [Problem.noMonitors] else [] := by
    split <;> simp
  have hinits : .rule ⟨index, r.name⟩ problem ∉ b.initProblems := by
    simp [initProblems]
  simp only [ownProblems, List.mem_append, hnamed, hinits, false_or, ruleProblems,
    List.mem_flatMap, List.mem_map]
  constructor
  · rintro ⟨⟨r', i⟩, hr', problem', hproblem, hsame⟩
    simp only [Problem.rule.injEq, RulePlace.mk.injEq] at hsame
    obtain ⟨⟨rfl, -⟩, rfl⟩ := hsame
    rw [List.mem_zipIdx_iff_getElem?, h] at hr'
    cases hr'
    exact hproblem
  · intro hproblem
    exact ⟨(r, index), List.mem_zipIdx_iff_getElem?.2 h, problem, hproblem, rfl⟩

/-- Nothing is found exactly when the blueprint is sound and, with a desktop, no enabled rule needs
what it lacks. -/
theorem ownProblems_eq_nil_iff {b : Blueprint} {desktop : Option Desktop} {threshold : Nat} :
    b.ownProblems desktop threshold = [] ↔
      b.Sound ∧ ∀ d, desktop = some d →
        d.taskbarAvailable = true ∨ Rule.taskbarDependent b.rules = [] := by
  have hnamed : (if b.monitorMatch.isEmpty then [Problem.noMonitors] else []) = [] ↔
      b.monitorMatch.names ≠ [] := by
    rw [Ne, ← b.monitorMatch.isEmpty_iff]
    cases b.monitorMatch.isEmpty <;> simp
  have hrules : b.ruleProblems desktop threshold = [] ↔
      (∀ r ∈ b.rules, r.Sound b.monitorMatch.names) ∧ ∀ d, desktop = some d →
        d.taskbarAvailable = true ∨ Rule.taskbarDependent b.rules = [] := by
    rw [ruleProblems_eq_nil_iff]
    cases desktop with
    | none => simp [Rule.problems_none_eq_nil_iff]
    | some d =>
      simp only [Rule.problems_some, List.append_eq_nil_iff, Rule.problems_none_eq_nil_iff,
        Rule.taskbarProblem_eq_nil_iff, taskbarDependent_eq_nil_iff, Option.some.injEq,
        forall_eq']
      cases d.taskbarAvailable <;> simp [forall_and]
  simp only [ownProblems, List.append_eq_nil_iff, hnamed, initProblems_eq_nil_iff, hrules]
  constructor
  · rintro ⟨⟨hnamed, hinits⟩, hrules, htaskbar⟩
    exact ⟨⟨hnamed, hinits, hrules⟩, htaskbar⟩
  · rintro ⟨hsound, htaskbar⟩
    exact ⟨⟨hsound.named, hsound.inits⟩, hsound.rules, htaskbar⟩

/-- Without a desktop nothing is reported exactly when the blueprint is sound. -/
theorem problems?_none_eq_nil_iff {b : Blueprint} (threshold : Nat) :
    b.problems? none threshold = some [] ↔ b.Sound := by
  rw [problems?_none, Option.some.injEq, ownProblems_eq_nil_iff]
  simp

/-- Only a blueprint that names no monitor has the issue that none is named. -/
theorem names_eq_nil_of_empty_mem {fingerprints : NameMap Fingerprint} {monitors : List Monitor}
    (h : MonitorIssue.empty ∈ (MonitorCheck.of fingerprints monitors).issues) :
    fingerprints.names = [] := by
  rw [MonitorCheck.issues_of] at h
  rcases List.mem_append.1 h with h | h
  · rcases List.mem_append.1 h with h | h
    · rw [← fingerprints.isEmpty_iff]
      by_contra hfull
      rw [if_neg hfull] at h
      cases h
    · obtain ⟨e, -, he⟩ := List.mem_filterMap.1 h
      unfold MonitorCheck.nameIssue at he
      split at he <;> cases he
  · obtain ⟨handle, -, he⟩ := List.mem_filterMap.1 h
    dsimp only at he
    split at he <;> cases he

/-- No monitor is reported exactly when there is no issue, except that none is named. -/
theorem filter_issues_eq_nil_iff {fingerprints : NameMap Fingerprint} {monitors : List Monitor}
    (hnamed : fingerprints.names ≠ []) :
    (MonitorCheck.of fingerprints monitors).issues.filter (· ≠ .empty) = [] ↔
      (MonitorCheck.of fingerprints monitors).issues = [] := by
  rw [List.filter_eq_nil_iff]
  constructor
  · intro h
    by_contra hissues
    obtain ⟨issue, hmem⟩ := List.exists_mem_of_ne_nil _ hissues
    have hempty : issue = .empty := by simpa using h issue hmem
    rw [hempty] at hmem
    exact hnamed (names_eq_nil_of_empty_mem hmem)
  · intro h
    rw [h]
    simp

/-- With a desktop nothing is reported exactly when the blueprint is sound, no enabled rule
needs what the desktop lacks, and the monitors of the desktop are compared and fit. -/
theorem problems?_some_eq_nil_iff {b : Blueprint} {d : Desktop} {threshold : Nat} :
    b.problems? (some d) threshold = some [] ↔
      b.Sound ∧ (d.taskbarAvailable = true ∨ Rule.taskbarDependent b.rules = []) ∧
        ∃ check, MonitorCheck.of? b.monitorMatch d.monitors = some check ∧ check.issues = [] := by
  have hown : b.ownProblems (some d) threshold = [] ↔
      b.Sound ∧ (d.taskbarAvailable = true ∨ Rule.taskbarDependent b.rules = []) := by
    simp [ownProblems_eq_nil_iff]
  simp only [problems?_some_eq_some_iff, MonitorCheck.of?_eq_some_iff]
  constructor
  · rintro ⟨check, ⟨hcompares, rfl⟩, hnil⟩
    obtain ⟨hnil, hmonitors⟩ := List.append_eq_nil_iff.1 hnil.symm
    obtain ⟨hsound, htaskbar⟩ := hown.1 hnil
    rw [List.map_eq_nil_iff, filter_issues_eq_nil_iff hsound.named] at hmonitors
    exact ⟨hsound, htaskbar, _, ⟨hcompares, rfl⟩, hmonitors⟩
  · rintro ⟨hsound, htaskbar, check, ⟨hcompares, rfl⟩, hissues⟩
    refine ⟨_, ⟨hcompares, rfl⟩, ?_⟩
    rw [hown.2 ⟨hsound, htaskbar⟩, (filter_issues_eq_nil_iff hsound.named).2 hissues]
    rfl

end Blueprint

end DeskPlan
