import DeskPlan.Blueprint.Selection

/-!
# `DeskPlan.Proofs.Blueprint.Selection`: what the walk over the rules can answer

The walk over the rules reads patterns through a cache. The cache keeps what was read before, so
it can spare a reading, but it never makes a pattern invalid: a lookup fails only if the pattern
itself does not compile (`PatternCache.lookup_eq_error`).

* `chooseRule_eq_error`: a walk that fails blames an eligible rule, one of its patterns, and the
  error that this pattern has on its own (`PatternFailure.Blames`);
* `chooseRule_eq_some`: a rule that is chosen is an eligible one of the list.

Both hold whatever the cache has seen before. They are two sides of `chooseFrom_answerable`,
which is the induction over the rules.
-/

set_option autoImplicit false

namespace DeskPlan

/-- A lookup fails only for a pattern that does not compile, and with the error of compiling. -/
theorem PatternCache.lookup_eq_error {cache : PatternCache} {pattern : String}
    {cause : Pattern.PatternError} (h : cache.lookup pattern = .error cause) :
    Pattern.compile pattern = .error cause := by
  unfold lookup at h
  split at h
  · cases h
  · split at h
    · cases h
    · rename_i e he
      cases h
      exact he

/-- The failure blames the rule: it names the rule, one of its patterns with the attribute that
the pattern is for, and the error of that pattern. -/
structure PatternFailure.Blames (e : PatternFailure) (r : Rule) : Prop where
  rule : e.rule = r.name
  pattern : (e.subject, e.pattern) ∈ r.filters.patterns
  cause : Pattern.compile e.pattern = .error e.cause

/-! ### One rule -/

/-- Trying patterns fails only at one of them that does not compile. -/
theorem Filters.tryPatterns_eq_error {w : Window} {rule : String} {e : PatternFailure} :
    ∀ (patterns : List (Attribute × String)) (cache : PatternCache),
      (tryPatterns w rule patterns cache).1 = .error e →
      e.rule = rule ∧ (e.subject, e.pattern) ∈ patterns ∧
        Pattern.compile e.pattern = .error e.cause := by
  intro patterns
  induction patterns with
  | nil =>
    intro cache h
    cases h
  | cons head rest ih =>
    intro cache h
    obtain ⟨a, p⟩ := head
    rw [tryPatterns] at h
    cases hlookup : cache.lookup p with
    | error cause =>
      rw [hlookup] at h
      cases h
      exact ⟨rfl, List.mem_cons_self, PatternCache.lookup_eq_error hlookup⟩
    | ok found =>
      simp only [hlookup] at h
      split at h
      · obtain ⟨hrule, hmem, hcause⟩ := ih _ h
        exact ⟨hrule, List.mem_cons_of_mem _ hmem, hcause⟩
      · cases h

/-- Judging the filters of a rule fails only through one of its patterns. -/
theorem Rule.passes_eq_error {w : Window} {r : Rule} {cache : PatternCache} {e : PatternFailure}
    (h : (r.filters.passes w r.name cache).1 = .error e) : e.Blames r := by
  rw [Filters.passes] at h
  have htried : (Filters.tryPatterns w r.name r.filters.patterns cache).1 = .error e := by
    split at h
    · cases h
    · exact h
  obtain ⟨hrule, hmem, hcause⟩ := Filters.tryPatterns_eq_error _ _ htried
  exact ⟨hrule, hmem, hcause⟩

/-! ### The walk -/

/-- What a walk over rules can answer: a failure that blames an eligible rule among them, no
rule, or an eligible rule among them. -/
def Rule.Answerable (rules : List Rule) (taskbarAvailable : Bool) :
    Except PatternFailure (Option (Nat × Rule)) → Prop
  | .error e => ∃ r ∈ rules, r.eligible taskbarAvailable = true ∧ e.Blames r
  | .ok none => True
  | .ok (some (_, r)) => r ∈ rules ∧ r.eligible taskbarAvailable = true

/-- What can be answered over some rules can be answered over more. -/
theorem Rule.Answerable.cons {rules : List Rule} {taskbarAvailable : Bool}
    {answer : Except PatternFailure (Option (Nat × Rule))}
    (h : Answerable rules taskbarAvailable answer) (r : Rule) :
    Answerable (r :: rules) taskbarAvailable answer := by
  match answer, h with
  | .error e, ⟨r', hmem, hblames⟩ => exact ⟨r', List.mem_cons_of_mem r hmem, hblames⟩
  | .ok none, _ => exact True.intro
  | .ok (some (_, r')), ⟨hmem, heligible⟩ => exact ⟨List.mem_cons_of_mem r hmem, heligible⟩

/-- A walk fails through an eligible rule or chooses one, whatever the cache holds. -/
theorem chooseFrom_answerable (w : Window) (taskbarAvailable : Bool) :
    ∀ (rules : List Rule) (index : Nat) (cache : PatternCache),
      Rule.Answerable rules taskbarAvailable
        (chooseFrom w taskbarAvailable index rules cache).1 := by
  intro rules
  induction rules with
  | nil =>
    intro index cache
    exact True.intro
  | cons r rest ih =>
    intro index cache
    rw [chooseFrom]
    split
    · rename_i heligible
      rcases hpasses : r.filters.passes w r.name cache with ⟨answer, cache'⟩
      match answer with
      | .error e =>
        have hfails : (r.filters.passes w r.name cache).1 = .error e := by rw [hpasses]
        exact ⟨r, List.mem_cons_self, heligible, Rule.passes_eq_error hfails⟩
      | .ok true => exact ⟨List.mem_cons_self, heligible⟩
      | .ok false => exact (ih (index + 1) cache').cons r
    · exact (ih (index + 1) cache).cons r

/-- If the walk over the rules fails, it blames an eligible rule. -/
theorem chooseRule_eq_error {w : Window} {rules : List Rule} {taskbarAvailable : Bool}
    {cache cache' : PatternCache} {e : PatternFailure}
    (h : chooseRule w rules taskbarAvailable cache = (.error e, cache')) :
    ∃ r ∈ rules, r.eligible taskbarAvailable = true ∧ e.Blames r := by
  have hanswer := chooseFrom_answerable w taskbarAvailable rules 0 cache
  rw [chooseRule] at h
  rw [h] at hanswer
  exact hanswer

/-- If the walk over the rules chooses a rule, the rule is an eligible one of them. -/
theorem chooseRule_eq_some {w : Window} {rules : List Rule} {taskbarAvailable : Bool}
    {cache cache' : PatternCache} {index : Nat} {r : Rule}
    (h : chooseRule w rules taskbarAvailable cache = (.ok (some (index, r)), cache')) :
    r ∈ rules ∧ r.eligible taskbarAvailable = true := by
  have hanswer := chooseFrom_answerable w taskbarAvailable rules 0 cache
  rw [chooseRule] at h
  rw [h] at hanswer
  exact hanswer

end DeskPlan
