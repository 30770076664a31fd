import DeskPlan.Proofs.Blueprint.FirstMatch
import DeskPlan.Proofs.NameMap
import Mathlib.Data.Set.Card

/-!
# `DeskPlan.Proofs.Blueprint.CachedPatterns`: what the cache of patterns holds

A question about rules consults the patterns of the rules that are tried, and of each rule those
up to the first that objects. `Query.Reaches` says which patterns these are. It speaks of verdicts
and objections, which compile each pattern afresh, so it does not depend on the cache that is
asked.

The cache keeps the valid ones of these patterns and nothing else (`PatternCache.KeepsValidOf`).
This is carried through one look-up (`KeepsValidOf.lookup`), the patterns of a rule
(`Rule.tryPatterns_keeps`), the rules (`chooseFrom_keeps`) and all questions
(`KeepsValidOf.afterAll`). `cached_patterns_exact` draws the conclusions: entries are right, are
neither removed nor replaced, and are as many as the valid patterns reached, in whatever order the
questions are asked.
-/

set_option autoImplicit false

namespace DeskPlan

open DeskPlan.Pattern (compile)

/-! ### What a walk reaches -/

section
variable {α : Type}

/-- The element stands in the list behind elements that all let a walk pass. -/
def ReachedIn (passes : α → Prop) (xs : List α) (x : α) : Prop :=
  ∃ before after, xs = before ++ x :: after ∧ ∀ y ∈ before, passes y

theorem not_reachedIn_nil (passes : α → Prop) (x : α) : ¬ ReachedIn passes [] x := by
  rintro ⟨before, after, h, -⟩
  cases before <;> cases h

/-- A walk reaches the first element, and what it reaches behind it if the first one lets it
pass. -/
theorem reachedIn_cons_iff {passes : α → Prop} {x y : α} {ys : List α} :
    ReachedIn passes (y :: ys) x ↔ x = y ∨ passes y ∧ ReachedIn passes ys x := by
  constructor
  · rintro ⟨before, after, h, hbefore⟩
    cases before with
    | nil => exact .inl (List.cons.inj h).1.symm
    | cons z before =>
      obtain ⟨rfl, htail⟩ := List.cons.inj h
      obtain ⟨hfirst, hrest⟩ := List.forall_mem_cons.1 hbefore
      exact .inr ⟨hfirst, before, after, htail, hrest⟩
  · rintro (rfl | ⟨hfirst, before, after, rfl, hbefore⟩)
    · exact ⟨[], ys, rfl, fun _ h => absurd h List.not_mem_nil⟩
    · exact ⟨y :: before, after, rfl, List.forall_mem_cons.2 ⟨hfirst, hbefore⟩⟩

end

/-- The pattern is consulted in some trials of a rule: no trial before has an objection. -/
def Rule.ReachesAmong (r : Rule) (trials : List (Attribute × Option String × Option String))
    (pattern : String) : Prop :=
  ∃ a text, ReachedIn (fun trial => r.objection trial = none) trials (a, some pattern, text)

/-- The pattern is consulted when the rule is tried on a window. -/
def Rule.Reaches (r : Rule) (w : Window) (pattern : String) : Prop :=
  r.ReachesAmong (r.trials indexText w) pattern

/-- The pattern is consulted when rules are tried on a window: it is one that an eligible rule
reaches, and all eligible rules before say no. -/
def WalkReaches (rules : List Rule) (w : Window) (taskbarAvailable : Bool) (pattern : String) :
    Prop :=
  ∃ r,
    ReachedIn (fun s => s.Eligible taskbarAvailable → s.verdict indexText w = .ok false) rules r ∧
    r.Eligible taskbarAvailable ∧ r.Reaches w pattern

/-- The pattern is consulted by a question. -/
def Query.Reaches : Query → String → Prop
  | .passes w filters rule, pattern =>
    Rule.Reaches { filters := filters, name := rule } w pattern
  | .choose w rules taskbarAvailable, pattern => WalkReaches rules w taskbarAvailable pattern

/-- The patterns that some questions consult. -/
def reachedBy (queries : List Query) : Set String := {pattern | ∃ q ∈ queries, q.Reaches pattern}

section
variable {r : Rule} {pattern : String}

theorem Rule.not_reachesAmong_nil : ¬ r.ReachesAmong [] pattern := by
  rintro ⟨a, text, h⟩
  exact not_reachedIn_nil _ _ h

/-- A trial without a pattern consults nothing. -/
theorem Rule.reachesAmong_cons_none {a : Attribute} {text : Option String}
    {trials : List (Attribute × Option String × Option String)} :
    r.ReachesAmong ((a, none, text) :: trials) pattern ↔ r.ReachesAmong trials pattern := by
  simp [ReachesAmong, reachedIn_cons_iff, objection]

/-- A trial consults its pattern. The trials behind it follow if it has no objection. -/
theorem Rule.reachesAmong_cons_some {a : Attribute} {p : String} {text : Option String}
    {trials : List (Attribute × Option String × Option String)} :
    r.ReachesAmong ((a, some p, text) :: trials) pattern ↔
      pattern = p ∨ r.objection (a, some p, text) = none ∧ r.ReachesAmong trials pattern := by
  constructor
  · rintro ⟨a', text', h⟩
    rcases reachedIn_cons_iff.1 h with heq | ⟨hnone, hrest⟩
    · cases heq
      exact .inl rfl
    · exact .inr ⟨hnone, a', text', hrest⟩
  · rintro (rfl | ⟨hnone, a', text', hrest⟩)
    · exact ⟨a, text, reachedIn_cons_iff.2 (.inl rfl)⟩
    · exact ⟨a', text', reachedIn_cons_iff.2 (.inr ⟨hnone, hrest⟩)⟩

end

section
variable {w : Window} {taskbarAvailable : Bool} {pattern : String}

theorem not_walkReaches_nil : ¬ WalkReaches [] w taskbarAvailable pattern := by
  rintro ⟨r, h, -⟩
  exact not_reachedIn_nil _ _ h

/-- A walk consults what its first rule reaches if this one is tried, and goes on behind it if it is
not tried or says no. -/
theorem walkReaches_cons_iff {r : Rule} {rules : List Rule} :
    WalkReaches (r :: rules) w taskbarAvailable pattern ↔
      (r.Eligible taskbarAvailable ∧ r.Reaches w pattern) ∨
      (r.Eligible taskbarAvailable → r.verdict indexText w = .ok false) ∧
        WalkReaches rules w taskbarAvailable pattern := by
  constructor
  · rintro ⟨s, h, heligible, hreaches⟩
    rcases reachedIn_cons_iff.1 h with rfl | ⟨hsilent, hrest⟩
    · exact .inl ⟨heligible, hreaches⟩
    · exact .inr ⟨hsilent, s, hrest, heligible, hreaches⟩
  · rintro (⟨heligible, hreaches⟩ | ⟨hsilent, s, hrest, heligible, hreaches⟩)
    · exact ⟨r, reachedIn_cons_iff.2 (.inl rfl), heligible, hreaches⟩
    · exact ⟨s, reachedIn_cons_iff.2 (.inr ⟨hsilent, hrest⟩), heligible, hreaches⟩

end

/-! ### What the cache keeps -/

namespace PatternCache

/-- The cache holds the valid ones of some patterns, each with its expression, and nothing else. -/
def KeepsValidOf (cache : PatternCache) (patterns : Set String) : Prop :=
  ∀ pattern regex, cache.compiled.get? pattern = some regex ↔
    compile pattern = .ok regex ∧ pattern ∈ patterns

theorem keepsValidOf_empty : empty.KeepsValidOf ∅ := by
  intro pattern regex
  exact iff_of_false nofun fun h => h.2

namespace KeepsValidOf

variable {cache : PatternCache} {patterns : Set String}

theorem faithful (h : cache.KeepsValidOf patterns) : cache.Faithful :=
  fun pattern regex hget => ((h pattern regex).1 hget).1

theorem congr {patterns' : Set String} (h : cache.KeepsValidOf patterns)
    (hmem : ∀ pattern, pattern ∈ patterns' ↔ pattern ∈ patterns) : cache.KeepsValidOf patterns' :=
  fun pattern regex => by rw [h pattern regex, hmem]

/-- A look-up adds the pattern if it is valid. An invalid pattern changes nothing, and none of the
patterns kept. -/
theorem lookup (h : cache.KeepsValidOf patterns) (pattern : String) :
    (∃ cause, compile pattern = .error cause ∧ cache.lookup pattern = .error cause ∧
      cache.KeepsValidOf (insert pattern patterns)) ∨
    ∃ regex cache', compile pattern = .ok regex ∧ cache.lookup pattern = .ok (regex, cache') ∧
      cache'.KeepsValidOf (insert pattern patterns) := by
  unfold PatternCache.lookup
  cases hget : cache.compiled.get? pattern with
  | some regex =>
    obtain ⟨hcompile, hmem⟩ := (h pattern regex).1 hget
    refine .inr ⟨regex, cache, hcompile, rfl, ?_⟩
    rw [Set.insert_eq_of_mem hmem]
    exact h
  | none =>
    cases hcompile : compile pattern with
    | error cause =>
      refine .inl ⟨cause, rfl, rfl, fun other regex => ?_⟩
      rw [h other regex, Set.mem_insert_iff]
      refine and_congr_right fun hother => (or_iff_right fun heq => ?_).symm
      subst heq
      cases hcompile.symm.trans hother
    | ok regex =>
      refine .inr ⟨regex, _, rfl, rfl, fun other found => ?_⟩
      rw [NameMap.get?_insert, Set.mem_insert_iff]
      by_cases hsame : other = pattern
      · subst hsame
        simp [hcompile]
      · rw [if_neg hsame, h other found, or_iff_right hsame]

end KeepsValidOf

end PatternCache

open PatternCache (KeepsValidOf)

/-! ### One rule -/

/-- There is no objection to a valid pattern exactly if it matches the attribute. -/
theorem Rule.objection_eq_none_iff (r : Rule) (a : Attribute) {pattern : String} {regex : Regex}
    (hcompile : compile pattern = .ok regex) (text : Option String) :
    r.objection (a, some pattern, text) = none ↔ text.any regex.isMatch = true := by
  cases text <;> simp [objection, hcompile]

/-- Trying the patterns of some attributes adds the valid ones up to the first objection. -/
theorem Rule.tryPatterns_keeps (r : Rule) (w : Window) (attributes : List Attribute) :
    ∀ {cache : PatternCache} {patterns : Set String}, cache.KeepsValidOf patterns →
      let trials := attributes.map fun a => (a, r.filters.pattern? a, w.attribute? a)
      let tried := Filters.tryPatterns w r.name
        (attributes.filterMap fun a => (r.filters.pattern? a).map fun p => (a, p)) cache
      tried.2.KeepsValidOf (patterns ∪ {pattern | r.ReachesAmong trials pattern}) := by
  induction attributes with
  | nil =>
    intro cache patterns h
    exact h.congr fun pattern => or_iff_left not_reachesAmong_nil
  | cons a rest ih =>
    intro cache patterns h
    cases hpattern : r.filters.pattern? a with
    | none =>
      simp only [List.map_cons, List.filterMap_cons, hpattern, Option.map_none,
        reachesAmong_cons_none]
      exact ih h
    | some p =>
      simp only [List.map_cons, List.filterMap_cons, hpattern, Option.map_some,
        Filters.tryPatterns, reachesAmong_cons_some]
      rcases h.lookup p with
        ⟨cause, hcompile, hlookup, hkeeps⟩ | ⟨regex, cache', hcompile, hlookup, hkeeps⟩
      · -- The walk ends at an invalid pattern, with the cache as it was.
        have hobjects : r.objection (a, some p, w.attribute? a) ≠ none := by
          simp [objection, hcompile]
        simp only [hlookup, hobjects, false_and, or_false]
        exact hkeeps.congr fun pattern => or_comm
      · simp only [hlookup, r.objection_eq_none_iff a hcompile]
        by_cases hmatch : (w.attribute? a).any regex.isMatch = true
        · simp only [hmatch, if_true, true_and]
          refine (ih hkeeps).congr fun pattern => ?_
          simp only [Set.mem_union, Set.mem_insert_iff, Set.mem_ofPred_eq, or_assoc,
            or_left_comm]
        · simp only [hmatch, Bool.false_eq_true, if_false, false_and, or_false]
          exact hkeeps.congr fun pattern => or_comm

/-- The filter for tool windows consults no pattern. -/
theorem Filters.passes_cache (f : Filters) (w : Window) (rule : String) (cache : PatternCache) :
    (f.passes w rule cache).2 = (tryPatterns w rule f.patterns cache).2 := by
  unfold passes
  split
  · rename_i htried
    rw [htried]
  · rfl

/-- Judging the filters of a rule adds the valid patterns that the rule consults. -/
theorem Rule.passes_keeps (r : Rule) (w : Window) {cache : PatternCache} {patterns : Set String}
    (h : cache.KeepsValidOf patterns) :
    (r.filters.passes w r.name cache).2.KeepsValidOf
      (patterns ∪ {pattern | r.Reaches w pattern}) := by
  rw [Filters.passes_cache]
  unfold Reaches
  rw [trials_eq]
  exact r.tryPatterns_keeps w Filters.attributes h

/-! ### The walk over the rules -/

/-- A walk adds the valid patterns that it consults, however it ends. -/
theorem chooseFrom_keeps (w : Window) (taskbarAvailable : Bool) (rules : List Rule) :
    ∀ (start : Nat) {cache : PatternCache} {patterns : Set String}, cache.KeepsValidOf patterns →
      (chooseFrom w taskbarAvailable start rules cache).2.KeepsValidOf
        (patterns ∪ {pattern | WalkReaches rules w taskbarAvailable pattern}) := by
  induction rules with
  | nil =>
    intro start cache patterns h
    exact h.congr fun pattern => or_iff_left not_walkReaches_nil
  | cons r rest ih =>
    intro start cache patterns h
    simp only [walkReaches_cons_iff, ← r.eligible_iff]
    rw [chooseFrom]
    by_cases heligible : r.eligible taskbarAvailable = true
    · rw [if_pos heligible]
      have hkeeps := r.passes_keeps w h
      have hverdict := (r.passes_eq_verdict w h.faithful).1
      rcases hpasses : r.filters.passes w r.name cache with ⟨answer, cache'⟩
      rw [hpasses] at hkeeps hverdict
      simp only [heligible, true_and, forall_const, ← hverdict]
      -- Only a plain no lets the walk go on to the rules behind.
      cases answer with
      | error e => exact hkeeps.congr fun pattern => by simp
      | ok passed =>
        cases passed with
        | true => exact hkeeps.congr fun pattern => by simp
        | false => exact (ih (start + 1) hkeeps).congr fun pattern => by simp [or_assoc]
    · rw [if_neg heligible]
      exact (ih (start + 1) h).congr fun pattern => by simp [heligible]

/-! ### Every history -/

/-- A question adds the valid patterns that it consults. -/
theorem PatternCache.KeepsValidOf.after {cache : PatternCache} {patterns : Set String}
    (h : cache.KeepsValidOf patterns) (q : Query) :
    (cache.after q).KeepsValidOf (patterns ∪ {pattern | q.Reaches pattern}) := by
  cases q with
  | passes w filters rule => exact Rule.passes_keeps { filters := filters, name := rule } w h
  | choose w rules taskbarAvailable => exact chooseFrom_keeps w taskbarAvailable rules 0 h

/-- Questions add the valid patterns that they consult. -/
theorem PatternCache.KeepsValidOf.afterAll (queries : List Query) :
    ∀ {cache : PatternCache} {patterns : Set String}, cache.KeepsValidOf patterns →
      (cache.afterAll queries).KeepsValidOf (patterns ∪ reachedBy queries) := by
  induction queries with
  | nil =>
    intro cache patterns h
    exact h.congr fun pattern => by simp [reachedBy]
  | cons q rest ih =>
    intro cache patterns h
    exact (ih (h.after q)).congr fun pattern => by simp [reachedBy, or_assoc]

/-- A cache that was empty keeps the valid patterns that the questions have consulted. -/
theorem PatternCache.keepsValidOf_afterAll (queries : List Query) :
    (empty.afterAll queries).KeepsValidOf (reachedBy queries) :=
  (keepsValidOf_empty.afterAll queries).congr fun _ => (or_iff_right (Set.notMem_empty _)).symm

/-- What questions consult does not depend on their order. -/
theorem reachedBy_perm {queries queries' : List Query} (h : queries.Perm queries') :
    reachedBy queries = reachedBy queries' := by
  ext pattern
  simp only [reachedBy, Set.mem_ofPred_eq, h.mem_iff]

namespace PatternCache

/-- The names of a cache are the valid ones of the patterns kept. -/
theorem KeepsValidOf.mem_names_iff {cache : PatternCache} {patterns : Set String}
    (h : cache.KeepsValidOf patterns) (pattern : String) :
    pattern ∈ cache.compiled.names ↔
      (∃ regex, compile pattern = .ok regex) ∧ pattern ∈ patterns := by
  rw [NameMap.mem_names_iff, ← exists_and_right]
  exact exists_congr fun regex => h pattern regex

/-- The cache is as large as the set of valid patterns kept. -/
theorem KeepsValidOf.size_eq {cache : PatternCache} {patterns : Set String}
    (h : cache.KeepsValidOf patterns) :
    (cache.size : ℕ∞) = {pattern ∈ patterns | ∃ regex, compile pattern = .ok regex}.encard := by
  have hset : {pattern ∈ patterns | ∃ regex, compile pattern = .ok regex} =
      (cache.compiled.names.toFinset : Set String) := by
    ext pattern
    simp only [Set.mem_ofPred_eq, Finset.mem_coe, List.mem_toFinset, h.mem_names_iff, and_comm]
  have hnodup : cache.compiled.names.Nodup := NameMap.nodup_names cache.compiled.sorted
  rw [hset, Set.encard_coe_eq_coe_finsetCard, List.toFinset_card_of_nodup hnodup]
  simp [size, NameMap.names]

/-- Caches that keep the valid ones of the same patterns are the same. -/
theorem KeepsValidOf.unique {cache cache' : PatternCache} {patterns : Set String}
    (h : cache.KeepsValidOf patterns) (h' : cache'.KeepsValidOf patterns) : cache = cache' := by
  have hmaps : cache.compiled = cache'.compiled := by
    refine NameMap.ext_get? fun pattern => Option.ext fun regex => ?_
    rw [h pattern regex, h' pattern regex]
  cases cache
  cases cache'
  cases hmaps
  rfl

end PatternCache

/-- After any questions, a cache that was empty holds of every pattern what compiling it gives,
and no pattern that does not compile. No later question removes or replaces an entry. The patterns
held are the valid ones that the questions have consulted, the size is their number, and the cache
is the same in whatever order the questions were asked. -/
theorem cached_patterns_exact (queries : List Query) :
    let cache := PatternCache.empty.afterAll queries
    (∀ pattern regex, cache.compiled.get? pattern = some regex → compile pattern = .ok regex) ∧
    (∀ pattern cause, compile pattern = .error cause → pattern ∉ cache.compiled.names) ∧
    (∀ later pattern regex, cache.compiled.get? pattern = some regex →
      (PatternCache.empty.afterAll (queries ++ later)).compiled.get? pattern = some regex) ∧
    (∀ pattern, pattern ∈ cache.compiled.names ↔
      (∃ regex, compile pattern = .ok regex) ∧ ∃ q ∈ queries, q.Reaches pattern) ∧
    (cache.size : ℕ∞) =
      {pattern | (∃ q ∈ queries, q.Reaches pattern) ∧ ∃ regex, compile pattern = .ok regex}.encard ∧
    ∀ queries' : List Query, queries'.Perm queries →
      PatternCache.empty.afterAll queries' = cache := by
  intro cache
  have hkeeps : cache.KeepsValidOf (reachedBy queries) := PatternCache.keepsValidOf_afterAll queries
  refine ⟨hkeeps.faithful, ?_, ?_, hkeeps.mem_names_iff, hkeeps.size_eq, ?_⟩
  · intro pattern cause hinvalid hmem
    obtain ⟨⟨regex, hvalid⟩, -⟩ := (hkeeps.mem_names_iff pattern).1 hmem
    cases hvalid.symm.trans hinvalid
  · intro later pattern regex hget
    obtain ⟨hvalid, q, hq, hreaches⟩ := (hkeeps pattern regex).1 hget
    exact (PatternCache.keepsValidOf_afterAll (queries ++ later) pattern regex).2
      ⟨hvalid, q, List.mem_append_left later hq, hreaches⟩
  · intro queries' hperm
    have hkeeps' := PatternCache.keepsValidOf_afterAll queries'
    rw [reachedBy_perm hperm] at hkeeps'
    exact hkeeps'.unique hkeeps

/-- A question that ends at the rule that cannot be read, and the questions about the same rules. -/
def repeatedQueries : List Query :=
  .choose bareWindow editorRules.reverse true :: earlierQueries

/-- The pattern of the broken rule is consulted and not kept. The two valid patterns are kept once,
also when the questions are asked in the other order. -/
theorem cached_after_queries :
    let cache := PatternCache.empty.afterAll repeatedQueries
    (∃ q ∈ repeatedQueries, q.Reaches "(") ∧ "(" ∉ cache.compiled.names ∧
    "^Report" ∈ cache.compiled.names ∧ cache.size = 2 ∧
    PatternCache.empty.afterAll repeatedQueries.reverse = cache := by
  intro cache
  obtain ⟨-, hinvalid, -, hnames, -, horder⟩ := cached_patterns_exact repeatedQueries
  have hfirst : WalkReaches editorRules.reverse bareWindow true "(" :=
    walkReaches_cons_iff.2 (.inl ⟨⟨rfl, by simp⟩, .programPath, none,
      [(.windowTitle, none, _), (.windowClass, none, _)], _, rfl, by simp [Rule.objection]⟩)
  have hreport : WalkReaches editorRules bareWindow true "^Report" := by
    refine walkReaches_cons_iff.2 (.inr ⟨?_, walkReaches_cons_iff.2 (.inl ⟨⟨rfl, by simp⟩, ?_⟩)⟩)
    · rintro ⟨henabled, -⟩
      cases henabled
    · exact ⟨.windowTitle, some "Untitled", [], _, rfl, by simp⟩
  have hcached : "^Report" ∈ cache.compiled.names :=
    (hnames "^Report").2 ⟨⟨_, rfl⟩, .choose bareWindow editorRules true,
      by simp [repeatedQueries, earlierQueries], hreport⟩
  exact ⟨⟨_, List.mem_cons_self, hfirst⟩, hinvalid "(" _ rfl, hcached, rfl,
    horder _ (List.reverse_perm _)⟩

end DeskPlan
