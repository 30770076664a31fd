import DeskPlan.Blueprint.Selection

/-!
# `DeskPlan.Proofs.Blueprint.FirstMatch`: the rule that is chosen, said without a cache

The walk over the rules reads patterns through a cache that windows share, and stops within a
rule and among the rules as soon as it can. Here the same is said without either. `Rule.verdict`
judges one rule: it lists the six attributes with their patterns, compiles each pattern afresh
and takes the first objection. `Decisive` is the least eligible rule whose verdict is not a plain
no.

A cache that earlier questions have left is `PatternCache.Faithful`: what it holds for a pattern
is what compiling the pattern gives (`faithful_afterAll`). Through such a cache a pattern reads as
it does afresh (`lookup_cases`), so one rule is judged as its verdict says (`passes_eq_verdict`),
and by induction over the rules the walk ends at the decisive one (`chooseFrom_cases`).
`chooseRule_firstMatch` states this for every history of the cache. Two faithful caches thus lead to
the same choice (`chooseRule_eq_of_faithful`).

An index that is absent counts as the empty text, unlike every other attribute that is absent. A
pattern that matches the empty text therefore lets such a window pass (`chosen_without_index`).
-/

set_option autoImplicit false

namespace DeskPlan

open DeskPlan.Pattern (PatternError compile)

/-! ### Judging without a cache -/

/-- The text of an index of the taskbar: decimal, and empty when the index is absent. -/
def indexText : Option Word32 → Option String
  | some n => some (toString n.val)
  | none => some ""

namespace Rule

/-- Whether a rule is tried: it is enabled, and the host reports taskbar attributes or the rule
has no pattern for one. -/
def Eligible (r : Rule) (taskbarAvailable : Bool) : Prop :=
  r.enabled = true ∧ ¬ (taskbarAvailable = false ∧
    (r.filters.taskbarAppId ≠ none ∨ r.filters.taskbarIndex ≠ none ∨
      r.filters.taskbarSubIndex ≠ none))

/-- The attributes in the order in which they are looked at, each with the rule's pattern for it
and with its text. How the text of an index is read is left open. -/
def trials (readIndex : Option Word32 → Option String) (r : Rule) (w : Window) :
    List (Attribute × Option String × Option String) :=
  [(.windowTitle, r.filters.windowTitle, some w.title),
    (.windowClass, r.filters.windowClass, some w.className),
    (.programPath, r.filters.programPath, w.programPath),
    (.taskbarAppId, r.filters.taskbarAppId, w.taskbarAppId),
    (.taskbarIndex, r.filters.taskbarIndex, readIndex w.taskbarIndex),
    (.taskbarSubIndex, r.filters.taskbarSubIndex, readIndex w.taskbarSubIndex)]

/-- What a trial has against a window: a pattern that does not compile, or one that does not
match. Nothing matches an absent text. -/
def objection (r : Rule) : Attribute × Option String × Option String →
    Option (Except PatternFailure Bool)
  | (_, none, _) => none
  | (a, some pattern, text) =>
    match compile pattern with
    | .error cause => some (.error ⟨r.name, a, pattern, cause⟩)
    | .ok regex =>
      match text with
      | some s => if regex.isMatch s then none else some (.ok false)
      | none => some (.ok false)

/-- The verdict of a rule on a window: the first objection, and without one whether the filter for
tool windows is absent or equal. -/
def verdict (readIndex : Option Word32 → Option String) (r : Rule) (w : Window) :
    Except PatternFailure Bool :=
  ((r.trials readIndex w).findSome? r.objection).getD
    (.ok (r.filters.isToolWindow = none || r.filters.isToolWindow = some w.isToolWindow))

end Rule

/-- The rule at the position is the first eligible one whose verdict is not a plain no. -/
structure Decisive (rules : List Rule) (w : Window) (taskbarAvailable : Bool) (index : Nat)
    (r : Rule) : Prop where
  at_index : rules[index]? = some r
  eligible : r.Eligible taskbarAvailable
  speaks : r.verdict indexText w ≠ .ok false
  least : ∀ j < index, ∀ s, rules[j]? = some s → s.Eligible taskbarAvailable →
    s.verdict indexText w = .ok false

/-! ### Histories of a cache -/

/-- A question about rules that reads patterns through a cache. -/
inductive Query where
  | passes (w : Window) (filters : Filters) (rule : String)
  | choose (w : Window) (rules : List Rule) (taskbarAvailable : Bool)

namespace PatternCache

/-- The cache after a question. -/
def after (cache : PatternCache) : Query → PatternCache
  | .passes w filters rule => (filters.passes w rule cache).2
  | .choose w rules taskbarAvailable => (chooseRule w rules taskbarAvailable cache).2

/-- The cache after questions, one after the other. -/
def afterAll (cache : PatternCache) (queries : List Query) : PatternCache :=
  queries.foldl after cache

/-- What the cache holds for a pattern is what compiling the pattern gives. -/
def Faithful (cache : PatternCache) : Prop :=
  ∀ pattern regex, cache.compiled.get? pattern = some regex → compile pattern = .ok regex

/-- Through a faithful cache a pattern reads as it does afresh, and the cache stays faithful. -/
theorem lookup_cases {cache : PatternCache} (h : cache.Faithful) (pattern : String) :
    (∃ cause, compile pattern = .error cause ∧ cache.lookup pattern = .error cause) ∨
    ∃ regex cache', compile pattern = .ok regex ∧ cache.lookup pattern = .ok (regex, cache') ∧
      cache'.Faithful := by
  unfold lookup
  cases hget : cache.compiled.get? pattern with
  | some regex => exact .inr ⟨regex, cache, h _ _ hget, rfl, h⟩
  | none =>
    cases hcompile : compile pattern with
    | error cause => exact .inl ⟨cause, rfl, rfl⟩
    | ok regex =>
      refine .inr ⟨regex, _, rfl, rfl, ?_⟩
      intro other found hfound
      rw [NameMap.get?_insert] at hfound
      split at hfound
      · rename_i hsame
        cases hfound
        rw [hsame, hcompile]
      · exact h _ _ hfound

theorem faithful_empty : empty.Faithful := by
  intro pattern regex h
  cases h

end PatternCache

/-! ### One rule -/

/-- The walk over the rules tries the eligible ones. -/
theorem Rule.eligible_iff (r : Rule) (taskbarAvailable : Bool) :
    r.eligible taskbarAvailable = true ↔ r.Eligible taskbarAvailable := by
  unfold eligible Eligible Filters.needsTaskbar
  cases taskbarAvailable <;> cases r.filters.taskbarAppId <;> cases r.filters.taskbarIndex <;>
    cases r.filters.taskbarSubIndex <;> simp

/-- Through a faithful cache the patterns of some attributes are tried up to the first
objection. -/
theorem Rule.tryPatterns_eq (r : Rule) (w : Window) :
    ∀ (attributes : List Attribute) {cache : PatternCache}, cache.Faithful →
      let trials := attributes.map fun a => (a, r.filters.pattern? a, w.attribute? a)
      let tried := Filters.tryPatterns w r.name
        (attributes.filterMap fun a => (r.filters.pattern? a).map fun p => (a, p)) cache
      tried.1 = (trials.findSome? r.objection).getD (.ok true) ∧ tried.2.Faithful := by
  intro attributes
  induction attributes with
  | nil =>
    intro cache hcache
    exact ⟨rfl, hcache⟩
  | cons a rest ih =>
    intro cache hcache
    cases hpattern : r.filters.pattern? a with
    | none =>
      have hrest := ih hcache
      simp only [List.map_cons, List.filterMap_cons, hpattern, Option.map_none,
        List.findSome?_cons, objection] at hrest ⊢
      exact hrest
    | some p =>
      simp only [List.map_cons, List.filterMap_cons, hpattern, Option.map_some,
        List.findSome?_cons, Filters.tryPatterns, objection]
      rcases PatternCache.lookup_cases hcache p with
        ⟨cause, hcompile, hlookup⟩ | ⟨regex, cache', hcompile, hlookup, hcache'⟩
      · rw [hcompile, hlookup]
        exact ⟨rfl, hcache⟩
      · rw [hcompile, hlookup]
        cases htext : w.attribute? a with
        | none => exact ⟨rfl, hcache'⟩
        | some text =>
          cases hmatch : regex.isMatch text with
          | false => simpa [hmatch] using hcache'
          | true => simpa [hmatch] using ih hcache'

/-- The trials are those of the attributes in their order. -/
theorem Rule.trials_eq (r : Rule) (w : Window) : r.trials indexText w =
    Filters.attributes.map fun a => (a, r.filters.pattern? a, w.attribute? a) := by
  have hindex : ∀ n : Option Word32,
      indexText n = some ((n.map fun n => toString n.val).getD "") := by
    intro n
    cases n <;> rfl
  simp only [trials, hindex]
  rfl

/-- No objection is a yes. -/
theorem Rule.objection_ne (r : Rule) (trial : Attribute × Option String × Option String) :
    r.objection trial ≠ some (.ok true) := by
  unfold objection
  split
  · simp
  · split
    · simp
    · split
      · split <;> simp
      · simp

/-- Through a faithful cache the filters of a rule are judged as its verdict says. -/
theorem Rule.passes_eq_verdict (r : Rule) (w : Window) {cache : PatternCache}
    (hcache : cache.Faithful) :
    (r.filters.passes w r.name cache).1 = r.verdict indexText w ∧
      (r.filters.passes w r.name cache).2.Faithful := by
  obtain ⟨hanswer, hfaithful⟩ := r.tryPatterns_eq w Filters.attributes hcache
  have htool : r.filters.passesToolWindow w =
      (decide (r.filters.isToolWindow = none) ||
        decide (r.filters.isToolWindow = some w.isToolWindow)) := by
    unfold Filters.passesToolWindow
    cases r.filters.isToolWindow <;> simp
  rw [← trials_eq] at hanswer
  unfold Filters.passes verdict
  rcases htried : Filters.tryPatterns w r.name r.filters.patterns cache with ⟨answer, cache'⟩
  rw [← Filters.patterns, htried] at hanswer hfaithful
  cases hfirst : (r.trials indexText w).findSome? r.objection with
  | none =>
    rw [hfirst] at hanswer
    cases hanswer
    simp only [Option.getD_none]
    exact ⟨congrArg Except.ok htool, hfaithful⟩
  | some objected =>
    rw [hfirst] at hanswer
    obtain rfl : answer = objected := hanswer
    obtain ⟨trial, -, htrial⟩ := List.exists_of_findSome?_eq_some hfirst
    -- An objection is passed on as it is, for it is not the answer that all patterns match.
    cases answer with
    | error e => exact ⟨rfl, hfaithful⟩
    | ok passed =>
      cases passed with
      | true => exact absurd htrial (r.objection_ne trial)
      | false => exact ⟨rfl, hfaithful⟩

/-! ### The walk -/

namespace Decisive

variable {rules : List Rule} {w : Window} {taskbarAvailable : Bool}

/-- An eligible rule that speaks is decisive at the head. -/
theorem head {r : Rule} (heligible : r.Eligible taskbarAvailable)
    (hspeaks : r.verdict indexText w ≠ .ok false) :
    Decisive (r :: rules) w taskbarAvailable 0 r :=
  ⟨rfl, heligible, hspeaks, fun _ hj => absurd hj (Nat.not_lt_zero _)⟩

/-- A decisive rule stays decisive behind a rule that has nothing to say. -/
theorem cons {index : Nat} {r : Rule} (h : Decisive rules w taskbarAvailable index r) {s : Rule}
    (hsilent : s.Eligible taskbarAvailable → s.verdict indexText w = .ok false) :
    Decisive (s :: rules) w taskbarAvailable (index + 1) r where
  at_index := h.at_index
  eligible := h.eligible
  speaks := h.speaks
  least j hj t ht heligible := by
    cases j with
    | zero =>
      cases ht
      exact hsilent heligible
    | succ j => exact h.least j (Nat.lt_of_succ_lt_succ hj) t ht heligible

/-- There is one decisive rule at most. -/
theorem unique {i j : Nat} {r s : Rule} (h : Decisive rules w taskbarAvailable i r)
    (h' : Decisive rules w taskbarAvailable j s) : i = j ∧ r = s := by
  have hij : i = j := by
    rcases Nat.lt_trichotomy i j with hlt | heq | hgt
    · exact absurd (h'.least i hlt r h.at_index h.eligible) h.speaks
    · exact heq
    · exact absurd (h.least j hgt s h'.at_index h'.eligible) h'.speaks
  subst hij
  exact ⟨rfl, Option.some.inj (h.at_index.symm.trans h'.at_index)⟩

/-- A decisive rule is not silenced by a plain no of all eligible rules. -/
theorem not_all_silent {index : Nat} {r : Rule} (h : Decisive rules w taskbarAvailable index r) :
    ¬ ∀ s ∈ rules, s.Eligible taskbarAvailable → s.verdict indexText w = .ok false :=
  fun hall => h.speaks (hall r (List.mem_of_getElem? h.at_index) h.eligible)

end Decisive

/-- How a walk over rules from a position on can end: all eligible rules have said no, or the
decisive one has said yes, or its verdict is an error. -/
inductive WalkEnd (rules : List Rule) (w : Window) (taskbarAvailable : Bool) (start : Nat) :
    Except PatternFailure (Option (Nat × Rule)) → Prop where
  | silent
      (hall : ∀ r ∈ rules, r.Eligible taskbarAvailable → r.verdict indexText w = .ok false) :
      WalkEnd rules w taskbarAvailable start (.ok none)
  | chosen {index : Nat} {r : Rule} (hdecisive : Decisive rules w taskbarAvailable index r)
      (hverdict : r.verdict indexText w = .ok true) :
      WalkEnd rules w taskbarAvailable start (.ok (some (start + index, r)))
  | failed {index : Nat} {r : Rule} {e : PatternFailure}
      (hdecisive : Decisive rules w taskbarAvailable index r)
      (hverdict : r.verdict indexText w = .error e) :
      WalkEnd rules w taskbarAvailable start (.error e)

/-- A walk ends behind a rule that has nothing to say as it ends without the rule. -/
theorem WalkEnd.cons {rules : List Rule} {w : Window} {taskbarAvailable : Bool} {start : Nat}
    {answer : Except PatternFailure (Option (Nat × Rule))}
    (h : WalkEnd rules w taskbarAvailable (start + 1) answer) {s : Rule}
    (hsilent : s.Eligible taskbarAvailable → s.verdict indexText w = .ok false) :
    WalkEnd (s :: rules) w taskbarAvailable start answer := by
  cases h with
  | silent hall =>
    refine .silent fun r hr => ?_
    rcases List.mem_cons.1 hr with rfl | hr
    · exact hsilent
    · exact hall r hr
  | @chosen index r hdecisive hverdict =>
    rw [show start + 1 + index = start + (index + 1) by omega]
    exact .chosen (hdecisive.cons hsilent) hverdict
  | failed hdecisive hverdict => exact .failed (hdecisive.cons hsilent) hverdict

/-- Through a faithful cache a walk ends at the decisive rule, and the cache stays faithful. -/
theorem chooseFrom_cases (w : Window) (taskbarAvailable : Bool) :
    ∀ (rules : List Rule) (start : Nat) {cache : PatternCache}, cache.Faithful →
      let walked := chooseFrom w taskbarAvailable start rules cache
      WalkEnd rules w taskbarAvailable start walked.1 ∧ walked.2.Faithful := by
  intro rules
  induction rules with
  | nil =>
    intro start cache hcache
    exact ⟨.silent fun r hr => absurd hr List.not_mem_nil, hcache⟩
  | cons r rest ih =>
    intro start cache hcache
    rw [chooseFrom]
    by_cases heligible : r.eligible taskbarAvailable = true
    · rw [if_pos heligible]
      rw [r.eligible_iff] at heligible
      obtain ⟨hverdict, hfaithful⟩ := r.passes_eq_verdict w hcache
      rcases hpasses : r.filters.passes w r.name cache with ⟨answer, cache'⟩
      rw [hpasses] at hverdict hfaithful
      cases answer with
      | error e =>
        exact ⟨.failed (.head heligible (by rw [← hverdict]; simp)) hverdict.symm, hfaithful⟩
      | ok passed =>
        cases passed with
        | true =>
          exact ⟨.chosen (.head heligible (by rw [← hverdict]; simp)) hverdict.symm, hfaithful⟩
        | false =>
          obtain ⟨hend, hcache'⟩ := ih (start + 1) hfaithful
          exact ⟨hend.cons fun _ => hverdict.symm, hcache'⟩
    · rw [if_neg heligible]
      obtain ⟨hend, hcache'⟩ := ih (start + 1) hcache
      exact ⟨hend.cons fun h => absurd ((r.eligible_iff _).2 h) heligible, hcache'⟩

/-- There is one way to end. -/
theorem WalkEnd.unique {rules : List Rule} {w : Window} {taskbarAvailable : Bool} {start : Nat}
    {answer answer' : Except PatternFailure (Option (Nat × Rule))}
    (h : WalkEnd rules w taskbarAvailable start answer)
    (h' : WalkEnd rules w taskbarAvailable start answer') : answer = answer' := by
  cases h with
  | silent hall =>
    cases h' with
    | silent => rfl
    | chosen hdecisive => exact absurd hall hdecisive.not_all_silent
    | failed hdecisive => exact absurd hall hdecisive.not_all_silent
  | chosen hdecisive hverdict =>
    cases h' with
    | silent hall => exact absurd hall hdecisive.not_all_silent
    | chosen hdecisive' =>
      obtain ⟨rfl, rfl⟩ := hdecisive.unique hdecisive'
      rfl
    | failed hdecisive' hverdict' =>
      obtain ⟨rfl, rfl⟩ := hdecisive.unique hdecisive'
      exact nomatch hverdict.symm.trans hverdict'
  | failed hdecisive hverdict =>
    cases h' with
    | silent hall => exact absurd hall hdecisive.not_all_silent
    | chosen hdecisive' hverdict' =>
      obtain ⟨rfl, rfl⟩ := hdecisive.unique hdecisive'
      exact nomatch hverdict.symm.trans hverdict'
    | failed hdecisive' hverdict' =>
      obtain ⟨rfl, rfl⟩ := hdecisive.unique hdecisive'
      cases hverdict.symm.trans hverdict'
      rfl

/-- The choice is the same through any two faithful caches. -/
theorem chooseRule_eq_of_faithful (w : Window) (rules : List Rule) (taskbarAvailable : Bool)
    {cache cache' : PatternCache} (h : cache.Faithful) (h' : cache'.Faithful) :
    (chooseRule w rules taskbarAvailable cache).1 =
      (chooseRule w rules taskbarAvailable cache').1 :=
  (chooseFrom_cases w taskbarAvailable rules 0 h).1.unique
    (chooseFrom_cases w taskbarAvailable rules 0 h').1

/-- The rule that is chosen stands at its position. -/
theorem getElem?_of_chooseRule {w : Window} {rules : List Rule} {taskbarAvailable : Bool}
    {cache : PatternCache} (h : cache.Faithful) {index : Nat} {r : Rule}
    (hchosen : (chooseRule w rules taskbarAvailable cache).1 = .ok (some (index, r))) :
    rules[index]? = some r := by
  have hend : WalkEnd rules w taskbarAvailable 0 (.ok (some (index, r))) :=
    hchosen ▸ (chooseFrom_cases w taskbarAvailable rules 0 h).1
  cases hend with
  | @chosen i _ hdecisive =>
    rw [Nat.zero_add]
    exact hdecisive.at_index

/-! ### Every history -/

/-- A question leaves a faithful cache faithful. -/
theorem PatternCache.Faithful.after {cache : PatternCache} (h : cache.Faithful) (q : Query) :
    (cache.after q).Faithful := by
  cases q with
  | passes w filters rule =>
    -- The filters and the name make up a rule as far as they are asked about.
    exact (Rule.passes_eq_verdict { filters := filters, name := rule } w h).2
  | choose w rules taskbarAvailable => exact (chooseFrom_cases w taskbarAvailable rules 0 h).2

/-- After any questions a cache that was empty is faithful. -/
theorem PatternCache.faithful_afterAll (queries : List Query) :
    (empty.afterAll queries).Faithful := by
  have hall : ∀ (queries : List Query) {cache : PatternCache}, cache.Faithful →
      (cache.afterAll queries).Faithful := by
    intro queries
    induction queries with
    | nil => exact id
    | cons q rest ih => exact fun h => ih (h.after q)
  exact hall queries faithful_empty

/-- Whatever the cache has been asked before, the rule chosen for a window is the first eligible
one whose verdict is not a plain no, provided that its verdict is yes. If its verdict is an
error, the choice fails with this error. No rule is chosen exactly when all eligible rules say
no. -/
theorem chooseRule_firstMatch (w : Window) (rules : List Rule) (taskbarAvailable : Bool)
    (queries : List Query) :
    let answer := (chooseRule w rules taskbarAvailable (PatternCache.empty.afterAll queries)).1
    (∀ index r, answer = .ok (some (index, r)) ↔
      Decisive rules w taskbarAvailable index r ∧ r.verdict indexText w = .ok true) ∧
    (∀ e, answer = .error e ↔ ∃ index r,
      Decisive rules w taskbarAvailable index r ∧ r.verdict indexText w = .error e) ∧
    (answer = .ok none ↔
      ∀ r ∈ rules, r.Eligible taskbarAvailable → r.verdict indexText w = .ok false) := by
  intro answer
  have hend : WalkEnd rules w taskbarAvailable 0 answer :=
    (chooseFrom_cases w taskbarAvailable rules 0 (PatternCache.faithful_afterAll queries)).1
  revert hend
  generalize answer = answer
  intro hend
  cases hend with
  | silent hall =>
    refine ⟨fun index r => ⟨nofun, fun h => absurd hall h.1.not_all_silent⟩,
      fun e => ⟨nofun, ?_⟩, fun _ => hall, fun _ => rfl⟩
    rintro ⟨index, r, hdecisive, -⟩
    exact absurd hall hdecisive.not_all_silent
  | @chosen i s hdecisive hverdict =>
    rw [Nat.zero_add]
    refine ⟨fun index r => ⟨?_, ?_⟩, fun e => ⟨nofun, ?_⟩, nofun,
      fun hall => absurd hall hdecisive.not_all_silent⟩
    · intro h
      cases h
      exact ⟨hdecisive, hverdict⟩
    · rintro ⟨h, -⟩
      obtain ⟨rfl, rfl⟩ := hdecisive.unique h
      rfl
    · rintro ⟨index, r, h, herror⟩
      obtain ⟨rfl, rfl⟩ := hdecisive.unique h
      exact nomatch hverdict.symm.trans herror
  | @failed i s e hdecisive hverdict =>
    refine ⟨fun index r => ⟨nofun, ?_⟩, fun e' => ⟨?_, ?_⟩, nofun,
      fun hall => absurd hall hdecisive.not_all_silent⟩
    · rintro ⟨h, hyes⟩
      obtain ⟨rfl, rfl⟩ := hdecisive.unique h
      exact nomatch hverdict.symm.trans hyes
    · intro h
      cases h
      exact ⟨i, s, hdecisive, hverdict⟩
    · rintro ⟨index, r, h, herror⟩
      obtain ⟨rfl, rfl⟩ := hdecisive.unique h
      cases hverdict.symm.trans herror
      rfl

/-- A window of a host that reports no index for it. -/
def bareWindow : Window where
  handle := ⟨16, by decide, by decide⟩
  rect := ⟨⟨100, by decide, by decide⟩, ⟨100, by decide, by decide⟩, ⟨900, by decide, by decide⟩,
    ⟨700, by decide, by decide⟩⟩
  title := "Untitled"
  className := "Notepad"
  programPath := none
  taskbarAppId := none
  taskbarIndex := none
  taskbarSubIndex := none
  isToolWindow := false

/-- An enabled rule. -/
def enabledRule (name : String) (filters : Filters) : Rule :=
  { enabled := true, name := name, filters := filters }

/-- A rule with an alternative for the class, and no tool windows. -/
def editorRule : Rule :=
  enabledRule "editor" { windowClass := some "Pad|Note", isToolWindow := some false }

/-- A rule whose pattern cannot be read. -/
def brokenRule : Rule := enabledRule "broken" { programPath := some "(" }

/-- A rule that is switched off, one that objects to the title, one that fits and one that cannot
be read. -/
def editorRules : List Rule :=
  [{ name := "off" }, enabledRule "report" { windowTitle := some "^Report" }, editorRule,
    brokenRule]

/-- Questions about the rules, before. -/
def earlierQueries : List Query :=
  [.passes bareWindow editorRule.filters "earlier", .choose bareWindow editorRules true]

/-- The third rule is chosen although the one behind it cannot be read. When the broken rule stands
first, the choice fails. -/
theorem choice_after_queries :
    (chooseRule bareWindow editorRules true (PatternCache.empty.afterAll earlierQueries)).1 =
      .ok (some (2, editorRule)) ∧
    ∃ e, (chooseRule bareWindow editorRules.reverse true
      (PatternCache.empty.afterAll earlierQueries)).1 = .error e := by
  constructor
  · have hdecisive : Decisive editorRules bareWindow true 2 editorRule := by
      refine ⟨rfl, ⟨rfl, by simp⟩, (fun h => nomatch h), fun j hj r hr heligible => ?_⟩
      match j with
      | 0 =>
        cases hr
        cases heligible.1
      | 1 =>
        cases hr
        rfl
    exact ((chooseRule_firstMatch bareWindow editorRules true earlierQueries).1 2 editorRule).2
      ⟨hdecisive, rfl⟩
  · have heligible : brokenRule.Eligible true := ⟨rfl, by simp⟩
    have hverdict : ∃ e, brokenRule.verdict indexText bareWindow = .error e := ⟨_, rfl⟩
    obtain ⟨e, he⟩ := hverdict
    have hspeaks : brokenRule.verdict indexText bareWindow ≠ .ok false := by
      rw [he]
      simp
    exact ⟨e, ((chooseRule_firstMatch bareWindow editorRules.reverse true earlierQueries).2.1 e).2
      ⟨0, brokenRule, .head heligible hspeaks, he⟩⟩

/-- A rule for windows with an empty index. -/
def unlistedRule : Rule := enabledRule "unlisted" { taskbarIndex := some "^$" }

/-- A window without an index is given to a rule whose pattern matches the empty text. Were an
absent index an absent attribute, the verdict of the rule would be no. -/
theorem chosen_without_index :
    bareWindow.taskbarIndex = none ∧ unlistedRule.Eligible true ∧
    unlistedRule.verdict (Option.map fun n => toString n.val) bareWindow = .ok false ∧
    (chooseRule bareWindow [unlistedRule] true PatternCache.empty).1 =
      .ok (some (0, unlistedRule)) :=
  ⟨rfl, ⟨rfl, by simp⟩, rfl, rfl⟩

end DeskPlan
