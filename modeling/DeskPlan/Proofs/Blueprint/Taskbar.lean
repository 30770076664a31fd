import DeskPlan.Proofs.Blueprint.FirstMatch

/-!
# `DeskPlan.Proofs.Blueprint.Taskbar`: choosing a rule where the taskbar is unknown

On a host that does not report its taskbar, the walk over the rules passes over every enabled rule
that has a pattern for it (`Rule.LeftOut`). Two things must not come through to the choice then:
what a window says of the taskbar all the same, and what is wrong with a pattern of a rule that is
left out.

The choice is compared with one on a host that reports its taskbar, among the rules that remain when
the others are struck off. `remainingFrom` keeps their positions, and `SameChoice` says that two
answers agree up to the position.

* `Rule.verdict_withTaskbar`: a rule that does not ask for the taskbar judges a window alike
  whatever the window says of it;
* `chooseFrom_remaining`: the two walks go side by side. A rule that is left out is a step of the
  one walk alone, every other rule is the same step of both;
* `choice_without_taskbar` is the main statement.
-/

set_option autoImplicit false

namespace DeskPlan

/-! ### Rules that are left out -/

namespace Rule

/-- The rule has a pattern for an attribute of the taskbar. -/
def AsksTaskbar (r : Rule) : Prop :=
  r.filters.taskbarAppId ≠ none ∨ r.filters.taskbarIndex ≠ none ∨ r.filters.taskbarSubIndex ≠ none

instance : DecidablePred AsksTaskbar := fun _ => inferInstanceAs (Decidable (_ ∨ _))

/-- The rule is left out where the taskbar is unknown: it is enabled and asks for the taskbar. -/
def LeftOut (r : Rule) : Prop := r.enabled = true ∧ r.AsksTaskbar

instance : DecidablePred LeftOut := fun _ => inferInstanceAs (Decidable (_ ∧ _))

/-- The walk and the report ask in the same way whether a rule asks for the taskbar. -/
theorem needsTaskbar_iff (r : Rule) : r.filters.needsTaskbar = true ↔ r.AsksTaskbar := by
  simp [Filters.needsTaskbar, AsksTaskbar, Option.isSome_iff_ne_none, or_assoc]

/-- The names that are reported are those of the rules that are left out. -/
theorem taskbarDependent_eq (rules : List Rule) :
    taskbarDependent rules = (rules.filter fun r => r.LeftOut).map (·.name) := by
  have hleft : (fun r : Rule => r.enabled && r.filters.needsTaskbar) =
      fun r => decide r.LeftOut := by
    funext r
    rw [Bool.eq_iff_iff, Bool.and_eq_true, needsTaskbar_iff, decide_eq_true_iff, LeftOut]
  rw [taskbarDependent, hleft]

/-- A rule that is tried where the taskbar is unknown is not left out. -/
theorem Eligible.not_leftOut {r : Rule} (h : r.Eligible false) : ¬ r.LeftOut :=
  fun hleft => h.2 ⟨rfl, hleft.2⟩

end Rule

/-- The window with other things to say of the taskbar. -/
def Window.withTaskbar (w : Window) (appId : Option String) (index subIndex : Option Word32) :
    Window :=
  { w with taskbarAppId := appId, taskbarIndex := index, taskbarSubIndex := subIndex }

/-- A rule that does not ask for the taskbar judges a window alike whatever the window says of
it. -/
theorem Rule.verdict_withTaskbar {r : Rule} (h : ¬ r.AsksTaskbar) (w : Window)
    (appId : Option String) (index subIndex : Option Word32) :
    r.verdict indexText (w.withTaskbar appId index subIndex) = r.verdict indexText w := by
  simp only [AsksTaskbar, not_or, Decidable.not_not] at h
  obtain ⟨happId, hindex, hsubIndex⟩ := h
  -- Of the six trials the last three have no pattern, and the others do not look at the taskbar.
  rw [verdict, verdict, trials, trials, happId, hindex, hsubIndex]
  rfl

/-- The rules that remain, each with its position among rules of which the first has the position
`start`. -/
def remainingFrom (start : Nat) (rules : List Rule) : List (Rule × Nat) :=
  (rules.zipIdx start).filter fun e => ¬ e.1.LeftOut

/-! ### Two walks -/

/-- An answer over all rules and one over the rules that remain, the first of which has the position
`first` there, are the same choice: no rule, the same failure, or the same rule. What the rule's
position is among all is read off the list of those that remain. -/
inductive SameChoice (remaining : List (Rule × Nat)) (first : Nat) :
    Except PatternFailure (Option (Nat × Rule)) →
    Except PatternFailure (Option (Nat × Rule)) → Prop where
  | silent : SameChoice remaining first (.ok none) (.ok none)
  | failed (e : PatternFailure) : SameChoice remaining first (.error e) (.error e)
  | chosen {j index : Nat} {r : Rule} (hposition : remaining[j]? = some (r, index)) :
      SameChoice remaining first (.ok (some (index, r))) (.ok (some (first + j, r)))

namespace SameChoice

variable {remaining : List (Rule × Nat)} {first : Nat}
  {answer answer' trimmed : Except PatternFailure (Option (Nat × Rule))}

/-- The first of the rules that remain is the same choice in both. -/
theorem head (r : Rule) (index : Nat) :
    SameChoice ((r, index) :: remaining) first (.ok (some (index, r))) (.ok (some (first, r))) :=
  .chosen (j := 0) rfl

/-- A choice behind a rule that remains is the same choice with this rule in front. -/
theorem cons (h : SameChoice remaining (first + 1) answer trimmed) (e : Rule × Nat) :
    SameChoice (e :: remaining) first answer trimmed := by
  cases h with
  | silent => exact .silent
  | failed e => exact .failed e
  | @chosen j index r hposition =>
    rw [show first + 1 + j = first + (j + 1) by omega]
    exact .chosen hposition

/-- There is one choice over all rules that is the same as a given one over those that remain. -/
theorem unique (h : SameChoice remaining first answer trimmed)
    (h' : SameChoice remaining first answer' trimmed) : answer = answer' := by
  cases h with
  | silent => cases h'; rfl
  | failed e => cases h'; rfl
  | @chosen j index r hposition =>
    generalize htrimmed : (Except.ok (some (first + j, r)) :
      Except PatternFailure (Option (Nat × Rule))) = trimmed' at h'
    cases h' with
    | silent => cases htrimmed
    | failed e => cases htrimmed
    | @chosen j' index' r' hposition' =>
      obtain ⟨hfirst, rfl⟩ := Prod.mk.inj (Option.some.inj (Except.ok.inj htrimmed))
      obtain rfl : j = j' := by omega
      rw [hposition] at hposition'
      rw [(Prod.mk.inj (Option.some.inj hposition')).2]

end SameChoice

/-- A rule that judges two windows alike lets both pass, or neither, or fails for both, whatever the
two caches have been asked before. -/
theorem Rule.passes_alike {r : Rule} {w w' : Window}
    (halike : r.verdict indexText w = r.verdict indexText w') {cache cache' : PatternCache}
    (hcache : cache.Faithful) (hcache' : cache'.Faithful) :
    ∃ answer after after', r.filters.passes w r.name cache = (answer, after) ∧
      r.filters.passes w' r.name cache' = (answer, after') ∧ after.Faithful ∧ after'.Faithful := by
  obtain ⟨hverdict, hafter⟩ := r.passes_eq_verdict w hcache
  obtain ⟨hverdict', hafter'⟩ := r.passes_eq_verdict w' hcache'
  rw [← halike, ← hverdict] at hverdict'
  exact ⟨(r.filters.passes w r.name cache).1, (r.filters.passes w r.name cache).2,
    (r.filters.passes w' r.name cache').2, rfl, Prod.ext hverdict' rfl, hafter, hafter'⟩

/-- Where the taskbar is unknown, the walk over rules ends as the walk over those that remain does
where it is known, for windows that the rules which do not ask for the taskbar judge alike. -/
theorem chooseFrom_remaining {w w' : Window}
    (halike : ∀ r : Rule, ¬ r.AsksTaskbar → r.verdict indexText w = r.verdict indexText w') :
    ∀ (rules : List Rule) (start first : Nat) {cache cache' : PatternCache}, cache.Faithful →
      cache'.Faithful →
      SameChoice (remainingFrom start rules) first (chooseFrom w false start rules cache).1
        (chooseFrom w' true first (rules.filter fun r => ¬ r.LeftOut) cache').1 := by
  intro rules
  induction rules with
  | nil =>
    intro start first cache cache' _ _
    exact .silent
  | cons r rest ih =>
    intro start first cache cache' hcache hcache'
    have heligible := r.eligible_iff
    by_cases hleft : r.LeftOut
    · -- The rule is passed over here, and has been struck off there.
      have hnot : r.eligible false = false := by
        rw [Bool.eq_false_iff, Ne, heligible]
        exact fun h => h.not_leftOut hleft
      have hremaining : remainingFrom start (r :: rest) = remainingFrom (start + 1) rest := by
        simp [remainingFrom, hleft]
      rw [chooseFrom, hnot, if_neg Bool.false_ne_true, hremaining,
        List.filter_cons_of_neg (by simpa using hleft)]
      exact ih (start + 1) first hcache hcache'
    · have hremaining : remainingFrom start (r :: rest) =
          (r, start) :: remainingFrom (start + 1) rest := by
        simp [remainingFrom, hleft]
      rw [List.filter_cons_of_pos (by simpa using hleft), hremaining, chooseFrom, chooseFrom]
      cases henabled : r.enabled with
      | false =>
        have hnot : ∀ taskbarAvailable, r.eligible taskbarAvailable = false := by
          intro taskbarAvailable
          rw [Rule.eligible, henabled, Bool.false_and]
        rw [hnot, hnot, if_neg Bool.false_ne_true, if_neg Bool.false_ne_true]
        exact (ih (start + 1) (first + 1) hcache hcache').cons _
      | true =>
        have hasks : ¬ r.AsksTaskbar := fun h => hleft ⟨henabled, h⟩
        rw [if_pos ((heligible false).2 ⟨henabled, fun h => hasks h.2⟩),
          if_pos ((heligible true).2 ⟨henabled, fun h => Bool.noConfusion h.1⟩)]
        obtain ⟨answer, after, after', hpasses, hpasses', hafter, hafter'⟩ :=
          Rule.passes_alike (halike r hasks) hcache hcache'
        rw [hpasses, hpasses']
        cases answer with
        | error e => exact .failed e
        | ok passed =>
          cases passed with
          | true => exact .head r start
          | false => exact (ih (start + 1) (first + 1) hafter hafter').cons _

/-! ### The main statement -/

/-- Where the taskbar is unknown, whatever the caches have been asked before:

* a window and the same window with other things to say of the taskbar get the same answer;
* this is the answer where the taskbar is known, over the rules that remain when those that are left
  out have been struck off, with the position that the rule has among all;
* the names that are reported are those of the rules struck off, in order and each as often as it
  comes;
* a rule that is chosen is none of them, and neither is a rule whose verdict is the failure. -/
theorem choice_without_taskbar (w : Window) (rules : List Rule) (appId : Option String)
    (index subIndex : Option Word32) (queries queries' queries'' : List Query) :
    let w' := w.withTaskbar appId index subIndex
    let answer := (chooseRule w rules false (PatternCache.empty.afterAll queries)).1
    let kept := rules.filter fun r => ¬ r.LeftOut
    answer = (chooseRule w' rules false (PatternCache.empty.afterAll queries')).1 ∧
    SameChoice (remainingFrom 0 rules) 0 answer
      (chooseRule w' kept true (PatternCache.empty.afterAll queries'')).1 ∧
    Rule.taskbarDependent rules = (rules.filter fun r => r.LeftOut).map (·.name) ∧
    (∀ i r, answer = .ok (some (i, r)) → rules[i]? = some r ∧ ¬ r.LeftOut) ∧
    ∀ e, answer = .error e → ∃ (i : Nat) (r : Rule),
      rules[i]? = some r ∧ ¬ r.LeftOut ∧ r.verdict indexText w = .error e := by
  intro w' answer kept
  have hfaithful := PatternCache.faithful_afterAll
  have hsame : SameChoice (remainingFrom 0 rules) 0 answer
      (chooseRule w' kept true (PatternCache.empty.afterAll queries'')).1 :=
    chooseFrom_remaining
      (fun r hasks => (Rule.verdict_withTaskbar hasks w appId index subIndex).symm) rules 0 0
      (hfaithful queries) (hfaithful queries'')
  have hsame' : SameChoice (remainingFrom 0 rules) 0
      (chooseRule w' rules false (PatternCache.empty.afterAll queries')).1
      (chooseRule w' kept true (PatternCache.empty.afterAll queries'')).1 :=
    chooseFrom_remaining (fun _ _ => rfl) rules 0 0 (hfaithful queries') (hfaithful queries'')
  have hend : WalkEnd rules w false 0 answer :=
    (chooseFrom_cases w false rules 0 (hfaithful queries)).1
  refine ⟨hsame.unique hsame', hsame, Rule.taskbarDependent_eq rules, ?_, ?_⟩
  · intro i r hchosen
    rw [hchosen] at hend
    cases hend with
    | chosen hdecisive hverdict =>
      rw [Nat.zero_add]
      exact ⟨hdecisive.at_index, hdecisive.eligible.not_leftOut⟩
  · intro e hfailed
    rw [hfailed] at hend
    cases hend with
    | failed hdecisive hverdict =>
      exact ⟨_, _, hdecisive.at_index, hdecisive.eligible.not_leftOut, hverdict⟩

/-- A rule that asks for the taskbar with a pattern that cannot be read. -/
def listedRule : Rule := enabledRule "listed" { taskbarIndex := some "(" }

/-- A window that says where it is listed. -/
def listedWindow : Window := bareWindow.withTaskbar none (some ⟨5, by decide, by decide⟩) none

/-- Where the taskbar is unknown, a rule that asks for it is reported and does no harm in front of
the others, although its pattern cannot be read and the window says where it is listed. -/
theorem choice_behind_listedRule :
    (chooseRule listedWindow (listedRule :: editorRules) false PatternCache.empty).1 =
      .ok (some (3, editorRule)) ∧
    SameChoice (remainingFrom 0 (listedRule :: editorRules)) 0 (.ok (some (3, editorRule)))
      (chooseRule bareWindow editorRules true (PatternCache.empty.afterAll earlierQueries)).1 ∧
    Rule.taskbarDependent (listedRule :: editorRules) = ["listed"] ∧
    (listedRule :: editorRules)[3]? = some editorRule ∧ ¬ editorRule.LeftOut := by
  have hchosen : (chooseRule listedWindow (listedRule :: editorRules) false
      PatternCache.empty).1 = .ok (some (3, editorRule)) := rfl
  have hkept : ((listedRule :: editorRules).filter fun r => ¬ r.LeftOut) = editorRules := rfl
  obtain ⟨-, hsame, hnames, hnever, -⟩ := choice_without_taskbar listedWindow
    (listedRule :: editorRules) none none none [] [] earlierQueries
  rw [hkept] at hsame
  obtain ⟨hposition, hnot⟩ := hnever 3 editorRule hchosen
  exact ⟨hchosen, hchosen ▸ hsame, hnames.trans rfl, hposition, hnot⟩

end DeskPlan
