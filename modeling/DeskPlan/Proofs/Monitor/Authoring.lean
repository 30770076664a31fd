import DeskPlan.Proofs.Document
import DeskPlan.Proofs.Monitor.OneToOne

/-!
# `DeskPlan.Proofs.Monitor.Authoring`: naming the monitors that are listed

A list of monitors shows the fingerprint of each as a document on one line. Whoever writes a
blueprint copies these documents and gives each a name. `authored?` is what the blueprint then
says: every name has the fingerprint that the document is read as.

* `authored?_eq`: every document is read, and as the fingerprint it shows;
* `length_candidates` counts who shares a fingerprint;
* `check_of_authored`: the check of the blueprint on these monitors notes nothing exactly when no
  two of them share a fingerprint. Then every name stands for the monitor it was given to.
  Otherwise exactly the names of monitors that share a fingerprint are ambiguous, each with the
  number of those that share it, and nothing else is noted.
-/

set_option autoImplicit false

namespace DeskPlan.MonitorCheck

/-- What the document of a monitor's fingerprint is read as. -/
def listed? (m : Monitor) : Checked (Except Json.DecodeError Fingerprint) :=
  m.fingerprint?.map fun f => Json.decodeText Fingerprint.decode f.toJson.compact

/-- The fingerprints of a blueprint that names every monitor after its listed document. -/
def authored? (nameOf : Monitor → String) (monitors : List Monitor) :
    Checked (Except Json.DecodeError (NameMap Fingerprint)) :=
  (Checked.tagged listed? monitors).map fun documents => do
    let pairs ← documents.mapM fun d => do
      let f ← d.2
      return (nameOf d.1, f)
    return .ofList pairs

/-! ### What is authored -/

section
variable {nameOf : Monitor → String} {monitors : List Monitor} {print : Monitor → Fingerprint}
  (hprint : ∀ m ∈ monitors, m.fingerprint? = some (print m))
include hprint

/-- The names with the fingerprints of the monitors they are given to. -/
def givenPairs (nameOf : Monitor → String) (print : Monitor → Fingerprint)
    (monitors : List Monitor) : List (String × Fingerprint) :=
  monitors.map fun m => (nameOf m, print m)

/-- Every listed document is read as the fingerprint it shows. -/
theorem authored?_eq :
    authored? nameOf monitors = some (.ok (.ofList (givenPairs nameOf print monitors))) := by
  have hlisted : ∀ m ∈ monitors, listed? m = some (.ok (print m)) := by
    intro m hm
    rw [listed?, hprint m hm]
    exact congrArg some (print m).recovers.compact
  have hpairs : ((monitors.map fun m => (m, Except.ok (print m))).mapM fun d => do
      let f ← d.2
      return (nameOf d.1, f)) =
      (.ok (givenPairs nameOf print monitors) : Except Json.DecodeError _) := by
    clear hprint hlisted
    induction monitors with
    | nil => rfl
    | cons m ms ih =>
      rw [List.map_cons, List.mapM_cons, ih]
      rfl
  rw [authored?, Checked.tagged_of_forall hlisted, Option.map_some, hpairs]
  rfl

/-! ### Sharing a fingerprint -/

/-- Monitors have the fingerprints they were listed with. -/
theorem fits_iff_print {m : Monitor} (hm : m ∈ monitors) (f : Fingerprint) :
    m.fits f = true ↔ print m = f := by
  rw [Monitor.fits_iff, ← Monitor.fingerprint?_eq_some_iff, hprint m hm, Option.some.injEq]

/-- A fingerprint has as many candidates as monitors that have it. -/
theorem length_candidates (f : Fingerprint) :
    (candidates monitors f).length = (monitors.map Monitor.fingerprint?).count (some f) := by
  rw [candidates, ← List.countP_eq_length_filter, List.count_eq_countP, List.countP_map]
  refine List.countP_congr fun m hm => ?_
  rw [fits_iff_print hprint hm, Function.comp_apply, hprint m hm, beq_iff_eq, Option.some.injEq]

end

/-- The number of monitors that have the fingerprint of a monitor, itself included. -/
def sharers (monitors : List Monitor) (m : Monitor) : Nat :=
  (monitors.map Monitor.fingerprint?).count m.fingerprint?

/-- No two monitors share a fingerprint exactly when each is the only one that has its own. -/
theorem nodup_fingerprints_iff (monitors : List Monitor) :
    (monitors.map Monitor.fingerprint?).Nodup ↔ ∀ m ∈ monitors, ¬ 1 < sharers monitors m := by
  rw [List.nodup_iff_count]
  constructor
  · intro h m _
    have := h m.fingerprint?
    rw [sharers]
    omega
  · intro h f
    by_cases hf : f ∈ monitors.map Monitor.fingerprint?
    · obtain ⟨m, hm, rfl⟩ := List.mem_map.1 hf
      have := h m hm
      rw [sharers] at this
      omega
    · rw [List.count_eq_zero.2 hf]
      omega

/-! ### The check of what was authored -/

section
variable {nameOf : Monitor → String} {monitors : List Monitor} {print : Monitor → Fingerprint}
  (hnames : (monitors.map nameOf).Nodup)
  (hprint : ∀ m ∈ monitors, m.fingerprint? = some (print m))

section
include hnames

/-- A name has a fingerprint exactly when it was given to a monitor that has it. -/
theorem get?_givenPairs (name : String) (f : Fingerprint) :
    (NameMap.ofList (givenPairs nameOf print monitors)).get? name = some f ↔
      ∃ m ∈ monitors, nameOf m = name ∧ print m = f := by
  have hnodup : ((givenPairs nameOf print monitors).map Prod.fst).Nodup := by
    rw [givenPairs, List.map_map]
    exact hnames
  rw [← NameMap.mem_entries_iff, NameMap.mem_entries_ofList hnodup, givenPairs, List.mem_map]
  simp only [Prod.mk.injEq]

end

section
include hprint

/-- A monitor is a candidate for its own fingerprint. -/
theorem mem_candidates_self {m : Monitor} (hm : m ∈ monitors) :
    m ∈ candidates monitors (print m) :=
  List.mem_filter.2 ⟨hm, (fits_iff_print hprint hm _).2 rfl⟩

/-- A fingerprint that a monitor has stands, if for any, for that monitor. -/
theorem eq_of_resolve {m n : Monitor} (hm : m ∈ monitors)
    (h : resolve (candidates monitors (print m)) = some n) : n = m := by
  have hmem := mem_candidates_self hprint hm
  rw [resolve_eq_some_iff.1 h] at hmem
  exact (List.mem_singleton.1 hmem).symm

/-- The candidates for the fingerprint of a monitor are those that share it. -/
theorem length_candidates_self {m : Monitor} (hm : m ∈ monitors) :
    (candidates monitors (print m)).length = sharers monitors m := by
  rw [length_candidates hprint, sharers, hprint m hm]

end

include hnames hprint

/-- What is kept at a name is the monitor it was given to, if no other shares its fingerprint. -/
theorem get?_resolved_authored (name : String) (m : Monitor) :
    (resolved (of (.ofList (givenPairs nameOf print monitors)) monitors).entries).get? name =
        some m ↔
      m ∈ monitors ∧ nameOf m = name ∧ ¬ 1 < sharers monitors m := by
  rw [get?_resolved, Option.bind_eq_some_iff]
  constructor
  · rintro ⟨f, hf, hresolve⟩
    obtain ⟨n, hn, hname, rfl⟩ := (get?_givenPairs hnames name f).1 hf
    obtain rfl := eq_of_resolve hprint hn hresolve
    refine ⟨hn, hname, ?_⟩
    rw [← length_candidates_self hprint hn, resolve_eq_some_iff.1 hresolve]
    simp
  · rintro ⟨hm, hname, halone⟩
    refine ⟨print m, (get?_givenPairs hnames name _).2 ⟨m, hm, hname, rfl⟩, ?_⟩
    have hmem := mem_candidates_self hprint hm
    rw [← length_candidates_self hprint hm] at halone
    rw [resolve_eq_some_iff]
    match hcandidates : candidates monitors (print m) with
    | [] => rw [hcandidates] at hmem; cases hmem
    | [n] => rw [hcandidates] at hmem; rw [List.mem_singleton.1 hmem]
    | _ :: _ :: _ => rw [hcandidates] at halone; simp at halone

/-- The issues of what was authored are the ambiguous names, if the monitors have handles of their
own. -/
theorem mem_issues_authored (hne : monitors ≠ []) (hhandles : (monitors.map (·.handle)).Nodup)
    (issue : MonitorIssue) :
    issue ∈ (of (.ofList (givenPairs nameOf print monitors)) monitors).issues ↔
      ∃ m ∈ monitors, 1 < sharers monitors m ∧
        issue = .ambiguous (nameOf m) (sharers monitors m) := by
  let fingerprints := NameMap.ofList (givenPairs nameOf print monitors)
  -- The names are there, so the check does not stop at an empty blueprint.
  have hnamed : fingerprints.isEmpty = false := by
    obtain ⟨m, hm⟩ := List.exists_mem_of_ne_nil monitors hne
    have hmem : nameOf m ∈ fingerprints.names :=
      (fingerprints.mem_names_iff _).2 ⟨_, (get?_givenPairs hnames _ _).2 ⟨m, hm, rfl, rfl⟩⟩
    rw [Bool.eq_false_iff, Ne, fingerprints.isEmpty_iff]
    exact List.ne_nil_of_mem hmem
  -- Different names are kept for different monitors, and these have different handles.
  have halias : aliasIssues (resolved (of fingerprints monitors).entries) = [] := by
    rw [aliasIssues_eq_nil_iff, handles_nodup_iff]
    intro name₁ name₂ m₁ m₂ h₁ h₂ hne hhandle
    obtain ⟨hm₁, hname₁, -⟩ := (get?_resolved_authored hnames hprint name₁ m₁).1 h₁
    obtain ⟨hm₂, hname₂, -⟩ := (get?_resolved_authored hnames hprint name₂ m₂).1 h₂
    have hsame : m₁ = m₂ := List.inj_on_of_nodup_map hhandles hm₁ hm₂ hhandle
    exact hne (hname₁.symm.trans ((congrArg nameOf hsame).trans hname₂))
  show issue ∈ (of fingerprints monitors).issues ↔ _
  rw [issues_of, hnamed, halias, List.append_nil, if_neg Bool.false_ne_true, List.nil_append,
    List.mem_filterMap]
  constructor
  · rintro ⟨⟨name, f⟩, he, hissue⟩
    obtain ⟨m, hm, rfl, rfl⟩ := (get?_givenPairs hnames name f).1
      ((fingerprints.mem_entries_iff name f).1 he)
    rcases nameIssue_eq_some_iff.1 hissue with ⟨hnone, -⟩ | ⟨hmany, rfl⟩
    · exact absurd (mem_candidates_self hprint hm) (hnone ▸ List.not_mem_nil)
    · rw [length_candidates_self hprint hm] at hmany ⊢
      exact ⟨m, hm, hmany, rfl⟩
  · rintro ⟨m, hm, hmany, rfl⟩
    refine ⟨(nameOf m, print m), (fingerprints.mem_entries_iff _ _).2
      ((get?_givenPairs hnames _ _).2 ⟨m, hm, rfl, rfl⟩), nameIssue_eq_some_iff.2 (.inr ?_)⟩
    rw [length_candidates_self hprint hm]
    exact ⟨hmany, rfl⟩

/-- What was authored is valid exactly when no two monitors share a fingerprint. -/
theorem valid_authored_iff (hne : monitors ≠ []) (hhandles : (monitors.map (·.handle)).Nodup) :
    (of (.ofList (givenPairs nameOf print monitors)) monitors).valid = true ↔
      (monitors.map Monitor.fingerprint?).Nodup := by
  rw [valid, List.isEmpty_iff, List.eq_nil_iff_forall_not_mem, nodup_fingerprints_iff]
  simp only [mem_issues_authored hnames hprint hne hhandles]
  constructor
  · intro h m hm hmany
    exact h _ ⟨m, hm, hmany, rfl⟩
  · rintro h issue ⟨m, hm, hmany, -⟩
    exact h m hm hmany

end

/-- Give every monitor of a list a name of its own, and copy the fingerprint it is listed with. The
documents are read, each as the true numbers of its monitor. The check of the names on the list is
valid exactly when no two monitors share a fingerprint, and then the mapping has every name at the
monitor it was given to and no other. The issues are exactly the ambiguous names: those of monitors
that share a fingerprint, each with the number of those that share it. -/
theorem check_of_authored {nameOf : Monitor → String} {monitors : List Monitor}
    (hne : monitors ≠ []) (hhandles : (monitors.map (·.handle)).Nodup)
    (hmeasurable : ∀ m ∈ monitors, m.monitorRect.Measurable)
    (hnames : (monitors.map nameOf).Nodup) :
    ∃ fingerprints c, authored? nameOf monitors = some (.ok fingerprints) ∧
      of? fingerprints monitors = some c ∧
      (∀ name f, fingerprints.get? name = some f →
        ∃ m ∈ monitors, nameOf m = name ∧ m.HasFingerprint f) ∧
      (∀ m ∈ monitors, nameOf m ∈ fingerprints.names) ∧
      (c.valid = true ↔ (monitors.map Monitor.fingerprint?).Nodup) ∧
      (c.valid = true →
        ∃ a, c.mapping = .ok a ∧ ∀ name m, a.get? name = some m ↔ m ∈ monitors ∧ nameOf m = name) ∧
      ∀ issue, issue ∈ c.issues ↔
        ∃ m ∈ monitors, 1 < sharers monitors m ∧
          issue = .ambiguous (nameOf m) (sharers monitors m) := by
  -- Every monitor of the list is shown with a fingerprint.
  have hshown : ∀ m, ∃ f, m ∈ monitors → m.fingerprint? = some f := fun m => by
    by_cases hm : m ∈ monitors
    · obtain ⟨f, hf⟩ := Monitor.exists_fingerprint? (hmeasurable m hm)
      exact ⟨f, fun _ => hf⟩
    · exact ⟨⟨.zero, .zero, .zero, .zero, .of 0, .of 0⟩, fun h => absurd h hm⟩
  obtain ⟨print, hprint⟩ := Classical.axiomOfChoice hshown
  refine ⟨_, _, authored?_eq hprint, of?_of_measurable _ hmeasurable, ?_, ?_, ?_, ?_,
    mem_issues_authored hnames hprint hne hhandles⟩
  · intro name f hf
    obtain ⟨m, hm, hname, rfl⟩ := (get?_givenPairs hnames name f).1 hf
    exact ⟨m, hm, hname, Monitor.fingerprint?_eq_some_iff.1 (hprint m hm)⟩
  · intro m hm
    exact (NameMap.mem_names_iff _ _).2 ⟨_, (get?_givenPairs hnames _ _).2 ⟨m, hm, rfl, rfl⟩⟩
  · exact valid_authored_iff hnames hprint hne hhandles
  · intro hvalid
    have halone := (nodup_fingerprints_iff monitors).1
      ((valid_authored_iff hnames hprint hne hhandles).1 hvalid)
    refine ⟨_, mapping_eq_ok_iff.2 ⟨List.isEmpty_iff.1 hvalid, rfl⟩, fun name m => ?_⟩
    rw [get?_resolved_authored hnames hprint]
    exact ⟨fun h => ⟨h.1, h.2.1⟩, fun h => ⟨h.1, h.2, halone m h.1⟩⟩

/-- The names that the screens of the desk are given: their handles. -/
def nameByHandle (m : Monitor) : String := handleText m.handle

/-- Of the four screens of the desk the two plain ones can be named after their fingerprints. Once
the mirrored pair is named too, the check is refused, and the names of the pair are ambiguous
between two screens. -/
theorem authored_deskScreens :
    (∃ fingerprints c, authored? nameByHandle (deskScreens.take 2) = some (.ok fingerprints) ∧
      of? fingerprints (deskScreens.take 2) = some c ∧ c.valid = true) ∧
    ∃ fingerprints c, authored? nameByHandle deskScreens = some (.ok fingerprints) ∧
      of? fingerprints deskScreens = some c ∧ c.valid = false ∧
      .ambiguous "0000000000000003" 2 ∈ c.issues ∧
      ∀ count, .ambiguous "0000000000000001" count ∉ c.issues := by
  have hmeasurable : ∀ m ∈ deskScreens, m.monitorRect.Measurable := by decide
  obtain ⟨plain, check, hplain, hcheck, -, -, hvalid, -, -⟩ := @check_of_authored nameByHandle
    (deskScreens.take 2) (by decide) (by decide)
    (fun m hm => hmeasurable m (List.mem_of_mem_take hm)) (by decide +kernel)
  obtain ⟨all, checkAll, hall, hcheckAll, -, -, hvalidAll, -, hissues⟩ :=
    @check_of_authored nameByHandle deskScreens (by decide) (by decide) hmeasurable
      (by decide +kernel)
  refine ⟨⟨plain, check, hplain, hcheck, hvalid.2 (by decide)⟩, all, checkAll, hall, hcheckAll,
    ?_, ?_, ?_⟩
  · rw [Bool.eq_false_iff, Ne, hvalidAll]
    decide
  · exact (hissues _).2 ⟨fullScreen (.of 3) (.of 1920) (.of 3840), by decide, by decide,
      by decide +kernel⟩
  · intro count h
    obtain ⟨m, hm, hmany, hissue⟩ := (hissues _).1 h
    have hother : ∀ m ∈ deskScreens, 1 < sharers deskScreens m →
        "0000000000000001" ≠ nameByHandle m := by decide +kernel
    injection hissue with hname
    exact hother m hm hmany hname

end DeskPlan.MonitorCheck
