import DeskPlan.Proofs.Monitor.OneToOne
import Mathlib.Data.List.Perm.Basic

/-!
# `DeskPlan.Proofs.Monitor.Issues`: which issues the check notes, and in which order

The check goes through the names of a blueprint and then through the handles that they lead to. What
it must note is said here without the two passes: `OnlyMatch` counts the monitors that have a
fingerprint, `LeadsTo` follows a name to the handle of its only monitor, and `Noted` lists the
issues in three parts, each of which is in order and has exactly the members it should have.

* `noted_of`: the issues of the check are these;
* `Noted.nodup_about`: in such issues every name comes once at most;
* `of?_perm`: the check does not depend on the order of the monitors;
* `issues_exact`: all of it together, with what is kept for every name.
-/

set_option autoImplicit false

namespace DeskPlan

/-- The names that an issue is about. -/
def MonitorIssue.about : MonitorIssue → List String
  | empty => []
  | unmatched name => [name]
  | ambiguous name _ => [name]
  | aliased names _ => names

namespace MonitorCheck

/-! ### What is to be noted -/

/-- The monitor is the only one of the list that has the fingerprint. -/
structure OnlyMatch (monitors : List Monitor) (f : Fingerprint) (m : Monitor) : Prop where
  mem : m ∈ monitors
  fits : m.fits f = true
  alone : monitors.countP (·.fits f) = 1

/-- The name leads to the handle of the only monitor that has its fingerprint. -/
def LeadsTo (fingerprints : NameMap Fingerprint) (monitors : List Monitor) (name : String)
    (h : Word64) : Prop :=
  ∃ f m, fingerprints.get? name = some f ∧ OnlyMatch monitors f m ∧ m.handle = h

/-- The issues are those of an empty blueprint, of single names, and of names that share a monitor:

- `parts`: nothing else is noted, and in this order;
- `named_increasing`: the issues of single names are in the order of the names, one for each;
- `mem_named`: a name is unmatched if no monitor has its fingerprint, and ambiguous between all that
  have it if there are several;
- `groups_increasing`: the groups are in the order of the handles, one for each;
- `mem_groups`: a group has exactly the names that lead to its handle, in their order, and there
  are at least two of them. -/
structure Noted (fingerprints : NameMap Fingerprint) (monitors : List Monitor)
    (issues named : List MonitorIssue) (groups : List (Word64 × List String)) : Prop where
  parts : issues = (if fingerprints.names = [] then [.empty] else []) ++ named ++
    groups.map fun g => .aliased g.2 g.1
  named_increasing : (named.flatMap MonitorIssue.about).Pairwise (· < ·)
  mem_named : ∀ issue, issue ∈ named ↔ ∃ name f, fingerprints.get? name = some f ∧
    (monitors.countP (·.fits f) = 0 ∧ issue = .unmatched name ∨
      2 ≤ monitors.countP (·.fits f) ∧ issue = .ambiguous name (monitors.countP (·.fits f)))
  groups_increasing : groups.Pairwise fun g k => g.1.val < k.1.val
  mem_groups : ∀ h names, (h, names) ∈ groups ↔ 2 ≤ names.length ∧ names.Pairwise (· < ·) ∧
    ∀ name, name ∈ names ↔ LeadsTo fingerprints monitors name h

/-! ### Counting candidates -/

section
variable {monitors : List Monitor} {f : Fingerprint} {m : Monitor}

theorem length_candidates_eq_countP (monitors : List Monitor) (f : Fingerprint) :
    (candidates monitors f).length = monitors.countP (·.fits f) :=
  List.countP_eq_length_filter.symm

/-- A fingerprint stands for the monitor that is its only match. -/
theorem resolve_eq_some_iff_onlyMatch :
    resolve (candidates monitors f) = some m ↔ OnlyMatch monitors f m := by
  rw [resolve_eq_some_iff]
  constructor
  · intro h
    have hm : m ∈ candidates monitors f := by rw [h]; exact List.mem_singleton_self m
    obtain ⟨hmem, hfits⟩ := List.mem_filter.1 hm
    refine ⟨hmem, hfits, ?_⟩
    rw [← length_candidates_eq_countP, h]
    rfl
  · intro h
    obtain ⟨n, hn⟩ := List.length_eq_one_iff.1
      ((length_candidates_eq_countP monitors f).trans h.alone)
    have hm : m ∈ candidates monitors f := List.mem_filter.2 ⟨h.mem, h.fits⟩
    rw [hn, List.mem_singleton] at hm
    rw [hn, hm]

/-- Some monitor is the only match exactly when one monitor of the list has the fingerprint. -/
theorem isSome_resolve_iff :
    (resolve (candidates monitors f)).isSome ↔ monitors.countP (·.fits f) = 1 := by
  rw [Option.isSome_iff_exists]
  constructor
  · rintro ⟨m, hm⟩
    exact (resolve_eq_some_iff_onlyMatch.1 hm).alone
  · intro h
    obtain ⟨m, hm⟩ := List.length_eq_one_iff.1 ((length_candidates_eq_countP monitors f).trans h)
    exact ⟨m, resolve_eq_some_iff.2 hm⟩

/-- The issue of a name depends on how many monitors have its fingerprint. -/
theorem nameIssue_eq_some_iff_countP {name : String} {issue : MonitorIssue} :
    nameIssue name (candidates monitors f) = some issue ↔
      monitors.countP (·.fits f) = 0 ∧ issue = .unmatched name ∨
      2 ≤ monitors.countP (·.fits f) ∧ issue = .ambiguous name (monitors.countP (·.fits f)) := by
  rw [nameIssue_eq_some_iff, ← List.length_eq_zero_iff, length_candidates_eq_countP]
  exact Iff.rfl

/-- An issue of a name is about that name. -/
theorem about_of_nameIssue {name : String} {issue : MonitorIssue}
    (h : nameIssue name (candidates monitors f) = some issue) : issue.about = [name] := by
  rcases nameIssue_eq_some_iff.1 h with ⟨-, rfl⟩ | ⟨-, rfl⟩ <;> rfl

end

/-! ### Single names -/

/-- The issues of the entries are about some of their names, in the same order. -/
theorem about_nameIssues (monitors : List Monitor) (entries : List (String × Fingerprint)) :
    List.Sublist
      ((entries.filterMap fun e => nameIssue e.1 (candidates monitors e.2)).flatMap
        MonitorIssue.about)
      (entries.map Prod.fst) := by
  induction entries with
  | nil => exact List.Sublist.slnil
  | cons e rest ih =>
    rw [List.filterMap_cons, List.map_cons]
    cases hissue : nameIssue e.1 (candidates monitors e.2) with
    | none => exact ih.cons e.1
    | some issue =>
      rw [List.flatMap_cons, about_of_nameIssue hissue]
      exact ih.cons_cons e.1

/-! ### Groups -/

/-- A handle that is put in its place keeps the order. -/
theorem increasing_insertHandle (h : Word64) {ks : List Word64}
    (hks : ks.Pairwise fun a b => a.val < b.val) :
    (insertHandle h ks).Pairwise fun a b => a.val < b.val := by
  induction ks with
  | nil => exact List.pairwise_singleton _ h
  | cons k ks ih =>
    obtain ⟨hk, hrest⟩ := List.pairwise_cons.1 hks
    rw [insertHandle]
    split
    · rename_i hlt
      refine List.pairwise_cons.2 ⟨fun l hl => ?_, hks⟩
      rcases List.mem_cons.1 hl with rfl | hl
      · exact hlt
      · exact Int.lt_trans hlt (hk l hl)
    · split
      · exact hks
      · refine List.pairwise_cons.2 ⟨fun l hl => ?_, ih hrest⟩
        rcases (mem_insertHandle ks).1 hl with rfl | hl
        · omega
        · exact hk l hl

/-- The distinct handles of a list are in increasing order. -/
theorem increasing_distinctHandles (hs : List Word64) :
    (distinctHandles hs).Pairwise fun a b => a.val < b.val := by
  induction hs with
  | nil => exact List.Pairwise.nil
  | cons h hs ih => exact increasing_insertHandle h ih

/-- The names that share a handle, for every handle that several names share. -/
def groupsOf (mapping : MonitorAssignment) : List (Word64 × List String) :=
  (distinctHandles (mapping.entries.map fun e => e.2.handle)).filterMap fun h =>
    if 1 < (namesOf mapping h).length then some (h, namesOf mapping h) else none

section
variable (mapping : MonitorAssignment)

/-- One issue is noted for every group. -/
theorem aliasIssues_eq :
    aliasIssues mapping = (groupsOf mapping).map fun g => .aliased g.2 g.1 := by
  rw [aliasIssues, groupsOf, List.map_filterMap]
  refine List.filterMap_congr fun h _ => ?_
  dsimp only
  split <;> rfl

theorem groupsOf_increasing : (groupsOf mapping).Pairwise fun g k => g.1.val < k.1.val := by
  refine List.Pairwise.filterMap _ ?_ (increasing_distinctHandles _)
  intro h k hlt g hg l hl
  split at hg <;> cases hg
  split at hl <;> cases hl
  exact hlt

/-- The names of a group are in increasing order, as they are in the mapping. -/
theorem namesOf_increasing (h : Word64) : (namesOf mapping h).Pairwise (· < ·) :=
  List.pairwise_map.2 (mapping.sorted.filter _)

theorem mem_namesOf {name : String} {h : Word64} :
    name ∈ namesOf mapping h ↔ ∃ m, mapping.get? name = some m ∧ m.handle = h := by
  rw [namesOf, List.mem_map]
  constructor
  · rintro ⟨⟨k, m⟩, he, rfl⟩
    obtain ⟨hmem, hhandle⟩ := List.mem_filter.1 he
    exact ⟨m, (mapping.mem_entries_iff k m).1 hmem, of_decide_eq_true hhandle⟩
  · rintro ⟨m, hm, hhandle⟩
    exact ⟨(name, m), List.mem_filter.2 ⟨(mapping.mem_entries_iff name m).2 hm,
      decide_eq_true hhandle⟩, rfl⟩

/-- A handle with several names is in a group, and only with these names. -/
theorem mem_groupsOf {h : Word64} {names : List String} :
    (h, names) ∈ groupsOf mapping ↔ 2 ≤ names.length ∧ names = namesOf mapping h := by
  rw [groupsOf, List.mem_filterMap]
  constructor
  · rintro ⟨k, -, hk⟩
    split at hk <;> cases hk
    rename_i hlength
    exact ⟨hlength, rfl⟩
  · rintro ⟨hlength, rfl⟩
    refine ⟨h, (mem_distinctHandles _).2 ?_, if_pos hlength⟩
    -- One of the names is enough to find the handle among those of the entries.
    obtain ⟨name, hname⟩ :=
      List.exists_mem_of_length_pos (Nat.lt_of_lt_of_le Nat.zero_lt_two hlength)
    obtain ⟨m, hm, rfl⟩ := (mem_namesOf mapping).1 hname
    exact List.mem_map.2 ⟨(name, m), (mapping.mem_entries_iff name m).2 hm, rfl⟩

/-- Increasing names are those of a handle when they have the same members. -/
theorem eq_namesOf_iff {h : Word64} {names : List String} :
    names = namesOf mapping h ↔ names.Pairwise (· < ·) ∧
      ∀ name, name ∈ names ↔ ∃ m, mapping.get? name = some m ∧ m.handle = h := by
  constructor
  · rintro rfl
    exact ⟨namesOf_increasing mapping h, fun _ => mem_namesOf mapping⟩
  · rintro ⟨hsorted, hmem⟩
    have hperm : names.Perm (namesOf mapping h) :=
      (List.perm_ext_iff_of_nodup (NameMap.nodup_of_increasing hsorted)
        (NameMap.nodup_of_increasing (namesOf_increasing mapping h))).2
        fun name => (hmem name).trans (mem_namesOf mapping).symm
    exact hperm.eq_of_pairwise (fun a b _ _ hab hba => absurd hba (String.lt_asymm hab)) hsorted
      (namesOf_increasing mapping h)

end

/-- A name leads to a handle when that is the handle of the monitor kept for it. -/
theorem leadsTo_iff {fingerprints : NameMap Fingerprint} {monitors : List Monitor} {name : String}
    {h : Word64} :
    LeadsTo fingerprints monitors name h ↔
      ∃ m, (resolved (of fingerprints monitors).entries).get? name = some m ∧ m.handle = h := by
  simp only [get?_resolved, Option.bind_eq_some_iff, resolve_eq_some_iff_onlyMatch]
  constructor
  · rintro ⟨f, m, hf, hm, hh⟩
    exact ⟨m, ⟨f, hf, hm⟩, hh⟩
  · rintro ⟨m, ⟨f, hf, hm⟩, hh⟩
    exact ⟨f, m, hf, hm, hh⟩

/-! ### The issues of the check -/

/-- The check notes what is to be noted. -/
theorem noted_of (fingerprints : NameMap Fingerprint) (monitors : List Monitor) :
    Noted fingerprints monitors (of fingerprints monitors).issues
      (fingerprints.entries.filterMap fun e => nameIssue e.1 (candidates monitors e.2))
      (groupsOf (resolved (of fingerprints monitors).entries)) where
  parts := by
    rw [← aliasIssues_eq, issues_of]
    simp only [NameMap.isEmpty_iff]
  named_increasing :=
    (List.pairwise_map.2 fingerprints.sorted).sublist (about_nameIssues monitors _)
  mem_named issue := by
    rw [List.mem_filterMap]
    constructor
    · rintro ⟨⟨name, f⟩, he, hissue⟩
      exact ⟨name, f, (fingerprints.mem_entries_iff name f).1 he,
        nameIssue_eq_some_iff_countP.1 hissue⟩
    · rintro ⟨name, f, hf, hissue⟩
      exact ⟨(name, f), (fingerprints.mem_entries_iff name f).2 hf,
        nameIssue_eq_some_iff_countP.2 hissue⟩
  groups_increasing := groupsOf_increasing _
  mem_groups h names := by
    rw [mem_groupsOf, eq_namesOf_iff]
    simp only [leadsTo_iff]

section
variable {fingerprints : NameMap Fingerprint} {monitors : List Monitor}
  {issues named : List MonitorIssue} {groups : List (Word64 × List String)}

/-- A name leads to one handle. -/
theorem LeadsTo.unique {name : String} {h k : Word64} (hh : LeadsTo fingerprints monitors name h)
    (hk : LeadsTo fingerprints monitors name k) : h = k := by
  obtain ⟨m, hm, rfl⟩ := leadsTo_iff.1 hh
  obtain ⟨n, hn, rfl⟩ := leadsTo_iff.1 hk
  rw [Option.some.inj (hm.symm.trans hn)]

/-- A name that has an issue of its own leads to no handle. -/
theorem Noted.not_leadsTo (hnoted : Noted fingerprints monitors issues named groups) {name : String}
    (hname : name ∈ named.flatMap MonitorIssue.about) (h : Word64) :
    ¬ LeadsTo fingerprints monitors name h := by
  obtain ⟨issue, hissue, habout⟩ := List.mem_flatMap.1 hname
  obtain ⟨name', f, hf, hcase⟩ := (hnoted.mem_named issue).1 hissue
  have hsame : name = name' := by
    rcases hcase with ⟨-, rfl⟩ | ⟨-, rfl⟩ <;> exact List.mem_singleton.1 habout
  subst hsame
  rintro ⟨f', m, hf', hm, -⟩
  obtain rfl := Option.some.inj (hf.symm.trans hf')
  have halone := hm.alone
  omega

/-- Every name comes in one issue at most, and once in it. -/
theorem Noted.nodup_about (hnoted : Noted fingerprints monitors issues named groups) :
    (issues.flatMap MonitorIssue.about).Nodup := by
  have hempty : ((if fingerprints.names = [] then [MonitorIssue.empty] else []).flatMap
      MonitorIssue.about) = [] := by
    split <;> rfl
  have hgroups : ((groups.map fun g => MonitorIssue.aliased g.2 g.1).flatMap MonitorIssue.about) =
      groups.flatMap Prod.snd := List.flatMap_map ..
  rw [hnoted.parts, List.flatMap_append, List.flatMap_append, hempty, List.nil_append, hgroups]
  refine List.nodup_append.2 ⟨NameMap.nodup_of_increasing hnoted.named_increasing, ?_, ?_⟩
  · refine List.nodup_flatMap.2 ⟨fun g hg => ?_, ?_⟩
    · exact NameMap.nodup_of_increasing ((hnoted.mem_groups g.1 g.2).1 hg).2.1
    -- A name in two groups would lead to two handles.
    · refine hnoted.groups_increasing.imp_of_mem fun {g k} hg hk hlt name hname₁ hname₂ => ?_
      have h₁ := (((hnoted.mem_groups g.1 g.2).1 hg).2.2 name).1 hname₁
      have h₂ := (((hnoted.mem_groups k.1 k.2).1 hk).2.2 name).1 hname₂
      rw [h₁.unique h₂] at hlt
      exact Int.lt_irrefl _ hlt
  · rintro a ha b hb rfl
    obtain ⟨g, hg, hmem⟩ := List.mem_flatMap.1 hb
    exact hnoted.not_leadsTo ha g.1 ((((hnoted.mem_groups g.1 g.2).1 hg).2.2 a).1 hmem)

end

/-! ### The order of the monitors -/

section
variable {monitors monitors' : List Monitor} (hperm : monitors.Perm monitors')
include hperm

theorem OnlyMatch.perm {f : Fingerprint} {m : Monitor} (h : OnlyMatch monitors f m) :
    OnlyMatch monitors' f m :=
  ⟨hperm.mem_iff.1 h.mem, h.fits, (hperm.countP_eq _).symm.trans h.alone⟩

theorem resolve_perm (f : Fingerprint) :
    resolve (candidates monitors f) = resolve (candidates monitors' f) := by
  apply Option.ext
  intro m
  rw [resolve_eq_some_iff_onlyMatch, resolve_eq_some_iff_onlyMatch]
  exact ⟨OnlyMatch.perm hperm, OnlyMatch.perm hperm.symm⟩

theorem nameIssue_perm (name : String) (f : Fingerprint) :
    nameIssue name (candidates monitors f) = nameIssue name (candidates monitors' f) := by
  apply Option.ext
  intro issue
  rw [nameIssue_eq_some_iff_countP, nameIssue_eq_some_iff_countP, hperm.countP_eq]

/-- The check over the integers does not depend on the order of the monitors. -/
theorem of_perm (fingerprints : NameMap Fingerprint) :
    of fingerprints monitors = of fingerprints monitors' := by
  have hentries : (of fingerprints monitors).entries = (of fingerprints monitors').entries := by
    simp only [entries_of, resolve_perm hperm]
  have hissues : (of fingerprints monitors).issues = (of fingerprints monitors').issues := by
    rw [issues_of, issues_of, hentries]
    simp only [nameIssue_perm hperm]
  calc of fingerprints monitors
      = ⟨(of fingerprints monitors).entries, (of fingerprints monitors).issues⟩ := rfl
    _ = of fingerprints monitors' := by rw [hentries, hissues]

/-- Neither does whether every comparison gives an answer, and so the check does not. -/
theorem of?_perm (fingerprints : NameMap Fingerprint) :
    of? fingerprints monitors = of? fingerprints monitors' := by
  apply Option.ext
  intro c
  have hcompares : Compares fingerprints monitors ↔ Compares fingerprints monitors' := by
    simp only [Compares, hperm.mem_iff]
  rw [of?_eq_some_iff, of?_eq_some_iff, hcompares, of_perm hperm]

end

/-! ### The main statement -/

/-- The check notes exactly the issues there are, in order, and each name comes in one of them at
most. It has an entry for every name of the blueprint and no other, with a monitor exactly when one
monitor of the list has the fingerprint of the name, and then with that one. None of this depends on
the order of the monitors. The check of monitors whose extents are coordinates gives an outcome. -/
theorem issues_exact (fingerprints : NameMap Fingerprint) (monitors : List Monitor) :
    (∀ c, of? fingerprints monitors = some c →
      (∃ named groups, Noted fingerprints monitors c.issues named groups) ∧
      (c.issues.flatMap MonitorIssue.about).Nodup ∧
      c.entries.names = fingerprints.names ∧
      ∀ name f, fingerprints.get? name = some f →
        ∃ found, c.entries.get? name = some found ∧
          (found.isSome ↔ monitors.countP (·.fits f) = 1) ∧
          ∀ m, found = some m ↔ OnlyMatch monitors f m) ∧
    (∀ monitors', monitors.Perm monitors' →
      of? fingerprints monitors' = of? fingerprints monitors) ∧
    ((∀ m ∈ monitors, m.monitorRect.Measurable) → ∃ c, of? fingerprints monitors = some c) := by
  refine ⟨?_, fun monitors' hperm => (of?_perm hperm fingerprints).symm,
    fun hmeasurable => ⟨_, of?_of_measurable fingerprints hmeasurable⟩⟩
  intro c hc
  obtain ⟨-, rfl⟩ := of?_eq_some_iff.1 hc
  have hnoted := noted_of fingerprints monitors
  refine ⟨⟨_, _, hnoted⟩, hnoted.nodup_about, ?_, ?_⟩
  · rw [entries_of, NameMap.names_map]
  · intro name f hf
    refine ⟨resolve (candidates monitors f), ?_, isSome_resolve_iff,
      fun m => resolve_eq_some_iff_onlyMatch⟩
    rw [entries_of, NameMap.get?_map, hf]
    rfl

/-- Names for the screens of the desk with every kind of mistake: a screen that is not there, two
names for the main screen, and the fingerprint of the mirrored pair. -/
def muddledNames : NameMap Fingerprint :=
  ⟨[("Gone", fullPrint (.of 9000)), ("Left", fullPrint (.of (-1920))), ("Main", fullPrint .zero),
    ("Right", fullPrint (.of 1920)), ("Spare", fullPrint .zero)], by decide⟩

/-- The muddled names get an issue each, the left screen apart. The screens in another order get the
same. -/
theorem issues_of_muddledNames :
    deskScreens.Perm deskScreens.reverse ∧
    ∃ c, of? muddledNames deskScreens = some c ∧
      c.issues = [.unmatched "Gone", .ambiguous "Right" 2, .aliased ["Main", "Spare"] (.of 2)] ∧
      (∃ named groups, Noted muddledNames deskScreens c.issues named groups) ∧
      (muddledNames.get? "Left" = some (fullPrint (.of (-1920))) ∧
        ∃ found, c.entries.get? "Left" = some found ∧
          ∀ m, found = some m ↔ OnlyMatch deskScreens (fullPrint (.of (-1920))) m) ∧
      of? muddledNames deskScreens.reverse = some c := by
  obtain ⟨hexact, hperm, hsome⟩ := issues_exact muddledNames deskScreens
  obtain ⟨c, hc⟩ := hsome (by decide)
  obtain ⟨hnoted, -, -, hentries⟩ := hexact c hc
  have hissues : (of? muddledNames deskScreens).map issues =
      some [.unmatched "Gone", .ambiguous "Right" 2, .aliased ["Main", "Spare"] (.of 2)] := by
    decide
  rw [hc, Option.map_some] at hissues
  have hleft : muddledNames.get? "Left" = some (fullPrint (.of (-1920))) := by decide
  have hreverse : deskScreens.Perm deskScreens.reverse := deskScreens.reverse_perm.symm
  obtain ⟨found, hfound, -, honly⟩ := hentries "Left" _ hleft
  exact ⟨hreverse, c, hc, Option.some.inj hissues, hnoted, ⟨hleft, found, hfound, honly⟩,
    (hperm _ hreverse).trans hc⟩

end MonitorCheck

end DeskPlan
