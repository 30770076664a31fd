import DeskPlan.Proofs.Monitor.Comparison
import Mathlib.Data.List.Nodup

/-!
# `DeskPlan.Proofs.Monitor.OneToOne`: the check accepts exactly the one-to-one configurations

`MonitorCheck.of?` finds the candidates of every name, keeps a name that has a single candidate,
and then groups the kept names by the handles of their monitors. `MonitorCheck.mapping` gives
the kept names when no issue was noted, and drops the others without a word. So that the
mapping is complete rests on the issues being exhaustive.

The specification side does not mention candidates, issues or groups:

* `StandsFor`: a monitor is the one element of a list with a fingerprint. An element that is
  there twice stands for nothing;
* `OneToOne`: there is a name, every name has a monitor that stands for it, and monitors of
  different names have different handles.

The two passes of the check are settled apart. `nameIssue_eq_none_iff` is the first one, and
`aliasIssues_eq_nil_iff` says of the second that no group has two names exactly when no handle
comes twice. `issues_eq_nil_iff` puts them together, and `mapping_ok_iff_oneToOne` is the main
statement.
-/

set_option autoImplicit false

namespace DeskPlan.MonitorCheck

/-- The monitor is the one element of the list that has the fingerprint. -/
def StandsFor (monitors : List Monitor) (f : Fingerprint) (m : Monitor) : Prop :=
  ∃ before after, monitors = before ++ m :: after ∧ m.HasFingerprint f ∧
    ∀ n ∈ before ++ after, ¬ n.HasFingerprint f

/-- Names and monitors are in one-to-one correspondence:

- `named`: a monitor is named at all;
- `stands`: for every name there is one element of the list that has its fingerprint;
- `distinct`: the monitors of different names have different handles. -/
structure OneToOne (fingerprints : NameMap Fingerprint) (monitors : List Monitor) : Prop where
  named : fingerprints.names ≠ []
  stands : ∀ name f, fingerprints.get? name = some f → ∃ m, StandsFor monitors f m
  distinct : ∀ name₁ name₂ f₁ f₂ m₁ m₂, fingerprints.get? name₁ = some f₁ →
    fingerprints.get? name₂ = some f₂ → StandsFor monitors f₁ m₁ → StandsFor monitors f₂ m₂ →
    name₁ ≠ name₂ → m₁.handle ≠ m₂.handle

/-! ### The first pass: one candidate for every name -/

/-- A monitor is the only candidate exactly when it stands for the fingerprint. -/
theorem candidates_eq_singleton_iff {monitors : List Monitor} {f : Fingerprint} {m : Monitor} :
    candidates monitors f = [m] ↔ StandsFor monitors f m := by
  rw [candidates, List.filter_eq_cons_iff]
  constructor
  · rintro ⟨before, after, rfl, hbefore, hm, hafter⟩
    rw [List.filter_eq_nil_iff] at hafter
    refine ⟨before, after, rfl, Monitor.fits_iff.1 hm, ?_⟩
    intro n hn hhas
    rcases List.mem_append.1 hn with hn | hn
    · exact hbefore n hn (Monitor.fits_iff.2 hhas)
    · exact hafter n hn (Monitor.fits_iff.2 hhas)
  · rintro ⟨before, after, rfl, hm, hrest⟩
    refine ⟨before, after, rfl, ?_, Monitor.fits_iff.2 hm, ?_⟩
    · intro n hn hfits
      exact hrest n (List.mem_append_left _ hn) (Monitor.fits_iff.1 hfits)
    · rw [List.filter_eq_nil_iff]
      intro n hn hfits
      exact hrest n (List.mem_append_right _ hn) (Monitor.fits_iff.1 hfits)

/-- A name stands for the monitor that is the only one found. -/
theorem resolve_eq_some_iff {found : List Monitor} {m : Monitor} :
    resolve found = some m ↔ found = [m] := by
  unfold resolve
  split
  · simp
  · rename_i hne
    simp only [reduceCtorEq, false_iff]
    exact hne m

/-- A name has no issue exactly when a single monitor was found. -/
theorem nameIssue_eq_none_iff {name : String} {found : List Monitor} :
    nameIssue name found = none ↔ ∃ m, resolve found = some m := by
  simp only [resolve_eq_some_iff]
  unfold nameIssue
  split
  · simp
  · simp
  · rename_i hnil hone
    simpa using hone

/-- A name has an issue when no monitor was found or several were. -/
theorem nameIssue_eq_some_iff {name : String} {found : List Monitor} {issue : MonitorIssue} :
    nameIssue name found = some issue ↔
      (found = [] ∧ issue = .unmatched name) ∨
      (1 < found.length ∧ issue = .ambiguous name found.length) := by
  unfold nameIssue
  split
  · rw [Option.some.injEq, eq_comm]
    simp
  · simp
  · rename_i hnil hone
    have hlength : 1 < found.length := by
      match found with
      | [] => exact absurd rfl hnil
      | [m] => exact absurd rfl (hone m)
      | _ :: _ :: _ => simp
    rw [Option.some.injEq, eq_comm]
    simp [show found ≠ [] from hnil, hlength]

/-! ### The second pass: no handle twice -/

/-- A handle is in a list after an insertion exactly when it was put there or was there. -/
theorem mem_insertHandle {h k : Word64} (ks : List Word64) :
    h ∈ insertHandle k ks ↔ h = k ∨ h ∈ ks := by
  induction ks with
  | nil => simp [insertHandle]
  | cons l ls ih =>
    rw [insertHandle]
    split
    · simp
    · split
      · rename_i heq
        -- The handle is there already, under an equal one.
        have hkl : k = l := Ranged.ext_val heq
        simp [hkl]
      · rw [List.mem_cons, ih, List.mem_cons]
        constructor
        · rintro (h | h | h) <;> simp [h]
        · rintro (h | h | h) <;> simp [h]

/-- Collecting the handles of a list loses none and adds none. -/
theorem mem_distinctHandles {h : Word64} (hs : List Word64) :
    h ∈ distinctHandles hs ↔ h ∈ hs := by
  induction hs with
  | nil => simp [distinctHandles]
  | cons k ks ih =>
    show h ∈ insertHandle k (distinctHandles ks) ↔ h ∈ k :: ks
    rw [mem_insertHandle, ih, List.mem_cons]

/-- A handle has as many names as it comes among the handles of the entries. -/
theorem length_namesOf (a : MonitorAssignment) (h : Word64) :
    (namesOf a h).length = (a.entries.map fun e => e.2.handle).count h := by
  rw [namesOf, List.length_map, ← List.countP_eq_length_filter, List.count_eq_countP,
    List.countP_map]
  rfl

/-- No name shares its monitor exactly when no handle comes twice. -/
theorem aliasIssues_eq_nil_iff (a : MonitorAssignment) :
    aliasIssues a = [] ↔ (a.entries.map fun e => e.2.handle).Nodup := by
  rw [aliasIssues, List.filterMap_eq_nil_iff, List.nodup_iff_count]
  constructor
  · intro hall h
    by_cases hmem : h ∈ a.entries.map fun e => e.2.handle
    · have hgroup := hall h ((mem_distinctHandles _).2 hmem)
      rw [← length_namesOf]
      simp only [ite_eq_right_iff, reduceCtorEq, imp_false] at hgroup
      omega
    · rw [List.count_eq_zero.2 hmem]
      omega
  · intro hall h _
    have hcount := hall h
    rw [← length_namesOf] at hcount
    rw [if_neg (by omega)]

/-- No handle comes twice exactly when monitors of different names have different handles. -/
theorem handles_nodup_iff (a : MonitorAssignment) :
    (a.entries.map fun e => e.2.handle).Nodup ↔
      ∀ name₁ name₂ m₁ m₂, a.get? name₁ = some m₁ → a.get? name₂ = some m₂ → name₁ ≠ name₂ →
        m₁.handle ≠ m₂.handle := by
  constructor
  · intro hnodup name₁ name₂ m₁ m₂ h₁ h₂ hne heq
    have hmem₁ := (a.mem_entries_iff name₁ m₁).2 h₁
    have hmem₂ := (a.mem_entries_iff name₂ m₂).2 h₂
    have hentry := List.inj_on_of_nodup_map hnodup hmem₁ hmem₂ heq
    exact hne (congrArg Prod.fst hentry)
  · intro hall
    rw [List.Nodup, List.pairwise_map]
    refine a.sorted.imp_of_mem fun {e₁ e₂} hmem₁ hmem₂ hlt => ?_
    refine hall e₁.1 e₂.1 e₁.2 e₂.2 ((a.mem_entries_iff _ _).1 hmem₁)
      ((a.mem_entries_iff _ _).1 hmem₂) ?_
    intro heq
    rw [heq] at hlt
    exact String.lt_irrefl _ hlt

/-! ### The mapping -/

/-- There is no issue exactly when a monitor is named, every name has a single candidate, and
no two names have monitors with one handle. -/
theorem issues_eq_nil_iff (fingerprints : NameMap Fingerprint) (monitors : List Monitor) :
    (of fingerprints monitors).issues = [] ↔
      fingerprints.names ≠ [] ∧
      (∀ name f, fingerprints.get? name = some f → ∃ m, resolve (candidates monitors f) = some m) ∧
      ((resolved (of fingerprints monitors).entries).entries.map fun e => e.2.handle).Nodup := by
  rw [issues_of, List.append_eq_nil_iff, List.append_eq_nil_iff, aliasIssues_eq_nil_iff,
    List.filterMap_eq_nil_iff, and_assoc]
  refine and_congr ?_ (and_congr_left fun _ => ?_)
  · rw [Ne, ← fingerprints.isEmpty_iff]
    cases fingerprints.isEmpty <;> simp
  · constructor
    · intro h name f hf
      exact nameIssue_eq_none_iff.1 (h (name, f) ((fingerprints.mem_entries_iff name f).2 hf))
    · intro h e he
      exact nameIssue_eq_none_iff.2 (h e.1 e.2 ((fingerprints.mem_entries_iff e.1 e.2).1 he))

/-- There is a mapping exactly when there is no issue. -/
theorem mapping_eq_ok_iff {c : MonitorCheck} {a : MonitorAssignment} :
    c.mapping = .ok a ↔ c.issues = [] ∧ a = resolved c.entries := by
  unfold mapping valid
  cases hc : c.issues with
  | nil => simp [eq_comm]
  | cons i is => simp

/-- What is kept at a name is the monitor its fingerprint stands for. -/
theorem get?_resolved (fingerprints : NameMap Fingerprint) (monitors : List Monitor)
    (name : String) :
    (resolved (of fingerprints monitors).entries).get? name =
      (fingerprints.get? name).bind fun f => resolve (candidates monitors f) := by
  rw [entries_of, resolved, NameMap.get?_filterMap, NameMap.get?_map]
  cases fingerprints.get? name <;> rfl

/-- A mapping has exactly the names of the blueprint: none is dropped. -/
theorem names_of_mapping {fingerprints : NameMap Fingerprint} {monitors : List Monitor}
    {a : MonitorAssignment} (h : (of fingerprints monitors).mapping = .ok a) :
    a.names = fingerprints.names := by
  obtain ⟨hissues, rfl⟩ := mapping_eq_ok_iff.1 h
  have hresolve := ((issues_eq_nil_iff fingerprints monitors).1 hissues).2.1
  rw [entries_of, resolved, NameMap.names_filterMap_of_isSome, NameMap.names_map]
  intro name v hv
  rw [NameMap.get?_map] at hv
  obtain ⟨f, hf, rfl⟩ := Option.map_eq_some_iff.1 hv
  obtain ⟨m, hm⟩ := hresolve name f hf
  rw [id, hm]
  rfl

/-- The monitors of a mapping are live ones. -/
theorem mem_of_mapping {fingerprints : NameMap Fingerprint} {monitors : List Monitor}
    {a : MonitorAssignment} (h : (of fingerprints monitors).mapping = .ok a) {name : String}
    {m : Monitor} (hm : a.get? name = some m) : m ∈ monitors := by
  obtain ⟨-, rfl⟩ := mapping_eq_ok_iff.1 h
  rw [get?_resolved] at hm
  obtain ⟨f, -, hf⟩ := Option.bind_eq_some_iff.1 hm
  have hcandidate : m ∈ candidates monitors f := by
    rw [resolve_eq_some_iff.1 hf]
    exact List.mem_singleton_self m
  exact (List.mem_filter.1 hcandidate).1

/-! ### The main statement -/

section
variable {fingerprints : NameMap Fingerprint} {monitors : List Monitor}

/-- The check resolves a fingerprint to the monitor that stands for it. -/
theorem resolve_eq_some_iff_standsFor {f : Fingerprint} {m : Monitor} :
    resolve (candidates monitors f) = some m ↔ StandsFor monitors f m :=
  resolve_eq_some_iff.trans candidates_eq_singleton_iff

/-- What is kept at a name is the monitor that stands for its fingerprint. -/
theorem get?_resolved_eq_some_iff {name : String} {f : Fingerprint} {m : Monitor}
    (hf : fingerprints.get? name = some f) :
    (resolved (of fingerprints monitors).entries).get? name = some m ↔
      StandsFor monitors f m := by
  rw [get?_resolved, hf, Option.bind_some, resolve_eq_some_iff_standsFor]

/-- The issues are exhaustive: none is noted exactly when names and monitors are in one-to-one
correspondence. -/
theorem issues_eq_nil_iff_oneToOne :
    (of fingerprints monitors).issues = [] ↔ OneToOne fingerprints monitors := by
  rw [issues_eq_nil_iff, handles_nodup_iff]
  simp only [resolve_eq_some_iff_standsFor]
  constructor
  · rintro ⟨hnamed, hstands, hdistinct⟩
    refine ⟨hnamed, hstands, ?_⟩
    intro name₁ name₂ f₁ f₂ m₁ m₂ hf₁ hf₂ hm₁ hm₂ hne
    exact hdistinct name₁ name₂ m₁ m₂ ((get?_resolved_eq_some_iff hf₁).2 hm₁)
      ((get?_resolved_eq_some_iff hf₂).2 hm₂) hne
  · rintro ⟨hnamed, hstands, hdistinct⟩
    refine ⟨hnamed, hstands, ?_⟩
    intro name₁ name₂ m₁ m₂ h₁ h₂ hne
    -- A name at which a monitor is kept has a fingerprint, for which that monitor stands.
    rw [get?_resolved] at h₁ h₂
    obtain ⟨f₁, hf₁, hm₁⟩ := Option.bind_eq_some_iff.1 h₁
    obtain ⟨f₂, hf₂, hm₂⟩ := Option.bind_eq_some_iff.1 h₂
    exact hdistinct name₁ name₂ f₁ f₂ m₁ m₂ hf₁ hf₂ (resolve_eq_some_iff_standsFor.1 hm₁)
      (resolve_eq_some_iff_standsFor.1 hm₂) hne

end

/-- The check of monitors whose extents are coordinates gives an outcome. An outcome has a mapping
exactly when names and monitors are in one-to-one correspondence. The mapping has the names of the
blueprint, gives every name the monitor that stands for its fingerprint, and gives different names
monitors with different handles. -/
theorem mapping_ok_iff_oneToOne (fingerprints : NameMap Fingerprint) (monitors : List Monitor) :
    ((∀ m ∈ monitors, m.monitorRect.Measurable) → ∃ c, of? fingerprints monitors = some c) ∧
    ∀ c, of? fingerprints monitors = some c →
      ((∃ a, c.mapping = .ok a) ↔ OneToOne fingerprints monitors) ∧
      ∀ a, c.mapping = .ok a →
        a.names = fingerprints.names ∧
        (∀ name f m, fingerprints.get? name = some f →
          (a.get? name = some m ↔ StandsFor monitors f m)) ∧
        ∀ name₁ name₂ m₁ m₂, a.get? name₁ = some m₁ → a.get? name₂ = some m₂ → name₁ ≠ name₂ →
          m₁.handle ≠ m₂.handle := by
  refine ⟨fun hmeasurable => ⟨_, of?_of_measurable fingerprints hmeasurable⟩, ?_⟩
  intro c hc
  obtain ⟨-, rfl⟩ := of?_eq_some_iff.1 hc
  constructor
  · rw [← issues_eq_nil_iff_oneToOne]
    constructor
    · rintro ⟨a, ha⟩
      exact (mapping_eq_ok_iff.1 ha).1
    · intro hissues
      exact ⟨_, mapping_eq_ok_iff.2 ⟨hissues, rfl⟩⟩
  · intro a ha
    refine ⟨names_of_mapping ha, ?_, ?_⟩
    · obtain ⟨-, rfl⟩ := mapping_eq_ok_iff.1 ha
      intro name f m hf
      exact get?_resolved_eq_some_iff hf
    · obtain ⟨hissues, rfl⟩ := mapping_eq_ok_iff.1 ha
      exact (handles_nodup_iff _).1 ((issues_eq_nil_iff fingerprints monitors).1 hissues).2.2

/-- A screen of 1920 by 1080 pixels at 96 dots per inch, between two edges. -/
def fullScreen (handle : Word64) (left right : Coordinate) : Monitor :=
  let rect : Rect := ⟨left, .zero, right, .of 1080⟩
  ⟨handle, "", rect, rect, .of 96, .of 96⟩

/-- The fingerprint of such a screen with its left edge at `x`. -/
def fullPrint (x : Coordinate) : Fingerprint := ⟨x, .zero, .of 1920, .of 1080, .of 96, .of 96⟩

/-- Two screens side by side and, right of them, a screen that is mirrored on another. -/
def deskScreens : List Monitor :=
  [fullScreen (.of 1) (.of (-1920)) .zero, fullScreen (.of 2) .zero (.of 1920),
    fullScreen (.of 3) (.of 1920) (.of 3840), fullScreen (.of 4) (.of 1920) (.of 3840)]

/-- The fingerprints of the two screens that are not mirrored. -/
def deskNames : NameMap Fingerprint :=
  ⟨[("Left", fullPrint (.of (-1920))), ("Main", fullPrint .zero)], by decide⟩

/-- The fingerprint that the mirrored screens share. -/
def mirrorNames : NameMap Fingerprint := ⟨[("Right", fullPrint (.of 1920))], by decide⟩

/-- The two plain screens can be named, although two other screens share a fingerprint. The
mirrored ones cannot. -/
theorem oneToOne_deskScreens :
    (∀ m ∈ deskScreens, m.monitorRect.Measurable) ∧
      OneToOne deskNames deskScreens ∧ ¬ OneToOne mirrorNames deskScreens := by
  have hmeasurable : ∀ m ∈ deskScreens, m.monitorRect.Measurable := by decide
  refine ⟨hmeasurable, ?_, ?_⟩
  · obtain ⟨hsome, houtcome⟩ := mapping_ok_iff_oneToOne deskNames deskScreens
    obtain ⟨c, hc⟩ := hsome hmeasurable
    have hissues : (of? deskNames deskScreens).map issues = some [] := by decide
    rw [hc, Option.map_some] at hissues
    exact (houtcome c hc).1.1 ⟨_, mapping_eq_ok_iff.2 ⟨Option.some.inj hissues, rfl⟩⟩
  · obtain ⟨hsome, houtcome⟩ := mapping_ok_iff_oneToOne mirrorNames deskScreens
    obtain ⟨c, hc⟩ := hsome hmeasurable
    have hissues : (of? mirrorNames deskScreens).map issues ≠ some [] := by decide
    rw [← (houtcome c hc).1]
    rintro ⟨a, ha⟩
    exact hissues (by rw [hc, Option.map_some, (mapping_eq_ok_iff.1 ha).1])

end DeskPlan.MonitorCheck
