import DeskPlan.Monitor.Check
import DeskPlan.Proofs.Geometry.Rect
import DeskPlan.Proofs.NameMap

/-!
# `DeskPlan.Proofs.Monitor.Comparison`: monitors compared over the integers

`Monitor.fits?` compares six numbers one after the other, and measures the two extents among them
on the way. So a comparison can end the program, and so can the check of a blueprint, which
compares every monitor with every fingerprint. This module says what is compared when nothing ends:

* `Monitor.HasFingerprint`: the corner, the extents as differences of edges and the resolution of a
  monitor are the six numbers of a fingerprint, and `Monitor.fits` decides it. A comparison that
  gives an answer gives this one (`fits_of_fits?`), and one with a monitor whose extents are
  coordinates gives an answer (`fits?_of_measurable`);
* `Monitor.fits?_of_fingerprint?`: for a monitor that has a fingerprint of its own, it is the
  comparison of the two fingerprints;
* `MonitorCheck.of`: the check over the integers. `of?_eq_some_iff`: a check that gives an outcome
  gives this one, and it does so when every comparison gives an answer (`MonitorCheck.Compares`).
-/

set_option autoImplicit false

namespace DeskPlan

/-! ### Fingerprints -/

namespace Monitor

/-- The monitor has the corner, the extents and the resolution of the fingerprint. -/
structure HasFingerprint (m : Monitor) (f : Fingerprint) : Prop where
  left : m.monitorRect.left.val = f.x.val
  top : m.monitorRect.top.val = f.y.val
  width : m.monitorRect.right.val - m.monitorRect.left.val = f.width.val
  height : m.monitorRect.bottom.val - m.monitorRect.top.val = f.height.val
  dpiX : m.dpiX.val = f.dpiX.val
  dpiY : m.dpiY.val = f.dpiY.val

instance (m : Monitor) (f : Fingerprint) : Decidable (m.HasFingerprint f) :=
  decidable_of_iff
    ((m.monitorRect.left.val = f.x.val ∧ m.monitorRect.top.val = f.y.val) ∧
      (m.monitorRect.right.val - m.monitorRect.left.val = f.width.val ∧
        m.monitorRect.bottom.val - m.monitorRect.top.val = f.height.val) ∧
      m.dpiX.val = f.dpiX.val ∧ m.dpiY.val = f.dpiY.val)
    ⟨fun h => ⟨h.1.1, h.1.2, h.2.1.1, h.2.1.2, h.2.2.1, h.2.2.2⟩,
      fun h => ⟨⟨h.left, h.top⟩, ⟨h.width, h.height⟩, h.dpiX, h.dpiY⟩⟩

/-- Whether the monitor has the fingerprint, over the integers. -/
def fits (m : Monitor) (f : Fingerprint) : Bool := decide (m.HasFingerprint f)

theorem fits_iff {m : Monitor} {f : Fingerprint} : m.fits f = true ↔ m.HasFingerprint f :=
  decide_eq_true_iff

section
variable {m : Monitor} {f : Fingerprint}

/-- A comparison that gives an answer says whether the monitor has the fingerprint. -/
theorem fits_of_fits? {answer : Bool} (h : m.fits? f = some answer) : m.fits f = answer := by
  rw [Bool.eq_iff_iff, fits_iff]
  unfold fits? at h
  split at h
  · -- A corner that differs is enough to tell.
    rename_i hcorner
    obtain rfl := Option.some.inj h
    refine iff_of_false (fun hf => ?_) Bool.false_ne_true
    rcases hcorner with hleft | htop
    · exact hleft (Ranged.ext_val hf.left)
    · exact htop (Ranged.ext_val hf.top)
  · rename_i hcorner
    rw [not_or, Decidable.not_not, Decidable.not_not] at hcorner
    obtain ⟨hleft, htop⟩ := hcorner
    -- From here on the comparison measures, and what it measures are differences of edges.
    obtain ⟨w, hw, h⟩ := Option.bind_eq_some_iff.1 h
    have hwidth := Rect.width?_eq_some_iff.1 hw
    split at h
    · rename_i hne
      obtain rfl := Option.some.inj h
      refine iff_of_false (fun hf => ?_) Bool.false_ne_true
      exact hne (Ranged.ext_val (hwidth.trans hf.width))
    · rename_i heq
      rw [Decidable.not_not] at heq
      obtain ⟨k, hk, h⟩ := Option.bind_eq_some_iff.1 h
      have hheight := Rect.height?_eq_some_iff.1 hk
      obtain rfl := Option.some.inj h
      rw [decide_eq_true_iff]
      constructor
      · intro hf
        exact ⟨Ranged.ext_val (hheight.trans hf.height), Ranged.ext_val hf.dpiX,
          Ranged.ext_val hf.dpiY⟩
      · rintro ⟨rfl, hdpiX, hdpiY⟩
        exact ⟨congrArg _ hleft, congrArg _ htop, heq ▸ hwidth.symm, hheight.symm,
          congrArg _ hdpiX, congrArg _ hdpiY⟩

/-- A comparison with a monitor whose extents are coordinates gives an answer. -/
theorem fits?_of_measurable (h : m.monitorRect.Measurable) (f : Fingerprint) :
    m.fits? f = some (m.fits f) := by
  obtain ⟨b, hb⟩ := Rect.measurable_iff.1 h
  obtain ⟨w, hw, hrest⟩ := Option.bind_eq_some_iff.1 hb
  obtain ⟨k, hk, -⟩ := Option.bind_eq_some_iff.1 hrest
  have hsome : ∃ answer, m.fits? f = some answer := by
    unfold fits?
    rw [hw, hk]
    split
    · exact ⟨_, rfl⟩
    · dsimp only [bind, Option.bind_some]
      split <;> exact ⟨_, rfl⟩
  obtain ⟨answer, hanswer⟩ := hsome
  rw [hanswer, fits_of_fits? hanswer]

/-- The fingerprint of a monitor consists of its true numbers. -/
theorem fingerprint?_eq_some_iff : m.fingerprint? = some f ↔ m.HasFingerprint f := by
  unfold fingerprint?
  simp only [bind, Option.bind_eq_some_iff, Rect.box?_eq_some_iff, pure, Option.some.injEq]
  constructor
  · rintro ⟨b, hb, rfl⟩
    have hright := hb.right
    have hbottom := hb.bottom
    have hleft := hb.left
    have htop := hb.top
    exact ⟨hleft, htop, by dsimp only; omega, by dsimp only; omega, rfl, rfl⟩
  · rintro ⟨hleft, htop, hwidth, hheight, hdpiX, hdpiY⟩
    refine ⟨⟨f.x, f.y, f.width, f.height⟩,
      ⟨hleft, htop, by dsimp only; omega, by dsimp only; omega⟩, ?_⟩
    rw [Ranged.ext_val hdpiX, Ranged.ext_val hdpiY]

theorem exists_fingerprint? (h : m.monitorRect.Measurable) : ∃ f, m.fingerprint? = some f := by
  obtain ⟨b, hb⟩ := Rect.measurable_iff.1 h
  unfold fingerprint?
  rw [hb]
  exact ⟨_, rfl⟩

/-- A monitor is told in words when it can be measured. -/
theorem describe?_isSome_iff : m.describe?.isSome ↔ m.monitorRect.Measurable := by
  rw [Rect.measurable_iff, ← Option.isSome_iff_exists]
  unfold describe?
  cases m.monitorRect.box? <;> simp

/-- Comparing a monitor with a fingerprint compares its own fingerprint with it. -/
theorem fits?_of_fingerprint? {g : Fingerprint} (h : m.fingerprint? = some g) (f : Fingerprint) :
    m.fits? f = some (decide (g = f)) := by
  have hmeasurable : m.monitorRect.Measurable := by
    obtain ⟨b, hb, -⟩ := Option.bind_eq_some_iff.1 h
    exact Rect.measurable_iff.2 ⟨b, hb⟩
  rw [fits?_of_measurable hmeasurable, Option.some.injEq, fits]
  refine decide_eq_decide.2 ?_
  rw [← fingerprint?_eq_some_iff, h, Option.some.injEq]

end

end Monitor

/-! ### The check -/

namespace MonitorCheck

/-- The monitors of a list that have the fingerprint. -/
def candidates (monitors : List Monitor) (f : Fingerprint) : List Monitor :=
  monitors.filter (·.fits f)

/-- The check over the integers. -/
def of (fingerprints : NameMap Fingerprint) (monitors : List Monitor) : MonitorCheck :=
  ofFound (fingerprints.map fun _ f => candidates monitors f)

/-- Every comparison of a monitor with a named fingerprint gives an answer. -/
def Compares (fingerprints : NameMap Fingerprint) (monitors : List Monitor) : Prop :=
  ∀ name f, fingerprints.get? name = some f → ∀ m ∈ monitors, (m.fits? f).isSome

/-- Where every comparison with a fingerprint gives an answer, its candidates are those that have
it. -/
theorem candidates?_of_forall {monitors : List Monitor} {f : Fingerprint}
    (h : ∀ m ∈ monitors, (m.fits? f).isSome) :
    candidates? monitors f = some (candidates monitors f) := by
  refine Checked.keepWhere_of_forall fun m hm => ?_
  obtain ⟨answer, hanswer⟩ := Option.isSome_iff_exists.1 (h m hm)
  rw [hanswer, Monitor.fits_of_fits? hanswer]

section
variable {fingerprints : NameMap Fingerprint} {monitors : List Monitor}

/-- A check gives an outcome exactly when every comparison gives an answer, and then it is the one
over the integers. -/
theorem of?_eq_some_iff {c : MonitorCheck} :
    of? fingerprints monitors = some c ↔
      Compares fingerprints monitors ∧ c = of fingerprints monitors := by
  -- All fingerprints are compared with all monitors before anything is made of it.
  have hcompares : (fingerprints.mapChecked (candidates? monitors)).isSome ↔
      Compares fingerprints monitors := by
    rw [NameMap.mapChecked_isSome_iff]
    constructor
    · intro h name f hf
      exact Checked.keepWhere_isSome_iff.1
        (h (name, f) ((fingerprints.mem_entries_iff name f).2 hf))
    · intro h e he
      exact Checked.keepWhere_isSome_iff.2 (h e.1 e.2 ((fingerprints.mem_entries_iff e.1 e.2).1 he))
  have heq (h : Compares fingerprints monitors) :
      of? fingerprints monitors = some (of fingerprints monitors) := by
    have hfound := NameMap.mapChecked_of_forall (m := fingerprints) fun e he =>
      candidates?_of_forall (h e.1 e.2 ((fingerprints.mem_entries_iff e.1 e.2).1 he))
    rw [of?, hfound]
    rfl
  constructor
  · intro hc
    have h := hcompares.1 (Option.isSome_map .. ▸ Option.isSome_of_mem hc)
    exact ⟨h, Option.some.inj (hc.symm.trans (heq h))⟩
  · rintro ⟨h, rfl⟩
    exact heq h

/-- Monitors whose extents are coordinates are compared with every fingerprint. -/
theorem compares_of_measurable (fingerprints : NameMap Fingerprint)
    (h : ∀ m ∈ monitors, m.monitorRect.Measurable) : Compares fingerprints monitors :=
  fun _ f _ m hm => by rw [Monitor.fits?_of_measurable (h m hm) f]; rfl

/-- So the check of such monitors gives an outcome. -/
theorem of?_of_measurable (fingerprints : NameMap Fingerprint)
    (h : ∀ m ∈ monitors, m.monitorRect.Measurable) :
    of? fingerprints monitors = some (of fingerprints monitors) :=
  of?_eq_some_iff.2 ⟨compares_of_measurable fingerprints h, rfl⟩

/-- The entry of a name is the monitor it resolves to. -/
theorem entries_of (fingerprints : NameMap Fingerprint) (monitors : List Monitor) :
    (of fingerprints monitors).entries =
      fingerprints.map fun _ f => resolve (candidates monitors f) :=
  NameMap.ext_entries (List.map_map ..)

/-- The issues are those of an empty blueprint, of single names, and of names that share a
monitor. -/
theorem issues_of (fingerprints : NameMap Fingerprint) (monitors : List Monitor) :
    (of fingerprints monitors).issues = (if fingerprints.isEmpty then [.empty] else []) ++
      fingerprints.entries.filterMap (fun e => nameIssue e.1 (candidates monitors e.2)) ++
      aliasIssues (resolved (of fingerprints monitors).entries) := by
  have hempty : (fingerprints.map fun _ f => candidates monitors f).isEmpty =
      fingerprints.isEmpty := List.isEmpty_map
  have hnamed : (fingerprints.map fun _ f => candidates monitors f).entries.filterMap
      (fun e => nameIssue e.1 e.2) =
      fingerprints.entries.filterMap fun e => nameIssue e.1 (candidates monitors e.2) :=
    List.filterMap_map ..
  show (if NameMap.isEmpty _ then [MonitorIssue.empty] else []) ++ _ ++ _ = _
  rw [hempty, hnamed]
  rfl

end

end MonitorCheck

end DeskPlan
