import DeskPlan.Monitor.Location
import DeskPlan.Proofs.Geometry.Overflow
import DeskPlan.Proofs.Monitor.OneToOne

/-!
# `DeskPlan.Proofs.Monitor.Location`: which rectangles are located

`Monitor.ofRect?` compares overlaps and squared distances, and computes all that it compares. So one
monitor that is too far away ends the search, whichever one it would have found. `Monitor.ofRect` is
the same search over the integers.

* `Monitor.ofRect?_eq_some_iff`: a search that comes to an end finds what is found over the
  integers, and it comes to an end exactly when everything that it compares is computed
  (`Monitor.Computed`);
* `location_exact_iff`: between rectangles that can be measured, that is when every monitor is
  within reach, and if the rectangle meets none, every squared distance fits 64 bits
  (`Monitor.Locatable`);
* `location_overflows`: on the virtual screen there is room for both kinds of overflow.
-/

set_option autoImplicit false

namespace DeskPlan

/-! ### Searching by score -/

section
variable {α β : Type}

/-- A greatest element is found wherever there is an element. -/
theorem lastGreatest_eq_none_iff {score : α → Int} {xs : List α} :
    lastGreatest score xs = none ↔ xs = [] := by
  cases xs with
  | nil => exact iff_of_true rfl rfl
  | cons x xs =>
    refine iff_of_false (fun h => ?_) (List.cons_ne_nil x xs)
    unfold lastGreatest at h
    split at h
    · cases h
    · split at h <;> cases h

/-- A least element is found wherever there is an element. -/
theorem firstLeast_eq_none_iff {score : α → Int} {xs : List α} :
    firstLeast score xs = none ↔ xs = [] := by
  cases xs with
  | nil => exact iff_of_true rfl rfl
  | cons x xs =>
    refine iff_of_false (fun h => ?_) (List.cons_ne_nil x xs)
    unfold firstLeast at h
    split at h
    · cases h
    · split at h <;> cases h

theorem lastGreatest_map (f : α → β) (score : β → Int) (xs : List α) :
    lastGreatest score (xs.map f) = (lastGreatest (score ∘ f) xs).map f := by
  induction xs with
  | nil => rfl
  | cons x xs ih =>
    simp only [List.map_cons, lastGreatest, ih]
    cases lastGreatest (score ∘ f) xs with
    | none => rfl
    | some y => exact (apply_ite (Option.map f) _ (some y) (some x)).symm

theorem firstLeast_map (f : α → β) (score : β → Int) (xs : List α) :
    firstLeast score (xs.map f) = (firstLeast (score ∘ f) xs).map f := by
  induction xs with
  | nil => rfl
  | cons x xs ih =>
    simp only [List.map_cons, firstLeast, ih]
    cases firstLeast (score ∘ f) xs with
    | none => rfl
    | some y => exact (apply_ite (Option.map f) _ (some y) (some x)).symm

end

namespace Monitor

/-- The monitor a rectangle is on, over the integers. -/
def ofRect (rect : Rect) (monitors : List Monitor) : Option Monitor :=
  match lastGreatest (fun m => rect.trueSharedArea m.monitorRect)
      (monitors.filter fun m => 0 < rect.trueSharedArea m.monitorRect) with
  | some m => some m
  | none => firstLeast (fun m => rect.trueSquaredDistance m.monitorRect) monitors

/-- Everything that is compared is computed: the overlaps, and the distances if there is no
overlap. -/
structure Computed (rect : Rect) (monitors : List Monitor) : Prop where
  areas : ∀ m ∈ monitors, (rect.sharedArea? m.monitorRect).isSome
  distances : (∀ m ∈ monitors, ¬ rect.Meets m.monitorRect) →
    ∀ m ∈ monitors, (rect.squaredDistanceTo? m.monitorRect).isSome

/-- Every monitor is within the reach of the rectangle, and if the rectangle meets none of them, the
squared distances fit 64 bits. -/
structure Locatable (rect : Rect) (monitors : List Monitor) : Prop where
  reach : ∀ m ∈ monitors, rect.WithinReach m.monitorRect
  near : (∀ m ∈ monitors, ¬ rect.Meets m.monitorRect) →
    ∀ m ∈ monitors, rect.trueSquaredDistance m.monitorRect ≤ 9223372036854775807

section
variable {rect : Rect} {monitors : List Monitor}

/-- Nothing is left for the search by overlap if no monitor is met. -/
theorem filter_overlapped_eq_nil (hnone : ∀ m ∈ monitors, ¬ rect.Meets m.monitorRect) :
    (monitors.filter fun m => 0 < rect.trueSharedArea m.monitorRect) = [] := by
  refine List.filter_eq_nil_iff.2 fun m hm hpos => hnone m hm ?_
  exact Rect.trueSharedArea_pos_iff.1 (of_decide_eq_true hpos)

/-- Then the search is by distance. -/
theorem ofRect_of_not_meets (hnone : ∀ m ∈ monitors, ¬ rect.Meets m.monitorRect) :
    ofRect rect monitors =
      firstLeast (fun m => rect.trueSquaredDistance m.monitorRect) monitors := by
  rw [ofRect, filter_overlapped_eq_nil hnone]
  rfl

/-- One overlap out of range ends the search. -/
theorem areas_of_ofRect? (h : (ofRect? rect monitors).isSome) :
    ∀ m ∈ monitors, (rect.sharedArea? m.monitorRect).isSome := by
  obtain ⟨found, hfound⟩ := Option.isSome_iff_exists.1 h
  obtain ⟨areas, hareas, -⟩ := Option.bind_eq_some_iff.1 hfound
  exact Checked.tagged_isSome_iff.1 (Option.isSome_of_mem hareas)

section
variable (hareas : ∀ m ∈ monitors, (rect.sharedArea? m.monitorRect).isSome)
include hareas

/-- Once the overlaps are computed, the search by overlap is the one over the integers. -/
theorem ofRect?_of_areas :
    ofRect? rect monitors =
      (lastGreatest (fun m => rect.trueSharedArea m.monitorRect)
          (monitors.filter fun m => 0 < rect.trueSharedArea m.monitorRect)).elim
        ((Checked.tagged (fun m => rect.squaredDistanceTo? m.monitorRect) monitors).map fun ds =>
          (firstLeast Prod.snd ds).map Prod.fst)
        fun m => some (some m) := by
  -- What is computed is the true area, so the areas come with their monitors and can be left out.
  have htrue : ∀ m ∈ monitors,
      rect.sharedArea? m.monitorRect = some (rect.trueSharedArea m.monitorRect) := by
    intro m hm
    obtain ⟨n, hn⟩ := Option.isSome_iff_exists.1 (hareas m hm)
    rw [hn, Rect.trueSharedArea_of_some hn]
  show (Checked.tagged _ monitors).bind _ = _
  rw [Checked.tagged_of_forall htrue, Option.bind_some, List.filter_map, lastGreatest_map]
  dsimp only [Function.comp_def]
  cases lastGreatest (fun m => rect.trueSharedArea m.monitorRect)
      (monitors.filter fun m => 0 < rect.trueSharedArea m.monitorRect) with
  | some m => rfl
  | none =>
    cases Checked.tagged (fun m => rect.squaredDistanceTo? m.monitorRect) monitors <;> rfl

/-- Once a monitor is met, distances do not come into it. -/
theorem ofRect?_of_meets {m : Monitor} (hm : m ∈ monitors) (hmeets : rect.Meets m.monitorRect) :
    ofRect? rect monitors = some (ofRect rect monitors) := by
  rw [ofRect?_of_areas hareas, ofRect]
  cases hfound : lastGreatest (fun m => rect.trueSharedArea m.monitorRect)
      (monitors.filter fun m => 0 < rect.trueSharedArea m.monitorRect) with
  | some m => rfl
  | none =>
    have hmem : m ∈ monitors.filter fun m => 0 < rect.trueSharedArea m.monitorRect :=
      List.mem_filter.2 ⟨hm, decide_eq_true (Rect.trueSharedArea_pos_iff.2 hmeets)⟩
    rw [lastGreatest_eq_none_iff.1 hfound] at hmem
    cases hmem

/-- If none is met, the distances are compared. -/
theorem ofRect?_of_not_meets (hnone : ∀ m ∈ monitors, ¬ rect.Meets m.monitorRect) :
    ofRect? rect monitors =
      (Checked.tagged (fun m => rect.squaredDistanceTo? m.monitorRect) monitors).map fun ds =>
        (firstLeast Prod.snd ds).map Prod.fst := by
  rw [ofRect?_of_areas hareas, filter_overlapped_eq_nil hnone]
  rfl

/-- The distances are then those over the integers, if they are computed. -/
theorem ofRect?_of_distances (hnone : ∀ m ∈ monitors, ¬ rect.Meets m.monitorRect)
    (hdistances : ∀ m ∈ monitors, (rect.squaredDistanceTo? m.monitorRect).isSome) :
    ofRect? rect monitors = some (ofRect rect monitors) := by
  have htrue : ∀ m ∈ monitors,
      rect.squaredDistanceTo? m.monitorRect = some (rect.trueSquaredDistance m.monitorRect) := by
    intro m hm
    obtain ⟨n, hn⟩ := Option.isSome_iff_exists.1 (hdistances m hm)
    rw [hn, Rect.trueSquaredDistance_of_some hn]
  rw [ofRect?_of_not_meets hareas hnone, Checked.tagged_of_forall htrue, Option.map_some,
    firstLeast_map, Option.map_map, ofRect_of_not_meets hnone]
  exact congrArg some Option.map_id'

end

/-- A search comes to an end exactly when everything that it compares is computed. It finds what is
found over the integers. -/
theorem ofRect?_eq_some_iff {found : Option Monitor} :
    ofRect? rect monitors = some found ↔
      Computed rect monitors ∧ found = ofRect rect monitors := by
  constructor
  · intro h
    have hareas := areas_of_ofRect? (Option.isSome_of_mem h)
    by_cases hmet : ∃ m ∈ monitors, rect.Meets m.monitorRect
    · obtain ⟨m, hm, hmeets⟩ := hmet
      rw [ofRect?_of_meets hareas hm hmeets] at h
      exact ⟨⟨hareas, fun hnone => absurd hmeets (hnone m hm)⟩, (Option.some.inj h).symm⟩
    · have hnone : ∀ m ∈ monitors, ¬ rect.Meets m.monitorRect := fun m hm hmeets =>
        hmet ⟨m, hm, hmeets⟩
      -- The search came to an end, so the distances it went on with were computed.
      have hdistances : ∀ m ∈ monitors, (rect.squaredDistanceTo? m.monitorRect).isSome := by
        rw [← Checked.tagged_isSome_iff, ← Option.isSome_map,
          ← ofRect?_of_not_meets hareas hnone, h]
        rfl
      rw [ofRect?_of_distances hareas hnone hdistances] at h
      exact ⟨⟨hareas, fun _ => hdistances⟩, (Option.some.inj h).symm⟩
  · rintro ⟨h, rfl⟩
    by_cases hmet : ∃ m ∈ monitors, rect.Meets m.monitorRect
    · obtain ⟨m, hm, hmeets⟩ := hmet
      exact ofRect?_of_meets h.areas hm hmeets
    · have hnone : ∀ m ∈ monitors, ¬ rect.Meets m.monitorRect := fun m hm hmeets =>
        hmet ⟨m, hm, hmeets⟩
      exact ofRect?_of_distances h.areas hnone (h.distances hnone)

theorem ofRect?_isSome_iff : (ofRect? rect monitors).isSome ↔ Computed rect monitors := by
  rw [Option.isSome_iff_exists]
  simp only [ofRect?_eq_some_iff, exists_and_left, exists_eq, and_true]

/-- Between rectangles that can be measured, everything is computed exactly when the rectangle can
be located. -/
theorem computed_iff_locatable (hrect : rect.Measurable)
    (hmonitors : ∀ m ∈ monitors, m.monitorRect.Measurable) :
    Computed rect monitors ↔ Locatable rect monitors := by
  constructor
  · rintro ⟨hareas, hdistances⟩
    refine ⟨fun m hm => ?_, fun hnone m hm => ?_⟩
    · exact (Rect.sharedArea?_isSome_iff hrect (hmonitors m hm)).1 (hareas m hm)
    · exact (Rect.squaredDistanceTo?_isSome_iff hrect _).1 (hdistances hnone m hm)
  · rintro ⟨hreach, hnear⟩
    refine ⟨fun m hm => ?_, fun hnone m hm => ?_⟩
    · exact (Rect.sharedArea?_isSome_iff hrect (hmonitors m hm)).2 (hreach m hm)
    · exact (Rect.squaredDistanceTo?_isSome_iff hrect _).2 (hnear hnone m hm)

end

end Monitor

/-! ### Exactness and overflow -/

/-- A rectangle that can be measured. Its overlap with another one is computed exactly when they are
within reach of each other, and its squared distance exactly when this fits 64 bits; what is
computed is the true measure. So on any list of monitors that can be measured the search comes to an
end exactly when the rectangle can be located, and what it finds is then what is found over the
integers. -/
theorem location_exact_iff {rect : Rect} (hrect : rect.Measurable) :
    (∀ s : Rect, s.Measurable →
      ((rect.sharedArea? s).isSome ↔ rect.WithinReach s) ∧
      ((rect.squaredDistanceTo? s).isSome ↔ rect.trueSquaredDistance s ≤ 9223372036854775807) ∧
      (∀ n, rect.sharedArea? s = some n →
        rect.trueSharedArea s = n ∧ 0 ≤ n ∧ (0 < n ↔ rect.Meets s)) ∧
      ∀ n, rect.squaredDistanceTo? s = some n → rect.trueSquaredDistance s = n) ∧
    ∀ monitors : List Monitor, (∀ m ∈ monitors, m.monitorRect.Measurable) →
      ((Monitor.ofRect? rect monitors).isSome ↔ Monitor.Locatable rect monitors) ∧
      ∀ found, Monitor.ofRect? rect monitors = some found →
        Monitor.ofRect rect monitors = found := by
  constructor
  · intro s hs
    refine ⟨Rect.sharedArea?_isSome_iff hrect hs, Rect.squaredDistanceTo?_isSome_iff hrect s, ?_,
      fun n => Rect.trueSquaredDistance_of_some⟩
    intro n hn
    obtain rfl := Rect.trueSharedArea_of_some hn
    exact ⟨rfl, Rect.trueSharedArea_nonneg rect s, Rect.trueSharedArea_pos_iff⟩
  · intro monitors hmonitors
    rw [Monitor.ofRect?_isSome_iff]
    exact ⟨Monitor.computed_iff_locatable hrect hmonitors,
      fun found hfound => (Monitor.ofRect?_eq_some_iff.1 hfound).2.symm⟩

open MonitorCheck (fullScreen)

/-- A rectangle at the upper edge of the virtual screen, 100 pixels high. -/
def strip (left right : Coordinate) : Rect := ⟨left, .zero, right, .of 100⟩

/-- The screen left of the origin. -/
def leftScreen : Monitor := fullScreen (.of 1) (.of (-1920)) .zero

/-- The screen at the origin. -/
def mainScreen : Monitor := fullScreen (.of 2) .zero (.of 1920)

/-- A screen far out on the right. -/
def farScreen : Monitor := fullScreen (.of 3) (.of 1000000000) (.of 1000001920)

/-- The last screen of the virtual screen. -/
def outmostScreen : Monitor := fullScreen (.of 4) (.of 2147481727) (.of 2147483647)

/-- A rectangle far out on the left. -/
def farStrip : Rect := strip (.of (-1500000000)) (.of (-1499999900))

/-- A rectangle that is everything left of the main screen. -/
def longStrip : Rect := strip (.of (-2147483648)) (.of (-1))

/-- A rectangle on common screens is located. A rectangle half the virtual screen away from one of
them is not. -/
theorem location_of_strips :
    (strip (.of (-50)) (.of 50)).Measurable ∧
    (Monitor.ofRect? (strip (.of (-50)) (.of 50)) [leftScreen, mainScreen]).isSome ∧
    farStrip.Measurable ∧
    ¬ (Monitor.ofRect? farStrip [mainScreen, farScreen]).isSome := by
  have hcommon : (strip (.of (-50)) (.of 50)).Measurable := by decide
  have hfar : farStrip.Measurable := by decide
  refine ⟨hcommon, ?_, hfar, ?_⟩
  · exact ((location_exact_iff hcommon).2 _ (by decide)).1.2 ⟨by decide, fun _ => by decide⟩
  · rw [((location_exact_iff hfar).2 _ (by decide)).1]
    exact fun h => absurd h.reach (by decide)

/-- The rectangle and two screens can be measured. The rectangle meets neither screen and is nearer
to the first, which is found over the integers. The search does not come to an end. -/
structure Unlocated (rect : Rect) (near far : Monitor) : Prop where
  measurable : rect.Measurable ∧ near.monitorRect.Measurable ∧ far.monitorRect.Measurable
  disjoint : ¬ rect.Meets near.monitorRect ∧ ¬ rect.Meets far.monitorRect
  nearer : rect.trueSquaredDistance near.monitorRect < rect.trueSquaredDistance far.monitorRect
  expected : Monitor.ofRect rect [near, far] = some near
  stops : Monitor.ofRect? rect [near, far] = none

/-- A rectangle that ends left of another one does not meet it. -/
theorem Rect.not_meets_of_right_le {r s : Rect} (h : r.right.val ≤ s.left.val) : ¬ r.Meets s := by
  rintro ⟨x, y, hr, hs⟩
  have hright := hr.right
  have hleft := hs.left
  omega

/-- Locating overflows in both measures: a far screen is out of reach, or its squared distance does
not fit 64 bits. -/
theorem location_overflows :
    (Unlocated farStrip mainScreen farScreen ∧
      farStrip.sharedArea? farScreen.monitorRect = none) ∧
    (Unlocated longStrip mainScreen outmostScreen ∧
      longStrip.squaredDistanceTo? outmostScreen.monitorRect = none) := by
  constructor
  · refine ⟨⟨by decide, ⟨?_, ?_⟩, by decide, by decide, by decide⟩, by decide⟩
    · exact Rect.not_meets_of_right_le (by decide)
    · exact Rect.not_meets_of_right_le (by decide)
  · refine ⟨⟨by decide, ⟨?_, ?_⟩, by decide, by decide, by decide⟩, by decide⟩
    · exact Rect.not_meets_of_right_le (by decide)
    · exact Rect.not_meets_of_right_le (by decide)

end DeskPlan
