import DeskPlan.Proofs.Monitor.Location

/-!
# `DeskPlan.Proofs.Monitor.Choice`: which monitor a rectangle is found on

`Monitor.ofRect?` searches twice: for the largest overlap among the monitors that are overlapped at
all, and for the smallest distance if there is none. Each search goes through the list once and
keeps one element of best score. `StandsOut` says which one by its place in the list, and
`Monitor.FoundBy` puts the two searches together.

* `ofRect_eq_some_iff`: the monitor found is the last of the largest overlaps, or the first of the
  smallest distances;
* `ofRect_optimal`: it is a best one, whenever everything that is compared can be computed;
* `ofRect_ties`: so the two searches part at ties. Of several monitors with the largest overlap the
  first one is not found, and `straddled_tie_fails` is a rectangle half on one screen and half on
  another.
-/

set_option autoImplicit false

namespace DeskPlan

/-! ### The place of the best element -/

section
variable {α : Type}

/-- The element stands in the list behind elements that it beats by one relation, and before
elements that it beats by another one. -/
def StandsOut (earlier later : α → α → Prop) (xs : List α) (x : α) : Prop :=
  ∃ before after, xs = before ++ x :: after ∧ (∀ y ∈ before, earlier x y) ∧ ∀ y ∈ after, later x y

/-- The element is the last one of greatest score. -/
def LastGreatest (score : α → Int) : List α → α → Prop :=
  StandsOut (fun x y => score y ≤ score x) fun x y => score y < score x

/-- The element is the first one of greatest score. -/
def FirstGreatest (score : α → Int) : List α → α → Prop :=
  StandsOut (fun x y => score y < score x) fun x y => score y ≤ score x

/-- The element is the first one of least score. -/
def FirstLeast (score : α → Int) : List α → α → Prop :=
  StandsOut (fun x y => score x < score y) fun x y => score x ≤ score y

namespace StandsOut

variable {earlier later : α → α → Prop} {xs : List α} {x y : α}

theorem head (h : ∀ y ∈ xs, later x y) : StandsOut earlier later (x :: xs) x :=
  ⟨[], xs, rfl, fun _ hy => absurd hy List.not_mem_nil, h⟩

theorem cons (hy : earlier x y) (h : StandsOut earlier later xs x) :
    StandsOut earlier later (y :: xs) x := by
  obtain ⟨before, after, rfl, hbefore, hafter⟩ := h
  exact ⟨y :: before, after, rfl, List.forall_mem_cons.2 ⟨hy, hbefore⟩, hafter⟩

theorem concat (hy : later x y) (h : StandsOut earlier later xs x) :
    StandsOut earlier later (xs ++ [y]) x := by
  obtain ⟨before, after, rfl, hbefore, hafter⟩ := h
  refine ⟨before, after ++ [y], by simp, hbefore, fun z hz => ?_⟩
  rcases List.mem_append.1 hz with hz | hz
  · exact hafter z hz
  · rw [List.mem_singleton.1 hz]
    exact hy

/-- What stands out keeps its place when others are left out. -/
theorem filter {p : α → Bool} (hx : p x = true) (h : StandsOut earlier later xs x) :
    StandsOut earlier later (xs.filter p) x := by
  obtain ⟨before, after, rfl, hbefore, hafter⟩ := h
  refine ⟨before.filter p, after.filter p, ?_, fun y hy => ?_, fun y hy => ?_⟩
  · rw [List.filter_append, List.filter_cons_of_pos hx]
  · exact hbefore y (List.mem_of_mem_filter hy)
  · exact hafter y (List.mem_of_mem_filter hy)

theorem mem (h : StandsOut earlier later xs x) : x ∈ xs := by
  obtain ⟨before, after, rfl, -⟩ := h
  exact List.mem_append_right before List.mem_cons_self

/-- Every other element is beaten by one of the relations. -/
theorem beats (h : StandsOut earlier later xs x) : ∀ y ∈ xs, y = x ∨ earlier x y ∨ later x y := by
  obtain ⟨before, after, rfl, hbefore, hafter⟩ := h
  intro y hy
  rcases List.mem_append.1 hy with hy | hy
  · exact .inr (.inl (hbefore y hy))
  · rcases List.mem_cons.1 hy with hy | hy
    · exact .inl hy
    · exact .inr (.inr (hafter y hy))

/-- At most one element stands out when nothing is beaten from before by what it beats from
behind. -/
theorem unique (hexcl : ∀ a b, earlier a b → ¬ later b a) (hx : StandsOut earlier later xs x)
    (hy : StandsOut earlier later xs y) : x = y := by
  obtain ⟨before, after, rfl, hbefore, hafter⟩ := hx
  obtain ⟨before', after', heq, hbefore', hafter'⟩ := hy
  rcases List.append_eq_append_iff.1 heq with ⟨mid, hfirst, hrest⟩ | ⟨mid, hfirst, hrest⟩
  -- Either the two places are the same, or one of the elements comes before the other.
  · cases mid with
    | nil => exact (List.cons.inj hrest).1
    | cons z mid =>
      obtain ⟨rfl, htail⟩ := List.cons.inj hrest
      exact absurd (hafter y (by rw [htail]; simp)) (hexcl y x (hbefore' x (by rw [hfirst]; simp)))
  · cases mid with
    | nil => exact (List.cons.inj hrest).1.symm
    | cons z mid =>
      obtain ⟨rfl, htail⟩ := List.cons.inj hrest
      exact absurd (hafter' x (by rw [htail]; simp)) (hexcl x y (hbefore y (by rw [hfirst]; simp)))

/-- A search that leaves only the empty list without a find, and finds only what stands out, finds
the element that stands out. -/
theorem found_iff {found : Option α} (hexcl : ∀ a b, earlier a b → ¬ later b a)
    (hnone : found = none → xs = []) (hsome : ∀ y, found = some y → StandsOut earlier later xs y) :
    found = some x ↔ StandsOut earlier later xs x := by
  refine ⟨hsome x, fun h => ?_⟩
  cases hfound : found with
  | none =>
    have hmem := h.mem
    rw [hnone hfound] at hmem
    cases hmem
  | some y => rw [h.unique hexcl (hsome y hfound)]

end StandsOut

section
variable {score : α → Int} {xs : List α} {x y : α}

theorem LastGreatest.le (h : LastGreatest score xs x) : ∀ y ∈ xs, score y ≤ score x := by
  intro y hy
  rcases h.beats y hy with rfl | hle | hlt
  · exact Int.le_refl _
  · exact hle
  · exact Int.le_of_lt hlt

theorem FirstLeast.le (h : FirstLeast score xs x) : ∀ y ∈ xs, score x ≤ score y := by
  intro y hy
  rcases h.beats y hy with rfl | hlt | hle
  · exact Int.le_refl _
  · exact Int.le_of_lt hlt
  · exact hle

/-! ### The two searches -/

theorem lastGreatest_of_eq_some (h : lastGreatest score xs = some x) : LastGreatest score xs x := by
  induction xs generalizing x with
  | nil => cases h
  | cons y ys ih =>
    rw [lastGreatest] at h
    cases hrest : lastGreatest score ys with
    | none =>
      rw [hrest] at h
      obtain rfl := Option.some.inj h
      rw [lastGreatest_eq_none_iff.1 hrest]
      exact StandsOut.head fun _ hz => absurd hz List.not_mem_nil
    | some z =>
      simp only [hrest] at h
      split at h
      · rename_i hle
        obtain rfl := Option.some.inj h
        exact StandsOut.cons hle (ih hrest)
      · rename_i hlt
        obtain rfl := Option.some.inj h
        exact StandsOut.head fun w hw => Int.lt_of_le_of_lt ((ih hrest).le w hw) (Int.not_le.1 hlt)

/-- The search for the greatest score finds the last element that has it. -/
theorem lastGreatest_eq_some_iff : lastGreatest score xs = some x ↔ LastGreatest score xs x :=
  StandsOut.found_iff (fun _ _ hle hlt => Int.not_lt.2 hle hlt) lastGreatest_eq_none_iff.1
    fun _ => lastGreatest_of_eq_some

theorem firstLeast_of_eq_some (h : firstLeast score xs = some x) : FirstLeast score xs x := by
  induction xs generalizing x with
  | nil => cases h
  | cons y ys ih =>
    rw [firstLeast] at h
    cases hrest : firstLeast score ys with
    | none =>
      rw [hrest] at h
      obtain rfl := Option.some.inj h
      rw [firstLeast_eq_none_iff.1 hrest]
      exact StandsOut.head fun _ hz => absurd hz List.not_mem_nil
    | some z =>
      simp only [hrest] at h
      split at h
      · rename_i hlt
        obtain rfl := Option.some.inj h
        exact StandsOut.cons hlt (ih hrest)
      · rename_i hle
        obtain rfl := Option.some.inj h
        exact StandsOut.head fun w hw => Int.le_trans (Int.not_lt.1 hle) ((ih hrest).le w hw)

/-- The search for the least score finds the first element that has it. -/
theorem firstLeast_eq_some_iff : firstLeast score xs = some x ↔ FirstLeast score xs x :=
  StandsOut.found_iff (fun _ _ hlt hle => Int.not_lt.2 hle hlt) firstLeast_eq_none_iff.1
    fun _ => firstLeast_of_eq_some

end

end

namespace Monitor

/-! ### The monitor that is found -/

/-- The monitor is overlapped and keeps its place among the others by `rule`, or none is overlapped
and it is the first of the nearest ones. -/
def FoundBy (rule : (Monitor → Int) → List Monitor → Monitor → Prop) (rect : Rect)
    (monitors : List Monitor) (m : Monitor) : Prop :=
  (rect.Meets m.monitorRect ∧ rule (fun n => rect.trueSharedArea n.monitorRect) monitors m) ∨
    (∀ n ∈ monitors, ¬ rect.Meets n.monitorRect) ∧
      FirstLeast (fun n => rect.trueSquaredDistance n.monitorRect) monitors m

section
variable {rect : Rect} {monitors : List Monitor} {m : Monitor}

/-- If a monitor is overlapped, the last one of largest overlap is found. -/
theorem ofRect_of_overlapped (hmeets : rect.Meets m.monitorRect)
    (h : LastGreatest (fun n => rect.trueSharedArea n.monitorRect) monitors m) :
    ofRect rect monitors = some m := by
  have hkept : LastGreatest (fun n => rect.trueSharedArea n.monitorRect)
      (monitors.filter fun n => 0 < rect.trueSharedArea n.monitorRect) m :=
    StandsOut.filter (decide_eq_true (Rect.trueSharedArea_pos_iff.2 hmeets)) h
  rw [ofRect, lastGreatest_eq_some_iff.2 hkept]

/-- A monitor with the greatest overlap is met if any is. -/
theorem meets_of_greatest {n : Monitor} (hn : n ∈ monitors) (hmeets : rect.Meets n.monitorRect)
    (h : LastGreatest (fun n => rect.trueSharedArea n.monitorRect) monitors m) :
    rect.Meets m.monitorRect :=
  Rect.trueSharedArea_pos_iff.1
    (Int.lt_of_lt_of_le (Rect.trueSharedArea_pos_iff.2 hmeets) (h.le n hn))

/-- The monitor found is the last of the largest overlaps, or the first of the smallest
distances. -/
theorem ofRect_eq_some_iff :
    ofRect rect monitors = some m ↔ FoundBy LastGreatest rect monitors m := by
  by_cases hmet : ∃ n ∈ monitors, rect.Meets n.monitorRect
  · -- Some monitor has the greatest overlap, and it is met because one is.
    obtain ⟨k, hk, hkmeets⟩ := hmet
    obtain ⟨n, hn⟩ := Option.ne_none_iff_exists'.1 fun h =>
      List.ne_nil_of_mem hk (lastGreatest_eq_none_iff.1 h)
    have hgreatest := lastGreatest_of_eq_some hn
    have hmeets := meets_of_greatest hk hkmeets hgreatest
    rw [ofRect_of_overlapped hmeets hgreatest, Option.some.injEq]
    constructor
    · rintro rfl
      exact .inl ⟨hmeets, hgreatest⟩
    · rintro (⟨-, h⟩ | ⟨hnone, -⟩)
      · exact Option.some.inj (hn.symm.trans (lastGreatest_eq_some_iff.2 h))
      · exact absurd hkmeets (hnone k hk)
  · have hnone : ∀ n ∈ monitors, ¬ rect.Meets n.monitorRect := fun n hn hmeets =>
      hmet ⟨n, hn, hmeets⟩
    rw [ofRect_of_not_meets hnone, firstLeast_eq_some_iff]
    constructor
    · exact fun h => .inr ⟨hnone, h⟩
    · rintro (⟨hmeets, h⟩ | ⟨-, h⟩)
      · exact absurd hmeets (hnone m h.mem)
      · exact h

theorem ofRect_eq_none_iff : ofRect rect monitors = none ↔ monitors = [] := by
  constructor
  · unfold ofRect
    intro h
    split at h
    · cases h
    · exact firstLeast_eq_none_iff.1 h
  · rintro rfl
    rfl

/-- A monitor that is found is one of the list. -/
theorem mem_of_ofRect? (h : ofRect? rect monitors = some (some m)) : m ∈ monitors := by
  have hfound := (ofRect?_eq_some_iff.1 h).2.symm
  rcases ofRect_eq_some_iff.1 hfound with ⟨-, h⟩ | ⟨-, h⟩ <;> exact h.mem

/-- No monitor is found only if there is none. -/
theorem eq_nil_of_ofRect? (h : ofRect? rect monitors = some none) : monitors = [] :=
  ofRect_eq_none_iff.1 (ofRect?_eq_some_iff.1 h).2.symm

/-! ### It is a best one -/

/-- The monitor has the largest area if one is positive, and the smallest distance if none is. -/
structure Optimal (rect : Rect) (monitors : List Monitor) (m : Monitor) : Prop where
  mem : m ∈ monitors
  largest : (∃ n ∈ monitors, rect.Meets n.monitorRect) → 0 < rect.trueSharedArea m.monitorRect ∧
    ∀ n ∈ monitors, rect.trueSharedArea n.monitorRect ≤ rect.trueSharedArea m.monitorRect
  nearest : (∀ n ∈ monitors, ¬ rect.Meets n.monitorRect) →
    ∀ n ∈ monitors, rect.trueSquaredDistance m.monitorRect ≤ rect.trueSquaredDistance n.monitorRect

/-- The monitor found is a best one. -/
theorem optimal_of_ofRect (h : ofRect rect monitors = some m) : Optimal rect monitors m := by
  rcases ofRect_eq_some_iff.1 h with ⟨hmeets, hgreatest⟩ | ⟨hnone, hleast⟩
  · exact ⟨hgreatest.mem, fun _ => ⟨Rect.trueSharedArea_pos_iff.2 hmeets, hgreatest.le⟩,
      fun hnone => absurd hmeets (hnone m hgreatest.mem)⟩
  · refine ⟨hleast.mem, ?_, fun _ => hleast.le⟩
    rintro ⟨n, hn, hmeets⟩
    exact absurd hmeets (hnone n hn)

end

end Monitor

/-- The search comes to an end exactly when everything that it compares is computed. It finds a
monitor exactly when there is one. It is a monitor of the list. If some monitor is overlapped it has
a positive overlap, as large as any; if none is, its distance is as small as any. -/
theorem ofRect_optimal (rect : Rect) (monitors : List Monitor) :
    ((Monitor.ofRect? rect monitors).isSome ↔ Monitor.Computed rect monitors) ∧
    ∀ found, Monitor.ofRect? rect monitors = some found →
      (found = none ↔ monitors = []) ∧
      ∀ m, found = some m → Monitor.Optimal rect monitors m := by
  refine ⟨Monitor.ofRect?_isSome_iff, fun found hfound => ?_⟩
  obtain ⟨-, rfl⟩ := Monitor.ofRect?_eq_some_iff.1 hfound
  exact ⟨Monitor.ofRect_eq_none_iff, fun m => Monitor.optimal_of_ofRect⟩

/-- A rectangle over the left edge of the main screen. -/
def edgeStrip (right : Coordinate) : Rect := strip (.of (-50)) right

/-- A rectangle right of all screens. -/
def outerStrip : Rect := strip (.of 5000) (.of 5100)

/-- A rectangle on two screens is found on the one that it overlaps more, and a rectangle beyond all
screens on the nearest one. -/
theorem optimal_of_strips :
    (∃ m, Monitor.ofRect? (edgeStrip (.of 100)) [leftScreen, mainScreen] = some (some m) ∧
      0 < (edgeStrip (.of 100)).trueSharedArea m.monitorRect ∧
      (edgeStrip (.of 100)).trueSharedArea leftScreen.monitorRect ≤
        (edgeStrip (.of 100)).trueSharedArea m.monitorRect) ∧
    ∃ m, Monitor.ofRect? outerStrip [leftScreen, mainScreen] = some (some m) ∧
      outerStrip.trueSquaredDistance m.monitorRect ≤
        outerStrip.trueSquaredDistance leftScreen.monitorRect := by
  have hon : Monitor.ofRect? (edgeStrip (.of 100)) [leftScreen, mainScreen] =
      some (some mainScreen) := by decide
  have hoff : Monitor.ofRect? outerStrip [leftScreen, mainScreen] = some (some mainScreen) := by
    decide
  obtain ⟨-, hoptimal⟩ := (ofRect_optimal _ _).2 _ hon
  obtain ⟨-, hoptimal'⟩ := (ofRect_optimal _ _).2 _ hoff
  have hmeets : (edgeStrip (.of 100)).Meets mainScreen.monitorRect :=
    Rect.trueSharedArea_pos_iff.1 (by decide)
  obtain ⟨hpos, hlargest⟩ := (hoptimal _ rfl).largest ⟨mainScreen, by decide, hmeets⟩
  refine ⟨⟨_, hon, hpos, hlargest _ (by decide)⟩, _, hoff, ?_⟩
  refine (hoptimal' _ rfl).nearest (fun n hn hmeets => ?_) _ (by decide)
  -- Nothing is beyond the right edge of the main screen.
  have harea : ∀ n ∈ [leftScreen, mainScreen], outerStrip.trueSharedArea n.monitorRect = 0 := by
    decide
  exact absurd (Rect.trueSharedArea_pos_iff.2 hmeets) (by rw [harea n hn]; decide)

/-! ### Ties -/

/-- In a list without repetitions the last element of greatest score is the first one, too, exactly
when no other element has the same score. -/
theorem LastGreatest.first_iff {α : Type} {score : α → Int} {xs : List α} {x : α} (hxs : xs.Nodup)
    (h : LastGreatest score xs x) :
    FirstGreatest score xs x ↔ ∀ y ∈ xs, score y = score x → y = x := by
  obtain ⟨before, after, rfl, hbefore, hafter⟩ := h
  have hout : x ∉ before ++ after := (List.nodup_cons.1 (List.nodup_middle.1 hxs)).1
  constructor
  · rintro ⟨before', after', heq, hbefore', -⟩ y hy hscore
    -- The element has one place only, so what is before it has a lesser score.
    obtain ⟨rfl, -, rfl⟩ := (List.append_cons_inj_of_notMem
      (fun hx => hout (List.mem_append_left after hx))
      (fun hx => hout (List.mem_append_right before hx))).1 heq
    rcases List.mem_append.1 hy with hy | hy
    · exact absurd hscore (Int.ne_of_lt (hbefore' y hy))
    · rcases List.mem_cons.1 hy with hy | hy
      · exact hy
      · exact absurd hscore (Int.ne_of_lt (hafter y hy))
  · intro halone
    refine ⟨before, after, rfl, fun y hy => ?_, fun y hy => Int.le_of_lt (hafter y hy)⟩
    refine Int.lt_iff_le_and_ne.2 ⟨hbefore y hy, fun hscore => hout (List.mem_append_left after ?_)⟩
    rw [← halone y (List.mem_append_left _ hy) hscore]
    exact hy

namespace Monitor

/-- The second monitor is as good as the first one: it is overlapped as much, and if not at all it
is as near. -/
structure Ties (rect : Rect) (m n : Monitor) : Prop where
  area : rect.sharedArea? n.monitorRect = rect.sharedArea? m.monitorRect
  distance : ¬ rect.Meets m.monitorRect →
    rect.squaredDistanceTo? n.monitorRect = rect.squaredDistanceTo? m.monitorRect

section
variable {rect : Rect} {monitors : List Monitor} {m n : Monitor}

/-- The monitor found is the first of the best ones exactly when no other has the same positive
overlap. -/
theorem foundBy_first_iff (hmonitors : monitors.Nodup) (h : FoundBy LastGreatest rect monitors m) :
    FoundBy FirstGreatest rect monitors m ↔ ∀ n ∈ monitors, rect.Meets n.monitorRect →
      rect.trueSharedArea n.monitorRect = rect.trueSharedArea m.monitorRect → n = m := by
  rcases h with ⟨hmeets, hgreatest⟩ | ⟨hnone, hleast⟩
  · have hfirst := hgreatest.first_iff hmonitors
    constructor
    · rintro (⟨-, h⟩ | ⟨hnone, -⟩) n hn -
      · exact hfirst.1 h n hn
      · exact absurd hmeets (hnone m hgreatest.mem)
    · intro halone
      refine .inl ⟨hmeets, hfirst.2 fun n hn harea => halone n hn ?_ harea⟩
      rw [← Rect.trueSharedArea_pos_iff, harea, Rect.trueSharedArea_pos_iff]
      exact hmeets
  · refine iff_of_true (.inr ⟨hnone, hleast⟩) fun n hn hmeets => ?_
    exact absurd hmeets (hnone n hn)

section
variable (hcomputed : Computed rect monitors) (hm : m ∈ monitors) (hties : Ties rect m n)
include hcomputed hm hties

/-- What ties with a monitor of which everything is computed is overlapped as much. -/
theorem Ties.trueSharedArea_eq :
    rect.trueSharedArea n.monitorRect = rect.trueSharedArea m.monitorRect := by
  obtain ⟨a, ha⟩ := Option.isSome_iff_exists.1 (hcomputed.areas m hm)
  rw [Rect.trueSharedArea_of_some ha, Rect.trueSharedArea_of_some (hties.area.trans ha)]

theorem Ties.meets_iff : rect.Meets n.monitorRect ↔ rect.Meets m.monitorRect := by
  rw [← Rect.trueSharedArea_pos_iff, hties.trueSharedArea_eq hcomputed hm,
    Rect.trueSharedArea_pos_iff]

/-- So everything is computed with it, too. -/
theorem Ties.computed_concat : Computed rect (monitors ++ [n]) where
  areas k hk := by
    rcases List.mem_append.1 hk with hk | hk
    · exact hcomputed.areas k hk
    · rw [List.mem_singleton.1 hk, hties.area]
      exact hcomputed.areas m hm
  distances hnone k hk := by
    have hnone' : ∀ k ∈ monitors, ¬ rect.Meets k.monitorRect := fun k hk =>
      hnone k (List.mem_append_left _ hk)
    rcases List.mem_append.1 hk with hk | hk
    · exact hcomputed.distances hnone' k hk
    · rw [List.mem_singleton.1 hk, hties.distance (hnone' m hm)]
      exact hcomputed.distances hnone' m hm

end

/-- A monitor that is added at the end and is as good as the one found is found instead if it is
overlapped, and not if the search is by distance. -/
theorem foundBy_concat (hcomputed : Computed rect monitors)
    (h : FoundBy LastGreatest rect monitors m) (hties : Ties rect m n) :
    (rect.Meets m.monitorRect → FoundBy LastGreatest rect (monitors ++ [n]) n) ∧
    (¬ rect.Meets m.monitorRect → FoundBy LastGreatest rect (monitors ++ [n]) m) := by
  rcases h with ⟨hmeets, hgreatest⟩ | ⟨hnone, hleast⟩
  · refine ⟨fun _ => .inl ⟨?_, monitors, [], rfl, fun k hk => ?_, fun _ hk => nomatch hk⟩,
      fun hnot => absurd hmeets hnot⟩
    · exact (hties.meets_iff hcomputed hgreatest.mem).2 hmeets
    · exact Int.le_trans (hgreatest.le k hk)
        (Int.le_of_eq (hties.trueSharedArea_eq hcomputed hgreatest.mem).symm)
  · have hm := hnone m hleast.mem
    refine ⟨fun hmeets => absurd hmeets hm, fun _ => .inr ⟨fun k hk => ?_, hleast.concat ?_⟩⟩
    · rcases List.mem_append.1 hk with hk | hk
      · exact hnone k hk
      · rw [List.mem_singleton.1 hk, hties.meets_iff hcomputed hleast.mem]
        exact hm
    · obtain ⟨d, hd⟩ := Option.isSome_iff_exists.1 (hcomputed.distances hnone m hleast.mem)
      show rect.trueSquaredDistance m.monitorRect ≤ rect.trueSquaredDistance n.monitorRect
      rw [Rect.trueSquaredDistance_of_some hd,
        Rect.trueSquaredDistance_of_some ((hties.distance hm).trans hd)]

end

end Monitor

/-- Of several monitors with the largest overlap the last one is found, and of several nearest ones
the first. So among different monitors the one found is the first of the best ones exactly when no
other has the same positive overlap. A monitor as good as the one found that is added at the end
replaces it if it is overlapped, and changes nothing otherwise. -/
theorem ofRect_ties (rect : Rect) (monitors : List Monitor) (found : Option Monitor)
    (hfound : Monitor.ofRect? rect monitors = some found) :
    (∀ m, found = some m ↔ Monitor.FoundBy LastGreatest rect monitors m) ∧
    (monitors.Nodup → ∀ m, found = some m →
      (Monitor.FoundBy FirstGreatest rect monitors m ↔
        ∀ n ∈ monitors, rect.Meets n.monitorRect →
          rect.trueSharedArea n.monitorRect = rect.trueSharedArea m.monitorRect → n = m)) ∧
    ∀ m n, found = some m → Monitor.Ties rect m n →
      (rect.Meets m.monitorRect → Monitor.ofRect? rect (monitors ++ [n]) = some (some n)) ∧
      (¬ rect.Meets m.monitorRect → Monitor.ofRect? rect (monitors ++ [n]) = some (some m)) := by
  obtain ⟨hcomputed, rfl⟩ := Monitor.ofRect?_eq_some_iff.1 hfound
  refine ⟨fun m => Monitor.ofRect_eq_some_iff, fun hmonitors m hm => ?_, fun m n hm hties => ?_⟩
  · exact Monitor.foundBy_first_iff hmonitors (Monitor.ofRect_eq_some_iff.1 hm)
  · have hby := Monitor.ofRect_eq_some_iff.1 hm
    have hmem : m ∈ monitors := (Monitor.optimal_of_ofRect hm).mem
    have hconcat := hties.computed_concat hcomputed hmem
    obtain ⟨hmeets, hnot⟩ := Monitor.foundBy_concat hcomputed hby hties
    constructor
    · intro h
      exact Monitor.ofRect?_eq_some_iff.2 ⟨hconcat, (Monitor.ofRect_eq_some_iff.2 (hmeets h)).symm⟩
    · intro h
      exact Monitor.ofRect?_eq_some_iff.2 ⟨hconcat, (Monitor.ofRect_eq_some_iff.2 (hnot h)).symm⟩

/-- A screen right of the main one. -/
def rightScreen (handle : Word64) : Monitor :=
  MonitorCheck.fullScreen handle (.of 1920) (.of 3840)

/-- Of two mirrored screens a rectangle on them is found on the second one, which is not the first
of the best; a rectangle beyond them is found on the first one, and stays there if a third screen is
mirrored. -/
theorem ties_of_mirroredScreens :
    [rightScreen (.of 3), rightScreen (.of 4)].Nodup ∧
    Monitor.ofRect? (strip (.of 2000) (.of 2100)) [rightScreen (.of 3), rightScreen (.of 4)] =
      some (some (rightScreen (.of 4))) ∧
    ¬ Monitor.FoundBy FirstGreatest (strip (.of 2000) (.of 2100))
      [rightScreen (.of 3), rightScreen (.of 4)] (rightScreen (.of 4)) ∧
    Monitor.ofRect? outerStrip [rightScreen (.of 3), rightScreen (.of 4)] =
      some (some (rightScreen (.of 3))) ∧
    Monitor.Ties outerStrip (rightScreen (.of 3)) (rightScreen (.of 5)) ∧
    Monitor.ofRect? outerStrip [rightScreen (.of 3), rightScreen (.of 4), rightScreen (.of 5)] =
      some (some (rightScreen (.of 3))) := by
  have hmirrored : [rightScreen (.of 3), rightScreen (.of 4)].Nodup := by decide
  have hon : Monitor.ofRect? (strip (.of 2000) (.of 2100))
      [rightScreen (.of 3), rightScreen (.of 4)] = some (some (rightScreen (.of 4))) := by decide
  have hoff : Monitor.ofRect? outerStrip [rightScreen (.of 3), rightScreen (.of 4)] =
      some (some (rightScreen (.of 3))) := by decide
  have hties : Monitor.Ties outerStrip (rightScreen (.of 3)) (rightScreen (.of 5)) :=
    ⟨by decide, fun _ => by decide⟩
  have hbeyond : ¬ outerStrip.Meets (rightScreen (.of 3)).monitorRect := by
    rw [← Rect.trueSharedArea_pos_iff]
    decide
  refine ⟨hmirrored, hon, ?_, hoff, hties, ((ofRect_ties _ _ _ hoff).2.2 _ _ rfl hties).2 hbeyond⟩
  rw [(ofRect_ties _ _ _ hon).2.1 hmirrored _ rfl]
  intro halone
  have hmeets : (strip (.of 2000) (.of 2100)).Meets (rightScreen (.of 3)).monitorRect :=
    Rect.trueSharedArea_pos_iff.1 (by decide)
  exact absurd (halone (rightScreen (.of 3)) (by decide) hmeets (by decide)) (by decide)

/-- A rectangle that is half on one screen and half on another is found on the second of them,
although the first has the same overlap. Alone, the first one was found, and the other one only ties
with it. -/
theorem straddled_tie_fails :
    Monitor.ofRect? (edgeStrip (.of 50)) [leftScreen, mainScreen] = some (some mainScreen) ∧
    Monitor.FoundBy FirstGreatest (edgeStrip (.of 50)) [leftScreen, mainScreen] leftScreen ∧
    ¬ Monitor.FoundBy FirstGreatest (edgeStrip (.of 50)) [leftScreen, mainScreen] mainScreen ∧
    Monitor.ofRect? (edgeStrip (.of 50)) [leftScreen] = some (some leftScreen) ∧
    Monitor.Ties (edgeStrip (.of 50)) leftScreen mainScreen := by
  have hgreatest :
      LastGreatest (fun n : Monitor => (edgeStrip (.of 50)).trueSharedArea n.monitorRect)
      [leftScreen, mainScreen] mainScreen :=
    lastGreatest_of_eq_some (by decide)
  have hleft : (edgeStrip (.of 50)).Meets leftScreen.monitorRect :=
    Rect.trueSharedArea_pos_iff.1 (by decide)
  have hmain : (edgeStrip (.of 50)).Meets mainScreen.monitorRect :=
    Rect.trueSharedArea_pos_iff.1 (by decide)
  refine ⟨by decide, .inl ⟨hleft, StandsOut.head (by decide)⟩, ?_, by decide, by decide,
    fun hnone => absurd hleft hnone⟩
  rw [Monitor.foundBy_first_iff (by decide) (.inl ⟨hmain, hgreatest⟩)]
  exact fun halone => absurd (halone leftScreen (by decide) hleft (by decide)) (by decide)

end DeskPlan
