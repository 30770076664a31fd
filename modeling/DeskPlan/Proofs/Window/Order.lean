import DeskPlan.Proofs.Sorting
import DeskPlan.Window.Order
import Mathlib.Data.List.Nodup
import Mathlib.Data.List.TakeWhile

/-!
# `DeskPlan.Proofs.Window.Order`: the order in which windows are processed

`Window.inProcessingOrder` sorts the windows beside their keys and drops the keys again. It is a
sort by the key (`inProcessingOrder_eq`), first the file name in lower case, then the file name, and
it loses no window (`inProcessingOrder_perm`).

* `isLastPart_lastPart`: a file name is the longest part at the end of a path that holds no
  separator;
* `orderKey_eq_iff`: the key tells file names apart, so windows of one file name are those of one
  key, and these come side by side, as they were found;
* `processing_order` is the main statement.
-/

set_option autoImplicit false

namespace DeskPlan.Window

/-! ### File names -/

/-- The characters are the longest part at the end of a path that holds no separator. -/
structure IsLastPart (path part : List Char) : Prop where
  suffix : part <:+ path
  plain : ∀ c ∈ part, c ≠ '\\' ∧ c ≠ '/'
  longest : ∀ s, s <:+ path → (∀ c ∈ s, c ≠ '\\' ∧ c ≠ '/') → s <:+ part

theorem not_isSeparator_iff (c : Char) : (!isSeparator c) = true ↔ c ≠ '\\' ∧ c ≠ '/' := by
  simp [isSeparator]

theorem isLastPart_lastPart (path : List Char) : IsLastPart path (lastPart path) where
  suffix := by
    rw [← List.reverse_prefix, lastPart, List.reverse_reverse]
    exact List.takeWhile_prefix _
  plain c hc := by
    rw [lastPart, List.mem_reverse] at hc
    exact (not_isSeparator_iff c).1 (List.mem_takeWhile_imp (p := fun c => !isSeparator c) hc)
  longest s hs hplain := by
    -- Seen from the end, the part is taken before anything else.
    obtain ⟨front, rfl⟩ := hs
    have hall : ∀ c ∈ s.reverse, (!isSeparator c) = true :=
      fun c hc => (not_isSeparator_iff c).2 (hplain c (List.mem_reverse.1 hc))
    rw [lastPart, List.reverse_append, List.takeWhile_append_of_pos hall, List.reverse_append,
      List.reverse_reverse]
    exact List.suffix_append _ _

/-- The file name of a program is the last part of its path. -/
theorem fileName_cases (w : Window) :
    match w.programPath with
    | some path => IsLastPart path.toList w.fileName.toList
    | none => w.fileName = "" := by
  unfold fileName
  cases w.programPath with
  | some path =>
    dsimp only
    rw [String.toList_ofList]
    exact isLastPart_lastPart path.toList
  | none => rfl

/-! ### The sort -/

/-- Windows of one file name are those of one key. -/
theorem orderKey_eq_iff (v w : Window) : v.orderKey = w.orderKey ↔ v.fileName = w.fileName := by
  constructor
  · exact fun h => (Prod.mk.inj h).2
  · intro h
    rw [orderKey, orderKey, h]

theorem compares_orderKey :
    Sorting.Compares (fun v w : Window => keyLE v.orderKey w.orderKey)
      fun w => toLex w.orderKey :=
  fun v w => Sorting.lexTest_iff v.orderKey w.orderKey

/-- The windows are sorted by their keys. -/
theorem inProcessingOrder_eq (windows : List Window) :
    inProcessingOrder windows = windows.mergeSort fun v w => keyLE v.orderKey w.orderKey := by
  rw [inProcessingOrder, Sorting.map_mergeSort_map fun _ => rfl]

/-- The windows in processing order are the windows. -/
theorem inProcessingOrder_perm (windows : List Window) :
    (inProcessingOrder windows).Perm windows := by
  rw [inProcessingOrder_eq]
  exact List.mergeSort_perm windows _

/-- Windows that are found in processing order stay in it. -/
theorem inProcessingOrder_of_pairwise {windows : List Window}
    (h : windows.Pairwise fun v w => keyLE v.orderKey w.orderKey = true) :
    inProcessingOrder windows = windows := by
  rw [inProcessingOrder_eq]
  exact List.mergeSort_of_pairwise h

/-- Two orders in which the windows are found lead to one processing order, if no two windows have
the same file name. -/
theorem inProcessingOrder_of_perm {windows windows' : List Window} (h : windows'.Perm windows)
    (hnames : (windows.map fileName).Nodup) :
    inProcessingOrder windows' = inProcessingOrder windows := by
  have hperm : (inProcessingOrder windows').Perm (inProcessingOrder windows) :=
    (inProcessingOrder_perm windows').trans (h.trans (inProcessingOrder_perm windows).symm)
  have hsorted := compares_orderKey.pairwise_mergeSort windows
  have hsorted' := compares_orderKey.pairwise_mergeSort windows'
  rw [← inProcessingOrder_eq] at hsorted hsorted'
  refine hperm.eq_of_pairwise (fun v w hv hw hvw hwv => ?_) hsorted' hsorted
  have hkey : v.orderKey = w.orderKey := toLex.injective (le_antisymm hvw hwv)
  have hv' : v ∈ windows := (inProcessingOrder_perm windows).subset (hperm.subset hv)
  have hw' : w ∈ windows := (inProcessingOrder_perm windows).subset hw
  exact List.inj_on_of_nodup_map hnames hv' hw' ((orderKey_eq_iff v w).1 hkey)

/-- The processing order has the windows, each as often as they have it. Their keys, the file name
in lower case and the file name, come in order, and windows of one key as they were found. A file
name is the longest part at the end of the path without a separator, and empty where the path is
unknown. So the windows of one file name come one after the other, and where no two windows have the
same file name, the order in which they were found makes no difference. -/
theorem processing_order (windows : List Window) :
    (inProcessingOrder windows).Perm windows ∧
    ((inProcessingOrder windows).Pairwise fun v w =>
      toLex (Text.lower v.fileName, v.fileName) ≤ toLex (Text.lower w.fileName, w.fileName)) ∧
    (∀ key,
      (inProcessingOrder windows).filter (fun w => (Text.lower w.fileName, w.fileName) = key) =
        windows.filter fun w => (Text.lower w.fileName, w.fileName) = key) ∧
    (∀ w : Window, match w.programPath with
      | some path => IsLastPart path.toList w.fileName.toList
      | none => w.fileName = "") ∧
    (∀ name, ∃ front back,
      inProcessingOrder windows = front ++ windows.filter (·.fileName = name) ++ back ∧
      ∀ w ∈ front ++ back, w.fileName ≠ name) ∧
    ∀ windows', windows'.Perm windows → (windows.map fileName).Nodup →
      inProcessingOrder windows' = inProcessingOrder windows := by
  have hsorted := compares_orderKey.pairwise_mergeSort windows
  have hstable := compares_orderKey.filter_mergeSort windows
  rw [← inProcessingOrder_eq] at hsorted hstable
  have hkeys : ∀ key : String × String,
      (fun w : Window => decide ((Text.lower w.fileName, w.fileName) = key)) =
        fun w => decide (toLex w.orderKey = toLex key) :=
    fun key => funext fun w => decide_eq_decide.2 toLex_inj.symm
  refine ⟨inProcessingOrder_perm windows, hsorted, fun key => ?_, fileName_cases, fun name => ?_,
    fun _ => inProcessingOrder_of_perm⟩
  · rw [hkeys]
    exact hstable (toLex key)
  -- The windows of the name are those between the smaller keys and the greater ones.
  have hsplit := Sorting.eq_append_of_pairwise hsorted (toLex (Text.lower name, name))
  have hname : ∀ w : Window, w.orderKey = (Text.lower name, name) ↔ w.fileName = name := by
    intro w
    constructor
    · exact fun h => (Prod.mk.inj h).2
    · rintro rfl
      rfl
  have hblock : (windows.filter fun w => toLex w.orderKey = toLex (Text.lower name, name)) =
      windows.filter (·.fileName = name) :=
    List.filter_congr fun w _ => decide_eq_decide.2 (hname w)
  rw [hstable, hblock] at hsplit
  refine ⟨_, _, hsplit, fun w hw hw' => ?_⟩
  have hkey : toLex w.orderKey = toLex (Text.lower name, name) := (hname w).2 hw'
  rcases List.mem_append.1 hw with hw | hw
  · exact (of_decide_eq_true (List.mem_filter.1 hw).2).ne hkey
  · exact (of_decide_eq_true (List.mem_filter.1 hw).2).ne' hkey

/-- A window of a program with a path. -/
def ofProgram (path : Option String) : Window where
  handle := ⟨24, by decide, by decide⟩
  rect := ⟨.zero, .zero, .zero, .zero⟩
  title := ""
  className := ""
  programPath := path
  taskbarAppId := none
  taskbarIndex := none
  taskbarSubIndex := none
  isToolWindow := false

/-- Windows of programs with names that differ in case alone, and one of an unknown program. -/
def chromeWindows : List Window :=
  [ofProgram none, ofProgram (some "C:\\a/CHROME.EXE"), ofProgram (some "C:\\b\\chrome.exe"),
    ofProgram (some "D:/Code.exe")]

/-- However the windows are found, the unknown program comes first, and of the names that differ in
case alone the one in capitals. -/
theorem order_of_chromeWindows :
    (chromeWindows.map fileName).Nodup ∧
    inProcessingOrder chromeWindows.reverse = chromeWindows := by
  have hnames : (chromeWindows.map fileName).Nodup := by decide +kernel
  have hordered : inProcessingOrder chromeWindows = chromeWindows :=
    inProcessingOrder_of_pairwise (by decide +kernel)
  obtain ⟨-, -, -, -, -, hperm⟩ := processing_order chromeWindows
  exact ⟨hnames, (hperm _ chromeWindows.reverse_perm hnames).trans hordered⟩

end DeskPlan.Window
