import DeskPlan.Monitor.Basic

/-!
# `DeskPlan.Monitor.Location`: the monitor a rectangle is on

A rectangle is on the monitor it overlaps most. If it overlaps none it is on the nearest one,
measured from its centre. Every overlap is computed before any of them is compared, and so is
every distance.

* `lastGreatest` returns the last element of greatest score;
* `firstLeast` returns the first element of least score.
-/

set_option autoImplicit false

namespace DeskPlan

variable {α : Type}

/-- The last element of greatest score. -/
def lastGreatest (score : α → Int) : List α → Option α
  | [] => none
  | x :: xs =>
    match lastGreatest score xs with
    | none => some x
    | some y => if score x ≤ score y then some y else some x

/-- The first element of least score. -/
def firstLeast (score : α → Int) : List α → Option α
  | [] => none
  | x :: xs =>
    match firstLeast score xs with
    | none => some x
    | some y => if score y < score x then some y else some x

namespace Monitor

/-- The monitor a rectangle is on: largest overlap, otherwise nearest. -/
def ofRect? (rect : Rect) (monitors : List Monitor) : Checked (Option Monitor) := do
  let areas ← Checked.tagged (fun m => rect.sharedArea? m.monitorRect) monitors
  match lastGreatest Prod.snd (areas.filter fun a => 0 < a.2) with
  | some (m, _) => return some m
  | none =>
    let distances ← Checked.tagged (fun m => rect.squaredDistanceTo? m.monitorRect) monitors
    return (firstLeast Prod.snd distances).map Prod.fst

end Monitor

end DeskPlan
