/-!
# `DeskPlan.Number.Checked`: arithmetic that ends the program

Extents, overlaps and distances are computed with fixed numbers of bits. A result that does not
fit ends the program at once, whatever it was going to do with it. What depends on such a result
is `Checked`: it may be missing, and then nothing comes after it.

* `Checked.tagged` computes something for each element of a list, and `Checked.keepWhere` keeps
  the elements for which a test holds;
* both are missing as soon as one of their parts is (`tagged_isSome_iff`,
  `keepWhere_isSome_iff`).
-/

set_option autoImplicit false

namespace DeskPlan

/-- The result of arithmetic: `none` where a number leaves its range, which ends the program. -/
abbrev Checked (α : Type) := Option α

/-- An integer in 64-bit arithmetic. -/
def within64 (n : Int) : Checked Int :=
  if -9223372036854775808 ≤ n ∧ n ≤ 9223372036854775807 then some n else none

theorem within64_eq_some_iff {n m : Int} :
    within64 n = some m ↔ n = m ∧ -9223372036854775808 ≤ n ∧ n ≤ 9223372036854775807 := by
  unfold within64
  split
  · rename_i h
    simp [h]
  · rename_i h
    simp [h]

namespace Checked

variable {α β : Type}

/-- The elements of a list, each with what is computed for it. -/
def tagged (f : α → Checked β) (xs : List α) : Checked (List (α × β)) :=
  xs.mapM fun x => (f x).map fun b => (x, b)

/-- The elements of a list for which a test holds. -/
def keepWhere (test : α → Checked Bool) (xs : List α) : Checked (List α) :=
  (tagged test xs).map fun ts => (ts.filter Prod.snd).map Prod.fst

theorem tagged_cons (f : α → Checked β) (x : α) (xs : List α) :
    tagged f (x :: xs) = (f x).bind fun b => (tagged f xs).map fun ts => (x, b) :: ts := by
  unfold tagged
  rw [List.mapM_cons]
  cases f x with
  | none => rfl
  | some b => cases List.mapM (fun x => (f x).map fun b => (x, b)) xs <;> rfl

/-- Where something is computed for every element, every element is given it. -/
theorem tagged_of_forall {f : α → Checked β} {g : α → β} {xs : List α}
    (h : ∀ x ∈ xs, f x = some (g x)) : tagged f xs = some (xs.map fun x => (x, g x)) := by
  induction xs with
  | nil => rfl
  | cons x xs ih =>
    rw [tagged_cons, h x List.mem_cons_self, ih fun y hy => h y (List.mem_cons_of_mem x hy)]
    rfl

/-- Nothing is computed for a list exactly where nothing is computed for one of its elements. -/
theorem tagged_isSome_iff {f : α → Checked β} {xs : List α} :
    (tagged f xs).isSome ↔ ∀ x ∈ xs, (f x).isSome := by
  induction xs with
  | nil => simp [tagged]
  | cons x xs ih =>
    rw [tagged_cons, List.forall_mem_cons, ← ih]
    cases f x <;> simp

/-- Where the test can be made on every element, those that pass it are kept. -/
theorem keepWhere_of_forall {test : α → Checked Bool} {passes : α → Bool} {xs : List α}
    (h : ∀ x ∈ xs, test x = some (passes x)) : keepWhere test xs = some (xs.filter passes) := by
  rw [keepWhere, tagged_of_forall h, Option.map_some, List.filter_map, List.map_map]
  exact congrArg some (List.map_id' _)

theorem keepWhere_isSome_iff {test : α → Checked Bool} {xs : List α} :
    (keepWhere test xs).isSome ↔ ∀ x ∈ xs, (test x).isSome := by
  rw [keepWhere, Option.isSome_map, tagged_isSome_iff]

end Checked

end DeskPlan
