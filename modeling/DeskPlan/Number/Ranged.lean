/-!
# `DeskPlan.Number.Ranged`: integers confined to a range

Screen coordinates, resolutions and window handles are integers of a fixed range. A
`Ranged lo hi` is an integer together with the proof that it lies between `lo` and `hi`, so
arithmetic on it is arithmetic on `Int` and every range check is an explicit `ofInt?`.

* `Ranged.ofInt?` accepts exactly the integers of the range (`ofInt?_eq_some_iff`);
* `Ranged.of` is an integer that is written out, with its range checked on the spot.
-/

set_option autoImplicit false

namespace DeskPlan

/-- An integer between `lo` and `hi`, both included. -/
structure Ranged (lo hi : Int) where
  val : Int
  lo_le : lo ≤ val
  le_hi : val ≤ hi
deriving DecidableEq, Repr

namespace Ranged

variable {lo hi : Int}

/-- Two ranged integers with the same value are equal. -/
theorem ext_val {a b : Ranged lo hi} (h : a.val = b.val) : a = b := by
  cases a; cases b; simp_all

/-- An integer of the range that is written out. Its range is checked by computing. -/
def of (n : Int) (h : (lo ≤ n && n ≤ hi) = true := by exact Eq.refl true) : Ranged lo hi where
  val := n
  lo_le := of_decide_eq_true (Bool.and_eq_true_iff.1 h).1
  le_hi := of_decide_eq_true (Bool.and_eq_true_iff.1 h).2

/-- The integer, if it lies in the range. -/
def ofInt? (n : Int) : Option (Ranged lo hi) :=
  if h : lo ≤ n ∧ n ≤ hi then some ⟨n, h.1, h.2⟩ else none

/-- `ofInt?` accepts an integer of the range and returns it unchanged. -/
@[simp] theorem ofInt?_val (a : Ranged lo hi) : ofInt? a.val = some a := by
  simp [ofInt?, a.lo_le, a.le_hi]

/-- `ofInt? n` is `a` exactly when `n` is the value of `a`. -/
theorem ofInt?_eq_some_iff {n : Int} {a : Ranged lo hi} : ofInt? n = some a ↔ n = a.val := by
  constructor
  · intro h
    unfold ofInt? at h
    split at h
    · cases h; rfl
    · cases h
  · rintro rfl; exact ofInt?_val a

/-- `ofInt?` refuses an integer exactly when it lies outside the range. -/
theorem ofInt?_eq_none_iff {n : Int} :
    (ofInt? n : Option (Ranged lo hi)) = none ↔ ¬ (lo ≤ n ∧ n ≤ hi) := by
  unfold ofInt?
  split <;> simp_all

end Ranged

/-- A position or an extent on the virtual screen: a signed 32-bit integer. -/
abbrev Coordinate := Ranged (-2147483648) 2147483647

/-- An unsigned 32-bit integer: a resolution in dots per inch, or an index on the taskbar. -/
abbrev Word32 := Ranged 0 4294967295

/-- An unsigned 64-bit integer: the handle of a window or of a monitor. -/
abbrev Word64 := Ranged 0 18446744073709551615

/-- The coordinate zero. -/
def Coordinate.zero : Coordinate := .of 0

end DeskPlan
