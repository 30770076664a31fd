/-!
# `DeskPlan.Number.Shortest`: the shortest decimal of a float

A finite double is `m · 2 ^ q`. Every real between the midpoints to its two neighbours rounds
to it (the midpoints included when `m` is even). `shortest` looks for a decimal in that
interval, first with one significant digit, then with two, and so on up to seventeen, which
always suffice. On each decimal grid only the two neighbours of the value itself are tried,
because a grid that meets the interval meets it next to the value. When the value lies in the
middle between them, a `Tie` decides.

All arithmetic is on natural numbers: the interval and the grid are scaled to one common
denominator.
-/

set_option autoImplicit false

namespace DeskPlan

/-- Which of two grid points is taken when the value lies in the middle between them. -/
inductive Tie where
  | up
  | toEven
deriving DecidableEq, Repr

/-- Whether the point above is taken, the point below being `below`. -/
def Tie.takesAbove (tie : Tie) (below : Nat) : Bool :=
  match tie with
  | up => true
  | toEven => below % 2 = 1

/-- The value `digits · 10 ^ exponent`. -/
structure Decimal where
  digits : Nat
  exponent : Int
deriving DecidableEq, Repr

namespace Decimal

/-- The same value without trailing zeros in the digits. The fuel bounds their number. -/
def strip : Nat → Decimal → Decimal
  | 0, d => d
  | fuel + 1, d =>
    if d.digits ≠ 0 ∧ d.digits % 10 = 0 then strip fuel ⟨d.digits / 10, d.exponent + 1⟩ else d

end Decimal

/-- A positive finite double as `mantissa · 2 ^ exponent`; `lowest` holds when the neighbour
below is nearer than the neighbour above. -/
structure Binary where
  mantissa : Nat
  exponent : Int
  lowest : Bool
deriving DecidableEq, Repr

namespace Binary

/-- The magnitude of a double, `none` for an infinity or a NaN. -/
def ofFloat? (x : Float) : Option Binary :=
  let bits := x.toBits.toNat
  let field : Nat := bits / Nat.pow 2 52 % Nat.pow 2 11
  let fraction := bits % Nat.pow 2 52
  if field = 2047 then none
  else if field = 0 then some ⟨fraction, -1074, false⟩
  else some ⟨fraction + Nat.pow 2 52, (field : Int) - 1075, fraction = 0 && decide (1 < field)⟩

/-- `10 ^ e` for `e ≥ 0` and `1` otherwise. -/
def tenUp (e : Int) : Nat := Nat.pow 10 e.toNat

/-- Whether the value is at least `10 ^ e`. -/
def atLeastTenPow (b : Binary) (e : Int) : Bool :=
  tenUp e * Nat.pow 2 (-b.exponent).toNat ≤
    b.mantissa * Nat.pow 2 b.exponent.toNat * tenUp (-e)

/-- The exponent of the first significant decimal digit: the greatest `e` with `10 ^ e` at
most the value, for a value that is not zero. The estimate from the binary length is at most
one too small. -/
def firstDigit (b : Binary) : Int :=
  let estimate := ((b.mantissa.log2 : Int) + b.exponent) * 30103 / 100000
  if b.atLeastTenPow (estimate + 1) then estimate + 1
  else if b.atLeastTenPow estimate then estimate
  else estimate - 1

/-- A decimal on the grid of `10 ^ unit` that rounds to the value: of the two grid points next
to it the nearer one that lies in the rounding interval. -/
def onGrid? (tie : Tie) (b : Binary) (unit : Int) : Option Decimal :=
  -- In units of a quarter of the last place, the midpoints to both neighbours are integers.
  let scale := Nat.pow 2 (b.exponent - 2).toNat * tenUp (-unit)
  let value := 4 * b.mantissa * scale
  let low := (4 * b.mantissa - if b.lowest then 1 else 2) * scale
  let high := (4 * b.mantissa + 2) * scale
  let step := Nat.pow 2 (2 - b.exponent).toNat * tenUp unit
  let inside (n : Nat) : Bool :=
    if b.mantissa % 2 = 0 then low ≤ n * step && n * step ≤ high
    else low < n * step && n * step < high
  let below := value / step
  let above := below + 1
  -- Zero stands for no positive value.
  let belowIn := decide (0 < below) && inside below
  let aboveIn := inside above
  if belowIn && aboveIn then
    let takesAbove := match compare (value - below * step) (above * step - value) with
      | .lt => false
      | .eq => tie.takesAbove below
      | .gt => true
    some ⟨if takesAbove then above else below, unit⟩
  else if belowIn then some ⟨below, unit⟩
  else if aboveIn then some ⟨above, unit⟩
  else none

/-- The first grid, from `unit` downwards, that holds a decimal rounding to the value. -/
def searchGrids (tie : Tie) (b : Binary) : Nat → Int → Decimal
  | 0, unit => ⟨b.mantissa, unit⟩
  | fuel + 1, unit =>
    match b.onGrid? tie unit with
    | some d => d
    | none => searchGrids tie b fuel (unit - 1)

/-- The decimal with the fewest digits that rounds to the value, nearest to it among those. -/
def shortest (tie : Tie) (b : Binary) : Decimal :=
  if b.mantissa = 0 then ⟨0, 0⟩ else (b.searchGrids tie 17 b.firstDigit).strip 20

end Binary

end DeskPlan
