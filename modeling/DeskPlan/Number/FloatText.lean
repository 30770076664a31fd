import DeskPlan.Number.Shortest

/-!
# `DeskPlan.Number.FloatText`: how a float is written

A float is written with the digits of its shortest decimal. A `FloatLayout` says which
magnitudes are written positionally and how an exponent looks. Documents use
`FloatLayout.document`, messages of formulas use `FloatLayout.formula`.
-/

set_option autoImplicit false

namespace DeskPlan

/-- The decisions of a float format. -/
structure FloatLayout where
  /-- The least magnitude written positionally. -/
  least : Float
  /-- The greatest magnitude written positionally. -/
  most : Float
  /-- Whether a positive exponent carries a plus sign. -/
  plusExponent : Bool
  /-- Whether an integral value with an exponent keeps its sign at zero. -/
  signedZero : Bool
  /-- What is written for a value in the middle between two shortest decimals. -/
  tie : Tie

namespace FloatLayout

/-- Documents: positional from `1e-5` up to, but not including, `1e16`. -/
def document : FloatLayout := ⟨1e-5, 9999999999999998.0, true, true, .toEven⟩

/-- Formulas: positional between the single-precision neighbours of `1e-13` and `1e13`. -/
def formula : FloatLayout := ⟨9.9999998245167e-14, 9999999827968.0, false, false, .up⟩

end FloatLayout

/-- `digits · 10 ^ exponent` without an exponent; an integral value ends in `.0`. -/
def Decimal.positional (d : Decimal) : String :=
  let digits := toString d.digits
  if 0 ≤ d.exponent then digits ++ String.ofList (List.replicate d.exponent.toNat '0') ++ ".0"
  else
    let places := (-d.exponent).toNat
    let padded := String.ofList (List.replicate (places + 1 - digits.length) '0') ++ digits
    let whole := padded.length - places
    String.ofList (padded.toList.take whole) ++ "." ++ String.ofList (padded.toList.drop whole)

/-- `digits · 10 ^ exponent` with one digit before the point and an exponent. -/
def Decimal.scientific (d : Decimal) (plus : Bool) : String :=
  let digits := (toString d.digits).toList
  let exponent := d.exponent + digits.length - 1
  let head := String.ofList (digits.take 1)
  let tail := if digits.length ≤ 1 then "" else "." ++ String.ofList (digits.drop 1)
  head ++ tail ++ "e" ++ (if plus && decide (0 ≤ exponent) then "+" else "") ++ toString exponent

/-- The text of a float. -/
def FloatLayout.write (layout : FloatLayout) (x : Float) : String :=
  let negative := x.toBits.toNat / Nat.pow 2 63 = 1
  match Binary.ofFloat? x with
  | none =>
    if x.isNaN then "NaN" else if negative then "-inf" else "inf"
  | some b =>
    if b.mantissa = 0 then (if negative && layout.signedZero then "-0.0" else "0.0")
    else
      let d := b.shortest layout.tie
      let magnitude := x.abs
      (if negative then "-" else "") ++
        if layout.least ≤ magnitude && magnitude ≤ layout.most then d.positional
        else d.scientific layout.plusExponent

end DeskPlan
