import ClauseSql.Decimal.Binary64

/-!
# Shortest decimal text of a double

A double is written with the fewest significant digits that still read back as it.

## What is here

* `Binary64.shortest` — the digits of a positive double and the power of ten of the last one.  Of
  two candidates with as few digits the nearer one is taken, and of two equally near the even one.
* `Layout` — where positional writing ends and scientific writing begins, and `Layout.write`, which
  lays out digits accordingly.
-/

set_option autoImplicit false

namespace ClauseSql

namespace Binary64

/-! ## The interval that rounds to a double -/

/-- The power of two in which the ends of the rounding interval are whole numbers. -/
def quarterExponent (x : Binary64) : Int := x.exponent - 2

/-- The absolute value, in units of `2 ^ quarterExponent`. -/
def centre (x : Binary64) : Nat := 4 * x.significand

/-- The lower end of the interval of reals that round to the double.  Below a power of two the
neighbouring doubles are half as far apart. -/
def lowerEnd (x : Binary64) : Nat :=
  if x.significand = Nat.pow 2 (significandBits - 1) ∧ leastExponent < x.exponent then x.centre - 1
  else x.centre - 2

/-- The upper end of the interval of reals that round to the double. -/
def upperEnd (x : Binary64) : Nat := x.centre + 2

/-- The ends round to the double exactly when its significand is even. -/
def endsIncluded (x : Binary64) : Bool := x.significand % 2 == 0

/-! ## Candidates on a decimal grid -/

/-- Every positive double exceeds ten to minus this power. -/
def decimalMargin : Nat := 400

/-- The `e` with `10 ^ e ≤ x < 10 ^ (e + 1)`, for a positive double. -/
def floorLog10 (x : Binary64) : Int :=
  let (num, den) := scaleByTwo (x.significand * Nat.pow 10 decimalMargin) 1 x.exponent
  ((Nat.toDigits 10 (num / den)).length : Int) - 1 - decimalMargin

/-- The multiple of `10 ^ k` that rounds to the double and is nearest to it, as a count of
`10 ^ k`; of two equally near ones, the even count. -/
def onGrid? (x : Binary64) (k : Int) : Option Nat :=
  let (unit, twoDen) := scaleByTwo 1 1 x.quarterExponent
  let (step, tenDen) : Nat × Nat := if 0 ≤ k then (Nat.pow 10 k.toNat, 1) else (1, Nat.pow 10 (-k).toNat)
  let unit := unit * tenDen
  let step := step * twoDen
  let inside (count : Nat) : Bool :=
    let point := count * step
    if x.endsIncluded then x.lowerEnd * unit ≤ point && point ≤ x.upperEnd * unit
    else x.lowerEnd * unit < point && point < x.upperEnd * unit
  let below := x.centre * unit / step
  match inside below, inside (below + 1) with
  | false, false => none
  | true, false => some below
  | false, true => some (below + 1)
  | true, true => some (roundDiv (x.centre * unit) step)

/-- Any two doubles differ within this many significant digits. -/
def greatestDigitCount : Nat := 17

/-- The fewest digits that read back as a positive double, and the power of ten of the last one. -/
def shortest (x : Binary64) : Nat × Int :=
  let top := x.floorLog10
  ((List.range greatestDigitCount).findSome? fun (more : Nat) =>
    let k := top - (more : Int)
    (x.onGrid? k).map fun count => (count, k)).getD (0, 0)

end Binary64

/-! ## Laying out digits -/

namespace Decimal

/-- Removes the zeros at the end of a digit string. -/
def trimZeros (digits : List Char) : List Char := (digits.reverse.dropWhile (· == '0')).reverse

/-- Which numbers are written positionally: those whose first digit stands at a power of ten from
`least` on and before `bound`. -/
structure Layout where
  least : Int
  bound : Int
deriving DecidableEq, Repr

/-- The exponent part of scientific writing, always signed with `-` or `+`. -/
def exponentText (e : Int) : String :=
  if e < 0 then "e-" ++ toString e.natAbs else "e+" ++ toString e.natAbs

/-- Writes `digits` with the first one at the power of ten `first`.  Positional text always has a
fraction; scientific text has one only when there is more than one digit. -/
def Layout.write (layout : Layout) (digits : List Char) (first : Int) : String :=
  if layout.least ≤ first ∧ first < layout.bound then
    if first < 0 then
      "0." ++ String.ofList (List.replicate ((-first).toNat - 1) '0' ++ digits)
    else
      let whole := digits.take (first.toNat + 1)
      let fraction := digits.drop (first.toNat + 1)
      let padding := List.replicate (first.toNat + 1 - whole.length) '0'
      String.ofList (whole ++ padding) ++ "." ++
        String.ofList (if fraction.isEmpty then ['0'] else fraction)
  else
    match digits with
    | [] => exponentText first
    | [d] => String.singleton d ++ exponentText first
    | d :: rest => String.singleton d ++ "." ++ String.ofList rest ++ exponentText first

end Decimal

namespace Binary64

/-- The text of a double: its shortest digits in the given layout, after the sign. -/
def text (layout : Decimal.Layout) (x : Binary64) : String :=
  let sign := if x.negative then "-" else ""
  if x.isZero then sign ++ layout.write ['0'] 0
  else
    let (count, k) := x.shortest
    let digits := Nat.toDigits 10 count
    sign ++ layout.write (Decimal.trimZeros digits) (k + digits.length - 1)

end Binary64
end ClauseSql
