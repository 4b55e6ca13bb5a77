/-!
# Finite double-precision numbers

JSON numbers that carry a fraction or an exponent, or that do not fit a 64-bit integer, are held as
finite IEEE 754 doubles.  A double is kept exactly, as a sign, a natural significand and a power of
two, so that every operation on it is integer arithmetic.

## What is here

* `Binary64` — a finite double.  Its parts are in the format (`Binary64.InFormat`), in which every
  double has one form.
* `Binary64.ofRatio?` — the nearest double to a ratio of natural numbers, ties to the even
  significand; `none` past the largest finite one.
* `Binary64.mul?` and `Binary64.div?` — product and quotient, each rounded once.
* `Binary64.ofDecimal?` — the double read for `significand · 10 ^ exponent`.  The significand is
  rounded first and then scaled by powers of ten, with one rounding per scaling step.
-/

set_option autoImplicit false

namespace ClauseSql

namespace Binary64

/-! ## The format -/

/-- The least exponent of two, that of the subnormal doubles. -/
def leastExponent : Int := -1074

/-- The greatest exponent of two. -/
def greatestExponent : Int := 971

/-- Significands stay below this power of two. -/
def significandBits : Nat := 53

/-- Whether a significand and an exponent are those of a double.  The significand has all of its bits,
unless the exponent is the least one, so every number has one form. -/
def InFormat (significand : Nat) (exponent : Int) : Prop :=
  significand < Nat.pow 2 significandBits ∧ leastExponent ≤ exponent ∧
    exponent ≤ greatestExponent ∧
    (Nat.pow 2 (significandBits - 1) ≤ significand ∨ exponent = leastExponent)

instance (significand : Nat) (exponent : Int) : Decidable (InFormat significand exponent) :=
  inferInstanceAs (Decidable (_ ∧ _ ∧ _ ∧ (_ ∨ _)))

end Binary64

/-- A finite double, of absolute value `significand * 2 ^ exponent`. -/
structure Binary64 where
  negative : Bool
  significand : Nat
  exponent : Int
  inFormat : Binary64.InFormat significand exponent
deriving DecidableEq, Repr

namespace Binary64

/-- The double zero, with its sign. -/
def zero (negative : Bool) : Binary64 := ⟨negative, 0, leastExponent, by decide⟩

/-- Zero of either sign. -/
def isZero (x : Binary64) : Bool := x.significand == 0

/-- The same magnitude with the given sign. -/
def withSign (negative : Bool) (x : Binary64) : Binary64 := { x with negative := negative }

/-! ## Rounding -/

/-- `num / den` rounded to the nearest natural number, ties to even. -/
def roundDiv (num den : Nat) : Nat :=
  let quotient := num / den
  let twice := 2 * (num % den)
  if twice < den then quotient
  else if den < twice then quotient + 1
  else quotient + quotient % 2

/-- Numerator and denominator of `num / den * 2 ^ exponent`. -/
def scaleByTwo (num den : Nat) (exponent : Int) : Nat × Nat :=
  if 0 ≤ exponent then (num * Nat.pow 2 exponent.toNat, den)
  else (num, den * Nat.pow 2 (-exponent).toNat)

/-- The `k` with `2 ^ k ≤ num / den < 2 ^ (k + 1)`, for a positive ratio. -/
def floorLog2 (num den : Nat) : Int :=
  let guess : Int := (Nat.log2 num : Int) - (Nat.log2 den : Int)
  let (n, d) := scaleByTwo num den (-guess)
  if d ≤ n then guess else guess - 1

/-- The double of a sign, a significand and an exponent; `none` if they are not in the format. -/
def ofParts? (negative : Bool) (significand : Nat) (exponent : Int) : Option Binary64 :=
  if h : InFormat significand exponent then some ⟨negative, significand, exponent, h⟩ else none

/-- The nearest double to `num / den * 2 ^ exponent`, ties to even; `none` when it is not finite. -/
def ofRatio? (negative : Bool) (num den : Nat) (exponent : Int) : Option Binary64 :=
  if num = 0 then some (zero negative)
  else
    let (num, den) := scaleByTwo num den exponent
    let unit := max (floorLog2 num den - (significandBits - 1)) leastExponent
    let (n, d) := scaleByTwo num den (-unit)
    let rounded := roundDiv n d
    if rounded = Nat.pow 2 significandBits then
      ofParts? negative (Nat.pow 2 (significandBits - 1)) (unit + 1)
    else ofParts? negative rounded (if rounded = 0 then leastExponent else unit)

/-- The product, rounded once. -/
def mul? (x y : Binary64) : Option Binary64 :=
  ofRatio? (x.negative != y.negative) (x.significand * y.significand) 1 (x.exponent + y.exponent)

/-- The quotient by a nonzero double, rounded once. -/
def div? (x y : Binary64) : Option Binary64 :=
  ofRatio? (x.negative != y.negative) x.significand y.significand (x.exponent - y.exponent)

/-! ## Scaling by powers of ten -/

/-- Powers of ten up to this one are finite doubles. -/
def greatestPowerOfTen : Nat := 308

/-- The double nearest to `10 ^ k`, for `k` up to `greatestPowerOfTen`. -/
def powerOfTen (k : Nat) : Binary64 := (ofRatio? false (Nat.pow 10 k) 1 0).getD (zero false)

/-- `x * 10 ^ exponent`.  An exponent within `greatestPowerOfTen` takes one multiplication or one
division; below it, each step divides by the greatest power of ten until nothing is left. -/
def scaleByTen? (x : Binary64) (exponent : Int) : Option Binary64 :=
  if x.isZero then some x
  else if greatestPowerOfTen < exponent then none
  else if 0 ≤ exponent then x.mul? (powerOfTen exponent.toNat)
  else if -greatestPowerOfTen ≤ exponent then x.div? (powerOfTen (-exponent).toNat)
  else
    match x.div? (powerOfTen greatestPowerOfTen) with
    | none => none
    | some y => scaleByTen? y (exponent + greatestPowerOfTen)
termination_by (-exponent).toNat
decreasing_by simp only [greatestPowerOfTen] at *; omega

/-- The double read for the decimal `significand * 10 ^ exponent`; `none` when it is too large. -/
def ofDecimal? (negative : Bool) (significand : Nat) (exponent : Int) : Option Binary64 :=
  match ofRatio? false significand 1 0 with
  | none => none
  | some x => (x.scaleByTen? exponent).map (withSign negative)

end Binary64
end ClauseSql
