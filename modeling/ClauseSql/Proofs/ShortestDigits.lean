import ClauseSql.Proofs.Literal
import ClauseSql.Proofs.Rounding
import Mathlib.Data.Nat.Cast.Order.Field

/-!
# Shortest digits

The digits that a double is written with make a decimal that rounds to the double.  Such a decimal is
found for every double, since the rounding interval is wider than the distance between decimals of
seventeen digits.

## What is here

* `Binary64.Scaled` — the rounding interval and a decimal grid as natural numbers.
* `Binary64.rounds_of_onGrid?` and `Binary64.exists_onGrid?` — a count found on a grid rounds to the
  double, and one is found on a grid that is finer than the interval is wide.
* `Binary64.shortest_cases` — what the search for the shortest digits ends with.
* `Binary64.rounds_shortest` — the shortest digits of a double round to it.
-/

set_option autoImplicit false

namespace ClauseSql
namespace Binary64

/-! ## Candidates -/

theorem div_le_roundDiv (num den : Nat) : num / den ≤ roundDiv num den := by
  simp only [roundDiv]
  split
  · exact Nat.le_refl _
  · split <;> exact Nat.le_add_right _ _

theorem roundDiv_le (num den : Nat) : roundDiv num den ≤ num / den + 1 := by
  simp only [roundDiv]
  split
  · exact Nat.le_succ _
  · split <;> omega

theorem significand_pos {x : Binary64} (h : x.isZero = false) : 0 < x.significand :=
  Nat.pos_of_ne_zero fun hzero => Bool.eq_false_iff.1 h (beq_iff_eq.2 hzero)

theorem lowerEnd_pos {x : Binary64} (h : x.isZero = false) : 0 < x.lowerEnd := by
  have hpos := significand_pos h
  rw [lowerEnd, centre]
  split <;> omega

/-- Whether a multiple of `step` lies between the ends of the rounding interval. -/
def isInside (x : Binary64) (unit step count : Nat) : Bool :=
  if x.endsIncluded then x.lowerEnd * unit ≤ count * step && count * step ≤ x.upperEnd * unit
  else x.lowerEnd * unit < count * step && count * step < x.upperEnd * unit

theorem isInside_of_lt {x : Binary64} {unit step count : Nat} (hlower : x.lowerEnd * unit < count * step)
    (hupper : count * step < x.upperEnd * unit) : x.isInside unit step count = true := by
  rw [isInside]
  split
  · rw [decide_eq_true hlower.le, decide_eq_true hupper.le]
    rfl
  · rw [decide_eq_true hlower, decide_eq_true hupper]
    rfl

/-- The one of two neighbours that passes a test, or the nearer one if both do. -/
def pick? (test : Nat → Bool) (below nearer : Nat) : Option Nat :=
  match test below, test (below + 1) with
  | false, false => none
  | true, false => some below
  | false, true => some (below + 1)
  | true, true => some nearer

theorem exists_pick? {test : Nat → Bool} {below : Nat} (nearer : Nat)
    (h : test below = true ∨ test (below + 1) = true) :
    ∃ count, pick? test below nearer = some count := by
  rw [pick?]
  split
  · rename_i hbelow habove
    rw [hbelow, habove] at h
    exact absurd h (by decide)
  · exact ⟨_, rfl⟩
  · exact ⟨_, rfl⟩
  · exact ⟨_, rfl⟩

theorem test_of_pick? {test : Nat → Bool} {below nearer count : Nat} (hle : below ≤ nearer)
    (hlt : nearer ≤ below + 1) (h : pick? test below nearer = some count) : test count = true := by
  rw [pick?] at h
  split at h
  · cases h
  · cases h
    assumption
  · cases h
    assumption
  · cases h
    rcases Nat.eq_or_lt_of_le hle with rfl | hgt
    · assumption
    · rwa [Nat.le_antisymm hlt hgt]

/-! ## Decimal grids -/

/-- The units of the rounding interval and of a decimal grid, both times a scale that makes them
natural numbers. -/
structure Scaled (x : Binary64) (k : Int) (unit step : Nat) (scale : ℚ) : Prop where
  scale_pos : 0 < scale
  unit_eq : (unit : ℚ) = 2 ^ x.quarterExponent * scale
  step_eq : (step : ℚ) = 10 ^ k * scale

theorem onGrid?_eq (x : Binary64) (k : Int) : ∃ unit step scale, Scaled x k unit step scale ∧
    x.onGrid? k = pick? (x.isInside unit step) (x.centre * unit / step)
      (roundDiv (x.centre * unit) step) := by
  have htwo := scaleByTwo_eq 1 1 x.quarterExponent
  obtain ⟨-, htwoDen⟩ := scaleByTwo_pos Nat.one_pos Nat.one_pos x.quarterExponent
  generalize hscale : scaleByTwo 1 1 x.quarterExponent = scaled at *
  obtain ⟨unit, twoDen⟩ := scaled
  have hten : ∃ step tenDen : Nat, 0 < tenDen ∧ (step : ℚ) / tenDen = 10 ^ k ∧
      (if 0 ≤ k then (Nat.pow 10 k.toNat, 1) else (1, Nat.pow 10 (-k).toNat)) = (step, tenDen) := by
    split
    · refine ⟨_, _, Nat.one_pos, ?_, rfl⟩
      rw [Decimal.ten_zpow_eq, show (-k).toNat = 0 by omega]
      simp
    · refine ⟨_, _, Nat.pow_pos (by decide), ?_, rfl⟩
      rw [Decimal.ten_zpow_eq, show k.toNat = 0 by omega]
      simp
  obtain ⟨step, tenDen, htenDen, hratio, heq⟩ := hten
  have htwoPos : (0 : ℚ) < twoDen := Nat.cast_pos.2 htwoDen
  have htenPos : (0 : ℚ) < tenDen := Nat.cast_pos.2 htenDen
  refine ⟨unit * tenDen, step * twoDen, twoDen * tenDen, ⟨mul_pos htwoPos htenPos, ?_, ?_⟩, ?_⟩
  · have hunit : (unit : ℚ) = 2 ^ x.quarterExponent * twoDen := by
      rw [← div_eq_iff htwoPos.ne', htwo]
      simp
    push_cast
    rw [hunit, mul_assoc]
  · rw [div_eq_iff htenPos.ne'] at hratio
    push_cast
    rw [hratio]
    ring
  · simp only [onGrid?, hscale, heq]
    rfl

namespace Scaled

variable {x : Binary64} {k : Int} {unit step : Nat} {scale : ℚ}

theorem unit_pos (h : Scaled x k unit step scale) : 0 < unit := by
  have hpos : (0 : ℚ) < unit := h.unit_eq ▸ mul_pos (zpow_pos two_pos _) h.scale_pos
  exact_mod_cast hpos

theorem step_pos (h : Scaled x k unit step scale) : 0 < step := by
  have hpos : (0 : ℚ) < step := h.step_eq ▸ mul_pos (zpow_pos (by norm_num) _) h.scale_pos
  exact_mod_cast hpos

theorem unit_le_step_iff (h : Scaled x k unit step scale) {a b : Nat} :
    a * unit ≤ b * step ↔ a * (2 : ℚ) ^ x.quarterExponent ≤ b * 10 ^ k := by
  rw [← Nat.cast_le (α := ℚ), Nat.cast_mul, Nat.cast_mul, h.unit_eq, h.step_eq, ← mul_assoc,
    ← mul_assoc, mul_le_mul_iff_left₀ h.scale_pos]

theorem step_le_unit_iff (h : Scaled x k unit step scale) {a b : Nat} :
    b * step ≤ a * unit ↔ b * 10 ^ k ≤ a * (2 : ℚ) ^ x.quarterExponent := by
  rw [← Nat.cast_le (α := ℚ), Nat.cast_mul, Nat.cast_mul, h.unit_eq, h.step_eq, ← mul_assoc,
    ← mul_assoc, mul_le_mul_iff_left₀ h.scale_pos]

/-- The multiples of the step between the ends are the decimals that round to the double. -/
theorem isInside_iff (h : Scaled x k unit step scale) {count : Nat} :
    x.isInside unit step count = true ↔ x.Rounds (count * 10 ^ k) := by
  rw [isInside, Rounds]
  split
  · rw [Bool.and_eq_true, decide_eq_true_iff, decide_eq_true_iff, h.unit_le_step_iff,
      h.step_le_unit_iff]
  · rw [Bool.and_eq_true, decide_eq_true_iff, decide_eq_true_iff, ← Nat.not_le, ← Nat.not_le,
      h.unit_le_step_iff, h.step_le_unit_iff, not_le, not_le]

end Scaled

section
variable {x : Binary64} {k : Int} {count : Nat}

theorem rounds_of_onGrid? (h : x.onGrid? k = some count) : x.Rounds (count * 10 ^ k) := by
  obtain ⟨unit, step, scale, hscaled, heq⟩ := x.onGrid?_eq k
  rw [heq] at h
  exact hscaled.isInside_iff.1 (test_of_pick? (div_le_roundDiv _ _) (roundDiv_le _ _) h)

/-- Zero rounds to no double but zero. -/
theorem pos_of_onGrid? (hx : x.isZero = false) (h : x.onGrid? k = some count) : 0 < count := by
  have hlower : (0 : ℚ) < x.lowerEnd := Nat.cast_pos.2 (lowerEnd_pos hx)
  have hend : (0 : ℚ) < x.lowerEnd * 2 ^ x.quarterExponent := mul_pos hlower (zpow_pos two_pos _)
  have hpos : (0 : ℚ) < count * 10 ^ k := hend.trans_le (rounds_of_onGrid? h).lowerEnd_le
  exact_mod_cast pos_of_mul_pos_left hpos (zpow_nonneg (by norm_num) k)

/-- On a grid that is finer than the interval is wide a count is found: it is one of the neighbours of
the double, for the interval ends on either side of it. -/
theorem exists_onGrid?
    (h : x.lowerEnd * 2 ^ x.quarterExponent + 10 ^ k < x.upperEnd * (2 : ℚ) ^ x.quarterExponent) :
    ∃ count, x.onGrid? k = some count := by
  obtain ⟨unit, step, scale, hscaled, heq⟩ := x.onGrid?_eq k
  have hwide : x.lowerEnd * unit + step < x.upperEnd * unit := by
    have hcast := mul_lt_mul_of_pos_right h hscaled.scale_pos
    rw [add_mul, mul_assoc, mul_assoc, ← hscaled.unit_eq, ← hscaled.step_eq] at hcast
    exact_mod_cast hcast
  have hlower : x.lowerEnd * unit ≤ x.centre * unit := by
    refine Nat.mul_le_mul_right unit ?_
    rw [lowerEnd]
    split <;> exact Nat.sub_le _ _
  have hupper : x.centre * unit < x.upperEnd * unit :=
    Nat.mul_lt_mul_of_pos_right (Nat.lt_add_of_pos_right Nat.two_pos) hscaled.unit_pos
  have hbelow := Nat.div_mul_le_self (x.centre * unit) step
  have habove := (Nat.div_lt_iff_lt_mul hscaled.step_pos).1 (Nat.lt_succ_self (x.centre * unit / step))
  rw [heq]
  refine exists_pick? _ ?_
  rcases Nat.lt_or_ge (x.lowerEnd * unit) (x.centre * unit / step * step) with hlt | hge
  · exact .inl (isInside_of_lt hlt (Nat.lt_of_le_of_lt hbelow hupper))
  · refine .inr (isInside_of_lt (Nat.lt_of_le_of_lt hlower habove) ?_)
    rw [Nat.add_mul, Nat.one_mul]
    exact Nat.lt_of_le_of_lt (Nat.add_le_add_right hge step) hwide

end

/-! ## Seventeen digits -/

theorem pow_length_toDigits_le {n : Nat} (h : 0 < n) :
    10 ^ ((Nat.toDigits 10 n).length - 1) ≤ n := by
  rcases Nat.eq_zero_or_pos ((Nat.toDigits 10 n).length - 1) with hzero | hpos
  · rw [hzero]
    exact h
  · refine Nat.not_lt.1 fun hlt => ?_
    have hlength := (Nat.length_toDigits_le_iff (by decide) hpos).2 hlt
    omega

section
variable {x : Binary64}

/-- The power of ten that is found for a double is not above it.  The margin makes a number of at
least one out of every double. -/
theorem ten_zpow_floorLog10_le (hpos : 0 < x.significand) :
    (10 : ℚ) ^ x.floorLog10 ≤ x.significand * 2 ^ x.exponent := by
  have hone : (1 : ℚ) ≤ x.significand * 10 ^ decimalMargin * 2 ^ x.exponent := by
    have hmargin : (1 : ℚ) ≤ 10 ^ decimalMargin * 2 ^ leastExponent := by
      have hpow : 2 ^ 1074 ≤ 10 ^ decimalMargin := by decide +kernel
      rw [leastExponent, zpow_neg, ← div_eq_mul_inv, one_le_div (zpow_pos two_pos _)]
      exact_mod_cast hpow
    calc (1 : ℚ) ≤ 10 ^ decimalMargin * 2 ^ leastExponent := hmargin
      _ ≤ 10 ^ decimalMargin * 2 ^ x.exponent := mul_le_mul_of_nonneg_left
        (zpow_le_zpow_right₀ (by norm_num) x.leastExponent_le) (pow_nonneg (by norm_num) _)
      _ ≤ x.significand * 10 ^ decimalMargin * 2 ^ x.exponent := by
        rw [mul_assoc]
        exact le_mul_of_one_le_left (by positivity) (by exact_mod_cast hpos)
  have hscaled : 0 < x.significand * Nat.pow 10 decimalMargin := by
    rw [Nat.pow_eq]
    positivity
  have hratio := scaleByTwo_eq (x.significand * Nat.pow 10 decimalMargin) 1 x.exponent
  obtain ⟨-, hden⟩ := scaleByTwo_pos hscaled Nat.one_pos x.exponent
  rw [floorLog10]
  generalize scaleByTwo (x.significand * Nat.pow 10 decimalMargin) 1 x.exponent = scaled at *
  obtain ⟨num, den⟩ := scaled
  simp only [Nat.cast_one, div_one, Nat.pow_eq, Nat.cast_mul, Nat.cast_pow, Nat.cast_ofNat] at *
  have hfloor : 0 < num / den := by
    rw [← hratio, one_le_div (Nat.cast_pos.2 hden)] at hone
    exact Nat.div_pos (by exact_mod_cast hone) hden
  have hdigits := pow_length_toDigits_le hfloor
  have hlength : 0 < (Nat.toDigits 10 (num / den)).length := Nat.length_toDigits_pos
  generalize (Nat.toDigits 10 (num / den)).length = length at hdigits hlength ⊢
  have hpower : (10 : ℚ) ^ ((length : Int) - 1 - (decimalMargin : Nat)) =
      10 ^ (length - 1) / 10 ^ decimalMargin := by
    rw [zpow_sub₀ (by norm_num), zpow_natCast, ← Nat.cast_pred hlength, zpow_natCast]
  rw [hpower, div_le_iff₀ (by positivity)]
  calc (10 : ℚ) ^ (length - 1) ≤ (num / den : Nat) := by exact_mod_cast hdigits
    _ ≤ num / den := Nat.cast_div_le
    _ = x.significand * 2 ^ x.exponent * 10 ^ decimalMargin := by
      rw [hratio]
      ring

/-- The interval of a double is wider than the distance between decimals of seventeen digits. -/
theorem lowerEnd_add_lt_upperEnd {k : Int}
    (hk : (10 : ℚ) ^ (k + 16) ≤ x.significand * 2 ^ x.exponent) :
    x.lowerEnd * 2 ^ x.quarterExponent + 10 ^ k < x.upperEnd * (2 : ℚ) ^ x.quarterExponent := by
  have hquarter : (2 : ℚ) ^ x.exponent = 4 * 2 ^ x.quarterExponent := by
    rw [quarterExponent, zpow_sub₀ two_ne_zero]
    norm_num
    ring
  have hten : (10 : ℚ) ^ (k + 16) = 10 ^ k * 10 ^ 16 := by
    rw [zpow_add₀ (by norm_num)]
    norm_num
  rw [hquarter, hten] at hk
  have hcount : 4 * x.significand + 10 ^ 16 * x.lowerEnd < 10 ^ 16 * x.upperEnd := by
    have hlt := x.significand_lt
    have hbits : 2 ^ significandBits = 9007199254740992 := by decide
    rw [upperEnd, lowerEnd, centre]
    split
    · have hpower : Nat.pow 2 (significandBits - 1) = 4503599627370496 := by decide
      omega
    · omega
  have hcast : (4 * x.significand + 10 ^ 16 * x.lowerEnd : ℚ) < 10 ^ 16 * x.upperEnd := by
    exact_mod_cast hcount
  have hscaled := mul_lt_mul_of_pos_right hcast (zpow_pos two_pos x.quarterExponent : (0 : ℚ) < _)
  linarith

end

/-! ## The search -/

/-- The search ends with a count on the first grid that has one, or with zero if none of them has. -/
theorem shortest_cases (x : Binary64) :
    (∃ more count, more < greatestDigitCount ∧ x.onGrid? (x.floorLog10 - (more : Nat)) = some count ∧
      x.shortest = (count, x.floorLog10 - (more : Nat))) ∨
    (∀ more < greatestDigitCount, x.onGrid? (x.floorLog10 - (more : Nat)) = none) ∧
      x.shortest = (0, 0) := by
  cases hfound : (List.range greatestDigitCount).findSome? fun (more : Nat) =>
      (x.onGrid? (x.floorLog10 - (more : Int))).map fun count =>
        (count, x.floorLog10 - (more : Int)) with
  | none =>
    refine .inr ⟨fun more hmore => ?_, congrArg (Option.getD · (0, 0)) hfound⟩
    exact Option.map_eq_none_iff.1 (List.findSome?_eq_none_iff.1 hfound more (List.mem_range.2 hmore))
  | some found =>
    obtain ⟨more, hmore, hmap⟩ := List.exists_of_findSome?_eq_some hfound
    obtain ⟨count, hgrid, rfl⟩ := Option.map_eq_some_iff.1 hmap
    exact .inl ⟨more, count, List.mem_range.1 hmore, hgrid, congrArg (Option.getD · (0, 0)) hfound⟩

/-- Where no digits are found there is no power of ten either. -/
theorem shortest_eq_zero {x : Binary64} (h : x.isZero = false) (hcount : x.shortest.1 = 0) :
    x.shortest = (0, 0) := by
  rcases x.shortest_cases with ⟨more, count, -, hgrid, hshortest⟩ | ⟨-, hshortest⟩
  · rw [hshortest] at hcount
    exact absurd hcount (pos_of_onGrid? h hgrid).ne'
  · exact hshortest

/-- **The shortest digits of a double round to it.** -/
theorem rounds_shortest {x : Binary64} (hpos : 0 < x.significand) :
    x.Rounds (x.shortest.1 * 10 ^ x.shortest.2) := by
  rcases x.shortest_cases with ⟨more, count, -, hgrid, hshortest⟩ | ⟨hnone, -⟩
  · rw [hshortest]
    exact rounds_of_onGrid? hgrid
  · have hpower : (10 : ℚ) ^ (x.floorLog10 - (16 : Nat) + 16) ≤ x.significand * 2 ^ x.exponent := by
      rw [Nat.cast_ofNat, Int.sub_add_cancel]
      exact ten_zpow_floorLog10_le hpos
    obtain ⟨count, hcount⟩ := exists_onGrid? (lowerEnd_add_lt_upperEnd hpower)
    cases (hnone 16 (by decide)).symm.trans hcount

end Binary64
end ClauseSql
