import ClauseSql.Decimal.Shortest
import Mathlib.Algebra.Order.Field.Power
import Mathlib.Data.Int.Log
import Mathlib.Data.Rat.Floor
import Mathlib.Tactic.FieldSimp
import Mathlib.Tactic.Linarith
import Mathlib.Tactic.Ring

/-!
# Rounding to doubles

The rationals that round to a double are an interval around it, whose ends belong to it when the
significand is even.

## What is here

* `Binary64.ofParts?_eq` — a double is made from its parts.
* `Binary64.Rounds` — the rationals that round to a double.
* `Binary64.roundDiv_eq_of_abs` and `Binary64.floorLog2_eq` — what the two steps of rounding compute,
  and `Binary64.ofRatio?_eq`, what they make of a ratio.
* `Binary64.ofRatio?_of_rounds` — a ratio that lies in the interval of a double is rounded to the
  double.
* `Binary64.ofRatio?_eq_none_iff` — nothing but a ratio that is too great has no nearest double.
-/

set_option autoImplicit false

namespace ClauseSql
namespace Binary64

/-! ## Doubles and their intervals -/

theorem significand_lt (x : Binary64) : x.significand < 2 ^ significandBits := x.inFormat.1

theorem leastExponent_le (x : Binary64) : leastExponent ≤ x.exponent := x.inFormat.2.1

/-- The significand has all of its bits, unless the exponent is the least one. -/
theorem normal (x : Binary64) (h : x.exponent ≠ leastExponent) :
    2 ^ (significandBits - 1) ≤ x.significand :=
  x.inFormat.2.2.2.resolve_right h

/-- There is one zero of each sign. -/
theorem eq_zero {x : Binary64} (hzero : x.isZero = true) : x = zero x.negative := by
  obtain ⟨negative, significand, exponent, hformat⟩ := x
  obtain rfl : significand = 0 := beq_iff_eq.1 hzero
  obtain rfl : exponent = leastExponent :=
    hformat.2.2.2.resolve_left (Nat.not_le.2 (Nat.pow_pos Nat.two_pos))
  rfl

theorem ofParts?_eq (x : Binary64) : ofParts? x.negative x.significand x.exponent = some x :=
  dif_pos x.inFormat

/-- Whether a rational lies between the ends of the rounding interval. -/
def Rounds (x : Binary64) (r : ℚ) : Prop :=
  let unit : ℚ := 2 ^ x.quarterExponent
  if x.endsIncluded then x.lowerEnd * unit ≤ r ∧ r ≤ x.upperEnd * unit
  else x.lowerEnd * unit < r ∧ r < x.upperEnd * unit

namespace Rounds

variable {x : Binary64} {r : ℚ}

theorem lowerEnd_le (h : x.Rounds r) : x.lowerEnd * 2 ^ x.quarterExponent ≤ r := by
  rw [Rounds] at h
  split at h
  · exact h.1
  · exact h.1.le

/-- A rational in the interval is at most half of a unit away, and exactly half of one only if the
significand is even. -/
theorem abs_sub_le (h : x.Rounds r) (hpos : 0 < x.significand) :
    |r / 2 ^ x.exponent - x.significand| ≤ 1 / 2 ∧
      (x.significand % 2 = 1 → |r / 2 ^ x.exponent - x.significand| ≠ 1 / 2) := by
  have hpower : (0 : ℚ) < 2 ^ x.exponent := zpow_pos two_pos _
  have hquarter : (2 : ℚ) ^ x.quarterExponent = 2 ^ x.exponent / 4 := by
    rw [quarterExponent, zpow_sub₀ two_ne_zero]
    norm_num
  have hlower : (x.significand : ℚ) - 1 / 2 ≤ x.lowerEnd / 4 := by
    have hend : 4 * x.significand ≤ x.lowerEnd + 2 := by
      rw [lowerEnd, centre]
      split <;> omega
    have hcast : (4 * x.significand : ℚ) ≤ x.lowerEnd + 2 := by exact_mod_cast hend
    linarith
  have hupper : (x.upperEnd : ℚ) / 4 = x.significand + 1 / 2 := by
    rw [upperEnd, centre]
    push_cast
    ring
  have hscale : ∀ a : ℚ, a * (2 ^ x.exponent / 4) = a / 4 * 2 ^ x.exponent := fun a => by ring
  rw [Rounds, endsIncluded, hquarter, hscale, hscale, hupper, ← le_div_iff₀ hpower,
    ← div_le_iff₀ hpower, ← lt_div_iff₀ hpower, ← div_lt_iff₀ hpower] at h
  split at h
  · rename_i heven
    refine ⟨abs_le.2 ⟨by linarith, by linarith⟩, fun hodd => ?_⟩
    rw [beq_iff_eq] at heven
    omega
  · have hlt : |r / 2 ^ x.exponent - x.significand| < 1 / 2 := abs_lt.2 ⟨by linarith, by linarith⟩
    exact ⟨hlt.le, fun _ => hlt.ne⟩

/-- Below a power of two the interval ends half as far away. -/
theorem sub_quarter_le (h : x.Rounds r) (hs : x.significand = 2 ^ (significandBits - 1))
    (he : leastExponent < x.exponent) :
    (2 : ℚ) ^ (significandBits - 1) - 1 / 4 ≤ r / 2 ^ x.exponent := by
  have hlower : (x.lowerEnd : ℚ) = 4 * 2 ^ (significandBits - 1) - 1 := by
    have hend : x.lowerEnd + 1 = 4 * 2 ^ (significandBits - 1) := by
      rw [lowerEnd, if_pos ⟨hs, he⟩, centre, hs]
      decide
    have hcast : (x.lowerEnd + 1 : ℚ) = 4 * 2 ^ (significandBits - 1) := by exact_mod_cast hend
    linarith
  have hle := h.lowerEnd_le
  rw [quarterExponent, zpow_sub₀ two_ne_zero, hlower] at hle
  rw [le_div_iff₀ (zpow_pos two_pos _)]
  calc ((2 : ℚ) ^ (significandBits - 1) - 1 / 4) * 2 ^ x.exponent
      = (4 * 2 ^ (significandBits - 1) - 1) * (2 ^ x.exponent / 2 ^ (2 : Int)) := by
        rw [show ((2 : ℚ) ^ (2 : Int)) = 4 by norm_num]
        ring
    _ ≤ r := hle

end Rounds

/-! ## Steps of rounding -/

theorem roundDiv_eq {num den m : Nat} (hden : 0 < den) (hlower : 2 * m * den ≤ 2 * num + den)
    (hupper : 2 * num ≤ (2 * m + 1) * den)
    (hodd : m % 2 = 1 → 2 * m * den ≠ 2 * num + den ∧ 2 * num ≠ (2 * m + 1) * den) :
    roundDiv num den = m := by
  have hnum : den * (num / den) + num % den = num := Nat.div_add_mod num den
  have hmod : num % den < den := Nat.mod_lt num hden
  simp only [roundDiv]
  generalize num / den = quotient at hnum ⊢
  generalize num % den = rest at hnum hmod ⊢
  have habove : quotient ≤ m := by
    have h : 2 * quotient * den ≤ (2 * m + 1) * den := by
      calc 2 * quotient * den = 2 * (den * quotient) := by ring
        _ ≤ _ := by omega
    have := Nat.le_of_mul_le_mul_right h hden
    omega
  have hbelow : m ≤ quotient + 1 := by
    have h : 2 * m * den < (2 * quotient + 3) * den := by
      calc 2 * m * den ≤ 2 * num + den := hlower
        _ < 2 * (den * quotient) + 3 * den := by omega
        _ = (2 * quotient + 3) * den := by ring
    have := Nat.lt_of_mul_lt_mul_right h
    omega
  rcases Nat.eq_or_lt_of_le habove with rfl | hlt
  · have hexpand : (2 * quotient + 1) * den = 2 * (den * quotient) + den := by ring
    split
    · rfl
    · split
      · omega
      · have heven : quotient % 2 ≠ 1 := fun h => (hodd h).2 (by omega)
        omega
  · obtain rfl : m = quotient + 1 := by omega
    have hexpand : 2 * (quotient + 1) * den = 2 * (den * quotient) + 2 * den := by ring
    split
    · omega
    · split
      · rfl
      · have heven : (quotient + 1) % 2 ≠ 1 := fun h => (hodd h).1 (by omega)
        omega

/-- A ratio is rounded to a number that it is less than half away from, and to an even one that it is
half away from. -/
theorem roundDiv_eq_of_abs {num den m : Nat} (hden : 0 < den)
    (h : |(num : ℚ) / den - m| ≤ 1 / 2) (hodd : m % 2 = 1 → |(num : ℚ) / den - m| ≠ 1 / 2) :
    roundDiv num den = m := by
  have hd : (0 : ℚ) < den := Nat.cast_pos.2 hden
  have hcast : (num : ℚ) / den * den = num := div_mul_cancel₀ _ hd.ne'
  rw [abs_le] at h
  refine roundDiv_eq hden ?_ ?_ fun hm => ⟨fun heq => hodd hm ?_, fun heq => hodd hm ?_⟩
  · have hscaled := mul_le_mul_of_nonneg_right h.1 hd.le
    have hle : (2 * m * den : ℚ) ≤ 2 * num + den := by linarith
    exact_mod_cast hle
  · have hscaled := mul_le_mul_of_nonneg_right h.2 hd.le
    have hle : (2 * num : ℚ) ≤ (2 * m + 1) * den := by linarith
    exact_mod_cast hle
  · have hq : (2 * m * den : ℚ) = 2 * num + den := by exact_mod_cast heq
    have hdist : (num : ℚ) / den - m = -(1 / 2) := by
      field_simp
      linarith
    rw [hdist, abs_neg, abs_of_pos (by norm_num)]
  · have hq : (2 * num : ℚ) = (2 * m + 1) * den := by exact_mod_cast heq
    have hdist : (num : ℚ) / den - m = 1 / 2 := by
      field_simp
      linarith
    rw [hdist, abs_of_pos (by norm_num)]

theorem scaleByTwo_eq (num den : Nat) (exponent : Int) :
    ((scaleByTwo num den exponent).1 : ℚ) / (scaleByTwo num den exponent).2 =
      num / den * 2 ^ exponent := by
  rw [scaleByTwo]
  split
  · rename_i h
    obtain ⟨n, rfl⟩ := Int.eq_ofNat_of_zero_le h
    simp only [Int.toNat_natCast, Nat.pow_eq, Nat.cast_mul, Nat.cast_pow, Nat.cast_ofNat, zpow_natCast]
    ring
  · rename_i h
    obtain ⟨n, hn⟩ := Int.eq_ofNat_of_zero_le (Int.neg_nonneg_of_nonpos (Int.not_le.1 h).le)
    have he : exponent = -(n : Int) := by omega
    rw [hn, he, zpow_neg, zpow_natCast]
    simp only [Int.toNat_natCast, Nat.pow_eq, Nat.cast_mul, Nat.cast_pow, Nat.cast_ofNat]
    rw [← div_div, div_eq_mul_inv]

theorem scaleByTwo_pos {num den : Nat} (hnum : 0 < num) (hden : 0 < den) (exponent : Int) :
    0 < (scaleByTwo num den exponent).1 ∧ 0 < (scaleByTwo num den exponent).2 := by
  rw [scaleByTwo]
  split
  · exact ⟨Nat.mul_pos hnum (Nat.pow_pos Nat.two_pos), hden⟩
  · exact ⟨hnum, Nat.mul_pos hden (Nat.pow_pos Nat.two_pos)⟩

theorem log_eq {base : Nat} (hbase : 1 < base) {r : ℚ} (hr : 0 < r) {e : Int}
    (hlower : (base : ℚ) ^ e ≤ r) (hupper : r < base ^ (e + 1)) : Int.log base r = e := by
  have hle := (Int.zpow_le_iff_le_log hbase hr).1 hlower
  have hlt := (Int.lt_zpow_iff_log_lt hbase hr).1 hupper
  omega

theorem floorLog2_eq {num den : Nat} (hnum : 0 < num) (hden : 0 < den) :
    floorLog2 num den = Int.log 2 ((num : ℚ) / den) := by
  have hn : (0 : ℚ) < num := Nat.cast_pos.2 hnum
  have hd : (0 : ℚ) < den := Nat.cast_pos.2 hden
  have hbounds : ∀ {n : Nat}, 0 < n →
      (2 : ℚ) ^ (n.log2 : Int) ≤ n ∧ (n : ℚ) < 2 ^ ((n.log2 : Int) + 1) := fun {n} hn =>
    ⟨by rw [zpow_natCast]; exact_mod_cast Nat.log2_self_le hn.ne', by exact_mod_cast Nat.lt_log2_self⟩
  obtain ⟨hnlower, hnupper⟩ := hbounds hnum
  obtain ⟨hdlower, hdupper⟩ := hbounds hden
  generalize hguess : (num.log2 : Int) - (den.log2 : Int) = guess
  have hupper : (num : ℚ) / den < 2 ^ (guess + 1) := by
    rw [div_lt_iff₀ hd]
    calc (num : ℚ) < 2 ^ ((num.log2 : Int) + 1) := hnupper
      _ = 2 ^ (guess + 1) * 2 ^ (den.log2 : Int) := by
        rw [← zpow_add₀ two_ne_zero, ← hguess]
        ring_nf
      _ ≤ _ := mul_le_mul_of_nonneg_left hdlower (zpow_pos two_pos _).le
  -- The guess is at most one too great, and that is what the scaled ratio tells.
  have hlower : (2 : ℚ) ^ (guess - 1) ≤ num / den := by
    rw [le_div_iff₀ hd]
    calc (2 : ℚ) ^ (guess - 1) * den ≤ 2 ^ (guess - 1) * 2 ^ ((den.log2 : Int) + 1) :=
          mul_le_mul_of_nonneg_left hdupper.le (zpow_pos two_pos _).le
      _ = 2 ^ (num.log2 : Int) := by
        rw [← zpow_add₀ two_ne_zero, ← hguess]
        ring_nf
      _ ≤ num := hnlower
  have htest : (scaleByTwo num den (-guess)).2 ≤ (scaleByTwo num den (-guess)).1 ↔
      (2 : ℚ) ^ guess ≤ num / den := by
    have hpos : (0 : ℚ) < (scaleByTwo num den (-guess)).2 :=
      Nat.cast_pos.2 (scaleByTwo_pos hnum hden (-guess)).2
    rw [← Nat.cast_le (α := ℚ), ← one_le_div hpos, scaleByTwo_eq, zpow_neg, ← div_eq_mul_inv,
      one_le_div (zpow_pos two_pos guess)]
  simp only [floorLog2, hguess, htest]
  split
  · rename_i h
    exact (log_eq Nat.one_lt_two (div_pos hn hd) h hupper).symm
  · rename_i h
    refine (log_eq Nat.one_lt_two (div_pos hn hd) hlower ?_).symm
    rw [Int.sub_add_cancel]
    exact not_le.1 h

/-! ## Rounding a ratio -/

section
variable {num den : Nat} {exponent : Int}

/-- What a ratio is rounded to, from the unit of the last bit and the nearest number of units. -/
theorem ofRatio?_eq {m : Nat} {unit : Int} (negative : Bool) (hnum : 0 < num) (hden : 0 < den)
    (hunit : max (Int.log 2 ((num : ℚ) / den * 2 ^ exponent) - (significandBits - 1)) leastExponent =
      unit)
    (h : |(num : ℚ) / den * 2 ^ exponent / 2 ^ unit - m| ≤ 1 / 2)
    (hodd : m % 2 = 1 → |(num : ℚ) / den * 2 ^ exponent / 2 ^ unit - m| ≠ 1 / 2) :
    ofRatio? negative num den exponent =
      if m = 2 ^ significandBits then ofParts? negative (2 ^ (significandBits - 1)) (unit + 1)
      else ofParts? negative m (if m = 0 then leastExponent else unit) := by
  obtain ⟨hn, hd⟩ := scaleByTwo_pos hnum hden exponent
  have hratio := scaleByTwo_eq num den exponent
  have hlog := floorLog2_eq hn hd
  rw [hratio] at hlog
  have hscaled := scaleByTwo_eq (scaleByTwo num den exponent).1 (scaleByTwo num den exponent).2 (-unit)
  rw [hratio, zpow_neg, ← div_eq_mul_inv] at hscaled
  have hround : roundDiv _ _ = m :=
    roundDiv_eq_of_abs (scaleByTwo_pos hn hd (-unit)).2 (hscaled ▸ h) (hscaled ▸ hodd)
  rw [ofRatio?, if_neg hnum.ne']
  simp only [hlog, hunit, hround, Nat.pow_eq]

/-- **A ratio in the interval of a double is rounded to the double.** -/
theorem ofRatio?_of_rounds {x : Binary64} (hpos : 0 < x.significand) (hnum : 0 < num)
    (hden : 0 < den) (h : x.Rounds (num / den * 2 ^ exponent)) :
    ofRatio? x.negative num den exponent = some x := by
  have hr : (0 : ℚ) < num / den * 2 ^ exponent :=
    mul_pos (div_pos (Nat.cast_pos.2 hnum) (Nat.cast_pos.2 hden)) (zpow_pos two_pos _)
  generalize hratio : (num : ℚ) / den * 2 ^ exponent = r at h hr
  obtain ⟨hdist, hodd⟩ := h.abs_sub_le hpos
  obtain ⟨hlower, hupper⟩ := abs_le.1 hdist
  have hpower : (0 : ℚ) < 2 ^ x.exponent := zpow_pos two_pos _
  have hbits : (x.significand : ℚ) + 1 ≤ 2 ^ significandBits := by exact_mod_cast x.significand_lt
  have htop : Int.log 2 r - (significandBits - 1) ≤ x.exponent := by
    have hlt : r < ((2 : ℕ) : ℚ) ^ (x.exponent + significandBits) := by
      rw [zpow_add₀ (by norm_num), ← div_lt_iff₀' (by exact_mod_cast hpower), zpow_natCast]
      push_cast
      linarith
    have hlog := (Int.lt_zpow_iff_log_lt Nat.one_lt_two hr).1 hlt
    omega
  rcases eq_or_lt_of_le (max_le htop x.leastExponent_le) with hunit | hunit
  · have hround := ofRatio?_eq x.negative hnum hden (hratio ▸ hunit) (hratio ▸ hdist) (hratio ▸ hodd)
    rw [hround, if_neg x.significand_lt.ne, if_neg hpos.ne', ofParts?_eq]
  · -- Here the double is a power of two and the ratio is below it, where the unit is half as great.
    obtain ⟨hlog, hleast⟩ := max_lt_iff.1 hunit
    have hbelow : r / 2 ^ x.exponent < 2 ^ (significandBits - 1) := by
      have hlt : r < ((2 : ℕ) : ℚ) ^ (x.exponent + (significandBits - 1)) :=
        (Int.lt_zpow_iff_log_lt Nat.one_lt_two hr).2 (by omega)
      rw [div_lt_iff₀' hpower]
      rw [zpow_add₀ (by norm_num)] at hlt
      exact_mod_cast hlt
    have hs : x.significand = 2 ^ (significandBits - 1) := by
      have hnormal := x.normal hleast.ne'
      have hlt : (x.significand : ℚ) < 2 ^ (significandBits - 1) + 1 := by linarith
      have hcast : x.significand < 2 ^ (significandBits - 1) + 1 := by exact_mod_cast hlt
      omega
    have hquarter := h.sub_quarter_le hs hleast
    have hunit : max (Int.log 2 r - (significandBits - 1)) leastExponent = x.exponent - 1 := by
      have hle : ((2 : ℕ) : ℚ) ^ (x.exponent + (significandBits - 2)) ≤ r := by
        rw [zpow_add₀ (by norm_num), ← le_div_iff₀' (by exact_mod_cast hpower)]
        refine le_trans ?_ hquarter
        norm_num [significandBits]
      have hlog := (Int.zpow_le_iff_le_log Nat.one_lt_two hr).1 hle
      omega
    have hnear : |r / 2 ^ (x.exponent - 1) - (2 ^ significandBits : Nat)| ≤ 1 / 2 := by
      have hscale : r / 2 ^ (x.exponent - 1) = 2 * (r / 2 ^ x.exponent) := by
        rw [zpow_sub_one₀ two_ne_zero]
        field_simp
      have hdouble : ((2 ^ significandBits : Nat) : ℚ) = 2 * 2 ^ (significandBits - 1) := by
        norm_num [significandBits]
      rw [hscale, hdouble, abs_le]
      constructor <;> linarith
    have hround := ofRatio?_eq x.negative hnum hden (hratio ▸ hunit) (hratio ▸ hnear)
      fun hodd => absurd hodd (by decide)
    have hexponent : x.exponent - 1 + 1 = x.exponent := Int.sub_add_cancel _ _
    rw [hround, if_pos rfl, hexponent, ← hs, ofParts?_eq]

end

/-! ## Ratios that are too great -/

/-- A ratio is rounded to a number that it is at most half away from, and to an even one if it is
exactly half away. -/
theorem abs_sub_roundDiv_le {num den : Nat} (hden : 0 < den) :
    |(num : ℚ) / den - roundDiv num den| ≤ 1 / 2 ∧
      (roundDiv num den % 2 = 1 → |(num : ℚ) / den - roundDiv num den| ≠ 1 / 2) := by
  have hd : (0 : ℚ) < den := Nat.cast_pos.2 hden
  have hdist : ∀ m : Nat, (num : ℚ) / den - m = (num - m * den) / den := fun m => by
    field_simp
  have hnum : (num : ℚ) = den * (num / den : Nat) + (num % den : Nat) := by
    exact_mod_cast (Nat.div_add_mod num den).symm
  have hmod : ((num % den : Nat) : ℚ) < den := by exact_mod_cast Nat.mod_lt num hden
  have hnonneg : (0 : ℚ) ≤ (num % den : Nat) := Nat.cast_nonneg _
  rw [hdist, abs_div, abs_of_pos hd, div_le_iff₀ hd, Ne, div_eq_iff hd.ne']
  simp only [roundDiv]
  split
  · rename_i hlt
    have hq : (2 * (num % den : Nat) : ℚ) < den := by exact_mod_cast hlt
    have hrest : (num : ℚ) - (num / den : Nat) * den = (num % den : Nat) := by linarith
    rw [hrest, abs_of_nonneg hnonneg]
    exact ⟨by linarith, fun _ => by linarith⟩
  split
  · rename_i hgt
    have hq : (den : ℚ) < 2 * (num % den : Nat) := by exact_mod_cast hgt
    have hrest : (num : ℚ) - ((num / den + 1 : Nat) : ℚ) * den = -(den - (num % den : Nat)) := by
      push_cast
      linarith
    rw [hrest, abs_neg, abs_of_pos (by linarith)]
    exact ⟨by linarith, fun _ => by linarith⟩
  · have htie : 2 * (num % den) = den := by omega
    have hq : (2 * (num % den : Nat) : ℚ) = den := by exact_mod_cast htie
    rcases Nat.mod_two_eq_zero_or_one (num / den) with heven | hodd
    · have hrest : (num : ℚ) - ((num / den + num / den % 2 : Nat) : ℚ) * den = (num % den : Nat) := by
        rw [heven]
        push_cast
        linarith
      rw [hrest, abs_of_nonneg hnonneg]
      exact ⟨by linarith, fun h => by omega⟩
    · have hrest : (num : ℚ) - ((num / den + num / den % 2 : Nat) : ℚ) * den = -(num % den : Nat) := by
        rw [hodd]
        push_cast
        linarith
      rw [hrest, abs_neg, abs_of_nonneg hnonneg]
      exact ⟨by linarith, fun h => by omega⟩

theorem exists_nearest {r : ℚ} (hr : 0 ≤ r) :
    ∃ m : Nat, |r - m| ≤ 1 / 2 ∧ (m % 2 = 1 → |r - m| ≠ 1 / 2) := by
  have hratio : (r.num.toNat : ℚ) / r.den = r := by
    have hnum : ((r.num.toNat : Int) : ℚ) = r.num := by
      rw [Int.toNat_of_nonneg (Rat.num_nonneg.2 hr)]
    rw [← Int.cast_natCast, hnum, Rat.num_div_den]
  exact ⟨_, hratio ▸ abs_sub_roundDiv_le r.den_pos⟩

/-- A scaled ratio has the bits of a significand, and all of them unless the unit is the least one. -/
theorem scaled_bounds {r : ℚ} (hr : 0 < r) {unit : Int}
    (hunit : max (Int.log 2 r - (significandBits - 1)) leastExponent = unit) :
    r / 2 ^ unit < 2 ^ significandBits ∧
      (unit ≠ leastExponent → (2 : ℚ) ^ (significandBits - 1) ≤ r / 2 ^ unit) := by
  have hpower : (0 : ℚ) < 2 ^ unit := zpow_pos two_pos _
  have hbase : ((2 : ℕ) : ℚ) ≠ 0 := by norm_num
  constructor
  · have hlt : r < ((2 : ℕ) : ℚ) ^ (unit + significandBits) :=
      (Int.lt_zpow_iff_log_lt Nat.one_lt_two hr).2 (by omega)
    rw [zpow_add₀ hbase] at hlt
    rw [div_lt_iff₀' hpower]
    exact_mod_cast hlt
  · intro hne
    have hle : ((2 : ℕ) : ℚ) ^ (unit + (significandBits - 1)) ≤ r :=
      (Int.zpow_le_iff_le_log Nat.one_lt_two hr).2 (by omega)
    rw [zpow_add₀ hbase] at hle
    rw [le_div_iff₀' hpower]
    exact_mod_cast hle

/-- So has the number that it is rounded to.  The greatest significand is odd, so half a unit above it
is rounded away from it. -/
theorem nearest_bounds {t : ℚ} {m : Nat} (hdist : |t - m| ≤ 1 / 2)
    (hodd : m % 2 = 1 → |t - m| ≠ 1 / 2) (hupper : t < 2 ^ significandBits) :
    m ≤ 2 ^ significandBits ∧ (m < 2 ^ significandBits → t < 2 ^ significandBits - 1 / 2) ∧
      ((2 : ℚ) ^ (significandBits - 1) ≤ t → 2 ^ (significandBits - 1) ≤ m) := by
  obtain ⟨hbelow, habove⟩ := abs_le.1 hdist
  refine ⟨?_, fun hlt => ?_, fun hle => ?_⟩
  · have hcast : (m : ℚ) < (2 ^ significandBits : Nat) + 1 := by
      push_cast
      linarith
    exact Nat.le_of_lt_succ (by exact_mod_cast hcast)
  · rcases Nat.lt_or_eq_of_le (Nat.succ_le_of_lt hlt) with hless | hlast
    · have hcast : (m : ℚ) + 1 + 1 ≤ 2 ^ significandBits := by exact_mod_cast hless
      linarith
    · have hone : m % 2 = 1 := by
        have heven : 2 ^ significandBits % 2 = 0 := by decide
        omega
      have hcast : (m : ℚ) + 1 = 2 ^ significandBits := by exact_mod_cast hlast
      have hhalf : t - m < 1 / 2 :=
        lt_of_le_of_ne habove fun heq => hodd hone (by rw [heq, abs_of_pos one_half_pos])
      linarith
  · have hcast : ((2 ^ (significandBits - 1) : Nat) : ℚ) < m + 1 := by
      push_cast
      linarith
    exact Nat.le_of_lt_succ (by exact_mod_cast hcast)

theorem ofParts?_eq_none_iff {negative : Bool} {significand : Nat} {exponent : Int} :
    ofParts? negative significand exponent = none ↔ ¬InFormat significand exponent := by
  rw [ofParts?]
  split
  · rename_i h
    exact iff_of_false nofun (not_not_intro h)
  · rename_i h
    exact iff_of_true rfl h

section
variable {a r : ℚ} {unit k : Int}

theorem mul_zpow_le (ha : 0 ≤ a) (hle : a ≤ r / 2 ^ unit) (hk : k ≤ unit) : a * 2 ^ k ≤ r :=
  calc a * 2 ^ k ≤ a * 2 ^ unit := mul_le_mul_of_nonneg_left (zpow_le_zpow_right₀ one_le_two hk) ha
    _ ≤ r := (le_div_iff₀ (zpow_pos two_pos _)).1 hle

theorem lt_mul_zpow (ha : 0 ≤ a) (hlt : r / 2 ^ unit < a) (hk : unit ≤ k) : r < a * 2 ^ k :=
  calc r < a * 2 ^ unit := (div_lt_iff₀ (zpow_pos two_pos _)).1 hlt
    _ ≤ a * 2 ^ k := mul_le_mul_of_nonneg_left (zpow_le_zpow_right₀ one_le_two hk) ha

end

/-- **A ratio has no nearest double just when it is too great**: when it is half a unit below the power
of two above the greatest double, or more. -/
theorem ofRatio?_eq_none_iff {num den : Nat} {exponent : Int} (negative : Bool) (hnum : 0 < num)
    (hden : 0 < den) : ofRatio? negative num den exponent = none ↔
      ((2 : ℚ) ^ significandBits - 1 / 2) * 2 ^ greatestExponent ≤ num / den * 2 ^ exponent := by
  have hr : (0 : ℚ) < num / den * 2 ^ exponent :=
    mul_pos (div_pos (Nat.cast_pos.2 hnum) (Nat.cast_pos.2 hden)) (zpow_pos two_pos _)
  generalize hratio : (num : ℚ) / den * 2 ^ exponent = r at hr ⊢
  generalize hunit : max (Int.log 2 r - (significandBits - 1)) leastExponent = unit
  have hleast : leastExponent ≤ unit := hunit ▸ le_max_right _ _
  have hrange : leastExponent < greatestExponent := by decide
  have htop : (0 : ℚ) < 2 ^ greatestExponent := zpow_pos two_pos _
  have hbits : (2 : ℚ) ^ significandBits = 2 * 2 ^ (significandBits - 1) := by
    norm_num [significandBits]
  have hfirst : (1 : ℚ) ≤ 2 ^ (significandBits - 1) := by norm_num [significandBits]
  obtain ⟨hupper, hlower⟩ := scaled_bounds hr hunit
  obtain ⟨m, hdist, hodd⟩ := exists_nearest (div_pos hr (zpow_pos two_pos unit)).le
  obtain ⟨hle, hless, hnormal⟩ := nearest_bounds hdist hodd hupper
  rw [ofRatio?_eq negative hnum hden (hratio ▸ hunit) (hratio ▸ hdist) (hratio ▸ hodd)]
  rcases hle.eq_or_lt with hfull | hlt
  · -- The ratio is rounded up to the next power of two, whose unit is twice as great.
    have hbelow := (abs_le.1 hdist).1
    rw [hfull] at hbelow
    push_cast at hbelow
    rw [if_pos hfull, ofParts?_eq_none_iff]
    by_cases hexponent : unit + 1 ≤ greatestExponent
    · refine iff_of_false (not_not_intro ⟨by decide, by omega, hexponent, .inl le_rfl⟩) (not_le.2 ?_)
      have hsmall := lt_mul_zpow (by linarith) hupper (Int.le_sub_one_of_lt hexponent)
      rw [zpow_sub_one₀ two_ne_zero, ← mul_assoc, mul_right_comm] at hsmall
      exact hsmall.trans_le (mul_le_mul_of_nonneg_right (by linarith) htop.le)
    · have hhalf : (2 : ℚ) ^ significandBits - 1 / 2 ≤ r / 2 ^ unit := by linarith
      exact iff_of_true (fun h => hexponent h.2.2.1) (mul_zpow_le (by linarith) hhalf (by omega))
  · rw [if_neg hlt.ne, ofParts?_eq_none_iff]
    by_cases hexponent : unit ≤ greatestExponent
    · refine iff_of_false (not_not_intro ?_)
        (not_le.2 (lt_mul_zpow (by linarith) (hless hlt) hexponent))
      split
      · exact ⟨hlt, le_rfl, hrange.le, .inr rfl⟩
      · exact ⟨hlt, hleast, hexponent, or_iff_not_imp_right.2 fun hne => hnormal (hlower hne)⟩
    · have hne : unit ≠ leastExponent := by omega
      have hm : m ≠ 0 := fun h => absurd (hnormal (hlower hne)) (by rw [h]; decide)
      rw [if_neg hm]
      refine iff_of_true (fun h => hexponent h.2.2.1) ?_
      have hgreat := mul_zpow_le (by linarith) (hlower hne) (Int.add_one_le_of_lt (not_le.1 hexponent))
      rw [zpow_add_one₀ two_ne_zero, mul_comm _ (2 : ℚ), ← mul_assoc] at hgreat
      exact le_trans (mul_le_mul_of_nonneg_right (by linarith) htop.le) hgreat

end Binary64
end ClauseSql
