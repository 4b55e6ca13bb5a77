import ClauseSql.Proofs.Digits
import Mathlib.Algebra.Order.Field.Power
import Mathlib.Tactic.Ring

/-!
# Number literals

JSON writes a number as a decimal, with an exponent of ten after it or without one.  A database that
keeps numbers in decimal reads the exponent and does not write it again, so a number comes back with
all of its digits.

## What is here

* `Decimal.Literal` — the numbers that JSON can write, with their texts and their values.
* `Decimal.Literal.isSigned_text_iff` — a literal is a signed decimal just when it has no exponent.
* `Decimal.Literal.stored` — what is kept of a literal: a plain decimal of the same value
  (`value_stored`).  It is written like the literal if there was no exponent to read and no sign to
  drop (`text_stored_iff`).
-/

set_option autoImplicit false

namespace ClauseSql
namespace Decimal

/-! ## Exponents -/

/-- The sign of an exponent, which need not be written. -/
inductive Sign where
  | absent
  | plus
  | minus
deriving DecidableEq

/-- The characters of a sign. -/
def Sign.chars : Sign → List Char
  | .absent => []
  | .plus => ['+']
  | .minus => ['-']

/-- A number with a sign. -/
def Sign.apply : Sign → Nat → Int
  | .minus, n => -(n : Int)
  | _, n => n

/-- An exponent of ten as it is written, after either of two marks. -/
structure Exponent where
  capital : Bool
  sign : Sign
  digits : List Char
  digits_ne_nil : digits ≠ []
  isDigit_digits : ∀ c ∈ digits, c.isDigit = true

namespace Exponent

/-- The mark before an exponent. -/
def mark (exponent : Exponent) : Char := if exponent.capital then 'E' else 'e'

/-- The characters of an exponent, with the mark. -/
def chars (exponent : Exponent) : List Char :=
  exponent.mark :: (exponent.sign.chars ++ exponent.digits)

/-- The exponent that is written. -/
def value (exponent : Exponent) : Int :=
  exponent.sign.apply (Nat.ofDigitChars 10 exponent.digits 0)

end Exponent

/-! ## Literals -/

/-- A number as JSON writes it: no zeros before its digits, and an exponent if there is one. -/
structure Literal where
  decimal : Plain
  exponent : Option Exponent
  hasNoLead : decimal.HasNoLead

namespace Literal

/-- The characters of the exponent, if there is one. -/
def exponentChars (literal : Literal) : List Char := literal.exponent.elim [] Exponent.chars

/-- The text of a literal. -/
def text (literal : Literal) : String :=
  literal.decimal.text ++ String.ofList literal.exponentChars

/-- The power of ten that the decimal is multiplied by. -/
def shift (literal : Literal) : Int := literal.exponent.elim 0 Exponent.value

/-- The number that a literal spells. -/
def value (literal : Literal) : ℚ := literal.decimal.value * 10 ^ literal.shift

theorem toList_text (literal : Literal) :
    literal.text.toList = literal.decimal.text.toList ++ literal.exponentChars := by
  rw [text, String.toList_append, String.toList_ofList]

theorem text_of_exponent_none {literal : Literal} (h : literal.exponent = none) :
    literal.text = literal.decimal.text := by
  rw [text, exponentChars, h]
  exact String.append_empty

theorem value_of_exponent_none {literal : Literal} (h : literal.exponent = none) :
    literal.value = literal.decimal.value := by
  rw [value, shift, h]
  exact (congrArg _ (zpow_zero _)).trans (mul_one _)

end Literal

/-! ## Texts without exponents -/

namespace Plain

/-- The characters of a decimal without its sign. -/
theorem isDigit_or_eq_of_mem {decimal : Plain} {c : Char}
    (h : c ∈ decimal.whole ++ decimal.fractionChars) : c.isDigit = true ∨ c = '.' := by
  rw [fractionChars, List.mem_append] at h
  rcases h with h | h
  · exact .inl (decimal.isDigit_whole c h)
  · split at h
    · cases h
    · exact (List.mem_cons.1 h).symm.imp_left (decimal.isDigit_fraction c)

/-- A decimal is written with a minus sign just when it is negative. -/
theorem minus_mem_text_iff {decimal : Plain} :
    '-' ∈ decimal.text.toList ↔ decimal.negative = true := by
  rw [toList_text, List.mem_append]
  constructor
  · rintro (h | h)
    · by_contra hn
      rw [if_neg hn] at h
      cases h
    · exact absurd (isDigit_or_eq_of_mem h) (by decide)
  · intro h
    rw [if_pos h]
    exact .inl List.mem_cons_self

end Plain

/-- The characters of a signed decimal. -/
theorem IsSigned.mem {text : String} (h : IsSigned text) {c : Char} (hc : c ∈ text.toList) :
    c.isDigit = true ∨ c = '.' ∨ c = '-' ∨ c = '+' := by
  have hplain : ∀ decimal : Plain, c ∈ decimal.text.toList →
      c.isDigit = true ∨ c = '.' ∨ c = '-' := by
    intro decimal hc
    rw [Plain.toList_text, List.mem_append] at hc
    rcases hc with hc | hc
    · split at hc
      · exact .inr (.inr (List.mem_singleton.1 hc))
      · cases hc
    · exact (Plain.isDigit_or_eq_of_mem hc).imp_right .inl
  obtain ⟨decimal, rfl | ⟨-, rfl⟩⟩ := h
  · exact (hplain decimal hc).imp_right (·.imp_right .inl)
  · rw [String.toList_append, List.mem_append] at hc
    rcases hc with hc | hc
    · exact .inr (.inr (.inr (List.mem_singleton.1 hc)))
    · exact (hplain decimal hc).imp_right (·.imp_right .inl)

/-- A literal is a signed decimal just when it has no exponent. -/
theorem Literal.isSigned_text_iff {literal : Literal} :
    IsSigned literal.text ↔ literal.exponent = none := by
  constructor
  · intro h
    cases hexponent : literal.exponent with
    | none => rfl
    | some exponent =>
      have hmark : exponent.mark ∈ literal.text.toList := by
        rw [toList_text, exponentChars, hexponent]
        exact List.mem_append_right _ List.mem_cons_self
      have hmem := h.mem hmark
      rw [Exponent.mark] at hmem
      cases hcapital : exponent.capital <;> rw [hcapital] at hmem <;> exact absurd hmem (by decide)
  · intro h
    exact ⟨literal.decimal, .inl (text_of_exponent_none h)⟩

/-! ## Stored numbers -/

theorem ten_zpow_eq (e : Int) : (10 : ℚ) ^ e = 10 ^ e.toNat / 10 ^ (-e).toNat := by
  rcases Int.le_total 0 e with h | h
  · obtain ⟨n, rfl⟩ := Int.eq_ofNat_of_zero_le h
    have hzero : (-(n : Int)).toNat = 0 := by omega
    rw [hzero, Int.toNat_natCast, zpow_natCast, pow_zero, div_one]
  · obtain ⟨n, hn⟩ := Int.eq_ofNat_of_zero_le (Int.neg_nonneg_of_nonpos h)
    have he : e = -(n : Int) := by omega
    have hzero : e.toNat = 0 := by omega
    rw [hn, hzero, Int.toNat_natCast, pow_zero, he, zpow_neg, zpow_natCast, one_div]

/-- A coefficient and a power of ten, written out. -/
theorem Plain.value_ofScaled_zpow (negative : Bool) (n : Nat) (e : Int) :
    (ofScaled negative (n * 10 ^ e.toNat) (-e).toNat).value = signed negative ((n : ℚ) * 10 ^ e) := by
  have h : ((n * 10 ^ e.toNat : Nat) : ℚ) / 10 ^ (-e).toNat = (n : ℚ) * 10 ^ e := by
    rw [Nat.cast_mul, Nat.cast_pow, ten_zpow_eq, mul_div_assoc]
    rfl
  rw [value_ofScaled, h]

namespace Literal

/-- The power of ten of the last digit. -/
def lastPower (literal : Literal) : Int := literal.shift - literal.decimal.fraction.length

/-- The number that is kept of a literal.  It has no exponent, and it has as many digits after the
point as the literal asks for.  Zero has no sign. -/
def stored (literal : Literal) : Plain :=
  .ofScaled (literal.decimal.negative && literal.decimal.coefficient != 0)
    (literal.decimal.coefficient * 10 ^ literal.lastPower.toNat) (-literal.lastPower).toNat

theorem value_eq (literal : Literal) : literal.value =
    signed literal.decimal.negative
      ((literal.decimal.coefficient : ℚ) * 10 ^ literal.lastPower) := by
  have hmagnitude : (literal.decimal.coefficient : ℚ) / 10 ^ literal.decimal.fraction.length *
      10 ^ literal.shift = (literal.decimal.coefficient : ℚ) * 10 ^ literal.lastPower := by
    rw [lastPower, zpow_sub₀ (by norm_num), zpow_natCast]
    ring
  rw [← hmagnitude, ← signed_mul]
  rfl

theorem coefficient_eq_zero_iff {literal : Literal} :
    literal.decimal.coefficient = 0 ↔ literal.value = 0 := by
  have hpower : (10 : ℚ) ^ literal.lastPower ≠ 0 := zpow_ne_zero _ (by norm_num)
  rw [value_eq, signed_eq_zero_iff, mul_eq_zero, or_iff_left hpower, Nat.cast_eq_zero]

/-- The number that is kept is the number that was written. -/
theorem value_stored (literal : Literal) : literal.stored.value = literal.value := by
  rw [stored, Plain.value_ofScaled_zpow, value_eq]
  rcases Nat.eq_zero_or_pos literal.decimal.coefficient with hzero | hpos
  · have hnone : (literal.decimal.coefficient : ℚ) * 10 ^ literal.lastPower = 0 := by
      rw [hzero, Nat.cast_zero, zero_mul]
    rw [signed_eq_zero_iff.2 hnone, signed_eq_zero_iff.2 hnone]
  · have hne : (literal.decimal.coefficient != 0) = true := bne_iff_ne.2 hpos.ne'
    rw [hne, Bool.and_true]

/-- **The number that is kept is written like the literal if the literal has no exponent and is not a
negative zero**, and in no other case. -/
theorem text_stored_iff {literal : Literal} : literal.stored.text = literal.text ↔
    literal.exponent = none ∧
      ¬ (literal.decimal.negative = true ∧ literal.decimal.coefficient = 0) := by
  constructor
  · intro h
    have hexponent := isSigned_text_iff.1 ⟨literal.stored, .inl h.symm⟩
    refine ⟨hexponent, fun ⟨hnegative, hzero⟩ => ?_⟩
    rw [text_of_exponent_none hexponent] at h
    have hminus : literal.stored.negative = true :=
      Plain.minus_mem_text_iff.1 (h ▸ Plain.minus_mem_text_iff.2 hnegative)
    rw [stored, hzero, bne_self_eq_false, Bool.and_false] at hminus
    exact absurd hminus Bool.false_ne_true
  · rintro ⟨hexponent, hsign⟩
    have hnegative : (literal.decimal.negative && literal.decimal.coefficient != 0) =
        literal.decimal.negative := by
      cases hn : literal.decimal.negative with
      | false => rfl
      | true => exact bne_iff_ne.2 fun hzero => hsign ⟨hn, hzero⟩
    have hlast : literal.lastPower = -(literal.decimal.fraction.length : Int) := by
      rw [lastPower, shift, hexponent]
      exact Int.zero_sub _
    have hzero : (-(literal.decimal.fraction.length : Int)).toNat = 0 := by omega
    rw [text_of_exponent_none hexponent, stored, hnegative, hlast, hzero, Nat.pow_zero, Nat.mul_one,
      Int.neg_neg, Int.toNat_natCast, Plain.ofScaled_coefficient literal.hasNoLead]

end Literal
end Decimal
end ClauseSql
