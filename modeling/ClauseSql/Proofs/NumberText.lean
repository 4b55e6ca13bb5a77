import ClauseSql.Json.Value
import ClauseSql.Proofs.ShortestDigits
import ClauseSql.Proofs.Significand

/-!
# Texts of numbers

The text of a JSON number is a number literal: an integer is written without a point, a double with
its shortest digits.

## What is here

* `Binary64.significand?` — the shortest digits of a double, as they are written.
* `Number.literal` — the literal that a number is written as (`Number.text_literal`), whose value is
  the number (`Number.value_literal`).
* `Number.IsPositional` — the numbers that are written without an exponent
  (`Number.isSigned_text_iff`).
* `Number.text_stored_iff` — the numbers that are written as a database writes them when it kept them.
-/

set_option autoImplicit false

namespace ClauseSql

/-! ## Shortest digits -/

namespace Binary64

/-- The digits that a double is written with; none for zero. -/
def significand? (x : Binary64) : Option Decimal.Significand :=
  if h : x.isZero = false ∧ 0 < x.shortest.1 then some (.ofNat x.shortest.1 h.2) else none

/-- The power of ten of the first digit. -/
def firstPower (x : Binary64) : Int :=
  x.shortest.2 + ((Nat.toDigits 10 x.shortest.1).length : Int) - 1

theorem significand?_eq_some {x : Binary64} {digits : Decimal.Significand}
    (h : x.significand? = some digits) :
    x.isZero = false ∧ ∃ hpos : 0 < x.shortest.1, digits = .ofNat x.shortest.1 hpos := by
  rw [significand?] at h
  split at h
  · rename_i hsome
    cases h
    exact ⟨hsome.1, hsome.2, rfl⟩
  · cases h

theorem significand?_eq_none {x : Binary64} (h : x.significand? = none) :
    x.isZero = true ∨ x.isZero = false ∧ x.shortest = (0, 0) := by
  cases hzero : x.isZero with
  | true => exact .inl rfl
  | false =>
    refine .inr ⟨rfl, shortest_eq_zero hzero (Nat.eq_zero_of_not_pos fun hpos => ?_)⟩
    rw [significand?, dif_pos ⟨hzero, hpos⟩] at h
    cases h

/-- The digits make the shortest decimal of the double. -/
theorem magnitude_significand {x : Binary64} {digits : Decimal.Significand}
    (h : x.significand? = some digits) :
    digits.magnitude x.firstPower = (x.shortest.1 : ℚ) * 10 ^ x.shortest.2 := by
  obtain ⟨-, hpos, rfl⟩ := significand?_eq_some h
  obtain ⟨zeros, hnumber, hlength⟩ := Decimal.Significand.number_ofNat hpos
  have hpower : x.firstPower - ((Decimal.Significand.ofNat _ hpos).rest.length : Int) =
      (zeros : Int) + x.shortest.2 := by
    rw [firstPower, hlength]
    omega
  rw [Decimal.Significand.magnitude, hpower, zpow_add₀ (by norm_num), zpow_natCast, ← mul_assoc]
  congr 1
  exact_mod_cast hnumber

end Binary64

/-! ## Numbers as literals -/

namespace Decimal.Plain

theorem scaledDigits_zero (n : Nat) : scaledDigits n 0 = Nat.toDigits 10 n := by
  have hlength := Nat.length_toDigits_pos (b := 10) (n := n)
  rw [scaledDigits, Nat.sub_eq_zero_of_le (by omega)]
  rfl

theorem whole_ofScaled_zero (negative : Bool) (n : Nat) :
    (ofScaled negative n 0).whole = Nat.toDigits 10 n :=
  List.take_length.trans (scaledDigits_zero n)

theorem fraction_ofScaled_zero (negative : Bool) (n : Nat) :
    (ofScaled negative n 0).fraction = [] := List.drop_length

theorem hasNoLead_ofScaled_zero (negative : Bool) (n : Nat) :
    (ofScaled negative n 0).HasNoLead := by
  rw [HasNoLead, whole_ofScaled_zero]
  rcases Nat.eq_zero_or_pos n with rfl | hpos
  · exact .inl rfl
  · exact .inr (head?_toDigits_ne hpos)

theorem text_ofScaled_zero (negative : Bool) (n : Nat) :
    (ofScaled negative n 0).text = signText negative ++ toString n := by
  refine String.toList_inj.1 ?_
  rw [toList_text, whole_ofScaled_zero, fractionChars, fraction_ofScaled_zero,
    String.toList_append, toList_signText, Nat.toString_eq_ofList_toDigits, String.toList_ofList]
  exact congrArg _ (List.append_nil _)

end Decimal.Plain

namespace Number

/-- A number as it is written. -/
def literal : Number → Decimal.Literal
  | .int value =>
    ⟨.ofScaled (value < 0) value.natAbs 0, none, Decimal.Plain.hasNoLead_ofScaled_zero _ _⟩
  | .float value =>
    match value.significand? with
    | none => .zero value.negative
    | some digits => layout.literal digits value.negative value.firstPower

theorem literal_of_none {value : Binary64} (h : value.significand? = none) :
    (float value).literal = .zero value.negative := by
  rw [literal, h]

theorem literal_of_some {value : Binary64} {digits : Decimal.Significand}
    (h : value.significand? = some digits) :
    (float value).literal = layout.literal digits value.negative value.firstPower := by
  rw [literal, h]

theorem text_int (value : Int) : (int value).text =
    Decimal.signText (value < 0) ++ toString value.natAbs := by
  cases value with
  | ofNat n =>
    have hsign : ¬ Int.ofNat n < 0 := Int.not_lt.2 (Int.natCast_nonneg n)
    rw [decide_eq_false hsign]
    exact String.empty_append.symm
  | negSucc n =>
    rw [decide_eq_true (Int.negSucc_lt_zero n)]
    rfl

/-- **A number is written as its literal.** -/
theorem text_literal (value : Number) : value.literal.text = value.text := by
  cases value with
  | int value =>
    rw [text_int, ← Decimal.Plain.text_ofScaled_zero]
    exact Decimal.Literal.text_of_exponent_none rfl
  | float value =>
    have hzero : ∀ negative, (Decimal.Literal.zero negative).text =
        Decimal.signText negative ++ "0.0" := by decide
    cases hdigits : value.significand? with
    | none =>
      rw [literal_of_none hdigits, hzero]
      rcases Binary64.significand?_eq_none hdigits with hz | ⟨hz, hshortest⟩
      · rw [text, Binary64.text, hz]
        rfl
      · rw [text, Binary64.text, hz, hshortest]
        rfl
    | some digits =>
      obtain ⟨hz, hpos, rfl⟩ := Binary64.significand?_eq_some hdigits
      rw [literal_of_some hdigits, Decimal.Layout.text_literal, Decimal.Significand.chars_ofNat,
        text, Binary64.text, hz]
      rfl

theorem value_plain_of_none {value : Binary64} (h : value.significand? = none) :
    (float value).plain.value = 0 := by
  have hzero : ∀ negative, (Decimal.Plain.ofScaled negative 0 0).value = 0 := fun negative => by
    rw [Decimal.Plain.value_ofScaled, Nat.cast_zero, zero_div, Decimal.signed_eq_zero_iff]
  rcases Binary64.significand?_eq_none h with hz | ⟨hz, hshortest⟩
  · rw [plain, hz]
    exact hzero false
  · rw [plain, hz, hshortest]
    exact hzero value.negative

theorem value_plain_of_some {value : Binary64} {digits : Decimal.Significand}
    (h : value.significand? = some digits) : (float value).plain.value =
      Decimal.signed value.negative (digits.magnitude value.firstPower) := by
  obtain ⟨hz, -⟩ := Binary64.significand?_eq_some h
  rw [Binary64.magnitude_significand h, plain, hz]
  exact Decimal.Plain.value_ofScaled_zpow value.negative value.shortest.1 value.shortest.2

theorem value_literal (value : Number) : value.literal.value = value.plain.value := by
  cases value with
  | int value => exact Decimal.Literal.value_of_exponent_none rfl
  | float value =>
    cases hdigits : value.significand? with
    | none =>
      rw [literal_of_none hdigits, value_plain_of_none hdigits]
      exact Decimal.Literal.coefficient_eq_zero_iff.1 rfl
    | some digits =>
      rw [literal_of_some hdigits, Decimal.Layout.value_literal, value_plain_of_some hdigits]

/-! ## Positional numbers -/

/-- The numbers that are written without an exponent: integers, and doubles that are zero or between
these powers of ten. -/
def IsPositional : Number → Prop
  | .int _ => True
  | .float value => (float value).plain.value = 0 ∨
      10 ^ (-5 : Int) ≤ |(float value).plain.value| ∧ |(float value).plain.value| < 10 ^ (16 : Int)

/-- A zero with a sign, which only doubles have. -/
def IsNegativeZero : Number → Prop
  | .int _ => False
  | .float value => value.negative = true ∧ (float value).plain.value = 0

theorem exponent_literal_eq_none_iff {value : Number} :
    value.literal.exponent = none ↔ value.IsPositional := by
  cases value with
  | int value => exact iff_of_true rfl trivial
  | float value =>
    cases hdigits : value.significand? with
    | none =>
      rw [literal_of_none hdigits]
      exact iff_of_true rfl (.inl (value_plain_of_none hdigits))
    | some digits =>
      have hne : (float value).plain.value ≠ 0 := by
        rw [value_plain_of_some hdigits]
        exact mt Decimal.signed_eq_zero_iff.1 (digits.magnitude_pos value.firstPower).ne'
      rw [IsPositional, or_iff_right hne, ← value_literal, literal_of_some hdigits]
      exact Decimal.Layout.exponent_literal_eq_none_iff _ _ _ _

/-- **The text of a number is a signed decimal just when the number is written without an
exponent.** -/
theorem isSigned_text_iff {value : Number} :
    Decimal.IsSigned value.text ↔ value.IsPositional := by
  rw [← text_literal, Decimal.Literal.isSigned_text_iff, exponent_literal_eq_none_iff]

/-! ## Kept numbers -/

theorem negative_literal_iff {value : Number} :
    value.literal.decimal.negative = true ∧ value.literal.decimal.coefficient = 0 ↔
      value.IsNegativeZero := by
  rw [Decimal.Literal.coefficient_eq_zero_iff, value_literal]
  cases value with
  | int value =>
    refine iff_of_false (fun ⟨hnegative, hzero⟩ => ?_) id
    have hlt : value < 0 := of_decide_eq_true hnegative
    rw [← value_literal, ← Decimal.Literal.coefficient_eq_zero_iff] at hzero
    have hcoefficient : value.natAbs = 0 :=
      (Decimal.Plain.coefficient_ofScaled _ _ _).symm.trans hzero
    omega
  | float value =>
    have hnegative : (float value).literal.decimal.negative = value.negative := by
      cases hdigits : value.significand? with
      | none => rw [literal_of_none hdigits, Decimal.Literal.zero]
      | some digits => rw [literal_of_some hdigits, Decimal.Layout.negative_literal]
    rw [hnegative, IsNegativeZero]

/-- **A number is written as it comes back from a database that kept it in decimal, except for the
numbers with an exponent and for negative zero.** -/
theorem text_stored_iff {value : Number} :
    value.literal.stored.text = value.text ↔ value.IsPositional ∧ ¬ value.IsNegativeZero := by
  rw [← text_literal, Decimal.Literal.text_stored_iff, exponent_literal_eq_none_iff,
    negative_literal_iff]

end Number
end ClauseSql
