import ClauseSql.Json.Value
import Mathlib.Data.Rat.Defs

/-!
# Plain decimals

A database keeps numbers in decimal and writes them without an exponent, however great they are.

## What is here

* `Decimal.Plain` — a decimal without an exponent, with its text and its value, and
  `Decimal.IsSigned`, the texts of such decimals, where a plus sign can be written too.
* `Decimal.valueOf?` — the value that a text spells, which for the text of a plain decimal is its
  value (`Decimal.Plain.valueOf?_text`).
* `Number.plain` — a JSON number as a plain decimal.
-/

set_option autoImplicit false

namespace ClauseSql

namespace Decimal

/-- The number of a sign, digits, and digits after the point. -/
def number (negative : Bool) (whole fraction : List Char) : ℚ :=
  let magnitude : ℚ := Nat.ofDigitChars 10 (whole ++ fraction) 0 / 10 ^ fraction.length
  if negative then -magnitude else magnitude

/-- A decimal without an exponent: digits, and the digits of a fraction if there are any. -/
structure Plain where
  negative : Bool
  whole : List Char
  fraction : List Char
  whole_ne_nil : whole ≠ []
  isDigit_whole : ∀ c ∈ whole, c.isDigit = true
  isDigit_fraction : ∀ c ∈ fraction, c.isDigit = true

namespace Plain

/-- The characters of the fraction, with the point. -/
def fractionChars (decimal : Plain) : List Char :=
  if decimal.fraction.isEmpty then [] else '.' :: decimal.fraction

/-- The text of a decimal. -/
def text (decimal : Plain) : String :=
  String.ofList ((if decimal.negative then ['-'] else []) ++
    (decimal.whole ++ decimal.fractionChars))

theorem toList_text (decimal : Plain) : decimal.text.toList =
    (if decimal.negative then ['-'] else []) ++ (decimal.whole ++ decimal.fractionChars) :=
  String.toList_ofList

/-- The number that a decimal spells. -/
def value (decimal : Plain) : ℚ := number decimal.negative decimal.whole decimal.fraction

end Plain

/-- Whether a text is a decimal without an exponent, with any sign or none. -/
def IsSigned (text : String) : Prop :=
  ∃ decimal : Plain, text = decimal.text ∨ decimal.negative = false ∧ text = "+" ++ decimal.text

/-! ## Reading -/

/-- The value of a text without a sign. -/
def unsignedValue? (negative : Bool) (chars : List Char) : Option ℚ :=
  let whole := chars.takeWhile Char.isDigit
  if whole.isEmpty then none
  else
    match chars.dropWhile Char.isDigit with
    | [] => some (number negative whole [])
    | '.' :: fraction =>
      if fraction.all Char.isDigit then some (number negative whole fraction) else none
    | _ => none

/-- The value that a text spells, if it is a decimal without an exponent. -/
def valueOf? (text : String) : Option ℚ :=
  match text.toList with
  | '-' :: chars => unsignedValue? true chars
  | chars => unsignedValue? false chars

namespace Plain

theorem unsignedValue?_chars (decimal : Plain) (negative : Bool) :
    unsignedValue? negative (decimal.whole ++ decimal.fractionChars) =
      some (number negative decimal.whole decimal.fraction) := by
  have hwhole : decimal.whole.isEmpty = false :=
    Bool.eq_false_iff.2 fun h => decimal.whole_ne_nil (List.isEmpty_iff.1 h)
  have htake : (decimal.whole ++ decimal.fractionChars).takeWhile Char.isDigit = decimal.whole := by
    rw [List.takeWhile_append_of_pos decimal.isDigit_whole, fractionChars]
    split <;> exact List.append_nil _
  have hdrop : (decimal.whole ++ decimal.fractionChars).dropWhile Char.isDigit =
      decimal.fractionChars := by
    rw [List.dropWhile_append_of_pos decimal.isDigit_whole, fractionChars]
    split <;> rfl
  rw [unsignedValue?, htake, hdrop, hwhole, fractionChars]
  cases hfraction : decimal.fraction with
  | nil => rfl
  | cons c rest =>
    have hall : (c :: rest).all Char.isDigit = true :=
      List.all_eq_true.2 (hfraction ▸ decimal.isDigit_fraction)
    exact if_pos hall

/-- The text of a decimal spells its value. -/
theorem valueOf?_text (decimal : Plain) : valueOf? decimal.text = some decimal.value := by
  have hchars := decimal.unsignedValue?_chars decimal.negative
  rw [valueOf?, toList_text, value]
  cases hnegative : decimal.negative with
  | true =>
    rw [hnegative] at hchars
    exact hchars
  | false =>
    rw [hnegative] at hchars
    obtain ⟨c, rest, hcons⟩ := List.exists_cons_of_ne_nil decimal.whole_ne_nil
    have hc : c ≠ '-' := by
      rintro rfl
      exact absurd (decimal.isDigit_whole '-' (hcons ▸ List.mem_cons_self)) (by decide)
    rw [hcons] at hchars ⊢
    split
    · rename_i chars hminus
      exact absurd (List.cons.inj hminus).1 hc
    · exact hchars

/-! ## Writing -/

/-- The digits of a coefficient, with zeros before them so that more than `scale` are there. -/
def scaledDigits (coefficient scale : Nat) : List Char :=
  List.replicate (scale + 1 - (Nat.toDigits 10 coefficient).length) '0' ++ Nat.toDigits 10 coefficient

theorem lt_length_scaledDigits (coefficient scale : Nat) :
    scale < (scaledDigits coefficient scale).length := by
  rw [scaledDigits, List.length_append, List.length_replicate]
  omega

theorem isDigit_of_mem_scaledDigits {coefficient scale : Nat} {c : Char}
    (h : c ∈ scaledDigits coefficient scale) : c.isDigit = true := by
  rcases List.mem_append.1 h with h | h
  · rw [List.eq_of_mem_replicate h]
    rfl
  · exact Nat.isDigit_of_mem_toDigits (by decide) (by decide) h

/-- The decimal of a coefficient with a number of digits after the point. -/
def ofScaled (negative : Bool) (coefficient scale : Nat) : Plain where
  negative := negative
  whole := (scaledDigits coefficient scale).take ((scaledDigits coefficient scale).length - scale)
  fraction := (scaledDigits coefficient scale).drop ((scaledDigits coefficient scale).length - scale)
  whole_ne_nil h := by
    have hlt := lt_length_scaledDigits coefficient scale
    have hlength := congrArg List.length h
    rw [List.length_take, List.length_nil] at hlength
    omega
  isDigit_whole _ h := isDigit_of_mem_scaledDigits (List.mem_of_mem_take h)
  isDigit_fraction _ h := isDigit_of_mem_scaledDigits (List.mem_of_mem_drop h)

end Plain
end Decimal

/-- A number as a plain decimal: an integer, or the shortest digits of a double. -/
def Number.plain : Number → Decimal.Plain
  | .int value => .ofScaled (value < 0) value.natAbs 0
  | .float value =>
    if value.isZero then .ofScaled false 0 0
    else
      let (count, exponent) := value.shortest
      .ofScaled value.negative (count * Nat.pow 10 exponent.toNat) (-exponent).toNat

example : (Number.float ⟨true, 5629499534213120, -51, by decide⟩).plain.text = "-2.5" := by decide +kernel

end ClauseSql
