import ClauseSql.Proofs.Literal
import Mathlib.Data.List.DropRight

/-!
# Layouts

A layout writes the digits of a number positionally or with an exponent, depending on how great the
number is.  Either way the text is a number literal.

## What is here

* `Decimal.Significand` — the digits of a number that is not zero, and `Significand.ofNat`, those of a
  count without the zeros at its end.
* `Decimal.Layout.literal` — the literal that a layout writes (`text_literal`), whose value is the
  digits times a power of ten (`value_literal`).
* `Decimal.Layout.exponent_literal_eq_none_iff` — the numbers that a layout writes positionally.
-/

set_option autoImplicit false

namespace ClauseSql
namespace Decimal

/-! ## Zeros at the end -/

theorem trimZeros_cons {c : Char} (h : c ≠ '0') (rest : List Char) :
    trimZeros (c :: rest) = c :: trimZeros rest := by
  have hc : List.dropWhile (· == '0') [c] = [c] := by
    rw [List.dropWhile_cons, if_neg (by rwa [beq_iff_eq])]
  rw [trimZeros, List.reverse_cons, List.dropWhile_append]
  split
  · rename_i hempty
    rw [hc, trimZeros, List.isEmpty_iff.1 hempty]
    rfl
  · rw [List.reverse_append]
    rfl

/-- What is removed from the end of digits is zeros. -/
theorem eq_trimZeros_append (digits : List Char) :
    ∃ count, digits = trimZeros digits ++ List.replicate count '0' := by
  have hzeros : digits.rtakeWhile (· == '0') =
      List.replicate (digits.rtakeWhile (· == '0')).length '0' :=
    List.eq_replicate_of_mem fun c hc => beq_iff_eq.1 (List.mem_rtakeWhile_imp (p := (· == '0')) hc)
  exact ⟨_, hzeros ▸ (List.rdropWhile_append_rtakeWhile (p := (· == '0'))).symm⟩

/-! ## Significands -/

/-- The digits of a number that is not zero, without zeros before them. -/
structure Significand where
  lead : Char
  rest : List Char
  isDigit_lead : lead.isDigit = true
  lead_ne : lead ≠ '0'
  isDigit_rest : ∀ c ∈ rest, c.isDigit = true

namespace Significand

/-- The digits. -/
def chars (digits : Significand) : List Char := digits.lead :: digits.rest

/-- The number of the digits. -/
def number (digits : Significand) : Nat := Nat.ofDigitChars 10 digits.chars 0

theorem isDigit_chars (digits : Significand) : ∀ c ∈ digits.chars, c.isDigit = true :=
  List.forall_mem_cons.2 ⟨digits.isDigit_lead, digits.isDigit_rest⟩

theorem pow_le_number (digits : Significand) : 10 ^ digits.rest.length ≤ digits.number :=
  pow_le_ofDigitChars digits.rest digits.isDigit_lead digits.lead_ne

theorem number_lt (digits : Significand) : digits.number < 10 ^ (digits.rest.length + 1) :=
  ofDigitChars_lt digits.isDigit_chars

/-- The digits of a positive count, without the zeros at its end. -/
def ofNat (n : Nat) (h : 0 < n) : Significand where
  lead := (Nat.toDigits 10 n).head Nat.toDigits_ne_nil
  rest := trimZeros (Nat.toDigits 10 n).tail
  isDigit_lead := Nat.isDigit_of_mem_toDigits (by decide) (by decide) (List.head_mem _)
  lead_ne heq := head?_toDigits_ne h (heq ▸ List.head?_eq_some_head Nat.toDigits_ne_nil)
  isDigit_rest c hc := by
    have hmem : c ∈ (Nat.toDigits 10 n).tail := (List.rdropWhile_prefix (· == '0') _).subset hc
    exact Nat.isDigit_of_mem_toDigits (by decide) (by decide) (List.mem_of_mem_tail hmem)

theorem chars_ofNat {n : Nat} (h : 0 < n) : (ofNat n h).chars = trimZeros (Nat.toDigits 10 n) := by
  have hcons : (ofNat n h).lead :: (Nat.toDigits 10 n).tail = Nat.toDigits 10 n :=
    List.cons_head_tail Nat.toDigits_ne_nil
  exact (trimZeros_cons (ofNat n h).lead_ne _).symm.trans (congrArg trimZeros hcons)

/-- The zeros that were removed are a power of ten. -/
theorem number_ofNat {n : Nat} (h : 0 < n) : ∃ count, (ofNat n h).number * 10 ^ count = n ∧
    (Nat.toDigits 10 n).length = (ofNat n h).rest.length + 1 + count := by
  obtain ⟨count, hcount⟩ := eq_trimZeros_append (Nat.toDigits 10 n)
  rw [← chars_ofNat h] at hcount
  refine ⟨count, ?_, ?_⟩
  · have hvalue := congrArg (Nat.ofDigitChars 10 · 0) hcount
    simp only [Nat.ofDigitChars_append, Nat.ofDigitChars_replicate_zero,
      Nat.ofDigitChars_ten_toDigits] at hvalue
    rw [number, Nat.mul_comm, ← hvalue]
  · have hlength := congrArg List.length hcount
    rwa [List.length_append, List.length_replicate, chars, List.length_cons] at hlength

/-! ## Literals of digits -/

variable (digits : Significand) (negative : Bool) (first : Int)

/-- The digits behind zeros, for a number below one. -/
def below : Literal where
  decimal :=
    { negative
      whole := ['0']
      fraction := List.replicate ((-first).toNat - 1) '0' ++ digits.chars
      whole_ne_nil := List.cons_ne_nil _ _
      isDigit_whole := List.forall_mem_singleton.2 rfl
      isDigit_fraction := List.forall_mem_append.2
        ⟨fun _ hc => List.eq_of_mem_replicate hc ▸ rfl, digits.isDigit_chars⟩ }
  exponent := none
  hasNoLead := .inl rfl

/-- The digits with the point between them, or behind them and as many zeros as are missing. -/
def above : Literal where
  decimal :=
    { negative
      whole := digits.lead :: (digits.rest.take first.toNat ++
        List.replicate (first.toNat - (digits.rest.take first.toNat).length) '0')
      fraction := if (digits.rest.drop first.toNat).isEmpty then ['0']
        else digits.rest.drop first.toNat
      whole_ne_nil := List.cons_ne_nil _ _
      isDigit_whole := List.forall_mem_cons.2 ⟨digits.isDigit_lead, List.forall_mem_append.2
        ⟨fun c hc => digits.isDigit_rest c (List.mem_of_mem_take hc),
          fun _ hc => List.eq_of_mem_replicate hc ▸ rfl⟩⟩
      isDigit_fraction := by
        split
        · exact List.forall_mem_singleton.2 rfl
        · exact fun c hc => digits.isDigit_rest c (List.mem_of_mem_drop hc) }
  exponent := none
  hasNoLead := .inr fun h => digits.lead_ne (Option.some.inj h)

/-- The digits with the point behind the first one, and an exponent. -/
def scientific : Literal where
  decimal :=
    { negative
      whole := [digits.lead]
      fraction := digits.rest
      whole_ne_nil := List.cons_ne_nil _ _
      isDigit_whole := List.forall_mem_singleton.2 digits.isDigit_lead
      isDigit_fraction := digits.isDigit_rest }
  exponent := some
    { capital := false
      sign := if first < 0 then .minus else .plus
      digits := Nat.toDigits 10 first.natAbs
      digits_ne_nil := Nat.toDigits_ne_nil
      isDigit_digits := fun _ => Nat.isDigit_of_mem_toDigits (by decide) (by decide) }
  hasNoLead := .inr fun h => digits.lead_ne (Option.some.inj h)

end Significand

/-- Zero with a point. -/
def Literal.zero (negative : Bool) : Literal where
  decimal :=
    { negative
      whole := ['0']
      fraction := ['0']
      whole_ne_nil := List.cons_ne_nil _ _
      isDigit_whole := List.forall_mem_singleton.2 rfl
      isDigit_fraction := List.forall_mem_singleton.2 rfl }
  exponent := none
  hasNoLead := .inl rfl

/-- The literal that a layout writes. -/
def Layout.literal (layout : Layout) (digits : Significand) (negative : Bool) (first : Int) :
    Literal :=
  if layout.least ≤ first ∧ first < layout.bound then
    if first < 0 then digits.below negative first else digits.above negative first
  else digits.scientific negative first

/-! ## Texts -/

/-- The sign of a number. -/
def signText (negative : Bool) : String := if negative then "-" else ""

theorem toList_signText (negative : Bool) :
    (signText negative).toList = if negative then ['-'] else [] := by
  cases negative <;> rfl

/-- A decimal with a fraction. -/
theorem Plain.toList_text_of_ne_nil {decimal : Plain} (h : decimal.fraction ≠ []) :
    decimal.text.toList =
      (signText decimal.negative).toList ++ (decimal.whole ++ '.' :: decimal.fraction) := by
  rw [toList_text, toList_signText, fractionChars, if_neg (mt List.isEmpty_iff.1 h)]

theorem toList_exponentText (e : Int) : (exponentText e).toList =
    'e' :: ((if e < 0 then Sign.minus else Sign.plus).chars ++ Nat.toDigits 10 e.natAbs) := by
  rw [exponentText, Nat.toString_eq_ofList_toDigits]
  split <;> simp only [String.toList_append, String.toList_ofList] <;> rfl

namespace Significand

variable (digits : Significand) (negative : Bool) (first : Int)

theorem text_below : (digits.below negative first).text = signText negative ++
    ("0." ++ String.ofList (List.replicate ((-first).toNat - 1) '0' ++ digits.chars)) := by
  refine String.toList_inj.1 ?_
  rw [Literal.text_of_exponent_none rfl, Plain.toList_text_of_ne_nil
      (List.append_ne_nil_of_right_ne_nil _ (List.cons_ne_nil _ _))]
  simp only [String.toList_append, String.toList_ofList]
  rfl

theorem fraction_above_ne_nil : (digits.above negative first).decimal.fraction ≠ [] := by
  rw [above]
  split
  · exact List.cons_ne_nil _ _
  · rename_i h
    exact mt List.isEmpty_iff.2 h

theorem text_above : (digits.above negative first).text = signText negative ++
    (String.ofList (digits.chars.take (first.toNat + 1) ++
      List.replicate (first.toNat + 1 - (digits.chars.take (first.toNat + 1)).length) '0') ++ "." ++
      String.ofList (if (digits.chars.drop (first.toNat + 1)).isEmpty then ['0']
        else digits.chars.drop (first.toNat + 1))) := by
  have hpadding : first.toNat + 1 - (digits.chars.take (first.toNat + 1)).length =
      first.toNat - (digits.rest.take first.toNat).length := Nat.add_sub_add_right _ 1 _
  refine String.toList_inj.1 ?_
  rw [Literal.text_of_exponent_none rfl,
    Plain.toList_text_of_ne_nil (digits.fraction_above_ne_nil negative first), hpadding]
  simp only [above, chars, List.take_succ_cons, List.drop_succ_cons, String.toList_append,
    String.toList_ofList, List.cons_append, List.append_assoc]
  rfl

theorem text_scientific : (digits.scientific negative first).text = signText negative ++
    (match digits.chars with
      | [] => exponentText first
      | [d] => String.singleton d ++ exponentText first
      | d :: rest => String.singleton d ++ "." ++ String.ofList rest ++ exponentText first) := by
  refine String.toList_inj.1 ?_
  obtain ⟨lead, rest, _, _, _⟩ := digits
  rw [Literal.toList_text]
  cases rest with
  | nil =>
    rw [Plain.toList_text, ← toList_signText]
    simp only [chars, String.toList_append, String.toList_singleton, toList_exponentText,
      List.append_assoc]
    rfl
  | cons c rest =>
    rw [Plain.toList_text_of_ne_nil (List.cons_ne_nil c rest)]
    simp only [chars, String.toList_append, String.toList_singleton, String.toList_ofList,
      toList_exponentText, List.append_assoc]
    rfl

end Significand

theorem Layout.text_literal (layout : Layout) (digits : Significand) (negative : Bool)
    (first : Int) : (layout.literal digits negative first).text =
      signText negative ++ layout.write digits.chars first := by
  rw [literal, write.eq_def]
  split
  · split
    · exact digits.text_below negative first
    · exact digits.text_above negative first
  · exact digits.text_scientific negative first

/-! ## Values -/

namespace Significand

/-- The number of digits whose first one stands at a power of ten. -/
def magnitude (digits : Significand) (first : Int) : ℚ :=
  digits.number * 10 ^ (first - digits.rest.length)

/-- A literal of the digits, with some zeros behind them. -/
theorem value_of_coefficient (zeros : Nat) {digits : Significand} {first : Int} {literal : Literal}
    (hcoefficient : literal.decimal.coefficient = digits.number * 10 ^ zeros)
    (hlast : literal.lastPower = first - digits.rest.length - zeros) :
    literal.value = signed literal.decimal.negative (digits.magnitude first) := by
  have h : (literal.decimal.coefficient : ℚ) * 10 ^ literal.lastPower = digits.magnitude first := by
    rw [hcoefficient, hlast, zpow_sub₀ (by norm_num), zpow_natCast, Nat.cast_mul, Nat.cast_pow,
      magnitude, mul_assoc]
    congr 1
    exact mul_div_cancel₀ _ (pow_ne_zero _ (by norm_num))
  rw [literal.value_eq, h]

variable (digits : Significand) (negative : Bool) {first : Int}

theorem value_below (h : first < 0) :
    (digits.below negative first).value = signed negative (digits.magnitude first) := by
  refine value_of_coefficient 0 ?_ ?_
  · show Nat.ofDigitChars 10 ('0' :: (_ ++ digits.chars)) 0 = _
    rw [ofDigitChars_cons, Nat.sub_self, Nat.mul_zero, Nat.zero_add, Nat.ofDigitChars_append,
      Nat.ofDigitChars_replicate_zero, Nat.mul_zero, Nat.pow_zero, Nat.mul_one]
    rfl
  · show (0 : Int) - ((List.replicate ((-first).toNat - 1) '0' ++ digits.chars).length : Int) = _
    rw [List.length_append, List.length_replicate, chars, List.length_cons]
    omega

theorem whole_above : (digits.above negative first).decimal.whole =
    digits.lead :: (digits.rest.take first.toNat ++
      List.replicate (first.toNat - (digits.rest.take first.toNat).length) '0') := rfl

theorem fraction_above : (digits.above negative first).decimal.fraction =
    if (digits.rest.drop first.toNat).isEmpty then ['0'] else digits.rest.drop first.toNat := rfl

theorem value_above (h : 0 ≤ first) :
    (digits.above negative first).value = signed negative (digits.magnitude first) := by
  rcases Nat.lt_or_ge first.toNat digits.rest.length with hlong | hshort
  · -- the point stands between the digits
    have hlength : (digits.rest.take first.toNat).length = first.toNat :=
      List.length_take_of_le hlong.le
    have hfraction : (digits.above negative first).decimal.fraction =
        digits.rest.drop first.toNat := by
      rw [fraction_above, if_neg]
      exact fun hempty => absurd (List.drop_eq_nil_iff.1 (List.isEmpty_iff.1 hempty)) (by omega)
    refine value_of_coefficient 0 ?_ ?_
    · rw [Plain.coefficient, whole_above, hfraction, hlength, Nat.sub_self, List.replicate_zero,
        List.append_nil, List.cons_append, List.take_append_drop, Nat.pow_zero, Nat.mul_one]
      rfl
    · rw [Literal.lastPower, hfraction, List.length_drop]
      show (0 : Int) - _ = _
      omega
  · -- zeros are put behind the digits
    have hfraction : (digits.above negative first).decimal.fraction = ['0'] := by
      rw [fraction_above, List.drop_eq_nil_iff.2 hshort]
      rfl
    refine value_of_coefficient (first.toNat - digits.rest.length + 1) ?_ ?_
    · rw [Plain.coefficient, whole_above, hfraction, List.take_of_length_le hshort,
        ← List.cons_append, List.append_assoc, ← List.replicate_succ', Nat.ofDigitChars_append,
        Nat.ofDigitChars_replicate_zero, Nat.mul_comm]
      rfl
    · rw [Literal.lastPower, hfraction]
      show (0 : Int) - 1 = _
      omega

theorem shift_scientific : (digits.scientific negative first).shift = first := by
  show (if first < 0 then Sign.minus else Sign.plus).apply
    (Nat.ofDigitChars 10 (Nat.toDigits 10 first.natAbs) 0) = first
  rw [Nat.ofDigitChars_ten_toDigits]
  by_cases h : first < 0
  · rw [if_pos h]
    show -(first.natAbs : Int) = first
    omega
  · rw [if_neg h]
    show (first.natAbs : Int) = first
    omega

theorem value_scientific :
    (digits.scientific negative first).value = signed negative (digits.magnitude first) := by
  refine value_of_coefficient 0 ?_ ?_
  · rw [Nat.pow_zero, Nat.mul_one]
    rfl
  · rw [Literal.lastPower, shift_scientific]
    exact (Int.sub_zero _).symm

theorem pow_le_magnitude (first : Int) : (10 : ℚ) ^ first ≤ digits.magnitude first := by
  have h : ((10 ^ digits.rest.length : Nat) : ℚ) ≤ digits.number :=
    Nat.cast_le.2 digits.pow_le_number
  calc (10 : ℚ) ^ first
      = (10 : ℚ) ^ digits.rest.length * 10 ^ (first - digits.rest.length) := by
        rw [← zpow_natCast, ← zpow_add₀ (by norm_num), add_sub_cancel]
    _ ≤ digits.magnitude first := by
        rw [magnitude]
        gcongr
        exact_mod_cast h

theorem magnitude_lt (first : Int) : digits.magnitude first < (10 : ℚ) ^ (first + 1) := by
  have h : (digits.number : ℚ) < ((10 ^ (digits.rest.length + 1) : Nat) : ℚ) :=
    Nat.cast_lt.2 digits.number_lt
  calc digits.magnitude first
      < (10 : ℚ) ^ (digits.rest.length + 1) * 10 ^ (first - digits.rest.length) := by
        rw [magnitude]
        gcongr
        exact_mod_cast h
    _ = (10 : ℚ) ^ (first + 1) := by
        rw [← zpow_natCast, ← zpow_add₀ (by norm_num)]
        congr 1
        push_cast
        ring

theorem magnitude_pos (first : Int) : 0 < digits.magnitude first :=
  lt_of_lt_of_le (zpow_pos (by norm_num) _) (digits.pow_le_magnitude first)

end Significand

namespace Layout

variable (layout : Layout) (digits : Significand) (negative : Bool) (first : Int)

theorem negative_literal : (layout.literal digits negative first).decimal.negative = negative := by
  rw [literal]
  split
  · split <;> rfl
  · rfl

/-- The value of what a layout writes. -/
theorem value_literal : (layout.literal digits negative first).value =
    signed negative (digits.magnitude first) := by
  rw [literal]
  split
  · split
    · exact digits.value_below negative ‹_›
    · exact digits.value_above negative (Int.not_lt.1 ‹_›)
  · exact digits.value_scientific negative

theorem exponent_literal_eq_none : (layout.literal digits negative first).exponent = none ↔
    layout.least ≤ first ∧ first < layout.bound := by
  rw [literal]
  split
  · split <;> exact iff_of_true rfl ‹_›
  · exact iff_of_false (Option.some_ne_none _) ‹_›

/-- **A layout writes the numbers between its two powers of ten positionally.** -/
theorem exponent_literal_eq_none_iff : (layout.literal digits negative first).exponent = none ↔
    10 ^ layout.least ≤ |(layout.literal digits negative first).value| ∧
      |(layout.literal digits negative first).value| < 10 ^ layout.bound := by
  have habs : |(layout.literal digits negative first).value| = digits.magnitude first := by
    rw [value_literal, abs_signed negative (digits.magnitude_pos first).le]
  have hten : (1 : ℚ) < 10 := by norm_num
  rw [exponent_literal_eq_none, habs]
  constructor
  · rintro ⟨hleast, hbound⟩
    exact ⟨le_trans ((zpow_le_zpow_iff_right₀ hten).2 hleast) (digits.pow_le_magnitude first),
      lt_of_lt_of_le (digits.magnitude_lt first) ((zpow_le_zpow_iff_right₀ hten).2 hbound)⟩
  · rintro ⟨hleast, hbound⟩
    exact ⟨Int.lt_add_one_iff.1
        ((zpow_lt_zpow_iff_right₀ hten).1 (lt_of_le_of_lt hleast (digits.magnitude_lt first))),
      (zpow_lt_zpow_iff_right₀ hten).1 (lt_of_le_of_lt (digits.pow_le_magnitude first) hbound)⟩

end Layout
end Decimal
end ClauseSql
