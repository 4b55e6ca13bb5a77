import ClauseSql.Proofs.NumberText

/-!
# Reading numbers

A number literal without a point and without an exponent stands for an integer, and every other one
for the double that is nearest to what it says.  Every number is read from its text.

## What is here

* `Binary64.nearest?` — the double that is nearest to a decimal (`Binary64.nearest?_of_rounds`).
* `Decimal.Literal.number?` — the number that a literal stands for.
* `Number.ofText?` — the number that a text is, and `Number.ofText?_literal`: of the text of a literal
  it is the number of the literal.
* `Number.ofText?_text` — a number is read from its text.
-/

set_option autoImplicit false

namespace ClauseSql

/-! ## Where a run ends -/

/-- Characters of which the first one, if there is one, does not pass a test. -/
def Stops (test : Char → Bool) (chars : List Char) : Prop := ∀ c ∈ chars.head?, test c = false

theorem span_of_stops {test : Char → Bool} {run rest : List Char} (h : ∀ c ∈ run, test c = true)
    (hrest : Stops test rest) : (run ++ rest).span test = (run, rest) := by
  have hstops : rest.takeWhile test = [] ∧ rest.dropWhile test = rest := by
    cases rest with
    | nil => exact ⟨rfl, rfl⟩
    | cons c rest =>
      have hc := hrest c rfl
      rw [List.takeWhile_cons, List.dropWhile_cons, hc]
      exact ⟨rfl, rfl⟩
  rw [List.span_eq_takeWhile_dropWhile, List.takeWhile_append_of_pos h,
    List.dropWhile_append_of_pos h, hstops.1, hstops.2, List.append_nil]

/-! ## Nearest doubles -/

namespace Binary64

/-- The double that is nearest to a number with an exponent of ten. -/
def nearest? (negative : Bool) (significand : Nat) (exponent : Int) : Option Binary64 :=
  ofRatio? negative (significand * 10 ^ exponent.toNat) (10 ^ (-exponent).toNat) 0

theorem nearest?_of_rounds {x : Binary64} (hpos : 0 < x.significand)
    {significand : Nat} {exponent : Int} (hsignificand : 0 < significand)
    (h : x.Rounds (significand * 10 ^ exponent)) :
    nearest? x.negative significand exponent = some x := by
  have hratio : ((significand * 10 ^ exponent.toNat : Nat) : ℚ) / (10 ^ (-exponent).toNat : Nat) *
      2 ^ (0 : Int) = significand * 10 ^ exponent := by
    rw [Decimal.ten_zpow_eq, zpow_zero, mul_one]
    push_cast
    rw [mul_div_assoc]
  exact ofRatio?_of_rounds hpos (Nat.mul_pos hsignificand (Nat.pow_pos (by decide)))
    (Nat.pow_pos (by decide)) (hratio ▸ h)

theorem nearest?_zero (negative : Bool) (exponent : Int) :
    nearest? negative 0 exponent = some (zero negative) := by
  rw [nearest?, Nat.zero_mul]
  rfl

end Binary64

/-! ## Numbers of literals -/

namespace Decimal.Literal

/-- The number that a literal stands for. -/
def number? (literal : Literal) : Option Number :=
  let coefficient := literal.decimal.coefficient
  if literal.decimal.fraction.isEmpty && literal.exponent.isNone then
    some (.int (if literal.decimal.negative then -coefficient else coefficient))
  else (Binary64.nearest? literal.decimal.negative coefficient literal.lastPower).map .float

end Decimal.Literal

namespace Number

/-- The number of some digits, if there are any. -/
def natural? (digits : List Char) : Option Nat :=
  if !digits.isEmpty && digits.all Char.isDigit then some (Nat.ofDigitChars 10 digits 0) else none

/-- A sign and the characters after it. -/
def signed : List Char → Decimal.Sign × List Char
  | '-' :: rest => (.minus, rest)
  | '+' :: rest => (.plus, rest)
  | rest => (.absent, rest)

/-- The exponent that characters are; zero if there are none. -/
def exponent? : List Char → Option Int
  | [] => some 0
  | mark :: rest =>
    if mark = 'e' ∨ mark = 'E' then (natural? (signed rest).2).map (signed rest).1.apply else none

/-- The digits after a point, and the characters after these. -/
def fraction : List Char → List Char × List Char
  | '.' :: rest => rest.span Char.isDigit
  | rest => ([], rest)

/-- The number that characters without a sign are. -/
def unsigned? (negative : Bool) (chars : List Char) : Option Number :=
  let (whole, rest) := chars.span Char.isDigit
  let (digits, rest) := fraction rest
  let coefficient := Nat.ofDigitChars 10 (whole ++ digits) 0
  if whole.isEmpty then none
  else if digits.isEmpty && rest.isEmpty then
    some (.int (if negative then -coefficient else coefficient))
  else
    (exponent? rest).bind fun exponent =>
      (Binary64.nearest? negative coefficient (exponent - digits.length)).map .float

/-- The number that a text is. -/
def ofText? (text : String) : Option Number :=
  match text.toList with
  | '-' :: chars => unsigned? true chars
  | chars => unsigned? false chars

/-! ## Reading literals -/

theorem natural?_of_isDigit {digits : List Char} (hne : digits ≠ [])
    (h : ∀ c ∈ digits, c.isDigit = true) : natural? digits = some (Nat.ofDigitChars 10 digits 0) := by
  rw [natural?, List.all_eq_true.2 h, List.isEmpty_eq_false_iff.2 hne]
  rfl

theorem signed_append (sign : Decimal.Sign) {digits : List Char}
    (h : ∀ c ∈ digits, c.isDigit = true) : signed (sign.chars ++ digits) = (sign, digits) := by
  cases sign with
  | plus | minus => rfl
  | absent =>
    cases digits with
    | nil => rfl
    | cons c rest =>
      have hc := h c List.mem_cons_self
      show signed (c :: rest) = _
      rw [signed.eq_def]
      split
      · rename_i heq
        cases heq
        exact absurd hc (by decide)
      · rename_i heq
        cases heq
        exact absurd hc (by decide)
      · rfl

theorem exponent?_chars (exponent : Decimal.Exponent) :
    exponent? exponent.chars = some exponent.value := by
  have hmark : exponent.mark = 'e' ∨ exponent.mark = 'E' := by
    rw [Decimal.Exponent.mark]
    split
    · exact .inr rfl
    · exact .inl rfl
  rw [Decimal.Exponent.chars, exponent?, if_pos hmark,
    signed_append exponent.sign exponent.isDigit_digits,
    natural?_of_isDigit exponent.digits_ne_nil exponent.isDigit_digits]
  rfl

theorem exponent?_exponentChars (literal : Decimal.Literal) :
    exponent? literal.exponentChars = some literal.shift := by
  rw [Decimal.Literal.exponentChars, Decimal.Literal.shift]
  cases literal.exponent with
  | none => rfl
  | some exponent => exact exponent?_chars exponent

/-- An exponent starts with its mark. -/
theorem head?_exponentChars (literal : Decimal.Literal) :
    ∀ c ∈ literal.exponentChars.head?, c = 'e' ∨ c = 'E' := by
  rw [Decimal.Literal.exponentChars]
  intro c hc
  cases hexponent : literal.exponent with
  | none =>
    rw [hexponent] at hc
    cases hc
  | some exponent =>
    rw [hexponent] at hc
    cases hc
    rw [Decimal.Exponent.mark]
    split
    · exact .inr rfl
    · exact .inl rfl

theorem stops_exponentChars (literal : Decimal.Literal) :
    Stops Char.isDigit literal.exponentChars := by
  intro c hc
  rcases head?_exponentChars literal c hc with rfl | rfl <;> rfl

theorem fraction_chars (literal : Decimal.Literal) :
    fraction (literal.decimal.fractionChars ++ literal.exponentChars) =
      (literal.decimal.fraction, literal.exponentChars) := by
  rw [Decimal.Plain.fractionChars]
  split
  · rename_i hempty
    rw [List.isEmpty_iff.1 hempty, List.nil_append, fraction.eq_def]
    split
    · rename_i rest heq
      have hpoint := head?_exponentChars literal '.' (by rw [heq]; rfl)
      exact absurd hpoint (by decide)
    · rfl
  · exact span_of_stops literal.decimal.isDigit_fraction (stops_exponentChars literal)

/-- What comes after the digits before the point. -/
theorem stops_chars (literal : Decimal.Literal) :
    Stops Char.isDigit (literal.decimal.fractionChars ++ literal.exponentChars) := by
  rw [Decimal.Plain.fractionChars]
  split
  · exact stops_exponentChars literal
  · rintro c ⟨⟩
    rfl

theorem unsigned?_chars (literal : Decimal.Literal) :
    unsigned? literal.decimal.negative (literal.decimal.whole ++
      (literal.decimal.fractionChars ++ literal.exponentChars)) = literal.number? := by
  have hspan := span_of_stops literal.decimal.isDigit_whole (stops_chars literal)
  have hwhole := List.isEmpty_eq_false_iff.2 literal.decimal.whole_ne_nil
  have hnone : literal.exponentChars.isEmpty = literal.exponent.isNone := by
    rw [Decimal.Literal.exponentChars]
    cases literal.exponent <;> rfl
  simp only [unsigned?, hspan, fraction_chars, hwhole, hnone, exponent?_exponentChars]
  rw [if_neg Bool.false_ne_true, Decimal.Literal.number?, Decimal.Literal.lastPower,
    Decimal.Plain.coefficient]
  rfl

/-- **Of the text of a literal the number is that of the literal.** -/
theorem ofText?_literal (literal : Decimal.Literal) : ofText? literal.text = literal.number? := by
  have hunsigned := unsigned?_chars literal
  rw [ofText?, Decimal.Literal.toList_text, Decimal.Plain.toList_text, List.append_assoc,
    List.append_assoc]
  cases hnegative : literal.decimal.negative with
  | true =>
    rw [hnegative] at hunsigned
    exact hunsigned
  | false =>
    rw [hnegative] at hunsigned
    obtain ⟨c, rest, hcons⟩ := List.exists_cons_of_ne_nil literal.decimal.whole_ne_nil
    have hc : c ≠ '-' := by
      rintro rfl
      exact absurd (literal.decimal.isDigit_whole '-' (hcons ▸ List.mem_cons_self)) (by decide)
    rw [hcons] at hunsigned ⊢
    split
    · rename_i chars hminus
      exact absurd (List.cons.inj hminus).1 hc
    · exact hunsigned

/-! ## Reading texts of numbers -/

theorem number?_literal_int (value : Int) : (int value).literal.number? = some (int value) := by
  have hfraction : (int value).literal.decimal.fraction = [] :=
    Decimal.Plain.fraction_ofScaled_zero _ _
  have hcoefficient : (int value).literal.decimal.coefficient = value.natAbs :=
    Decimal.Plain.coefficient_ofScaled _ _ _
  have hsign : (if decide (value < 0) = true then -(value.natAbs : Int) else value.natAbs) = value := by
    simp only [decide_eq_true_eq]
    split <;> omega
  rw [Decimal.Literal.number?, hfraction, hcoefficient]
  exact congrArg (fun value => some (int value)) hsign

/-- A double is written with a point or with an exponent. -/
theorem fraction_ne_nil_of_float {value : Binary64} (h : (float value).literal.exponent = none) :
    (float value).literal.decimal.fraction ≠ [] := by
  cases hdigits : value.significand? with
  | none =>
    rw [literal_of_none hdigits]
    exact List.cons_ne_nil _ _
  | some digits =>
    rw [literal_of_some hdigits] at h ⊢
    obtain hpositional := (Decimal.Layout.exponent_literal_eq_none _ _ _ _).1 h
    rw [Decimal.Layout.literal, if_pos hpositional]
    split
    · exact List.append_ne_nil_of_right_ne_nil _ (List.cons_ne_nil _ _)
    · exact digits.fraction_above_ne_nil value.negative value.firstPower

theorem number?_literal_float (value : Binary64) : (float value).literal.number? =
    (Binary64.nearest? (float value).literal.decimal.negative
      (float value).literal.decimal.coefficient (float value).literal.lastPower).map .float := by
  rw [Decimal.Literal.number?, if_neg]
  rw [Bool.and_eq_true, List.isEmpty_iff, Option.isNone_iff_eq_none]
  exact fun ⟨hfraction, hexponent⟩ => fraction_ne_nil_of_float hexponent hfraction

/-- A double that is not zero has digits. -/
theorem exists_significand? {value : Binary64} (hzero : value.isZero = false) :
    ∃ digits, value.significand? = some digits := by
  cases hdigits : value.significand? with
  | some digits => exact ⟨digits, rfl⟩
  | none =>
    rcases Binary64.significand?_eq_none hdigits with htrue | ⟨-, hshortest⟩
    · cases hzero.symm.trans htrue
    · have hrounds := Binary64.rounds_shortest (Binary64.significand_pos hzero)
      have hlower : (0 : ℚ) < value.lowerEnd := Nat.cast_pos.2 (Binary64.lowerEnd_pos hzero)
      have hle := hrounds.lowerEnd_le
      rw [hshortest, Nat.cast_zero, zero_mul] at hle
      exact absurd hle (not_le.2 (mul_pos hlower (zpow_pos two_pos _)))

theorem nearest?_literal (value : Binary64) :
    Binary64.nearest? (float value).literal.decimal.negative
      (float value).literal.decimal.coefficient (float value).literal.lastPower = some value := by
  cases hzero : value.isZero with
  | true =>
    have hnone : value.significand? = none := dif_neg fun h => by
      rw [hzero] at h
      cases h.1
    rw [literal_of_none hnone]
    exact (Binary64.nearest?_zero value.negative _).trans (congrArg some (Binary64.eq_zero hzero).symm)
  | false =>
    obtain ⟨digits, hdigits⟩ := exists_significand? hzero
    have hnegative : (float value).literal.decimal.negative = value.negative := by
      rw [literal_of_some hdigits, Decimal.Layout.negative_literal]
    have hvalue : ((float value).literal.decimal.coefficient : ℚ) *
        10 ^ (float value).literal.lastPower = value.shortest.1 * 10 ^ value.shortest.2 := by
      have hsigned := (float value).literal.value_eq
      rw [literal_of_some hdigits, Decimal.Layout.value_literal, Decimal.Layout.negative_literal] at hsigned
      rw [← Binary64.magnitude_significand hdigits, literal_of_some hdigits]
      exact (Decimal.signed_inj hsigned).symm
    have hcoefficient : 0 < (float value).literal.decimal.coefficient := by
      obtain ⟨-, hpos, -⟩ := Binary64.significand?_eq_some hdigits
      have hproduct : (0 : ℚ) < value.shortest.1 * 10 ^ value.shortest.2 :=
        mul_pos (Nat.cast_pos.2 hpos) (zpow_pos (by norm_num) _)
      rw [← hvalue] at hproduct
      exact_mod_cast pos_of_mul_pos_left hproduct (zpow_nonneg (by norm_num) _)
    have hpos := Binary64.significand_pos hzero
    rw [hnegative]
    exact Binary64.nearest?_of_rounds hpos hcoefficient (hvalue ▸ Binary64.rounds_shortest hpos)

theorem number?_literal (value : Number) : value.literal.number? = some value := by
  cases value with
  | int value => exact number?_literal_int value
  | float value => rw [number?_literal_float, nearest?_literal, Option.map_some]

/-- **A number is read from its text.** -/
theorem ofText?_text (value : Number) : ofText? value.text = some value := by
  rw [← text_literal, ofText?_literal, number?_literal]

end Number
end ClauseSql
