import ClauseSql.Proofs.PlainDecimal
import Mathlib.Algebra.Field.Rat
import Mathlib.Algebra.Order.Ring.Rat

/-!
# Digits

The digits of a number determine it, and the number determines the digits, once it is known how many
there are.

## What is here

* `Decimal.ofDigitChars_lt` and `Decimal.pow_le_ofDigitChars` — how great a number with some digits is.
* `Decimal.ofDigitChars_inj` — as many digits of the same number are the same digits.
* `Decimal.signed` — a magnitude with a sign.
* `Decimal.Plain.ofScaled_coefficient` — a plain decimal without zeros before its digits is the one
  that is written for its coefficient and scale.
* `Decimal.Plain.value_ofScaled` — the value of what is written.
-/

set_option autoImplicit false

namespace ClauseSql
namespace Decimal

/-! ## Numbers of digits -/

theorem toNat_of_isDigit {c : Char} (h : c.isDigit = true) :
    '0'.toNat ≤ c.toNat ∧ c.toNat < '0'.toNat + 10 := by
  have hbounds : 48 ≤ c.toNat ∧ c.toNat ≤ 57 := by
    simpa [Char.isDigit, UInt32.le_iff_toNat_le] using h
  exact ⟨hbounds.1, Nat.lt_succ_of_le hbounds.2⟩

theorem digit_lt_ten {c : Char} (h : c.isDigit = true) : c.toNat - '0'.toNat < 10 := by
  have hbounds := toNat_of_isDigit h
  omega

theorem digit_pos {c : Char} (h : c.isDigit = true) (hne : c ≠ '0') : 0 < c.toNat - '0'.toNat := by
  have hbounds := toNat_of_isDigit h
  have hne' : c.toNat ≠ '0'.toNat := fun heq => hne (Char.toNat_inj.1 heq)
  omega

theorem digit_inj {c d : Char} (hc : c.isDigit = true) (hd : d.isDigit = true)
    (h : c.toNat - '0'.toNat = d.toNat - '0'.toNat) : c = d := by
  have hc := toNat_of_isDigit hc
  have hd := toNat_of_isDigit hd
  exact Char.toNat_inj.1 (by omega)

theorem ofDigitChars_cons (c : Char) (rest : List Char) : Nat.ofDigitChars 10 (c :: rest) 0 =
    10 ^ rest.length * (c.toNat - '0'.toNat) + Nat.ofDigitChars 10 rest 0 := by
  rw [Nat.ofDigitChars_cons, Nat.ofDigitChars_eq_ofDigitChars_zero, Nat.mul_zero, Nat.zero_add]

theorem ofDigitChars_lt {digits : List Char} (h : ∀ c ∈ digits, c.isDigit = true) :
    Nat.ofDigitChars 10 digits 0 < 10 ^ digits.length := by
  induction digits with
  | nil => exact Nat.one_pos
  | cons c rest ih =>
    obtain ⟨hc, hrest⟩ := List.forall_mem_cons.1 h
    calc Nat.ofDigitChars 10 (c :: rest) 0
        = 10 ^ rest.length * (c.toNat - '0'.toNat) + Nat.ofDigitChars 10 rest 0 :=
          ofDigitChars_cons c rest
      _ < 10 ^ rest.length * (c.toNat - '0'.toNat) + 10 ^ rest.length :=
          Nat.add_lt_add_left (ih hrest) _
      _ = 10 ^ rest.length * (c.toNat - '0'.toNat + 1) := (Nat.mul_succ _ _).symm
      _ ≤ 10 ^ rest.length * 10 := Nat.mul_le_mul_left _ (digit_lt_ten hc)
      _ = 10 ^ (c :: rest).length := (Nat.pow_succ ..).symm

theorem pow_le_ofDigitChars {c : Char} (rest : List Char) (hc : c.isDigit = true) (hne : c ≠ '0') :
    10 ^ rest.length ≤ Nat.ofDigitChars 10 (c :: rest) 0 := by
  rw [ofDigitChars_cons]
  exact Nat.le_add_right_of_le (Nat.le_mul_of_pos_right _ (digit_pos hc hne))

/-- As many digits of the same number are the same. -/
theorem ofDigitChars_inj : ∀ {first second : List Char}, (∀ c ∈ first, c.isDigit = true) →
    (∀ c ∈ second, c.isDigit = true) → first.length = second.length →
    Nat.ofDigitChars 10 first 0 = Nat.ofDigitChars 10 second 0 → first = second
  | [], [], _, _, _, _ => rfl
  | c :: rest, d :: other, hfirst, hsecond, hlength, h => by
    obtain ⟨hc, hrest⟩ := List.forall_mem_cons.1 hfirst
    obtain ⟨hd, hother⟩ := List.forall_mem_cons.1 hsecond
    have hlength : rest.length = other.length := Nat.succ.inj hlength
    rw [ofDigitChars_cons, ofDigitChars_cons, ← hlength] at h
    -- the leading digits are the quotients by a power of ten, and the others the remainders
    have hlt := ofDigitChars_lt hrest
    have hlt' := ofDigitChars_lt hother
    rw [← hlength] at hlt'
    have hdiv := congrArg (· / 10 ^ rest.length) h
    have hmod := congrArg (· % 10 ^ rest.length) h
    simp only [Nat.mul_add_div (Nat.pow_pos (by decide : 0 < 10)), Nat.div_eq_of_lt hlt,
      Nat.div_eq_of_lt hlt', Nat.add_zero] at hdiv
    simp only [Nat.mul_add_mod, Nat.mod_eq_of_lt hlt, Nat.mod_eq_of_lt hlt'] at hmod
    rw [digit_inj hc hd hdiv, ofDigitChars_inj hrest hother hlength hmod]

/-- No zero stands before the digits of a positive number. -/
theorem head?_toDigits_ne {n : Nat} (h : 0 < n) : (Nat.toDigits 10 n).head? ≠ some '0' := by
  intro hhead
  obtain ⟨rest, hrest⟩ := List.head?_eq_some_iff.1 hhead
  have hdigits : ∀ c ∈ rest, c.isDigit = true := fun c hc =>
    Nat.isDigit_of_mem_toDigits (by decide) (by decide) (hrest ▸ List.mem_cons_of_mem '0' hc)
  have hvalue : Nat.ofDigitChars 10 ('0' :: rest) 0 = n := hrest ▸ Nat.ofDigitChars_ten_toDigits
  rw [ofDigitChars_cons, Nat.sub_self, Nat.mul_zero, Nat.zero_add] at hvalue
  have hlt := ofDigitChars_lt hdigits
  rw [hvalue] at hlt
  cases rest with
  | nil => exact absurd hlt (Nat.not_lt.2 h)
  | cons c rest =>
    have hlength := (Nat.length_toDigits_le_iff (by decide) (Nat.succ_pos _)).2 hlt
    rw [hrest] at hlength
    exact absurd hlength (Nat.not_succ_le_self _)

/-! ## Signs -/

/-- A magnitude with a sign. -/
def signed (negative : Bool) (magnitude : ℚ) : ℚ := if negative then -magnitude else magnitude

theorem signed_mul (negative : Bool) (a b : ℚ) : signed negative a * b = signed negative (a * b) := by
  cases negative
  · rfl
  · exact neg_mul a b

theorem abs_signed (negative : Bool) {magnitude : ℚ} (h : 0 ≤ magnitude) :
    |signed negative magnitude| = magnitude := by
  cases negative
  · exact abs_of_nonneg h
  · exact (abs_neg magnitude).trans (abs_of_nonneg h)

theorem signed_inj {negative : Bool} {a b : ℚ} (h : signed negative a = signed negative b) : a = b := by
  cases negative
  · exact h
  · exact neg_inj.1 h

theorem signed_eq_zero_iff {negative : Bool} {magnitude : ℚ} :
    signed negative magnitude = 0 ↔ magnitude = 0 := by
  cases negative
  · exact Iff.rfl
  · exact neg_eq_zero

namespace Plain

/-! ## Scaled coefficients -/

/-- The number of all digits of a decimal. -/
def coefficient (decimal : Plain) : Nat := Nat.ofDigitChars 10 (decimal.whole ++ decimal.fraction) 0

/-- No zero stands before the digits of a decimal, except the one that is the whole part. -/
def HasNoLead (decimal : Plain) : Prop :=
  decimal.whole = ['0'] ∨ decimal.whole.head? ≠ some '0'

theorem isDigit_of_mem (decimal : Plain) :
    ∀ c ∈ decimal.whole ++ decimal.fraction, c.isDigit = true :=
  List.forall_mem_append.2 ⟨decimal.isDigit_whole, decimal.isDigit_fraction⟩

theorem ofDigitChars_scaledDigits (n scale : Nat) :
    Nat.ofDigitChars 10 (scaledDigits n scale) 0 = n := by
  rw [scaledDigits, Nat.ofDigitChars_append, Nat.ofDigitChars_replicate_zero, Nat.mul_zero,
    Nat.ofDigitChars_ten_toDigits]

/-- A decimal without zeros before its digits has as many as are written. -/
theorem HasNoLead.length_scaledDigits {decimal : Plain} (h : decimal.HasNoLead) :
    (scaledDigits decimal.coefficient decimal.fraction.length).length =
      (decimal.whole ++ decimal.fraction).length := by
  have hlt := ofDigitChars_lt decimal.isDigit_of_mem
  have hle := (Nat.length_toDigits_le_iff (b := 10) (by decide) (k := (decimal.whole ++
    decimal.fraction).length) (by
      rw [List.length_append]
      exact Nat.add_pos_left (List.length_pos_iff.2 decimal.whole_ne_nil) _)).2 hlt
  rw [scaledDigits, List.length_append, List.length_replicate, coefficient]
  rcases h with hzero | hhead
  · have hone : decimal.whole.length = 1 := by
      rw [hzero]
      rfl
    rw [List.length_append, hone] at hle ⊢
    omega
  · obtain ⟨c, rest, hcons⟩ := List.exists_cons_of_ne_nil decimal.whole_ne_nil
    rw [hcons, List.head?_cons, Ne, Option.some.injEq] at hhead
    have hc : c.isDigit = true := decimal.isDigit_whole c (hcons ▸ List.mem_cons_self)
    have hpow := pow_le_ofDigitChars (rest ++ decimal.fraction) hc hhead
    have hcount : (rest ++ decimal.fraction).length <
        (Nat.toDigits 10 (Nat.ofDigitChars 10 (c :: (rest ++ decimal.fraction)) 0)).length := by
      rcases Nat.eq_zero_or_pos (rest ++ decimal.fraction).length with hnone | hsome
      · rw [hnone]
        exact Nat.length_toDigits_pos
      · exact Nat.lt_of_not_le fun hlength =>
          absurd ((Nat.length_toDigits_le_iff (by decide) hsome).1 hlength) (Nat.not_lt.2 hpow)
    rw [hcons, List.cons_append] at hle ⊢
    rw [List.length_cons, List.length_append] at *
    omega

/-- A decimal without zeros before its digits is written for its coefficient and scale. -/
theorem ofScaled_coefficient {decimal : Plain} (h : decimal.HasNoLead) :
    ofScaled decimal.negative decimal.coefficient decimal.fraction.length = decimal := by
  have hdigits : scaledDigits decimal.coefficient decimal.fraction.length =
      decimal.whole ++ decimal.fraction :=
    ofDigitChars_inj (fun _ => isDigit_of_mem_scaledDigits) decimal.isDigit_of_mem
      h.length_scaledDigits (ofDigitChars_scaledDigits _ _)
  have hlength : (decimal.whole ++ decimal.fraction).length - decimal.fraction.length =
      decimal.whole.length := by
    rw [List.length_append, Nat.add_sub_cancel]
  obtain ⟨negative, whole, fraction, _, _, _⟩ := decimal
  simp only [ofScaled, hdigits, hlength, List.take_left', List.drop_left']

theorem coefficient_ofScaled (negative : Bool) (n scale : Nat) :
    (ofScaled negative n scale).coefficient = n := by
  have hdigits : (ofScaled negative n scale).whole ++ (ofScaled negative n scale).fraction =
      scaledDigits n scale := List.take_append_drop _ _
  rw [coefficient, hdigits, ofDigitChars_scaledDigits]

theorem value_ofScaled (negative : Bool) (n scale : Nat) :
    (ofScaled negative n scale).value = signed negative ((n : ℚ) / 10 ^ scale) := by
  have hlt := lt_length_scaledDigits n scale
  have hfraction : (ofScaled negative n scale).fraction.length = scale := by
    rw [ofScaled, List.length_drop]
    omega
  rw [value, number, hfraction, ← coefficient, coefficient_ofScaled]
  rfl

end Plain
end Decimal
end ClauseSql
