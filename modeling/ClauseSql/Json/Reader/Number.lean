import ClauseSql.Json.Reader.Basic

/-!
# Reading JSON numbers

Without fraction and exponent, a number that fits a 64-bit integer is an integer; every other one is
a double.  Digits that no longer fit a 64-bit significand only count towards the exponent.

## What is here

* `number` — reads a number from its first digit on.
* `readExponent`, `readFraction` and `wholeNumber` — its parts, each with the faults it can meet.
-/

set_option autoImplicit false

namespace ClauseSql
namespace Reader

/-! ## Digits -/

/-- An ASCII digit. -/
def isDigit (c : Char) : Bool := '0' ≤ c && c ≤ '9'

/-- The value of an ASCII digit. -/
def digitValue (c : Char) : Nat := c.toNat - '0'.toNat

/-- The greatest 64-bit integer. -/
def greatestWord : Nat := Nat.pow 2 64 - 1

/-- The greatest exponent that is read digit by digit. -/
def greatestExponentRead : Nat := Nat.pow 2 31 - 1

/-- Appends digits to a significand for as long as it stays a 64-bit integer, and counts them. -/
def absorbDigits (significand : Nat) : List Char → Nat × Nat
  | [] => (significand, 0)
  | digit :: rest =>
    let next := 10 * significand + digitValue digit
    if next ≤ greatestWord then
      let (final, count) := absorbDigits next rest
      (final, count + 1)
    else (significand, 0)

/-- The value of the digits of an exponent, or the digits left when it grew too large. -/
def exponentValue (value : Nat) : List Char → Except (List Char) Nat
  | [] => .ok value
  | digit :: rest =>
    let next := 10 * value + digitValue digit
    if next ≤ greatestExponentRead then exponentValue next rest else .error rest

/-! ## Parts of a number -/

/-- The double for a significand and exponent read, or the fault that it is too large. -/
def toDouble (negative : Bool) (significand : Nat) (exponent : Int) (rest : List Char) :
    Except ReadFault Number :=
  match Binary64.ofDecimal? negative significand exponent with
  | some value => .ok (.float value)
  | none => .error (faultBefore .numberTooLarge rest)

/-- The sign of an exponent: whether it is negative, and what comes after it. -/
def exponentSign : List Char → Bool × List Char
  | '-' :: rest => (true, rest)
  | '+' :: rest => (false, rest)
  | s => (false, s)

/-- Reads what follows the exponent mark of a number. -/
def readExponent (negative : Bool) (significand : Nat) (exponent : Int) (s : List Char) :
    Except ReadFault (Number × List Char) :=
  let (down, s) := exponentSign s
  let digits := s.takeWhile isDigit
  let rest := s.dropWhile isDigit
  match digits, rest with
  | [], [] => .error (faultAt .endInValue [])
  | [], _ :: _ => .error (faultAt .badNumber rest)
  | _ :: _, _ =>
    match exponentValue 0 digits with
    | .ok value =>
      let shifted := if down then exponent - value else exponent + value
      (toDouble negative significand shifted rest).map (·, rest)
    | .error left =>
      if significand ≠ 0 ∧ ¬ down then .error (faultBefore .numberTooLarge (left ++ rest))
      else .ok (.float (.zero negative), rest)

/-- Reads what follows the point of a number. -/
def readFraction (negative : Bool) (significand : Nat) (exponent : Int) (s : List Char) :
    Except ReadFault (Number × List Char) :=
  let digits := s.takeWhile isDigit
  let rest := s.dropWhile isDigit
  match digits, rest with
  | [], [] => .error (faultAt .endInValue [])
  | [], _ :: _ => .error (faultAt .badNumber rest)
  | _ :: _, _ =>
    let (significand, count) := absorbDigits significand digits
    let exponent := exponent - count
    match rest with
    | 'e' :: after | 'E' :: after => readExponent negative significand exponent after
    | _ => (toDouble negative significand exponent rest).map (·, rest)

/-- The number for digits without fraction and exponent.  Negative zero and what does not fit a
64-bit integer are doubles. -/
def wholeNumber (negative : Bool) (significand dropped : Nat) (rest : List Char) :
    Except ReadFault Number :=
  if dropped = 0 ∧ ¬ negative then .ok (.int significand)
  else if dropped = 0 ∧ significand ≠ 0 ∧ significand ≤ Nat.pow 2 63 then .ok (.int (-significand))
  else toDouble negative significand dropped rest

/-- Reads a number from its first digit on. -/
def readNumber (negative : Bool) (s : List Char) : Except ReadFault (Number × List Char) :=
  let digits := s.takeWhile isDigit
  let rest := s.dropWhile isDigit
  match digits, rest with
  | [], [] => .error (faultAt .endInValue [])
  | [], _ :: _ => .error (faultAt .badNumber rest)
  | '0' :: next :: more, _ => .error (faultAt .badNumber (next :: more ++ rest))
  | _, _ =>
    let (significand, count) := absorbDigits 0 digits
    let dropped := digits.length - count
    match rest with
    | '.' :: after => readFraction negative significand dropped after
    | 'e' :: after | 'E' :: after => readExponent negative significand dropped after
    | _ => (wholeNumber negative significand dropped rest).map (·, rest)

/-! ## A number takes at least a digit -/

theorem length_dropWhile_le {α : Type} (p : α → Bool) (s : List α) :
    (s.dropWhile p).length ≤ s.length :=
  (List.dropWhile_sublist p).length_le

theorem length_dropWhile_lt {α : Type} {p : α → Bool} {s : List α} {a : α} {t : List α}
    (h : s.takeWhile p = a :: t) : (s.dropWhile p).length < s.length := by
  have := congrArg List.length (List.takeWhile_append_dropWhile (p := p) (l := s))
  rw [List.length_append, h, List.length_cons] at this
  omega

theorem exponentSign_length_le (s : List Char) : (exponentSign s).2.length ≤ s.length := by
  unfold exponentSign
  split <;> simp

theorem eq_of_map_ok {α β ε : Type} {x : Except ε α} {rest final : β} {a : α}
    (h : x.map (·, rest) = .ok (a, final)) : rest = final := by
  cases x with
  | error e => simp [Except.map] at h
  | ok v => simpa [Except.map] using congrArg (Except.map Prod.snd) h

theorem readExponent_length_le {negative : Bool} {significand : Nat} {exponent : Int}
    {s rest : List Char} {value : Number}
    (h : readExponent negative significand exponent s = .ok (value, rest)) :
    rest.length ≤ s.length := by
  have key : rest = (exponentSign s).2.dropWhile isDigit := by
    unfold readExponent at h
    dsimp only at h
    split at h
    · simp at h
    · simp at h
    · split at h
      · exact (eq_of_map_ok h).symm
      · split at h <;> simp_all
  rw [key]
  exact Nat.le_trans (length_dropWhile_le _ _) (exponentSign_length_le s)

theorem readFraction_length_le {negative : Bool} {significand : Nat} {exponent : Int}
    {s rest : List Char} {value : Number}
    (h : readFraction negative significand exponent s = .ok (value, rest)) :
    rest.length ≤ s.length := by
  have hd := length_dropWhile_le isDigit s
  unfold readFraction at h
  dsimp only at h
  split at h
  · simp at h
  · simp at h
  · split at h
    · rename_i heq
      have := readExponent_length_le h
      rw [heq, List.length_cons] at hd
      omega
    · rename_i heq
      have := readExponent_length_le h
      rw [heq, List.length_cons] at hd
      omega
    · rw [← eq_of_map_ok h]
      exact hd

theorem readNumber_length_lt {negative : Bool} {s rest : List Char} {value : Number}
    (h : readNumber negative s = .ok (value, rest)) : rest.length < s.length := by
  unfold readNumber at h
  dsimp only at h
  split at h
  · simp at h
  · simp at h
  · simp at h
  · rename_i hne _
    have hlt : (s.dropWhile isDigit).length < s.length := by
      cases hs : s.takeWhile isDigit with
      | cons a t => exact length_dropWhile_lt hs
      | nil =>
        cases hr : s.dropWhile isDigit with
        | nil => exact absurd hr (by simp_all)
        | cons b u => simp_all
    split at h
    · rename_i heq
      have := readFraction_length_le h
      rw [heq, List.length_cons] at hlt
      omega
    · rename_i heq
      have := readExponent_length_le h
      rw [heq, List.length_cons] at hlt
      omega
    · rename_i heq
      have := readExponent_length_le h
      rw [heq, List.length_cons] at hlt
      omega
    · rw [← eq_of_map_ok h]
      exact hlt

/-- Reads a number from its first digit on. -/
def number (negative : Bool) : Reader Number := fun s =>
  match h : readNumber negative s with
  | .error fault => .error fault
  | .ok (value, rest) => .ok ⟨value, rest, readNumber_length_lt h⟩

end Reader
end ClauseSql
