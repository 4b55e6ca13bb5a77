import ClauseSql.Proofs.ReadValues
import Mathlib.Data.List.Forall2
import Mathlib.Data.List.TakeWhile
import Mathlib.Data.String.Basic
import Mathlib.Tactic.IntervalCases

/-!
# Texts of JSON strings

A string is written between quotes, one piece after the other: most characters stand for themselves,
and the others are escaped, some by a letter and any of them by the digits of its code units.

## What is here

* `IsHexDigit` and `IsCodeUnit` — hexadecimal digits and what four of them stand for.
* `Escapes` and `Spells` — the pieces that stand for a character, and `IsStringText`, the texts of a
  string.
* `Json.parse_eq_string_iff` — these are the texts that are read as the string.
* `utf8ByteSize_lt_of_isStringText` — such a text takes more bytes than the string.
-/

set_option autoImplicit false

namespace ClauseSql

/-! ## The grammar of strings -/

/-- A hexadecimal digit, whose letters may be small or capital, and its value. -/
def IsHexDigit (c : Char) (value : Nat) : Prop :=
  value < 16 ∧ (c = value.digitChar ∨ c = value.digitChar.toUpper)

instance (c : Char) (value : Nat) : Decidable (IsHexDigit c value) :=
  inferInstanceAs (Decidable (_ ∧ _))

/-- The four digits of a code unit. -/
def IsCodeUnit (digits : List Char) (unit : Nat) : Prop :=
  ∃ values : List Nat, values.length = 4 ∧ List.Forall₂ IsHexDigit digits values ∧
    values.foldl (fun unit value => 16 * unit + value) 0 = unit

/-- The letters that escape a character, each with that character. -/
def shortEscapes : List (Char × Char) :=
  [('"', '"'), ('\\', '\\'), ('/', '/'), ('b', '\x08'), ('f', '\x0c'), ('n', '\n'), ('r', '\r'),
    ('t', '\t')]

/-- The first code unit of a character beyond the basic plane. -/
def leadingUnit (c : Char) : Nat := 0xD800 + (c.toNat - 0x10000) / 0x400

/-- The second code unit of a character beyond the basic plane. -/
def trailingUnit (c : Char) : Nat := 0xDC00 + (c.toNat - 0x10000) % 0x400

/-- What stands for a character after a backslash.  A character beyond the basic plane has two code
units. -/
inductive Escapes : List Char → Char → Prop
  | short {letter c : Char} (h : (letter, c) ∈ shortEscapes) : Escapes [letter] c
  | unit {digits : List Char} {c : Char} (h : IsCodeUnit digits c.toNat) : Escapes ('u' :: digits) c
  | pair {leading trailing : List Char} {c : Char} (hc : 0x10000 ≤ c.toNat)
      (hleading : IsCodeUnit leading (leadingUnit c))
      (htrailing : IsCodeUnit trailing (trailingUnit c)) :
      Escapes ('u' :: (leading ++ '\\' :: 'u' :: trailing)) c

/-- What stands for a character in a string. -/
inductive Spells : List Char → Char → Prop
  | plain {c : Char} (hcontrol : 0x20 ≤ c.toNat) (hquote : c ≠ '"') (hbackslash : c ≠ '\\') :
    Spells [c] c
  | escaped {piece : List Char} {c : Char} (h : Escapes piece c) : Spells ('\\' :: piece) c

/-- A text of a string: the pieces that stand for its characters, between quotes, and white space on
either side. -/
def IsStringText (text value : String) : Prop :=
  ∃ before pieces after, text.toList = before ++ '"' :: (List.flatten pieces ++ '"' :: after) ∧
    (∀ c ∈ before, isBlank c = true) ∧ (∀ c ∈ after, isBlank c = true) ∧
    List.Forall₂ Spells pieces value.toList

/-! ## Bytes -/

section Bytes

variable {piece : List Char} {c : Char}

theorem length_le_utf8Len (chars : List Char) : chars.length ≤ String.utf8Len chars := by
  induction chars with
  | nil => exact Nat.le_refl 0
  | cons c rest ih => exact Nat.add_le_add ih c.utf8Size_pos

theorem IsCodeUnit.length_eq {digits : List Char} {unit : Nat} (h : IsCodeUnit digits unit) :
    digits.length = 4 := by
  obtain ⟨values, hlength, hdigits, -⟩ := h
  exact hdigits.length_eq.trans hlength

theorem Escapes.length_pos (h : Escapes piece c) : 0 < piece.length := by
  cases h with
  | short | unit | pair => exact Nat.succ_pos _

/-- A character takes four bytes at most, and what stands for it is as long, unless it is a letter that
escapes a character of one byte, or the character itself. -/
theorem utf8Size_le_of_spells (h : Spells piece c) : c.utf8Size ≤ String.utf8Len piece := by
  have hlong : 4 ≤ piece.length → c.utf8Size ≤ String.utf8Len piece := fun hpiece =>
    c.utf8Size_le_four.trans (hpiece.trans (length_le_utf8Len piece))
  cases h with
  | plain => exact (Nat.zero_add _).ge
  | escaped h =>
    cases h with
    | short h =>
      have hall : ∀ escape ∈ shortEscapes, escape.2.utf8Size = 1 := by decide
      rw [hall _ h]
      exact (length_le_utf8Len _).trans' (by decide : 1 ≤ 2)
    | unit h => exact hlong (by simp [h.length_eq])
    | pair _ h _ =>
      refine hlong ?_
      simp only [List.length_cons, List.length_append, h.length_eq]
      omega

theorem utf8Len_le_of_forall₂_spells {pieces : List (List Char)} {chars : List Char}
    (h : List.Forall₂ Spells pieces chars) : String.utf8Len chars ≤ String.utf8Len pieces.flatten := by
  induction h with
  | nil => exact Nat.le_refl 0
  | cons hpiece _ ih =>
    rw [List.flatten_cons, String.utf8Len_append, String.utf8Len_cons, Nat.add_comm]
    exact Nat.add_le_add (utf8Size_le_of_spells hpiece) ih

/-- **A text of a string takes more bytes than the string.** -/
theorem utf8ByteSize_lt_of_isStringText {text value : String} (h : IsStringText text value) :
    value.utf8ByteSize < text.utf8ByteSize := by
  obtain ⟨before, pieces, after, htext, -, -, hpieces⟩ := h
  have hle := utf8Len_le_of_forall₂_spells hpieces
  have hquote := ('"').utf8Size_pos
  rw [← String.utf8Len_toList, ← String.utf8Len_toList, htext]
  simp only [String.utf8Len_append, String.utf8Len_cons]
  omega

end Bytes

/-! ## Reading escapes -/

theorem IsCodeUnit.lt {digits : List Char} {unit : Nat} (h : IsCodeUnit digits unit) :
    unit < 0x10000 := by
  obtain ⟨values, hlength, hdigits, rfl⟩ := h
  match values with
  | [a, b, c, d] =>
    match hdigits with
    | .cons ha (.cons hb (.cons hc (.cons hd .nil))) =>
      have ha := ha.1
      have hb := hb.1
      have hc := hc.1
      have hd := hd.1
      simp only [List.foldl_cons, List.foldl_nil]
      omega

theorem toNat_ofNat {n : Nat} (h : n < 0xD800 ∨ 0xDFFF < n ∧ n < 0x110000) :
    (Char.ofNat n).toNat = n := by
  rw [Char.ofNat, dif_pos h]
  rfl

namespace Reader

theorem lt_of_hexValue?_eq_some {c : Char} {value : Nat} (h : hexValue? c = some value) :
    c.toNat < 128 := by
  have hle : c ≤ 'f' := by
    rw [hexValue?, isDigit] at h
    split at h
    · rename_i hdigit
      have hdigit : '0' ≤ c ∧ c ≤ '9' := by simpa using hdigit
      exact Char.le_trans hdigit.2 (by decide)
    · split at h
      · rename_i hsmall
        exact hsmall.2
      · split at h
        · rename_i hcapital
          exact Char.le_trans hcapital.2 (by decide)
        · cases h
  exact Nat.lt_of_le_of_lt hle (by decide)

theorem hexValue?_eq_some_iff {c : Char} {value : Nat} :
    hexValue? c = some value ↔ IsHexDigit c value := by
  constructor
  · intro h
    have hascii : ∀ n < 128, ∀ value ∈ hexValue? (Char.ofNat n), value < 16 ∧
        (Char.ofNat n = value.digitChar ∨ Char.ofNat n = value.digitChar.toUpper) := by
      decide
    have hvalue := hascii c.toNat (lt_of_hexValue?_eq_some h) value
    rw [Char.ofNat_toNat] at hvalue
    exact hvalue h
  · rintro ⟨hvalue, rfl | rfl⟩ <;> interval_cases value <;> rfl

theorem hexValue4?_eq_some_iff {a b c d : Char} {unit : Nat} :
    hexValue4? a b c d = some unit ↔ IsCodeUnit [a, b, c, d] unit := by
  simp only [hexValue4?, Option.bind_eq_bind, Option.bind_eq_some_iff, hexValue?_eq_some_iff]
  constructor
  · rintro ⟨va, ha, vb, hb, vc, hc, vd, hd, hunit⟩
    refine ⟨[va, vb, vc, vd], rfl, .cons ha (.cons hb (.cons hc (.cons hd .nil))), ?_⟩
    cases hunit
    simp only [List.foldl_cons, List.foldl_nil]
    omega
  · rintro ⟨values, -, hdigits, hunit⟩
    cases hdigits with
    | cons ha h => cases h with
    | cons hb h => cases h with
    | cons hc h => cases h with
    | cons hd h =>
      cases h
      refine ⟨_, ha, _, hb, _, hc, _, hd, ?_⟩
      rw [← hunit]
      simp only [List.foldl_cons, List.foldl_nil, pure, Option.some.injEq]
      omega

theorem hexEscape_eq_ok_iff {s : List Char} {step : Step Nat s} :
    hexEscape s = .ok step ↔ ∃ digits, s = digits ++ step.rest ∧ IsCodeUnit digits step.value := by
  constructor
  · intro h
    match s with
    | a :: b :: c :: d :: rest =>
      rw [hexEscape] at h
      split at h
      · rename_i unit hunit
        cases h
        exact ⟨[a, b, c, d], rfl, hexValue4?_eq_some_iff.1 hunit⟩
      · cases h
    | [] | [_] | [_, _] | [_, _, _] =>
      simp only [hexEscape] at h
      split at h <;> cases h
  · obtain ⟨unit, rest, hshorter⟩ := step
    rintro ⟨digits, hs, hunit⟩
    have hlength := hunit.length_eq
    match digits with
    | [a, b, c, d] =>
      obtain rfl : s = a :: b :: c :: d :: rest := hs
      have hvalue := hexValue4?_eq_some_iff.2 hunit
      simp only [hexEscape, hvalue]

theorem shortEscape?_eq_some_iff {letter c : Char} :
    shortEscape? letter = some c ↔ (letter, c) ∈ shortEscapes := by
  simp only [shortEscape?, shortEscapes, List.mem_cons, Prod.mk.injEq, List.not_mem_nil, or_false]
  grind

theorem trailingEscape_eq_ok_iff {leading : Nat} {s : List Char} {step : Step Char s} :
    trailingEscape leading s = .ok step ↔ ∃ digits unit,
      s = '\\' :: 'u' :: (digits ++ step.rest) ∧ IsCodeUnit digits unit ∧ isTrailing unit = true ∧
        step.value = Char.ofNat (0x10000 + 0x400 * (leading - 0xD800) + (unit - 0xDC00)) := by
  constructor
  · intro h
    rw [trailingEscape.eq_def] at h
    split at h
    · cases h
    · cases h
    · split at h
      · cases h
      · rename_i unit hunit
        obtain ⟨digits, hs, hdigits⟩ := hexEscape_eq_ok_iff.1 hunit
        split at h
        · rename_i htrailing
          have hstep := Except.ok.inj h
          refine ⟨digits, unit.value, ?_, hdigits, htrailing, ?_⟩
          · rw [← hstep]
            exact congrArg (fun rest => '\\' :: 'u' :: rest) hs
          · rw [← hstep]
        · cases h
    · cases h
    · cases h
  · obtain ⟨value, rest, hshorter⟩ := step
    rintro ⟨digits, unit, hs, hdigits, htrailing, hvalue⟩
    obtain rfl : s = '\\' :: 'u' :: (digits ++ rest) := hs
    dsimp only at hvalue
    have hpos : rest.length < (digits ++ rest).length := by
      rw [List.length_append, hdigits.length_eq]
      omega
    have hunit : hexEscape (digits ++ rest) = .ok ⟨unit, rest, hpos⟩ :=
      hexEscape_eq_ok_iff.2 ⟨digits, rfl, hdigits⟩
    rw [hvalue]
    simp only [trailingEscape, hunit, htrailing, if_true]

theorem isLeading_iff {unit : Nat} : isLeading unit = true ↔ 0xD800 ≤ unit ∧ unit ≤ 0xDBFF := by
  rw [isLeading, Bool.and_eq_true, decide_eq_true_iff, decide_eq_true_iff]

theorem isTrailing_iff {unit : Nat} : isTrailing unit = true ↔ 0xDC00 ≤ unit ∧ unit ≤ 0xDFFF := by
  rw [isTrailing, Bool.and_eq_true, decide_eq_true_iff, decide_eq_true_iff]

/-- The code units of a character are those that it is read from. -/
theorem ofNat_units {c : Char} (hc : 0x10000 ≤ c.toNat) : isLeading (leadingUnit c) = true ∧
    isTrailing (trailingUnit c) = true ∧
    Char.ofNat (0x10000 + 0x400 * (leadingUnit c - 0xD800) + (trailingUnit c - 0xDC00)) = c := by
  have hvalid : c.toNat < 0xD800 ∨ 0xDFFF < c.toNat ∧ c.toNat < 0x110000 := c.valid
  have hsum : 0x10000 + 0x400 * (leadingUnit c - 0xD800) + (trailingUnit c - 0xDC00) = c.toNat := by
    rw [leadingUnit, trailingUnit]
    omega
  refine ⟨isLeading_iff.2 ?_, isTrailing_iff.2 ?_, ?_⟩
  · rw [leadingUnit]
    omega
  · rw [trailingUnit]
    omega
  · rw [hsum, Char.ofNat_toNat]

/-- A pair of code units stands for the character that has them. -/
theorem escapes_pair {leading trailing : List Char} {first second : Nat}
    (hleading : IsCodeUnit leading first) (htrailing : IsCodeUnit trailing second)
    (hfirst : isLeading first = true) (hsecond : isTrailing second = true) :
    Escapes ('u' :: (leading ++ '\\' :: 'u' :: trailing))
      (Char.ofNat (0x10000 + 0x400 * (first - 0xD800) + (second - 0xDC00))) := by
  rw [isLeading_iff] at hfirst
  rw [isTrailing_iff] at hsecond
  have htoNat := toNat_ofNat (n := 0x10000 + 0x400 * (first - 0xD800) + (second - 0xDC00)) (by omega)
  generalize Char.ofNat (0x10000 + 0x400 * (first - 0xD800) + (second - 0xDC00)) = c at htoNat
  have hfirst : leadingUnit c = first := by
    rw [leadingUnit]
    omega
  have hsecond : trailingUnit c = second := by
    rw [trailingUnit]
    omega
  exact .pair (by omega) (hfirst ▸ hleading) (hsecond ▸ htrailing)

theorem escapes_of_unicodeEscape {s : List Char} {step : Step Char s}
    (h : unicodeEscape s = .ok step) :
    ∃ piece, s = piece ++ step.rest ∧ Escapes ('u' :: piece) step.value := by
  rw [unicodeEscape] at h
  split at h
  · cases h
  rename_i unit hunit
  obtain ⟨digits, hs, hdigits⟩ := hexEscape_eq_ok_iff.1 hunit
  split at h
  · cases h
  rename_i htrailing
  split at h
  · rename_i hleading
    split at h
    · cases h
    rename_i second hsecond
    rw [← Except.ok.inj h]
    obtain ⟨more, other, hrest, hmore, hother, hvalue⟩ := trailingEscape_eq_ok_iff.1 hsecond
    refine ⟨digits ++ '\\' :: 'u' :: more, ?_, ?_⟩
    · rw [List.append_assoc]
      exact hs.trans (congrArg (digits ++ ·) hrest)
    · change Escapes _ second.value
      rw [hvalue]
      exact escapes_pair hdigits hmore hleading hother
  · rename_i hleading
    have hlt := hdigits.lt
    rw [isTrailing_iff] at htrailing
    rw [isLeading_iff] at hleading
    have hvalid := toNat_ofNat (n := unit.value) (by omega)
    rw [← Except.ok.inj h]
    exact ⟨digits, hs, .unit (hvalid.symm ▸ hdigits)⟩

theorem escapes_of_escape {s : List Char} {step : Step Char s} (h : escape s = .ok step) :
    ∃ piece, s = piece ++ step.rest ∧ Escapes piece step.value := by
  rw [escape.eq_def] at h
  split at h
  · cases h
  rename_i letter rest
  split at h
  · rename_i c hshort
    rw [← Except.ok.inj h]
    exact ⟨[letter], rfl, .short (shortEscape?_eq_some_iff.1 hshort)⟩
  split at h
  · rename_i hletter
    split at h
    · cases h
    rename_i inner hinner
    obtain ⟨piece, hrest, hpiece⟩ := escapes_of_unicodeEscape hinner
    rw [← Except.ok.inj h]
    exact ⟨'u' :: piece, by rw [hletter]; exact congrArg ('u' :: ·) hrest, hpiece⟩
  · cases h

section Completeness

variable {leading trailing digits tail rest : List Char} {c : Char}

/-- The code unit of a character is no half of a pair. -/
theorem unicodeEscape_of_unit (h : IsCodeUnit digits c.toNat) :
    ∃ hshorter, unicodeEscape (digits ++ rest) = .ok ⟨c, rest, hshorter⟩ := by
  have hvalid : c.toNat < 0xD800 ∨ 0xDFFF < c.toNat ∧ c.toNat < 0x110000 := c.valid
  have hleading : ¬isLeading c.toNat = true := by
    rw [isLeading_iff]
    omega
  have htrailing : ¬isTrailing c.toNat = true := by
    rw [isTrailing_iff]
    omega
  have hshorter : rest.length < (digits ++ rest).length := by
    rw [List.length_append, h.length_eq]
    omega
  have hunit : hexEscape (digits ++ rest) = .ok ⟨c.toNat, rest, hshorter⟩ :=
    hexEscape_eq_ok_iff.2 ⟨digits, rfl, h⟩
  refine ⟨hshorter, ?_⟩
  simp only [unicodeEscape, hunit, if_neg hleading, if_neg htrailing, Char.ofNat_toNat]

theorem unicodeEscape_of_pair (hc : 0x10000 ≤ c.toNat) (hleading : IsCodeUnit leading (leadingUnit c))
    (htrailing : IsCodeUnit trailing (trailingUnit c)) : ∃ hshorter,
      unicodeEscape (leading ++ '\\' :: 'u' :: (trailing ++ rest)) = .ok ⟨c, rest, hshorter⟩ := by
  obtain ⟨hfirst, hsecond, hvalue⟩ := ofNat_units hc
  have hnot : ¬isTrailing (leadingUnit c) = true := by
    rw [isLeading_iff] at hfirst
    rw [isTrailing_iff]
    omega
  have hrest : rest.length < ('\\' :: 'u' :: (trailing ++ rest)).length := by
    simp only [List.length_cons, List.length_append]
    omega
  have hmiddle : ('\\' :: 'u' :: (trailing ++ rest)).length <
      (leading ++ '\\' :: 'u' :: (trailing ++ rest)).length := by
    rw [List.length_append, hleading.length_eq]
    omega
  have hhex : hexEscape _ = .ok ⟨leadingUnit c, _, hmiddle⟩ :=
    hexEscape_eq_ok_iff.2 ⟨leading, rfl, hleading⟩
  have htrail : trailingEscape (leadingUnit c) _ = .ok ⟨c, rest, hrest⟩ :=
    trailingEscape_eq_ok_iff.2 ⟨trailing, trailingUnit c, rfl, htrailing, hsecond, hvalue.symm⟩
  refine ⟨hrest.trans hmiddle, ?_⟩
  simp only [unicodeEscape, hhex, if_neg hnot, if_pos hfirst, htrail]
  rfl

theorem escape_of_unicodeEscape
    (h : ∃ hshorter, unicodeEscape tail = .ok ⟨c, rest, hshorter⟩)
    (hshorter : rest.length < ('u' :: tail).length) :
    escape ('u' :: tail) = .ok ⟨c, rest, hshorter⟩ := by
  obtain ⟨_, hunicode⟩ := h
  have hshort : shortEscape? 'u' = none := rfl
  simp only [escape, hshort, hunicode, if_true]
  rfl

end Completeness

/-- **An escape is read from what stands for its character.** -/
theorem escape_eq_ok_iff {s : List Char} {step : Step Char s} :
    escape s = .ok step ↔ ∃ piece, s = piece ++ step.rest ∧ Escapes piece step.value := by
  refine ⟨escapes_of_escape, fun ⟨piece, hs, h⟩ => ?_⟩
  obtain ⟨c, rest, hshorter⟩ := step
  dsimp only at hs h
  cases h with
  | short h =>
    subst hs
    have hshort := shortEscape?_eq_some_iff.2 h
    simp only [List.singleton_append, escape, hshort]
  | unit h =>
    subst hs
    exact escape_of_unicodeEscape (unicodeEscape_of_unit h) hshorter
  | pair hc hleading htrailing =>
    rw [List.cons_append, List.append_assoc] at hs
    subst hs
    exact escape_of_unicodeEscape (unicodeEscape_of_pair hc hleading htrailing) hshorter

/-! ## Reading strings -/

theorem spells_of_readString {before s rest : List Char} {value : String}
    (h : readString before s = .ok (value, rest)) : ∃ pieces chars,
      s = List.flatten pieces ++ '"' :: rest ∧ List.Forall₂ Spells pieces chars ∧
        value = String.ofList (before.reverse ++ chars) := by
  fun_induction readString before s with
  | case1 => cases h
  | case2 before tail =>
    cases h
    exact ⟨[], [], rfl, .nil, by rw [List.append_nil]⟩
  | case3 => cases h
  | case4 before tail step hescape _ ih =>
    obtain ⟨piece, htail, hpiece⟩ := escape_eq_ok_iff.1 hescape
    obtain ⟨pieces, chars, hrest, hpieces, rfl⟩ := ih h
    refine ⟨('\\' :: piece) :: pieces, step.value :: chars, ?_, .cons (.escaped hpiece) hpieces, ?_⟩
    · rw [List.flatten_cons, List.cons_append, List.cons_append, List.append_assoc, ← hrest]
      exact congrArg ('\\' :: ·) htail
    · simp
  | case5 => cases h
  | case6 before c tail hquote hbackslash hcontrol ih =>
    obtain ⟨pieces, chars, hrest, hpieces, rfl⟩ := ih h
    have hplain : Spells [c] c := .plain (Nat.not_lt.1 hcontrol) hquote hbackslash
    refine ⟨[c] :: pieces, c :: chars, ?_, .cons hplain hpieces, ?_⟩
    · rw [hrest]
      rfl
    · simp

theorem readString_of_spells {pieces : List (List Char)} {chars : List Char}
    (h : List.Forall₂ Spells pieces chars) (rest : List Char) : ∀ before : List Char,
    readString before (pieces.flatten ++ '"' :: rest) =
      .ok (String.ofList (before.reverse ++ chars), rest) := by
  induction h with
  | nil =>
    intro before
    rw [List.flatten_nil, List.nil_append, List.append_nil, readString, if_pos rfl]
  | @cons piece c pieces chars hpiece _ ih =>
    intro before
    rw [List.flatten_cons, List.append_assoc]
    generalize htail : pieces.flatten ++ '"' :: rest = tail at ih
    have hchars : (c :: before).reverse ++ chars = before.reverse ++ c :: chars := by
      rw [List.reverse_cons, List.append_assoc, List.singleton_append]
    cases hpiece with
    | plain hcontrol hquote hbackslash =>
      rw [List.singleton_append, readString, if_neg hquote, if_neg hbackslash,
        if_neg (Nat.not_lt.2 hcontrol), ih, hchars]
    | @escaped piece _ h =>
      have hlength : tail.length < (piece ++ tail).length := by
        rw [List.length_append]
        exact Nat.lt_add_of_pos_left h.length_pos
      have hescape : escape (piece ++ tail) = .ok ⟨c, tail, hlength⟩ :=
        escape_eq_ok_iff.2 ⟨piece, rfl, h⟩
      rw [List.cons_append, readString, if_neg (by decide), if_pos rfl, hescape]
      exact (ih _).trans (by rw [hchars])

/-! ## Reading texts -/

theorem exists_of_skipBlank {s rest : List Char} (h : skipBlank s = rest) :
    ∃ before, s = before ++ rest ∧ ∀ c ∈ before, isBlank c = true :=
  ⟨s.takeWhile isBlank, h ▸ List.takeWhile_append_dropWhile.symm, fun _ => List.mem_takeWhile_imp⟩

theorem skipBlank_append {before rest : List Char} {c : Char}
    (hbefore : ∀ b ∈ before, isBlank b = true) (hc : isBlank c = false) :
    skipBlank (before ++ c :: rest) = c :: rest := by
  rw [skipBlank, List.dropWhile_append_of_pos hbefore, List.dropWhile_cons, hc,
    if_neg Bool.false_ne_true]

theorem value_of_readString {levels : Nat} {s tail rest : List Char} {text : String}
    (hs : skipBlank s = '"' :: tail) (h : readString [] tail = .ok (text, rest)) :
    ∃ step : Step Json s, value levels s = .ok step ∧ step.value = .string text ∧
      step.rest = rest := by
  have hstring : ∃ step : Step String tail, string tail = .ok step ∧ step.value = text ∧
      step.rest = rest := by
    rw [string]
    split
    · rename_i hread
      cases hread.symm.trans h
    · rename_i hread
      cases hread.symm.trans h
      exact ⟨_, rfl, rfl, rfl⟩
  obtain ⟨inner, hinner, rfl, rfl⟩ := hstring
  unfold value
  split
  · rename_i hnil
    cases hnil.symm.trans hs
  · rename_i hcons
    cases hcons.symm.trans hs
    simp only [hinner]
    exact ⟨_, rfl, rfl, rfl⟩

end Reader

open Reader

/-- The text of a string starts with a quote. -/
theorem IsStringText.exists_skipBlank {text value : String} (h : IsStringText text value) :
    ∃ tail, skipBlank text.toList = '"' :: tail := by
  obtain ⟨before, pieces, after, htext, hbefore, -⟩ := h
  exact ⟨_, by rw [htext, skipBlank_append hbefore rfl]⟩

/-- **The texts of a string are those that it is read from.** -/
theorem Json.parse_eq_string_iff {text value : String} :
    Json.parse text = .ok (.string value) ↔ IsStringText text value := by
  rw [Json.parse_eq_ok_iff]
  constructor
  · rintro ⟨step, hstep, hvalue, hafter⟩
    have hfrom := readFrom_of_value hstep
    rw [hvalue] at hfrom
    cases hfrom with
    | string hs hread =>
      obtain ⟨before, htext, hbefore⟩ := exists_of_skipBlank hs
      obtain ⟨pieces, chars, htail, hpieces, rfl⟩ := spells_of_readString hread
      refine ⟨before, pieces, step.rest, ?_, hbefore, List.dropWhile_eq_nil_iff.1 hafter, ?_⟩
      · exact htext.trans (congrArg (fun tail => before ++ '"' :: tail) htail)
      · rwa [String.toList_ofList]
  · rintro ⟨before, pieces, after, htext, hbefore, hafter, hpieces⟩
    have hs : skipBlank text.toList = '"' :: (pieces.flatten ++ '"' :: after) := by
      rw [htext, skipBlank_append hbefore rfl]
    have hread := readString_of_spells hpieces after []
    rw [List.reverse_nil, List.nil_append, String.ofList_toList] at hread
    obtain ⟨step, hstep, hvalue, hrest⟩ := value_of_readString hs hread
    exact ⟨step, hstep, hvalue, hrest ▸ List.dropWhile_eq_nil_iff.2 hafter⟩

end ClauseSql
