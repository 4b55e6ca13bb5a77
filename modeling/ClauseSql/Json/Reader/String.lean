import ClauseSql.Json.Reader.Number

/-!
# Reading JSON strings

## What is here

* `escape` — reads the character of an escape.  Hexadecimal escapes stand for code units of UTF-16,
  so a character beyond the basic plane takes two of them.
* `string` — reads the rest of a string after its opening quote.
-/

set_option autoImplicit false

namespace ClauseSql
namespace Reader

/-! ## Escapes -/

/-- The value of a hexadecimal digit. -/
def hexValue? (c : Char) : Option Nat :=
  if isDigit c then some (digitValue c)
  else if 'a' ≤ c ∧ c ≤ 'f' then some (c.toNat - 'a'.toNat + 10)
  else if 'A' ≤ c ∧ c ≤ 'F' then some (c.toNat - 'A'.toNat + 10)
  else none

/-- The value of four hexadecimal digits. -/
def hexValue4? (a b c d : Char) : Option Nat := do
  let a ← hexValue? a
  let b ← hexValue? b
  let c ← hexValue? c
  let d ← hexValue? d
  return 0x1000 * a + 0x100 * b + 0x10 * c + d

/-- Reads the four bytes of a hexadecimal escape. -/
def hexEscape : Reader Nat
  | s@(a :: b :: c :: d :: rest) =>
    match hexValue4? a b c d with
    | some value => .ok ⟨value, rest, by simp +arith⟩
    | none => .error (.malformed .badEscape (byteCount s - 4))
  | s =>
    if byteCount s < 4 then .error (faultAt .endInString [])
    else .error (.malformed .badEscape (byteCount s - 4))

/-- The code units that begin a surrogate pair. -/
def isLeading (unit : Nat) : Bool := 0xD800 ≤ unit && unit ≤ 0xDBFF

/-- The code units that end a surrogate pair. -/
def isTrailing (unit : Nat) : Bool := 0xDC00 ≤ unit && unit ≤ 0xDFFF

/-- Reads the second half of a surrogate pair, escape mark included. -/
def trailingEscape (leading : Nat) : Reader Char
  | [] => .error (faultAt .endInString [])
  | ['\\'] => .error (faultAt .endInString [])
  | '\\' :: 'u' :: s =>
    match hexEscape s with
    | .error fault => .error fault
    | .ok step =>
      if isTrailing step.value then
        let unit := 0x10000 + 0x400 * (leading - 0xD800) + (step.value - 0xDC00)
        .ok ⟨Char.ofNat unit, step.rest, by have := step.shorter; simp only [List.length_cons]; omega⟩
      else .error (faultBefore .loneSurrogate step.rest)
  | '\\' :: s => .error (faultAt .truncatedSurrogate s)
  | s => .error (faultAt .truncatedSurrogate s)

/-- Reads the character of a hexadecimal escape, after its mark. -/
def unicodeEscape : Reader Char := fun s =>
  match hexEscape s with
  | .error fault => .error fault
  | .ok step =>
    if isTrailing step.value then .error (faultBefore .loneSurrogate step.rest)
    else if isLeading step.value then
      match trailingEscape step.value step.rest with
      | .error fault => .error fault
      | .ok final => .ok (final.after (Nat.le_of_lt step.shorter))
    else .ok ⟨Char.ofNat step.value, step.rest, step.shorter⟩

/-- The character of a one-letter escape. -/
def shortEscape? (c : Char) : Option Char :=
  if c = '"' then some '"'
  else if c = '\\' then some '\\'
  else if c = '/' then some '/'
  else if c = 'b' then some '\x08'
  else if c = 'f' then some '\x0c'
  else if c = 'n' then some '\n'
  else if c = 'r' then some '\r'
  else if c = 't' then some '\t'
  else none

/-- Reads the character of an escape, after the backslash. -/
def escape : Reader Char
  | [] => .error (faultAt .endInString [])
  | c :: rest =>
    match shortEscape? c with
    | some value => .ok ⟨value, rest, by simp⟩
    | none =>
      if c = 'u' then
        match unicodeEscape rest with
        | .error fault => .error fault
        | .ok step => .ok (step.after (by simp))
      else .error (faultAt .badEscape (c :: rest))

/-! ## Strings -/

/-- Reads a string from after its opening quote to after its closing one; `before` is what was read
of it so far, last character first. -/
def readString (before : List Char) (s : List Char) : Except ReadFault (String × List Char) :=
  match s with
  | [] => .error (faultAt .endInString [])
  | c :: rest =>
    if c = '"' then .ok (String.ofList before.reverse, rest)
    else if c = '\\' then
      match escape rest with
      | .error fault => .error fault
      | .ok step => readString (step.value :: before) step.rest
    else if c.toNat < 0x20 then .error (faultBefore .rawControl rest)
    else readString (c :: before) rest
termination_by s.length
decreasing_by
  · have := step.shorter
    simp only [List.length_cons]
    omega
  · simp

theorem readString_length_lt {before s rest : List Char} {value : String}
    (h : readString before s = .ok (value, rest)) : rest.length < s.length := by
  fun_induction readString before s with
  | case1 => simp at h
  | case2 => simp_all
  | case3 => simp at h
  | case4 before tail step _ _ ih =>
    have := ih h
    have := step.shorter
    simp only [List.length_cons]
    omega
  | case5 => simp at h
  | case6 before c tail _ _ _ ih =>
    have := ih h
    simp only [List.length_cons]
    omega

/-- Reads a string after its opening quote. -/
def string : Reader String := fun s =>
  match h : readString [] s with
  | .error fault => .error fault
  | .ok (value, rest) => .ok ⟨value, rest, readString_length_lt h⟩

end Reader
end ClauseSql
