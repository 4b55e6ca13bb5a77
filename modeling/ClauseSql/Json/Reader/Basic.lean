import ClauseSql.Json.Fault

/-!
# Readers of JSON text

A reader takes a list of characters and answers a value with the characters after it, or the fault
it met.

## What is here

* `Step` and `Reader` — a reader's answer carries the proof that it consumed something, which is
  what makes every loop over a text end.
* `faultBefore` and `faultAt` — the place of a fault, as the number of bytes after it.
* `skipBlank` and `readLetters` — white space and keywords.
-/

set_option autoImplicit false

namespace ClauseSql

/-! ## Readers -/

/-- A value read from `s`, and what comes after it. -/
structure Step (α : Type) (s : List Char) where
  value : α
  rest : List Char
  shorter : rest.length < s.length

/-- Reads a value of a type from the start of a text. -/
abbrev Reader (α : Type) := (s : List Char) → Except ReadFault (Step α s)

namespace Step

/-- A step from a later place is a step from an earlier one. -/
def after {α : Type} {s t : List Char} (step : Step α t) (h : t.length ≤ s.length) : Step α s :=
  ⟨step.value, step.rest, Nat.lt_of_lt_of_le step.shorter h⟩

/-- Changes the value. -/
def map {α β : Type} {s : List Char} (f : α → β) (step : Step α s) : Step β s :=
  ⟨f step.value, step.rest, step.shorter⟩

end Step

/-- The same reader with its value changed. -/
def Reader.map {α β : Type} (f : α → β) (reader : Reader α) : Reader β := fun s =>
  match reader s with
  | .error fault => .error fault
  | .ok step => .ok (step.map f)

/-! ## Where a fault lies -/

/-- The fault that lies right before `rest`. -/
def faultBefore (cause : Malformed) (rest : List Char) : ReadFault :=
  .malformed cause (byteCount rest)

/-- The fault that lies at the first byte of `rest`, or at the end of the text. -/
def faultAt (cause : Malformed) (rest : List Char) : ReadFault :=
  .malformed cause (byteCount rest - 1)

/-! ## White space and keywords -/

/-- The white space of JSON. -/
def isBlank (c : Char) : Bool := c == ' ' || c == '\n' || c == '\t' || c == '\r'

/-- The text from its first character that is no white space. -/
def skipBlank (s : List Char) : List Char := s.dropWhile isBlank

theorem length_skipBlank_le (s : List Char) : (skipBlank s).length ≤ s.length :=
  (List.dropWhile_sublist isBlank).length_le

theorem length_le_of_skipBlank {s t : List Char} (h : skipBlank s = t) : t.length ≤ s.length :=
  h ▸ length_skipBlank_le s

theorem length_lt_of_skipBlank {s t : List Char} {c : Char} (h : skipBlank s = c :: t) :
    t.length < s.length :=
  Nat.lt_of_lt_of_le (Nat.lt_succ_self _) (length_le_of_skipBlank h)

theorem length_tail_le_of_skipBlank {s t : List Char} {c : Char} (h : skipBlank s = c :: t) :
    t.length ≤ s.length :=
  Nat.le_of_lt (length_lt_of_skipBlank h)

theorem length_cons_le_of_skipBlank {s t : List Char} {c : Char} (h : skipBlank s = c :: t) :
    (c :: t).length ≤ s.length :=
  length_le_of_skipBlank h

theorem length_lt_of_le_of_lt {s t u : List Char} (h : u.length ≤ t.length)
    (h' : t.length < s.length) : u.length < s.length :=
  Nat.lt_of_le_of_lt h h'

theorem length_le_self (s : List Char) : s.length ≤ s.length := Nat.le_refl _

/-- What comes after the given letters. -/
def readLetters : List Char → (s : List Char) →
    Except ReadFault { rest : List Char // rest.length ≤ s.length }
  | [], s => .ok ⟨s, length_le_self s⟩
  | _ :: _, [] => .error (faultAt .endInValue [])
  | letter :: letters, c :: rest =>
    if c = letter then
      match readLetters letters rest with
      | .error fault => .error fault
      | .ok ⟨final, h⟩ => .ok ⟨final, Nat.le_succ_of_le h⟩
    else .error (faultAt .expectedKeyword (c :: rest))

end ClauseSql
