import ClauseSql.Json.Reader.Value

/-!
# Skipping JSON values

A value that nobody asks for is only checked to be JSON.  Its numbers may be too large, its escapes
may be half of a pair, and it may nest to any depth.

## What is here

* `skipValue` — passes over one value.
-/

set_option autoImplicit false

namespace ClauseSql
namespace Reader

/-- What a reader leaves of a text, having consumed something. -/
abbrev Shorter (s : List Char) := { rest : List Char // rest.length < s.length }

/-- What a reader leaves of a text, having perhaps consumed something. -/
abbrev NotLonger (s : List Char) := { rest : List Char // rest.length ≤ s.length }

/-! ## Numbers and strings -/

/-- Passes over at least one digit. -/
def skipDigits (s : List Char) : Except ReadFault (Shorter s) :=
  match h : s.takeWhile isDigit with
  | [] => .error (faultAt .badNumber s)
  | _ :: _ => .ok ⟨s.dropWhile isDigit, length_dropWhile_lt h⟩

/-- Passes over the exponent of a number, if there is one. -/
def skipExponent (s : List Char) : Except ReadFault (NotLonger s) :=
  match s with
  | [] => .ok ⟨[], Nat.le_refl _⟩
  | c :: rest =>
    if c = 'e' ∨ c = 'E' then
      match skipDigits (exponentSign rest).2 with
      | .error fault => .error fault
      | .ok ⟨final, h⟩ =>
        .ok ⟨final, Nat.le_succ_of_le (Nat.le_trans (Nat.le_of_lt h) (exponentSign_length_le rest))⟩
    else .ok ⟨c :: rest, Nat.le_refl _⟩

/-- Passes over the fraction of a number, if there is one, and its exponent. -/
def skipFraction (s : List Char) : Except ReadFault (NotLonger s) :=
  match s with
  | [] => .ok ⟨[], Nat.le_refl _⟩
  | c :: rest =>
    if c = '.' then
      match skipDigits rest with
      | .error fault => .error fault
      | .ok ⟨middle, h⟩ =>
        match skipExponent middle with
        | .error fault => .error fault
        | .ok ⟨final, h'⟩ => .ok ⟨final, Nat.le_succ_of_le (Nat.le_trans h' (Nat.le_of_lt h))⟩
    else skipExponent (c :: rest)

/-- Passes over a number from its first digit on. -/
def skipNumber (s : List Char) : Except ReadFault (Shorter s) :=
  match s with
  | '0' :: next :: rest =>
    if isDigit next then .error (faultAt .badNumber (next :: rest))
    else
      match skipFraction (next :: rest) with
      | .error fault => .error fault
      | .ok ⟨final, h⟩ => .ok ⟨final, Nat.lt_succ_of_le h⟩
  | s =>
    match skipDigits s with
    | .error fault => .error fault
    | .ok ⟨middle, h⟩ =>
      match skipFraction middle with
      | .error fault => .error fault
      | .ok ⟨final, h'⟩ => .ok ⟨final, length_lt_of_le_of_lt h' h⟩

/-- Passes over an escape, after the backslash. -/
def skipEscape (s : List Char) : Except ReadFault (Shorter s) :=
  match s with
  | [] => .error (faultAt .endInString [])
  | c :: rest =>
    if c = 'u' then
      match hexEscape rest with
      | .error fault => .error fault
      | .ok step => .ok ⟨step.rest, Nat.lt_succ_of_lt step.shorter⟩
    else if (shortEscape? c).isSome then .ok ⟨rest, Nat.lt_succ_self _⟩
    else .error (faultAt .badEscape (c :: rest))

/-- Passes over a string, after its opening quote. -/
def skipString (s : List Char) : Except ReadFault (Shorter s) :=
  match s with
  | [] => .error (faultAt .endInString [])
  | c :: rest =>
    if c = '"' then .ok ⟨rest, Nat.lt_succ_self _⟩
    else if c = '\\' then
      match skipEscape rest with
      | .error fault => .error fault
      | .ok ⟨after, h⟩ =>
        match skipString after with
        | .error fault => .error fault
        | .ok ⟨final, h'⟩ => .ok ⟨final, Nat.lt_succ_of_lt (Nat.lt_trans h' h)⟩
    else if c.toNat < 0x20 then .error (faultBefore .rawControl (c :: rest))
    else
      match skipString rest with
      | .error fault => .error fault
      | .ok ⟨final, h⟩ => .ok ⟨final, Nat.lt_succ_of_lt h⟩
termination_by s.length
decreasing_by
  · exact Nat.lt_succ_of_lt h
  · exact Nat.lt_succ_self _

/-! ## Values -/

/-- The two kinds of container. -/
inductive Container where
  | array
  | object
deriving DecidableEq, Repr

namespace Container

/-- The bracket that closes a container. -/
def closing : Container → Char
  | .array => ']'
  | .object => '}'

/-- The fault of a text that ends inside a container. -/
def atEnd : Container → Malformed
  | .array => .endInArray
  | .object => .endInObject

/-- The fault of a text that goes on in a container with neither a comma nor its end. -/
def unclosed : Container → Malformed
  | .array => .expectedArrayEnd
  | .object => .expectedObjectEnd

end Container

/-- Passes over what comes before the next value in a container: nothing in an array, a name and a
colon in an object. -/
def skipName (container : Container) (s : List Char) : Except ReadFault (NotLonger s) :=
  match container with
  | .array => .ok ⟨s, length_le_self s⟩
  | .object =>
    match h : skipBlank s with
    | [] => .error (faultAt .endInObject [])
    | c :: rest =>
      if c = '"' then
        match skipString rest with
        | .error fault => .error fault
        | .ok ⟨after, h'⟩ =>
          match colon after with
          | .error fault => .error fault
          | .ok step =>
            .ok ⟨step.rest, by
              have := step.shorter
              have := length_lt_of_skipBlank h
              omega⟩
      else .error (faultAt .nameNotString (c :: rest))

/-- Passes over a value that is no container. -/
def skipScalar (s : List Char) : Except ReadFault (Shorter s) :=
  match s with
  | [] => .error (faultAt .endInValue [])
  | c :: rest =>
    let letters (letters : List Char) : Except ReadFault (Shorter (c :: rest)) :=
      match readLetters letters rest with
      | .error fault => .error fault
      | .ok ⟨final, h⟩ => .ok ⟨final, Nat.lt_succ_of_le h⟩
    if c = 'n' then letters ['u', 'l', 'l']
    else if c = 't' then letters ['r', 'u', 'e']
    else if c = 'f' then letters ['a', 'l', 's', 'e']
    else if c = '-' then
      match skipNumber rest with
      | .error fault => .error fault
      | .ok ⟨final, h⟩ => .ok ⟨final, Nat.lt_succ_of_lt h⟩
    else if isDigit c then skipNumber (c :: rest)
    else if c = '"' then
      match skipString rest with
      | .error fault => .error fault
      | .ok ⟨final, h⟩ => .ok ⟨final, Nat.lt_succ_of_lt h⟩
    else .error (faultAt .expectedValue (c :: rest))

/-- What is expected next. -/
inductive Expecting where
  /-- A value. -/
  | value
  /-- The rest of a container that holds no value yet. -/
  | first
  /-- The rest of a container that holds a value. -/
  | more
deriving DecidableEq, Repr

/-- How many characters what is expected takes at least. -/
def Expecting.least : Expecting → Nat
  | .value => 1
  | .first | .more => 0

/-- Passes over what is expected, and then over the rest of the containers it stands in, innermost
first. -/
def skipFrom (expecting : Expecting) (containers : List Container) (s : List Char) :
    Except ReadFault { rest : List Char // rest.length + expecting.least ≤ s.length } :=
  match expecting, containers with
  | .value, containers =>
    match h : skipBlank s with
    | [] => .error (faultAt .endInValue [])
    | c :: rest =>
      have hr := length_lt_of_skipBlank h
      if c = '[' then
        match skipFrom .first (.array :: containers) rest with
        | .error fault => .error fault
        | .ok ⟨final, hf⟩ => .ok ⟨final, by simp only [Expecting.least] at *; omega⟩
      else if c = '{' then
        match skipFrom .first (.object :: containers) rest with
        | .error fault => .error fault
        | .ok ⟨final, hf⟩ => .ok ⟨final, by simp only [Expecting.least] at *; omega⟩
      else
        match skipScalar (c :: rest) with
        | .error fault => .error fault
        | .ok ⟨after, ha⟩ =>
          have hs := length_le_of_skipBlank h
          match skipFrom .more containers after with
          | .error fault => .error fault
          | .ok ⟨final, hf⟩ => .ok ⟨final, by simp only [Expecting.least] at *; omega⟩
  | .first, [] | .more, [] => .ok ⟨s, Nat.le_refl _⟩
  | .first, container :: outer =>
    match h : skipBlank s with
    | [] => .error (faultAt container.atEnd [])
    | c :: rest =>
      have hr := length_lt_of_skipBlank h
      if c = container.closing then
        match skipFrom .more outer rest with
        | .error fault => .error fault
        | .ok ⟨final, hf⟩ => .ok ⟨final, by simp only [Expecting.least] at *; omega⟩
      else
        match skipName container (c :: rest) with
        | .error fault => .error fault
        | .ok ⟨after, ha⟩ =>
          have hs := length_le_of_skipBlank h
          match skipFrom .value (container :: outer) after with
          | .error fault => .error fault
          | .ok ⟨final, hf⟩ => .ok ⟨final, by simp only [Expecting.least] at *; omega⟩
  | .more, container :: outer =>
    match h : skipBlank s with
    | [] => .error (faultAt container.atEnd [])
    | c :: rest =>
      have hr := length_lt_of_skipBlank h
      if c = ',' then
        match skipName container rest with
        | .error fault => .error fault
        | .ok ⟨after, ha⟩ =>
          match skipFrom .value (container :: outer) after with
          | .error fault => .error fault
          | .ok ⟨final, hf⟩ => .ok ⟨final, by simp only [Expecting.least] at *; omega⟩
      else if c = container.closing then
        match skipFrom .more outer rest with
        | .error fault => .error fault
        | .ok ⟨final, hf⟩ => .ok ⟨final, by simp only [Expecting.least] at *; omega⟩
      else .error (faultAt container.unclosed (c :: rest))
termination_by (s.length, 1 - expecting.least)
decreasing_by
  · exact Prod.Lex.left _ _ hr
  · exact Prod.Lex.left _ _ hr
  · exact Prod.Lex.left _ _ (by omega)
  · exact Prod.Lex.left _ _ hr
  · rcases Nat.lt_or_eq_of_le (Nat.le_trans ha hs) with hlt | heq
    · exact Prod.Lex.left _ _ hlt
    · rw [heq]
      exact Prod.Lex.right _ (by simp [Expecting.least])
  · exact Prod.Lex.left _ _ (by omega)
  · exact Prod.Lex.left _ _ hr

/-- Passes over a value. -/
def skipValue : Reader Unit := fun s =>
  match skipFrom .value [] s with
  | .error fault => .error fault
  | .ok ⟨rest, h⟩ => .ok ⟨(), rest, h⟩

end Reader
end ClauseSql
