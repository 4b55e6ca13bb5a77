import ClauseSql.Json.Reader.String

/-!
# Reading JSON values

## What is here

* `nextItem` and `nextName` — what comes next in an array or an object: an item, or its end.
* `readItems` and `readMembers` — the loops over the items of an array and the members of an object,
  for any reader of what they hold.
* `value` — reads a value.  Arrays and objects nest at most `deepest` levels.
* `Json.parse` — the value that a whole text is.
-/

set_option autoImplicit false

namespace ClauseSql
namespace Reader

/-! ## What comes next -/

/-- The start of the next item of a sequence within `s`, or what follows its end. -/
inductive Next (s : List Char) where
  | start (rest : List Char) (shorter : rest.length ≤ s.length)
  | done (rest : List Char) (shorter : rest.length < s.length)

/-- What comes next in an array; `first` tells that no item was read yet. -/
def nextItem (first : Bool) (s : List Char) : Except ReadFault (Next s) :=
  match h : skipBlank s with
  | [] => .error (faultAt .endInArray [])
  | c :: rest =>
    if c = ']' then .ok (.done rest (length_lt_of_skipBlank h))
    else if first then .ok (.start (c :: rest) (length_cons_le_of_skipBlank h))
    else if c = ',' then
      match h' : skipBlank rest with
      | [] => .error (faultAt .endInValue [])
      | c' :: rest' =>
        if c' = ']' then .error (faultAt .trailingComma (c' :: rest'))
        else .ok (.start (c' :: rest') (Nat.le_trans (length_le_of_skipBlank h')
          (length_tail_le_of_skipBlank h)))
    else .error (faultAt .expectedArrayEnd (c :: rest))

/-- What comes next in an object: the rest after the opening quote of a name, or its end. -/
def nextName (first : Bool) (s : List Char) : Except ReadFault (Next s) :=
  match h : skipBlank s with
  | [] => .error (faultAt .endInObject [])
  | c :: rest =>
    if c = '}' then .ok (.done rest (length_lt_of_skipBlank h))
    else if first then
      if c = '"' then .ok (.start rest (length_tail_le_of_skipBlank h))
      else .error (faultAt .nameNotString (c :: rest))
    else if c = ',' then
      match h' : skipBlank rest with
      | [] => .error (faultAt .endInValue [])
      | c' :: rest' =>
        if c' = '"' then .ok (.start rest' (Nat.le_of_lt (Nat.lt_trans (length_lt_of_skipBlank h')
          (length_lt_of_skipBlank h))))
        else if c' = '}' then .error (faultAt .trailingComma (c' :: rest'))
        else .error (faultAt .nameNotString (c' :: rest'))
    else .error (faultAt .expectedObjectEnd (c :: rest))

/-- Reads the colon between a name and its value. -/
def colon : Reader Unit := fun s =>
  match h : skipBlank s with
  | [] => .error (faultAt .endInObject [])
  | c :: rest =>
    if c = ':' then .ok ⟨(), rest, length_lt_of_skipBlank h⟩
    else .error (faultAt .expectedColon (c :: rest))

/-! ## Loops -/

/-- Reads the items of an array up to its end, after its opening bracket. -/
def readItems {α : Type} (item : Reader α) (first : Bool) (s : List Char) :
    Except ReadFault (Step (List α) s) :=
  match nextItem first s with
  | .error fault => .error fault
  | .ok (.done rest h) => .ok ⟨[], rest, h⟩
  | .ok (.start t h) =>
    match item t with
    | .error fault => .error fault
    | .ok step =>
      match readItems item false step.rest with
      | .error fault => .error fault
      | .ok more =>
        .ok ((more.map (step.value :: ·)).after (Nat.le_trans (Nat.le_of_lt step.shorter) h))
termination_by s.length
decreasing_by exact Nat.lt_of_lt_of_le step.shorter h

/-- Reads the members of an object up to its end, after its opening bracket.  `member` answers, for
what was read so far and the name of a member, the reader of its value; it can refuse the name. -/
def readMembers {σ : Type} (member : σ → String → Except ReadFault (Reader σ)) (state : σ)
    (first : Bool) (s : List Char) : Except ReadFault (Step σ s) :=
  match nextName first s with
  | .error fault => .error fault
  | .ok (.done rest h) => .ok ⟨state, rest, h⟩
  | .ok (.start t h) =>
    match string t with
    | .error fault => .error fault
    | .ok name =>
      match member state name.value with
      | .error fault => .error fault
      | .ok reader =>
        match colon name.rest with
        | .error fault => .error fault
        | .ok mark =>
          match reader mark.rest with
          | .error fault => .error fault
          | .ok step =>
            match readMembers member step.value false step.rest with
            | .error fault => .error fault
            | .ok more =>
              .ok (more.after (by
                have := step.shorter
                have := mark.shorter
                have := name.shorter
                omega))
termination_by s.length
decreasing_by
  have := step.shorter
  have := mark.shorter
  have := name.shorter
  omega

/-! ## Values -/

/-- Arrays and objects nest at most this deep. -/
def deepest : Nat := 127

/-- Reads the keyword whose letters after the first are given. -/
def keyword {α : Type} (letters : List Char) (meaning : α) {s : List Char} (rest : List Char)
    (h : rest.length < s.length) : Except ReadFault (Step α s) :=
  match readLetters letters rest with
  | .error fault => .error fault
  | .ok ⟨final, hf⟩ => .ok ⟨meaning, final, length_lt_of_le_of_lt hf h⟩

/-- Reads a value in which arrays and objects may still nest `levels` deep. -/
def value (levels : Nat) : Reader Json := fun s =>
  match h : skipBlank s with
  | [] => .error (faultAt .endInValue [])
  | c :: rest =>
    have hr := length_lt_of_skipBlank h
    if c = 'n' then keyword ['u', 'l', 'l'] .null rest hr
    else if c = 't' then keyword ['r', 'u', 'e'] (.bool true) rest hr
    else if c = 'f' then keyword ['a', 'l', 's', 'e'] (.bool false) rest hr
    else if c = '-' then
      match number true rest with
      | .error fault => .error fault
      | .ok step => .ok ((step.map .number).after (Nat.le_of_lt hr))
    else if isDigit c then
      match number false (c :: rest) with
      | .error fault => .error fault
      | .ok step => .ok ((step.map .number).after (length_cons_le_of_skipBlank h))
    else if c = '"' then
      match string rest with
      | .error fault => .error fault
      | .ok step => .ok ((step.map .string).after (Nat.le_of_lt hr))
    else if c = '[' then
      match levels with
      | 0 => .error (faultAt .tooDeep (c :: rest))
      | levels + 1 =>
        match readItems (value levels) true rest with
        | .error fault => .error fault
        | .ok step => .ok ((step.map .array).after (Nat.le_of_lt hr))
    else if c = '{' then
      match levels with
      | 0 => .error (faultAt .tooDeep (c :: rest))
      | levels + 1 =>
        let member (members : Members) (name : String) : Except ReadFault (Reader Members) :=
          .ok ((value levels).map fun item => Members.insert name item members)
        match readMembers member [] true rest with
        | .error fault => .error fault
        | .ok step => .ok ((step.map .object).after (Nat.le_of_lt hr))
    else .error (faultAt .expectedValue (c :: rest))

/-! ## Whole texts -/

/-- Reads a whole text: nothing but white space may follow. -/
def readWhole {α : Type} (reader : Reader α) (s : List Char) : Except ReadFault α :=
  match reader s with
  | .error fault => .error fault
  | .ok step =>
    match skipBlank step.rest with
    | [] => .ok step.value
    | c :: rest => .error (faultAt .trailingText (c :: rest))

/-- What a reader makes of a whole text, or the fault and its place. -/
def parse {α : Type} (reader : Reader α) (text : String) : Except Fault α :=
  match readWhole reader text.toList with
  | .error fault => .error (fault.locate text)
  | .ok result => .ok result

end Reader

/-- The value that a text is. -/
def Json.parse (text : String) : Except Fault Json := (Reader.value Reader.deepest).parse text

end ClauseSql
