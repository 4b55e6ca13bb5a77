import ClauseSql.Json.Reader.Skip
import ClauseSql.NameMap

/-!
# Reading JSON of a known shape

Declarations and settings are read straight from text, member by member, so that of two faults the
one that comes first in the text is reported.

## What is here

* `wrongTypeAt` — the fault of a value of another type than expected.
* `text`, `count`, `optional`, `list`, `nameMap` and `variant` — readers of the simple shapes.
* `Field`, `RecordShape` and `RecordShape.reader` — objects with known members.  A record can also be
  written as the array of its members, in order.
-/

set_option autoImplicit false

namespace ClauseSql
namespace Reader

/-! ## Values of another type -/

/-- The fault of a keyword or what stands in its place. -/
def wrongKeyword (letters : List Char) (found : Found) (expected : String) (rest : List Char) :
    ReadFault :=
  match readLetters letters rest with
  | .error fault => fault
  | .ok _ => .misshapen (.wrongType found expected)

/-- The fault of a number or what stands in its place. -/
def wrongNumber (negative : Bool) (expected : String) (s : List Char) : ReadFault :=
  match number negative s with
  | .error fault => fault
  | .ok step => .misshapen (.wrongType (.number step.value) expected)

/-- The fault of a value that is not of the expected type.  Scalars are read, and can be malformed
themselves. -/
def wrongTypeAt (expected : String) (c : Char) (rest : List Char) : ReadFault :=
  if c = 'n' then wrongKeyword ['u', 'l', 'l'] .null expected rest
  else if c = 't' then wrongKeyword ['r', 'u', 'e'] (.bool true) expected rest
  else if c = 'f' then wrongKeyword ['a', 'l', 's', 'e'] (.bool false) expected rest
  else if c = '-' then wrongNumber true expected rest
  else if isDigit c then wrongNumber false expected (c :: rest)
  else if c = '"' then
    match string rest with
    | .error fault => fault
    | .ok step => .misshapen (.wrongType (.string step.value) expected)
  else if c = '[' then .misshapen (.wrongType .array expected)
  else if c = '{' then .misshapen (.wrongType .object expected)
  else faultAt .expectedValue (c :: rest)

/-! ## Simple shapes -/

/-- A string; `expected` is how a fault names it. -/
def textNamed (expected : String) : Reader String := fun s =>
  match h : skipBlank s with
  | [] => .error (faultAt .endInValue [])
  | c :: rest =>
    if c = '"' then
      match string rest with
      | .error fault => .error fault
      | .ok step => .ok (step.after (length_tail_le_of_skipBlank h))
    else .error (wrongTypeAt expected c rest)

/-- A string. -/
def text : Reader String := textNamed "a string"

/-- The count that a number is; `expected` is how a fault names it. -/
def toCount (expected : String) (value : Number) : Except ReadFault Nat :=
  match value with
  | .int value =>
    if 0 ≤ value then .ok value.toNat
    else .error (.misshapen (.wrongValue (.number (.int value)) expected))
  | .float value => .error (.misshapen (.wrongType (.number (.float value)) expected))

/-- A count. -/
def count (expected : String) : Reader Nat := fun s =>
  match h : skipBlank s with
  | [] => .error (faultAt .endInValue [])
  | c :: rest =>
    if c = '-' then
      match number true rest with
      | .error fault => .error fault
      | .ok step =>
        match toCount expected step.value with
        | .error fault => .error fault
        | .ok value =>
          .ok ((step.map fun _ => value).after (length_tail_le_of_skipBlank h))
    else if isDigit c then
      match number false (c :: rest) with
      | .error fault => .error fault
      | .ok step =>
        match toCount expected step.value with
        | .error fault => .error fault
        | .ok value => .ok ((step.map fun _ => value).after (length_cons_le_of_skipBlank h))
    else .error (wrongTypeAt expected c rest)

/-- Null, which stands for no value, or a value. -/
def optional {α : Type} (item : Reader α) : Reader (Option α) := fun s =>
  match h : skipBlank s with
  | [] => item.map some s
  | c :: rest =>
    if c = 'n' then keyword ['u', 'l', 'l'] none rest (length_lt_of_skipBlank h)
    else item.map some s

/-- The null that stands for nothing. -/
def unit : Reader Unit := fun s =>
  match h : skipBlank s with
  | [] => .error (faultAt .endInValue [])
  | c :: rest =>
    if c = 'n' then keyword ['u', 'l', 'l'] () rest (length_lt_of_skipBlank h)
    else .error (wrongTypeAt "unit" c rest)

/-- An array of values of one shape. -/
def list {α : Type} (item : Reader α) : Reader (List α) := fun s =>
  match h : skipBlank s with
  | [] => .error (faultAt .endInValue [])
  | c :: rest =>
    if c = '[' then
      match readItems item true rest with
      | .error fault => .error fault
      | .ok step => .ok (step.after (length_tail_le_of_skipBlank h))
    else .error (wrongTypeAt "a sequence" c rest)

/-- An object of values of one shape. -/
def nameMap {α : Type} (item : Reader α) : Reader (NameMap α) := fun s =>
  match h : skipBlank s with
  | [] => .error (faultAt .endInValue [])
  | c :: rest =>
    if c = '{' then
      let member (entries : NameMap α) (name : String) : Except ReadFault (Reader (NameMap α)) :=
        .ok (item.map fun value => NameMap.insert name value entries)
      match readMembers member [] true rest with
      | .error fault => .error fault
      | .ok step => .ok (step.after (length_tail_le_of_skipBlank h))
    else .error (wrongTypeAt "a map" c rest)

/-- What a spelling stands for. -/
def ofSpelling {α : Type} (spellings : List (String × α)) (word : String) : Except ReadFault α :=
  match NameMap.find? word spellings with
  | some value => .ok value
  | none => .error (.misshapen (.unknownVariant word (spellings.map Prod.fst)))

/-- The end of an object that holds one member. -/
def closeSingle : Reader Unit := fun s =>
  match h : skipBlank s with
  | [] => .error (faultAt .endInObject [])
  | c :: rest =>
    if c = '}' then .ok ⟨(), rest, length_lt_of_skipBlank h⟩
    else .error (faultBefore .expectedValue (c :: rest))

/-- One of the given spellings, as a string or as the only name in an object, with null for its
value. -/
def variant {α : Type} (spellings : List (String × α)) : Reader α := fun s =>
  match h : skipBlank s with
  | [] => .error (faultAt .endInValue [])
  | c :: rest =>
    if c = '"' then
      match string rest with
      | .error fault => .error fault
      | .ok step =>
        match ofSpelling spellings step.value with
        | .error fault => .error fault
        | .ok value =>
          .ok ((step.map fun _ => value).after (length_tail_le_of_skipBlank h))
    else if c = '{' then
      match nextName true rest with
      | .error fault => .error fault
      | .ok (.done ..) => .error (faultAt .expectedValue (skipBlank rest))
      | .ok (.start t ht) =>
        match string t with
        | .error fault => .error fault
        | .ok name =>
          match ofSpelling spellings name.value with
          | .error fault => .error fault
          | .ok value =>
            match colon name.rest with
            | .error fault => .error fault
            | .ok mark =>
              match unit mark.rest with
              | .error fault => .error fault
              | .ok nothing =>
                match closeSingle nothing.rest with
                | .error fault => .error fault
                | .ok final =>
                  .ok ⟨value, final.rest, by
                    have := final.shorter
                    have := nothing.shorter
                    have := mark.shorter
                    have := name.shorter
                    have := length_lt_of_skipBlank h
                    omega⟩
    else .error (faultAt .expectedValue (c :: rest))

/-! ## Records -/

/-- A member of a record whose members are collected in a `σ`. -/
structure Field (σ : Type) where
  /-- Its name, and then its other names. -/
  names : List String
  /-- Whether the array form may end before it. -/
  omissible : Bool := false
  /-- Whether it was read already. -/
  isSet : σ → Bool
  /-- Reads its value. -/
  reader : σ → Reader σ

/-- A member that is kept in one place of a `σ`, which is empty until it was read. -/
def Field.kept {σ α : Type} (names : List String) (get : σ → Option α) (put : σ → α → σ)
    (item : Reader α) (omissible : Bool := false) : Field σ where
  names
  omissible
  isSet state := (get state).isSome
  reader state := item.map (put state)

/-- The name of a member. -/
def Field.name {σ : Type} (field : Field σ) : String := field.names.headD ""

/-- What becomes of a member that no field is named after. -/
inductive Unknown (σ : Type) where
  /-- It is refused. -/
  | refuse
  /-- It is passed over. -/
  | skip
  /-- It is read all the same. -/
  | read (reader : σ → String → Reader σ)

/-- The members of a record. -/
structure RecordShape (σ : Type) where
  /-- How a fault names the record. -/
  name : String
  fields : List (Field σ)
  unknown : Unknown σ := .skip
  /-- Whether the record can be written as an array. -/
  arrayForm : Bool := true

namespace RecordShape

variable {σ : Type}

/-- How a fault names the array form. -/
def arrayName (shape : RecordShape σ) : String :=
  let number := shape.fields.length
  shape.name ++ " with " ++ toString number ++ (if number = 1 then " element" else " elements")

/-- The reader of the member of a name.  A member cannot be given twice. -/
def member (shape : RecordShape σ) (state : σ) (name : String) : Except ReadFault (Reader σ) :=
  match shape.fields.find? fun field => field.names.contains name with
  | some field =>
    if field.isSet state then .error (.misshapen (.repeatedField field.name))
    else .ok (field.reader state)
  | none =>
    match shape.unknown with
    | .refuse => .error (.misshapen (.unknownField name (shape.fields.map Field.name)))
    | .skip => .ok (skipValue.map fun _ => state)
    | .read reader => .ok (reader state name)

/-- The end of an array all of whose members were read. -/
def closeArray : Reader Unit := fun s =>
  match h : skipBlank s with
  | [] => .error (faultAt .endInArray [])
  | c :: rest =>
    if c = ']' then .ok ⟨(), rest, length_lt_of_skipBlank h⟩
    else if c = ',' then
      match skipBlank rest with
      | ']' :: after => .error (faultAt .trailingComma (']' :: after))
      | after => .error (faultAt .trailingText after)
    else .error (faultAt .trailingText (c :: rest))

/-- Reads the array form from the given fields on, of which `index` come before. -/
def readArray (shape : RecordShape σ) (index : Nat) (state : σ) :
    List (Field σ) → (s : List Char) → Except ReadFault (Step σ s)
  | [], s =>
    match closeArray s with
    | .error fault => .error fault
    | .ok step => .ok (step.map fun _ => state)
  | field :: rest, s =>
    match nextItem (index == 0) s with
    | .error fault => .error fault
    | .ok (.done after h) =>
      match (field :: rest).findIdx? fun field => !field.omissible with
      | none => .ok ⟨state, after, h⟩
      | some more => .error (.misshapen (.wrongLength (index + more) shape.arrayName))
    | .ok (.start t h) =>
      match field.reader state t with
      | .error fault => .error fault
      | .ok step =>
        match readArray shape (index + 1) step.value rest step.rest with
        | .error fault => .error fault
        | .ok final => .ok (final.after (Nat.le_trans (Nat.le_of_lt step.shorter) h))

/-- Reads the members of a record, starting from nothing read. -/
def reader (shape : RecordShape σ) (start : σ) : Reader σ := fun s =>
  match h : skipBlank s with
  | [] => .error (faultAt .endInValue [])
  | c :: rest =>
    have hr := length_tail_le_of_skipBlank h
    if c = '{' then
      match readMembers shape.member start true rest with
      | .error fault => .error fault
      | .ok step => .ok (step.after hr)
    else if c = '[' ∧ shape.arrayForm then
      match shape.readArray 0 start shape.fields rest with
      | .error fault => .error fault
      | .ok step => .ok (step.after hr)
    else .error (wrongTypeAt shape.name c rest)

end RecordShape

/-- The same reader, with a further check of what was read. -/
def check {α β : Type} (reader : Reader α) (finish : α → Except Misshapen β) : Reader β :=
  fun s =>
    match reader s with
    | .error fault => .error fault
    | .ok step =>
      match finish step.value with
      | .error cause => .error (.misshapen cause)
      | .ok value => .ok (step.map fun _ => value)

/-- A member that must be there. -/
def required {α : Type} (name : String) : Option α → Except Misshapen α
  | some value => .ok value
  | none => .error (.missingField name)

end Reader
end ClauseSql
