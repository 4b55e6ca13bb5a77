import ClauseSql.Decimal.Shortest

/-!
# JSON values

Filters, update payloads and bind values are JSON.  A number is an integer or a double, and the two
are told apart everywhere: `1` and `1.0` are different values.  An object is the list of its members
in the order in which their names first appear.

## What is here

* `Json` and `Number` — the values, and the classifications the compilers branch on
  (`Json.isScalar`, `Json.isStructured`).
* `Members` — the members of an object, with look-up, insertion (`Members.insert` keeps the place of
  a name that is already there) and the predicate `Members.Distinct`.
-/

set_option autoImplicit false

namespace ClauseSql

/-- A JSON number: an integer, or a finite double. -/
inductive Number where
  | int (value : Int)
  | float (value : Binary64)
deriving DecidableEq, Repr

/-- A JSON value. -/
inductive Json where
  | null
  | bool (value : Bool)
  | number (value : Number)
  | string (value : String)
  | array (items : List Json)
  | object (members : List (String × Json))
deriving BEq, Repr, Inhabited

/-- The members of an object, in the order in which their names first appear. -/
abbrev Members := List (String × Json)

/-! ## Numbers -/

namespace Number

/-- Doubles from `0.00001` up to below `10 ^ 16` are written positionally. -/
def layout : Decimal.Layout := ⟨-5, 16⟩

/-- The text of a number. -/
def text : Number → String
  | .int value => toString value
  | .float value => value.text layout

end Number

/-! ## Kinds of value -/

namespace Json

/-- Whether a value is a string, a number or a boolean. -/
def isScalar : Json → Bool
  | .bool _ | .number _ | .string _ => true
  | .null | .array _ | .object _ => false

/-- Whether a value is an array or an object. -/
def isStructured : Json → Bool
  | .array _ | .object _ => true
  | .null | .bool _ | .number _ | .string _ => false

/-- Whether a value is a number. -/
def isNumber : Json → Bool
  | .number _ => true
  | _ => false

/-- The text of a scalar, without the quotes of a string; `none` for null, arrays and objects. -/
def scalarText? : Json → Option String
  | .string value => some value
  | .number value => some value.text
  | .bool value => some (if value then "true" else "false")
  | .null | .array _ | .object _ => none

/-- A scalar as a string; null for what is no scalar. -/
def asText (value : Json) : Json :=
  match value.scalarText? with
  | some text => .string text
  | none => .null

/-- The name of a value's kind. -/
def kind : Json → String
  | .null => "null"
  | .bool _ => "boolean"
  | .number _ => "number"
  | .string _ => "string"
  | .array _ => "array"
  | .object _ => "object"

end Json

/-! ## Members of an object -/

namespace Members

/-- The value of the first member of that name. -/
def find? (name : String) : Members → Option Json
  | [] => none
  | (key, value) :: rest => if key = name then some value else find? name rest

/-- Sets a member: a name that is already there keeps its place and takes the new value, a new name
goes to the end. -/
def insert (name : String) (value : Json) : Members → Members
  | [] => [(name, value)]
  | (key, old) :: rest =>
    if key = name then (key, value) :: rest else (key, old) :: insert name value rest

/-- The names, in order. -/
def names (members : Members) : List String := members.map Prod.fst

/-- No name occurs twice. -/
def Distinct (members : Members) : Prop := (names members).Nodup

theorem mem_names_insert (name : String) (value : Json) (members : Members) (key : String) :
    key ∈ names (insert name value members) ↔ key = name ∨ key ∈ names members := by
  induction members with
  | nil => simp [insert, names]
  | cons head rest ih =>
    obtain ⟨first, old⟩ := head
    by_cases h : first = name
    · subst h; simp [insert, names]
    · simp only [insert, h, if_false, names, List.map_cons, List.mem_cons] at ih ⊢
      rw [ih]
      grind

theorem Distinct.insert {members : Members} (h : Distinct members) (name : String) (value : Json) :
    Distinct (Members.insert name value members) := by
  induction members with
  | nil => simp [Members.insert, Distinct, names]
  | cons head rest ih =>
    obtain ⟨first, old⟩ := head
    simp only [Distinct, names, List.map_cons, List.nodup_cons] at h
    by_cases hf : first = name
    · simp only [Members.insert, hf, if_true, Distinct, names, List.map_cons, List.nodup_cons]
      exact hf ▸ h
    · simp only [Members.insert, hf, if_false, Distinct, names, List.map_cons, List.nodup_cons]
      refine ⟨fun hm => ?_, ih h.2⟩
      rcases (mem_names_insert name value rest first).1 hm with hn | hn
      · exact hf hn
      · exact h.1 hn

end Members
end ClauseSql
