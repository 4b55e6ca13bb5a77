import ClauseSql.Json.Text
import ClauseSql.Predicate
import ClauseSql.Sql.Predicate

/-!
# Predicates as JSON

Expressions, predicates and order keys are exchanged as JSON objects whose first member, `kind`,
tells what they are.

## What is here

* `Expr.toJson`, `Predicate.toJson`, `OrderKey.toJson` — the objects.
* `Expr.ofJson?`, `Predicate.ofJson?`, `OrderKey.ofJson?` — what such objects stand for.  A flag
  that is left out is false.
-/

set_option autoImplicit false

namespace ClauseSql

/-! ## Writing -/

/-- A list of strings. -/
def Json.ofStrings (strings : List String) : Json := .array (strings.map .string)

/-- The object of an expression. -/
def Expr.toJson : Expr → Json
  | .column name => .object [("kind", .string "column"), ("name", .string name)]
  | .jsonText document path =>
    .object [("kind", .string "json_text"), ("column", .string document),
      ("path", .ofStrings path)]
  | .jsonNative document path =>
    .object [("kind", .string "json_native"), ("column", .string document),
      ("path", .ofStrings path)]
  | .safeNumeric inner => .object [("kind", .string "safe_numeric"), ("inner", inner.toJson)]
  | .jsonb inner => .object [("kind", .string "jsonb"), ("inner", inner.toJson)]

/-- The name of a comparison. -/
def Comparison.name : Comparison → String
  | .eq => "eq"
  | .ne => "ne"
  | .gt => "gt"
  | .gte => "gte"
  | .lt => "lt"
  | .lte => "lte"

namespace Predicate

mutual

/-- The object of a predicate. -/
def toJson : Predicate → Json
  | .compare expr comparison value =>
    .object [("kind", .string "compare"), ("expr", expr.toJson),
      ("op", .string comparison.name), ("value", value)]
  | .isNull expr => .object [("kind", .string "is_null"), ("expr", expr.toJson)]
  | .isNotNull expr => .object [("kind", .string "is_not_null"), ("expr", expr.toJson)]
  | .inList expr values negated =>
    .object [("kind", .string "in_list"), ("expr", expr.toJson), ("values", .array values),
      ("negated", .bool negated)]
  | .between expr low high =>
    .object [("kind", .string "between"), ("expr", expr.toJson), ("low", low), ("high", high)]
  | .like expr pattern ignoreCase negated =>
    .object [("kind", .string "like"), ("expr", expr.toJson), ("pattern", .string pattern),
      ("case_insensitive", .bool ignoreCase), ("negated", .bool negated)]
  | .regex expr pattern ignoreCase =>
    .object [("kind", .string "regex"), ("expr", expr.toJson), ("pattern", .string pattern),
      ("case_insensitive", .bool ignoreCase)]
  | .and terms => .object [("kind", .string "and"), ("terms", .array (toJsons terms))]
  | .or terms => .object [("kind", .string "or"), ("terms", .array (toJsons terms))]
  | .constant value => .object [("kind", .string "constant"), ("value", .bool value)]

/-- The objects of the terms. -/
def toJsons : List Predicate → List Json
  | [] => []
  | term :: rest => toJson term :: toJsons rest

end

end Predicate

/-- The object of an order key. -/
def OrderKey.toJson (key : OrderKey) : Json :=
  .object [("expr", key.expr.toJson), ("direction", .string key.direction.sql)]

/-! ## Reading -/

namespace Json

/-- A string. -/
def string? : Json → Option String
  | .string value => some value
  | _ => none

/-- The items of an array. -/
def items? : Json → Option (List Json)
  | .array items => some items
  | _ => none

/-- The strings of an array of strings. -/
def strings? (value : Json) : Option (List String) := do
  let items ← value.items?
  items.mapM string?

end Json

/-- A flag; one that is left out is false. -/
def Members.flag (name : String) (members : Members) : Bool :=
  members.find? name == some (.bool true)

namespace Expr

/-- What an object stands for, given what the expression in it stands for. -/
def ofMembers? (members : Members) (inner : Option Expr) : Option Expr := do
  match ← (← members.find? "kind").string? with
  | "column" => return .column (← (← members.find? "name").string?)
  | "json_text" =>
    return .jsonText (← (← members.find? "column").string?) (← (← members.find? "path").strings?)
  | "json_native" =>
    return .jsonNative (← (← members.find? "column").string?) (← (← members.find? "path").strings?)
  | "safe_numeric" => return .safeNumeric (← inner)
  | "jsonb" => return .jsonb (← inner)
  | _ => none

mutual

/-- The expression that an object stands for. -/
def ofJson? : Json → Option Expr
  | .object members => ofMembers? members (innerOf? members)
  | _ => none

/-- The expression that the first member called `inner` stands for. -/
def innerOf? : List (String × Json) → Option Expr
  | [] => none
  | (name, value) :: rest => if name = "inner" then ofJson? value else innerOf? rest

end

end Expr

/-- The comparison of a name. -/
def Comparison.ofName? (name : String) : Option Comparison :=
  [Comparison.eq, .ne, .gt, .gte, .lt, .lte].find? fun comparison => comparison.name == name

namespace Predicate

/-- What an object stands for, given what the predicates in it stand for. -/
def ofMembers? (members : Members) (terms : Option (List Predicate)) : Option Predicate := do
  match ← (← members.find? "kind").string? with
  | "compare" =>
    return .compare (← Expr.ofJson? (← members.find? "expr"))
      (← Comparison.ofName? (← (← members.find? "op").string?)) (← members.find? "value")
  | "is_null" => return .isNull (← Expr.ofJson? (← members.find? "expr"))
  | "is_not_null" => return .isNotNull (← Expr.ofJson? (← members.find? "expr"))
  | "in_list" =>
    return .inList (← Expr.ofJson? (← members.find? "expr")) (← (← members.find? "values").items?)
      (members.flag "negated")
  | "between" =>
    return .between (← Expr.ofJson? (← members.find? "expr")) (← members.find? "low")
      (← members.find? "high")
  | "like" =>
    return .like (← Expr.ofJson? (← members.find? "expr")) (← (← members.find? "pattern").string?)
      (members.flag "case_insensitive") (members.flag "negated")
  | "regex" =>
    return .regex (← Expr.ofJson? (← members.find? "expr")) (← (← members.find? "pattern").string?)
      (members.flag "case_insensitive")
  | "and" => return .and (← terms)
  | "or" => return .or (← terms)
  | "constant" => return .constant (members.flag "value")
  | _ => none

mutual

/-- The predicate that an object stands for. -/
def ofJson? : Json → Option Predicate
  | .object members => ofMembers? members (termsOf? members)
  | _ => none

/-- The predicates that the first member called `terms` stands for. -/
def termsOf? : List (String × Json) → Option (List Predicate)
  | [] => none
  | (name, .array items) :: rest => if name = "terms" then ofJsons? items else termsOf? rest
  | (name, _) :: rest => if name = "terms" then none else termsOf? rest

/-- The predicates that some objects stand for. -/
def ofJsons? : List Json → Option (List Predicate)
  | [] => some []
  | item :: rest => do
    let term ← ofJson? item
    let more ← ofJsons? rest
    return term :: more

end

end Predicate

/-- The order key that an object stands for. -/
def OrderKey.ofJson? : Json → Option OrderKey
  | .object members => do
    let expr ← Expr.ofJson? (← Members.find? "expr" members)
    let direction ← Direction.ofWord? (← (← Members.find? "direction" members).string?)
    return ⟨expr, direction⟩
  | _ => none

end ClauseSql
