import ClauseSql.Predicate
import ClauseSql.Sql.Text

/-!
# The SQL of predicates

Operands are never written into the text: each is bound, and a numbered placeholder stands for it.

## What is here

* `Expr.sql` — the text of an expression.
* `Predicate.operands` — the operands of a predicate, in the order in which they are bound.
* `Predicate.sql` — the text of a predicate, after some number of values were bound.
* `Predicate.render` — the text, and all the values bound after it.
-/

set_option autoImplicit false

namespace ClauseSql

/-- The text of an expression. -/
def Expr.sql : Expr → String
  | .column name => Sql.identifier name
  | .jsonText document path => Sql.extractText (Sql.identifier document) path
  | .jsonNative document path => Sql.extract (Sql.identifier document) path
  | .safeNumeric inner => Sql.safeNumeric inner.sql
  | .jsonb inner => Sql.jsonb inner.sql

/-- The sign of a comparison. -/
def Comparison.sql : Comparison → String
  | .eq => "="
  | .ne => "<>"
  | .gt => ">"
  | .gte => ">="
  | .lt => "<"
  | .lte => "<="

/-- The word for a direction. -/
def Direction.sql : Direction → String
  | .asc => "ASC"
  | .desc => "DESC"

/-- The text of an order key. -/
def OrderKey.sql (key : OrderKey) : String := key.expr.sql ++ " " ++ key.direction.sql

/-! ## Bound values -/

/-- The placeholder of a value bound after `bound` others.  Arrays and objects are cast. -/
def placeholderOf (bound : Nat) (value : Json) : String :=
  let text := Sql.placeholder (bound + 1)
  if value.isStructured then Sql.jsonb text else text

/-- The placeholders of values bound after `bound` others. -/
def placeholdersOf (bound : Nat) : List Json → List String
  | [] => []
  | value :: rest => placeholderOf bound value :: placeholdersOf (bound + 1) rest

namespace Predicate

mutual

/-- The operands of a predicate, in the order in which they are bound. -/
def operands : Predicate → List Json
  | .compare _ _ value => [value]
  | .isNull _ => []
  | .isNotNull _ => []
  | .inList _ values _ => values
  | .between _ low high => [low, high]
  | .like _ pattern _ _ => [.string pattern]
  | .regex _ pattern _ => [.string pattern]
  | .and terms => operandsOfTerms terms
  | .or terms => operandsOfTerms terms
  | .constant _ => []

/-- The operands of the terms. -/
def operandsOfTerms : List Predicate → List Json
  | [] => []
  | term :: rest => operands term ++ operandsOfTerms rest

end

/-! ## Text -/

/-- Terms joined by a word, in parentheses; a constant when there are none. -/
def joinTerms (word : String) (empty : Bool) : List String → String
  | [] => Sql.constant empty
  | term :: rest => "(" ++ joined (" " ++ word ++ " ") (term :: rest) ++ ")"

mutual

/-- The text of a predicate whose operands are bound after `bound` other values. -/
def sql (bound : Nat) : Predicate → String
  | .compare expr comparison value =>
    expr.sql ++ " " ++ comparison.sql ++ " " ++ placeholderOf bound value
  | .isNull expr => expr.sql ++ " IS NULL"
  | .isNotNull expr => expr.sql ++ " IS NOT NULL"
  | .inList _ [] negated => Sql.constant negated
  | .inList expr (value :: rest) negated =>
    expr.sql ++ (if negated then " NOT IN (" else " IN (") ++
      joined ", " (placeholdersOf bound (value :: rest)) ++ ")"
  | .between expr low high =>
    expr.sql ++ " BETWEEN " ++ placeholderOf bound low ++ " AND " ++ placeholderOf (bound + 1) high
  | .like expr pattern ignoreCase negated =>
    expr.sql ++ " " ++ Sql.likeOperator ignoreCase negated ++ " " ++
      placeholderOf bound (.string pattern)
  | .regex expr pattern ignoreCase =>
    expr.sql ++ " " ++ Sql.regexOperator ignoreCase ++ " " ++ placeholderOf bound (.string pattern)
  | .and terms => joinTerms "AND" true (sqlOfTerms bound terms)
  | .or terms => joinTerms "OR" false (sqlOfTerms bound terms)
  | .constant value => Sql.constant value

/-- The texts of the terms, the operands of each bound after those of the ones before. -/
def sqlOfTerms (bound : Nat) : List Predicate → List String
  | [] => []
  | term :: rest => sql bound term :: sqlOfTerms (bound + (operands term).length) rest

end

/-- The text of a predicate, and the values bound once its operands are. -/
def render (bound : List Json) (predicate : Predicate) : String × List Json :=
  (predicate.sql bound.length, bound ++ predicate.operands)

end Predicate
end ClauseSql
