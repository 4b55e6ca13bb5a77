import ClauseSql.Json.Value
import ClauseSql.Schema.Column

/-!
# Expressions, predicates and order keys

What filters compile to, before any SQL is written.

## What is here

* `Expr` — what a condition or an order key looks at: a column, or a place inside a JSON document.
* `Predicate` — conditions on expressions, joined by `and` and `or`.  `Predicate.all` and
  `Predicate.any` join a list of them; nothing joined is no predicate, one is itself.
* `OrderKey` — an expression with the direction to order by it.
-/

set_option autoImplicit false

namespace ClauseSql

/-! ## Expressions -/

/-- A value that depends on the row. -/
inductive Expr where
  /-- A column. -/
  | column (name : String)
  /-- The text of what a JSON column holds at a path. -/
  | jsonText (column : String) (path : List String)
  /-- What a JSON column holds at a path. -/
  | jsonNative (column : String) (path : List String)
  /-- The number that a text spells, if it spells one. -/
  | safeNumeric (inner : Expr)
  /-- A JSON value in the form that has an order and an equality. -/
  | jsonb (inner : Expr)
deriving DecidableEq, Repr

/-- A column in a form that has an order and an equality. -/
def Column.comparable (column : Column) : Expr :=
  if column.type = .json then .jsonb (.column column.name) else .column column.name

/-! ## Predicates -/

/-- The comparisons of a value with an operand. -/
inductive Comparison where
  | eq
  | ne
  | gt
  | gte
  | lt
  | lte
deriving DecidableEq, Repr

/-- A condition on a row. -/
inductive Predicate where
  | compare (expr : Expr) (comparison : Comparison) (value : Json)
  | isNull (expr : Expr)
  | isNotNull (expr : Expr)
  | inList (expr : Expr) (values : List Json) (negated : Bool)
  | between (expr : Expr) (low high : Json)
  | like (expr : Expr) (pattern : String) (ignoreCase negated : Bool)
  | regex (expr : Expr) (pattern : String) (ignoreCase : Bool)
  | and (terms : List Predicate)
  | or (terms : List Predicate)
  | constant (value : Bool)
deriving BEq, Repr

namespace Predicate

/-- The predicate that holds when all of the terms do; none for no terms. -/
def all : List Predicate → Option Predicate
  | [] => none
  | [only] => some only
  | terms => some (.and terms)

/-- The predicate that holds when any of the terms does; none for no terms. -/
def any : List Predicate → Option Predicate
  | [] => none
  | [only] => some only
  | terms => some (.or terms)

mutual

/-- How deep `and` and `or` nest. -/
def depth : Predicate → Nat
  | .and terms => 1 + depthOfTerms terms
  | .or terms => 1 + depthOfTerms terms
  | _ => 0

/-- The depth of the deepest of the terms. -/
def depthOfTerms : List Predicate → Nat
  | [] => 0
  | term :: rest => max (depth term) (depthOfTerms rest)

end

end Predicate

/-! ## Order keys -/

/-- The direction of an order. -/
inductive Direction where
  | asc
  | desc
deriving DecidableEq, Repr

/-- The direction a word names, in any case of its letters. -/
def Direction.ofWord? (word : String) : Option Direction :=
  let letters := word.toList.map Char.toLower
  if letters = ['a', 's', 'c'] then some .asc
  else if letters = ['d', 'e', 's', 'c'] then some .desc
  else none

/-- An expression to order by. -/
structure OrderKey where
  expr : Expr
  direction : Direction
deriving DecidableEq, Repr

end ClauseSql
