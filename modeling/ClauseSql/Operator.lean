/-!
# Operators

## What is here

* `Operator` — the operators of conditions, a closed list (`Operator.all`).
* `Operator.ofName?` — the operator that a name stands for.  Some operators have a second name.
* `Operator.isStructural` — `and` and `or`, which join clauses and are no conditions.
-/

set_option autoImplicit false

namespace ClauseSql

/-- An operator. -/
inductive Operator where
  | eq
  | ne
  | gt
  | gte
  | lt
  | lte
  | like
  | notLike
  | ilike
  | notIlike
  | is
  | isNot
  | oneOf
  | noneOf
  | between
  | regexp
  | iregexp
  | and
  | or
deriving DecidableEq, Repr

namespace Operator

/-- Every operator. -/
def all : List Operator :=
  [.eq, .ne, .gt, .gte, .lt, .lte, .like, .notLike, .ilike, .notIlike, .is, .isNot, .oneOf,
    .noneOf, .between, .regexp, .iregexp, .and, .or]

/-- The name of an operator. -/
def name : Operator → String
  | .eq => "eq"
  | .ne => "ne"
  | .gt => "gt"
  | .gte => "gte"
  | .lt => "lt"
  | .lte => "lte"
  | .like => "like"
  | .notLike => "nlike"
  | .ilike => "ilike"
  | .notIlike => "nilike"
  | .is => "is"
  | .isNot => "isn"
  | .oneOf => "in"
  | .noneOf => "nin"
  | .between => "between"
  | .regexp => "regexp"
  | .iregexp => "iregexp"
  | .and => "and"
  | .or => "or"

/-- The other names of an operator. -/
def aliases : Operator → List String
  | .ne => ["neq"]
  | .oneOf => ["inq"]
  | _ => []

/-- The operator that a name stands for. -/
def ofName? (word : String) : Option Operator :=
  all.find? fun operator => operator.name == word || operator.aliases.contains word

/-- Whether a name is that of an operator. -/
def isName (word : String) : Bool := (ofName? word).isSome

/-- Whether an operator joins clauses. -/
def isStructural : Operator → Bool
  | .and | .or => true
  | _ => false

/-- The number of operands of a range. -/
def rangeOperands : Nat := 2

/-- The number of operands, for an operator that demands one. -/
def operandCount? : Operator → Option Nat
  | .between => some rangeOperands
  | _ => none

/-- What an operator takes as its operand. -/
def operandDescription : Operator → String
  | .eq | .is | .ne | .isNot => "value or null"
  | .gt | .gte | .lt | .lte => "string, number or boolean"
  | .like | .notLike | .ilike | .notIlike => "pattern string"
  | .regexp | .iregexp => "regular expression string"
  | .oneOf | .noneOf => "array of values"
  | .between => "array of exactly 2 values"
  | .and | .or => "array of where clauses"

end Operator
end ClauseSql
