import ClauseSql.Operator
import ClauseSql.Path

/-!
# Conditions

A condition is an operator applied to a target and an operand.

## What is here

* `Target.compare`, `Target.listExpr` and `Target.listValue` — how operands meet a target.  Numbers
  at a path compare as numbers, other scalars as text, arrays and objects as JSON.
* `Operator.build` — the predicate of a condition, or what is wrong with its operand.
-/

set_option autoImplicit false

namespace ClauseSql

namespace Target

/-- A comparison with one operand. -/
def compare (target : Target) (comparison : Comparison) (operand : Json) : Predicate :=
  match target with
  | .column declared =>
    if operand.isStructured then .compare declared.comparable comparison operand
    else .compare (.column declared.name) comparison operand
  | .path document segments =>
    if operand.isNumber then .compare (numeric document segments) comparison operand
    else if operand.isStructured then .compare (native document segments) comparison operand
    else .compare target.text comparison operand.asText

/-- The expression that a list or a range of operands is compared with.  At a path the operands are
numbers when all of them are, and texts otherwise. -/
def listExpr (target : Target) (operands : List Json) : Expr :=
  match target with
  | .column declared => .column declared.name
  | .path document segments =>
    if operands.all Json.isNumber then numeric document segments else target.text

/-- One operand of a list or a range, as it is bound. -/
def listValue (target : Target) (operands : List Json) (operand : Json) : Json :=
  match target with
  | .column _ => operand
  | .path .. => if operands.all Json.isNumber then operand else operand.asText

end Target

namespace Operator

/-- An equality or its negation; null operands become null checks. -/
def buildEquality (negated : Bool) (target : Target) : Json → Predicate
  | .null => if negated then .isNotNull target.text else .isNull target.text
  | operand => target.compare (if negated then .ne else .eq) operand

/-- An order comparison, which takes a scalar. -/
def buildComparison (comparison : Comparison) (name : String) (target : Target) (operand : Json)
    (place : Place) : Except CompileError Predicate :=
  if operand.isScalar then .ok (target.compare comparison operand)
  else .error (.operand place name .notScalar)

/-- A pattern match, which takes a string. -/
def buildLike (ignoreCase negated : Bool) (name : String) (target : Target) (operand : Json)
    (place : Place) : Except CompileError Predicate :=
  match operand with
  | .string pattern => .ok (.like target.text pattern ignoreCase negated)
  | _ => .error (.operand place name .notPattern)

/-- A regular expression match, which takes a string. -/
def buildRegex (ignoreCase : Bool) (name : String) (target : Target) (operand : Json)
    (place : Place) : Except CompileError Predicate :=
  match operand with
  | .string pattern => .ok (.regex target.text pattern ignoreCase)
  | _ => .error (.operand place name .notRegularExpression)

/-- The values of a list operand; a scalar is a list of one. -/
def listValues? (operand : Json) : Option (List Json) :=
  match operand with
  | .array values => some values
  | value => if value.isScalar then some [value] else none

/-- Membership in a list of scalars or its negation.  The empty list has no members, so it makes a
constant. -/
def buildList (negated : Bool) (name : String) (target : Target) (operand : Json) (place : Place) :
    Except CompileError Predicate :=
  match listValues? operand with
  | none => .error (.operand place name .notList)
  | some [] => .ok (.constant negated)
  | some (value :: rest) =>
    if (value :: rest).all Json.isScalar then
      .ok (.inList (target.listExpr (value :: rest))
        ((value :: rest).map (target.listValue (value :: rest))) negated)
    else .error (.operand place name .listItemNotScalar)

/-- The number of operands that a range was given. -/
def rangeLength : Json → Nat
  | .array values => values.length
  | .null => 0
  | _ => 1

/-- A range between two scalars. -/
def buildRange (name : String) (target : Target) (operand : Json) (place : Place) :
    Except CompileError Predicate :=
  match operand with
  | .array [low, high] =>
    if low.isScalar && high.isScalar then
      .ok (.between (target.listExpr [low, high]) (target.listValue [low, high] low)
        (target.listValue [low, high] high))
    else .error (.operand place name .boundNotScalar)
  | _ => .error (.operandCount place name rangeOperands (rangeLength operand))

/-- The predicate of an operator, spelled `name`, applied to a target and an operand. -/
def build (operator : Operator) (name : String) (target : Target) (operand : Json)
    (place : Place) : Except CompileError Predicate :=
  match operator with
  | .eq | .is => .ok (buildEquality false target operand)
  | .ne | .isNot => .ok (buildEquality true target operand)
  | .gt => buildComparison .gt name target operand place
  | .gte => buildComparison .gte name target operand place
  | .lt => buildComparison .lt name target operand place
  | .lte => buildComparison .lte name target operand place
  | .like => buildLike false false name target operand place
  | .notLike => buildLike false true name target operand place
  | .ilike => buildLike true false name target operand place
  | .notIlike => buildLike true true name target operand place
  | .regexp => buildRegex false name target operand place
  | .iregexp => buildRegex true name target operand place
  | .oneOf => buildList false name target operand place
  | .noneOf => buildList true name target operand place
  | .between => buildRange name target operand place
  | .and | .or => .error (.misplacedOperator place name)

end Operator
end ClauseSql
