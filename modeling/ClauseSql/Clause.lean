import ClauseSql.Condition

/-!
# Clauses

A clause is a JSON object whose members are conditions and logical groups, all of which must hold.
Compiling it keeps their order.

## What is here

* `Junction` — the two kinds of logical group.
* `operators?` — the members of a value when it is an object of operators.  Any other object is a
  literal.
* `compileEntries`, `compileEntry` and `compileMembers` — the predicates of the members of a clause,
  of one member, and of the clauses of a group.
* `Clause.compile` — the predicate of a clause; none when it asks for nothing.
-/

set_option autoImplicit false

namespace ClauseSql

/-- A clause: its keys with what they ask for, in order. -/
abbrev Clause := Members

/-! ## Groups and conditions -/

/-- A kind of logical group. -/
inductive Junction where
  | and
  | or
deriving DecidableEq, Repr

/-- The kind of group that a key opens. -/
def Junction.ofKey? (key : String) : Option Junction :=
  if key = "and" then some .and
  else if key = "or" then some .or
  else none

/-- The predicate of a group with the given members. -/
def Junction.join : Junction → List Predicate → Option Predicate
  | .and, terms => Predicate.all terms
  | .or, terms => Predicate.any terms

/-- The members of a value that is an object of operators: it has a member, and each of its names is
that of an operator. -/
def operators? (value : Json) : Option Members :=
  match value with
  | .object (member :: rest) =>
    if (member :: rest).all fun (name, _) => Operator.isName name then some (member :: rest) else none
  | _ => none

/-- The predicate of a named operator. -/
def compileOperator (place : Place) (target : Target) (name : String) (operand : Json) :
    Except CompileError Predicate :=
  match Operator.ofName? name with
  | none => .error (.misplacedOperator place name)
  | some operator => operator.build name target operand place

/-- The predicates of the members of an object of operators. -/
def compileOperators (place : Place) (target : Target) :
    Members → Except CompileError (List Predicate)
  | [] => .ok []
  | (name, operand) :: rest => do
    let predicate ← compileOperator place target name operand
    let more ← compileOperators place target rest
    return predicate :: more

/-- The operator that a literal stands for: an array is a list to be in, anything else a value to be
equal to. -/
def literalOperator : Json → Operator
  | .array _ => .oneOf
  | _ => .eq

/-- The predicates of what is asked of a target. -/
def compileCondition (place : Place) (target : Target) (value : Json) :
    Except CompileError (List Predicate) :=
  match operators? value with
  | some members => compileOperators place target members
  | none => do
    let operator := literalOperator value
    let predicate ← operator.build operator.name target value place
    return [predicate]

/-- The predicates of a member whose key is a column or a path. -/
def compileTarget (columns : ColumnSet) (key : String) (value : Json) :
    Except CompileError (List Predicate) := do
  let target ← Target.resolve columns .condition key
  compileCondition ⟨.condition, columns.table, key⟩ target value

/-! ## Clauses -/

mutual

/-- The predicates of the members of a clause. -/
def compileEntries (columns : ColumnSet) :
    List (String × Json) → Except CompileError (List Predicate)
  | [] => .ok []
  | (key, value) :: rest => do
    let here ← compileEntry columns key value
    let more ← compileEntries columns rest
    return here ++ more

/-- The predicates of one member of a clause.  A group makes one predicate or none; a single clause
stands for a list of one. -/
def compileEntry (columns : ColumnSet) (key : String) :
    Json → Except CompileError (List Predicate)
  | .array members =>
    match Junction.ofKey? key with
    | some junction => do
      let terms ← compileMembers columns key members
      return (junction.join terms).toList
    | none => compileTarget columns key (.array members)
  | .object clause =>
    match Junction.ofKey? key with
    | some junction => do
      let terms ← compileEntries columns clause
      return (junction.join (Predicate.all terms).toList).toList
    | none => compileTarget columns key (.object clause)
  | value =>
    match Junction.ofKey? key with
    | some _ => .error (.group columns.table key .notList)
    | none => compileTarget columns key value

/-- The predicates of the clauses of a group; a clause that asks for nothing has none. -/
def compileMembers (columns : ColumnSet) (key : String) :
    List Json → Except CompileError (List Predicate)
  | [] => .ok []
  | .object clause :: rest => do
    let terms ← compileEntries columns clause
    let more ← compileMembers columns key rest
    return (Predicate.all terms).toList ++ more
  | _ :: _ => .error (.group columns.table key .memberNotObject)

end

/-- A value that is neither an array nor an object opens no group, whatever its kind. -/
theorem compileEntry_of_not_isStructured {columns : ColumnSet} {key : String} {value : Json}
    (hv : value.isStructured = false) :
    compileEntry columns key value =
      match Junction.ofKey? key with
      | some _ => .error (.group columns.table key .notList)
      | none => compileTarget columns key value := by
  cases value with
  | array items => exact absurd hv (Ne.symm Bool.false_ne_true)
  | object members => exact absurd hv (Ne.symm Bool.false_ne_true)
  | _ =>
    unfold compileEntry
    cases Junction.ofKey? key <;> rfl

/-- The predicate of a clause; none when it asks for nothing. -/
def Clause.compile (columns : ColumnSet) (clause : Clause) :
    Except CompileError (Option Predicate) := do
  let terms ← compileEntries columns clause
  return Predicate.all terms

end ClauseSql
