import ClauseSql.Filter
import ClauseSql.Order
import ClauseSql.Projection
import ClauseSql.Schema.Catalog
import ClauseSql.Sql.Predicate

/-!
# Queries

What filters compile to.

## What is here

* `Query` — the compiled members of a filter, and `Related`, a compiled inclusion: all rows of a
  relation, or a query of its own.
* `Query.render` — the statement that selects the rows of a query, and its bind values.  Inclusions
  are no part of it.
-/

set_option autoImplicit false

namespace ClauseSql

/-- What is wanted of a relation. -/
inductive Related (α : Type) where
  /-- All rows and columns. -/
  | all
  /-- What a query of its own asks for. -/
  | scoped (query : α)
deriving Repr

/-- A compiled filter. -/
structure Query where
  limit : Option UInt64 := none
  offset : Option UInt64 := none
  order : Option (List OrderKey) := none
  condition : Option Predicate := none
  included : Option (List (String × Related Query)) := none
  projection : Option Projection := none
deriving Repr

namespace Query

/-- The names of the columns that a projection selects, in order of declaration. -/
def selected (columns : ColumnSet) (projection : Projection) : List String :=
  (columns.columns.filter fun column => (NameMap.find? column.name projection).getD false).map
    Column.name

/-- The list of what to select.  A projection must select a column. -/
def selectList (columns : ColumnSet) (projection : Option Projection) :
    Except CompileError String :=
  match projection with
  | none => .ok "*"
  | some projection =>
    match selected columns projection with
    | [] => .error (.projection columns.table .nothingKnown)
    | name :: rest => .ok (joined ", " ((name :: rest).map Sql.identifier))

/-- The condition of a statement. -/
def whereText : Option Predicate → String
  | none => ""
  | some condition => " WHERE " ++ condition.sql 0

/-- The order of a statement. -/
def orderText : Option (List OrderKey) → String
  | none => ""
  | some [] => ""
  | some (key :: rest) => " ORDER BY " ++ joined ", " ((key :: rest).map OrderKey.sql)

/-- The end of a statement. -/
def limitText (limit offset : Option UInt64) : String :=
  match limit, offset with
  | none, none => ""
  | limit, offset => " " ++ Sql.limitOffset limit offset

/-- The values that a statement binds. -/
def parameters (query : Query) : List Json :=
  match query.condition with
  | none => []
  | some condition => condition.operands

/-- The statement that selects the rows of a query. -/
def sql (columns : ColumnSet) (query : Query) : Except CompileError String := do
  let list ← selectList columns query.projection
  return "SELECT " ++ list ++ " FROM " ++ Sql.identifier columns.table ++
    whereText query.condition ++ orderText query.order ++ limitText query.limit query.offset

/-- The statement that selects the rows of a query, and the values it binds. -/
def render (columns : ColumnSet) (query : Query) : Except CompileError (String × List Json) := do
  let text ← query.sql columns
  return (text, query.parameters)

end Query
end ClauseSql
