import ClauseSql.Sql.Predicate
import ClauseSql.Update

/-!
# The SQL of updates

## What is here

* `DocExpr.sql` — the text of a document expression.  Its values are literals; nothing in it is
  bound.
* `Update.merges` — the text of every document of an update.
* `setClause` — the assignments of an update: directly assigned columns take bind parameters, the
  others their expressions.
-/

set_option autoImplicit false

namespace ClauseSql

/-- The text of a document expression. -/
def DocExpr.sql : DocExpr → String
  | .name column => Sql.identifier column
  | .literal value => Sql.jsonLiteral value
  | .jsonb inner => Sql.jsonb inner.sql
  | .plain inner => Sql.plainJson inner.sql
  | .orElse inner fallback => Sql.coalesce inner.sql fallback
  | .extract document path => Sql.extract document.sql path
  | .set document path value => Sql.setAt document.sql path value.sql
  | .bind value called body => Sql.bind value.sql called body.sql

/-! ## Set clauses -/

/-- The texts that assign values bound after `bound` others. -/
def directTexts (bound : Nat) : Members → List String
  | [] => []
  | (column, value) :: rest =>
    (Sql.identifier column ++ " = " ++ placeholderOf bound value) :: directTexts (bound + 1) rest

/-- The text that assigns an expression. -/
def mergeText (entry : String × String) : String := Sql.identifier entry.1 ++ " = " ++ entry.2

/-- The text of directly assigned columns, whose values are bound after `bound` others, and of
columns assigned an expression. -/
def setClause (bound : Nat) (direct : Members) (merges : List (String × String)) : String :=
  joined ", " (directTexts bound direct ++ merges.map mergeText)

namespace Update

/-- The text of every document of an update, in the order of columns. -/
def merges (update : Update) : NameMap String :=
  update.documents.map fun entry => (entry.1, entry.2.sql)

/-- The set clause of an update, and the values it binds. -/
def render (update : Update) : String × List Json :=
  (setClause 0 update.direct update.merges, update.direct.map Prod.snd)

end Update
end ClauseSql
