import ClauseSql.Path

/-!
# Document expressions

An update inside a JSON column is an expression on the document that the column holds.

## What is here

* `DocExpr` — expressions on JSON documents: names, literals, reading and setting at a path, and
  naming a value.
* `DocExpr.deepSet` — a value set at a path whose parents may be missing.  Only the last step of a
  path is created by setting, so every missing parent is set to an empty container first, an array
  when the step after it is an index.
-/

set_option autoImplicit false

namespace ClauseSql

/-- An expression on JSON documents. -/
inductive DocExpr where
  /-- A column, or a name given by `bind`. -/
  | name (name : String)
  /-- A JSON value. -/
  | literal (value : Json)
  /-- A document in the form that can be changed. -/
  | jsonb (inner : DocExpr)
  /-- A document in the plain form. -/
  | plain (inner : DocExpr)
  /-- A document, or a value where there is none. -/
  | orElse (inner : DocExpr) (fallback : Json)
  /-- What a document holds at a path. -/
  | extract (document : DocExpr) (path : List String)
  /-- A document with a value set at a path. -/
  | set (document : DocExpr) (path : List String) (value : DocExpr)
  /-- A body in which a name stands for a value. -/
  | bind (value : DocExpr) (name : String) (body : DocExpr)
deriving BEq, Repr

namespace DocExpr

/-- The name that a document goes by while its parents are created. -/
def documentName : String := "doc"

/-- The container that a missing parent of a segment becomes. -/
def emptyParent (segment : String) : Json := if isIndex segment then .array [] else .object []

/-- `target` with the parents along the segments present, the first of them below `done`.  Parents
that the document named `documentName` has are kept. -/
def withParents (target : DocExpr) (done : List String) : List String → DocExpr
  | [] => target
  | [_] => target
  | segment :: next :: rest =>
    let path := done ++ [segment]
    let parent := orElse (extract (.name documentName) path) (emptyParent next)
    withParents (set target path parent) path (next :: rest)

/-- The document with a value set at a path.  Every parent is read from one named document, so the
document itself is written once. -/
def deepSet (document : DocExpr) (segments : List String) (value : Json) : DocExpr :=
  match segments with
  | [] => set document [] (literal value)
  | [segment] => set document [segment] (literal value)
  | segments =>
    bind document documentName
      (set (withParents (.name documentName) [] segments) segments (literal value))

/-- The document of a column; the empty one where the column is NULL. -/
def ofColumn (column : Column) : DocExpr :=
  let name := DocExpr.name column.name
  orElse (if column.type = .json then jsonb name else name) (.object [])

/-- A document in the form that a column stores. -/
def toColumn (column : Column) (document : DocExpr) : DocExpr :=
  if column.type = .json then plain document else document

end DocExpr
end ClauseSql
