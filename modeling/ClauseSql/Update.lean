import ClauseSql.Compiler
import ClauseSql.Document

/-!
# Updates

An update is a JSON object.  Its plain keys are columns to assign; its path keys are places inside
JSON columns to set, so that the rest of each document survives.

## What is here

* `Assignment` and `Assignment.read` — what one member of an update asks for.
* `Update.compile` — the columns assigned directly, in order, and a document expression for every
  column with path keys.  A column cannot have both.
* `Update.parse` — the members of the text of an update.
-/

set_option autoImplicit false

namespace ClauseSql

/-! ## Assignments -/

/-- What one member of an update asks for. -/
inductive Assignment where
  | direct (column : String) (value : Json)
  | inside (document : Column) (segments : List String) (value : Json)
deriving Repr

namespace Assignment

/-- What a member asks for. -/
def read (columns : ColumnSet) (key : String) (value : Json) : Except CompileError Assignment :=
  match Target.resolve columns .update key with
  | .error error => .error error
  | .ok (.column _) => .ok (.direct key value)
  | .ok (.path document segments) => .ok (.inside document segments value)

/-- What the members ask for, in order. -/
def readAll (columns : ColumnSet) : Members → Except CompileError (List Assignment)
  | [] => .ok []
  | (key, value) :: rest => do
    let here ← read columns key value
    let more ← readAll columns rest
    return here :: more

/-- The column assigned, if it is assigned directly. -/
def direct? : Assignment → Option (String × Json)
  | .direct column value => some (column, value)
  | .inside .. => none

/-- The column set inside of, if there is one. -/
def document? : Assignment → Option Column
  | .direct .. => none
  | .inside document .. => some document

/-- What is set inside a column of a name. -/
def inside? (column : String) : Assignment → Option (List String × Json)
  | .direct .. => none
  | .inside document segments value =>
    if document.name = column then some (segments, value) else none

end Assignment

/-! ## Updates -/

/-- A compiled update: the columns assigned directly, and the documents of the others. -/
structure Update where
  direct : Members := []
  documents : NameMap DocExpr := []
deriving Repr

namespace Update

/-- Whether an update changes nothing. -/
def isEmpty (update : Update) : Bool := update.direct.isEmpty && update.documents.isEmpty

/-- The document of a column with the given places set, in order. -/
def mergeDocument (column : Column) (places : List (List String × Json)) : DocExpr :=
  DocExpr.toColumn column
    (places.foldl (fun document place => document.deepSet place.1 place.2)
      (DocExpr.ofColumn column))

/-- The documents of the given columns, after those already in `done`, unless one of the columns is
assigned directly too. -/
def mergeColumns (table : String) (assignments : List Assignment) (done : NameMap DocExpr) :
    List Column → Except CompileError (NameMap DocExpr)
  | [] => .ok done
  | column :: rest =>
    if (assignments.filterMap Assignment.direct?).any fun entry => entry.1 == column.name then
      .error (.conflict table column.name)
    else
      let places := assignments.filterMap (Assignment.inside? column.name)
      mergeColumns table assignments
        (NameMap.insert column.name (mergeDocument column places) done) rest

/-- The update that the members of an object compile to. -/
def compile (columns : ColumnSet) (members : Members) : Except CompileError Update := do
  let assignments ← Assignment.readAll columns members
  let documents ← mergeColumns columns.table assignments []
    (assignments.filterMap Assignment.document?).eraseDups
  return ⟨assignments.filterMap Assignment.direct?, documents⟩

/-- The members of the text of an update, which must be an object. -/
def parse (maxBytes : Nat) (text : String) : Except CompileError Members := do
  match ← readBounded maxBytes text with
  | .object members => return members
  | value => throw (.text (.notUpdate value.kind))

end Update

namespace Compiler

open CompileM

/-- The update that the members of an object compile to, on a table. -/
def compileUpdate (schema : TableSchema) (members : Members) : CompileM Update := do
  let columns ← resolve schema
  check (Update.compile columns members)

/-- The update that a text compiles to, on a table. -/
def compileUpdateText (compiler : Compiler) (schema : TableSchema) (text : String) :
    CompileM Update := do
  warn (sizeWarnings compiler.limits.maxBytes text)
  let members ← check (Update.parse compiler.limits.maxBytes text)
  compileUpdate schema members

end Compiler
end ClauseSql
