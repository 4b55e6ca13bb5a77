import ClauseSql.Json.Reader.Record
import ClauseSql.Schema.Catalog

/-!
# Declarations of tables and relations

Catalogs are declared in JSON.  A table lists its columns and its relations; what relations hide is
declared beside the tables.  Members that nobody knows are passed over, except those of the catalog
itself.

## What is here

* `ColumnType.reader`, `Column.reader`, `TableSchema.reader`, `Relation.reader` — the readers of the
  parts of a catalog.
* `Catalog.reader` — the catalog that a declaration describes: its tables and their relations, added
  in order.
-/

set_option autoImplicit false

namespace ClauseSql

open Reader (Field RecordShape required)

/-! ## Columns and tables -/

/-- Reads the type of a column. -/
def ColumnType.reader : Reader ColumnType := Reader.variant ColumnType.spellings

namespace Column

/-- The members of a column as they are read. -/
structure Draft where
  name : Option String := none
  type : Option ColumnType := none

/-- The members of a column.  Its type can also be called `type`. -/
def shape : RecordShape Draft where
  name := "struct Column"
  fields := [
    .kept ["name"] Draft.name (fun draft name => { draft with name := some name }) Reader.text,
    .kept ["dataType", "type"] Draft.type (fun draft type => { draft with type := some type })
      ColumnType.reader]

/-- The column that was read. -/
def ofDraft (draft : Draft) : Except Misshapen Column := do
  let name ← required "name" draft.name
  let type ← required "dataType" draft.type
  return ⟨name, type⟩

/-- Reads a column. -/
def reader : Reader Column := (shape.reader {}).check ofDraft

end Column

namespace TableSchema

/-- The members of a table as they are read. -/
structure Draft where
  name : Option String := none
  columns : Option (List Column) := none

/-- The members of a table. -/
def shape : RecordShape Draft where
  name := "struct TableSchema"
  fields := [
    .kept ["name"] Draft.name (fun draft name => { draft with name := some name }) Reader.text,
    .kept ["columns"] Draft.columns (fun draft columns => { draft with columns := some columns })
      (Reader.list Column.reader)]

/-- The table that was read. -/
def ofDraft (draft : Draft) : Except Misshapen TableSchema := do
  let name ← required "name" draft.name
  let columns ← required "columns" draft.columns
  return ⟨name, columns⟩

/-- Reads a table. -/
def reader : Reader TableSchema := (shape.reader {}).check ofDraft

end TableSchema

/-! ## Relations -/

/-- Reads the kind of a relation. -/
def RelationKind.reader : Reader RelationKind :=
  Reader.variant [(RelationKind.one.name, .one), (RelationKind.many.name, .many)]

namespace Join

/-- The members of a join as they are read. -/
structure Draft where
  sourceColumns : Option (List String) := none
  targetColumns : Option (List String) := none

/-- The members of a join, all of which can be left out. -/
def shape : RecordShape Draft where
  name := "struct JoinMetadata"
  fields := [
    .kept ["sourceColumns"] Draft.sourceColumns
      (fun draft columns => { draft with sourceColumns := some columns })
      (Reader.list Reader.text) true,
    .kept ["targetColumns"] Draft.targetColumns
      (fun draft columns => { draft with targetColumns := some columns })
      (Reader.list Reader.text) true]

/-- The join that was read. -/
def ofDraft (draft : Draft) : Join := ⟨draft.sourceColumns.getD [], draft.targetColumns.getD []⟩

/-- Reads a join. -/
def reader : Reader Join := (shape.reader {}).map ofDraft

end Join

namespace Relation

/-- The members of a relation as they are read. -/
structure Draft where
  name : Option String := none
  kind : Option RelationKind := none
  target : Option String := none
  join : Option Join := none

/-- The members of a relation.  The join can be left out. -/
def shape : RecordShape Draft where
  name := "struct RelationConfig"
  fields := [
    .kept ["name"] Draft.name (fun draft name => { draft with name := some name }) Reader.text,
    .kept ["kind"] Draft.kind (fun draft kind => { draft with kind := some kind })
      RelationKind.reader,
    .kept ["target"] Draft.target (fun draft target => { draft with target := some target })
      Reader.text,
    .kept ["join"] Draft.join (fun draft join => { draft with join := some join }) Join.reader true]

/-- The relation that was read. -/
def ofDraft (draft : Draft) : Except Misshapen Relation := do
  let name ← required "name" draft.name
  let kind ← required "kind" draft.kind
  let target ← required "target" draft.target
  return ⟨name, kind, target, draft.join.getD {}⟩

/-- Reads a relation. -/
def reader : Reader Relation := (shape.reader {}).check ofDraft

end Relation

/-! ## Catalogs -/

/-- A table together with its relations. -/
structure TableDeclaration where
  schema : TableSchema
  relations : List Relation
deriving Repr

namespace TableDeclaration

/-- The members of a table declaration as they are read. -/
structure Draft where
  name : Option String := none
  columns : Option (List Column) := none
  relations : Option (List Relation) := none

/-- The members of a table declaration.  The relations can be left out. -/
def shape : RecordShape Draft where
  name := "struct TableDefinition"
  fields := [
    .kept ["name"] Draft.name (fun draft name => { draft with name := some name }) Reader.text,
    .kept ["columns"] Draft.columns (fun draft columns => { draft with columns := some columns })
      (Reader.list Column.reader),
    .kept ["relations"] Draft.relations
      (fun draft relations => { draft with relations := some relations })
      (Reader.list Relation.reader) true]

/-- The table declaration that was read. -/
def ofDraft (draft : Draft) : Except Misshapen TableDeclaration := do
  let name ← required "name" draft.name
  let columns ← required "columns" draft.columns
  return ⟨⟨name, columns⟩, draft.relations.getD []⟩

/-- Reads a table declaration. -/
def reader : Reader TableDeclaration := (shape.reader {}).check ofDraft

end TableDeclaration

namespace Catalog

/-- Adds a table and then its relations. -/
def addDeclaration (catalog : Catalog) (declaration : TableDeclaration) : Catalog :=
  declaration.relations.foldl
    (fun catalog relation => catalog.addRelation declaration.schema.name relation)
    (catalog.addTable declaration.schema)

/-- The catalog of some table declarations and the columns that relations hide. -/
def ofDeclarations (declarations : List TableDeclaration) (hidden : HiddenColumns) : Catalog :=
  { declarations.foldl addDeclaration {} with hidden }

/-- The members of a catalog as they are read. -/
structure Draft where
  tables : Option (List TableDeclaration) := none
  hidden : Option HiddenColumns := none

/-- The members of a catalog.  It has no others, and what is hidden can be left out. -/
def shape : RecordShape Draft where
  name := "struct CatalogDefinition"
  fields := [
    .kept ["tables"] Draft.tables (fun draft tables => { draft with tables := some tables })
      (Reader.list TableDeclaration.reader),
    .kept ["hiddenProperties"] Draft.hidden (fun draft hidden => { draft with hidden := some hidden })
      (Reader.nameMap (Reader.list Reader.text)) true]
  unknown := .refuse

/-- The catalog that was read. -/
def ofDraft (draft : Draft) : Except Misshapen Catalog := do
  let tables ← required "tables" draft.tables
  return ofDeclarations tables (draft.hidden.getD [])

/-- Reads a catalog. -/
def reader : Reader Catalog := (shape.reader {}).check ofDraft

end Catalog
end ClauseSql
