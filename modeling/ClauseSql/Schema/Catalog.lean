import ClauseSql.NameMap
import ClauseSql.Schema.Column

/-!
# Catalogs

## What is here

* `Relation` — a named relation from one table to another, with the columns that join them.
* `HiddenSource` — tells which columns a relation hides.  A table of them by the name of the relation
  (`HiddenColumns`) is one.
* `Catalog` — the known tables, the relations of each, and the columns that each relation hides.
  Every addition replaces what was known under the same name, as `Catalog.table?_addTable`,
  `Catalog.relation?_addRelation` and `Catalog.find?_setHidden` say.
-/

set_option autoImplicit false

namespace ClauseSql

/-- Whether a relation leads to one row or to many. -/
inductive RelationKind where
  | one
  | many
deriving DecidableEq, Repr

/-- The name of a kind of relation. -/
def RelationKind.name : RelationKind → String
  | .one => "one"
  | .many => "many"

/-- The columns that join two tables. -/
structure Join where
  sourceColumns : List String := []
  targetColumns : List String := []
deriving DecidableEq, Repr

/-- A relation of a table.  Its target is the name of a table. -/
structure Relation where
  name : String
  kind : RelationKind
  target : String
  join : Join := {}
deriving DecidableEq, Repr

/-- The columns that relations hide, by the name of the relation. -/
abbrev HiddenColumns := NameMap (List String)

/-- Tells the columns that a relation hides, if it knows of the relation. -/
structure HiddenSource where
  hidden? : Relation → Option (List String) := fun _ => none

instance : Coe HiddenColumns HiddenSource where
  coe hidden := ⟨fun relation => NameMap.find? relation.name hidden⟩

/-- Tables, their relations, and the columns that relations hide. -/
structure Catalog where
  tables : NameMap TableSchema := []
  relations : NameMap (NameMap Relation) := []
  hidden : HiddenColumns := []
deriving DecidableEq, Repr

namespace Catalog

/-- Adds a table. -/
def addTable (catalog : Catalog) (schema : TableSchema) : Catalog :=
  { catalog with tables := NameMap.insert schema.name schema catalog.tables }

/-- The relations of a table. -/
def relationsOf (catalog : Catalog) (table : String) : NameMap Relation :=
  (NameMap.find? table catalog.relations).getD []

/-- Adds a relation of a table. -/
def addRelation (catalog : Catalog) (table : String) (relation : Relation) : Catalog :=
  let relations := NameMap.insert relation.name relation (catalog.relationsOf table)
  { catalog with relations := NameMap.insert table relations catalog.relations }

/-- Sets the columns that a relation hides. -/
def setHidden (catalog : Catalog) (relation : String) (columns : List String) : Catalog :=
  { catalog with hidden := NameMap.insert relation columns catalog.hidden }

/-- The table of a name. -/
def table? (catalog : Catalog) (name : String) : Option TableSchema :=
  NameMap.find? name catalog.tables

/-- The relation of a table that has a name. -/
def relation? (catalog : Catalog) (table relation : String) : Option Relation :=
  NameMap.find? relation (catalog.relationsOf table)

theorem table?_addTable (catalog : Catalog) (schema : TableSchema) (name : String) :
    (catalog.addTable schema).table? name =
      if schema.name = name then some schema else catalog.table? name :=
  NameMap.find?_insert schema.name schema catalog.tables name

/-- The relations of the table are put back with one more, and those of other tables stay. -/
theorem relation?_addRelation (catalog : Catalog) (table : String) (relation : Relation)
    (source name : String) :
    (catalog.addRelation table relation).relation? source name =
      if table = source ∧ relation.name = name then some relation
      else catalog.relation? source name := by
  have hrelations : (catalog.addRelation table relation).relationsOf source =
      if table = source then NameMap.insert relation.name relation (catalog.relationsOf table)
      else catalog.relationsOf source := by
    rw [addRelation, relationsOf, NameMap.find?_insert]
    split <;> rfl
  rw [relation?, hrelations]
  by_cases htable : table = source
  · subst htable
    rw [if_pos rfl, NameMap.find?_insert, relation?]
    simp
  · rw [if_neg htable, if_neg (fun h => htable h.1), relation?]

theorem find?_setHidden (catalog : Catalog) (relation : String) (columns : List String)
    (name : String) :
    NameMap.find? name (catalog.setHidden relation columns).hidden =
      if relation = name then some columns else NameMap.find? name catalog.hidden :=
  NameMap.find?_insert relation columns catalog.hidden name

end Catalog
end ClauseSql
