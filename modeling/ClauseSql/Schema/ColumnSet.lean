import ClauseSql.Error
import ClauseSql.NameMap
import ClauseSql.Schema.Column

/-!
# Resolved columns

Keys are looked up in the resolved columns of a table: its declared columns without the repeated
ones.  Of two columns of one name the first declaration counts.

A look-up goes by a map from names to positions.  The columns and the map grow together, and since
repeated columns are left out, positions count the columns that were kept and not the declarations.

## What is here

* `ColumnIndex` — columns with the positions of their names, which `ColumnIndex.ofList` builds one
  column after the other.
* `ColumnSet` — the resolved columns of a table, with `ColumnSet.find?` and `ColumnSet.ofSchema`,
  which refuses a table without columns.
* `ColumnSet.warnings` — the repeated declarations that were ignored.
* `ColumnCache` — the columns of every table resolved so far.  The first resolution of a name stands.
-/

set_option autoImplicit false

namespace ClauseSql

/-! ## The index -/

/-- Columns in order, and the position of the column of each name. -/
structure ColumnIndex where
  columns : List Column := []
  positions : NameMap Nat := []
deriving DecidableEq, Repr

namespace ColumnIndex

/-- Adds a column at the end.  A column of a name that is there already is left out. -/
def add (index : ColumnIndex) (column : Column) : ColumnIndex :=
  match NameMap.find? column.name index.positions with
  | some _ => index
  | none =>
    ⟨index.columns ++ [column],
      NameMap.insert column.name index.columns.length index.positions⟩

/-- The index of some columns, the first one of each name. -/
def ofList (columns : List Column) : ColumnIndex := columns.foldl add {}

/-- The column at the position of a name. -/
def find? (index : ColumnIndex) (name : String) : Option Column :=
  match NameMap.find? name index.positions with
  | none => none
  | some position => index.columns[position]?

/-- Whether there is a position of a name. -/
def contains (index : ColumnIndex) (name : String) : Bool :=
  (NameMap.find? name index.positions).isSome

end ColumnIndex

/-! ## The columns of a table -/

/-- The resolved columns of a table, in order of declaration. -/
structure ColumnSet where
  table : String
  columns : List Column
deriving DecidableEq, Repr

namespace ColumnSet

/-- The index that names are looked up in. -/
def index (set : ColumnSet) : ColumnIndex := .ofList set.columns

/-- The column of a name. -/
def find? (set : ColumnSet) (name : String) : Option Column := set.index.find? name

/-- Whether a name is that of a column. -/
def contains (set : ColumnSet) (name : String) : Bool := set.index.contains name

/-- The resolved columns of a table, which must have one. -/
def ofSchema (schema : TableSchema) : Except CompileError ColumnSet :=
  match (ColumnIndex.ofList schema.columns).columns with
  | [] => .error (.emptySchema schema.name)
  | column :: rest => .ok ⟨schema.name, column :: rest⟩

/-- The names, after those in `seen`, of columns that repeat an earlier name. -/
def repeated (seen : List String) : List Column → List String
  | [] => []
  | column :: rest =>
    if column.name ∈ seen then column.name :: repeated seen rest
    else repeated (column.name :: seen) rest

/-- The declarations that resolving a table ignores. -/
def warnings (schema : TableSchema) : List Warning :=
  (repeated [] schema.columns).map (.repeatedColumn schema.name)

end ColumnSet

/-! ## The cache -/

/-- The columns of the tables resolved so far, by table name. -/
abbrev ColumnCache := NameMap ColumnSet

/-- The columns of a table: those already known under its name, or else those it declares, which are
then known.  A failure leaves the cache as it is. -/
def ColumnCache.resolve (cache : ColumnCache) (schema : TableSchema) :
    Except CompileError ColumnSet × ColumnCache :=
  match NameMap.find? schema.name cache with
  | some set => (.ok set, cache)
  | none =>
    match ColumnSet.ofSchema schema with
    | .error error => (.error error, cache)
    | .ok set => (.ok set, NameMap.insert schema.name set cache)

/-- The number of tables whose columns are known. -/
def ColumnCache.cachedTables (cache : ColumnCache) : Nat := cache.length

end ClauseSql
