/-!
# Columns and tables

## What is here

* `ColumnType` — the types a column can be declared with.  Only `json` and `jsonb` columns can be
  addressed by a path, and a plain `json` value has neither an order nor an equality.
* `Column` and `TableSchema` — declared columns, and a table as the list of them.
-/

set_option autoImplicit false

namespace ClauseSql

/-- The type of a column. -/
inductive ColumnType where
  | text
  | integer
  | bigint
  | numeric
  | double
  | boolean
  | date
  | timestamp
  | uuid
  | json
  | jsonb
deriving DecidableEq, Repr

namespace ColumnType

/-- Whether values of the type are JSON documents. -/
def isJson : ColumnType → Bool
  | .json | .jsonb => true
  | _ => false

/-- The name of the type. -/
def name : ColumnType → String
  | .text => "text"
  | .integer => "integer"
  | .bigint => "bigint"
  | .numeric => "numeric"
  | .double => "double"
  | .boolean => "boolean"
  | .date => "date"
  | .timestamp => "timestamp"
  | .uuid => "uuid"
  | .json => "json"
  | .jsonb => "jsonb"

/-- The names a declaration may use, each with the type it stands for. -/
def spellings : List (String × ColumnType) := [
  ("string", .text), ("text", .text), ("varchar", .text),
  ("int", .integer), ("int4", .integer), ("integer", .integer),
  ("bigint", .bigint), ("int8", .bigint),
  ("decimal", .numeric), ("numeric", .numeric),
  ("double", .double), ("float8", .double), ("real", .double),
  ("bool", .boolean), ("boolean", .boolean),
  ("date", .date),
  ("timestamp", .timestamp), ("timestamptz", .timestamp),
  ("uuid", .uuid), ("json", .json), ("jsonb", .jsonb)]

end ColumnType

/-- A declared column. -/
structure Column where
  name : String
  type : ColumnType
deriving DecidableEq, Repr

/-- A declared table.  Its name identifies it. -/
structure TableSchema where
  name : String
  columns : List Column
deriving DecidableEq, Repr

end ClauseSql
