import ClauseSql.Predicate
import ClauseSql.Schema.ColumnSet
import ClauseSql.Text.Words

/-!
# Paths into JSON columns

A key that contains a point or an opening bracket addresses a place inside a JSON column:
`metadata.tags[0]` is the column `metadata`, then the member `tags`, then the first item.

## What is here

* `JsonPath` and `JsonPath.parse` — the column and the segments of a key.  The segments are the runs
  of characters other than points and brackets.
* `isSegment` — the segments that are accepted: identifiers, which may contain hyphens, and indexes.
* `JsonPath.resolve` — the column and segments of a key, once everything about it was checked.
-/

set_option autoImplicit false

namespace ClauseSql

/-! ## Splitting keys -/

/-- The characters between the parts of a key. -/
def isDelimiter (c : Char) : Bool := c == '.' || c == '[' || c == ']'

/-- Whether a key addresses a place inside a column. -/
def isJsonPath (key : String) : Bool := key.toList.any fun c => c == '.' || c == '['

/-- A column and the segments of a path inside it. -/
structure JsonPath where
  column : String
  segments : List String
deriving DecidableEq, Repr

/-- The parts of a key.  Nothing about them is checked. -/
def JsonPath.parse (key : String) : JsonPath :=
  match Text.runs isDelimiter key with
  | [] => ⟨"", []⟩
  | column :: segments => ⟨column, segments⟩

/-! ## Segments -/

/-- An ASCII digit. -/
def isIndexChar (c : Char) : Bool := '0' ≤ c && c ≤ '9'

/-- A character that an identifier can begin with. -/
def isIdentifierStart (c : Char) : Bool :=
  ('A' ≤ c && c ≤ 'Z') || ('a' ≤ c && c ≤ 'z') || c == '_'

/-- A character that an identifier can go on with. -/
def isIdentifierPart (c : Char) : Bool := isIdentifierStart c || isIndexChar c || c == '-'

/-- Whether a segment is an index: one digit or more. -/
def isIndex (segment : String) : Bool :=
  !segment.toList.isEmpty && segment.toList.all isIndexChar

/-- Whether a segment is an identifier. -/
def isIdentifier (segment : String) : Bool :=
  match segment.toList with
  | [] => false
  | c :: rest => isIdentifierStart c && rest.all isIdentifierPart

/-- Whether a segment is accepted in a path. -/
def isSegment (segment : String) : Bool := isIdentifier segment || isIndex segment

namespace JsonPath

/-- The first segment that is not accepted. -/
def badSegment? (path : JsonPath) : Option String :=
  path.segments.find? fun segment => !isSegment segment

/-! ## Resolution -/

/-- What a key addresses, or what is wrong with it: a bad segment, an unknown column, a column that
holds no JSON, or a path without segments, whichever comes first in this list. -/
def resolve (columns : ColumnSet) (stage : Stage) (key : String) :
    Except CompileError (Column × List String) :=
  let path := parse key
  let place : Place := ⟨stage, columns.table, key⟩
  match path.badSegment? with
  | some segment => .error (.pathSegment place segment)
  | none =>
    match columns.find? path.column with
    | none => .error (.unknownColumn stage columns.table path.column)
    | some column =>
      if !column.type.isJson then .error (.notJson place column.name)
      else if path.segments.isEmpty then .error (.emptyPath place)
      else .ok (column, path.segments)

end JsonPath

/-! ## Targets -/

/-- What a condition or an order key is about: a column, or a place inside a JSON column. -/
inductive Target where
  | column (declared : Column)
  | path (document : Column) (segments : List String)
deriving DecidableEq, Repr

namespace Target

/-- The expression for null checks and patterns. -/
def text : Target → Expr
  | .column declared => .column declared.name
  | .path document segments => .jsonText document.name segments

/-- The expression that keeps the JSON value at a path, in a form that has an order. -/
def native (document : Column) (segments : List String) : Expr :=
  let expr := Expr.jsonNative document.name segments
  if document.type = .json then .jsonb expr else expr

/-- The expression for comparisons with numbers at a path. -/
def numeric (document : Column) (segments : List String) : Expr :=
  .safeNumeric (.jsonText document.name segments)

/-- The expression to order by. -/
def ordered : Target → Expr
  | .column declared => declared.comparable
  | .path document segments => native document segments

/-- What a key is about. -/
def resolve (columns : ColumnSet) (stage : Stage) (key : String) : Except CompileError Target :=
  if isJsonPath key then
    match JsonPath.resolve columns stage key with
    | .error error => .error error
    | .ok (document, segments) => .ok (.path document segments)
  else
    match columns.find? key with
    | none => .error (.unknownColumn stage columns.table key)
    | some declared => .ok (.column declared)

end Target
end ClauseSql
