import ClauseSql.Json.Fault

/-!
# Errors and warnings

Compilation stops at the first error.  An error says what is wrong and where: the stage it arose in,
the table, and the offending key.  Warnings tell of input that was ignored; they stop nothing.

## What is here

* `CompileError` — the causes of failure, with their wording (`CompileError.message`), their codes
  (`CompileError.code`), the stage that raises each (`CompileError.stage`) and the status that an
  interface answers with (`CompileError.status`).
* `Warning` — what was ignored, with its wording and the values it names.
-/

set_option autoImplicit false

namespace ClauseSql

/-! ## Places -/

/-- The stage of compilation that an error arises in. -/
inductive Stage where
  | schema
  | condition
  | order
  | fields
  | include
  | update
  | parse
deriving DecidableEq, Repr

/-- The name of a stage. -/
def Stage.name : Stage → String
  | .schema => "schema"
  | .condition => "where"
  | .order => "order"
  | .fields => "fields"
  | .include => "include"
  | .update => "update"
  | .parse => "parse"

/-- Where a key stands: the stage that reads it, and the table it is read against. -/
structure Place where
  stage : Stage
  table : String
  key : String
deriving DecidableEq, Repr

/-! ## Causes in detail -/

/-- What is wrong with the operand of an operator. -/
inductive OperandFault where
  | notScalar
  | notPattern
  | notRegularExpression
  | notList
  | listItemNotScalar
  | boundNotScalar
deriving DecidableEq, Repr

/-- What is wrong with a logical group. -/
inductive GroupFault where
  | notList
  | memberNotObject
deriving DecidableEq, Repr

/-- What is wrong with a projection. -/
inductive ProjectionFault where
  | nameNotString
  | notListOrMap
  | nothingVisible
  | nothingKnown
deriving DecidableEq, Repr

/-- What is wrong with an inclusion. -/
inductive InclusionFault where
  | misshapen (cause : Misshapen)
  | notNameOrObject
deriving DecidableEq, Repr

/-- What is wrong with the text of a filter or an update. -/
inductive TextFault where
  | json (fault : Fault)
  | notFilter (kind : String)
  | notUpdate (kind : String)
deriving DecidableEq, Repr

/-! ## Errors -/

/-- The causes that compilation fails with. -/
inductive CompileError where
  | unknownColumn (stage : Stage) (table column : String)
  | emptySchema (table : String)
  | misplacedOperator (place : Place) (operator : String)
  | operandCount (place : Place) (operator : String) (expected actual : Nat)
  | operand (place : Place) (operator : String) (cause : OperandFault)
  | pathSegment (place : Place) (segment : String)
  | notJson (place : Place) (column : String)
  | emptyPath (place : Place)
  | direction (table key word : String)
  | unknownRelation (table relation : String)
  | inclusion (table : String) (cause : InclusionFault)
  | inclusionDepth (table relation : String) (limit : Nat)
  | group (table key : String) (cause : GroupFault)
  | projection (table : String) (cause : ProjectionFault)
  | conflict (table column : String)
  | text (cause : TextFault)
  | oversized (limit : Nat)
deriving DecidableEq, Repr

/-- The wording of an operand's fault. -/
def OperandFault.message : OperandFault → String
  | .notScalar => "expected a string, number or boolean"
  | .notPattern => "expected a pattern string"
  | .notRegularExpression => "expected a regular expression string"
  | .notList => "expected an array of values"
  | .listItemNotScalar => "list elements must be strings, numbers or booleans"
  | .boundNotScalar => "bounds must be strings, numbers or booleans"

/-- The wording of a logical group's fault. -/
def GroupFault.message : GroupFault → String
  | .notList => "logical group expects an array of clauses"
  | .memberNotObject => "logical group members must be objects"

/-- The wording of a projection's fault. -/
def ProjectionFault.message : ProjectionFault → String
  | .nameNotString => "field names must be strings"
  | .notListOrMap => "expected an array of names or a name to boolean map"
  | .nothingVisible => "no visible fields requested"
  | .nothingKnown => "projection selects no known columns"

/-- The wording of an inclusion's fault. -/
def InclusionFault.message : InclusionFault → String
  | .misshapen cause => cause.message
  | .notNameOrObject => "expected a relation name or \x7brelation, scope\x7d object"

/-- The wording of a text's fault. -/
def TextFault.message : TextFault → String
  | .json fault => fault.message
  | .notFilter kind => "expected a filter object, got " ++ kind
  | .notUpdate kind => "expected an update object, got " ++ kind

namespace CompileError

/-- The code of an error, which never changes. -/
def code : CompileError → String
  | .unknownColumn .. => "COLUMN_NOT_FOUND"
  | .emptySchema .. => "SCHEMA_EMPTY"
  | .misplacedOperator .. => "INVALID_OPERATOR"
  | .operandCount .. => "INVALID_OPERATOR_ARITY"
  | .operand .. => "INVALID_OPERAND"
  | .pathSegment .. => "INVALID_JSON_PATH_COMPONENT"
  | .notJson .. => "NON_JSON_COLUMN"
  | .emptyPath .. => "EMPTY_JSON_PATH"
  | .direction .. => "INVALID_DIRECTION"
  | .unknownRelation .. => "RELATION_NOT_FOUND"
  | .inclusion .. => "INVALID_INCLUDE_FORMAT"
  | .inclusionDepth .. => "INCLUSION_TOO_DEEP"
  | .group .. => "INVALID_WHERE_CLAUSE"
  | .projection .. => "INVALID_FIELDS"
  | .conflict .. => "CONFLICTING_UPDATE"
  | .text .. => "INVALID_FILTER_JSON"
  | .oversized .. => "FILTER_JSON_TOO_LARGE"

/-- The stage that raises an error. -/
def stage : CompileError → Stage
  | .unknownColumn stage .. => stage
  | .misplacedOperator place .. | .operandCount place .. | .operand place .. | .pathSegment place ..
  | .notJson place .. | .emptyPath place => place.stage
  | .emptySchema .. => .schema
  | .direction .. => .order
  | .unknownRelation .. | .inclusion .. | .inclusionDepth .. => .include
  | .group .. => .condition
  | .projection .. => .fields
  | .conflict .. => .update
  | .text .. | .oversized .. => .parse

/-- The status that an interface answers with: an empty schema is a fault of the declaration, all
else a fault of the request. -/
def status : CompileError → Nat
  | .emptySchema .. => 500
  | _ => 400

/-- The wording of an error. -/
def message : CompileError → String
  | .unknownColumn stage table column =>
    stage.name ++ ": column '" ++ column ++ "' not found in table '" ++ table ++ "'"
  | .emptySchema table => "schema: table '" ++ table ++ "' declares no columns"
  | .misplacedOperator place operator =>
    place.stage.name ++ ": invalid operator '" ++ operator ++ "' on key '" ++ place.key ++
      "' in table '" ++ place.table ++ "'"
  | .operandCount place operator expected actual =>
    place.stage.name ++ ": operator '" ++ operator ++ "' on key '" ++ place.key ++ "' in table '" ++
      place.table ++ "' expects " ++ toString expected ++ " operands, got " ++ toString actual
  | .operand place operator cause =>
    place.stage.name ++ ": invalid operand for operator '" ++ operator ++ "' on key '" ++
      place.key ++ "' in table '" ++ place.table ++ "': " ++ cause.message
  | .pathSegment place segment =>
    place.stage.name ++ ": invalid JSON path component '" ++ segment ++ "' in key '" ++ place.key ++
      "' for table '" ++ place.table ++ "'"
  | .notJson place column =>
    place.stage.name ++ ": column '" ++ column ++ "' in table '" ++ place.table ++
      "' is not a JSON column (key '" ++ place.key ++ "')"
  | .emptyPath place =>
    place.stage.name ++ ": JSON path '" ++ place.key ++ "' in table '" ++ place.table ++
      "' has no components"
  | .direction table key word =>
    "order: invalid direction '" ++ word ++ "' for '" ++ key ++ "' in table '" ++ table ++
      "' (expected ASC or DESC)"
  | .unknownRelation table relation =>
    "include: relation '" ++ relation ++ "' not found on table '" ++ table ++ "'"
  | .inclusion table cause =>
    "include: invalid inclusion on table '" ++ table ++ "': " ++ cause.message
  | .inclusionDepth table relation limit =>
    "include: relation '" ++ relation ++ "' on table '" ++ table ++
      "' exceeds maximum inclusion depth " ++ toString limit
  | .group table key cause =>
    "where: invalid clause for key '" ++ key ++ "' in table '" ++ table ++ "': " ++ cause.message
  | .projection table cause =>
    "fields: invalid projection for table '" ++ table ++ "': " ++ cause.message
  | .conflict table column =>
    "update: column '" ++ column ++ "' in table '" ++ table ++
      "' is assigned both directly and by JSON path"
  | .text cause => "parse: invalid filter JSON: " ++ cause.message
  | .oversized limit =>
    "parse: filter JSON exceeds maximum size of " ++ toString limit ++ " bytes"

end CompileError

/-! ## Warnings -/

/-- What was ignored, or will not do what its author may expect. -/
inductive Warning where
  | repeatedColumn (table column : String)
  | blankOrder (table : String)
  | projectionEntry (table field : String) (value : Json)
  | oversized (size limit : Nat)
  | unknownSettings (names : List String)
  | noInclusions
deriving Repr

namespace Warning

/-- The wording of a warning. -/
def message : Warning → String
  | .repeatedColumn .. => "Duplicate column declaration ignored"
  | .blankOrder .. => "Blank order entry ignored"
  | .projectionEntry .. => "Non-true field projection entry ignored"
  | .oversized .. => "Filter JSON exceeds size limit"
  | .unknownSettings .. => "Unknown fields in config file (possible typos)"
  | .noInclusions => "compiler.max_inclusion_depth is 0, every include will be rejected"

/-- The values a warning names, each under its own name. -/
def fields : Warning → List (String × String)
  | .repeatedColumn table column => [("table", table), ("column", column)]
  | .blankOrder table => [("table", table)]
  | .projectionEntry table field value =>
    [("table", table), ("field", field), ("value", value.compact)]
  | .oversized size limit => [("size", toString size), ("max", toString limit)]
  | .unknownSettings names => [("fields", joined ", " names)]
  | .noInclusions => []

end Warning
end ClauseSql
