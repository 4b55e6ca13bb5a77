import ClauseSql.Json.Text

/-!
# Pieces of PostgreSQL text

SQL text is put together from the pieces of this file and nothing else.  Names and literals that come
from outside stand between quotes, with the quote itself doubled; backslashes are ordinary
characters.

## What is here

* `Sql.identifier` and `Sql.literal` — quoted names and quoted strings.
* `Sql.pathLiteral` — a path as the literal of a text array.
* `Sql.extractText`, `Sql.extract`, `Sql.safeNumeric`, `Sql.jsonb`, `Sql.jsonLiteral`,
  `Sql.coalesce`, `Sql.setAt`, `Sql.bind` — the expressions on JSON documents.
* `Sql.placeholder`, `Sql.limitOffset` — bind parameters and the end of a statement.
-/

set_option autoImplicit false

namespace ClauseSql
namespace Sql

/-- The name of the dialect. -/
def dialect : String := "postgres"

/-! ## Quoting -/

/-- Writes a quote character twice and every other character once. -/
def doubleQuotes (quote : Char) (s : List Char) : List Char :=
  s.flatMap fun c => if c = quote then [quote, quote] else [c]

/-- A text between quotes. -/
def quoted (quote : Char) (s : String) : String :=
  String.ofList (quote :: (doubleQuotes quote s.toList ++ [quote]))

/-- The name of a column or a table. -/
def identifier (name : String) : String := quoted '"' name

/-- A string literal. -/
def literal (s : String) : String := quoted '\'' s

/-! ## Paths -/

/-- An element of an array literal, in quotes so that no element reads as a null. -/
def arrayElement (element : String) : String := "\"" ++ element ++ "\""

/-- The text of an array of texts. -/
def arrayText (elements : List String) : String :=
  "\x7b" ++ joined "," (elements.map arrayElement) ++ "\x7d"

/-- A path as a literal. -/
def pathLiteral (path : List String) : String := literal (arrayText path)

/-- The text of what a document holds at a path. -/
def extractText (document : String) (path : List String) : String :=
  "(" ++ document ++ " #>> " ++ pathLiteral path ++ ")"

/-- What a document holds at a path. -/
def extract (document : String) (path : List String) : String :=
  "(" ++ document ++ " #> " ++ pathLiteral path ++ ")"

/-! ## Values -/

/-- The texts that are signed decimals. -/
def numericPattern : String := "^[-+]?[0-9]+(\\.[0-9]+)?$"

/-- The number that a text spells, and NULL when it is no signed decimal. -/
def safeNumeric (text : String) : String :=
  "(CASE WHEN " ++ text ++ " ~ " ++ literal numericPattern ++ " THEN (" ++ text ++
    ")::numeric END)"

/-- A cast to the JSON type that has an order and an equality. -/
def jsonb (expr : String) : String := expr ++ "::jsonb"

/-- A cast of a document back to the plain JSON type. -/
def plainJson (expr : String) : String := "(" ++ expr ++ ")::json"

/-- A JSON value as a literal. -/
def jsonLiteral (value : Json) : String := jsonb (literal value.compact)

/-- An expression, or a value in place of NULL. -/
def coalesce (expr : String) (fallback : Json) : String :=
  "COALESCE(" ++ expr ++ ", " ++ jsonLiteral fallback ++ ")"

/-- An expression, or the empty document in place of NULL. -/
def orEmpty (expr : String) : String := coalesce expr (.object [])

/-- A document with a value set at a path.  Only the last step of the path is created. -/
def setAt (document : String) (path : List String) (value : String) : String :=
  "jsonb_set(" ++ document ++ ", " ++ pathLiteral path ++ ", " ++ value ++ ", true)"

/-- An expression in which a name stands for a value. -/
def bind (value : String) (name : String) (body : String) : String :=
  "(SELECT " ++ body ++ " FROM (SELECT " ++ value ++ " AS " ++ identifier name ++ ") AS " ++
    identifier "src" ++ ")"

/-! ## Operators -/

/-- The operator of a pattern match. -/
def likeOperator (ignoreCase negated : Bool) : String :=
  match ignoreCase, negated with
  | false, false => "LIKE"
  | false, true => "NOT LIKE"
  | true, false => "ILIKE"
  | true, true => "NOT ILIKE"

/-- The operator of a regular expression match. -/
def regexOperator (ignoreCase : Bool) : String := if ignoreCase then "~*" else "~"

/-- A truth value. -/
def constant (value : Bool) : String := if value then "TRUE" else "FALSE"

/-! ## Statements -/

/-- The bind parameter of a number; parameters count from one. -/
def placeholder (index : Nat) : String := "$" ++ toString index

/-- The end of a statement: how many rows, and from which on. -/
def limitOffset (limit offset : Option UInt64) : String :=
  match limit, offset with
  | some limit, some offset =>
    "LIMIT " ++ toString limit.toNat ++ " OFFSET " ++ toString offset.toNat
  | some limit, none => "LIMIT " ++ toString limit.toNat
  | none, some offset => "OFFSET " ++ toString offset.toNat
  | none, none => ""

end Sql
end ClauseSql
