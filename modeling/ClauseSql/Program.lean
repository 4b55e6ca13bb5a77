import ClauseSql.CommandLine
import ClauseSql.Json.Form.Query
import ClauseSql.Schema.Declaration
import ClauseSql.Sql.Update

/-!
# The program

`filterql` reads its settings and a catalog, compiles one filter or update, and prints the result as
indented JSON.

## What is here

* `Failure` — why a run prints no result.
* `Program.answer` — the JSON that a command answers with.
* `Program.run` and `Outcome` — a whole run, from the arguments and the environment to the text that
  is printed.
-/

set_option autoImplicit false

namespace ClauseSql

/-! ## Failures -/

/-- Why a run prints no result. -/
inductive Failure where
  | settings (error : SettingsError)
  | noCatalog
  | unreadableCatalog (path : String)
  | malformedCatalog (path : String)
  | unknownTable (name : String)
  | compile (error : CompileError)
deriving DecidableEq, Repr

/-- The wording of a failure. -/
def Failure.message : Failure → String
  | .settings error => error.message
  | .noCatalog => "No catalog configured (use --catalog or the config file)"
  | .unreadableCatalog path => "Failed to read catalog file: " ++ path
  | .malformedCatalog path => "Failed to parse catalog file: " ++ path
  | .unknownTable name => "Table '" ++ name ++ "' not found in catalog"
  | .compile error => error.message ++ " (" ++ error.code ++ ")"

/-- How a run ends. -/
inductive Outcome where
  /-- The text that is printed. -/
  | printed (text : String)
  | failed (failure : Failure)
  | refused (error : UsageError)
  /-- The environment file sets a variable to what no variable can hold. -/
  | aborted
deriving DecidableEq, Repr

/-- The exit code of a run. -/
def Outcome.exitCode : Outcome → UInt8
  | .printed _ => 0
  | .failed _ => 1
  | .refused .help => 0
  | .refused _ => 2
  | .aborted => 101

namespace Program

/-- The name of the program and its version. -/
def version : String := "filterql 0.1.0"

variable {m : Type → Type} [Monad m]

/-! ## Catalogs -/

/-- The catalog that the settings name. -/
def readCatalog (files : Files m) (settings : Settings) : WarnT m Failure Catalog := do
  match settings.catalog with
  | none => throw .noCatalog
  | some path =>
    match ← files.read? path with
    | none => throw (.unreadableCatalog path)
    | some text =>
      match Catalog.reader.parse text with
      | .error _ => throw (.malformedCatalog path)
      | .ok catalog => return catalog

/-- A table of the catalog. -/
def findTable (catalog : Catalog) (name : String) : WarnT m Failure TableSchema :=
  match catalog.table? name with
  | none => throw (.unknownTable name)
  | some schema => return schema

/-- The result of a compilation that starts with an empty cache. -/
def compiled {α : Type} (action : CompileM α) : WarnT m Failure α := do
  let (result, journal) := action.run.run {}
  Settings.warn journal.warnings
  match result with
  | .error error => throw (.compile error)
  | .ok value => return value

/-! ## Answers -/

/-- The answer to a query: its statement, the values to bind, and the relations. -/
def queryAnswer (query : Query) (sql : String) (params : List Json) : Json :=
  .object [("sql", .string sql), ("params", .array params),
    ("with", (Query.includedToJson query.included).getD .null)]

/-- The answer to an update: its set clause, the values to bind, and its two parts. -/
def updateAnswer (update : Update) : Json :=
  let (clause, params) := update.render
  .object [("set", .string clause), ("params", .array params),
    ("flatFields", .object update.direct),
    ("mergeExpressionsByColumn",
      .object (update.merges.map fun entry => (entry.1, .string entry.2)))]

/-- The description of an operator. -/
def operatorAnswer (operator : Operator) : Json :=
  .object [("name", .string operator.name), ("aliases", .ofStrings operator.aliases),
    ("operand", .string operator.operandDescription), ("structural", .bool operator.isStructural)]

/-- The answer to a command. -/
def answer (files : Files m) (settings : Settings) : Command → WarnT m Failure Json
  | .operators => return .array (Operator.all.map operatorAnswer)
  | .compile table filter optionsOnly => do
    let catalog ← readCatalog files settings
    let schema ← findTable catalog table
    let compiler : Compiler := { catalog, hidden := catalog.hidden, limits := settings.limits }
    compiled do
      let query ← compiler.compileText schema filter
      if optionsOnly then return query.toJson
      let (sql, params) ← Compiler.renderQuery schema query
      return queryAnswer query sql params
  | .update table payload => do
    let catalog ← readCatalog files settings
    let schema ← findTable catalog table
    let compiler : Compiler := { catalog, limits := settings.limits }
    compiled do
      let update ← compiler.compileUpdateText schema payload
      return updateAnswer update

/-! ## Runs -/

/-- Carries out an invocation. -/
def execute (files : Files m) (invocation : Invocation) : WarnT m Failure Json := do
  let settings ← (Settings.load files invocation.overrides).adapt Failure.settings
  answer files settings invocation.command

/-- The name of the environment file. -/
def environmentFile : String := ".env"

/-- The environment with the variables of the environment file added, if there is one; none if one
of them cannot hold its value. -/
def environmentWith? (environment : Environment) : Option String → Option Environment
  | none => some environment
  | some text => environment.load? text

/-- A run with the given arguments, and its warnings.  `envText` is the text of the environment
file, if there is one. -/
def run (files : Files m) (environment : Environment) (envText : Option String)
    (arguments : List String) : m (Outcome × List Warning) := do
  match environmentWith? environment envText with
  | none => return (.aborted, [])
  | some environment =>
    match Invocation.parse environment arguments with
    | .error .version => return (.printed (version ++ "\n"), [])
    | .error error => return (.refused error, [])
    | .ok invocation =>
      let (result, warnings) ← (execute files invocation).run.run []
      match result with
      | .error failure => return (.failed failure, warnings)
      | .ok value => return (.printed (value.indented ++ "\n"), warnings)

end Program
end ClauseSql
