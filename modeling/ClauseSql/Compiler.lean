import ClauseSql.Json.Reader.Value
import ClauseSql.Query

/-!
# Compiling filters

## What is here

* `Limits` — the size of the texts and the depth of the inclusions that are accepted.
* `Journal` — what compilation leaves behind even when it fails: the columns of the tables resolved,
  and the warnings.
* `Filter.parse` — the filter that a text is.
* `Compiler.compileFilter` — the query that a filter compiles to.
* `visibleColumns` — the projection of a relation that hides columns.
-/

set_option autoImplicit false

namespace ClauseSql

/-! ## Limits -/

/-- What is accepted. -/
structure Limits where
  /-- The greatest number of bytes of a text. -/
  maxBytes : Nat := 65536
  /-- How deep inclusions nest; any depth when none is given. -/
  maxDepth : Option Nat := none
deriving DecidableEq, Repr

/-! ## Journals -/

/-- What compilation leaves behind: the tables it resolved, and its warnings in order. -/
structure Journal where
  cache : ColumnCache := []
  warnings : List Warning := []
deriving Repr

/-- A computation that can fail and that keeps a journal either way. -/
abbrev CompileM := ExceptT CompileError (StateM Journal)

namespace CompileM

/-- Adds warnings. -/
def warn (warnings : List Warning) : CompileM Unit :=
  modify fun journal => { journal with warnings := journal.warnings ++ warnings }

/-- The result of a check that needs no journal. -/
def check {α : Type} (result : Except CompileError α) : CompileM α :=
  ExceptT.mk (pure result)

/-- The columns of a table.  Only the first resolution of a name reads the declaration, and warns of
it. -/
def resolve (schema : TableSchema) : CompileM ColumnSet := do
  let journal ← get
  if (NameMap.find? schema.name journal.cache).isNone then warn (ColumnSet.warnings schema)
  let (result, cache) := journal.cache.resolve schema
  modify fun journal => { journal with cache }
  check result

end CompileM

/-! ## Texts -/

/-- The warning about a text that is too large. -/
def sizeWarnings (maxBytes : Nat) (text : String) : List Warning :=
  if maxBytes < text.utf8ByteSize then [.oversized text.utf8ByteSize maxBytes] else []

/-- The value that a text is, unless the text is too large. -/
def readBounded (maxBytes : Nat) (text : String) : Except CompileError Json :=
  if maxBytes < text.utf8ByteSize then .error (.oversized maxBytes)
  else
    match Json.parse text with
    | .ok value => .ok value
    | .error fault => .error (.text (.json fault))

/-- The filter that a value is; null is the filter that asks for nothing. -/
def Filter.ofValue (value : Json) : Except CompileError Filter :=
  match value with
  | .null => .ok {}
  | .object members =>
    match Filter.ofJson (.object members) with
    | .ok filter => .ok filter
    | .error cause => .error (.text (.json (.misshapen cause)))
  | value => .error (.text (.notFilter value.kind))

/-- The value that a text is or, when that is a string, the value that the string is. -/
def readNested (maxBytes : Nat) (text : String) : Except CompileError Json := do
  match ← readBounded maxBytes text with
  | .string inner => readBounded maxBytes inner
  | value => return value

/-- The filter that a text is.  A string stands for the filter it contains. -/
def Filter.parse (maxBytes : Nat) (text : String) : Except CompileError Filter := do
  let value ← readNested maxBytes text
  Filter.ofValue value

/-- The warnings of reading a filter. -/
def Filter.parseWarnings (maxBytes : Nat) (text : String) : List Warning :=
  sizeWarnings maxBytes text ++
    match readBounded maxBytes text with
    | .ok (.string inner) => sizeWarnings maxBytes inner
    | _ => []

/-! ## Hidden columns -/

/-- The projection that remains once columns are hidden: of the requested names, which must leave
one, or of all columns when none were requested. -/
def visibleColumns (columns : ColumnSet) (requested : Option Projection) (hidden : List String) :
    Except CompileError Projection :=
  match requested with
  | some projection =>
    match projection.filter fun (name, _) => !hidden.contains name with
    | [] => .error (.projection columns.table .nothingVisible)
    | entry :: rest => .ok (entry :: rest)
  | none =>
    .ok (NameMap.ofList
      ((columns.columns.filter fun column => !hidden.contains column.name).map fun column =>
        (column.name, true)))

/-! ## Filters -/

/-- What filters are compiled against. -/
structure Compiler where
  catalog : Catalog := {}
  /-- The columns that relations hide. -/
  hidden : HiddenSource := {}
  limits : Limits := {}

namespace Compiler

open CompileM

/-- The columns that a relation hides; none when it hides nothing. -/
def hiddenBy? (compiler : Compiler) (relation : Relation) : Option (List String) :=
  match compiler.hidden.hidden? relation with
  | none | some [] => none
  | some (column :: rest) => some (column :: rest)

/-- The condition of a filter. -/
def compileClause (columns : ColumnSet) (clause : Option Clause) :
    CompileM (Option Predicate) :=
  match clause with
  | none => pure none
  | some clause => check (clause.compile columns)

/-- The order of a filter; none when no entry is left. -/
def compileOrder (columns : ColumnSet) (entries : Option (List String)) :
    CompileM (Option (List OrderKey)) :=
  match entries with
  | none => pure none
  | some entries => do
    warn (Order.warnings columns entries)
    let keys ← check (Order.compile columns entries)
    return if keys.isEmpty then none else some keys

/-- The projection of a filter. -/
def compileProjection (table : String) (fields : Option Json) :
    CompileM (Option Projection) :=
  match fields with
  | none => pure none
  | some fields => do
    warn (Projection.warnings table fields)
    let projection ← check (Projection.compile table fields)
    return some projection

/-- The relation of an inclusion on a table, unless inclusions at this depth are refused. -/
def permit (compiler : Compiler) (depth : Nat) (table : String) (inclusion : Inclusion) :
    Except CompileError Relation :=
  match compiler.catalog.relation? table inclusion.relation with
  | none => .error (.unknownRelation table inclusion.relation)
  | some relation =>
    match compiler.limits.maxDepth with
    | none => .ok relation
    | some limit =>
      if limit ≤ depth then .error (.inclusionDepth table inclusion.relation limit)
      else .ok relation

/-- The target table of a relation. -/
def targetOf (compiler : Compiler) (table : String) (inclusion : Inclusion) (relation : Relation) :
    Except CompileError TableSchema :=
  match compiler.catalog.table? relation.target with
  | none => .error (.unknownRelation table inclusion.relation)
  | some target => .ok target

/-- A query on the target of a relation, without the columns that the relation hides. -/
def hide (target : TableSchema) (hidden : Option (List String)) (query : Query) :
    CompileM Query :=
  match hidden with
  | none => pure query
  | some hidden => do
    let columns ← resolve target
    let visible ← check (visibleColumns columns query.projection hidden)
    return { query with projection := some visible }

mutual

/-- The query that a filter on a table compiles to, `depth` inclusions below the outermost one. -/
def compileAt (compiler : Compiler) (depth : Nat) (schema : TableSchema) (filter : Filter) :
    CompileM Query := do
  let columns ← resolve schema
  let condition ← compileClause columns filter.clause
  let order ← compileOrder columns filter.order
  let projection ← compileProjection schema.name filter.fields
  let included ←
    match _h : filter.included with
    | none => pure none
    | some [] => pure none
    | some (item :: rest) =>
      some <$> compileIncluded compiler depth schema [] (item :: rest)
  return { limit := filter.limit, offset := filter.effectiveOffset, order, condition, included,
           projection }
termination_by sizeOf filter.included
decreasing_by
  rw [_h]
  simp only [Option.some.sizeOf_spec]
  omega

/-- What the inclusions of a filter compile to, after those already in `done`.  Of two inclusions
of one relation the later one counts. -/
def compileIncluded (compiler : Compiler) (depth : Nat) (schema : TableSchema)
    (done : NameMap (Related Query)) : List Json → CompileM (NameMap (Related Query))
  | [] => pure done
  | item :: rest => do
    match h : Inclusion.ofJson schema.name item with
    | .error error => throw error
    | .ok inclusion =>
      let relation ← check (permit compiler depth schema.name inclusion)
      let hidden := compiler.hiddenBy? relation
      if inclusion.scope.isNone && hidden.isNone then
        compileIncluded compiler depth schema (NameMap.insert inclusion.relation .all done) rest
      else
        let target ← check (targetOf compiler schema.name inclusion relation)
        let query ← compileAt compiler (depth + 1) target (inclusion.scope.getD {})
        let query ← hide target hidden query
        compileIncluded compiler depth schema
          (NameMap.insert inclusion.relation (.scoped query) done) rest
termination_by items => sizeOf items
decreasing_by
  · simp only [List.cons.sizeOf_spec]
    omega
  · exact Inclusion.sizeOf_scopeOrEmpty h rest
  · simp only [List.cons.sizeOf_spec]
    omega

end

/-- The query that a filter on a table compiles to. -/
def compile (compiler : Compiler) (schema : TableSchema) (filter : Filter) : CompileM Query :=
  compileAt compiler 0 schema filter

/-- The query that the text of a filter compiles to. -/
def compileText (compiler : Compiler) (schema : TableSchema) (text : String) : CompileM Query := do
  warn (Filter.parseWarnings compiler.limits.maxBytes text)
  let filter ← check (Filter.parse compiler.limits.maxBytes text)
  compile compiler schema filter

/-- The statement of a query on a table, and the values it binds. -/
def renderQuery (schema : TableSchema) (query : Query) : CompileM (String × List Json) := do
  let columns ← resolve schema
  check (query.render columns)

end Compiler
end ClauseSql
