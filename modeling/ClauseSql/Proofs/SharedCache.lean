import ClauseSql.Proofs.ColumnIndex
import ClauseSql.Proofs.HiddenColumns
import ClauseSql.Update
import Mathlib.Data.List.Dedup

/-!
# A shared cache

Compilers share what they know of columns.  It is kept by table name, the first columns that were
found under a name stay, and as long as no two tables of one name differ nobody can tell from an answer
what was known before.

## What is here

* `ColumnCache.resolveAll` — looking up the columns of tables, one after the other, and
  `ColumnCache.find?_resolveAll` — what is known afterwards.
* `ColumnCache.Sound` — a cache knows no other columns than those that are declared, which is so as
  long as tables are `Unambiguous` (`ColumnCache.tracks_sound`).
* `Call` — compiling a filter or an update, or writing a statement, and `Call.performAll` — one call
  after the other with one journal.
* `cache_is_transparent` — every call answers as it would alone.
-/

set_option autoImplicit false

namespace ClauseSql

open CompileM

/-! ## Columns by name -/

/-- The columns that a table declares, each name once. -/
def ColumnSet.declared (schema : TableSchema) : ColumnSet :=
  ⟨schema.name, distinct [] schema.columns⟩

theorem ColumnSet.ofSchema_of_ne_nil {schema : TableSchema} (h : schema.columns ≠ []) :
    ofSchema schema = .ok (declared schema) :=
  ofSchema_eq_ok_iff.2 ⟨h, rfl⟩

theorem ColumnSet.ofSchema_of_nil {schema : TableSchema} (h : schema.columns = []) :
    ofSchema schema = .error (.emptySchema schema.name) :=
  ofSchema_eq_error_iff.2 ⟨h, rfl⟩

namespace ColumnCache

/-- The results of looking up the columns of tables, one after the other, and what is known then. -/
def resolveAll (cache : ColumnCache) :
    List TableSchema → List (Except CompileError ColumnSet) × ColumnCache
  | [] => ([], cache)
  | schema :: rest =>
    let later := resolveAll (cache.resolve schema).2 rest
    ((cache.resolve schema).1 :: later.1, later.2)

theorem resolveAll_cons (cache : ColumnCache) (schema : TableSchema) (rest : List TableSchema) :
    cache.resolveAll (schema :: rest) =
      ((cache.resolve schema).1 :: ((cache.resolve schema).2.resolveAll rest).1,
        ((cache.resolve schema).2.resolveAll rest).2) := rfl

/-- The names of the tables that were looked up with success. -/
def resolvedNames (cache : ColumnCache) (schemas : List TableSchema) : List String :=
  ((schemas.zip (cache.resolveAll schemas).1).filter fun entry => entry.2.isOk).map
    fun entry => entry.1.name

theorem mem_resolvedNames_cons {cache : ColumnCache} {schema : TableSchema}
    {rest : List TableSchema} {name : String} :
    name ∈ cache.resolvedNames (schema :: rest) ↔
      ((cache.resolve schema).1.isOk = true ∧ name = schema.name) ∨
        name ∈ (cache.resolve schema).2.resolvedNames rest := by
  rw [resolvedNames, resolveAll_cons, List.zip_cons_cons, List.filter_cons]
  cases (cache.resolve schema).1.isOk <;> simp [resolvedNames]

/-- Whether a table is the one whose columns are kept under a name, unless an earlier one is. -/
def Supplies (name : String) (schema : TableSchema) : Bool :=
  schema.name == name && !schema.columns.isEmpty

theorem ne_nil_of_supplies {name : String} {schema : TableSchema} (h : Supplies name schema = true) :
    schema.columns ≠ [] := by
  rintro hnil
  rw [Supplies, hnil, List.isEmpty_nil, Bool.not_true, Bool.and_false] at h
  cases h

variable {cache : ColumnCache} {name : String}

theorem find?_resolve (cache : ColumnCache) (schema : TableSchema) (name : String) :
    NameMap.find? name (cache.resolve schema).2 =
      (NameMap.find? name cache).or
        (if Supplies name schema then some (ColumnSet.declared schema) else none) := by
  cases hfind : NameMap.find? name cache with
  | some columns => exact find?_resolve_of_find? schema hfind
  | none =>
    rw [Option.none_or]
    by_cases hname : schema.name = name
    · subst hname
      rw [resolve, hfind]
      by_cases hcolumns : schema.columns = []
      · simp [ColumnSet.ofSchema_of_nil hcolumns, Supplies, hcolumns, hfind]
      · simp [ColumnSet.ofSchema_of_ne_nil hcolumns, Supplies, hcolumns, NameMap.find?_insert_self]
    · have hother : Supplies name schema = false := by simp [Supplies, hname]
      rw [hother, resolve]
      split
      · exact hfind
      · split
        · exact hfind
        · exact (NameMap.find?_insert_of_ne (Ne.symm hname) ..).trans hfind

/-- **What is known after tables were looked up**: what was known before and, under any other name,
the columns of the first table of the name that has any. -/
theorem find?_resolveAll (schemas : List TableSchema) (name : String) : ∀ cache : ColumnCache,
    NameMap.find? name (cache.resolveAll schemas).2 =
      (NameMap.find? name cache).or ((schemas.find? (Supplies name)).map ColumnSet.declared) := by
  induction schemas with
  | nil => intro cache; exact (Option.or_none).symm
  | cons schema rest ih =>
    intro cache
    rw [resolveAll_cons, ih, find?_resolve, Option.or_assoc, List.find?_cons]
    cases Supplies name schema <;> rfl

theorem find?_eq_none_of_resolve_error {schema : TableSchema} {error : CompileError}
    (h : (cache.resolve schema).1 = .error error) :
    (cache.resolve schema).2 = cache ∧ NameMap.find? schema.name cache = none := by
  rw [resolve] at h ⊢
  split at h
  · cases h
  · rename_i hnone
    split at h
    · exact ⟨rfl, hnone⟩
    · cases h

/-! ## How many are known -/

theorem ascending_resolve (h : NameMap.Ascending cache) (schema : TableSchema) :
    NameMap.Ascending (cache.resolve schema).2 := by
  rw [resolve]
  split
  · exact h
  · split
    · exact h
    · exact h.insert _ _

theorem ascending_resolveAll (schemas : List TableSchema) : ∀ {cache : ColumnCache},
    NameMap.Ascending cache → NameMap.Ascending (cache.resolveAll schemas).2 := by
  induction schemas with
  | nil => intro cache h; exact h
  | cons schema rest ih => intro cache h; exact ih (ascending_resolve h schema)

theorem mem_names_resolve (schema : TableSchema) :
    name ∈ NameMap.names (cache.resolve schema).2 ↔
      name ∈ NameMap.names cache ∨ (cache.resolve schema).1.isOk = true ∧ name = schema.name := by
  rw [resolve]
  split
  · rename_i columns hfind
    have hmem : schema.name ∈ NameMap.names cache := List.mem_map_of_mem (NameMap.mem_of_find? hfind)
    refine ⟨.inl, fun h => ?_⟩
    rcases h with h | ⟨-, rfl⟩
    · exact h
    · exact hmem
  · split
    · simp [Except.isOk, Except.toBool]
    · simp [Except.isOk, Except.toBool, NameMap.mem_names_insert, or_comm]

theorem mem_names_resolveAll (schemas : List TableSchema) : ∀ {cache : ColumnCache},
    name ∈ NameMap.names (cache.resolveAll schemas).2 ↔
      name ∈ NameMap.names cache ∨ name ∈ cache.resolvedNames schemas := by
  induction schemas with
  | nil => intro cache; exact (or_iff_left List.not_mem_nil).symm
  | cons schema rest ih =>
    intro cache
    rw [resolveAll_cons, ih, mem_names_resolve, or_assoc, mem_resolvedNames_cons]

/-- As many tables are known as names were looked up with success. -/
theorem cachedTables_resolveAll (schemas : List TableSchema) :
    (resolveAll [] schemas).2.cachedTables = (resolvedNames [] schemas).dedup.length := by
  have hnodup : (NameMap.names (resolveAll [] schemas).2).Nodup :=
    (ascending_resolveAll schemas (NameMap.ascending_ofList [])).nodup
  have hperm : (NameMap.names (resolveAll [] schemas).2).Perm (resolvedNames [] schemas).dedup := by
    refine (List.perm_ext_iff_of_nodup hnodup (List.nodup_dedup _)).2 fun name => ?_
    rw [mem_names_resolveAll, List.mem_dedup]
    exact or_iff_right List.not_mem_nil
  rw [← hperm.length_eq, NameMap.names, List.length_map]
  rfl

/-! ## Caches that know what is declared -/

/-- A cache that knows no other columns of the given tables than those they declare. -/
def Sound (schemas : List TableSchema) (cache : ColumnCache) : Prop :=
  ∀ schema ∈ schemas, ∀ columns, NameMap.find? schema.name cache = some columns →
    ColumnSet.ofSchema schema = .ok columns

theorem sound_nil (schemas : List TableSchema) : Sound schemas [] := nofun

end ColumnCache

/-- No two tables of one name differ. -/
def Unambiguous (schemas : List TableSchema) : Prop :=
  ∀ first ∈ schemas, ∀ second ∈ schemas, first.name = second.name → first = second

instance (schemas : List TableSchema) : Decidable (Unambiguous schemas) :=
  inferInstanceAs (Decidable (∀ first ∈ schemas, ∀ second ∈ schemas, _ → _))

namespace ColumnCache

variable {schemas : List TableSchema} {cache : ColumnCache} {schema : TableSchema}

theorem Sound.resolve_eq (h : cache.Sound schemas) (hschema : schema ∈ schemas) :
    (cache.resolve schema).1 = ColumnSet.ofSchema schema := by
  rw [resolve]
  split
  · rename_i columns hfind
    exact (h schema hschema columns hfind).symm
  · split
    · rename_i error herror
      exact herror.symm
    · rename_i columns hcolumns
      exact hcolumns.symm

theorem Sound.resolve (h : cache.Sound schemas) (hun : Unambiguous schemas)
    (hschema : schema ∈ schemas) : (cache.resolve schema).2.Sound schemas := by
  rw [ColumnCache.resolve]
  split
  · exact h
  · split
    · exact h
    · rename_i columns hcolumns
      intro other hother found hfound
      by_cases hname : other.name = schema.name
      · cases hun other hother schema hschema hname
        rw [NameMap.find?_insert_self] at hfound
        cases hfound
        exact hcolumns
      · rw [NameMap.find?_insert_of_ne hname] at hfound
        exact h other hother found hfound

theorem tracks_sound (hun : Unambiguous schemas) :
    Tracks (fun first second => first.Sound schemas ∧ second.Sound schemas) (· ∈ schemas) :=
  fun _ hschema _ _ ⟨hfirst, hsecond⟩ =>
    ⟨(hfirst.resolve_eq hschema).trans (hsecond.resolve_eq hschema).symm,
      hfirst.resolve hun hschema, hsecond.resolve hun hschema⟩

end ColumnCache

/-! ## Compilations -/

namespace Compiler

variable {compiler : Compiler} {schema : TableSchema}

/-- The tables that a compilation can meet: the one it is about, and those of the catalog. -/
def tables (compiler : Compiler) (schema : TableSchema) : List TableSchema :=
  schema :: compiler.catalog.tables.map Prod.snd

theorem mem_tables {target : TableSchema} {name : String}
    (h : compiler.catalog.table? name = some target) : target ∈ compiler.tables schema :=
  List.mem_cons_of_mem _ (List.mem_map_of_mem (NameMap.mem_of_find? h))

/-- Compiling a filter makes nothing known but what is declared. -/
theorem sound_left_compile {filter : Filter} {before : Journal}
    (hun : Unambiguous (compiler.tables schema))
    (hsound : before.cache.Sound (compiler.tables schema)) :
    ((compiler.compile schema filter).left before).cache.Sound (compiler.tables schema) := by
  have halike := alike_compile compiler (ColumnCache.tracks_sound hun) mem_tables
    (List.mem_cons_self (a := schema)) filter
  exact (halike.agree before before ⟨hsound, hsound⟩).2.1

end Compiler

/-! ## Calls -/

/-- What a call is asked to do: to compile a filter or the members of an update, or to write the
statement of a query. -/
inductive Task where
  | filter (filter : Filter)
  | update (members : Members)
  | statement (query : Query)

/-- A call, about a table.  Calls may differ in their limits and in what they hide. -/
structure Call where
  hidden : HiddenSource := {}
  limits : Limits := {}
  schema : TableSchema
  task : Task

/-- What a call answers. -/
inductive Answer where
  | query (query : Query)
  | update (update : Update)
  | statement (sql : String) (parameters : List Json)

namespace Call

/-- Performs a call. -/
def perform (catalog : Catalog) (call : Call) : CompileM Answer :=
  match call.task with
  | .filter filter =>
    .query <$> ({ catalog, hidden := call.hidden, limits := call.limits } : Compiler).compile
      call.schema filter
  | .update members => .update <$> Compiler.compileUpdate call.schema members
  | .statement query =>
    (fun written => .statement written.1 written.2) <$> Compiler.renderQuery call.schema query

/-- The answers to calls that are performed one after the other, failures included, and the journal
that they leave. -/
def performAll (catalog : Catalog) :
    List Call → Journal → List (Except CompileError Answer) × Journal
  | [], journal => ([], journal)
  | call :: rest, journal =>
    let later := performAll catalog rest ((call.perform catalog).left journal)
    ((call.perform catalog).answer journal :: later.1, later.2)

variable {catalog : Catalog} {R : ColumnCache → ColumnCache → Prop} {used : TableSchema → Prop}

theorem alike_perform (hR : Tracks R used)
    (hcatalog : ∀ {name target}, catalog.table? name = some target → used target) {call : Call}
    (hschema : used call.schema) :
    Alike R (fun _ => False) (call.perform catalog) (call.perform catalog) := by
  obtain ⟨hidden, limits, schema, task⟩ := call
  cases task with
  | filter filter =>
    exact (Compiler.alike_compile { catalog, hidden, limits } hR hcatalog hschema filter).map _
  | update members =>
    have hupdate : Alike R (fun _ => False) (Compiler.compileUpdate schema members)
        (Compiler.compileUpdate schema members) :=
      (hR.alike_resolve hschema).bind fun _ _ _ => (silent_check _).alike
    exact hupdate.map _
  | statement query =>
    have hrender : Alike R (fun _ => False) (Compiler.renderQuery schema query)
        (Compiler.renderQuery schema query) :=
      (hR.alike_resolve hschema).bind fun _ _ _ => (silent_check _).alike
    exact hrender.map _

/-- Calls that are performed one after the other answer as each of them does alone. -/
theorem answers_performAll {schemas : List TableSchema} (hun : Unambiguous schemas)
    (hcatalog : ∀ {name target}, catalog.table? name = some target → target ∈ schemas)
    {calls : List Call} (hcalls : ∀ call ∈ calls, call.schema ∈ schemas) :
    ∀ {journal : Journal}, journal.cache.Sound schemas →
      (performAll catalog calls journal).1 =
        calls.map fun call => (call.perform catalog).answer {} := by
  induction calls with
  | nil => intro journal _; rfl
  | cons call rest ih =>
    intro journal hsound
    obtain ⟨hcall, hrest⟩ := List.forall_mem_cons.1 hcalls
    obtain ⟨hanswer, hleft, -⟩ := (alike_perform (ColumnCache.tracks_sound hun) hcatalog hcall).agree
      journal {} ⟨hsound, ColumnCache.sound_nil schemas⟩
    rw [List.map_cons, ← ih hrest hleft, ← hanswer]
    rfl

theorem repeatable_perform (catalog : Catalog) (call : Call) :
    Repeatable (call.perform catalog) := by
  obtain ⟨hidden, limits, schema, task⟩ := call
  cases task with
  | filter filter => exact (Compiler.repeatable_compileAt _ 0 schema filter).map _
  | update members =>
    have hupdate : Repeatable (Compiler.compileUpdate schema members) :=
      (repeatable_resolve schema).bind fun _ _ _ _ => (silent_check _).repeatable
    exact hupdate.map _
  | statement query =>
    have hrender : Repeatable (Compiler.renderQuery schema query) :=
      (repeatable_resolve schema).bind fun _ _ _ _ => (silent_check _).repeatable
    exact hrender.map _

/-- No call forgets columns or replaces them by others. -/
theorem keeps_performAll (catalog : Catalog) (calls : List Call) : ∀ journal : Journal,
    journal.Keeps (performAll catalog calls journal).2 := by
  induction calls with
  | nil => exact Journal.Keeps.refl
  | cons call rest ih =>
    intro journal
    exact ((repeatable_perform catalog call).keeps journal).trans (ih _)

end Call

/-- **What is known of columns never shows.**  Calls that share a cache answer as each of them would
with a cache of its own, also after calls that failed, as long as no two tables of one name differ; and
in any case no call changes what was known before.  After any tables were looked up, what is known
under a name is the columns of the first table of the name that has any; it is the same after looking
up more; a table that is refused adds nothing and is not known; and as many tables are known as
different names were looked up with success. -/
theorem cache_is_transparent (catalog : Catalog) :
    (∀ calls : List Call,
      (Unambiguous (calls.map Call.schema ++ catalog.tables.map Prod.snd) →
        (Call.performAll catalog calls {}).1 =
          calls.map fun call => (call.perform catalog).answer {}) ∧
      ∀ journal : Journal, journal.Keeps (Call.performAll catalog calls journal).2) ∧
    ∀ schemas : List TableSchema,
      (∀ name columns, NameMap.find? name (ColumnCache.resolveAll [] schemas).2 = some columns ↔
        ∃ schema, schemas.find? (ColumnCache.Supplies name) = some schema ∧
          ColumnSet.ofSchema schema = .ok columns) ∧
      (∀ more name columns,
        NameMap.find? name (ColumnCache.resolveAll [] schemas).2 = some columns →
        NameMap.find? name (ColumnCache.resolveAll [] (schemas ++ more)).2 = some columns) ∧
      (∀ schema error, ((ColumnCache.resolveAll [] schemas).2.resolve schema).1 = .error error →
        ((ColumnCache.resolveAll [] schemas).2.resolve schema).2 =
            (ColumnCache.resolveAll [] schemas).2 ∧
          NameMap.find? schema.name (ColumnCache.resolveAll [] schemas).2 = none) ∧
      (ColumnCache.resolveAll [] schemas).2.cachedTables =
        (ColumnCache.resolvedNames [] schemas).dedup.length := by
  refine ⟨fun calls => ⟨fun hun => ?_, Call.keeps_performAll catalog calls⟩, fun schemas =>
    ⟨fun name columns => ?_, fun more name columns hfind => ?_, fun schema error herror => ?_,
      ColumnCache.cachedTables_resolveAll schemas⟩⟩
  · refine Call.answers_performAll hun (fun htarget => ?_) (fun call hcall => ?_)
      (ColumnCache.sound_nil _)
    · exact List.mem_append_right _ (List.mem_map_of_mem (NameMap.mem_of_find? htarget))
    · exact List.mem_append_left _ (List.mem_map_of_mem hcall)
  · rw [ColumnCache.find?_resolveAll, NameMap.find?, Option.none_or, Option.map_eq_some_iff]
    refine exists_congr fun schema => and_congr_right fun hfind => ?_
    rw [ColumnSet.ofSchema_of_ne_nil (ColumnCache.ne_nil_of_supplies (List.find?_some hfind)),
      Except.ok.injEq]
  · rw [ColumnCache.find?_resolveAll] at hfind ⊢
    rw [List.find?_append]
    cases hfirst : schemas.find? (ColumnCache.Supplies name) with
    | none => rw [hfirst] at hfind; cases hfind
    | some schema => rwa [hfirst] at hfind
  · exact ColumnCache.find?_eq_none_of_resolve_error herror

/-! The first of four calls fails once it knows the columns of both tables: posts are included, but
users have no comments.  The others find these columns known. -/

/-- Two filters, the first of which fails, an update and a statement. -/
def blogCalls : List Call := [
  { schema := Compiler.blogUsers,
    task := .filter { included := some [.object [("relation", .string "posts"),
      ("scope", .object [])], .string "comments"] } },
  { schema := Compiler.blogUsers, hidden := Compiler.blog.hidden, limits := { maxDepth := some 2 },
    task := .filter Compiler.blogFilter },
  { schema := Compiler.blogUsers, task := .update [("email", .null)] },
  { schema := Compiler.blogUsers, task := .statement { projection := some [("email", true)] } }]

theorem cache_is_transparent_blog :
    (Call.performAll Compiler.blog.catalog blogCalls {}).1 =
        blogCalls.map (fun call => (call.perform Compiler.blog.catalog).answer {}) ∧
      NameMap.find? "users" (ColumnCache.resolveAll []
        [⟨"users", []⟩, Compiler.blogUsers, ⟨"users", [⟨"name", .text⟩]⟩]).2 =
        some ⟨"users", [⟨"id", .integer⟩, ⟨"email", .text⟩]⟩ := by
  have hunambiguous : Unambiguous
      (blogCalls.map Call.schema ++ Compiler.blog.catalog.tables.map Prod.snd) := by decide
  obtain ⟨hcalls, hcolumns⟩ := cache_is_transparent Compiler.blog.catalog
  refine ⟨(hcalls blogCalls).1 hunambiguous, ?_⟩
  have husers : [⟨"users", []⟩, Compiler.blogUsers, ⟨"users", [⟨"name", .text⟩]⟩].find?
      (ColumnCache.Supplies "users") = some Compiler.blogUsers := by decide
  exact ((hcolumns _).1 "users" _).2 ⟨Compiler.blogUsers, husers, rfl⟩

end ClauseSql
