import ClauseSql.Proofs.Chains

/-!
# Hidden columns

A relation can hide columns of its target.  Whatever is asked of the relation, and however deep in
the inclusions it is asked, these columns are not shown: what is wanted of the relation is a query of
its own, with a projection that leaves them out.

## What is here

* `Query.Includes` — an inclusion of a query, at any depth.
* `Query.Conceals` — a query that never shows some columns: its projection leaves them out, and so
  does every statement that selects its rows.
* `Query.conceals_of_projection` — the projection decides on the statement.
* `Compiler.projection_of_ran_hide` — hiding columns leaves them out of the projection.
* `Compiler.conceals_of_includes` — every inclusion of a compiled query conceals what its relation
  hides.
-/

set_option autoImplicit false

namespace ClauseSql

open CompileM

/-! ## Projections -/

namespace Projection

/-- A projection that maps its names to true. -/
def Selects (projection : Projection) : Prop := ∀ entry ∈ projection, entry.2 = true

theorem selects_nil : Selects [] := nofun

theorem Selects.insert {projection : Projection} (h : projection.Selects) (name : String) :
    Selects (NameMap.insert name true projection) := by
  intro entry hentry
  rcases NameMap.mem_of_mem_insert hentry with rfl | hentry
  · rfl
  · exact h entry hentry

theorem selects_ofList {table : String} {names : List Json} :
    ∀ {chosen projection : Projection}, chosen.Selects →
    ofList table chosen names = .ok projection → projection.Selects := by
  induction names with
  | nil =>
    intro chosen projection hchosen h
    cases h
    exact hchosen
  | cons name rest ih =>
    intro chosen projection hchosen h
    cases name with
    | string name => exact ih (hchosen.insert name) h
    | _ => cases h

theorem selects_ofMembers {members : Members} :
    ∀ {chosen : Projection}, chosen.Selects → (ofMembers chosen members).Selects := by
  induction members with
  | nil => intro chosen hchosen; exact hchosen
  | cons entry rest ih =>
    intro chosen hchosen
    rw [ofMembers.eq_def]
    split
    · exact hchosen
    · rename_i name more heq
      cases heq
      exact ih (hchosen.insert name)
    · rename_i heq
      cases heq
      exact ih hchosen

/-- Only names mapped to true are kept. -/
theorem selects_of_compile {table : String} {fields : Json} {projection : Projection}
    (h : compile table fields = .ok projection) : projection.Selects := by
  cases fields with
  | array names => exact selects_ofList selects_nil h
  | object members => cases h; exact selects_ofMembers selects_nil
  | _ => cases h

/-- A projection that selects columns, but none of some. -/
def LeavesOut (hidden : List String) (projection : Projection) : Prop :=
  ∀ entry ∈ projection, entry.1 ∉ hidden ∧ entry.2 = true

end Projection

/-- **What remains visible is not hidden.** -/
theorem leavesOut_of_visibleColumns {columns : ColumnSet} {requested : Option Projection}
    {hidden : List String} {visible : Projection}
    (hselects : ∀ projection ∈ requested, projection.Selects)
    (h : visibleColumns columns requested hidden = .ok visible) :
    visible.LeavesOut hidden := by
  have hne : ∀ {name : String}, (!hidden.contains name) = true → name ∉ hidden := by
    intro name hname
    simpa using hname
  cases requested with
  | some projection =>
    rw [visibleColumns] at h
    split at h
    · cases h
    · rename_i first rest hfilter
      cases h
      intro entry hentry
      rw [← hfilter] at hentry
      obtain ⟨hmem, hvisible⟩ := List.mem_filter.1 hentry
      exact ⟨hne hvisible, hselects projection rfl entry hmem⟩
  | none =>
    cases h
    intro entry hentry
    obtain ⟨column, hcolumn, rfl⟩ := List.mem_map.1 (NameMap.mem_of_mem_ofList hentry)
    exact ⟨hne (List.mem_filter.1 hcolumn).2, rfl⟩

/-! ## Queries -/

namespace Query

/-- A query that never shows the columns in `hidden`.  It has a projection, which leaves them out;
and a statement that selects its rows names the columns that it selects, and these are other
ones. -/
structure Conceals (hidden : List String) (query : Query) : Prop where
  projection : ∃ projection, query.projection = some projection ∧ projection.LeavesOut hidden
  statement : ∀ columns : ColumnSet,
    query.render columns = .error (.projection columns.table .nothingKnown) ∨
      ∃ names rest, names ≠ [] ∧
        (∀ name ∈ names, name ∉ hidden ∧ ∃ column ∈ columns.columns, column.name = name) ∧
        query.render columns = .ok
          ("SELECT " ++ joined ", " (names.map Sql.identifier) ++ " FROM " ++ rest,
            query.parameters)

theorem mem_selected {columns : ColumnSet} {projection : Projection} {name : String}
    (h : name ∈ selected columns projection) :
    (∃ column ∈ columns.columns, column.name = name) ∧ (name, true) ∈ projection := by
  obtain ⟨column, hcolumn, rfl⟩ := List.mem_map.1 h
  obtain ⟨hmem, hfind⟩ := List.mem_filter.1 hcolumn
  refine ⟨⟨column, hmem, rfl⟩, NameMap.mem_of_find? ?_⟩
  cases hvalue : NameMap.find? column.name projection with
  | none => rw [hvalue] at hfind; cases hfind
  | some value => rw [hvalue] at hfind; exact congrArg some hfind

/-- A query whose projection leaves columns out never shows them. -/
theorem conceals_of_projection {query : Query} {projection : Projection} {hidden : List String}
    (hprojection : query.projection = some projection) (h : projection.LeavesOut hidden) :
    query.Conceals hidden := by
  refine ⟨⟨projection, hprojection, h⟩, fun columns => ?_⟩
  rw [render, sql, hprojection, selectList]
  split
  · exact .inl rfl
  · rename_i name names hselected
    refine .inr ⟨name :: names, Sql.identifier columns.table ++ (whereText query.condition ++
      (orderText query.order ++ limitText query.limit query.offset)), List.cons_ne_nil _ _,
      fun selected hmem => ?_, ?_⟩
    · obtain ⟨hdeclared, hentry⟩ := mem_selected (hselected ▸ hmem)
      exact ⟨(h _ hentry).1, hdeclared⟩
    · simp only [String.append_assoc]
      rfl

/-! ## Inclusions -/

/-- `Includes catalog table query source name related`: somewhere in the inclusions of a query on
`table`, the relation `name` of the table `source` is included, and `related` is what is wanted of it.
The inclusions of a query of its own are about the target of the relation. -/
inductive Includes (catalog : Catalog) :
    String → Query → String → String → Related Query → Prop where
  | here {table : String} {query : Query} {entries : List (String × Related Query)} {name : String}
    {related : Related Query} (hentries : query.included = some entries)
    (hmem : (name, related) ∈ entries) : Includes catalog table query table name related
  | within {table : String} {query inner : Query} {entries : List (String × Related Query)}
    {name : String} {relation : Relation} {target : TableSchema} {source deeper : String}
    {related : Related Query} (hentries : query.included = some entries)
    (hmem : (name, .scoped inner) ∈ entries)
    (hrelation : catalog.relation? table name = some relation)
    (htarget : catalog.table? relation.target = some target)
    (hinner : Includes catalog target.name inner source deeper related) :
    Includes catalog table query source deeper related

end Query

namespace Compiler

variable {compiler : Compiler} {before after : Journal}

theorem hiddenBy?_of_hidden? {relation : Relation} {hidden : List String}
    (h : compiler.hidden.hidden? relation = some hidden) (hne : hidden ≠ []) :
    compiler.hiddenBy? relation = some hidden := by
  cases hidden with
  | nil => exact absurd rfl hne
  | cons column rest => rw [hiddenBy?, h]

/-- **Hiding columns leaves them out of the projection.** -/
theorem projection_of_ran_hide {target : TableSchema} {hidden : List String}
    {query visible : Query} (hselects : ∀ projection ∈ query.projection, projection.Selects)
    (h : Ran (hide target (some hidden) query) before visible after) :
    ∃ projection, visible.projection = some projection ∧ projection.LeavesOut hidden := by
  obtain ⟨columns, _, -, h⟩ := ran_bind_iff.1 h
  obtain ⟨projection, _, hvisible, h⟩ := ran_bind_iff.1 h
  obtain ⟨rfl, -⟩ := ran_pure_iff.1 h
  exact ⟨projection, rfl, leavesOut_of_visibleColumns hselects (ran_check_iff.1 hvisible).1⟩

/-- A compiled projection maps its names to true. -/
theorem selects_of_ran_compileAt {depth : Nat} {schema : TableSchema} {filter : Filter}
    {query : Query} (h : Ran (compileAt compiler depth schema filter) before query after) :
    ∀ projection ∈ query.projection, projection.Selects := by
  obtain ⟨columns, resolved, between, -, -, hcompiled, -⟩ := ran_compileAt h
  intro projection hprojection
  obtain ⟨fields, -, hfields⟩ := hcompiled.projection hprojection
  exact Projection.selects_of_compile hfields

/-- How an entry of a compiled query came about. -/
theorem wanted_of_mem_included {depth : Nat} {schema : TableSchema} {filter : Filter}
    {query : Query} (h : Ran (compileAt compiler depth schema filter) before query after)
    {entries : List (String × Related Query)} (hentries : query.included = some entries)
    {name : String} {related : Related Query} (hmem : (name, related) ∈ entries) :
    ∃ inclusion relation start finish, inclusion.relation = name ∧
      compiler.catalog.relation? schema.name name = some relation ∧
      Wanted compiler depth schema.name inclusion relation start related finish := by
  obtain ⟨items, item, inclusion, -, -, -, rfl, relation, start, finish, hpermit, hwanted, -⟩ :=
    makes_of_mem_included h hentries hmem
  exact ⟨inclusion, relation, start, finish, rfl, relation?_of_permit hpermit, hwanted⟩

/-- What is wanted of a relation conceals what the relation hides. -/
theorem Wanted.conceals {depth : Nat} {table : String} {inclusion : Inclusion}
    {relation : Relation} {related : Related Query} {hidden : List String}
    (h : Wanted compiler depth table inclusion relation before related after)
    (hhidden : compiler.hidden.hidden? relation = some hidden) (hne : hidden ≠ []) :
    ∃ inner target, related = .scoped inner ∧
      compiler.catalog.table? relation.target = some target ∧ inner.Conceals hidden := by
  have hby := hiddenBy?_of_hidden? hhidden hne
  cases h with
  | all hscope hnone => cases hby.symm.trans hnone
  | own htarget hquery hhide =>
    rw [hby] at hhide
    obtain ⟨projection, hprojection, hout⟩ :=
      projection_of_ran_hide (selects_of_ran_compileAt hquery) hhide
    exact ⟨_, _, rfl, table?_of_targetOf htarget, Query.conceals_of_projection hprojection hout⟩

/-- Induction on where the inclusion is.  The query of an inclusion differs from a compiled one in
its projection, so all that is assumed of a query is that it has the inclusions of a compiled
one. -/
theorem conceals_of_includes_of_included {table source name : String} {query : Query}
    {related : Related Query} (h : query.Includes compiler.catalog table source name related) :
    ∀ {depth : Nat} {schema : TableSchema} {filter : Filter} {compiled : Query}
      {before after : Journal}, schema.name = table →
      Ran (compileAt compiler depth schema filter) before compiled after →
      query.included = compiled.included →
      ∃ relation, compiler.catalog.relation? source name = some relation ∧
        ∀ hidden, compiler.hidden.hidden? relation = some hidden → hidden ≠ [] →
          ∃ inner target, related = .scoped inner ∧
            compiler.catalog.table? relation.target = some target ∧ inner.Conceals hidden := by
  induction h with
  | here hentries hmem =>
    rintro depth schema filter compiled before after rfl hran hincluded
    obtain ⟨inclusion, relation, start, finish, -, hrelation, hwanted⟩ :=
      wanted_of_mem_included hran (hincluded ▸ hentries) hmem
    exact ⟨relation, hrelation, fun hidden hhidden hne => hwanted.conceals hhidden hne⟩
  | within hentries hmem hrelation htarget hinner ih =>
    rintro depth schema filter compiled before after rfl hran hincluded
    obtain ⟨inclusion, found, start, finish, -, hfound, hwanted⟩ :=
      wanted_of_mem_included hran (hincluded ▸ hentries) hmem
    cases hrelation.symm.trans hfound
    cases hwanted with
    | own hdeclared hquery hhide =>
      cases htarget.symm.trans (table?_of_targetOf hdeclared)
      exact ih rfl hquery (included_of_ran_hide hhide)

/-- **Hidden columns never show.**  Every inclusion of a compiled query is of a relation in the
catalog, and when that relation hides columns, what is wanted of it is a query of its own on the
target, which conceals them. -/
theorem conceals_of_includes {schema : TableSchema} {filter : Filter} {query : Query}
    (h : Ran (compiler.compile schema filter) before query after) {table name : String}
    {related : Related Query}
    (hi : query.Includes compiler.catalog schema.name table name related) :
    ∃ relation, compiler.catalog.relation? table name = some relation ∧
      ∀ hidden, compiler.hidden.hidden? relation = some hidden → hidden ≠ [] →
        ∃ inner target, related = .scoped inner ∧
          compiler.catalog.table? relation.target = some target ∧ inner.Conceals hidden :=
  conceals_of_includes_of_included hi rfl h rfl

/-! An author's posts are included, and with each post its author again, whose address the relation
hides. -/

/-- Users with their posts, and posts with their authors. -/
def blog : Compiler where
  catalog :=
    { tables := [("posts", ⟨"posts", [⟨"id", .integer⟩]⟩),
        ("users", ⟨"users", [⟨"id", .integer⟩, ⟨"email", .text⟩]⟩)],
      relations := [("posts", [("author", ⟨"author", .one, "users", {}⟩)]),
        ("users", [("posts", ⟨"posts", .many, "posts", {}⟩)])] }
  hidden := ([("author", ["email"])] : HiddenColumns)

/-- The users. -/
def blogUsers : TableSchema := ⟨"users", [⟨"id", .integer⟩, ⟨"email", .text⟩]⟩

/-- The filter that asks for posts, and for the author of each. -/
def blogFilter : Filter where
  included := some [.object [("relation", .string "posts"),
    ("scope", .object [("include", .array [.string "author"])])]]

theorem conceals_of_includes_blog : ∃ query after related inner,
    Ran (blog.compile ⟨"users", [⟨"id", .integer⟩, ⟨"email", .text⟩]⟩ blogFilter) {} query after ∧
      query.Includes blog.catalog "users" "posts" "author" related ∧ related = .scoped inner ∧
      inner.Conceals ["email"] := by
  let author : Query := { projection := some [("id", true)] }
  let posts : Query := { included := some [("author", .scoped author)] }
  let users : Query := { included := some [("posts", .scoped posts)] }
  let journal : Journal :=
    { cache := [("posts", ⟨"posts", [⟨"id", .integer⟩]⟩),
        ("users", ⟨"users", [⟨"id", .integer⟩, ⟨"email", .text⟩]⟩)] }
  have hran : Ran (blog.compile ⟨"users", [⟨"id", .integer⟩, ⟨"email", .text⟩]⟩ blogFilter) {}
      users journal := by with_unfolding_all rfl
  have hincludes : users.Includes blog.catalog "users" "posts" "author" (.scoped author) :=
    .within rfl (List.mem_singleton_self _) rfl rfl (.here rfl (List.mem_singleton_self _))
  obtain ⟨relation, hrelation, hconceals⟩ := conceals_of_includes hran hincludes
  cases hrelation
  obtain ⟨inner, target, hinner, -, hinnerConceals⟩ := hconceals ["email"] rfl (by decide)
  exact ⟨users, journal, .scoped author, inner, hran, hincludes, hinner, hinnerConceals⟩

end Compiler
end ClauseSql
