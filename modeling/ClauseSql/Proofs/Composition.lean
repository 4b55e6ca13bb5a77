import ClauseSql.Proofs.InclusionDepth
import ClauseSql.Proofs.SharedCache

/-!
# Inclusions on their own

What an inclusion makes does not depend on the filter that lists it.  It is the query that its scope
compiles to, as a filter on the target of the relation under a limit on depth that is lower by one,
without the columns that the relation hides.

## What is here

* `Query.without` — a query without hidden columns, and `Compiler.eq_without_of_ran_hide`: this is
  what hiding columns makes of it.
* `Compiler.lowered` — a compiler with a lower limit on depth, and
  `Compiler.answer_lowered_of_ran`: it compiles a scope as the scope of an inclusion is compiled.
* `Compiler.CompilesAlone` — a filter compiles to a query whenever it is compiled.
* `Compiler.included_alone` — the entries of a compiled query are made by the inclusions that the
  filter lists, each on its own.
-/

set_option autoImplicit false

namespace ClauseSql

open CompileM

/-! ## Hidden columns -/

/-- The projection on all columns. -/
def ColumnSet.everything (columns : ColumnSet) : Projection :=
  NameMap.ofList (columns.columns.map fun column => (column.name, true))

/-- A query without the columns that are hidden: it projects to the others of those it asks for, or of
all columns when it asks for none. -/
def Query.without (query : Query) (columns : ColumnSet) : Option (List String) → Query
  | none => query
  | some hidden =>
    let shown := query.projection.getD columns.everything
    { query with projection := some (shown.filter fun entry => !hidden.contains entry.1) }

theorem visibleColumns_eq {columns : ColumnSet} {requested : Option Projection}
    {hidden : List String} {visible : Projection}
    (h : visibleColumns columns requested hidden = .ok visible) :
    visible = (requested.getD columns.everything).filter fun entry => !hidden.contains entry.1 := by
  cases requested with
  | some projection =>
    rw [visibleColumns] at h
    split at h
    · cases h
    · rename_i first rest hfilter
      cases h
      exact hfilter.symm
  | none =>
    cases h
    rw [Option.getD_none, ColumnSet.everything,
      NameMap.filter_ofList (fun name => !hidden.contains name), List.filter_map]
    rfl

namespace Compiler

variable {compiler : Compiler} {before after : Journal}

/-- **What hiding columns makes of a query**, on a table whose columns are known. -/
theorem eq_without_of_ran_hide {target : TableSchema} {hidden : Option (List String)}
    {query visible : Query} {columns : ColumnSet}
    (h : Ran (hide target hidden query) before visible after)
    (hknown : NameMap.find? target.name before.cache = some columns) :
    visible = query.without columns hidden := by
  cases hidden with
  | none => exact (ran_pure_iff.1 h).1.symm
  | some hidden =>
    obtain ⟨resolved, _, hresolve, h⟩ := ran_bind_iff.1 h
    obtain ⟨projection, _, hvisible, h⟩ := ran_bind_iff.1 h
    obtain ⟨rfl, -⟩ := ran_pure_iff.1 h
    cases hresolve.resolve_eq hknown
    rw [Query.without, ← visibleColumns_eq (ran_check_iff.1 hvisible).1]

/-! ## One level down -/

/-- A compiler whose limit on the depth of inclusions, if it has one, is lower by one. -/
def lowered (compiler : Compiler) : Compiler :=
  compiler.limited (compiler.limits.maxDepth.map (· - 1))

/-- **A scope compiles as a filter of its own does** under a limit that is lower by one. -/
theorem answer_lowered_of_ran {target : TableSchema} {filter : Filter} {query : Query}
    (h : Ran (compileAt compiler 1 target filter) before query after) (journal : Journal) :
    (compileAt compiler 1 target filter).answer journal =
      (compiler.lowered.compile target filter).answer journal := by
  have halike : Alike Eq (fun _ => False)
      (compileAt (compiler.limited compiler.limits.maxDepth) 1 target filter)
      (compileAt compiler.lowered 0 target filter) := by
    refine alike_compileAt tracks_eq (fun _ => trivial) 1 0 trivial filter fun names hnames k hk => ?_
    -- The chain is one of a filter that compiles, so that the limit is not reached here.
    have hlimit : ∀ n ∈ compiler.limits.maxDepth, 1 + k < n := fun n hn =>
      lt_limit_of_requests hnames h hn k hk
    refine permitsAlike_of_lt hlimit fun n hn => ?_
    obtain ⟨limit, hsome, rfl⟩ := Option.map_eq_some_iff.1 hn
    have := hlimit limit hsome
    omega
  exact (halike.agree journal journal rfl).1

/-- A filter compiles to a query on a table, against these columns, when it is compiled on its own.  It
does so with any journal that knows what `after` knows and, if no two of the declared tables of one name
differ and nothing but declared columns was known before, with any journal that knows no other columns,
such as the empty one. -/
structure CompilesAlone (compiler : Compiler) (declared : List TableSchema)
    (before after : Journal) (target : TableSchema) (filter : Filter) (columns : ColumnSet)
    (query : Query) : Prop where
  later : ∀ journal, after.Keeps journal →
    (journal.cache.resolve target).1 = .ok columns ∧
      (compiler.compile target filter).answer journal = .ok query
  apart : Unambiguous declared → before.cache.Sound declared →
    ColumnSet.ofSchema target = .ok columns ∧ ∀ journal, journal.cache.Sound declared →
      (compiler.compile target filter).answer journal = .ok query

/-! ## Entries -/

/-- What an inclusion makes of its own is what its scope compiles to alone. -/
theorem compilesAlone_of_wanted {schema : TableSchema} {inclusion : Inclusion}
    {relation : Relation} {own : Query} {start finish : Journal}
    (h : Wanted compiler 0 schema.name inclusion relation start (.scoped own) finish)
    (hkeeps : finish.Keeps after)
    (hsound : Unambiguous (compiler.tables schema) → before.cache.Sound (compiler.tables schema) →
      after.cache.Sound (compiler.tables schema)) :
    ∃ target columns alone, compiler.catalog.table? relation.target = some target ∧
      own = alone.without columns (compiler.hiddenBy? relation) ∧
      compiler.lowered.CompilesAlone (compiler.tables schema) before after target
        (inclusion.scope.getD {}) columns alone := by
  cases h with
  | @own target alone _ between _ htarget hquery hhide =>
    have hfound := table?_of_targetOf htarget
    obtain ⟨columns, hknown⟩ := known_of_ran_compileAt hquery
    have hbetween : between.Keeps after :=
      Journal.Keeps.trans (hhide.left_eq ▸ (repeatable_hide target _ alone).keeps between) hkeeps
    have hlater : ∀ journal, after.Keeps journal →
        (journal.cache.resolve target).1 = .ok columns ∧
          (compiler.lowered.compile target (inclusion.scope.getD {})).answer journal =
            .ok alone := by
      intro journal hjournal
      have hstill := hbetween.trans hjournal
      obtain ⟨final, hagain⟩ := (repeatable_compileAt compiler 1 target _).again hquery hstill
      refine ⟨?_, (answer_lowered_of_ran hquery journal).symm.trans hagain.answer_eq⟩
      rw [ColumnCache.resolve, hstill _ _ hknown]
    refine ⟨target, columns, alone, hfound, eq_without_of_ran_hide hhide hknown, hlater,
      fun hun hbefore => ?_⟩
    have hafter := hsound hun hbefore
    have hmem : target ∈ compiler.tables schema := mem_tables hfound
    obtain ⟨hcolumns, halone⟩ := hlater after (.refl after)
    refine ⟨(hafter.resolve_eq hmem).symm.trans hcolumns, fun journal hjournal => ?_⟩
    have halike := alike_compile compiler.lowered (ColumnCache.tracks_sound hun) mem_tables hmem
      (inclusion.scope.getD {})
    exact (halike.agree after journal ⟨hafter, hjournal⟩).1.symm.trans halone

/-- **Inclusions compile on their own.**  The entries of a compiled query are those of the relations
that its filter lists, and of several inclusions of one relation the last one counts.  The entry
asks for all rows and columns just if the inclusion has no scope and the relation hides nothing.
Otherwise it is what the scope, by default the empty filter, compiles to alone on the target, under
a limit that is lower by one, but without the columns that are hidden.  Hence every chain of relations
in the query is one that the filter asks for, wherever the relations lead. -/
theorem included_alone {schema : TableSchema} {filter : Filter} {query : Query}
    (h : Ran (compiler.compile schema filter) before query after) {items : List Json}
    (hitems : filter.included = some items) (hne : items ≠ []) :
    ∃ entries inclusions, query.included = some entries ∧
      items.mapM (Inclusion.ofJson schema.name) = .ok inclusions ∧
      (NameMap.names entries).Nodup ∧
      (∀ name, name ∈ NameMap.names entries ↔ ∃ inclusion ∈ inclusions, inclusion.relation = name) ∧
      (∀ name inclusion,
        (inclusions.filter fun other => other.relation == name).getLast? = some inclusion →
        ∃ relation related, compiler.catalog.relation? schema.name name = some relation ∧
          (name, related) ∈ entries ∧
          (related = .all ↔ inclusion.scope = none ∧ compiler.hiddenBy? relation = none) ∧
          ∀ own, related = .scoped own → ∃ target columns alone,
            compiler.catalog.table? relation.target = some target ∧
            own = alone.without columns (compiler.hiddenBy? relation) ∧
            compiler.lowered.CompilesAlone (compiler.tables schema) before after target
              (inclusion.scope.getD {}) columns alone) ∧
      ∀ names, query.Chain names → filter.Requests names := by
  obtain ⟨made, hmade, hentries, hall⟩ := made_of_ran_compileAt h hitems
  refine ⟨_, _, hentries hne, hmade, (NameMap.ascending_ofList _).nodup, fun name => ?_,
    fun name inclusion hlast => ?_, fun names hnames => requests_of_chain hnames h rfl⟩
  · rw [NameMap.mem_names_ofList, entriesOf, List.map_map]
    simp [List.mem_map]
  · rw [List.filter_map, List.getLast?_map] at hlast
    obtain ⟨⟨_, related⟩, hfound, rfl⟩ := Option.map_eq_some_iff.1 hlast
    have hfind : NameMap.find? name (NameMap.ofList (entriesOf made)) = some related := by
      rw [NameMap.find?_ofList, entriesOf, List.filter_map, List.getLast?_map, Option.map_map]
      exact Option.map_eq_some_iff.2 ⟨_, hfound, rfl⟩
    obtain ⟨hmem, hname⟩ := List.mem_filter.1 (List.mem_of_getLast? hfound)
    cases eq_of_beq hname
    obtain ⟨relation, start, finish, hpermit, hwanted, hkeeps⟩ := hall _ hmem
    refine ⟨relation, related, relation?_of_permit hpermit, NameMap.mem_of_find? hfind, ?_, ?_⟩
    · cases hwanted with
      | all hscope hhidden => exact iff_of_true rfl ⟨hscope, hhidden⟩
      | own _ _ _ hmore => exact iff_of_false nofun hmore
    · rintro own rfl
      exact compilesAlone_of_wanted hwanted hkeeps fun hun hsound =>
        h.left_eq ▸ sound_left_compile hun hsound

/-! The author of a post is included twice.  The second time the address is asked for, but it is
hidden. -/

/-- What is asked of the author of a post. -/
def authorScope : Filter where
  fields := some (.array [.string "id", .string "email"])

/-- The filter that asks for the author of a post, and then again. -/
def authorTwice : Filter where
  included := some [.string "author", .object [("relation", .string "author"),
    ("scope", .object [("fields", .array [.string "id", .string "email"])])]]

theorem included_alone_authorTwice : ∃ query after entries own columns alone,
    Ran (blog.compile ⟨"posts", [⟨"id", .integer⟩]⟩ authorTwice) {} query after ∧
      query.included = some entries ∧ ("author", .scoped own) ∈ entries ∧
      own = alone.without columns (some ["email"]) ∧ ColumnSet.ofSchema blogUsers = .ok columns ∧
      (blog.lowered.compile blogUsers authorScope).answer {} = .ok alone := by
  let author : Query := { projection := some [("id", true)] }
  let posts : Query := { included := some [("author", .scoped author)] }
  let journal : Journal :=
    { cache := [("posts", ⟨"posts", [⟨"id", .integer⟩]⟩),
        ("users", ⟨"users", [⟨"id", .integer⟩, ⟨"email", .text⟩]⟩)] }
  have hran : Ran (blog.compile ⟨"posts", [⟨"id", .integer⟩]⟩ authorTwice) {} posts journal := by
    with_unfolding_all rfl
  have hunambiguous : Unambiguous (blog.tables ⟨"posts", [⟨"id", .integer⟩]⟩) := by decide
  obtain ⟨entries, inclusions, hentries, hread, -, -, hlast, -⟩ :=
    included_alone hran rfl (List.cons_ne_nil _ _)
  cases hread
  obtain ⟨relation, related, hrelation, hmem, hall, hown⟩ := hlast "author" _ rfl
  cases hrelation
  rcases related with _ | own
  · cases (hall.1 rfl).1
  · obtain ⟨target, columns, alone, htarget, heq, halone⟩ := hown own rfl
    cases htarget
    obtain ⟨hcolumns, hfresh⟩ := halone.apart hunambiguous (ColumnCache.sound_nil _)
    exact ⟨posts, journal, entries, own, columns, alone, hran, hentries, hmem, heq, hcolumns,
      hfresh {} (ColumnCache.sound_nil _)⟩

end Compiler
end ClauseSql
