import ClauseSql.Proofs.Arrivals
import ClauseSql.Proofs.FirstFault

/-!
# What hiding leaves

A relation can hide every column that is asked for, so that there is nothing left to select.  If these
were the fields of a scope, the filter is refused.  If the scope asks for no fields, nothing is refused,
and all that is left of the table is an empty projection.

## What is here

* `visibleColumns_eq_error_iff` and `visibleColumns_eq_nil_iff` — when hiding columns is refused, and
  when it leaves nothing.
* `Compiler.answer_make` — what is made of an inclusion of a relation that hides columns.
* `Compiler.hiding_leaves` — in a compiled query a projection is empty just where no fields were asked
  for and all columns are hidden; where fields were asked for and all of them are hidden, compilation
  fails.
-/

set_option autoImplicit false

namespace ClauseSql

open CompileM

/-! ## Hiding columns -/

section VisibleColumns

variable {columns : ColumnSet} {requested : Option Projection} {hidden : List String}

/-- Hiding columns is refused just if some were asked for and all of these are hidden. -/
theorem visibleColumns_eq_error_iff {error : CompileError} :
    visibleColumns columns requested hidden = .error error ↔
      error = .projection columns.table .nothingVisible ∧
        ∃ projection, requested = some projection ∧ ∀ entry ∈ projection, entry.1 ∈ hidden := by
  cases requested with
  | none => simp [visibleColumns]
  | some projection =>
    have hall : (projection.filter fun entry => !hidden.contains entry.1) = [] ↔
        ∀ entry ∈ projection, entry.1 ∈ hidden := by simp [List.filter_eq_nil_iff]
    rw [visibleColumns]
    split
    · rename_i hnil
      constructor
      · rintro ⟨⟩
        exact ⟨rfl, projection, rfl, hall.1 hnil⟩
      · rintro ⟨rfl, -⟩
        rfl
    · rename_i entry rest hcons
      constructor
      · rintro ⟨⟩
      · rintro ⟨-, _, hsome, hhidden⟩
        cases hsome
        cases hcons.symm.trans (hall.2 hhidden)

/-- Nothing is left of a table just if no columns of it were asked for and all are hidden. -/
theorem visibleColumns_eq_nil_iff :
    visibleColumns columns requested hidden = .ok [] ↔
      requested = none ∧ ∀ column ∈ columns.columns, column.name ∈ hidden := by
  cases requested with
  | some projection =>
    rw [visibleColumns]
    split <;> simp
  | none =>
    rw [visibleColumns, Except.ok.injEq, NameMap.ofList_eq_nil_iff, List.map_eq_nil_iff,
      List.filter_eq_nil_iff]
    simp

end VisibleColumns

/-- An inclusion asks for fields of a table, and all of them are hidden. -/
def Arrival.AsksForHidden (arrival : Arrival) (target : TableSchema) (hidden : List String) : Prop :=
  ∃ fields requested, arrival.scope.fields = some fields ∧
    Projection.compile target.name fields = .ok requested ∧ ∀ entry ∈ requested, entry.1 ∈ hidden

namespace Compiler

variable {compiler : Compiler} {depth : Nat} {schema : TableSchema} {filter : Filter}
  {before after : Journal} {arrival : Arrival}

/-! ## Inclusions -/

theorem named_left_compileAt (h : before.cache.Named) (depth : Nat) (schema : TableSchema)
    (filter : Filter) :
    ((compileAt compiler depth schema filter).left before).cache.Named := by
  have halike : Alike _ _ (compileAt compiler depth schema filter)
      (compileAt compiler depth schema filter) :=
    alike_compileAt_self compiler ColumnCache.tracks_named (fun _ => trivial) depth trivial filter
  exact (halike.agree before before ⟨rfl, h⟩).2.2

/-- Columns are still known under the names of their tables when a compilation gets to an
inclusion. -/
theorem Reaches.named (h : compiler.Reaches arrival depth schema filter before)
    (hnamed : before.cache.Named) : arrival.known.cache.Named := by
  have hcomes : ∀ {depth schema filter before} {arrival : Arrival},
      compiler.ComesTo depth schema filter before arrival → before.cache.Named →
      arrival.known.cache.Named := by
    intro depth schema filter before arrival hcomes hbefore
    obtain ⟨front, item, rest, query, -, -, hran⟩ := hcomes.listed
    exact hran.left_eq ▸ named_left_compileAt hbefore depth schema _
  induction h with
  | here h => exact hcomes h hnamed
  | within houter _ _ ih => exact ih (hcomes houter hnamed)

/-- What is made of an inclusion of a relation that hides columns, once its scope has compiled. -/
theorem answer_make {hidden : List String} {target : TableSchema} {query : Query}
    {columns : ColumnSet} (hhidden : compiler.hiddenBy? arrival.relation = some hidden)
    (htarget : compiler.catalog.table? arrival.relation.target = some target)
    (hquery : Ran (compileAt compiler (arrival.depth + 1) target arrival.scope) arrival.known query
      after) (hknown : NameMap.find? target.name after.cache = some columns) :
    (compiler.make arrival).answer arrival.known = (do
      let visible ← visibleColumns columns query.projection hidden
      return .scoped { query with projection := some visible }) := by
  have hfound : Ran (check (targetOf compiler arrival.source.name arrival.inclusion arrival.relation))
      arrival.known target arrival.known := ran_check_iff.2 ⟨targetOf_eq htarget _ _, rfl⟩
  have hresolve : (resolve target).answer after = .ok columns := by
    rw [answer_resolve, ColumnCache.resolve, hknown]
  have hmore : (arrival.inclusion.scope.isNone &&
      (compiler.hiddenBy? arrival.relation).isNone) = false := by
    rw [hhidden, Option.isNone_some, Bool.and_false]
  rw [make, relate, hmore, if_neg Bool.false_ne_true, hfound.answer_bind]
  show (compileAt compiler (arrival.depth + 1) target arrival.scope >>= _).answer _ = _
  rw [hquery.answer_bind, hhidden, hide, bind_assoc, (bind_of_ok hresolve).1, bind_assoc,
    answer_bind]
  refine congrArg (_ >>= ·) (funext fun visible => ?_)
  rfl

/-- A compiled filter has a projection just if it asks for fields. -/
theorem projection_of_ran_compileAt {query : Query}
    (h : Ran (compileAt compiler depth schema filter) before query after) :
    (filter.fields = none ∧ query.projection = none) ∨
      ∃ fields projection, filter.fields = some fields ∧
        Projection.compile schema.name fields = .ok projection ∧
        query.projection = some projection := by
  have hrequested := requestedOf_of_ran_compileAt h
  cases hfields : filter.fields with
  | none =>
    rw [hfields] at hrequested
    exact .inl ⟨rfl, (Except.ok.inj hrequested).symm⟩
  | some fields =>
    rw [hfields, requestedOf] at hrequested
    obtain ⟨projection, hcompile, hsome⟩ := bind_eq_ok_iff.1 hrequested
    exact .inr ⟨fields, projection, rfl, hcompile, (Except.ok.inj hsome).symm⟩

/-- **What remains where columns are hidden.**  It is a query on the target with a projection, and that
is empty just if no fields were asked for and all columns are hidden. -/
theorem remains_of_ran_make {hidden : List String} {related : Related Query}
    (hhidden : compiler.hiddenBy? arrival.relation = some hidden)
    (h : Ran (compiler.make arrival) arrival.known related after) :
    ∃ inner target columns projection, related = .scoped inner ∧
      compiler.catalog.table? arrival.relation.target = some target ∧
      NameMap.find? target.name after.cache = some columns ∧ inner.projection = some projection ∧
      (projection = [] ↔
        arrival.scope.fields = none ∧ ∀ column ∈ columns.columns, column.name ∈ hidden) := by
  cases wanted_of_ran_relate h with
  | all _ hnone => cases hhidden.symm.trans hnone
  | @own target query _ between _ htarget hquery hhide _ =>
    rw [hhidden] at hhide
    obtain ⟨columns, _, hresolve, hhide⟩ := ran_bind_iff.1 hhide
    obtain ⟨projection, _, hcheck, hhide⟩ := ran_bind_iff.1 hhide
    obtain ⟨hvisible, rfl⟩ := ran_check_iff.1 hcheck
    obtain ⟨rfl, rfl⟩ := ran_pure_iff.1 hhide
    refine ⟨_, target, columns, projection, rfl, table?_of_targetOf htarget,
      ColumnCache.find?_of_resolve (ran_resolve hresolve), rfl, ?_⟩
    have hnil : projection = [] ↔
        query.projection = none ∧ ∀ column ∈ columns.columns, column.name ∈ hidden := by
      rw [← visibleColumns_eq_nil_iff, hvisible, Except.ok.injEq]
    have hscope : Ran (compileAt compiler (arrival.depth + 1) target arrival.scope) arrival.known
        query between := hquery
    rw [hnil]
    rcases projection_of_ran_compileAt hscope with ⟨hfields, hnone⟩ | ⟨_, _, hfields, -, hsome⟩
    · simp [hfields, hnone]
    · simp [hfields, hsome]

/-! ## Compilations -/

/-- Once its scope has compiled, an inclusion of a relation that hides columns fails just if it asks for
fields and all of them are hidden. -/
theorem answer_make_eq_error_iff {hidden : List String} {target : TableSchema} {query : Query}
    (hnamed : arrival.known.cache.Named)
    (hhidden : compiler.hiddenBy? arrival.relation = some hidden)
    (htarget : compiler.catalog.table? arrival.relation.target = some target)
    (hquery : Ran (compileAt compiler (arrival.depth + 1) target arrival.scope) arrival.known query
      after) {error : CompileError} :
    (compiler.make arrival).answer arrival.known = .error error ↔
      error = .projection target.name .nothingVisible ∧ arrival.AsksForHidden target hidden := by
  obtain ⟨columns, hknown⟩ := known_of_ran_compileAt hquery
  have hafter : after.cache.Named := hquery.left_eq ▸ named_left_compileAt hnamed _ _ _
  have hname : columns.table = target.name := hafter _ _ hknown
  have hasks : (∃ projection, query.projection = some projection ∧
      ∀ entry ∈ projection, entry.1 ∈ hidden) ↔ arrival.AsksForHidden target hidden := by
    rcases projection_of_ran_compileAt hquery with
      ⟨hfields, hnone⟩ | ⟨fields, projection, hfields, hcompile, hsome⟩
    · simp [Arrival.AsksForHidden, hfields, hnone]
    · simp [Arrival.AsksForHidden, hfields, hcompile, hsome]
  rw [answer_make hhidden htarget hquery hknown, bind_pure_eq_error_iff, visibleColumns_eq_error_iff,
    hname, hasks]

/-- **Hiding leaves nothing just where nothing was asked for.**  In a compiled query every inclusion of a
relation that hides columns is a query on the target with a projection, and that is empty just if its
scope asks for no fields and all columns of the target are hidden.  An inclusion that asks for fields,
all of which are hidden, is refused for the target, and it is the only one that is refused for what is
hidden: once a compilation gets to it and its scope has compiled, the whole fails. -/
theorem hiding_leaves (compiler : Compiler) (schema : TableSchema) (filter : Filter)
    (before : Journal) :
    (∀ query after, Ran (compiler.compile schema filter) before query after →
      ∀ source name related, query.Includes compiler.catalog schema.name source name related →
      ∃ arrival, compiler.Reaches arrival 0 schema filter before ∧ arrival.source.name = source ∧
        arrival.inclusion.relation = name ∧
        compiler.catalog.relation? source name = some arrival.relation ∧
        ∀ hidden, compiler.hidden.hidden? arrival.relation = some hidden → hidden ≠ [] →
          ∃ inner target columns projection, related = .scoped inner ∧
            compiler.catalog.table? arrival.relation.target = some target ∧
            after.columnsOf target = .ok columns ∧
            (Unambiguous (compiler.tables schema) → before.cache.Sound (compiler.tables schema) →
              ColumnSet.ofSchema target = .ok columns) ∧
            inner.projection = some projection ∧
            (projection = [] ↔
              arrival.scope.fields = none ∧ ∀ column ∈ columns.columns, column.name ∈ hidden)) ∧
    (before.cache.Named → ∀ arrival, compiler.Reaches arrival 0 schema filter before →
      ∀ hidden, compiler.hidden.hidden? arrival.relation = some hidden → hidden ≠ [] →
      ∀ target, compiler.catalog.table? arrival.relation.target = some target →
      ∀ query finish, Ran (compileAt compiler (arrival.depth + 1) target arrival.scope) arrival.known
        query finish →
      (∀ error, (compiler.make arrival).answer arrival.known = .error error ↔
        error = .projection target.name .nothingVisible ∧ arrival.AsksForHidden target hidden) ∧
      (arrival.AsksForHidden target hidden → (compiler.compile schema filter).answer before =
        .error (.projection target.name .nothingVisible))) := by
  constructor
  · intro query after hran source name related hincludes
    obtain ⟨arrival, finish, hreaches, rfl, rfl, hmade, hkeeps⟩ := reaches_of_includes hran hincludes
    refine ⟨arrival, hreaches, rfl, rfl, relation?_of_permit hreaches.permitted,
      fun hidden hhidden hne => ?_⟩
    obtain ⟨inner, target, columns, projection, hrelated, htarget, hknown, hprojection, hempty⟩ :=
      remains_of_ran_make (hiddenBy?_of_hidden? hhidden hne) hmade
    have hcolumns : after.columnsOf target = .ok columns := by
      rw [Journal.columnsOf, ColumnCache.resolve, hkeeps _ _ hknown]
    refine ⟨inner, target, columns, projection, hrelated, htarget, hcolumns, fun hun hsound => ?_,
      hprojection, hempty⟩
    have hafter : after.cache.Sound (compiler.tables schema) :=
      hran.left_eq ▸ sound_left_compile hun hsound
    exact (hafter.resolve_eq (mem_tables htarget)).symm.trans hcolumns
  · intro hnamed arrival hreaches hidden hhidden hne target htarget query finish hquery
    have hfails : ∀ error, (compiler.make arrival).answer arrival.known = .error error ↔
        error = .projection target.name .nothingVisible ∧ arrival.AsksForHidden target hidden :=
      fun error => answer_make_eq_error_iff (hreaches.named hnamed)
        (hiddenBy?_of_hidden? hhidden hne) htarget hquery
    exact ⟨hfails, fun hasks => answer_of_reaches hreaches ((hfails _).2 ⟨rfl, hasks⟩)⟩

/-! The author of a post hides an address.  Users are shown without it, and may not be asked for it
alone. -/

/-- The posts. -/
def blogPosts : TableSchema := ⟨"posts", [⟨"id", .integer⟩]⟩

/-- The scope of posts that asks for the address of the author, and for nothing else. -/
def addressScope : Filter where
  included := some [.object [("relation", .string "author"),
    ("scope", .object [("fields", .array [.string "email"])])]]

/-- The filter that asks for posts, and for the address of the author of each. -/
def addressFilter : Filter where
  included := some [.object [("relation", .string "posts"), ("scope", .object [("include", .array
    [.object [("relation", .string "author"),
      ("scope", .object [("fields", .array [.string "email"])])]])])]]

theorem hiding_leaves_blog :
    (∃ query after inner projection, Ran (blog.compile blogUsers blogFilter) {} query after ∧
      query.Includes blog.catalog "users" "posts" "author" (.scoped inner) ∧
      inner.projection = some projection ∧ projection ≠ []) ∧
    (blog.compile blogUsers addressFilter).answer {} =
      .error (.projection "users" .nothingVisible) := by
  let users : ColumnSet := ⟨"users", [⟨"id", .integer⟩, ⟨"email", .text⟩]⟩
  let posts : ColumnSet := ⟨"posts", [⟨"id", .integer⟩]⟩
  let author : Relation := ⟨"author", .one, "users", {}⟩
  constructor
  · let shown : Query := { projection := some [("id", true)] }
    let query : Query := { included := some [("posts", .scoped
      { included := some [("author", .scoped shown)] })] }
    let journal : Journal := { cache := [("posts", posts), ("users", users)] }
    have hran : Ran (blog.compile blogUsers blogFilter) {} query journal := by
      with_unfolding_all rfl
    have hincludes : query.Includes blog.catalog "users" "posts" "author" (.scoped shown) :=
      .within rfl (List.mem_singleton_self _) rfl rfl (.here rfl (List.mem_singleton_self _))
    obtain ⟨arrival, -, -, -, hrelation, hleaves⟩ :=
      (hiding_leaves blog blogUsers blogFilter {}).1 query journal hran _ _ _ hincludes
    have hauthor : author = arrival.relation := Option.some.inj hrelation
    obtain ⟨inner, target, columns, projection, hinner, htarget, hcolumns, -, hprojection, hempty⟩ :=
      hleaves ["email"] (hauthor ▸ rfl) (by decide)
    cases hinner
    rw [← hauthor] at htarget
    obtain rfl : blogUsers = target := Option.some.inj htarget
    obtain rfl : users = columns := Except.ok.inj hcolumns
    refine ⟨query, journal, shown, projection, hran, hincludes, hprojection, fun hnil => ?_⟩
    exact absurd ((hempty.1 hnil).2 ⟨"id", .integer⟩ List.mem_cons_self) (by decide)
  · let asked : Filter := { fields := some (.array [.string "email"]) }
    let outer : Arrival := ⟨0, blogUsers, ⟨"posts", some addressScope⟩, ⟨"posts", .many, "posts", {}⟩,
      { cache := [("users", users)] }⟩
    let inner : Arrival := ⟨1, blogPosts, ⟨"author", some asked⟩, author,
      { cache := [("posts", posts), ("users", users)] }⟩
    have houter : blog.ComesTo 0 blogUsers addressFilter {} outer :=
      ⟨rfl, rfl, rfl, [], _, [], {}, rfl, rfl, by with_unfolding_all rfl⟩
    have hinner : blog.ComesTo 1 blogPosts outer.scope outer.known inner :=
      ⟨rfl, rfl, rfl, [], _, [], {}, rfl, rfl, by with_unfolding_all rfl⟩
    have hreaches : blog.Reaches inner 0 blogUsers addressFilter {} := .within houter rfl (.here hinner)
    have hscope : Ran (compileAt blog 2 blogUsers asked) inner.known
        { projection := some [("email", true)] } inner.known := by with_unfolding_all rfl
    obtain ⟨-, hfails⟩ := (hiding_leaves blog blogUsers addressFilter {}).2 ColumnCache.named_nil inner
      hreaches ["email"] rfl (by decide) blogUsers rfl _ _ hscope
    exact hfails ⟨_, [("email", true)], rfl, by with_unfolding_all rfl, by decide⟩

/-! Where all columns of posts are hidden and no fields are asked for, nothing is left of them. -/

/-- Users with their posts, of which nothing is shown. -/
def shutBlog : Compiler where
  catalog := blog.catalog
  hidden := ([("posts", ["id"])] : HiddenColumns)

theorem hiding_leaves_nothing :
    shutBlog.catalog.relation? "users" "posts" = some ⟨"posts", .many, "posts", {}⟩ ∧
      shutBlog.hidden.hidden? ⟨"posts", .many, "posts", {}⟩ = some ["id"] ∧
      (shutBlog.compile blogUsers { included := some [.string "posts"] }).answer {} =
        .ok { included := some [("posts", .scoped { projection := some [] })] } := by
  refine ⟨by decide, by decide, ?_⟩
  with_unfolding_all rfl

end Compiler
end ClauseSql
