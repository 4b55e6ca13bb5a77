import ClauseSql.Proofs.FirstFault

/-!
# The empty scope

A relation can be included by its name, or with a scope that asks for nothing.  Both ask for all rows and
columns of the relation.  The name alone is taken without a look at the table that the relation leads
to, though, and so is accepted where the scope is not: if there is no such table, or none with columns.

## What is here

* `Filter.naming` and `Filter.scoping` — the two filters that ask for one relation.
* `Compiler.compileAt_single` — how a filter compiles that only includes one relation.
* `Compiler.answer_scoping` — the scope is compiled like the name, and then the target is looked up.
* `Compiler.naming_and_scoping` — the two are accepted together if the target has columns, and what they
  make.
-/

set_option autoImplicit false

namespace ClauseSql

open CompileM

/-! ## The two filters -/

namespace Filter

/-- The filter that includes a relation by its name, and asks for nothing else. -/
def naming (name : String) : Filter where
  included := some [.string name]

/-- The filter that includes a relation with the empty scope, and asks for nothing else. -/
def scoping (name : String) : Filter where
  included := some [.object [("relation", .string name), ("scope", .object [])]]

theorem ofJson_naming (name : String) :
    ofJson (.object [("include", .array [.string name])]) = .ok (naming name) := rfl

theorem ofJson_scoping (name : String) :
    ofJson (.object [("include", .array [.object [("relation", .string name),
      ("scope", .object [])]])]) = .ok (scoping name) := rfl

end Filter

/-! ## How they compile -/

/-- The query that asks for nothing selects all rows and columns. -/
theorem Query.render_empty (columns : ColumnSet) : ({} : Query).render columns =
    .ok ("SELECT * FROM " ++ Sql.identifier columns.table, []) := by
  have hend : "SELECT * FROM " ++ Sql.identifier columns.table =
      "SELECT * FROM " ++ Sql.identifier columns.table ++ "" ++ "" ++ "" := by
    simp only [String.append_empty]
  rw [hend]
  rfl

/-- Columns are found of a table that has any. -/
theorem ColumnCache.exists_resolve (cache : ColumnCache) {schema : TableSchema}
    (h : schema.columns ≠ []) : ∃ columns, (cache.resolve schema).1 = .ok columns := by
  rw [resolve]
  split
  · exact ⟨_, rfl⟩
  · rw [ColumnSet.ofSchema_of_ne_nil h]
    exact ⟨_, rfl⟩

namespace Compiler

variable {compiler : Compiler} {schema : TableSchema}

/-- The empty filter needs no more than the columns of its table. -/
theorem compileAt_empty (depth : Nat) : compileAt compiler depth schema {} = (do
    let _ ← resolve schema
    return {}) := by
  rw [compileAt_eq]
  simp only [compileClause, compileOrder, compileProjection, includeAll, pure_bind]
  rfl

/-- How a filter compiles that does nothing but include one relation. -/
theorem compileAt_single (depth : Nat) {item : Json} {inclusion : Inclusion}
    (hread : Inclusion.ofJson schema.name item = .ok inclusion) :
    compileAt compiler depth schema { included := some [item] } = (do
      let _ ← resolve schema
      let relation ← check (permit compiler depth schema.name inclusion)
      let related ← relate compiler depth schema.name inclusion relation
      return { included := some [(inclusion.relation, related)] }) := by
  have hcheck : check (Inclusion.ofJson schema.name item) = pure inclusion := by
    rw [hread]
    rfl
  rw [compileAt_eq]
  simp only [compileClause, compileOrder, compileProjection, includeAll, compileIncluded_cons,
    hcheck, compileIncluded, map_eq_pure_bind, pure_bind, bind_assoc]
  rfl

variable {name : String} {relation : Relation}

/-- How an inclusion of a relation of the catalog compiles alone. -/
theorem compile_single {item : Json} {scope : Option Filter}
    (hread : Inclusion.ofJson schema.name item = .ok ⟨name, scope⟩)
    (hrelation : compiler.catalog.relation? schema.name name = some relation) :
    compiler.compile schema { included := some [item] } = (do
      let _ ← resolve schema
      check (compiler.allow 0 schema.name ⟨name, scope⟩)
      let related ← relate compiler 0 schema.name ⟨name, scope⟩ relation
      return { included := some [(name, related)] }) := by
  have hfound : check (compiler.lookUp schema.name ⟨name, scope⟩) = pure relation := by
    rw [lookUp, hrelation]
    rfl
  rw [compile, compileAt_single 0 hread]
  simp only [check_permit_bind, hfound, pure_bind]

section Whole

variable (hrelation : compiler.catalog.relation? schema.name name = some relation)
  (hhidden : compiler.hiddenBy? relation = none)

include hrelation hhidden

/-- By its name a relation that hides nothing is wanted as a whole. -/
theorem answer_naming (before : Journal) :
    (compiler.compile schema (.naming name)).answer before = (do
      let _ ← (before.cache.resolve schema).1
      compiler.allow 0 schema.name ⟨name, none⟩
      return { included := some [(name, .all)] }) := by
  have hrelate : relate compiler 0 schema.name ⟨name, none⟩ relation = pure .all := by
    rw [relate, hhidden]
    rfl
  have hread : Inclusion.ofJson schema.name (.string name) = .ok ⟨name, none⟩ := rfl
  rw [Filter.naming, compile_single hread hrelation, hrelate, answer_bind, answer_resolve]
  simp only [answer_bind, pure_bind]
  rfl

/-- **The empty scope compiles like the name**, and then the target and its columns are looked up. -/
theorem answer_scoping (before : Journal) :
    (compiler.compile schema (.scoping name)).answer before = (do
      let _ ← (compiler.compile schema (.naming name)).answer before
      let target ← compiler.targetOf schema.name ⟨name, some {}⟩ relation
      let _ ← (((resolve schema).left before).cache.resolve target).1
      return { included := some [(name, .scoped {})] }) := by
  have hrelate : relate compiler 0 schema.name ⟨name, some {}⟩ relation = (do
      let target ← check (targetOf compiler schema.name ⟨name, some {}⟩ relation)
      let _ ← resolve target
      return .scoped {}) := by
    rw [relate, if_neg (by simp), hhidden]
    simp only [Option.getD_some, compileAt_empty, hide, bind_assoc, pure_bind]
  have hread : Inclusion.ofJson schema.name
      (.object [("relation", .string name), ("scope", .object [])]) = .ok ⟨name, some {}⟩ := rfl
  rw [answer_naming hrelation hhidden, Filter.scoping, compile_single hread hrelation, hrelate,
    answer_bind, answer_resolve]
  simp only [answer_bind, bind_assoc, pure_bind, answer_resolve]
  rfl

/-- Where the target and its columns are found, the empty scope is accepted whenever the name is. -/
theorem answer_scoping_of_found {before : Journal} {target : TableSchema} {columns : ColumnSet}
    (htarget : compiler.catalog.table? relation.target = some target)
    (hcolumns : (((resolve schema).left before).cache.resolve target).1 = .ok columns) :
    (compiler.compile schema (.scoping name)).answer before = (do
      let _ ← (compiler.compile schema (.naming name)).answer before
      return { included := some [(name, .scoped {})] }) := by
  rw [answer_scoping hrelation hhidden]
  refine congrArg (_ >>= ·) (funext fun _ => ?_)
  exact bind_eq_ok_iff.2 ⟨target, targetOf_eq htarget _ _, bind_eq_ok_iff.2 ⟨columns, hcolumns, rfl⟩⟩

/-- **A name and the empty scope ask for the same.**  The name makes the shorthand for all rows and
columns, and the empty scope makes the query that asks for nothing else, which selects them.  The scope
is accepted just if the name is and the target is a table of the catalog with known columns; so if it
has columns the two are accepted together, and fail with the same errors. -/
theorem naming_and_scoping (before : Journal) :
    (∀ query, (compiler.compile schema (.naming name)).answer before = .ok query →
      query = { included := some [(name, .all)] }) ∧
    (∀ query, (compiler.compile schema (.scoping name)).answer before = .ok query →
      query = { included := some [(name, .scoped {})] }) ∧
    (∀ columns : ColumnSet, ({} : Query).render columns =
      .ok ("SELECT * FROM " ++ Sql.identifier columns.table, [])) ∧
    ((∃ query, (compiler.compile schema (.scoping name)).answer before = .ok query) ↔
      (∃ query, (compiler.compile schema (.naming name)).answer before = .ok query) ∧
        ∃ target columns, compiler.catalog.table? relation.target = some target ∧
          (((resolve schema).left before).cache.resolve target).1 = .ok columns) ∧
    ∀ target, compiler.catalog.table? relation.target = some target → target.columns ≠ [] →
      ((∃ query, (compiler.compile schema (.naming name)).answer before = .ok query) ↔
        ∃ query, (compiler.compile schema (.scoping name)).answer before = .ok query) ∧
      ∀ error, (compiler.compile schema (.naming name)).answer before = .error error ↔
        (compiler.compile schema (.scoping name)).answer before = .error error := by
  have hscoping := answer_scoping hrelation hhidden before
  refine ⟨fun query h => ?_, fun query h => ?_, Query.render_empty, ?_, fun target htarget hne => ?_⟩
  · rw [answer_naming hrelation hhidden] at h
    obtain ⟨_, -, h⟩ := bind_eq_ok_iff.1 h
    obtain ⟨_, -, h⟩ := bind_eq_ok_iff.1 h
    exact (Except.ok.inj h).symm
  · rw [hscoping] at h
    obtain ⟨_, -, h⟩ := bind_eq_ok_iff.1 h
    obtain ⟨_, -, h⟩ := bind_eq_ok_iff.1 h
    obtain ⟨_, -, h⟩ := bind_eq_ok_iff.1 h
    exact (Except.ok.inj h).symm
  · constructor
    · rintro ⟨query, h⟩
      rw [hscoping] at h
      obtain ⟨first, hnaming, h⟩ := bind_eq_ok_iff.1 h
      obtain ⟨target, htarget, h⟩ := bind_eq_ok_iff.1 h
      obtain ⟨columns, hcolumns, -⟩ := bind_eq_ok_iff.1 h
      exact ⟨⟨first, hnaming⟩, target, columns, table?_of_targetOf htarget, hcolumns⟩
    · rintro ⟨⟨first, hnaming⟩, target, columns, htarget, hcolumns⟩
      rw [answer_scoping_of_found hrelation hhidden htarget hcolumns, hnaming]
      exact ⟨_, rfl⟩
  · obtain ⟨columns, hcolumns⟩ := ColumnCache.exists_resolve ((resolve schema).left before).cache hne
    rw [answer_scoping_of_found hrelation hhidden htarget hcolumns]
    cases (compiler.compile schema (.naming name)).answer before with
    | error error => exact ⟨⟨nofun, nofun⟩, fun other => Iff.rfl⟩
    | ok query => exact ⟨⟨fun _ => ⟨_, rfl⟩, fun _ => ⟨_, rfl⟩⟩, fun error => ⟨nofun, nofun⟩⟩

end Whole

/-! Posts are a table with columns. -/

theorem naming_and_scoping_posts :
    (blog.compile blogUsers (.naming "posts")).answer {} =
        .ok { included := some [("posts", .all)] } ∧
      (blog.compile blogUsers (.scoping "posts")).answer {} =
        .ok { included := some [("posts", .scoped {})] } := by
  have hrelation : blog.catalog.relation? blogUsers.name "posts" =
      some ⟨"posts", .many, "posts", {}⟩ := by decide
  have hnaming : (blog.compile blogUsers (.naming "posts")).answer {} =
      .ok { included := some [("posts", .all)] } := by with_unfolding_all rfl
  obtain ⟨-, hmade, -, -, htogether⟩ := naming_and_scoping hrelation (by decide) {}
  obtain ⟨hboth, -⟩ := htogether ⟨"posts", [⟨"id", .integer⟩]⟩ (by decide) (by decide)
  obtain ⟨query, hscoping⟩ := hboth.1 ⟨_, hnaming⟩
  exact ⟨hnaming, hmade query hscoping ▸ hscoping⟩

/-! Without such a table only the name is accepted. -/

/-- Users with posts, which are no table, and with drafts, a table without columns. -/
def astray : Compiler where
  catalog :=
    { tables := [("drafts", ⟨"drafts", []⟩)],
      relations := [("users", [("drafts", ⟨"drafts", .many, "drafts", {}⟩),
        ("posts", ⟨"posts", .many, "posts", {}⟩)])] }

theorem naming_without_scoping :
    (astray.catalog.relation? "users" "posts" = some ⟨"posts", .many, "posts", {}⟩ ∧
      astray.hiddenBy? ⟨"posts", .many, "posts", {}⟩ = none ∧
      (astray.compile blogUsers (.naming "posts")).answer {} =
        .ok { included := some [("posts", .all)] } ∧
      (astray.compile blogUsers (.scoping "posts")).answer {} =
        .error (.unknownRelation "users" "posts")) ∧
    astray.catalog.relation? "users" "drafts" = some ⟨"drafts", .many, "drafts", {}⟩ ∧
      astray.hiddenBy? ⟨"drafts", .many, "drafts", {}⟩ = none ∧
      (astray.compile blogUsers (.naming "drafts")).answer {} =
        .ok { included := some [("drafts", .all)] } ∧
      (astray.compile blogUsers (.scoping "drafts")).answer {} = .error (.emptySchema "drafts") := by
  refine ⟨⟨by decide, by decide, ?_, ?_⟩, by decide, by decide, ?_, ?_⟩ <;> with_unfolding_all rfl

end Compiler
end ClauseSql
