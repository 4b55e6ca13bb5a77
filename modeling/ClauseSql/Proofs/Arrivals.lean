import ClauseSql.Proofs.HiddenColumns

/-!
# How far a compilation gets

The inclusions of a filter are compiled one after the other, and each scope before the next inclusion.
So a compilation gets as far as an inclusion when everything before it compiles, and whatever is wrong
with the inclusion is then what is wrong with the whole.

## What is here

* `Arrival` — an inclusion that a compilation gets to, and `Compiler.Reaches` — it does so, at any
  depth.
* `Compiler.answer_of_reaches` — a compilation that gets to an inclusion fails if the inclusion does,
  with the same error.
* `Compiler.reaches_of_includes` — whatever a compiled query includes was made by an inclusion that
  the compilation got to.
-/

set_option autoImplicit false

namespace ClauseSql

open CompileM

/-- An inclusion that a compilation has come to: how deep it is, the table that it is about, the relation
that it names, and what is known by then. -/
structure Arrival where
  depth : Nat
  source : TableSchema
  inclusion : Inclusion
  relation : Relation
  known : Journal

/-- The filter of the rows that are wanted of the relation. -/
def Arrival.scope (arrival : Arrival) : Filter := arrival.inclusion.scope.getD {}

namespace Compiler

variable {compiler : Compiler} {depth : Nat} {schema : TableSchema} {filter : Filter}
  {before after : Journal} {arrival : Arrival}

/-! ## One inclusion after the other -/

/-- Some inclusions compile, and then the others do. -/
theorem compileIncluded_append (depth : Nat) (schema : TableSchema) (front back : List Json) :
    ∀ done, compileIncluded compiler depth schema done (front ++ back) = (do
      let made ← compileIncluded compiler depth schema done front
      compileIncluded compiler depth schema made back) := by
  induction front with
  | nil =>
    intro done
    rw [compileIncluded, pure_bind]
    rfl
  | cons item rest ih =>
    intro done
    rw [List.cons_append, compileIncluded_cons, compileIncluded_cons]
    simp only [bind_assoc, ih]

/-- The members of a filter compile before its inclusions do. -/
theorem compileAt_eq_members (depth : Nat) (schema : TableSchema) (filter : Filter) :
    compileAt compiler depth schema filter = (do
      let query ← compileAt compiler depth schema { filter with included := none }
      let included ← includeAll compiler depth schema filter.included
      return { query with included }) := by
  rw [compileAt_eq, compileAt_eq]
  simp only [includeAll, bind_assoc, pure_bind]
  rfl

theorem includeAll_of_ne_nil {items : List Json} (h : items ≠ []) :
    includeAll compiler depth schema (some items) =
      some <$> compileIncluded compiler depth schema [] items := by
  cases items with
  | nil => exact absurd rfl h
  | cons item rest => rfl

theorem exists_ran_includeAll_iff {items : List Json} :
    (∃ included, Ran (includeAll compiler depth schema (some items)) before included after) ↔
      ∃ entries, Ran (compileIncluded compiler depth schema [] items) before entries after := by
  by_cases h : items = []
  · subst h
    rw [includeAll, compileIncluded]
    constructor <;>
    · rintro ⟨_, h⟩
      exact ⟨_, ran_pure_iff.2 ⟨rfl, (ran_pure_iff.1 h).2⟩⟩
  · simp [includeAll_of_ne_nil h, ran_map_iff]

/-- A filter with some inclusions compiles just if its members do and then these inclusions. -/
theorem exists_ran_compileAt_iff {items : List Json} :
    (∃ query, Ran (compileAt compiler depth schema { filter with included := some items }) before
      query after) ↔
      ∃ query between entries,
        Ran (compileAt compiler depth schema { filter with included := none }) before query between ∧
          Ran (compileIncluded compiler depth schema [] items) between entries after := by
  rw [compileAt_eq_members]
  constructor
  · rintro ⟨_, h⟩
    obtain ⟨query, between, hquery, h⟩ := ran_bind_iff.1 h
    obtain ⟨included, _, hincluded, h⟩ := ran_bind_iff.1 h
    obtain ⟨-, rfl⟩ := ran_pure_iff.1 h
    obtain ⟨entries, hentries⟩ := exists_ran_includeAll_iff.1 ⟨included, hincluded⟩
    exact ⟨query, between, entries, hquery, hentries⟩
  · rintro ⟨query, between, entries, hquery, hentries⟩
    obtain ⟨included, hincluded⟩ := exists_ran_includeAll_iff.2 ⟨entries, hentries⟩
    exact ⟨_, ran_bind_iff.2 ⟨query, between, hquery, ran_bind_iff.2 ⟨included, after, hincluded,
      ran_pure_iff.2 ⟨rfl, rfl⟩⟩⟩⟩

/-! ## Getting to an inclusion -/

/-- Compiling a filter gets to an inclusion that it lists: without that inclusion and those after it the
filter compiles, and the relation may be included. -/
structure ComesTo (compiler : Compiler) (depth : Nat) (schema : TableSchema) (filter : Filter)
    (before : Journal) (arrival : Arrival) : Prop where
  depth_eq : arrival.depth = depth
  source_eq : arrival.source = schema
  permitted : compiler.permit depth schema.name arrival.inclusion = .ok arrival.relation
  listed : ∃ front item rest query, filter.included = some (front ++ item :: rest) ∧
    Inclusion.ofJson schema.name item = .ok arrival.inclusion ∧
    Ran (compileAt compiler depth schema { filter with included := some front }) before query
      arrival.known

/-- Compiling a filter gets to an inclusion at any depth, through the scopes of others. -/
inductive Reaches (compiler : Compiler) (arrival : Arrival) :
    Nat → TableSchema → Filter → Journal → Prop where
  | here {depth : Nat} {schema : TableSchema} {filter : Filter} {before : Journal}
    (h : compiler.ComesTo depth schema filter before arrival) :
    Reaches compiler arrival depth schema filter before
  | within {depth : Nat} {schema target : TableSchema} {filter : Filter} {before : Journal}
    {outer : Arrival} (houter : compiler.ComesTo depth schema filter before outer)
    (htarget : compiler.targetOf schema.name outer.inclusion outer.relation = .ok target)
    (hinner : Reaches compiler arrival (depth + 1) target outer.scope outer.known) :
    Reaches compiler arrival depth schema filter before

/-- What is made of an inclusion that a compilation has come to. -/
def make (compiler : Compiler) (arrival : Arrival) : CompileM (Related Query) :=
  relate compiler arrival.depth arrival.source.name arrival.inclusion arrival.relation

/-- A compilation gets to no inclusion of a filter that has none. -/
theorem Reaches.exists_included (h : compiler.Reaches arrival depth schema filter before) :
    ∃ items, filter.included = some items := by
  cases h with
  | here h =>
    obtain ⟨front, item, rest, query, hitems, -, -⟩ := h.listed
    exact ⟨_, hitems⟩
  | within houter _ _ =>
    obtain ⟨front, item, rest, query, hitems, -, -⟩ := houter.listed
    exact ⟨_, hitems⟩

theorem Reaches.permitted (h : compiler.Reaches arrival depth schema filter before) :
    compiler.permit arrival.depth arrival.source.name arrival.inclusion = .ok arrival.relation := by
  induction h with
  | here h => exact h.depth_eq ▸ h.source_eq ▸ h.permitted
  | within _ _ _ ih => exact ih

/-! ## Failures -/

theorem ComesTo.answer_eq_error (h : compiler.ComesTo depth schema filter before arrival)
    {error : CompileError} (herror : (compiler.make arrival).answer arrival.known = .error error) :
    (compileAt compiler depth schema filter).answer before = .error error := by
  obtain ⟨front, item, rest, query, hitems, hread, hfront⟩ := h.listed
  obtain ⟨members, between, entries, hmembers, hentries⟩ := exists_ran_compileAt_iff.1 ⟨query, hfront⟩
  have hinclusion : Ran (check (Inclusion.ofJson schema.name item)) arrival.known arrival.inclusion
      arrival.known := ran_check_iff.2 ⟨hread, rfl⟩
  have hrelation : Ran (check (permit compiler depth schema.name arrival.inclusion)) arrival.known
      arrival.relation arrival.known := ran_check_iff.2 ⟨h.permitted, rfl⟩
  rw [make, h.depth_eq, h.source_eq] at herror
  have hincluded : (compileIncluded compiler depth schema [] (front ++ item :: rest)).answer
      between = .error error := by
    rw [compileIncluded_append, hentries.answer_bind, compileIncluded_cons, hinclusion.answer_bind,
      hrelation.answer_bind]
    exact (bind_of_error herror).1
  have hne : front ++ item :: rest ≠ [] := by simp
  rw [compileAt_eq_members, hmembers.answer_bind, hitems, includeAll_of_ne_nil hne,
    map_eq_pure_bind, bind_assoc]
  exact (bind_of_error hincluded).1

/-- **A failing inclusion fails the whole**, with the same error, once a compilation gets to it. -/
theorem answer_of_reaches (h : compiler.Reaches arrival depth schema filter before)
    {error : CompileError} (herror : (compiler.make arrival).answer arrival.known = .error error) :
    (compileAt compiler depth schema filter).answer before = .error error := by
  induction h with
  | here h => exact h.answer_eq_error herror
  | @within depth schema target filter before outer houter htarget hinner ih =>
    refine houter.answer_eq_error ?_
    obtain ⟨items, hitems⟩ := hinner.exists_included
    -- The shorthand has no scope, and so nothing is reached through it.
    have hscope : outer.inclusion.scope.isNone = false := by
      cases hscope : outer.inclusion.scope with
      | none => rw [Arrival.scope, hscope] at hitems; cases hitems
      | some scope => rfl
    have hfound : Ran (check (targetOf compiler schema.name outer.inclusion outer.relation))
        outer.known target outer.known := ran_check_iff.2 ⟨htarget, rfl⟩
    rw [make, relate, hscope, Bool.false_and, if_neg Bool.false_ne_true, houter.depth_eq,
      houter.source_eq, hfound.answer_bind]
    exact (bind_of_error ih).1

/-! ## Entries -/

/-- An entry was there before, or it was made by an inclusion that was come to. -/
theorem exists_front_of_mem {items : List Json} : ∀ {done entries : NameMap (Related Query)}
    {before : Journal}, Ran (compileIncluded compiler depth schema done items) before entries after →
    ∀ {name related}, (name, related) ∈ entries → (name, related) ∈ done ∨
      ∃ front item rest made start inclusion relation finish, items = front ++ item :: rest ∧
        Ran (compileIncluded compiler depth schema done front) before made start ∧
        Inclusion.ofJson schema.name item = .ok inclusion ∧ inclusion.relation = name ∧
        compiler.permit depth schema.name inclusion = .ok relation ∧
        Ran (relate compiler depth schema.name inclusion relation) start related finish ∧
        finish.Keeps after := by
  induction items with
  | nil =>
    intro done entries before h name related hmem
    obtain ⟨rfl, -⟩ := ran_compileIncluded_nil h
    exact .inl hmem
  | cons item rest ih =>
    intro done entries before h name related hmem
    rw [compileIncluded_cons] at h
    obtain ⟨inclusion, _, hinclusion, h⟩ := ran_bind_iff.1 h
    obtain ⟨relation, _, hrelation, h⟩ := ran_bind_iff.1 h
    obtain ⟨first, between, hfirst, hrest⟩ := ran_bind_iff.1 h
    obtain ⟨hread, rfl⟩ := ran_check_iff.1 hinclusion
    obtain ⟨hpermit, rfl⟩ := ran_check_iff.1 hrelation
    rcases ih hrest hmem with hmem | ⟨front, later, rest, made, start, hlater⟩
    · rcases NameMap.mem_of_mem_insert hmem with heq | hmem
      · cases heq
        have hnone : Ran (compileIncluded compiler depth schema done []) before done before := by
          rw [compileIncluded]
          exact ran_pure_iff.2 ⟨rfl, rfl⟩
        have hkeeps : between.Keeps after :=
          hrest.left_eq ▸ (repeatable_compileIncluded compiler depth schema _ rest).keeps between
        exact .inr ⟨[], item, rest, done, before, inclusion, relation, between, rfl, hnone, hread,
          rfl, hpermit, hfirst, hkeeps⟩
      · exact .inl hmem
    · obtain ⟨inclusion', relation', finish, rfl, hfront, hmade⟩ := hlater
      refine .inr ⟨item :: front, later, rest, made, start, inclusion', relation', finish, rfl, ?_,
        hmade⟩
      rw [compileIncluded_cons]
      exact ran_bind_iff.2 ⟨inclusion, _, hinclusion, ran_bind_iff.2 ⟨relation, _, hrelation,
        ran_bind_iff.2 ⟨first, between, hfirst, hfront⟩⟩⟩

/-- The entry of a relation in a compiled query was made by an inclusion that was come to. -/
theorem comesTo_of_mem_included {query : Query}
    (h : Ran (compileAt compiler depth schema filter) before query after)
    {entries : List (String × Related Query)} (hentries : query.included = some entries)
    {name : String} {related : Related Query} (hmem : (name, related) ∈ entries) :
    ∃ arrival finish, compiler.ComesTo depth schema filter before arrival ∧
      arrival.inclusion.relation = name ∧
      Ran (compiler.make arrival) arrival.known related finish ∧ finish.Keeps after := by
  rw [compileAt_eq_members] at h
  obtain ⟨members, between, hmembers, h⟩ := ran_bind_iff.1 h
  obtain ⟨included, _, hincluded, h⟩ := ran_bind_iff.1 h
  obtain ⟨rfl, rfl⟩ := ran_pure_iff.1 h
  rcases ran_includeAll hincluded with ⟨rfl, -, -⟩ | ⟨items, found, hitems, rfl, hran⟩
  · cases hentries
  · cases hentries
    rcases exists_front_of_mem hran hmem with hmem | ⟨front, item, rest, made, start, hmade⟩
    · cases hmem
    · obtain ⟨inclusion, relation, finish, rfl, hfront, hread, hname, hpermit, hrelate, hkeeps⟩ :=
        hmade
      obtain ⟨query, hquery⟩ := exists_ran_compileAt_iff.2 ⟨members, between, made, hmembers, hfront⟩
      exact ⟨⟨depth, schema, inclusion, relation, start⟩, finish, ⟨rfl, rfl, hpermit,
        front, item, rest, query, hitems, hread, hquery⟩, hname, hrelate, hkeeps⟩

/-- Induction on where the inclusion is.  The query of an inclusion differs from a compiled one in its
projection, so all that is assumed of a query is that it has the inclusions of a compiled one. -/
theorem reaches_of_includes_of_included {table source name : String} {query : Query}
    {related : Related Query} (h : query.Includes compiler.catalog table source name related) :
    ∀ {depth : Nat} {schema : TableSchema} {filter : Filter} {compiled : Query}
      {before after : Journal}, schema.name = table →
      Ran (compileAt compiler depth schema filter) before compiled after →
      query.included = compiled.included →
      ∃ arrival finish, compiler.Reaches arrival depth schema filter before ∧
        arrival.source.name = source ∧ arrival.inclusion.relation = name ∧
        Ran (compiler.make arrival) arrival.known related finish ∧ finish.Keeps after := by
  induction h with
  | here hentries hmem =>
    rintro depth schema filter compiled before after rfl hran hincluded
    obtain ⟨arrival, finish, hcomes, hname, hmade, hkeeps⟩ :=
      comesTo_of_mem_included hran (hincluded ▸ hentries) hmem
    exact ⟨arrival, finish, .here hcomes, congrArg TableSchema.name hcomes.source_eq, hname, hmade,
      hkeeps⟩
  | within hentries hmem hrelation htarget hinner ih =>
    rintro depth schema filter compiled before after rfl hran hincluded
    obtain ⟨outer, finish, hcomes, rfl, hmade, hkeeps⟩ :=
      comesTo_of_mem_included hran (hincluded ▸ hentries) hmem
    cases hrelation.symm.trans (relation?_of_permit hcomes.permitted)
    rw [make, hcomes.depth_eq, hcomes.source_eq] at hmade
    cases wanted_of_ran_relate hmade with
    | @own found compiled _ between _ hfound hquery hhide =>
      cases htarget.symm.trans (table?_of_targetOf hfound)
      obtain ⟨arrival, last, hreaches, hsource, hname, hinner, hlast⟩ :=
        ih rfl hquery (included_of_ran_hide hhide)
      have hbetween : between.Keeps finish :=
        hhide.left_eq ▸ (repeatable_hide _ _ compiled).keeps between
      exact ⟨arrival, last, .within hcomes hfound hreaches, hsource, hname, hinner,
        (hlast.trans hbetween).trans hkeeps⟩

/-- **What a compiled query includes was come to.**  Every inclusion of the query was made by an
inclusion that the compilation got to, and what was known then is still known in the end. -/
theorem reaches_of_includes {query : Query}
    (h : Ran (compiler.compile schema filter) before query after) {source name : String}
    {related : Related Query}
    (hi : query.Includes compiler.catalog schema.name source name related) :
    ∃ arrival finish, compiler.Reaches arrival 0 schema filter before ∧
      arrival.source.name = source ∧ arrival.inclusion.relation = name ∧
      Ran (compiler.make arrival) arrival.known related finish ∧ finish.Keeps after :=
  reaches_of_includes_of_included hi rfl h rfl

end Compiler
end ClauseSql
