import ClauseSql.Compiler
import ClauseSql.Proofs.Steps

/-!
# How filters compile

A filter is compiled against the columns of its table, and each of its inclusions against those of
the relation's target, one after the other with one journal.  The journal remembers the columns of
every table that was resolved, and forgets nothing.

## What is here

* `CompileM.Ran` — a computation succeeds, from one journal to another.
* `Compiled` — what is known of the query of a filter, member by member.
* `Wanted` — how the entry of one inclusion comes about.
* `Compiler.ran_compileAt` and `Compiler.ran_compileIncluded_cons` — these are the ways in which
  filters and inclusions compile.
* `Journal.Keeps` — a journal knows whatever an earlier one knew.
-/

set_option autoImplicit false

namespace ClauseSql

/-! ## Successful runs -/

namespace CompileM

variable {α β : Type} {before after : Journal}

/-- A computation succeeds with a result, and leaves one journal as another one. -/
def Ran (computation : CompileM α) (before : Journal) (result : α) (after : Journal) : Prop :=
  computation.run.run before = (.ok result, after)

/-- A computation succeeds where something can be told of its result. -/
theorem exists_ran {x : CompileM α} {f : α → β} {b : β}
    (h : (x.run.run before).1.toOption.map f = some b) :
    ∃ a after, Ran x before a after ∧ f a = b := by
  unfold Ran
  cases hx : x.run.run before with
  | mk result after =>
    rw [hx] at h
    cases result with
    | error e => cases h
    | ok a => exact ⟨a, after, rfl, Option.some.inj h⟩

theorem ran_pure_iff {a b : α} : Ran (pure a) before b after ↔ a = b ∧ before = after := by
  refine ⟨fun h => ?_, fun ⟨hresult, hjournal⟩ => ?_⟩
  · cases h
    exact ⟨rfl, rfl⟩
  · rw [hresult, hjournal]
    rfl

theorem run_bind (x : CompileM α) (f : α → CompileM β) (before : Journal) :
    (x >>= f).run.run before =
      match x.run.run before with
      | (.ok a, between) => (f a).run.run between
      | (.error e, between) => (.error e, between) := by
  show ((ExceptT.bindCont f) (x.run.run before).1).run (x.run.run before).2 = _
  rcases x.run.run before with ⟨_ | a, between⟩ <;> rfl

theorem ran_bind_iff {x : CompileM α} {f : α → CompileM β} {b : β} :
    Ran (x >>= f) before b after ↔
      ∃ a between, Ran x before a between ∧ Ran (f a) between b after := by
  unfold Ran
  rw [run_bind]
  rcases x.run.run before with ⟨_ | a, between⟩
  · refine ⟨fun h => ?_, fun ⟨a, _, h, _⟩ => ?_⟩ <;> cases h
  · refine ⟨fun h => ⟨a, between, rfl, h⟩, fun ⟨_, _, h, hf⟩ => ?_⟩
    cases h
    exact hf

theorem ran_map_iff {x : CompileM α} {f : α → β} {b : β} :
    Ran (f <$> x) before b after ↔ ∃ a, Ran x before a after ∧ f a = b := by
  rw [map_eq_pure_bind, ran_bind_iff]
  refine ⟨fun ⟨a, _, hx, hf⟩ => ?_, fun ⟨a, hx, hf⟩ => ⟨a, after, hx, ran_pure_iff.2 ⟨hf, rfl⟩⟩⟩
  obtain ⟨hresult, rfl⟩ := ran_pure_iff.1 hf
  exact ⟨a, hx, hresult⟩

theorem ran_check_iff {result : Except CompileError α} {a : α} :
    Ran (check result) before a after ↔ result = .ok a ∧ before = after := by
  show (result, before) = (Except.ok a, after) ↔ _
  exact Prod.mk.injEq .. ▸ Iff.rfl

theorem ran_warn_iff {warnings : List Warning} {u : Unit} :
    Ran (warn warnings) before u after ↔
      { before with warnings := before.warnings ++ warnings } = after :=
  ⟨fun h => congrArg Prod.snd h, fun h => h ▸ rfl⟩

theorem run_resolve (schema : TableSchema) (before : Journal) :
    ∃ warnings, (resolve schema).run.run before = ((before.cache.resolve schema).1,
      { cache := (before.cache.resolve schema).2, warnings }) := by
  cases hknown : (NameMap.find? schema.name before.cache).isNone with
  | true =>
    refine ⟨before.warnings ++ ColumnSet.warnings schema, ?_⟩
    show (ite _ _ _ : CompileM ColumnSet).run.run before = _
    rw [if_pos hknown]
    rfl
  | false =>
    refine ⟨before.warnings, ?_⟩
    show (ite _ _ _ : CompileM ColumnSet).run.run before = _
    rw [if_neg (by rw [hknown]; exact Bool.false_ne_true)]
    rfl

theorem ran_resolve {schema : TableSchema} {columns : ColumnSet}
    (h : Ran (resolve schema) before columns after) :
    before.cache.resolve schema = (.ok columns, after.cache) := by
  obtain ⟨warnings, hrun⟩ := run_resolve schema before
  obtain ⟨hresult, rfl⟩ := Prod.mk.inj (hrun.symm.trans h)
  exact Prod.ext hresult rfl

end CompileM

open CompileM

/-! ## What journals know -/

namespace Journal

/-- A journal knows the columns of every table that an earlier one knew. -/
def Keeps (before after : Journal) : Prop :=
  ∀ name columns, NameMap.find? name before.cache = some columns →
    NameMap.find? name after.cache = some columns

theorem Keeps.refl (journal : Journal) : journal.Keeps journal := fun _ _ h => h

theorem Keeps.trans {first second third : Journal} (h : first.Keeps second)
    (h' : second.Keeps third) : first.Keeps third :=
  fun name columns hfind => h' name columns (h name columns hfind)

theorem Keeps.of_cache {before after : Journal} (h : before.cache = after.cache) :
    before.Keeps after := fun _ _ hfind => h ▸ hfind

/-- A journal agrees with a declaration when the columns it knows under the name are the declared
ones. -/
def Agrees (journal : Journal) (schema : TableSchema) : Prop :=
  ∀ columns, NameMap.find? schema.name journal.cache = some columns →
    ColumnSet.ofSchema schema = .ok columns

/-- A journal that knows no columns agrees with every declaration. -/
theorem agrees_empty (schema : TableSchema) : Agrees {} schema := nofun

end Journal

namespace ColumnCache

variable {before after : ColumnCache} {schema : TableSchema} {columns : ColumnSet}

/-- The columns of a table are those known under its name, or else the declared ones. -/
theorem resolve_eq_ok (h : before.resolve schema = (.ok columns, after)) :
    (NameMap.find? schema.name before = some columns ∧ after = before) ∨
      (NameMap.find? schema.name before = none ∧ ColumnSet.ofSchema schema = .ok columns ∧
        after = NameMap.insert schema.name columns before) := by
  rw [resolve] at h
  split at h
  · rename_i hfind
    cases h
    exact .inl ⟨hfind, rfl⟩
  · rename_i hfind
    split at h
    · cases h
    · rename_i hschema
      cases h
      exact .inr ⟨hfind, hschema, rfl⟩

theorem find?_of_resolve (h : before.resolve schema = (.ok columns, after)) :
    NameMap.find? schema.name after = some columns := by
  rcases resolve_eq_ok h with ⟨hfind, rfl⟩ | ⟨-, -, rfl⟩
  · exact hfind
  · exact NameMap.find?_insert_self ..

/-- What is known already stays known, whatever is looked up. -/
theorem find?_resolve_of_find? (schema : TableSchema) {name : String} {known : ColumnSet}
    (hfind : NameMap.find? name before = some known) :
    NameMap.find? name (before.resolve schema).2 = some known := by
  rw [resolve]
  split
  · exact hfind
  · rename_i hnone
    split
    · exact hfind
    · have hne : name ≠ schema.name := by
        rintro rfl
        cases hnone.symm.trans hfind
      exact (NameMap.find?_insert_of_ne hne ..).trans hfind

end ColumnCache

/-- Where the journal agrees with a declaration, the resolved columns are the declared ones. -/
theorem Journal.Agrees.ofSchema_eq {journal : Journal} {schema : TableSchema} {columns : ColumnSet}
    (h : journal.Agrees schema) (hr : (journal.cache.resolve schema).1 = .ok columns) :
    ColumnSet.ofSchema schema = .ok columns := by
  rcases ColumnCache.resolve_eq_ok (Prod.ext hr rfl) with ⟨hknown, -⟩ | ⟨-, hschema, -⟩
  · exact h columns hknown
  · exact hschema

namespace CompileM

variable {before after : Journal} {schema : TableSchema} {columns : ColumnSet}

/-- A table that is known already has the columns that are known. -/
theorem Ran.resolve_eq {known : ColumnSet} (h : Ran (resolve schema) before columns after)
    (hfind : NameMap.find? schema.name before.cache = some known) : columns = known := by
  rcases ColumnCache.resolve_eq_ok (ran_resolve h) with ⟨hknown, -⟩ | ⟨hnone, -⟩
  · exact Option.some.inj (hknown.symm.trans hfind)
  · cases hnone.symm.trans hfind

end CompileM

/-! ## Queries -/

/-- A query holds what the members of a filter compile to, against the columns of a table. -/
structure Compiled (table : String) (columns : ColumnSet) (filter : Filter) (query : Query) :
    Prop where
  limit : query.limit = filter.limit
  offset : query.offset = filter.effectiveOffset
  condition : ∀ {predicate}, query.condition = some predicate →
    ∃ clause, filter.clause = some clause ∧ clause.compile columns = .ok (some predicate)
  order : ∀ {keys}, query.order = some keys →
    ∃ entries, filter.order = some entries ∧ Order.compile columns entries = .ok keys
  projection : ∀ {projection}, query.projection = some projection →
    ∃ fields, filter.fields = some fields ∧ Projection.compile table fields = .ok projection

namespace Compiler

variable {compiler : Compiler} {before after : Journal}

theorem ran_compileClause {columns : ColumnSet} {clause : Option Clause}
    {condition : Option Predicate} (h : Ran (compileClause columns clause) before condition after) :
    before = after ∧ ∀ {predicate}, condition = some predicate →
      ∃ given, clause = some given ∧ given.compile columns = .ok (some predicate) := by
  cases clause with
  | none =>
    obtain ⟨rfl, rfl⟩ := ran_pure_iff.1 h
    exact ⟨rfl, nofun⟩
  | some given =>
    obtain ⟨hcompile, rfl⟩ := ran_check_iff.1 h
    exact ⟨rfl, fun hsome => ⟨given, rfl, hsome ▸ hcompile⟩⟩

theorem ran_compileOrder {columns : ColumnSet} {entries : Option (List String)}
    {order : Option (List OrderKey)} (h : Ran (compileOrder columns entries) before order after) :
    before.cache = after.cache ∧ ∀ {keys}, order = some keys →
      ∃ given, entries = some given ∧ Order.compile columns given = .ok keys := by
  cases entries with
  | none =>
    obtain ⟨rfl, rfl⟩ := ran_pure_iff.1 h
    exact ⟨rfl, nofun⟩
  | some given =>
    obtain ⟨_, _, hwarn, h⟩ := ran_bind_iff.1 h
    obtain ⟨keys, _, hkeys, h⟩ := ran_bind_iff.1 h
    obtain ⟨hcompile, rfl⟩ := ran_check_iff.1 hkeys
    obtain ⟨rfl, rfl⟩ := ran_pure_iff.1 h
    refine ⟨by rw [← ran_warn_iff.1 hwarn], fun {chosen} hsome => ⟨given, rfl, ?_⟩⟩
    split at hsome
    · cases hsome
    · rwa [← Option.some.inj hsome]

/-- The projection that the fields of a filter ask for. -/
def requestedOf (table : String) : Option Json → Except CompileError (Option Projection)
  | none => .ok none
  | some fields => do
    let projection ← Projection.compile table fields
    .ok (some projection)

theorem ran_compileProjection {table : String} {fields : Option Json}
    {projection : Option Projection}
    (h : Ran (compileProjection table fields) before projection after) :
    before.cache = after.cache ∧ ∀ {chosen}, projection = some chosen →
      ∃ given, fields = some given ∧ Projection.compile table given = .ok chosen := by
  cases fields with
  | none =>
    obtain ⟨rfl, rfl⟩ := ran_pure_iff.1 h
    exact ⟨rfl, nofun⟩
  | some given =>
    obtain ⟨_, _, hwarn, h⟩ := ran_bind_iff.1 h
    obtain ⟨projection, _, hprojection, h⟩ := ran_bind_iff.1 h
    obtain ⟨hcompile, rfl⟩ := ran_check_iff.1 hprojection
    obtain ⟨rfl, rfl⟩ := ran_pure_iff.1 h
    refine ⟨by rw [← ran_warn_iff.1 hwarn], fun hsome => ⟨given, rfl, ?_⟩⟩
    rwa [← Option.some.inj hsome]

/-- What the inclusions of a filter make, if it has any. -/
def includeAll (compiler : Compiler) (depth : Nat) (schema : TableSchema) :
    Option (List Json) → CompileM (Option (NameMap (Related Query)))
  | none | some [] => pure none
  | some (item :: rest) => some <$> compileIncluded compiler depth schema [] (item :: rest)

/-- A filter compiles in these steps. -/
theorem compileAt_eq (compiler : Compiler) (depth : Nat) (schema : TableSchema) (filter : Filter) :
    compileAt compiler depth schema filter = (do
      let columns ← resolve schema
      let condition ← compileClause columns filter.clause
      let order ← compileOrder columns filter.order
      let projection ← compileProjection schema.name filter.fields
      let included ← includeAll compiler depth schema filter.included
      return { limit := filter.limit, offset := filter.effectiveOffset, order, condition, included,
               projection }) := by
  rw [compileAt]
  obtain ⟨clause, fields, order, included, limit, offset, skip⟩ := filter
  match included with
  | none => rfl
  | some [] => rfl
  | some (item :: rest) => rfl

theorem ran_includeAll {depth : Nat} {schema : TableSchema} {wanted : Option (List Json)}
    {included : Option (NameMap (Related Query))}
    (h : Ran (includeAll compiler depth schema wanted) before included after) :
    included = none ∧ before = after ∧ wanted.getD [] = [] ∨
      ∃ items entries, wanted = some items ∧ included = some entries ∧
        Ran (compileIncluded compiler depth schema [] items) before entries after := by
  match wanted with
  | none | some [] =>
    obtain ⟨rfl, rfl⟩ := ran_pure_iff.1 h
    exact .inl ⟨rfl, rfl, rfl⟩
  | some (item :: rest) =>
    obtain ⟨entries, hentries, rfl⟩ := ran_map_iff.1 h
    exact .inr ⟨item :: rest, entries, rfl, rfl, hentries⟩

/-- **How a filter compiles.**  The columns of its table are resolved, the members are compiled
against them, and then the inclusions are, if there are any. -/
theorem ran_compileAt {depth : Nat} {schema : TableSchema} {filter : Filter} {query : Query}
    (h : Ran (compileAt compiler depth schema filter) before query after) :
    ∃ columns resolved between, Ran (resolve schema) before columns resolved ∧
      resolved.cache = between.cache ∧ Compiled schema.name columns filter query ∧
      (query.included = none ∧ between = after ∧ filter.included.getD [] = [] ∨
        ∃ items entries, filter.included = some items ∧ query.included = some entries ∧
          Ran (compileIncluded compiler depth schema [] items) between entries after) := by
  rw [compileAt_eq] at h
  obtain ⟨columns, resolved, hresolve, h⟩ := ran_bind_iff.1 h
  obtain ⟨condition, _, hcondition, h⟩ := ran_bind_iff.1 h
  obtain ⟨order, ordered, horder, h⟩ := ran_bind_iff.1 h
  obtain ⟨projection, between, hprojection, h⟩ := ran_bind_iff.1 h
  obtain ⟨included, _, hincluded, h⟩ := ran_bind_iff.1 h
  obtain ⟨rfl, rfl⟩ := ran_pure_iff.1 h
  obtain ⟨rfl, hclause⟩ := ran_compileClause hcondition
  obtain ⟨hordered, hkeys⟩ := ran_compileOrder horder
  obtain ⟨hbetween, hfields⟩ := ran_compileProjection hprojection
  exact ⟨columns, resolved, between, hresolve, hordered.trans hbetween,
    ⟨rfl, rfl, hclause, hkeys, hfields⟩, ran_includeAll hincluded⟩

/-! ## Inclusions -/

/-- What one inclusion of a relation makes: the shorthand for all rows and columns, if it asks for
nothing else and nothing is hidden, or else a query on the target without what is hidden. -/
inductive Wanted (compiler : Compiler) (depth : Nat) (table : String) (inclusion : Inclusion)
    (relation : Relation) (before : Journal) : Related Query → Journal → Prop where
  | all (hscope : inclusion.scope = none) (hhidden : compiler.hiddenBy? relation = none) :
    Wanted compiler depth table inclusion relation before .all before
  | own {target : TableSchema} {query visible : Query} {between after : Journal}
    (htarget : compiler.targetOf table inclusion relation = .ok target)
    (hquery : Ran (compileAt compiler (depth + 1) target (inclusion.scope.getD {})) before query
      between)
    (hhide : Ran (hide target (compiler.hiddenBy? relation) query) between visible after)
    (hmore : ¬ (inclusion.scope = none ∧ compiler.hiddenBy? relation = none)) :
    Wanted compiler depth table inclusion relation before (.scoped visible) after

theorem relation?_of_permit {depth : Nat} {table : String} {inclusion : Inclusion}
    {relation : Relation} (h : compiler.permit depth table inclusion = .ok relation) :
    compiler.catalog.relation? table inclusion.relation = some relation := by
  rw [permit] at h
  split at h
  · cases h
  · rename_i found hfound
    split at h
    · cases h; exact hfound
    · split at h
      · cases h
      · cases h; exact hfound

theorem table?_of_targetOf {table : String} {inclusion : Inclusion} {relation : Relation}
    {target : TableSchema} (h : compiler.targetOf table inclusion relation = .ok target) :
    compiler.catalog.table? relation.target = some target := by
  rw [targetOf] at h
  split at h
  · cases h
  · rename_i found hfound
    cases h
    exact hfound

theorem targetOf_eq {relation : Relation} {target : TableSchema}
    (h : compiler.catalog.table? relation.target = some target) (table : String)
    (inclusion : Inclusion) : compiler.targetOf table inclusion relation = .ok target := by
  rw [targetOf, h]

/-- Hiding columns changes the projection and nothing else. -/
theorem exists_projection_of_ran_hide {target : TableSchema} {hidden : Option (List String)}
    {query visible : Query} (h : Ran (hide target hidden query) before visible after) :
    ∃ projection, visible = { query with projection } := by
  cases hidden with
  | none =>
    obtain ⟨rfl, -⟩ := ran_pure_iff.1 h
    exact ⟨query.projection, by cases query; rfl⟩
  | some hidden =>
    obtain ⟨columns, _, -, h⟩ := ran_bind_iff.1 h
    obtain ⟨projection, _, -, h⟩ := ran_bind_iff.1 h
    obtain ⟨rfl, -⟩ := ran_pure_iff.1 h
    exact ⟨some projection, rfl⟩

theorem included_of_ran_hide {target : TableSchema} {hidden : Option (List String)}
    {query visible : Query} (h : Ran (hide target hidden query) before visible after) :
    visible.included = query.included := by
  obtain ⟨projection, rfl⟩ := exists_projection_of_ran_hide h
  rfl

/-- What one inclusion makes. -/
def relate (compiler : Compiler) (depth : Nat) (table : String) (inclusion : Inclusion)
    (relation : Relation) : CompileM (Related Query) :=
  if inclusion.scope.isNone && (compiler.hiddenBy? relation).isNone then pure .all
  else do
    let target ← check (targetOf compiler table inclusion relation)
    let query ← compileAt compiler (depth + 1) target (inclusion.scope.getD {})
    let visible ← hide target (compiler.hiddenBy? relation) query
    return .scoped visible

theorem wanted_of_ran_relate {depth : Nat} {table : String} {inclusion : Inclusion}
    {relation : Relation} {related : Related Query}
    (h : Ran (relate compiler depth table inclusion relation) before related after) :
    Wanted compiler depth table inclusion relation before related after := by
  rw [relate] at h
  split at h <;> rename_i hall <;>
    rw [Bool.and_eq_true, Option.isNone_iff_eq_none, Option.isNone_iff_eq_none] at hall
  · obtain ⟨rfl, rfl⟩ := ran_pure_iff.1 h
    exact .all hall.1 hall.2
  · obtain ⟨target, _, htarget, h⟩ := ran_bind_iff.1 h
    obtain ⟨hfound, rfl⟩ := ran_check_iff.1 htarget
    obtain ⟨query, _, hquery, h⟩ := ran_bind_iff.1 h
    obtain ⟨visible, _, hhide, h⟩ := ran_bind_iff.1 h
    obtain ⟨rfl, rfl⟩ := ran_pure_iff.1 h
    exact .own hfound hquery hhide hall

/-- The first of several inclusions compiles in these steps. -/
theorem compileIncluded_cons (compiler : Compiler) (depth : Nat) (schema : TableSchema)
    (done : NameMap (Related Query)) (item : Json) (rest : List Json) :
    compileIncluded compiler depth schema done (item :: rest) = (do
      let inclusion ← check (Inclusion.ofJson schema.name item)
      let relation ← check (permit compiler depth schema.name inclusion)
      let related ← relate compiler depth schema.name inclusion relation
      compileIncluded compiler depth schema (NameMap.insert inclusion.relation related done)
        rest) := by
  rw [compileIncluded]
  split
  · rename_i error herror
    rw [herror]
    rfl
  · rename_i inclusion hinclusion
    rw [hinclusion]
    show _ = check (permit compiler depth schema.name inclusion) >>= _
    refine congrArg (_ >>= ·) (funext fun relation => ?_)
    dsimp only [relate]
    split <;> simp only [pure_bind, bind_assoc]

/-- **How the first of several inclusions compiles.**  What it makes is stored under the name of its
relation, and the rest goes on from there. -/
theorem ran_compileIncluded_cons {depth : Nat} {schema : TableSchema}
    {done entries : NameMap (Related Query)} {item : Json} {rest : List Json}
    (h : Ran (compileIncluded compiler depth schema done (item :: rest)) before entries after) :
    ∃ inclusion relation related between, Inclusion.ofJson schema.name item = .ok inclusion ∧
      compiler.permit depth schema.name inclusion = .ok relation ∧
      Wanted compiler depth schema.name inclusion relation before related between ∧
      Ran (compileIncluded compiler depth schema
        (NameMap.insert inclusion.relation related done) rest) between entries after := by
  rw [compileIncluded_cons] at h
  obtain ⟨inclusion, _, hinclusion, h⟩ := ran_bind_iff.1 h
  obtain ⟨hread, rfl⟩ := ran_check_iff.1 hinclusion
  obtain ⟨relation, _, hrelation, h⟩ := ran_bind_iff.1 h
  obtain ⟨hpermit, rfl⟩ := ran_check_iff.1 hrelation
  obtain ⟨related, between, hrelated, h⟩ := ran_bind_iff.1 h
  exact ⟨inclusion, relation, related, between, hread, hpermit, wanted_of_ran_relate hrelated, h⟩

theorem ran_compileIncluded_nil {depth : Nat} {schema : TableSchema}
    {done entries : NameMap (Related Query)}
    (h : Ran (compileIncluded compiler depth schema done []) before entries after) :
    done = entries ∧ before = after := by
  rw [compileIncluded] at h
  exact ran_pure_iff.1 h

end Compiler
end ClauseSql
