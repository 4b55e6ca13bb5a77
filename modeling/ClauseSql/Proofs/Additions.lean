import ClauseSql.Proofs.Arrivals
import ClauseSql.Schema.Declaration

/-!
# Additions to a catalog

A catalog is declared, and then tables, relations and hidden columns are added to it, in any order.
Everything is kept under a name: a table under its own, a relation under those of its table and its
own, and hidden columns under that of a relation.  Of several additions under one name the last one
counts, whatever is added under other names.  So a table that is declared again gets other columns,
and its relations stay.

Nothing is ever kept under a name that is not its own.  An inclusion names a relation, and the columns
that it hides are looked up by the name that is stored in the relation: these are one name.

## What is here

* `Catalog.Key` and `Catalog.Addition` — the names, and what is added under them.
* `Catalog.get?` — the three look-ups of a catalog as one, with `Catalog.get?_add` for one addition and
  `Catalog.get?_addAll` for a list of them.
* `Catalog.ofDeclarations_eq` — declaring a catalog is adding to it.
* `Catalog.LastUnder` — the last addition under a name, and `Catalog.Records` — a catalog that finds
  these and nothing else.
* `Compiler.GoesByOneName` — the name of an inclusion is that of its relation.
* `Catalog.last_addition_counts` — the last addition counts, and so compilation goes by one name.
-/

set_option autoImplicit false

namespace ClauseSql

open CompileM

namespace Catalog

/-! ## Names -/

/-- The name that something in a catalog is kept under. -/
inductive Key where
  | table (name : String)
  | relation (table name : String)
  | hidden (relation : String)
deriving DecidableEq, Repr

/-- What is added to a catalog in one step. -/
inductive Addition where
  | table (schema : TableSchema)
  | relation (table : String) (relation : Relation)
  | hidden (relation : String) (columns : List String)
deriving DecidableEq, Repr

/-- The name that an addition is kept under. -/
def Addition.key : Addition → Key
  | .table schema => .table schema.name
  | .relation source added => .relation source added.name
  | .hidden name _ => .hidden name

variable {hidden : HiddenColumns} {history : List Addition}

/-! ## One addition -/

/-- Adds a table, a relation or hidden columns. -/
def add (catalog : Catalog) : Addition → Catalog
  | .table schema => catalog.addTable schema
  | .relation table relation => catalog.addRelation table relation
  | .hidden relation columns => catalog.setHidden relation columns

/-- What is kept under a name, as the addition that would put it there. -/
def get? (catalog : Catalog) : Key → Option Addition
  | .table name => (catalog.table? name).map .table
  | .relation table name => (catalog.relation? table name).map (.relation table)
  | .hidden relation => (NameMap.find? relation catalog.hidden).map (.hidden relation)

theorem get?_table_eq_some_iff {catalog : Catalog} {name : String} {schema : TableSchema} :
    catalog.get? (.table name) = some (.table schema) ↔ catalog.table? name = some schema := by
  simp [get?]

theorem get?_relation_eq_some_iff {catalog : Catalog} {table name : String} {relation : Relation} :
    catalog.get? (.relation table name) = some (.relation table relation) ↔
      catalog.relation? table name = some relation := by
  simp [get?]

theorem get?_hidden_eq_some_iff {catalog : Catalog} {relation : String} {columns : List String} :
    catalog.get? (.hidden relation) = some (.hidden relation columns) ↔
      NameMap.find? relation catalog.hidden = some columns := by
  simp [get?]

/-- **An addition is found under its name**, and all that was kept under other names still is. -/
theorem get?_add (catalog : Catalog) (addition : Addition) (key : Key) :
    (catalog.add addition).get? key =
      if addition.key = key then some addition else catalog.get? key := by
  cases addition with
  | table schema =>
    cases key with
    | table name =>
      rw [add, get?, table?_addTable, get?, Addition.key]
      by_cases h : schema.name = name <;> simp [h]
    | relation _ _ | hidden _ => rfl
  | relation table relation =>
    cases key with
    | relation source name =>
      rw [add, get?, relation?_addRelation, get?, Addition.key]
      by_cases h : table = source ∧ relation.name = name
      · obtain ⟨rfl, rfl⟩ := h
        simp
      · simp [h]
    | table _ | hidden _ => rfl
  | hidden relation columns =>
    cases key with
    | hidden name =>
      rw [add, get?, find?_setHidden, get?, Addition.key]
      by_cases h : relation = name
      · subst h
        simp
      · simp [h]
    | table _ | relation _ _ => rfl

/-- Look-ups under other names find after an addition what they found before. -/
structure Spares (addition : Addition) (before after : Catalog) : Prop where
  table? : ∀ name, addition.key ≠ .table name → after.table? name = before.table? name
  relation? : ∀ table name, addition.key ≠ .relation table name →
    after.relation? table name = before.relation? table name
  hidden? : ∀ relation : Relation, addition.key ≠ .hidden relation.name →
    (after.hidden : HiddenSource).hidden? relation = (before.hidden : HiddenSource).hidden? relation

theorem spares_add (catalog : Catalog) (addition : Addition) :
    Spares addition catalog (catalog.add addition) where
  table? := fun name h => Option.ext fun schema => by
    rw [← get?_table_eq_some_iff, ← get?_table_eq_some_iff, get?_add, if_neg h]
  relation? := fun table name h => Option.ext fun relation => by
    rw [← get?_relation_eq_some_iff, ← get?_relation_eq_some_iff, get?_add, if_neg h]
  hidden? := fun relation h => Option.ext fun columns => by
    show NameMap.find? relation.name _ = _ ↔ NameMap.find? relation.name _ = _
    rw [← get?_hidden_eq_some_iff, ← get?_hidden_eq_some_iff, get?_add, if_neg h]

/-! ## One addition after the other -/

/-- Adds one thing after the other. -/
def addAll (catalog : Catalog) (history : List Addition) : Catalog := history.foldl add catalog

theorem addAll_append (catalog : Catalog) (front back : List Addition) :
    catalog.addAll (front ++ back) = (catalog.addAll front).addAll back := List.foldl_append

/-- `addition` is the last one in `history` under the name `key`. -/
def LastUnder (history : List Addition) (key : Key) (addition : Addition) : Prop :=
  ∃ before after, history = before ++ addition :: after ∧ addition.key = key ∧
    ∀ later ∈ after, later.key ≠ key

/-- The last addition under a name. -/
def latest? (history : List Addition) (key : Key) : Option Addition :=
  history.reverse.find? fun addition => addition.key = key

theorem latest?_concat (history : List Addition) (addition : Addition) (key : Key) :
    latest? (history ++ [addition]) key =
      if addition.key = key then some addition else latest? history key := by
  rw [latest?, List.reverse_concat, List.find?_cons, latest?]
  by_cases h : addition.key = key <;> simp [h]

theorem latest?_eq_some_iff {key : Key} {addition : Addition} :
    latest? history key = some addition ↔ LastUnder history key addition := by
  rw [latest?, List.find?_eq_some_iff_append]
  constructor
  · rintro ⟨hkey, after, before, hsplit, hafter⟩
    have hhistory : history = before.reverse ++ addition :: after.reverse := by
      rw [← List.reverse_reverse history, hsplit]
      simp
    exact ⟨before.reverse, after.reverse, hhistory, by simpa using hkey, by simpa using hafter⟩
  · rintro ⟨before, after, rfl, hkey, hafter⟩
    exact ⟨by simpa using hkey, after.reverse, before.reverse, by simp, by simpa using hafter⟩

theorem latest?_eq_none_iff {key : Key} :
    latest? history key = none ↔ ∀ addition ∈ history, addition.key ≠ key := by
  rw [latest?, List.find?_eq_none]
  simp

/-- **The last addition under a name is found**, or what was kept there before all of them. -/
theorem get?_addAll (catalog : Catalog) (history : List Addition) (key : Key) :
    (catalog.addAll history).get? key = (latest? history key).or (catalog.get? key) := by
  induction history using List.reverseRecOn with
  | nil => rfl
  | append_singleton history addition ih =>
    rw [addAll_append, addAll, List.foldl_cons, List.foldl_nil, get?_add, latest?_concat, ih]
    split <;> rfl

theorem get?_addAll_eq_some_iff {catalog : Catalog} {key : Key} {addition : Addition} :
    (catalog.addAll history).get? key = some addition ↔ LastUnder history key addition ∨
      (∀ other ∈ history, other.key ≠ key) ∧ catalog.get? key = some addition := by
  rw [get?_addAll, Option.or_eq_some_iff, latest?_eq_some_iff, latest?_eq_none_iff]

/-! ## Declarations -/

/-- What a table declaration adds. -/
def additionsOf (declaration : TableDeclaration) : List Addition :=
  .table declaration.schema :: declaration.relations.map (.relation declaration.schema.name)

theorem addDeclaration_eq :
    addDeclaration = fun catalog declaration => catalog.addAll (additionsOf declaration) := by
  funext catalog declaration
  rw [addAll, additionsOf, List.foldl_cons, List.foldl_map]
  rfl

/-- A catalog in which relations hide other columns. -/
def withHidden (catalog : Catalog) (hidden : HiddenColumns) : Catalog := { catalog with hidden }

/-- What relations hide makes no difference to tables and relations. -/
theorem addDeclaration_withHidden (catalog : Catalog) (hidden : HiddenColumns)
    (declaration : TableDeclaration) : (catalog.withHidden hidden).addDeclaration declaration =
      (catalog.addDeclaration declaration).withHidden hidden := by
  have htable : (catalog.withHidden hidden).addTable declaration.schema =
      (catalog.addTable declaration.schema).withHidden hidden := rfl
  have hrelation (catalog : Catalog) (relation : Relation) :
      (catalog.withHidden hidden).addRelation declaration.schema.name relation =
        (catalog.addRelation declaration.schema.name relation).withHidden hidden := rfl
  rw [addDeclaration, addDeclaration, htable]
  exact List.foldl_hom (withHidden · hidden) hrelation

/-- **Declaring a catalog is adding to it**: the tables and relations are added to a catalog of nothing
but hidden columns. -/
theorem ofDeclarations_eq (declarations : List TableDeclaration) (hidden : HiddenColumns) :
    ofDeclarations declarations hidden =
      addAll { hidden } (declarations.flatMap additionsOf) :=
  calc ofDeclarations declarations hidden
    _ = (declarations.foldl addDeclaration {}).withHidden hidden := rfl
    _ = declarations.foldl addDeclaration (withHidden {} hidden) :=
      (List.foldl_hom (withHidden · hidden) (addDeclaration_withHidden · hidden ·)).symm
    _ = declarations.foldl (fun catalog declaration => catalog.addAll (additionsOf declaration))
        (withHidden {} hidden) := by rw [addDeclaration_eq]
    _ = addAll { hidden } (declarations.flatMap additionsOf) := List.foldl_flatMap.symm

/-! ## What a catalog finds -/

/-- A catalog that finds the last addition of each name in `history`.  Hidden columns that nothing in
`history` sets are those in `hidden`. -/
structure Records (catalog : Catalog) (hidden : HiddenColumns) (history : List Addition) :
    Prop where
  table? : ∀ name schema, catalog.table? name = some schema ↔
    LastUnder history (.table name) (.table schema)
  /-- Adding the table again changes nothing, since the table is kept under another key. -/
  relation? : ∀ table name relation, catalog.relation? table name = some relation ↔
    LastUnder history (.relation table name) (.relation table relation)
  hidden? : ∀ (relation : Relation) columns,
    (catalog.hidden : HiddenSource).hidden? relation = some columns ↔
      LastUnder history (.hidden relation.name) (.hidden relation.name columns) ∨
        (∀ addition ∈ history, addition.key ≠ .hidden relation.name) ∧
          NameMap.find? relation.name hidden = some columns
  /-- A table is kept under its own name. -/
  name_of_table? : ∀ name schema, catalog.table? name = some schema → schema.name = name
  /-- A relation is kept under its own name. -/
  name_of_relation? : ∀ table name relation,
    catalog.relation? table name = some relation → relation.name = name

theorem records_addAll (hidden : HiddenColumns) (history : List Addition) :
    (addAll { hidden } history).Records hidden history := by
  have htable (name : String) (schema : TableSchema) :
      (addAll { hidden } history).table? name = some schema ↔
        LastUnder history (.table name) (.table schema) := by
    rw [← get?_table_eq_some_iff, get?_addAll_eq_some_iff, or_iff_left]
    exact fun h => nomatch h.2
  have hrelation (table name : String) (relation : Relation) :
      (addAll { hidden } history).relation? table name = some relation ↔
        LastUnder history (.relation table name) (.relation table relation) := by
    rw [← get?_relation_eq_some_iff, get?_addAll_eq_some_iff, or_iff_left]
    exact fun h => nomatch h.2
  refine ⟨htable, hrelation, fun relation columns => ?_, fun name schema h => ?_,
    fun table name relation h => ?_⟩
  · show NameMap.find? relation.name _ = _ ↔ _
    rw [← get?_hidden_eq_some_iff, get?_addAll_eq_some_iff, get?_hidden_eq_some_iff]
  · obtain ⟨_, _, -, hkey, -⟩ := (htable name schema).1 h
    exact Key.table.inj hkey
  · obtain ⟨_, _, -, hkey, -⟩ := (hrelation table name relation).1 h
    exact (Key.relation.inj hkey).2

end Catalog

/-! ## Compilation -/

namespace Compiler

open Catalog

variable {compiler : Compiler} {hidden : HiddenColumns} {history : List Addition}

/-- The name that an inclusion gives, under which what is wanted of it is stored, is that of its
relation.  So a map of hidden columns is looked up by the former. -/
structure GoesByOneName (compiler : Compiler) (arrival : Arrival) : Prop where
  name : arrival.relation.name = arrival.inclusion.relation
  hidden? : ∀ columns : HiddenColumns, compiler.hidden = columns →
    compiler.hidden.hidden? arrival.relation = NameMap.find? arrival.inclusion.relation columns

theorem goesByOneName_of_reaches (hrecords : compiler.catalog.Records hidden history)
    {arrival : Arrival} {depth : Nat} {schema : TableSchema} {filter : Filter} {before : Journal}
    (h : compiler.Reaches arrival depth schema filter before) : compiler.GoesByOneName arrival := by
  have hname := hrecords.name_of_relation? _ _ _ (relation?_of_permit h.permitted)
  refine ⟨hname, fun columns hcolumns => ?_⟩
  rw [hcolumns, ← hname]

/-- What is made of an inclusion conceals the columns that are hidden under the name it is stored
under. -/
theorem conceals_of_goesByOneName {arrival : Arrival} (h : compiler.GoesByOneName arrival)
    {related : Related Query} {after : Journal}
    (hmade : Ran (compiler.make arrival) arrival.known related after)
    {columns : HiddenColumns} (hcolumns : compiler.hidden = columns) {names : List String}
    (hnames : NameMap.find? arrival.inclusion.relation columns = some names) (hne : names ≠ []) :
    ∃ inner target, related = .scoped inner ∧
      compiler.catalog.table? arrival.relation.target = some target ∧ inner.Conceals names :=
  (wanted_of_ran_relate hmade).conceals ((h.hidden? columns hcolumns).trans hnames) hne

end Compiler

namespace Catalog

/-- **The last addition under a name counts.**  A catalog that is declared and then added to finds the
tables, relations and hidden columns that were added last under their names, and these are their own.
An addition leaves what is found under other names.

Hence every inclusion that a compilation gets to, also one that fails, goes by one name; and what a
compiled query includes, at any depth, was made by an inclusion of the name that it is stored under,
and conceals the columns that are hidden under it. -/
theorem last_addition_counts (declarations : List TableDeclaration) (hidden : HiddenColumns)
    (additions : List Addition) :
    ((ofDeclarations declarations hidden).addAll additions).Records hidden
        (declarations.flatMap additionsOf ++ additions) ∧
      (∀ (catalog : Catalog) (addition : Addition),
        Spares addition catalog (catalog.add addition)) ∧
      ∀ compiler : Compiler,
        compiler.catalog = (ofDeclarations declarations hidden).addAll additions →
        ∀ (schema : TableSchema) (filter : Filter) (before : Journal),
          (∀ arrival, compiler.Reaches arrival 0 schema filter before →
            compiler.GoesByOneName arrival) ∧
          ∀ query after, Ran (compiler.compile schema filter) before query after →
            ∀ source name related,
              query.Includes compiler.catalog schema.name source name related →
              ∃ arrival finish, compiler.Reaches arrival 0 schema filter before ∧
                compiler.GoesByOneName arrival ∧ arrival.source.name = source ∧
                arrival.inclusion.relation = name ∧
                Ran (compiler.make arrival) arrival.known related finish ∧
                ∀ columns : HiddenColumns, compiler.hidden = columns →
                  ∀ names, NameMap.find? name columns = some names → names ≠ [] →
                    ∃ inner target, related = .scoped inner ∧
                      compiler.catalog.table? arrival.relation.target = some target ∧
                      target.name = arrival.relation.target ∧ inner.Conceals names := by
  have hrecords : ((ofDeclarations declarations hidden).addAll additions).Records hidden
      (declarations.flatMap additionsOf ++ additions) := by
    rw [ofDeclarations_eq, ← addAll_append]
    exact records_addAll hidden _
  refine ⟨hrecords, spares_add, fun compiler hcatalog schema filter before =>
    ⟨fun arrival h => Compiler.goesByOneName_of_reaches (hcatalog ▸ hrecords) h, ?_⟩⟩
  intro query after hran source name related hincludes
  obtain ⟨arrival, finish, hreaches, rfl, rfl, hmade, -⟩ :=
    Compiler.reaches_of_includes hran hincludes
  have hone := Compiler.goesByOneName_of_reaches (hcatalog ▸ hrecords) hreaches
  refine ⟨arrival, finish, hreaches, hone, rfl, rfl, hmade,
    fun columns hcolumns names hnames hne => ?_⟩
  obtain ⟨inner, target, hrelated, htarget, hconceals⟩ :=
    Compiler.conceals_of_goesByOneName hone hmade hcolumns hnames hne
  have hname := hrecords.name_of_table? _ _ (hcatalog ▸ htarget)
  exact ⟨inner, target, hrelated, htarget, hname, hconceals⟩

/-! Posts are declared twice, with an author who is a writer at first and then a user, and later without
relations.  What the author hides is set again, too. -/

/-- Posts, users, and posts again. -/
def archiveDeclarations : List TableDeclaration := [
  ⟨⟨"posts", [⟨"id", .integer⟩]⟩, [⟨"author", .one, "writers", {}⟩]⟩,
  ⟨⟨"users", [⟨"id", .integer⟩, ⟨"email", .text⟩]⟩, []⟩,
  ⟨⟨"posts", [⟨"id", .integer⟩, ⟨"title", .text⟩]⟩, [⟨"author", .one, "users", {}⟩]⟩]

/-- Other columns to hide, and other posts. -/
def archiveAdditions : List Addition :=
  [.hidden "author" ["email"], .table ⟨"posts", [⟨"title", .text⟩]⟩]

/-- What is found in the end. -/
def archive : Catalog :=
  { tables := [("posts", ⟨"posts", [⟨"title", .text⟩]⟩),
      ("users", ⟨"users", [⟨"id", .integer⟩, ⟨"email", .text⟩]⟩)],
    relations := [("posts", [("author", ⟨"author", .one, "users", {}⟩)])],
    hidden := [("author", ["email"])] }

theorem last_addition_counts_redeclared :
    archive = (ofDeclarations archiveDeclarations [("author", ["id"])]).addAll archiveAdditions ∧
      archive.table? "posts" = some ⟨"posts", [⟨"title", .text⟩]⟩ ∧
      archive.relation? "posts" "author" = some ⟨"author", .one, "users", {}⟩ ∧
      ∃ query after inner,
        Ran (Compiler.compile { catalog := archive, hidden := archive.hidden }
          ⟨"posts", [⟨"title", .text⟩]⟩ { included := some [.string "author"] }) {} query after ∧
          query.Includes archive "posts" "posts" "author" (.scoped inner) ∧
          inner.Conceals ["email"] := by
  have harchive : archive =
      (ofDeclarations archiveDeclarations [("author", ["id"])]).addAll archiveAdditions := by decide
  obtain ⟨hrecords, -, hcompile⟩ :=
    last_addition_counts archiveDeclarations [("author", ["id"])] archiveAdditions
  rw [← harchive] at hrecords hcompile
  let shown : Query := { projection := some [("id", true)] }
  let query : Query := { included := some [("author", .scoped shown)] }
  let after : Journal :=
    { cache := [("posts", ⟨"posts", [⟨"title", .text⟩]⟩),
        ("users", ⟨"users", [⟨"id", .integer⟩, ⟨"email", .text⟩]⟩)] }
  have hran : Ran (Compiler.compile { catalog := archive, hidden := archive.hidden }
      ⟨"posts", [⟨"title", .text⟩]⟩ { included := some [.string "author"] }) {} query after := by
    with_unfolding_all rfl
  have hincludes : query.Includes archive "posts" "posts" "author" (.scoped shown) :=
    .here rfl (List.mem_singleton_self _)
  have hhidden : NameMap.find? "author" archive.hidden = some ["email"] :=
    (hrecords.hidden? ⟨"author", .one, "users", {}⟩ ["email"]).2
      (.inl (latest?_eq_some_iff.1 (by decide)))
  obtain ⟨arrival, finish, -, -, -, -, -, hconceals⟩ :=
    (hcompile _ rfl _ _ _).2 query after hran "posts" "author" (.scoped shown) hincludes
  obtain ⟨inner, target, hinner, -, -, hinnerConceals⟩ :=
    hconceals archive.hidden rfl ["email"] hhidden (by decide)
  exact ⟨harchive, (hrecords.table? _ _).2 (latest?_eq_some_iff.1 (by decide)),
    (hrecords.relation? _ _ _).2 (latest?_eq_some_iff.1 (by decide)),
    query, after, inner, hran, hinner ▸ hincludes, hinnerConceals⟩

end Catalog
end ClauseSql
