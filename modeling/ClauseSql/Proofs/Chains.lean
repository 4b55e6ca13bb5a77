import ClauseSql.Proofs.NameOrder
import ClauseSql.Proofs.TwoRuns

/-!
# Chains of relations

A filter asks for relations, of the rows of each of these for further ones, and so on.  Relations may
lead back to tables that were there before, but a chain of relations ends where the filter ends.

## What is here

* `Filter.Requests` — the chains of relations that a filter asks for, and `Query.Chain` — those of a
  query.
* `Compiler.made_of_ran_compileIncluded` — how the entries of a query come about, all together.
* `Compiler.requests_of_chain` — the chains of a compiled query were asked for.
* `Compiler.lt_limit_of_requests` — a filter that compiles asks for no chain that is too long.
* `Compiler.alike_compileAt` — under two limits a filter compiles alike, if wherever its chains lead
  inclusions are permitted alike.
-/

set_option autoImplicit false

namespace ClauseSql

open CompileM

/-! ## Chains -/

/-- The table is but named in errors. -/
theorem Inclusion.ofJson_eq_ok {table : String} {item : Json} {inclusion : Inclusion}
    (h : ofJson table item = .ok inclusion) (other : String) :
    ofJson other item = .ok inclusion := by
  cases item with
  | string relation => exact h
  | object members =>
    rw [ofJson] at h ⊢
    cases hmembers : ofMembers members with
    | error cause => rw [hmembers] at h; cases h
    | ok read => rw [hmembers] at h; exact h
  | _ => cases h

/-- The chains of relations that a filter asks for.  Every listed inclusion counts, also one that a
later inclusion of the same relation replaces. -/
inductive Filter.Requests : Filter → List String → Prop where
  | stop (filter : Filter) : Requests filter []
  | link {filter : Filter} {items : List Json} {item : Json} {table : String}
    {inclusion : Inclusion} {names : List String} (hitems : filter.included = some items)
    (hitem : item ∈ items) (hread : Inclusion.ofJson table item = .ok inclusion)
    (hrest : (inclusion.scope.getD {}).Requests names) :
    Requests filter (inclusion.relation :: names)

/-- The chains of relations in a query. -/
inductive Query.Chain : Query → List String → Prop where
  | stop (query : Query) : Chain query []
  | whole {query : Query} {entries : List (String × Related Query)} {name : String}
    (hentries : query.included = some entries) (hmem : (name, .all) ∈ entries) :
    Chain query [name]
  | within {query inner : Query} {entries : List (String × Related Query)} {name : String}
    {names : List String} (hentries : query.included = some entries)
    (hmem : (name, .scoped inner) ∈ entries) (hinner : inner.Chain names) :
    Chain query (name :: names)

/-- The empty filter asks for nothing. -/
theorem Filter.Requests.eq_nil {names : List String} (h : Requests {} names) : names = [] := by
  cases h with
  | stop => rfl
  | link hitems => cases hitems

/-! ## Entries -/

namespace Compiler

variable {compiler : Compiler} {before after : Journal}

/-- What an inclusion makes in a run that ends with the journal `after`. -/
def Makes (compiler : Compiler) (depth : Nat) (table : String) (inclusion : Inclusion)
    (related : Related Query) (after : Journal) : Prop :=
  ∃ relation start finish, compiler.permit depth table inclusion = .ok relation ∧
    Wanted compiler depth table inclusion relation start related finish ∧ finish.Keeps after

/-- The entries that inclusions make, with the names they are stored under. -/
def entriesOf (made : List (Inclusion × Related Query)) : List (String × Related Query) :=
  made.map fun entry => (entry.1.relation, entry.2)

/-- **How the entries come about.**  Every item is an inclusion that is permitted, and what it makes
is stored under the name of its relation, one after the other. -/
theorem made_of_ran_compileIncluded {depth : Nat} {schema : TableSchema} {items : List Json} :
    ∀ {done entries : NameMap (Related Query)} {before : Journal},
    Ran (compileIncluded compiler depth schema done items) before entries after →
    ∃ made : List (Inclusion × Related Query),
      items.mapM (Inclusion.ofJson schema.name) = .ok (made.map Prod.fst) ∧
      entries =
        (entriesOf made).foldl (fun map entry => NameMap.insert entry.1 entry.2 map) done ∧
      ∀ entry ∈ made, compiler.Makes depth schema.name entry.1 entry.2 after := by
  induction items with
  | nil =>
    intro done entries before h
    obtain ⟨rfl, -⟩ := ran_compileIncluded_nil h
    exact ⟨[], rfl, rfl, nofun⟩
  | cons item rest ih =>
    intro done entries before h
    obtain ⟨inclusion, relation, related, between, hread, hpermit, hwanted, hrest⟩ :=
      ran_compileIncluded_cons h
    obtain ⟨made, hmade, hentries, hall⟩ := ih hrest
    have hkeeps : between.Keeps after :=
      hrest.left_eq ▸ (repeatable_compileIncluded compiler depth schema _ rest).keeps between
    refine ⟨(inclusion, related) :: made, ?_, hentries, List.forall_mem_cons.2
      ⟨⟨relation, before, between, hpermit, hwanted, hkeeps⟩, hall⟩⟩
    rw [List.mapM_cons, hread, hmade]
    rfl

/-- The inclusions of a compiled filter, and what they made. -/
theorem made_of_ran_compileAt {depth : Nat} {schema : TableSchema} {filter : Filter}
    {query : Query} (h : Ran (compileAt compiler depth schema filter) before query after)
    {items : List Json} (hitems : filter.included = some items) :
    ∃ made : List (Inclusion × Related Query),
      items.mapM (Inclusion.ofJson schema.name) = .ok (made.map Prod.fst) ∧
      (items ≠ [] → query.included = some (NameMap.ofList (entriesOf made))) ∧
      ∀ entry ∈ made, compiler.Makes depth schema.name entry.1 entry.2 after := by
  obtain ⟨columns, resolved, between, -, -, -, hincluded⟩ := ran_compileAt h
  rcases hincluded with ⟨-, -, hnone⟩ | ⟨_, entries, hsome, hentries, hran⟩
  · rw [hitems, Option.getD_some] at hnone
    subst hnone
    exact ⟨[], rfl, fun hne => absurd rfl hne, nofun⟩
  · cases hitems.symm.trans hsome
    obtain ⟨made, hread, rfl, hall⟩ := made_of_ran_compileIncluded hran
    exact ⟨made, hread, fun _ => hentries, hall⟩

/-- The entry of a relation in a compiled query was made by an inclusion that the filter lists. -/
theorem makes_of_mem_included {depth : Nat} {schema : TableSchema} {filter : Filter}
    {query : Query} (h : Ran (compileAt compiler depth schema filter) before query after)
    {entries : List (String × Related Query)} (hentries : query.included = some entries)
    {name : String} {related : Related Query} (hmem : (name, related) ∈ entries) :
    ∃ items item inclusion, filter.included = some items ∧ item ∈ items ∧
      Inclusion.ofJson schema.name item = .ok inclusion ∧ inclusion.relation = name ∧
      compiler.Makes depth schema.name inclusion related after := by
  obtain ⟨columns, resolved, between, -, -, -, hincluded⟩ := ran_compileAt h
  rcases hincluded with ⟨hnone, -⟩ | ⟨items, found, hitems, hfound, hran⟩
  · cases hentries.symm.trans hnone
  · cases hentries.symm.trans hfound
    obtain ⟨made, hread, rfl, hall⟩ := made_of_ran_compileIncluded hran
    obtain ⟨entry, hentry, heq⟩ := List.mem_map.1 (NameMap.mem_of_mem_ofList hmem)
    cases heq
    obtain ⟨item, hitem, hinclusion⟩ := exists_of_mem_mapM hread (List.mem_map_of_mem hentry)
    exact ⟨items, item, entry.1, hitems, hitem, hinclusion, rfl, hall entry hentry⟩

/-! ## Chains that compile -/

/-- Induction on the chain.  The query of an inclusion differs from a compiled one in its projection,
so all that is assumed of a query is that it has the inclusions of a compiled one. -/
theorem requests_of_chain {query : Query} {names : List String} (h : query.Chain names) :
    ∀ {depth : Nat} {schema : TableSchema} {filter : Filter} {compiled : Query}
      {before after : Journal}, Ran (compileAt compiler depth schema filter) before compiled after →
      query.included = compiled.included → filter.Requests names := by
  induction h with
  | stop => intro depth schema filter compiled before after _ _; exact .stop filter
  | whole hentries hmem =>
    intro depth schema filter compiled before after hran hincluded
    obtain ⟨items, item, inclusion, hitems, hitem, hread, rfl, -⟩ :=
      makes_of_mem_included hran (hincluded ▸ hentries) hmem
    exact .link hitems hitem hread (.stop _)
  | within hentries hmem _ ih =>
    intro depth schema filter compiled before after hran hincluded
    obtain ⟨items, item, inclusion, hitems, hitem, hread, rfl, relation, start, finish, -, hwanted,
      -⟩ := makes_of_mem_included hran (hincluded ▸ hentries) hmem
    cases hwanted with
    | own htarget hquery hhide =>
      exact .link hitems hitem hread (ih hquery (included_of_ran_hide hhide))

theorem lt_of_permit {depth limit : Nat} {table : String} {inclusion : Inclusion}
    {relation : Relation} (h : compiler.permit depth table inclusion = .ok relation)
    (hlimit : compiler.limits.maxDepth = some limit) : depth < limit := by
  rw [permit, hlimit] at h
  split at h
  · cases h
  · dsimp only at h
    split at h
    · cases h
    · omega

/-- **A filter that compiles asks for no chain that is too long.** -/
theorem lt_limit_of_requests {filter : Filter} {names : List String} (h : filter.Requests names) :
    ∀ {depth : Nat} {schema : TableSchema} {query : Query} {before after : Journal},
      Ran (compileAt compiler depth schema filter) before query after →
      ∀ {limit}, compiler.limits.maxDepth = some limit → ∀ k < names.length, depth + k < limit := by
  induction h with
  | stop => intro depth schema query before after _ limit _ k hk; exact absurd hk (Nat.not_lt_zero k)
  | link hitems hitem hread hrest ih =>
    intro depth schema query before after hran limit hlimit k hk
    obtain ⟨made, hmade, -, hall⟩ := made_of_ran_compileAt hran hitems
    obtain ⟨_, hmem, hinclusion⟩ := exists_of_mapM_eq_ok hmade _ hitem
    obtain ⟨⟨inclusion, related⟩, hentry, rfl⟩ := List.mem_map.1 hmem
    cases hread.symm.trans (Inclusion.ofJson_eq_ok hinclusion _)
    obtain ⟨relation, start, finish, hpermit, hwanted, -⟩ := hall _ hentry
    cases k with
    | zero => exact lt_of_permit hpermit hlimit
    | succ k =>
      have hk' := Nat.lt_of_succ_lt_succ hk
      cases hwanted with
      | all hscope _ =>
        rw [hscope] at hrest
        rw [Filter.Requests.eq_nil hrest] at hk'
        exact absurd hk' (Nat.not_lt_zero k)
      | own _ hquery _ =>
        have := ih hquery hlimit k hk'
        omega

/-! ## Compilations under two limits -/

/-- A compiler with another limit on the depth of inclusions. -/
def limited (compiler : Compiler) (limit : Option Nat) : Compiler :=
  { compiler with limits := { compiler.limits with maxDepth := limit } }

/-- Inclusions are permitted alike at two depths under two limits, or else refused under the first
one for an error in `stop`. -/
def PermitsAlike (compiler : Compiler) (stop : CompileError → Prop) (narrow wide : Option Nat)
    (depth depth' : Nat) : Prop :=
  ∀ table inclusion,
    (compiler.limited narrow).permit depth table inclusion =
        (compiler.limited wide).permit depth' table inclusion ∨
      ∃ error, stop error ∧ (compiler.limited narrow).permit depth table inclusion = .error error

section Alike

variable {R : ColumnCache → ColumnCache → Prop} {stop : CompileError → Prop}
  {used : TableSchema → Prop} {narrow wide : Option Nat}

theorem alike_hide (hR : Tracks R used) {target : TableSchema} (htarget : used target)
    (hidden : Option (List String)) (query : Query) :
    Alike R stop (hide target hidden query) (hide target hidden query) := by
  cases hidden with
  | none => exact (silent_pure query).alike
  | some hidden =>
    exact (hR.alike_resolve htarget).bind fun columns _ _ =>
      (silent_check _).alike.bind fun _ _ _ => (silent_pure _).alike

-- The same measure as that of the functions.
mutual

/-- **Under two limits a filter compiles alike**, if wherever its chains lead inclusions are permitted
alike.  The tables of the catalog are among those that are looked up. -/
theorem alike_compileAt (hR : Tracks R used)
    (hcatalog : ∀ {name target}, compiler.catalog.table? name = some target → used target)
    (depth depth' : Nat) {schema : TableSchema} (hschema : used schema) (filter : Filter)
    (hpermit : ∀ names, filter.Requests names → ∀ k < names.length,
      compiler.PermitsAlike stop narrow wide (depth + k) (depth' + k)) :
    Alike R stop (compileAt (compiler.limited narrow) depth schema filter)
      (compileAt (compiler.limited wide) depth' schema filter) := by
  rw [compileAt_eq, compileAt_eq]
  refine (hR.alike_resolve hschema).bind fun columns _ _ => ?_
  refine (silent_compileClause columns _).alike.bind fun condition _ _ => ?_
  refine (silent_compileOrder columns _).alike.bind fun order _ _ => ?_
  refine (silent_compileProjection _ _).alike.bind fun projection _ _ => ?_
  refine Alike.bind ?_ fun included _ _ => (silent_pure _).alike
  match hincluded : filter.included with
  | none | some [] => exact (silent_pure none).alike
  | some (item :: rest) =>
    refine (alike_compileIncluded hR hcatalog depth depth' schema [] (item :: rest)
      fun _ hitem _ hread _ hnames k hk => ?_).map some
    exact hpermit _ (.link hincluded hitem hread hnames) k (Nat.lt_succ_of_le hk)
termination_by sizeOf filter.included
decreasing_by
  rw [hincluded, Option.some.sizeOf_spec]
  omega

theorem alike_compileIncluded (hR : Tracks R used)
    (hcatalog : ∀ {name target}, compiler.catalog.table? name = some target → used target)
    (depth depth' : Nat) (schema : TableSchema) (done : NameMap (Related Query))
    (items : List Json)
    (hpermit : ∀ item ∈ items, ∀ inclusion,
      Inclusion.ofJson schema.name item = .ok inclusion → ∀ names,
      (inclusion.scope.getD {}).Requests names → ∀ k ≤ names.length,
        compiler.PermitsAlike stop narrow wide (depth + k) (depth' + k)) :
    Alike R stop (compileIncluded (compiler.limited narrow) depth schema done items)
      (compileIncluded (compiler.limited wide) depth' schema done items) := by
  match items with
  | [] =>
    rw [compileIncluded, compileIncluded]
    exact (silent_pure done).alike
  | item :: rest =>
    rw [compileIncluded_cons, compileIncluded_cons]
    refine (silent_check _).alike.bind fun inclusion _ hinclusion => ?_
    have hhere := hpermit item List.mem_cons_self inclusion hinclusion
    refine (alike_check (hhere [] (.stop _) 0 (Nat.zero_le _) schema.name inclusion)).bind
      fun relation _ _ => ?_
    refine Alike.bind ?_ fun related _ _ => alike_compileIncluded hR hcatalog depth depth' schema _
      rest fun item hitem => hpermit item (List.mem_cons_of_mem _ hitem)
    by_cases hall : (inclusion.scope.isNone && (compiler.hiddenBy? relation).isNone) = true
    · have hnarrow : relate (compiler.limited narrow) depth schema.name inclusion relation =
          pure .all := if_pos hall
      have hwide : relate (compiler.limited wide) depth' schema.name inclusion relation =
          pure .all := if_pos hall
      rw [hnarrow, hwide]
      exact (silent_pure _).alike
    · have hnarrow : relate (compiler.limited narrow) depth schema.name inclusion relation =
          _ := if_neg hall
      have hwide : relate (compiler.limited wide) depth' schema.name inclusion relation =
          _ := if_neg hall
      rw [hnarrow, hwide]
      refine (silent_check _).alike.bind fun target _ htarget => ?_
      have hused : used target := hcatalog (table?_of_targetOf htarget)
      refine (alike_compileAt hR hcatalog (depth + 1) (depth' + 1) hused
        (inclusion.scope.getD {}) fun names hnames k hk => ?_).bind fun query _ _ => ?_
      · rw [Nat.add_right_comm, Nat.add_right_comm depth']
        exact hhere names hnames (k + 1) hk
      · exact (alike_hide hR hused _ query).bind fun _ _ _ => (silent_pure _).alike
termination_by sizeOf items
decreasing_by
  · exact Inclusion.sizeOf_scopeOrEmpty hinclusion rest
  · rw [List.cons.sizeOf_spec]
    omega

end

/-- A compilation depends on the columns of the tables that it can meet, and on nothing else. -/
theorem alike_compileAt_self (compiler : Compiler) (hR : Tracks R used)
    (hcatalog : ∀ {name target}, compiler.catalog.table? name = some target → used target)
    (depth : Nat) {schema : TableSchema} (hschema : used schema) (filter : Filter) :
    Alike R (fun _ => False) (compileAt compiler depth schema filter)
      (compileAt compiler depth schema filter) := by
  have halike : Alike R (fun _ => False)
      (compileAt (compiler.limited compiler.limits.maxDepth) depth schema filter)
      (compileAt (compiler.limited compiler.limits.maxDepth) depth schema filter) :=
    alike_compileAt hR hcatalog depth depth hschema filter fun _ _ _ _ _ _ => .inl rfl
  exact halike

theorem alike_compile (compiler : Compiler) (hR : Tracks R used)
    (hcatalog : ∀ {name target}, compiler.catalog.table? name = some target → used target)
    {schema : TableSchema} (hschema : used schema) (filter : Filter) :
    Alike R (fun _ => False) (compiler.compile schema filter) (compiler.compile schema filter) :=
  alike_compileAt_self compiler hR hcatalog 0 hschema filter

end Alike

end Compiler
end ClauseSql
