import ClauseSql.Proofs.EncodedFilter
import ClauseSql.Proofs.HiddenColumns
import ClauseSql.Proofs.Leaves
import ClauseSql.Proofs.Nesting

/-!
# How deep predicates are

Every group of a predicate stands for an array or an object of its clause.  So the predicate is no
deeper than the clause is nested, and what the text of a filter compiles to is no deeper than the
reader of texts lets values nest.

## What is here

* `Predicate.depth_le_of_mem_join` — joining predicates makes them one level deeper at most.
* `Clause.depth_le_nesting` — a compiled predicate is no deeper than its clause is nested, and
  `Clause.depth_eq_nesting_tower` — it can be as deep.
* `Filter.NestedWithin` — a bound for the clause of a filter and for its list of inclusions, and
  `Filter.nestedWithin_of_parse` — the bound for the filter of a text.
* `Compiler.predicates_bounded_by_clauses` — how deep the conditions of queries are.
-/

set_option autoImplicit false

namespace ClauseSql

open CompileM
open Json (nestingOfItems nestingOfMembers)

/-! ## Joined predicates -/

namespace Predicate

variable {terms : List Predicate} {n : Nat}

theorem depth_of_isLeaf {leaf : Predicate} (h : leaf.isLeaf = true) : leaf.depth = 0 := by
  cases leaf with
  | and | or => exact absurd h Bool.false_ne_true
  | _ => rfl

theorem depthOfTerms_le_iff : depthOfTerms terms ≤ n ↔ ∀ term ∈ terms, term.depth ≤ n := by
  induction terms with
  | nil => simp [depthOfTerms]
  | cons term rest ih => rw [depthOfTerms, Nat.max_le, ih, List.forall_mem_cons]

theorem depth_and_le_iff : (and terms).depth ≤ n + 1 ↔ ∀ term ∈ terms, term.depth ≤ n := by
  rw [depth, Nat.add_comm, Nat.succ_le_succ_iff, depthOfTerms_le_iff]

theorem depth_or_le_iff : (or terms).depth ≤ n + 1 ↔ ∀ term ∈ terms, term.depth ≤ n := by
  rw [depth, Nat.add_comm, Nat.succ_le_succ_iff, depthOfTerms_le_iff]

theorem depth_le_of_mem_all (h : ∀ term ∈ terms, term.depth ≤ n) :
    ∀ joined ∈ (all terms).toList, joined.depth ≤ n + 1 := by
  match terms with
  | [] => exact nofun
  | [only] => exact fun joined hjoined => Nat.le_succ_of_le (h joined hjoined)
  | first :: second :: rest => exact List.forall_mem_singleton.2 (depth_and_le_iff.2 h)

theorem depth_le_of_mem_any (h : ∀ term ∈ terms, term.depth ≤ n) :
    ∀ joined ∈ (any terms).toList, joined.depth ≤ n + 1 := by
  match terms with
  | [] => exact nofun
  | [only] => exact fun joined hjoined => Nat.le_succ_of_le (h joined hjoined)
  | first :: second :: rest => exact List.forall_mem_singleton.2 (depth_or_le_iff.2 h)

/-- **Joining predicates makes them one level deeper at most.** -/
theorem depth_le_of_mem_join (junction : Junction) (h : ∀ term ∈ terms, term.depth ≤ n) :
    ∀ joined ∈ (junction.join terms).toList, joined.depth ≤ n + 1 := by
  cases junction with
  | and => exact depth_le_of_mem_all h
  | or => exact depth_le_of_mem_any h

/-- A single predicate is joined to itself. -/
theorem join_toList (junction : Junction) (single : Option Predicate) :
    junction.join single.toList = single := by
  cases junction <;> cases single <;> rfl

end Predicate

/-! ## Clauses -/

section

variable {columns : ColumnSet}

theorem depth_le_of_compileTarget {key : String} {value : Json} {terms : List Predicate}
    (h : compileTarget columns key value = .ok terms) (n : Nat) :
    ∀ term ∈ terms, term.depth ≤ n := by
  intro term hterm
  rw [Predicate.depth_of_isLeaf (built_of_compileTarget h term hterm).isLeaf]
  exact Nat.zero_le n

/-! A group of an array adds a level to the predicates of its clauses, and each of these adds a level
to its own; a group of a single clause adds none, for it has one predicate at most to join. -/

mutual

theorem depth_le_of_compileEntries : ∀ (clause : List (String × Json)) {terms : List Predicate},
    compileEntries columns clause = .ok terms →
    ∀ term ∈ terms, term.depth ≤ nestingOfMembers clause
  | [], _, h => by
    cases h
    exact nofun
  | (key, value) :: rest, _, h => by
    rw [compileEntries, bind_eq_ok_iff] at h
    obtain ⟨here, hhere, h⟩ := h
    obtain ⟨more, hmore, h⟩ := bind_eq_ok_iff.1 h
    cases h
    rw [nestingOfMembers]
    exact List.forall_mem_append.2
      ⟨fun term hterm =>
          Nat.le_trans (depth_le_of_compileEntry key value hhere term hterm) (Nat.le_max_left _ _),
        fun term hterm =>
          Nat.le_trans (depth_le_of_compileEntries rest hmore term hterm) (Nat.le_max_right _ _)⟩

theorem depth_le_of_compileEntry (key : String) : ∀ (value : Json) {terms : List Predicate},
    compileEntry columns key value = .ok terms → ∀ term ∈ terms, term.depth ≤ value.nesting
  | .array members, _, h => by
    rw [compileEntry] at h
    split at h
    · obtain ⟨terms, hterms, h⟩ := bind_eq_ok_iff.1 h
      cases h
      rw [Json.nesting, Nat.add_comm]
      exact Predicate.depth_le_of_mem_join _ (depth_le_of_compileMembers key members hterms)
    · exact depth_le_of_compileTarget h _
  | .object clause, _, h => by
    rw [compileEntry] at h
    split at h
    · obtain ⟨terms, hterms, h⟩ := bind_eq_ok_iff.1 h
      cases h
      rw [Json.nesting, Nat.add_comm, Predicate.join_toList]
      exact Predicate.depth_le_of_mem_all (depth_le_of_compileEntries clause hterms)
    · exact depth_le_of_compileTarget h _
  | .null, _, h | .bool _, _, h | .number _, _, h | .string _, _, h => by
    rw [compileEntry_of_not_isStructured rfl] at h
    split at h
    · cases h
    · exact depth_le_of_compileTarget h _

theorem depth_le_of_compileMembers (key : String) : ∀ (members : List Json) {terms : List Predicate},
    compileMembers columns key members = .ok terms →
    ∀ term ∈ terms, term.depth ≤ nestingOfItems members
  | [], _, h => by
    cases h
    exact nofun
  | .object clause :: rest, _, h => by
    rw [compileMembers, bind_eq_ok_iff] at h
    obtain ⟨terms, hterms, h⟩ := h
    obtain ⟨more, hmore, h⟩ := bind_eq_ok_iff.1 h
    cases h
    have hclause := Predicate.depth_le_of_mem_all (depth_le_of_compileEntries clause hterms)
    rw [nestingOfItems, Json.nesting, Nat.add_comm]
    exact List.forall_mem_append.2
      ⟨fun term hterm => Nat.le_trans (hclause term hterm) (Nat.le_max_left _ _),
        fun term hterm =>
          Nat.le_trans (depth_le_of_compileMembers key rest hmore term hterm) (Nat.le_max_right _ _)⟩
  | .null :: _, _, h | .bool _ :: _, _, h | .number _ :: _, _, h | .string _ :: _, _, h
  | .array _ :: _, _, h => nomatch h

end

/-- **A compiled predicate is no deeper than its clause is nested.** -/
theorem Clause.depth_le_nesting {clause : Clause} {predicate : Predicate}
    (h : clause.compile columns = .ok (some predicate)) :
    predicate.depth ≤ (Json.object clause).nesting := by
  obtain ⟨terms, hterms, h⟩ := bind_eq_ok_iff.1 h
  have hall : Predicate.all terms = some predicate := Except.ok.inj h
  have hdepth := Predicate.depth_le_of_mem_all (depth_le_of_compileEntries clause hterms)
  rw [hall] at hdepth
  rw [Json.nesting, Nat.add_comm]
  exact hdepth predicate (List.mem_singleton_self predicate)

/-- A table with two columns. -/
def towerColumns : ColumnSet := ⟨"t", [⟨"a", .text⟩, ⟨"b", .text⟩]⟩

/-- A clause with a group in a group and so on, `n` times. -/
def Clause.tower : Nat → Clause
  | 0 => [("a", .null), ("b", .null)]
  | n + 1 => [("and", .object (tower n)), ("a", .null)]

/-- No smaller bound would do: there are clauses of any nesting with a predicate as deep. -/
theorem Clause.depth_eq_nesting_tower (n : Nat) : ∃ predicate,
    (tower n).compile towerColumns = .ok (some predicate) ∧
      predicate.depth = n + 1 ∧ (Json.object (tower n)).nesting = n + 1 := by
  induction n with
  | zero => exact ⟨.and [.isNull (.column "a"), .isNull (.column "b")], rfl, rfl, rfl⟩
  | succ n ih =>
    obtain ⟨inner, hinner, hdepth, hnesting⟩ := ih
    obtain ⟨terms, hterms, hall⟩ := bind_eq_ok_iff.1 hinner
    have hall : Predicate.all terms = some inner := Except.ok.inj hall
    refine ⟨.and [inner, .isNull (.column "a")], ?_, ?_, ?_⟩
    · have hgroup : compileEntry towerColumns "and" (.object (tower n)) = .ok [inner] := by
        rw [compileEntry, hterms]
        change Except.ok (Junction.and.join (Predicate.all terms).toList).toList = _
        rw [hall]
        rfl
      rw [compile, tower, compileEntries, hgroup]
      rfl
    · rw [Predicate.depth, Predicate.depthOfTerms, hdepth]
      simp [Predicate.depthOfTerms, Predicate.depth, Nat.add_comm]
    · rw [Json.nesting, tower, nestingOfMembers, hnesting]
      simp [nestingOfMembers, Json.nesting, Nat.add_comm]

end

/-! ## Filters -/

/-- The clause of a filter and its list of inclusions are nested no deeper than `bound`. -/
structure Filter.NestedWithin (filter : Filter) (bound : Nat) : Prop where
  clause : ∀ clause, filter.clause = some clause → (Json.object clause).nesting ≤ bound
  included : ∀ items, filter.included = some items → (Json.array items).nesting ≤ bound

namespace Filter

variable {filter result : Filter} {value : Json} {bound : Nat}

theorem nestedWithin_empty (bound : Nat) : NestedWithin {} bound := ⟨nofun, nofun⟩

theorem eq_object_of_readClause {clause : Clause} (h : readClause value = .ok (some clause)) :
    value = .object clause := by
  cases value with
  | object members => cases h; rfl
  | _ => cases h

theorem eq_array_of_readIncluded {items : List Json} (h : readIncluded value = .ok (some items)) :
    value = .array items := by
  cases value with
  | array members => cases h; rfl
  | _ => cases h

theorem NestedWithin.set (hf : filter.NestedWithin bound) (hv : value.nesting ≤ bound) {name : String}
    (h : filter.set name value = .ok result) : result.NestedWithin bound := by
  unfold Filter.set at h
  split at h
  case h_1 =>
    obtain ⟨clause, hclause, h⟩ := bind_eq_ok_iff.1 h
    cases h
    refine ⟨?_, hf.included⟩
    rintro given rfl
    exact eq_object_of_readClause hclause ▸ hv
  case h_2 =>
    cases h
    exact ⟨hf.clause, hf.included⟩
  case h_4 =>
    obtain ⟨included, hincluded, h⟩ := bind_eq_ok_iff.1 h
    cases h
    refine ⟨hf.clause, ?_⟩
    rintro items rfl
    exact eq_array_of_readIncluded hincluded ▸ hv
  case h_8 => cases h
  all_goals
    obtain ⟨_, -, h⟩ := bind_eq_ok_iff.1 h
    cases h
    exact ⟨hf.clause, hf.included⟩

theorem NestedWithin.setMembers {members : Members} (hf : filter.NestedWithin bound)
    (hmembers : ∀ member ∈ members, member.2.nesting ≤ bound)
    (h : filter.setMembers members = .ok result) : result.NestedWithin bound := by
  induction members generalizing filter with
  | nil =>
    cases h
    exact hf
  | cons member rest ih =>
    obtain ⟨hmember, hrest⟩ := List.forall_mem_cons.1 hmembers
    obtain ⟨next, hnext, h⟩ := bind_eq_ok_iff.1 h
    exact ih (hf.set hmember hnext) hrest h

theorem NestedWithin.setItems {length : Nat} {names : List String} {items : List Json}
    (hf : filter.NestedWithin bound) (hitems : ∀ item ∈ items, item.nesting ≤ bound)
    (h : setItems length filter names items = .ok result) : result.NestedWithin bound := by
  induction items generalizing filter names with
  | nil =>
    rw [Filter.setItems] at h
    cases h
    exact hf
  | cons item rest ih =>
    obtain ⟨hitem, hrest⟩ := List.forall_mem_cons.1 hitems
    cases names with
    | nil => cases h
    | cons name names =>
      obtain ⟨next, hnext, h⟩ := bind_eq_ok_iff.1 h
      exact ih (hf.set hitem hnext) hrest h

/-- **What a filter holds is one level below the value that the filter is.** -/
theorem nestedWithin_of_ofJson (hv : value.nesting ≤ bound + 1) (h : ofJson value = .ok filter) :
    filter.NestedWithin bound := by
  cases value with
  | object members =>
    exact (nestedWithin_empty bound).setMembers (Json.nesting_object_le_iff.1 hv) h
  | array items =>
    exact (nestedWithin_empty bound).setItems (Json.nesting_array_le_iff.1 hv) h
  | _ => cases h

end Filter

namespace Inclusion

variable {bound : Nat}

theorem nestedWithin_of_draft_set {draft result : Draft} {name : String} {value : Json}
    (hd : ∀ filter, draft.scope = some filter → filter.NestedWithin bound)
    (hv : value.nesting ≤ bound) (h : draft.set name value = .ok result) :
    ∀ filter, result.scope = some filter → filter.NestedWithin bound := by
  unfold Draft.set at h
  split at h
  · obtain ⟨relation, -, h⟩ := bind_eq_ok_iff.1 h
    cases h
    exact hd
  · obtain ⟨scope, hscope, h⟩ := bind_eq_ok_iff.1 h
    cases h
    rintro filter rfl
    rw [readScope.eq_def] at hscope
    split at hscope
    · cases hscope
    · obtain ⟨given, hgiven, hscope⟩ := bind_eq_ok_iff.1 hscope
      cases hscope
      exact Filter.nestedWithin_of_ofJson (Nat.le_succ_of_le hv) hgiven
  · cases h

theorem nestedWithin_of_draft_setMembers {draft result : Draft} {members : Members}
    (hd : ∀ filter, draft.scope = some filter → filter.NestedWithin bound)
    (hmembers : ∀ member ∈ members, member.2.nesting ≤ bound)
    (h : draft.setMembers members = .ok result) :
    ∀ filter, result.scope = some filter → filter.NestedWithin bound := by
  induction members generalizing draft with
  | nil =>
    cases h
    exact hd
  | cons member rest ih =>
    obtain ⟨hmember, hrest⟩ := List.forall_mem_cons.1 hmembers
    obtain ⟨next, hnext, h⟩ := bind_eq_ok_iff.1 h
    exact ih (nestedWithin_of_draft_set hd hmember hnext) hrest h

/-- What the filter of an inclusion holds is below the value that the inclusion is. -/
theorem nestedWithin_of_ofJson {table : String} {item : Json} {inclusion : Inclusion}
    (hitem : item.nesting ≤ bound) (h : ofJson table item = .ok inclusion) :
    (inclusion.scope.getD {}).NestedWithin bound := by
  cases item with
  | string relation =>
    cases h
    exact Filter.nestedWithin_empty bound
  | object members =>
    rw [ofJson] at h
    split at h
    · rename_i read hread
      cases h
      obtain ⟨draft, hdraft, hread⟩ := bind_eq_ok_iff.1 hread
      have hmembers := Json.nesting_object_le_iff.1 (Nat.le_succ_of_le hitem)
      have hscope : ∀ filter, draft.scope = some filter → filter.NestedWithin bound :=
        nestedWithin_of_draft_setMembers (fun _ h => by cases h) hmembers hdraft
      split at hread
      · cases hread
        cases hgiven : draft.scope with
        | none => exact Filter.nestedWithin_empty bound
        | some filter => exact hscope filter hgiven
      · cases hread
    · cases h
  | _ => cases h

end Inclusion

/-! ## Queries -/

/-- The condition of a query, if it has one, is at most `bound` deep. -/
def Query.ConditionWithin (query : Query) (bound : Nat) : Prop :=
  ∀ predicate, query.condition = some predicate → predicate.depth ≤ bound

namespace Compiler

variable {compiler : Compiler} {schema : TableSchema} {filter : Filter} {query inner : Query}
  {before after : Journal} {depth bound : Nat}

theorem conditionWithin_of_ran_compileAt (hf : filter.NestedWithin bound)
    (h : Ran (compileAt compiler depth schema filter) before query after) :
    query.ConditionWithin bound := by
  obtain ⟨columns, _, _, -, -, hcompiled, -⟩ := ran_compileAt h
  intro predicate hpredicate
  obtain ⟨clause, hclause, hcompile⟩ := hcompiled.condition hpredicate
  exact Nat.le_trans (Clause.depth_le_nesting hcompile) (hf.clause clause hclause)

/-- The query that is wanted of a relation has the inclusions and the condition of one that a filter
compiles to, and this filter is within the same bound. -/
theorem exists_filter_of_mem_included (hf : filter.NestedWithin bound)
    (h : Ran (compileAt compiler depth schema filter) before query after)
    {entries : List (String × Related Query)} (hentries : query.included = some entries)
    {name : String} (hmem : (name, .scoped inner) ∈ entries) :
    ∃ (target : TableSchema) (scope : Filter) (compiled : Query) (start finish : Journal),
      scope.NestedWithin bound ∧
      Ran (compileAt compiler (depth + 1) target scope) start compiled finish ∧
      inner.included = compiled.included ∧ inner.condition = compiled.condition := by
  obtain ⟨items, item, inclusion, hitems, hitem, hread, -, relation, start, finish, -, hwanted, -⟩ :=
    makes_of_mem_included h hentries hmem
  have hnesting : item.nesting ≤ bound :=
    Json.nesting_array_le_iff.1 (Nat.le_succ_of_le (hf.included items hitems)) item hitem
  cases hwanted with
  | own _ hquery hhide =>
    obtain ⟨projection, rfl⟩ := exists_projection_of_ran_hide hhide
    exact ⟨_, _, _, _, _, Inclusion.nestedWithin_of_ofJson hnesting hread, hquery, rfl, rfl⟩

/-- Induction on where the inclusion is.  All that is assumed of a query is that it has the inclusions
of a compiled one, for the query of an inclusion differs from that in its projection. -/
theorem conditionWithin_of_includes {table source name : String} {related : Related Query}
    (h : query.Includes compiler.catalog table source name related)
    (hrelated : related = .scoped inner) :
    ∀ {depth : Nat} {schema : TableSchema} {filter : Filter} {compiled : Query}
      {before after : Journal}, filter.NestedWithin bound →
      Ran (compileAt compiler depth schema filter) before compiled after →
      query.included = compiled.included → inner.ConditionWithin bound := by
  induction h with
  | here hentries hmem =>
    intro depth schema filter compiled before after hf hran hincluded
    subst hrelated
    obtain ⟨_, _, made, _, _, hscope, hmade, -, hcondition⟩ :=
      exists_filter_of_mem_included hf hran (hincluded ▸ hentries) hmem
    rw [Query.ConditionWithin, hcondition]
    exact conditionWithin_of_ran_compileAt hscope hmade
  | within hentries hmem _ _ _ ih =>
    intro depth schema filter compiled before after hf hran hincluded
    obtain ⟨_, _, _, _, _, hscope, hmade, hsame, -⟩ :=
      exists_filter_of_mem_included hf hran (hincluded ▸ hentries) hmem
    exact ih hrelated hscope hmade hsame

end Compiler

/-! ## Texts -/

theorem exists_parse_of_readNested {maxBytes : Nat} {text : String} {value : Json}
    (h : readNested maxBytes text = .ok value) : ∃ written, Json.parse written = .ok value := by
  obtain ⟨outer, houter, h⟩ := bind_eq_ok_iff.1 h
  cases outer with
  | string inner => exact ⟨inner, (readBounded_eq_ok_iff.1 h).2⟩
  | _ =>
    cases h
    exact ⟨text, (readBounded_eq_ok_iff.1 houter).2⟩

/-- What the filter of a text holds is one level below the deepest that the reader lets values nest. -/
theorem Filter.nestedWithin_of_parse {maxBytes : Nat} {text : String} {filter : Filter}
    (h : Filter.parse maxBytes text = .ok filter) : filter.NestedWithin (Reader.deepest - 1) := by
  obtain ⟨value, hvalue, h⟩ := bind_eq_ok_iff.1 h
  obtain ⟨written, hwritten⟩ := exists_parse_of_readNested hvalue
  have hnesting := Json.nesting_le_deepest hwritten
  cases value with
  | null =>
    cases h
    exact nestedWithin_empty _
  | object members =>
    rw [ofValue] at h
    split at h
    · rename_i read hread
      cases h
      exact nestedWithin_of_ofJson hnesting hread
    · cases h
  | _ => cases h

namespace Compiler

/-- **Predicates are never deeper than their clauses.**  A compiled predicate is no deeper than its
clause is nested, and it can be as deep.  The value of a text is nested at most as deep as the reader
allows, and so are the clauses that it holds: the condition of the query that the text of a filter
compiles to stays below this limit, and so do those of its inclusions, at any depth. -/
theorem predicates_bounded_by_clauses :
    (∀ {columns : ColumnSet} {clause : Clause} {predicate : Predicate},
      clause.compile columns = .ok (some predicate) →
      predicate.depth ≤ (Json.object clause).nesting) ∧
    (∀ n, ∃ columns clause predicate, Clause.compile columns clause = .ok (some predicate) ∧
      predicate.depth = n + 1 ∧ (Json.object clause).nesting = n + 1) ∧
    (∀ {text : String} {value : Json}, Json.parse text = .ok value →
      value.nesting ≤ Reader.deepest) ∧
    ∀ {compiler : Compiler} {schema : TableSchema} {text : String} {query : Query}
      {before after : Journal}, Ran (compiler.compileText schema text) before query after →
      query.ConditionWithin (Reader.deepest - 1) ∧
      ∀ {table name : String} {inner : Query},
        query.Includes compiler.catalog schema.name table name (.scoped inner) →
        inner.ConditionWithin (Reader.deepest - 1) := by
  refine ⟨Clause.depth_le_nesting, fun n => ⟨_, _, Clause.depth_eq_nesting_tower n⟩,
    Json.nesting_le_deepest, ?_⟩
  intro compiler schema text query before after h
  obtain ⟨_, _, -, h⟩ := ran_bind_iff.1 h
  obtain ⟨filter, _, hfilter, hcompile⟩ := ran_bind_iff.1 h
  have hf := Filter.nestedWithin_of_parse (ran_check_iff.1 hfilter).1
  exact ⟨conditionWithin_of_ran_compileAt hf hcompile,
    fun hincludes => conditionWithin_of_includes hincludes rfl hf hcompile rfl⟩

/-- The depth of the condition of a query with one inclusion, and of the condition of that. -/
def depthsOf (query : Query) : Option (Nat × Nat) :=
  match query.condition, query.included with
  | some outer, some [(_, .scoped { condition := some inner, .. })] => some (outer.depth, inner.depth)
  | _, _ => none

/-- Users and their posts, with a clause for each. -/
def groupsText : String :=
  "\x7b\"where\":\x7b\"id\":1,\"or\":[\x7b\"id\":2\x7d,\x7b\"id\":3\x7d]\x7d,\"include\":[" ++
    "\x7b\"relation\":\"posts\",\"scope\":\x7b\"where\":\x7b\"and\":\x7b\"id\":[4],\"or\":" ++
    "[\x7b\"id\":5\x7d,\x7b\"id\":6\x7d]\x7d\x7d\x7d\x7d]\x7d"

theorem predicates_bounded_by_clauses_groups :
    (∃ predicate, (Clause.tower 1).compile towerColumns = .ok (some predicate) ∧
      predicate.depth ≤ (Json.object (Clause.tower 1)).nesting) ∧
    (∃ value, Json.parse "[[]]" = .ok value ∧ value.nesting ≤ Reader.deepest) ∧
    ∃ query after name inner, Ran (blog.compileText blogUsers groupsText) {} query after ∧
      depthsOf query = some (2, 2) ∧ query.ConditionWithin 126 ∧
      query.Includes blog.catalog "users" "users" name (.scoped inner) ∧
      inner.ConditionWithin 126 := by
  obtain ⟨hclauses, -, hvalues, hqueries⟩ := predicates_bounded_by_clauses
  refine ⟨?_, ?_, ?_⟩
  · obtain ⟨predicate, hcompile, -⟩ := Clause.depth_eq_nesting_tower 1
    exact ⟨predicate, hcompile, hclauses hcompile⟩
  · have hparse : Json.parse "[[]]" = .ok (.array [.array []]) := by with_unfolding_all rfl
    exact ⟨_, hparse, hvalues hparse⟩
  · have hrun : ((blog.compileText blogUsers groupsText).run.run {}).1.toOption.map depthsOf =
        some (some (2, 2)) := by decide +kernel
    obtain ⟨query, after, hran, hdepths⟩ := exists_ran hrun
    have hincluded := hdepths
    rw [depthsOf] at hincluded
    split at hincluded
    · rename_i hentries
      have hincludes : query.Includes blog.catalog "users" "users" _ _ :=
        .here hentries (List.mem_singleton_self _)
      obtain ⟨hcondition, hinner⟩ := hqueries hran
      exact ⟨query, after, _, _, hran, hdepths, hcondition, hincludes, hinner hincludes⟩
    · cases hincluded

end Compiler
end ClauseSql
