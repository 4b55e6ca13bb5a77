import ClauseSql.Proofs.ColumnIndex
import ClauseSql.Proofs.Steps
import ClauseSql.Query

/-!
# What is selected

A projection is asked for as a list of names or as a map, in any order, with repetitions and with names
that no column has.  None of this shows in the statement: it lists the columns of the table that were
asked for, each once, in the order in which the table declares them first.

## What is here

* `Projection.requested` — the names that a value asks for, and `Projection.picks_iff_of_compile`: a
  compiled projection selects these.
* `ColumnSet.names_of_ofSchema` — resolved columns are the declared ones without repetitions.
* `Query.listed` — the names that a statement is to list, and `Query.selected_eq_listed`.
* `Query.lists_requested` — the statement lists them, and is refused if there are none.
-/

set_option autoImplicit false

namespace ClauseSql

/-! ## Names that are asked for -/

namespace Projection

/-- The names that a value asks for, as often as it does: the items of a list, or what a map sends to
true. -/
def requested : Json → List String
  | .array items => items.filterMap fun
    | .string name => some name
    | _ => none
  | .object members => members.filterMap fun
    | (name, .bool true) => some name
    | _ => none
  | _ => []

/-- Whether a projection selects the column of a name. -/
def picks (projection : Projection) (name : String) : Bool :=
  (NameMap.find? name projection).getD false

variable {chosen projection : Projection} {name : String}

theorem picks_insert {other : String} :
    picks (NameMap.insert other true chosen) name = true ↔
      name = other ∨ chosen.picks name = true := by
  by_cases h : name = other
  · subst h
    simp [picks, NameMap.find?_insert_self]
  · simp [picks, NameMap.find?_insert_of_ne h, h]

theorem picks_iff_of_ofList {table : String} {items : List Json}
    (h : ofList table chosen items = .ok projection) :
    projection.picks name = true ↔ name ∈ requested (.array items) ∨ chosen.picks name = true := by
  induction items generalizing chosen with
  | nil =>
    cases h
    simp [requested]
  | cons item rest ih =>
    cases item with
    | string first =>
      have hrequested : requested (.array (.string first :: rest)) =
          first :: requested (.array rest) := rfl
      rw [ih h, picks_insert, hrequested, List.mem_cons, or_left_comm, or_assoc]
    | _ => cases h

theorem picks_ofMembers {members : Members} :
    (ofMembers chosen members).picks name = true ↔
      name ∈ requested (.object members) ∨ chosen.picks name = true := by
  induction members generalizing chosen with
  | nil => simp [ofMembers, requested]
  | cons member rest ih =>
    rcases member with ⟨first, _ | (_ | _) | _ | _ | _ | _⟩
    case bool.true =>
      have hrequested : requested (.object ((first, .bool true) :: rest)) =
          first :: requested (.object rest) := rfl
      rw [ofMembers, ih, picks_insert, hrequested, List.mem_cons, or_left_comm, or_assoc]
    all_goals exact ih

/-- **A projection selects what was asked for**, in either form. -/
theorem picks_iff_of_compile {table : String} {fields : Json}
    (h : compile table fields = .ok projection) :
    projection.picks name = true ↔ name ∈ requested fields := by
  have hnone : picks [] name ≠ true := Bool.false_ne_true
  cases fields with
  | array items => rw [picks_iff_of_ofList h, or_iff_left hnone]
  | object members =>
    cases h
    rw [picks_ofMembers, or_iff_left hnone]
  | _ => cases h

end Projection

/-! ## Declared columns -/

theorem nodup_eraseDups {α : Type} [BEq α] [LawfulBEq α] : ∀ list : List α, list.eraseDups.Nodup
  | [] => List.nodup_nil
  | first :: rest => by
    rw [List.eraseDups_cons]
    refine List.nodup_cons.2 ⟨fun hmem => ?_, nodup_eraseDups _⟩
    have hother := (List.mem_filter.1 (List.mem_eraseDups.1 hmem)).2
    simp at hother
termination_by list => list.length
decreasing_by exact Nat.lt_succ_of_le (List.length_filter_le _ _)

namespace ColumnSet

/-- Of several columns of one name the first one is kept. -/
theorem names_distinct : ∀ (columns : List Column) (seen : List String),
    (distinct seen columns).map Column.name =
      ((columns.map Column.name).filter fun name => name ∉ seen).eraseDups
  | [], _ => rfl
  | column :: rest, seen => by
    rw [distinct, List.map_cons, List.filter_cons]
    by_cases h : column.name ∈ seen
    · rw [if_pos h, names_distinct rest seen, if_neg (by simpa using h)]
    · rw [if_neg h, List.map_cons, names_distinct rest, if_pos (by simpa using h),
        List.eraseDups_cons, List.filter_filter]
      refine congrArg (column.name :: List.eraseDups ·) (List.filter_congr fun name _ => ?_)
      by_cases hname : name = column.name <;> simp [hname]

/-- **The names of resolved columns are the declared ones**, each once. -/
theorem names_of_ofSchema {schema : TableSchema} {columns : ColumnSet}
    (h : ofSchema schema = .ok columns) : columns.table = schema.name ∧
      columns.columns.map Column.name = (schema.columns.map Column.name).eraseDups := by
  have hall : ((schema.columns.map Column.name).filter fun name => name ∉ []) =
      schema.columns.map Column.name := List.filter_eq_self.2 (by simp)
  obtain ⟨-, rfl⟩ := ofSchema_eq_ok_iff.1 h
  exact ⟨rfl, by rw [names_distinct, hall]⟩

end ColumnSet

/-! ## Statements -/

namespace Query

/-- A query with another projection. -/
def selecting (query : Query) (projection : Projection) : Query :=
  { query with projection := some projection }

/-- The names that the statement of a table is to list: the declared ones that were asked for, each once
and in the order in which they are declared first. -/
def listed (schema : TableSchema) (fields : Json) : List String :=
  (schema.columns.map Column.name).eraseDups.filter (· ∈ Projection.requested fields)

variable {schema : TableSchema} {columns : ColumnSet} {table : String} {fields : Json}
  {projection : Projection}

theorem mem_listed {name : String} : name ∈ listed schema fields ↔
    (∃ column ∈ schema.columns, column.name = name) ∧ name ∈ Projection.requested fields := by
  rw [listed, List.mem_filter, List.mem_eraseDups, List.mem_map, decide_eq_true_iff]

/-- **What is selected is what is to be listed.** -/
theorem selected_eq_listed (hcolumns : ColumnSet.ofSchema schema = .ok columns)
    (hfields : Projection.compile table fields = .ok projection) :
    selected columns projection = listed schema fields := by
  have hfilter : selected columns projection =
      (columns.columns.map Column.name).filter projection.picks := by
    rw [selected, List.filter_map]
    rfl
  rw [hfilter, listed, (ColumnSet.names_of_ofSchema hcolumns).2]
  refine List.filter_congr fun name _ => ?_
  rw [Bool.eq_iff_iff, Projection.picks_iff_of_compile hfields, decide_eq_true_iff]

theorem selectList_eq (hcolumns : ColumnSet.ofSchema schema = .ok columns)
    (hfields : Projection.compile table fields = .ok projection) :
    selectList columns (some projection) =
      if listed schema fields = [] then .error (.projection schema.name .nothingKnown)
      else .ok (joined ", " ((listed schema fields).map Sql.identifier)) := by
  rw [selectList, selected_eq_listed hcolumns hfields, (ColumnSet.names_of_ofSchema hcolumns).1]
  cases listed schema fields <;> rfl

/-- The statement of a query, given the names it is to list. -/
theorem render_eq (hcolumns : ColumnSet.ofSchema schema = .ok columns)
    (hfields : Projection.compile table fields = .ok projection) (query : Query) :
    (query.selecting projection).render columns =
      if listed schema fields = [] then .error (.projection schema.name .nothingKnown)
      else .ok ("SELECT " ++ joined ", " ((listed schema fields).map Sql.identifier) ++ " FROM " ++
        Sql.identifier schema.name ++ whereText query.condition ++ orderText query.order ++
        limitText query.limit query.offset, query.parameters) := by
  rw [render, sql, selecting, selectList_eq hcolumns hfields, (ColumnSet.names_of_ofSchema hcolumns).1]
  split <;> rfl

theorem listed_eq_nil_iff : listed schema fields = [] ↔
    ∀ column ∈ schema.columns, column.name ∉ Projection.requested fields := by
  simp [List.eq_nil_iff_forall_not_mem, mem_listed]

theorem listed_congr {other : Json} (h : ∀ column ∈ schema.columns,
    column.name ∈ Projection.requested fields ↔ column.name ∈ Projection.requested other) :
    listed schema fields = listed schema other := by
  refine List.filter_congr fun name hname => ?_
  obtain ⟨column, hcolumn, rfl⟩ := List.mem_map.1 (List.mem_eraseDups.1 hname)
  exact decide_eq_decide.2 (h column hcolumn)

/-- **A statement lists the requested columns.**  What it selects are the declared columns whose names
were asked for, each once and in the order in which they are declared first, and the rest of it has
nothing to do with them.  It is refused just if no declared column was asked for.  Two values that ask
for the same declared columns make the same statement, in whichever form and order they name them, how
often they do, and whatever else they name. -/
theorem lists_requested (hcolumns : ColumnSet.ofSchema schema = .ok columns)
    (hfields : Projection.compile table fields = .ok projection) (query : Query) :
    (listed schema fields).Nodup ∧
    (listed schema fields ≠ [] → (query.selecting projection).render columns = .ok
      ("SELECT " ++ joined ", " ((listed schema fields).map Sql.identifier) ++ " FROM " ++
        Sql.identifier schema.name ++ whereText query.condition ++ orderText query.order ++
        limitText query.limit query.offset, query.parameters)) ∧
    (∀ error, (query.selecting projection).render columns = .error error ↔
      error = .projection schema.name .nothingKnown ∧
        ∀ column ∈ schema.columns, column.name ∉ Projection.requested fields) ∧
    ∀ table other projection', Projection.compile table other = .ok projection' →
      (∀ column ∈ schema.columns,
        column.name ∈ Projection.requested fields ↔ column.name ∈ Projection.requested other) →
      (query.selecting projection').render columns =
        (query.selecting projection).render columns := by
  refine ⟨(nodup_eraseDups _).filter _, fun hne => ?_, fun error => ?_,
    fun table other projection' hother hsame => ?_⟩
  · exact (render_eq hcolumns hfields query).trans (if_neg hne)
  · rw [← listed_eq_nil_iff, render_eq hcolumns hfields query]
    by_cases hnil : listed schema fields = []
    · rw [if_pos hnil, Except.error.injEq, eq_comm]
      exact (and_iff_left hnil).symm
    · rw [if_neg hnil]
      exact iff_of_false nofun fun h => hnil h.2
  · rw [render_eq hcolumns hother query, render_eq hcolumns hfields query, listed_congr hsame]

/-! The column `b` is declared twice.  The list repeats a name and has an unknown one, and the map has
an entry that is not true. -/

theorem lists_requested_twoForms :
    let columns : ColumnSet := ⟨"t", [⟨"b", .text⟩, ⟨"a", .text⟩, ⟨"c", .text⟩]⟩
    let limited : Query := { limit := some 3 }
    Projection.compile "t" (.array [.string "c", .string "b", .string "x", .string "c"]) =
        .ok [("b", true), ("c", true), ("x", true)] ∧
      Projection.compile "t" (.object [("a", .bool false), ("c", .bool true), ("b", .bool true)]) =
        .ok [("b", true), ("c", true)] ∧
      (limited.selecting [("b", true), ("c", true), ("x", true)]).render columns =
        .ok ("SELECT \"b\", \"c\" FROM \"t\" LIMIT 3", []) ∧
      (limited.selecting [("b", true), ("c", true)]).render columns =
        .ok ("SELECT \"b\", \"c\" FROM \"t\" LIMIT 3", []) := by
  intro columns limited
  have hcolumns : ColumnSet.ofSchema ⟨"t", [⟨"b", .text⟩, ⟨"a", .text⟩, ⟨"b", .json⟩, ⟨"c", .text⟩]⟩ =
      .ok columns := rfl
  have hlist : Projection.compile "t"
      (.array [.string "c", .string "b", .string "x", .string "c"]) =
      .ok [("b", true), ("c", true), ("x", true)] := by with_unfolding_all rfl
  have hmap : Projection.compile "t"
      (.object [("a", .bool false), ("c", .bool true), ("b", .bool true)]) =
      .ok [("b", true), ("c", true)] := by with_unfolding_all rfl
  obtain ⟨-, hlisted, -, hsame⟩ := lists_requested hcolumns hlist limited
  have hstatement := hlisted (by decide +kernel)
  refine ⟨hlist, hmap, hstatement, ?_⟩
  exact (hsame "t" _ _ hmap (by decide +kernel)).trans hstatement

end Query
end ClauseSql
