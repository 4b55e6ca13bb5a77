import ClauseSql.Schema.ColumnSet
import Mathlib.Data.Finset.Card
import Mathlib.Data.List.Induction

/-!
# Resolved columns as an index

The columns of a table are kept in a list, and names lead into it through a map of positions.  One
pass over the declarations fills both.  A declaration that repeats a name is passed over, so that from
there on a position in the list is no longer one in the declarations.

## What is here

* `ColumnIndex.Coherent` — names lead to their columns and columns are found by their names, which
  every addition keeps (`ColumnIndex.Coherent.add`), so that the pass ends with it
  (`ColumnIndex.coherent_ofList`).
* `ColumnIndex.find?_ofList` — through the positions the first declaration of a name is found.
* `ColumnSet.distinct` and `ColumnSet.firsts` — the columns that are kept, by recursion and by what
  stands before them (`ColumnSet.columns_ofList`, `ColumnSet.columns_ofList_eq_firsts`).
* `ColumnSet.Indexes` — the columns that a table declares, found by their names, which is what
  `ColumnSet.indexes_schema` says of the resolved ones.
-/

set_option autoImplicit false

namespace ClauseSql

namespace ColumnIndex

/-! ## Names and positions -/

/-- A column that is added at the end leaves the places of the others. -/
theorem getElem?_concat {columns : List Column} {position : Nat} {found : Column}
    (h : columns[position]? = some found) (column : Column) :
    (columns ++ [column])[position]? = some found := by
  obtain ⟨hlt, -⟩ := List.getElem?_eq_some_iff.1 h
  rw [List.getElem?_append_left hlt, h]

/-- Every name that is stored leads to a column of that name, and every column stands where its name
leads. -/
structure Coherent (index : ColumnIndex) : Prop where
  leads : ∀ entry ∈ index.positions,
    ∃ column, index.columns[entry.2]? = some column ∧ column.name = entry.1
  stored : ∀ position column, index.columns[position]? = some column →
    NameMap.find? column.name index.positions = some position

namespace Coherent

variable {index : ColumnIndex}

theorem empty : Coherent {} where
  leads := by simp
  stored := by simp

/-- No two columns have one name, since a name leads to one place. -/
theorem nodup_names (h : index.Coherent) : (index.columns.map Column.name).Nodup := by
  refine List.nodup_iff_getElem?_ne_getElem?.2 fun first second hlt hlength heq => ?_
  rw [List.length_map] at hlength
  have hsecond := h.stored second _ (List.getElem?_eq_getElem hlength)
  have hfirst := h.stored first _ (List.getElem?_eq_getElem (hlt.trans hlength))
  have hnames : index.columns[first].name = index.columns[second].name := by
    simpa [hlength, hlt.trans hlength] using heq
  rw [hnames, hsecond, Option.some_inj] at hfirst
  omega

/-- **An addition keeps names and positions together.**  The position that is stored is the number of
the columns so far, however many declarations were passed over. -/
theorem add (h : index.Coherent) (column : Column) : (index.add column).Coherent := by
  rw [ColumnIndex.add]
  split
  · exact h
  rename_i hnew
  constructor
  · intro entry hentry
    rcases NameMap.mem_of_mem_insert hentry with rfl | hold
    · exact ⟨column, List.getElem?_concat_length, rfl⟩
    · obtain ⟨found, hfound, hname⟩ := h.leads entry hold
      exact ⟨found, getElem?_concat hfound column, hname⟩
  · intro position found hfound
    rw [List.getElem?_append] at hfound
    split at hfound
    · have hold := h.stored position found hfound
      -- The new column has a name of its own, because none was stored under it.
      have hne : found.name ≠ column.name := by
        intro hname
        rw [hname, hnew] at hold
        cases hold
      rwa [NameMap.find?_insert_of_ne hne]
    · rename_i hlength
      obtain ⟨hlast, rfl⟩ : position - index.columns.length = 0 ∧ column = found := by
        simpa [List.getElem?_singleton] using hfound
      have hposition : position = index.columns.length := by omega
      rw [hposition, NameMap.find?_insert_self]

/-! ## Look-ups -/

/-- A stored position is never out of range. -/
theorem exists_column (h : index.Coherent) {name : String} {position : Nat}
    (hposition : NameMap.find? name index.positions = some position) :
    ∃ column, index.columns[position]? = some column ∧ column.name = name :=
  h.leads _ (NameMap.mem_of_find? hposition)

theorem contains_eq (h : index.Coherent) (name : String) :
    index.contains name = (index.find? name).isSome := by
  rw [contains, find?]
  cases hposition : NameMap.find? name index.positions with
  | none => rfl
  | some position =>
    obtain ⟨column, hcolumn, -⟩ := h.exists_column hposition
    simp [hcolumn]

theorem find?_add (h : index.Coherent) (column : Column) (name : String) :
    (index.add column).find? name =
      (index.find? name).or (if column.name = name then some column else none) := by
  rw [ColumnIndex.add]
  split
  · rename_i position hposition
    obtain ⟨found, hfound, -⟩ := h.exists_column hposition
    by_cases hname : column.name = name
    · subst hname
      simp [find?, hposition, hfound]
    · simp [hname]
  · rename_i hnew
    by_cases hname : column.name = name
    · subst hname
      simp [find?, hnew, NameMap.find?_insert_self]
    · simp only [find?, NameMap.find?_insert_of_ne (Ne.symm hname), if_neg hname, Option.or_none]
      cases hposition : NameMap.find? name index.positions with
      | none => rfl
      | some position =>
        obtain ⟨found, hfound, -⟩ := h.exists_column hposition
        simp [hfound, getElem?_concat hfound column]

end Coherent

/-! ## One pass over the declarations -/

theorem ofList_concat (columns : List Column) (column : Column) :
    ofList (columns ++ [column]) = (ofList columns).add column := by
  simp [ofList]

theorem coherent_ofList (columns : List Column) : (ofList columns).Coherent := by
  induction columns using List.reverseRecOn with
  | nil => exact .empty
  | append_singleton columns column ih =>
    rw [ofList_concat]
    exact ih.add column

/-- **The first declaration of a name is found.** -/
theorem find?_ofList (columns : List Column) (name : String) :
    (ofList columns).find? name = columns.find? fun column => column.name == name := by
  induction columns using List.reverseRecOn with
  | nil => rfl
  | append_singleton columns column ih =>
    rw [ofList_concat, (coherent_ofList columns).find?_add, ih, List.find?_append]
    simp [List.find?_singleton]

theorem contains_ofList (columns : List Column) (name : String) :
    (ofList columns).contains name = columns.any fun column => column.name == name := by
  rw [(coherent_ofList columns).contains_eq, find?_ofList, List.isSome_find?]

theorem columns_add (index : ColumnIndex) (column : Column) :
    (index.add column).columns =
      index.columns ++ if index.contains column.name then [] else [column] := by
  rw [add, contains]
  split <;> rename_i hposition <;> simp [hposition]

/-- A declaration is kept unless an earlier one has its name. -/
theorem columns_ofList_concat (columns : List Column) (column : Column) :
    (ofList (columns ++ [column])).columns = (ofList columns).columns ++
      if ∀ earlier ∈ columns, earlier.name ≠ column.name then [column] else [] := by
  rw [ofList_concat, columns_add, contains_ofList]
  by_cases h : ∀ earlier ∈ columns, earlier.name ≠ column.name
  · have hnew : (columns.any fun earlier => earlier.name == column.name) = false := by simpa using h
    rw [hnew, if_neg Bool.false_ne_true, if_pos h]
  · have hold : (columns.any fun earlier => earlier.name == column.name) = true := by simpa using h
    rw [hold, if_pos rfl, if_neg h]

/-- The pass over the columns that were kept keeps them all, and at the same positions. -/
theorem ofList_columns (columns : List Column) :
    ofList (ofList columns).columns = ofList columns := by
  induction columns using List.reverseRecOn with
  | nil => rfl
  | append_singleton columns column ih =>
    rw [ofList_concat]
    cases hposition : NameMap.find? column.name (ofList columns).positions with
    | some position =>
      have hsame : (ofList columns).add column = ofList columns := by rw [add, hposition]
      rw [hsame, ih]
    | none =>
      have hkept : ((ofList columns).add column).columns = (ofList columns).columns ++ [column] := by
        rw [add, hposition]
      rw [hkept, ofList_concat, ih]

/-- Among the columns that were kept a name finds what it finds among the declarations. -/
theorem find?_columns_ofList (columns : List Column) (name : String) :
    ((ofList columns).columns.find? fun column => column.name == name) =
      columns.find? fun column => column.name == name := by
  rw [← find?_ofList, ofList_columns, find?_ofList]

end ColumnIndex

/-! ## The columns that are kept -/

namespace ColumnSet

/-- The columns whose names are not among `seen`, each name once. -/
def distinct (seen : List String) : List Column → List Column
  | [] => []
  | column :: rest =>
    if column.name ∈ seen then distinct seen rest
    else column :: distinct (column.name :: seen) rest

/-- The declarations before which there is none of their name, in order. -/
def firsts (columns : List Column) : List Column :=
  (columns.zipIdx.filter fun entry : Column × Nat =>
    ∀ earlier ∈ columns.take entry.2, earlier.name ≠ entry.1.name).map Prod.fst

theorem distinct_concat (columns : List Column) (column : Column) : ∀ seen : List String,
    distinct seen (columns ++ [column]) = distinct seen columns ++
      if column.name ∉ seen ∧ ∀ earlier ∈ columns, earlier.name ≠ column.name then [column]
      else [] := by
  induction columns with
  | nil =>
    intro seen
    by_cases h : column.name ∈ seen <;> simp [distinct, h]
  | cons first rest ih =>
    intro seen
    rw [List.cons_append, distinct, distinct]
    by_cases h : first.name ∈ seen
    · rw [if_pos h, if_pos h, ih]
      grind
    · rw [if_neg h, if_neg h, ih, List.cons_append]
      grind

theorem firsts_concat (columns : List Column) (column : Column) :
    firsts (columns ++ [column]) = firsts columns ++
      if ∀ earlier ∈ columns, earlier.name ≠ column.name then [column] else [] := by
  have hold : columns.zipIdx.filter (fun entry : Column × Nat =>
        ∀ earlier ∈ (columns ++ [column]).take entry.2, earlier.name ≠ entry.1.name) =
      columns.zipIdx.filter fun entry : Column × Nat =>
        ∀ earlier ∈ columns.take entry.2, earlier.name ≠ entry.1.name := by
    refine List.filter_congr fun entry hentry => ?_
    have hlt := List.snd_lt_of_mem_zipIdx hentry
    rw [List.take_append_of_le_length (by omega)]
  rw [firsts, List.zipIdx_append, List.filter_append, List.map_append, hold, firsts,
    List.zipIdx_singleton, List.filter_singleton, Nat.zero_add, List.take_left]
  by_cases h : ∀ earlier ∈ columns, earlier.name ≠ column.name
  · rw [decide_eq_true h, if_pos h]
    rfl
  · rw [decide_eq_false h, if_neg h]
    rfl

theorem columns_ofList (columns : List Column) :
    (ColumnIndex.ofList columns).columns = distinct [] columns := by
  induction columns using List.reverseRecOn with
  | nil => rfl
  | append_singleton columns column ih =>
    simp [ColumnIndex.columns_ofList_concat, distinct_concat, ih]

/-- **The first declaration of each name is kept**, in order of declaration. -/
theorem columns_ofList_eq_firsts (columns : List Column) :
    (ColumnIndex.ofList columns).columns = firsts columns := by
  induction columns using List.reverseRecOn with
  | nil => rfl
  | append_singleton columns column ih =>
    rw [ColumnIndex.columns_ofList_concat, firsts_concat, ih]

/-! ## Resolution -/

variable {schema : TableSchema} {set : ColumnSet}

theorem find?_eq (set : ColumnSet) (name : String) :
    set.find? name = set.columns.find? fun column => column.name == name :=
  ColumnIndex.find?_ofList set.columns name

theorem contains_eq (set : ColumnSet) (name : String) :
    set.contains name = (set.find? name).isSome :=
  (ColumnIndex.coherent_ofList set.columns).contains_eq name

theorem ofSchema_eq_ok_iff : ofSchema schema = .ok set ↔
    schema.columns ≠ [] ∧ set = ⟨schema.name, distinct [] schema.columns⟩ := by
  rw [ofSchema, columns_ofList]
  cases schema.columns with
  | nil => simp [distinct]
  | cons column rest => simp [distinct, eq_comm]

theorem ofSchema_eq_error_iff {error : CompileError} : ofSchema schema = .error error ↔
    schema.columns = [] ∧ error = .emptySchema schema.name := by
  rw [ofSchema, columns_ofList]
  cases schema.columns with
  | nil => simp [distinct, eq_comm]
  | cons column rest => simp [distinct]

/-- The columns of a set are those that a table declares: the first one of each name, in order of
declaration, found under their names and under no others. -/
structure Indexes (set : ColumnSet) (schema : TableSchema) : Prop where
  table : set.table = schema.name
  columns : set.columns = firsts schema.columns
  nodup_names : (set.columns.map Column.name).Nodup
  /-- There are as many columns as names are declared. -/
  length : set.columns.length = (schema.columns.map Column.name).toFinset.card
  /-- The positions are the ones that the pass over the declarations stores. -/
  index : set.index = .ofList schema.columns
  /-- A stored position is in range, and the column there has the name it is stored under. -/
  leads : ∀ entry ∈ set.index.positions,
    ∃ column, set.columns[entry.2]? = some column ∧ column.name = entry.1
  find? : ∀ name, set.find? name = schema.columns.find? fun column => column.name == name
  find?_eq_none_iff : ∀ name, set.find? name = none ↔
    ∀ column ∈ schema.columns, column.name ≠ name
  contains : ∀ name, set.contains name = (set.find? name).isSome

theorem mem_names_iff (columns : List Column) (name : String) :
    name ∈ (ColumnIndex.ofList columns).columns.map Column.name ↔ name ∈ columns.map Column.name := by
  have hsome := congrArg Option.isSome (ColumnIndex.find?_columns_ofList columns name)
  rw [List.isSome_find?, List.isSome_find?, Bool.eq_iff_iff] at hsome
  simpa using hsome

/-- **Resolved columns are an index of the declarations.**  Resolution fails for a table that declares
no column, and for no other reason. -/
theorem indexes_schema (schema : TableSchema) :
    (∀ error, ofSchema schema = .error error ↔
      schema.columns = [] ∧ error = .emptySchema schema.name) ∧
    ∀ set, ofSchema schema = .ok set → set.Indexes schema := by
  refine ⟨fun error => ofSchema_eq_error_iff, fun set h => ?_⟩
  obtain ⟨-, rfl⟩ := ofSchema_eq_ok_iff.1 h
  rw [← columns_ofList]
  have hcoherent := ColumnIndex.coherent_ofList schema.columns
  have hindex : ColumnSet.index ⟨schema.name, (ColumnIndex.ofList schema.columns).columns⟩ =
      .ofList schema.columns := ColumnIndex.ofList_columns schema.columns
  have hfind (name : String) :
      ColumnSet.find? ⟨schema.name, (ColumnIndex.ofList schema.columns).columns⟩ name =
        schema.columns.find? fun column => column.name == name := by
    rw [ColumnSet.find?, hindex, ColumnIndex.find?_ofList]
  exact {
    table := rfl
    columns := columns_ofList_eq_firsts schema.columns
    nodup_names := hcoherent.nodup_names
    length := by
      rw [← List.length_map Column.name, ← List.toFinset_card_of_nodup hcoherent.nodup_names]
      congr 1
      ext name
      rw [List.mem_toFinset, List.mem_toFinset, mem_names_iff]
    index := hindex
    leads := by
      rw [hindex]
      exact hcoherent.leads
    find? := hfind
    find?_eq_none_iff := fun name => by
      rw [hfind, List.find?_eq_none]
      simp
    contains := contains_eq _ }

/-- The second declaration of `a` is left out, and `b` is found at the second place. -/
theorem indexes_schema_repeated :
    let schema : TableSchema := ⟨"t", [⟨"a", .text⟩, ⟨"a", .jsonb⟩, ⟨"b", .integer⟩]⟩
    let set : ColumnSet := ⟨"t", [⟨"a", .text⟩, ⟨"b", .integer⟩]⟩
    ofSchema schema = .ok set ∧ set.Indexes schema ∧ set.index.positions = [("a", 0), ("b", 1)] ∧
      set.find? "b" = some ⟨"b", .integer⟩ ∧ set.find? "c" = none := by
  intro schema set
  have hset : ofSchema schema = .ok set := rfl
  exact ⟨hset, (indexes_schema schema).2 set hset, rfl, rfl, rfl⟩

end ColumnSet

end ClauseSql
