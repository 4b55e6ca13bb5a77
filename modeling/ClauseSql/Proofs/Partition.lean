import ClauseSql.Proofs.EncodedFilter
import ClauseSql.Proofs.NameOrder
import ClauseSql.Proofs.PathUpdate
import ClauseSql.Proofs.SetClause

/-!
# How an update is divided

The members of an update with plain keys are assigned directly, those with path keys are collected
by the column that they address.  A column is never assigned in both ways, whichever comes first.

## What is here

* `Update.plain` and `Update.pathColumns` — the two kinds of members.
* `Update.fault?` — what is wrong with the members, which is what compilation reports
  (`Update.compile_eq_error_iff`).
* `Update.Partitions` — how an update assigns the columns of its members, each of them once, and
  `Update.partitions_compile`: a compiled update does.
* `Update.distinct_of_parse` — no name comes twice among the members of the text of an update.
-/

set_option autoImplicit false

namespace ClauseSql

/-! ## Members -/

namespace Update

/-- The members with plain keys, in order. -/
def plain (members : Members) : Members := members.filter fun member => !isJsonPath member.1

/-- The column that a member addresses a place in. -/
def pathColumn? (member : String × Json) : Option String :=
  if isJsonPath member.1 then some (JsonPath.parse member.1).column else none

/-- The columns that members address places in, in order, once for each member. -/
def pathColumns (members : Members) : List String := members.filterMap pathColumn?

/-- What is wrong with a key: a path that does not resolve, or a plain key that is no column. -/
def keyFault? (columns : ColumnSet) (key : String) : Option CompileError :=
  if isJsonPath key then
    match JsonPath.resolve columns .update key with
    | .error error => some error
    | .ok _ => none
  else if columns.contains key then none
  else some (.unknownColumn .update columns.table key)

/-- The first column that members address places in and that a member also assigns directly. -/
def conflict? (members : Members) : Option String :=
  (pathColumns members).find? fun name => (plain members).any fun member => member.1 == name

/-- What is wrong with members: the fault of the first bad key or, where all keys are good, the
first conflict. -/
def fault? (columns : ColumnSet) (members : Members) : Option CompileError :=
  (members.findSome? fun member => keyFault? columns member.1).or
    ((conflict? members).map (.conflict columns.table))

theorem places_eq_nil_iff {name : String} {members : Members} :
    places name members = [] ↔ name ∉ pathColumns members := by
  simp only [places, pathColumns, List.filterMap_eq_nil_iff, List.mem_filterMap, place?, pathColumn?]
  grind

theorem keyFault?_eq_none_iff {columns : ColumnSet} {key : String} :
    keyFault? columns key = none ↔
      if isJsonPath key then ∃ place, JsonPath.resolve columns .update key = .ok place
      else columns.contains key = true := by
  rw [keyFault?]
  split
  · cases JsonPath.resolve columns .update key <;> simp
  · split <;> simp_all

end Update

/-! ## Reading members -/

namespace Assignment

variable {columns : ColumnSet}

theorem read_eq_error_iff {key : String} {value : Json} {error : CompileError} :
    read columns key value = .error error ↔ Update.keyFault? columns key = some error := by
  rw [read_eq, Update.keyFault?]
  split
  · cases JsonPath.resolve columns .update key <;> simp [Except.map]
  · split <;> simp

theorem readAll_eq_error_iff {error : CompileError} : ∀ {members : Members},
    readAll columns members = .error error ↔
      members.findSome? (fun member => Update.keyFault? columns member.1) = some error
  | [] => ⟨nofun, nofun⟩
  | (key, value) :: rest => by
    rw [readAll, List.findSome?_cons, bind_eq_error_iff, read_eq_error_iff]
    cases hfault : Update.keyFault? columns key with
    | some fault =>
      have hread : read columns key value = .error fault := read_eq_error_iff.2 hfault
      simp [hread]
    | none =>
      obtain ⟨first, hread⟩ : ∃ first, read columns key value = .ok first := by
        cases hread : read columns key value with
        | error fault => rw [read_eq_error_iff.1 hread] at hfault; cases hfault
        | ok first => exact ⟨first, rfl⟩
      rw [hread, ← readAll_eq_error_iff]
      cases readAll columns rest <;> simp [bind, Except.bind, pure, Except.pure]

/-- What a member asks for is decided by its key. -/
theorem kind_of_read {key : String} {value : Json} {assignment : Assignment}
    (h : read columns key value = .ok assignment) :
    assignment.direct? = (if isJsonPath key then none else some (key, value)) ∧
      assignment.document?.map Column.name = Update.pathColumn? (key, value) := by
  rw [Update.pathColumn?]
  rcases cases_of_read h with ⟨hkey, document, hfind, -, rfl⟩ | ⟨hkey, rfl⟩
  · rw [hkey]
    exact ⟨rfl, congrArg some (ColumnSet.name_of_find? hfind)⟩
  · rw [hkey]
    exact ⟨rfl, rfl⟩

theorem kinds_of_readAll : ∀ {members : Members} {assignments : List Assignment},
    readAll columns members = .ok assignments →
    assignments.filterMap direct? = Update.plain members ∧
      (assignments.filterMap document?).map Column.name = Update.pathColumns members
  | [], _, h => by cases h; exact ⟨rfl, rfl⟩
  | (key, value) :: rest, assignments, h => by
    rw [readAll] at h
    obtain ⟨first, hfirst, h⟩ := bind_eq_ok_iff.1 h
    obtain ⟨others, hothers, h⟩ := bind_eq_ok_iff.1 h
    cases h
    obtain ⟨hdirect, hdocument⟩ := kind_of_read hfirst
    obtain ⟨hplain, hcolumns⟩ := kinds_of_readAll hothers
    rw [List.map_filterMap] at hcolumns ⊢
    rw [List.filterMap_cons, List.filterMap_cons, hdirect, hplain, hcolumns, hdocument]
    refine ⟨?_, rfl⟩
    rw [Update.plain, Update.plain, List.filter_cons]
    cases isJsonPath key <;> rfl

end Assignment

/-! ## Documents -/

/-- What comes first is not a repetition. -/
theorem find?_eraseDups {α : Type} [BEq α] [LawfulBEq α] (p : α → Bool) :
    ∀ list : List α, list.eraseDups.find? p = list.find? p
  | [] => rfl
  | first :: rest => by
    rw [List.eraseDups_cons, List.find?_cons, List.find?_cons]
    cases hp : p first with
    | true => rfl
    | false =>
      have hskip : (fun other => decide ((!other == first) = true ∧ p other = true)) = p := by
        funext other
        by_cases hother : other = first
        · simp [hother, hp]
        · simp [hother]
      show (rest.filter fun other => !other == first).eraseDups.find? p = rest.find? p
      rw [find?_eraseDups p, List.find?_filter, hskip]
termination_by list => list.length
decreasing_by exact Nat.lt_succ_of_le (List.length_filter_le _ _)

namespace Update

theorem mergeColumns_eq_error_iff {table : String} {assignments : List Assignment}
    {error : CompileError} : ∀ {columns : List Column} {done : NameMap DocExpr},
    mergeColumns table assignments done columns = .error error ↔
      ((columns.map Column.name).find? fun name =>
        (assignments.filterMap Assignment.direct?).any fun entry => entry.1 == name).map
          (.conflict table) = some error
  | [], _ => ⟨nofun, nofun⟩
  | column :: rest, done => by
    rw [mergeColumns, List.map_cons, List.find?_cons]
    split
    · rename_i h
      rw [h]
      simp
    · rename_i h
      rw [Bool.not_eq_true] at h
      rw [h]
      exact mergeColumns_eq_error_iff

theorem of_mergeColumns {table : String} {assignments : List Assignment} :
    ∀ {columns : List Column} {done documents : NameMap DocExpr},
    mergeColumns table assignments done columns = .ok documents →
    (∀ name, name ∈ documents.names ↔ name ∈ columns.map Column.name ∨ name ∈ done.names) ∧
      (done.Ascending → documents.Ascending)
  | [], _, _, h => by cases h; simp
  | column :: rest, done, documents, h => by
    rw [mergeColumns] at h
    split at h
    · cases h
    · obtain ⟨hnames, hascending⟩ := of_mergeColumns h
      refine ⟨fun name => ?_, fun hdone => hascending (hdone.insert _ _)⟩
      rw [hnames, NameMap.mem_names_insert, List.map_cons, List.mem_cons]
      exact or_left_comm.trans or_assoc.symm

/-- Compilation reports what is wrong, and only that. -/
theorem compile_eq_error_iff {columns : ColumnSet} {members : Members} {error : CompileError} :
    compile columns members = .error error ↔ fault? columns members = some error := by
  rw [compile, fault?]
  cases hread : Assignment.readAll columns members with
  | error fault =>
    rw [Assignment.readAll_eq_error_iff.1 hread]
    exact ⟨fun h => by cases h; rfl, fun h => by cases h; rfl⟩
  | ok assignments =>
    have hgood : members.findSome? (fun member => keyFault? columns member.1) = none :=
      Option.eq_none_iff_forall_ne_some.2 fun fault hfault => by
        rw [Assignment.readAll_eq_error_iff.2 hfault] at hread
        cases hread
    obtain ⟨hplain, hcolumns⟩ := Assignment.kinds_of_readAll hread
    rw [hgood, Option.none_or, conflict?, ← hplain, ← hcolumns, List.find?_map,
      ← find?_eraseDups, ← List.find?_map,
      ← @mergeColumns_eq_error_iff columns.table assignments error _ []]
    refine bind_eq_error_iff.trans ⟨fun h => ?_, fun h => .inr ⟨assignments, rfl, ?_⟩⟩
    · rcases h with h | ⟨_, hassignments, h⟩
      · cases h
      · cases hassignments
        refine (bind_eq_error_iff.1 h).resolve_right ?_
        rintro ⟨documents, -, h⟩
        cases h
    · exact bind_eq_error_iff.2 (.inl h)

theorem exists_compile_iff {columns : ColumnSet} {members : Members} :
    (∃ update, compile columns members = .ok update) ↔ fault? columns members = none := by
  rw [Option.eq_none_iff_forall_ne_some]
  refine ⟨fun ⟨update, h⟩ error herror => ?_, fun h => ?_⟩
  · rw [compile_eq_error_iff.2 herror] at h
    cases h
  · cases hcompile : compile columns members with
    | error error => exact absurd (compile_eq_error_iff.1 hcompile) (h error)
    | ok update => exact ⟨update, rfl⟩

theorem fault?_eq_none_iff {columns : ColumnSet} {members : Members} :
    fault? columns members = none ↔ (∀ member ∈ members, keyFault? columns member.1 = none) ∧
      ∀ name ∈ pathColumns members, name ∉ (plain members).names := by
  simp [fault?, conflict?, Option.or_eq_none_iff, List.findSome?_eq_none_iff, Members.names]

/-- What a compiled update assigns. -/
theorem of_compile {columns : ColumnSet} {members : Members} {update : Update}
    (h : compile columns members = .ok update) : update.direct = plain members ∧
      (∀ name, name ∈ update.documents.names ↔ name ∈ pathColumns members) ∧
      update.documents.Ascending := by
  rw [compile] at h
  obtain ⟨assignments, hread, h⟩ := bind_eq_ok_iff.1 h
  obtain ⟨documents, hmerge, h⟩ := bind_eq_ok_iff.1 h
  cases h
  obtain ⟨hplain, hcolumns⟩ := Assignment.kinds_of_readAll hread
  obtain ⟨hnames, hascending⟩ := of_mergeColumns hmerge
  refine ⟨hplain, fun name => ?_, hascending .nil⟩
  rw [hnames, ← hcolumns]
  simp [NameMap.names]

/-! ## A single column -/

/-- Whether a member addresses a place in a column. -/
def addresses (name : String) (member : String × Json) : Bool := pathColumn? member == some name

theorem plain_filter_addresses (name : String) (members : Members) :
    plain (members.filter (addresses name)) = [] := by
  refine List.filter_eq_nil_iff.2 fun member hmember => ?_
  have haddresses := (List.mem_filter.1 hmember).2
  rw [addresses, pathColumn?] at haddresses
  cases hkey : isJsonPath member.1 with
  | true => exact Bool.false_ne_true
  | false => rw [hkey] at haddresses; cases haddresses

theorem places_filter_addresses (name : String) (members : Members) :
    places name (members.filter (addresses name)) = places name members := by
  rw [places, places, List.filterMap_filter]
  refine congrArg (List.filterMap · members) (funext fun member => ?_)
  rw [addresses, pathColumn?, place?]
  cases isJsonPath member.1 <;> simp

theorem eq_of_mem_pathColumns_filter {name other : String} {members : Members}
    (h : other ∈ pathColumns (members.filter (addresses name))) : other = name := by
  obtain ⟨member, hmember, hother⟩ := List.mem_filterMap.1 h
  have hname := eq_of_beq (List.mem_filter.1 hmember).2
  exact Option.some.inj (hother.symm.trans hname)

theorem fault?_filter_addresses {columns : ColumnSet} {members : Members}
    (h : fault? columns members = none) (name : String) :
    fault? columns (members.filter (addresses name)) = none := by
  obtain ⟨hgood, -⟩ := fault?_eq_none_iff.1 h
  refine fault?_eq_none_iff.2 ⟨fun member hmember => hgood member (List.mem_filter.1 hmember).1, ?_⟩
  rw [plain_filter_addresses]
  exact fun _ _ => List.not_mem_nil

/-- The document of a column is what its own members compile to. -/
theorem compile_filter_addresses {columns : ColumnSet} {members : Members} {update : Update}
    {name : String} {expr : DocExpr} (h : compile columns members = .ok update)
    (hfind : NameMap.find? name update.documents = some expr) :
    compile columns (members.filter (addresses name)) = .ok ⟨[], [(name, expr)]⟩ := by
  obtain ⟨-, hnames, -⟩ := of_compile h
  have hmem : name ∈ pathColumns members :=
    (hnames name).1 (List.mem_map_of_mem (NameMap.mem_of_find? hfind))
  have hne : places name members ≠ [] := fun hnil => places_eq_nil_iff.1 hnil hmem
  obtain ⟨⟨direct, documents⟩, halone⟩ :=
    exists_compile_iff.2 (fault?_filter_addresses (exists_compile_iff.1 ⟨update, h⟩) name)
  obtain ⟨hdirect, hothers, hascending⟩ := of_compile halone
  obtain ⟨column, hcolumn, hexpr, -⟩ := exists_column_of_compile h hne
  obtain ⟨declared, hdeclared, hown, -⟩ :=
    exists_column_of_compile halone (by rwa [places_filter_addresses])
  rw [hcolumn] at hdeclared
  cases hdeclared
  rw [places_filter_addresses, ← hexpr, hfind] at hown
  rw [plain_filter_addresses] at hdirect
  have hsingle : documents = [(name, expr)] :=
    NameMap.eq_singleton hascending
      (fun other hother => eq_of_mem_pathColumns_filter ((hothers other).1 hother)) hown
  rw [halone, hsingle]
  exact congrArg (fun direct => Except.ok (Update.mk direct _)) hdirect

/-! ## All columns -/

/-- How an update assigns the columns that members name. -/
structure Partitions (columns : ColumnSet) (members : Members) (update : Update) : Prop where
  /-- The members with plain keys are assigned directly, in order. -/
  direct : update.direct = plain members
  /-- The columns with a document are those that members address places in. -/
  mem_documents : ∀ name, name ∈ update.documents.names ↔ name ∈ pathColumns members
  /-- Documents are in the order of the bytes of their columns. -/
  ordered : update.documents.names.Pairwise fun name other => Text.bytes name < Text.bytes other
  /-- The document of a column is what the members that address the column compile to without the
  others. -/
  alone : ∀ name expr, NameMap.find? name update.documents = some expr →
    compile columns (members.filter (addresses name)) = .ok ⟨[], [(name, expr)]⟩
  /-- Nothing is assigned only where there are no members. -/
  isEmpty_iff : update.isEmpty = true ↔ members = []
  /-- The set clause assigns the columns of plain keys, and then those with a document. -/
  assigned : ∀ bound, ∃ tokens, Sql.lex (setClause bound update.direct update.merges) = some tokens ∧
    Sql.assigned tokens = (plain members).names ++ update.documents.names
  /-- No column is assigned twice. -/
  nodup : ((plain members).names ++ update.documents.names).Nodup

theorem isEmpty_iff_of_compile {columns : ColumnSet} {members : Members} {update : Update}
    (h : compile columns members = .ok update) : update.isEmpty = true ↔ members = [] := by
  obtain ⟨hdirect, hnames, -⟩ := of_compile h
  rw [isEmpty, Bool.and_eq_true, List.isEmpty_iff, List.isEmpty_iff, hdirect]
  refine ⟨fun ⟨hplain, hdocuments⟩ => ?_, fun hnil => ?_⟩
  · refine List.eq_nil_iff_forall_not_mem.2 fun member hmember => ?_
    cases hkey : isJsonPath member.1 with
    | true =>
      have hcolumn : (JsonPath.parse member.1).column ∈ pathColumns members :=
        List.mem_filterMap.2 ⟨member, hmember, if_pos hkey⟩
      rw [← hnames, hdocuments] at hcolumn
      cases hcolumn
    | false =>
      have hmem : member ∈ plain members := List.mem_filter.2 ⟨hmember, by rw [hkey]; rfl⟩
      rw [hplain] at hmem
      cases hmem
  · subst hnil
    cases h
    exact ⟨rfl, rfl⟩

theorem nodup_of_compile {columns : ColumnSet} {members : Members} {update : Update}
    (hd : members.Distinct) (h : compile columns members = .ok update) :
    ((plain members).names ++ update.documents.names).Nodup := by
  obtain ⟨-, hnames, hascending⟩ := of_compile h
  obtain ⟨-, hconflict⟩ := fault?_eq_none_iff.1 (exists_compile_iff.1 ⟨update, h⟩)
  refine List.nodup_append.2 ⟨hd.sublist (List.filter_sublist.map _), hascending.nodup, ?_⟩
  rintro name hplain _ hdocument rfl
  exact hconflict name ((hnames name).1 hdocument) hplain

/-- No name comes twice among the members of the text of an update. -/
theorem distinct_of_parse {maxBytes : Nat} {text : String} {members : Members}
    (h : parse maxBytes text = .ok members) : members.Distinct := by
  rw [parse] at h
  obtain ⟨value, hvalue, h⟩ := bind_eq_ok_iff.1 h
  cases value with
  | object read =>
    cases h
    exact Json.distinct_of_parse (readBounded_eq_ok_iff.1 hvalue).2
  | _ => cases h

/-- **Updates divide their members.**  Compilation fails with the fault of the first bad key or,
where all keys are good, for the first column that is assigned in both ways.  It succeeds where
every plain key is a column, every path key resolves and no column is assigned in both ways, and
then every column is assigned once, as its own members say. -/
theorem partitions_compile {columns : ColumnSet} {members : Members} (hd : members.Distinct) :
    (∀ error, compile columns members = .error error ↔ fault? columns members = some error) ∧
    ((∃ update, compile columns members = .ok update) ↔
      (∀ member ∈ members, isJsonPath member.1 = false → columns.contains member.1 = true) ∧
      (∀ member ∈ members, isJsonPath member.1 = true →
        ∃ place, JsonPath.resolve columns .update member.1 = .ok place) ∧
      ∀ name ∈ pathColumns members, name ∉ (plain members).names) ∧
    ∀ update, compile columns members = .ok update → Partitions columns members update := by
  refine ⟨fun error => compile_eq_error_iff, ?_, fun update h => ?_⟩
  · rw [exists_compile_iff, fault?_eq_none_iff, ← and_assoc]
    refine and_congr_left fun _ => ?_
    simp only [keyFault?_eq_none_iff]
    grind
  · obtain ⟨hdirect, hnames, hascending⟩ := of_compile h
    exact {
      direct := hdirect
      mem_documents := hnames
      ordered := hascending.imp Text.bytes_lt_of_lt
      alone := fun _ _ => compile_filter_addresses h
      isEmpty_iff := isEmpty_iff_of_compile h
      assigned := fun bound => hdirect ▸ assigned_setClause bound update
      nodup := nodup_of_compile hd h }

/-- Members whose plain keys stand between the paths of two columns, the later of them first. -/
def interleaved : Members :=
  [("m.a", .null), ("t", .bool true), ("doc.b[0]", .string "x"), ("m.c.d", .null)]

/-- A table with a plain column beside two documents. -/
def mixedTable : ColumnSet := ⟨"t", [⟨"m", .jsonb⟩, ⟨"doc", .json⟩, ⟨"t", .boolean⟩]⟩

theorem partitions_compile_interleaved : interleaved.Distinct ∧
    ∃ update, compile mixedTable interleaved = .ok update ∧
      Partitions mixedTable interleaved update ∧ update.documents.names = ["doc", "m"] := by
  have hd : interleaved.Distinct := (by decide : interleaved.names.Nodup)
  obtain ⟨-, -, hpartitions⟩ := @partitions_compile mixedTable interleaved hd
  exact ⟨hd, _, rfl, hpartitions _ rfl, rfl⟩

end Update

end ClauseSql
