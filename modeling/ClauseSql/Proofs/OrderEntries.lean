import ClauseSql.Order
import ClauseSql.Proofs.ColumnIndex
import ClauseSql.Proofs.Runs
import ClauseSql.Proofs.Steps
import ClauseSql.Sql.Predicate
import Mathlib.Data.List.Forall2

/-!
# Order entries, one by one

An order is compiled entry by entry.  What an entry says is settled by its words, the maximal runs of
characters that are no white space: the first one is the key, and a second one names the direction.
Blank entries have no words and leave no trace.

## What is here

* `Direction.IsNamed` — the words for a direction, and `Direction.ofWord?_eq_some_iff`.
* `Order.Directs` and `Order.Names` — the direction that the words after a key ask for, and what the
  key is about, each said apart from how it is found.
* `Order.Reads` — what becomes of an entry, with one case for each of the two faults, in the order in
  which they are looked for, and `Order.compileEntry_eq_iff`.
* `Order.compiles_by_entries` — what becomes of a list of entries.
-/

set_option autoImplicit false

namespace ClauseSql

/-! ## Directions -/

section Letters

variable {c capital : Char}

theorem isUpper_iff : c.isUpper = true ↔ 'A'.val ≤ c.val ∧ c.val ≤ 'Z'.val := decide_eq_true_iff

theorem val_toLower_of_isUpper (h : c.isUpper = true) : c.toLower.val = c.val + 32 :=
  congrArg Char.val (dif_pos (isUpper_iff.1 h))

theorem toLower_of_not_isUpper (h : c.isUpper = false) : c.toLower = c :=
  dif_neg fun hrange => Bool.eq_false_iff.1 h (isUpper_iff.2 hrange)

theorem isUpper_toLower (c : Char) : c.toLower.isUpper = false := by
  cases hc : c.isUpper with
  | true =>
    have hval := val_toLower_of_isUpper hc
    rw [isUpper_iff] at hc
    rw [Bool.eq_false_iff, ne_eq, isUpper_iff]
    grind [UInt32.toNat_add, Char.toNat_val]
  | false => rw [toLower_of_not_isUpper hc, hc]

/-- The small form of a capital letter belongs to that letter and to itself. -/
theorem toLower_eq_iff (h : capital.isUpper = true) :
    c.toLower = capital.toLower ↔ c = capital ∨ c = capital.toLower := by
  constructor
  · intro heq
    cases hc : c.isUpper with
    | true =>
      have hval := congrArg Char.val heq
      rw [val_toLower_of_isUpper hc, val_toLower_of_isUpper h] at hval
      exact .inl (Char.ext ((UInt32.add_left_inj 32).1 hval))
    | false => exact .inr ((toLower_of_not_isUpper hc).symm.trans heq)
  · rintro (rfl | rfl)
    · rfl
    · exact toLower_of_not_isUpper (isUpper_toLower capital)

end Letters

namespace Direction

variable {direction other : Direction} {word : String}

/-- A word for a direction: the letters of the word that is written for it, each in either case. -/
def IsNamed (direction : Direction) (word : String) : Prop :=
  List.Forall₂ (fun c capital => c = capital ∨ c = capital.toLower) word.toList direction.sql.toList

theorem isNamed_iff :
    direction.IsNamed word ↔
      word.toList.map Char.toLower = direction.sql.toList.map Char.toLower := by
  have hcapitals : ∀ capital ∈ direction.sql.toList, capital.isUpper = true :=
    List.all_eq_true.1 (by cases direction <;> rfl)
  rw [IsNamed, ← List.forall₂_eq_eq_eq, List.forall₂_map_left_iff, List.forall₂_map_right_iff]
  generalize direction.sql.toList = capitals at hcapitals
  induction word.toList generalizing capitals with
  | nil => rw [List.forall₂_nil_left_iff, List.forall₂_nil_left_iff]
  | cons c rest ih =>
    cases capitals with
    | nil => exact iff_of_false nofun nofun
    | cons capital more =>
      obtain ⟨hcapital, hmore⟩ := List.forall_mem_cons.1 hcapitals
      rw [List.forall₂_cons, List.forall₂_cons]
      exact and_congr (toLower_eq_iff hcapital).symm (ih more hmore)

/-- **The direction of a word is the one that it names.** -/
theorem ofWord?_eq_some_iff : ofWord? word = some direction ↔ direction.IsNamed word := by
  have hasc : asc.sql.toList.map Char.toLower = ['a', 's', 'c'] := rfl
  have hdesc : desc.sql.toList.map Char.toLower = ['d', 'e', 's', 'c'] := rfl
  rw [isNamed_iff, ofWord?]
  cases direction with
  | asc =>
    rw [hasc]
    split_ifs with h <;> simp_all
  | desc =>
    rw [hdesc]
    split_ifs with h <;> simp_all

end Direction

namespace Order

variable {columns : ColumnSet} {entry key : String} {words entries : List String}
  {direction : Direction} {error : CompileError}

/-- The direction that the words after a key ask for.  Without words it is the ascending one, and there
is at most one word. -/
inductive Directs : List String → Direction → Prop
  | unsaid : Directs [] .asc
  | named {word : String} {direction : Direction} (h : direction.IsNamed word) :
    Directs [word] direction

theorem compileDirection_eq_ok_iff :
    compileDirection columns key words = .ok direction ↔ Directs words direction := by
  constructor
  · intro h
    rw [compileDirection.eq_def] at h
    split at h
    · cases h
      exact .unsaid
    · split at h
      · rename_i hword
        cases h
        exact .named (Direction.ofWord?_eq_some_iff.1 hword)
      · cases h
    · cases h
  · rintro (_ | hnamed)
    · rfl
    · rw [compileDirection, Direction.ofWord?_eq_some_iff.2 hnamed]

theorem compileDirection_eq_error_iff : compileDirection columns key words = .error error ↔
    (¬∃ direction, Directs words direction) ∧
      error = .direction columns.table key (joined " " words) := by
  have hnone : (¬∃ direction, Directs words direction) ↔
      ∀ direction, compileDirection columns key words ≠ .ok direction := by
    simp only [not_exists, Ne, compileDirection_eq_ok_iff]
  rw [hnone, compileDirection.eq_def]
  split
  · simp
  · rename_i word
    cases Direction.ofWord? word <;> simp [joined, eq_comm]
  · simp [eq_comm]

/-! ## Keys -/

/-- What a key is about.  A key without a point and an opening bracket is the name of a column, and any
other one is a path. -/
inductive Names (columns : ColumnSet) (key : String) : Except CompileError Target → Prop
  | column {declared : Column} (hpoint : '.' ∉ key.toList) (hbracket : '[' ∉ key.toList)
      (h : columns.find? key = some declared) : Names columns key (.ok (.column declared))
  | undeclared (hpoint : '.' ∉ key.toList) (hbracket : '[' ∉ key.toList)
      (h : ∀ column ∈ columns.columns, column.name ≠ key) :
      Names columns key (.error (.unknownColumn .order columns.table key))
  | path {document : Column} {segments : List String}
      (hkey : '.' ∈ key.toList ∨ '[' ∈ key.toList)
      (h : JsonPath.resolve columns .order key = .ok (document, segments)) :
      Names columns key (.ok (.path document segments))
  | unresolved {error : CompileError} (hkey : '.' ∈ key.toList ∨ '[' ∈ key.toList)
      (h : JsonPath.resolve columns .order key = .error error) : Names columns key (.error error)

theorem isJsonPath_eq_true_iff :
    isJsonPath key = true ↔ '.' ∈ key.toList ∨ '[' ∈ key.toList := by
  simp only [isJsonPath, List.any_eq_true, Bool.or_eq_true, beq_iff_eq]
  grind

theorem find?_eq_none_iff :
    columns.find? key = none ↔ ∀ column ∈ columns.columns, column.name ≠ key := by
  rw [ColumnSet.find?_eq, List.find?_eq_none]
  simp

theorem names_resolve (columns : ColumnSet) (key : String) :
    Names columns key (Target.resolve columns .order key) := by
  rw [Target.resolve]
  split
  · rename_i hkey
    have hkey := isJsonPath_eq_true_iff.1 hkey
    split
    · rename_i hresolve
      exact .unresolved hkey hresolve
    · rename_i hresolve
      exact .path hkey hresolve
  · rename_i hkey
    obtain ⟨hpoint, hbracket⟩ := not_or.1 (mt isJsonPath_eq_true_iff.2 hkey)
    split
    · rename_i hfind
      exact .undeclared hpoint hbracket (find?_eq_none_iff.1 hfind)
    · rename_i hfind
      exact .column hpoint hbracket hfind

theorem Names.resolve_eq {result : Except CompileError Target} (h : Names columns key result) :
    Target.resolve columns .order key = result := by
  have hplain : '.' ∉ key.toList → '[' ∉ key.toList → ¬isJsonPath key = true := fun hpoint hbracket =>
    mt isJsonPath_eq_true_iff.1 (not_or.2 ⟨hpoint, hbracket⟩)
  rw [Target.resolve]
  cases h with
  | column hpoint hbracket h => rw [if_neg (hplain hpoint hbracket), h]
  | undeclared hpoint hbracket h =>
    rw [if_neg (hplain hpoint hbracket), find?_eq_none_iff.2 h]
  | path hkey h | unresolved hkey h => rw [if_pos (isJsonPath_eq_true_iff.2 hkey), h]

/-- A key is about one thing, the one that it resolves to. -/
theorem names_iff {result : Except CompileError Target} :
    Names columns key result ↔ Target.resolve columns .order key = result :=
  ⟨Names.resolve_eq, fun h => h ▸ names_resolve columns key⟩

/-! ## Entries -/

/-- What becomes of an entry.  The words after the key are looked at before the key is. -/
inductive Reads (columns : ColumnSet) (entry : String) :
    Except CompileError (Option OrderKey) → Prop
  | blank (h : ∀ c ∈ entry.toList, Text.isWhite c = true) : Reads columns entry (.ok none)
  | undirected {key : String} {words : List String}
      (hwords : Text.RunsOf Text.isWhite entry (key :: words))
      (h : ¬∃ direction, Directs words direction) :
      Reads columns entry (.error (.direction columns.table key (joined " " words)))
  | unnamed {key : String} {words : List String} {direction : Direction} {error : CompileError}
      (hwords : Text.RunsOf Text.isWhite entry (key :: words)) (hdirection : Directs words direction)
      (h : Names columns key (.error error)) : Reads columns entry (.error error)
  | key {key : String} {words : List String} {direction : Direction} {target : Target}
      (hwords : Text.RunsOf Text.isWhite entry (key :: words)) (hdirection : Directs words direction)
      (h : Names columns key (.ok target)) :
      Reads columns entry (.ok (some ⟨target.ordered, direction⟩))

theorem words_eq_nil_iff : Text.words entry = [] ↔ ∀ c ∈ entry.toList, Text.isWhite c = true := by
  rw [Text.words, ← Text.runsOf_iff, Text.RunsOf, List.map_nil, Text.isRuns_nil_iff]

theorem reads_compileEntry (columns : ColumnSet) (entry : String) :
    Reads columns entry (compileEntry columns entry) := by
  rw [compileEntry]
  split
  · rename_i hwords
    exact .blank (words_eq_nil_iff.1 hwords)
  rename_i key words hwords
  have hwords := Text.runsOf_iff.2 hwords
  cases hdirection : compileDirection columns key words with
  | error error =>
    obtain ⟨hnone, rfl⟩ := compileDirection_eq_error_iff.1 hdirection
    exact .undirected hwords hnone
  | ok direction =>
    have hdirection := compileDirection_eq_ok_iff.1 hdirection
    cases hresolve : Target.resolve columns .order key with
    | error error => exact .unnamed hwords hdirection (names_iff.2 hresolve)
    | ok target => exact .key hwords hdirection (names_iff.2 hresolve)

theorem Reads.compileEntry_eq {result : Except CompileError (Option OrderKey)}
    (h : Reads columns entry result) : compileEntry columns entry = result := by
  rw [compileEntry]
  cases h with
  | blank h => rw [words_eq_nil_iff.2 h]
  | undirected hwords h =>
    rw [Text.words, Text.runsOf_iff.1 hwords]
    simp only [compileDirection_eq_error_iff.2 ⟨h, rfl⟩]
    rfl
  | unnamed hwords hdirection h | key hwords hdirection h =>
    rw [Text.words, Text.runsOf_iff.1 hwords]
    simp only [compileDirection_eq_ok_iff.2 hdirection, names_iff.1 h]
    rfl

/-- **What becomes of an entry is settled by its words.** -/
theorem compileEntry_eq_iff {result : Except CompileError (Option OrderKey)} :
    compileEntry columns entry = result ↔ Reads columns entry result :=
  ⟨fun h => h ▸ reads_compileEntry columns entry, Reads.compileEntry_eq⟩

/-! ## Lists of entries -/

/-- Whether an entry is nothing but white space. -/
def isBlankEntry (entry : String) : Bool := entry.toList.all Text.isWhite

theorem compileEntry_eq_none_iff :
    compileEntry columns entry = .ok none ↔ isBlankEntry entry = true := by
  rw [compileEntry_eq_iff, isBlankEntry, List.all_eq_true]
  refine ⟨fun h => ?_, .blank⟩
  cases h with
  | blank h => exact h

theorem compile_cons_eq_ok_iff {keys : List OrderKey} :
    compile columns (entry :: entries) = .ok keys ↔
      ∃ key, compileEntry columns entry = .ok key ∧
        ∃ more, compile columns entries = .ok more ∧ key.toList ++ more = keys := by
  rw [compile, bind_eq_ok_iff]
  refine exists_congr fun key => and_congr_right fun _ => ?_
  rw [bind_eq_ok_iff]
  exact exists_congr fun more => and_congr_right fun _ => ⟨Except.ok.inj, congrArg Except.ok⟩

/-- The keys of a list of entries are those of the entries that are not blank, in order. -/
theorem compile_eq_ok_iff {keys : List OrderKey} : compile columns entries = .ok keys ↔
    List.Forall₂ (fun entry key => compileEntry columns entry = .ok (some key))
      (entries.filter fun entry => !isBlankEntry entry) keys := by
  induction entries generalizing keys with
  | nil => rw [compile, List.filter_nil, List.forall₂_nil_left_iff, Except.ok.injEq, eq_comm]
  | cons entry rest ih =>
    rw [compile_cons_eq_ok_iff, List.filter_cons]
    cases hblank : isBlankEntry entry with
    | true =>
      rw [compileEntry_eq_none_iff.2 hblank, if_neg (by decide), ← ih]
      simp
    | false =>
      rw [if_pos (by decide), List.forall₂_cons_left_iff]
      constructor
      · rintro ⟨key, hkey, more, hmore, rfl⟩
        cases key with
        | none => cases hblank.symm.trans (compileEntry_eq_none_iff.1 hkey)
        | some key => exact ⟨key, more, hkey, ih.1 hmore, rfl⟩
      · rintro ⟨key, more, hkey, hmore, rfl⟩
        exact ⟨some key, hkey, more, ih.2 hmore, rfl⟩

/-- A list of entries fails where the first of them does. -/
theorem compile_eq_error_iff : compile columns entries = .error error ↔
    ∃ before bad after, entries = before ++ bad :: after ∧
      (∀ entry ∈ before, ∃ key, compileEntry columns entry = .ok key) ∧
      compileEntry columns bad = .error error := by
  induction entries with
  | nil =>
    refine iff_of_false nofun fun ⟨before, bad, after, h, _⟩ => ?_
    exact List.append_ne_nil_of_right_ne_nil before (List.cons_ne_nil bad after) h.symm
  | cons entry rest ih =>
    rw [compile, bind_eq_error_iff]
    simp only [bind_pure_eq_error_iff, ih]
    constructor
    · rintro (hbad | ⟨key, hkey, before, bad, after, rfl, hbefore, hbad⟩)
      · exact ⟨[], entry, rest, rfl, List.forall_mem_nil _, hbad⟩
      · exact ⟨entry :: before, bad, after, rfl, List.forall_mem_cons.2 ⟨⟨key, hkey⟩, hbefore⟩, hbad⟩
    · rintro ⟨before, bad, after, hentries, hbefore, hbad⟩
      cases before with
      | nil =>
        cases hentries
        exact .inl hbad
      | cons first before =>
        cases hentries
        obtain ⟨⟨key, hkey⟩, hbefore⟩ := List.forall_mem_cons.1 hbefore
        exact .inr ⟨key, hkey, before, bad, after, rfl, hbefore, hbad⟩

theorem compile_append (columns : ColumnSet) (front back : List String) :
    compile columns (front ++ back) = (do
      let keys ← compile columns front
      let more ← compile columns back
      return keys ++ more) := by
  induction front with
  | nil => exact (bind_pure (compile columns back)).symm
  | cons entry rest ih =>
    rw [List.cons_append, compile, compile, ih]
    simp only [bind_assoc, pure_bind, List.append_assoc]

/-- **An order is compiled entry by entry.**  A list of entries fails with the error of the first of
them that fails.  Else it has one key for every entry that is not blank, in order, and this is the key
that the entry has alone: a longer list has the keys of its parts.  What becomes of an entry is settled
by its words, and the text of its key ends with the direction. -/
theorem compiles_by_entries (columns : ColumnSet) (entries : List String) :
    (∀ error, compile columns entries = .error error ↔
      ∃ before bad after, entries = before ++ bad :: after ∧
        (∀ entry ∈ before, ∃ key, compileEntry columns entry = .ok key) ∧
        compileEntry columns bad = .error error) ∧
    (∀ keys, compile columns entries = .ok keys ↔
      List.Forall₂ (fun entry key => compileEntry columns entry = .ok (some key))
        (entries.filter fun entry => !isBlankEntry entry) keys) ∧
    (∀ more, compile columns (entries ++ more) = (do
      let keys ← compile columns entries
      let others ← compile columns more
      return keys ++ others)) ∧
    (∀ entry result, compileEntry columns entry = result ↔ Reads columns entry result) ∧
    ∀ key : OrderKey, key.sql = key.expr.sql ++ " " ++
      match key.direction with
      | .asc => "ASC"
      | .desc => "DESC" := by
  refine ⟨fun _ => compile_eq_error_iff, fun _ => compile_eq_ok_iff, compile_append columns entries,
    fun _ _ => compileEntry_eq_iff, fun key => ?_⟩
  rw [OrderKey.sql]
  cases key.direction <;> rfl

/-- A blank entry between two others, and a wide blank with letters in both cases; and a direction that
there is not, before a key that nothing has. -/
theorem compiles_by_entries_blankBetween :
    let columns : ColumnSet := ⟨"t", [⟨"title", .text⟩, ⟨"doc", .jsonb⟩]⟩
    compile columns ["title\u2003dEsC", " \t", "doc.a[0]"] =
        .ok [⟨.column "title", .desc⟩, ⟨.jsonNative "doc" ["a", "0"], .asc⟩] ∧
      compile columns ["title", "nope up", "doc["] = .error (.direction "t" "nope" "up") := by
  intro columns
  obtain ⟨-, hkeys, -⟩ := compiles_by_entries columns ["title\u2003dEsC", " \t", "doc.a[0]"]
  obtain ⟨hfails, -⟩ := compiles_by_entries columns ["title", "nope up", "doc["]
  refine ⟨(hkeys _).2 (.cons rfl (.cons rfl .nil)), (hfails _).2 ?_⟩
  exact ⟨["title"], "nope up", ["doc["], rfl, List.forall_mem_singleton.2 ⟨_, rfl⟩, rfl⟩

end Order
end ClauseSql
