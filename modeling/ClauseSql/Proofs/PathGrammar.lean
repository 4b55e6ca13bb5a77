import ClauseSql.Proofs.Pattern
import ClauseSql.Proofs.Runs
import ClauseSql.Proofs.Target

/-!
# The grammar of path keys

Segments of a path are written into SQL, so that a key that resolves has to be one that the grammar
allows, whatever characters it is made of.  The grammar knows of a key nothing but its maximal runs:
the first one names the column, and the others are the segments.

## What is here

* `IsSegmentText` — the texts that a segment can be, given by two patterns, and `isSegment_iff`.
* `JsonPath.Resolves` — what becomes of a key, with one case for each fault and one for keys without
  a fault.
* `JsonPath.resolves_by_runs` — resolution does just that.  Keys with the same runs resolve alike, and
  a path whose parts are joined with points is read as that path again.
-/

set_option autoImplicit false

namespace ClauseSql

/-! ## Segments -/

/-- The texts that a segment can be: identifiers, which may contain hyphens, and indexes. -/
def IsSegmentText (segment : String) : Prop :=
  Pattern.Matches "^[A-Za-z_][A-Za-z0-9_-]*$" segment ∨ Pattern.Matches "^[0-9]+$" segment

namespace Pattern

/-- The letters and the underscore. -/
def identifierStarts : List Char := range 'A' 'Z' ++ (range 'a' 'z' ++ ['_'])

/-- The same, the digits and the hyphen. -/
def identifierParts : List Char := range 'A' 'Z' ++ (range 'a' 'z' ++ (range '0' '9' ++ ['_', '-']))

theorem parse?_identifier : parse? "^[A-Za-z_][A-Za-z0-9_-]*$" =
    some (oneOf identifierStarts * ((oneOf identifierParts).star * 1)) := rfl

theorem parse?_index : parse? "^[0-9]+$" = some (digits * 1) := rfl

theorem mem_identifierStarts_iff {c : Char} :
    c ∈ identifierStarts ↔ isIdentifierStart c = true := by
  simp only [identifierStarts, List.mem_append, mem_range_iff, List.mem_singleton, isIdentifierStart,
    Bool.or_eq_true, Bool.and_eq_true, decide_eq_true_iff, beq_iff_eq, or_assoc,
    show 'Z'.toNat < 0xD800 by decide, show 'z'.toNat < 0xD800 by decide]
  exact Iff.rfl

theorem isIndexChar_iff {c : Char} : isIndexChar c = true ↔ c ∈ range '0' '9' := by
  rw [mem_range_iff (by decide), isIndexChar, Bool.and_eq_true, decide_eq_true_iff,
    decide_eq_true_iff]
  exact Iff.rfl

theorem mem_identifierParts_iff {c : Char} :
    c ∈ identifierParts ↔ isIdentifierPart c = true := by
  rw [isIdentifierPart, Bool.or_eq_true, Bool.or_eq_true, ← mem_identifierStarts_iff,
    isIndexChar_iff, beq_iff_eq]
  simp only [identifierParts, identifierStarts, List.mem_append, List.mem_cons, List.not_mem_nil,
    or_false]
  tauto

theorem matches_identifier_iff {segment : String} :
    Matches "^[A-Za-z_][A-Za-z0-9_-]*$" segment ↔ isIdentifier segment = true := by
  rw [matches_iff parse?_identifier, RegularExpression.matches'_mul,
    RegularExpression.matches'_mul _ 1, RegularExpression.matches'_epsilon, mul_one,
    ← RegularExpression.matches'_mul, mem_oneOf_mul_star_iff, isIdentifier]
  simp only [mem_identifierStarts_iff, mem_identifierParts_iff]
  cases segment.toList with
  | nil => simp
  | cons c rest => simp

theorem matches_index_iff {segment : String} :
    Matches "^[0-9]+$" segment ↔ isIndex segment = true := by
  rw [matches_iff parse?_index, RegularExpression.matches'_mul, RegularExpression.matches'_epsilon,
    mul_one, mem_digits_iff, isIndex]
  simp [isIndexChar_iff, mem_range_digits_iff]

end Pattern

/-- The segments that are accepted are those of the grammar. -/
theorem isSegment_iff {segment : String} : isSegment segment = true ↔ IsSegmentText segment := by
  rw [isSegment, Bool.or_eq_true, IsSegmentText, Pattern.matches_identifier_iff,
    Pattern.matches_index_iff]

/-! ## Errors about keys -/

/-- The same error about another key. -/
def CompileError.about (key : String) : CompileError → CompileError
  | .misplacedOperator place operator => .misplacedOperator { place with key } operator
  | .operandCount place operator expected actual =>
    .operandCount { place with key } operator expected actual
  | .operand place operator cause => .operand { place with key } operator cause
  | .pathSegment place segment => .pathSegment { place with key } segment
  | .notJson place column => .notJson { place with key } column
  | .emptyPath place => .emptyPath { place with key }
  | .direction table _ word => .direction table key word
  | .group table _ cause => .group table key cause
  | other => other

namespace JsonPath

variable {columns : ColumnSet} {stage : Stage} {key column : String} {segments : List String}
  {result : Except CompileError (Column × List String)}

/-! ## Resolution -/

/-- What becomes of a key with a column and segments.  Each case but the last is a fault, and none of
the faults above it is there. -/
inductive Resolves (columns : ColumnSet) (stage : Stage) (key column : String)
    (segments : List String) : Except CompileError (Column × List String) → Prop
  /-- A segment is not allowed, and none before it. -/
  | segment {before after : List String} {bad : String} (h : segments = before ++ bad :: after)
      (hbefore : ∀ segment ∈ before, IsSegmentText segment) (hbad : ¬IsSegmentText bad) :
      Resolves columns stage key column segments
        (.error (.pathSegment ⟨stage, columns.table, key⟩ bad))
  | unknown (hs : ∀ segment ∈ segments, IsSegmentText segment)
      (h : columns.find? column = none) :
      Resolves columns stage key column segments
        (.error (.unknownColumn stage columns.table column))
  | notJson {declared : Column} (hs : ∀ segment ∈ segments, IsSegmentText segment)
      (h : columns.find? column = some declared)
      (htype : declared.type ≠ .json ∧ declared.type ≠ .jsonb) :
      Resolves columns stage key column segments
        (.error (.notJson ⟨stage, columns.table, key⟩ column))
  | empty {declared : Column} (h : columns.find? column = some declared)
      (htype : declared.type = .json ∨ declared.type = .jsonb) (hs : segments = []) :
      Resolves columns stage key column segments (.error (.emptyPath ⟨stage, columns.table, key⟩))
  | path {declared : Column} (hs : ∀ segment ∈ segments, IsSegmentText segment)
      (h : columns.find? column = some declared)
      (htype : declared.type = .json ∨ declared.type = .jsonb) (hne : segments ≠ []) :
      Resolves columns stage key column segments (.ok (declared, segments))

theorem badSegment?_eq_none_iff {path : JsonPath} :
    path.badSegment? = none ↔ ∀ segment ∈ path.segments, IsSegmentText segment := by
  rw [badSegment?, List.find?_eq_none]
  simp [isSegment_iff]

theorem badSegment?_eq_some_iff {path : JsonPath} {bad : String} :
    path.badSegment? = some bad ↔ ∃ before after, path.segments = before ++ bad :: after ∧
      (∀ segment ∈ before, IsSegmentText segment) ∧ ¬IsSegmentText bad := by
  simp only [badSegment?, List.find?_eq_some_iff_append, ← isSegment_iff, Bool.not_eq_true',
    Bool.not_eq_true, Bool.not_eq_false']
  constructor
  · rintro ⟨hbad, before, after, h, hbefore⟩
    exact ⟨before, after, h, hbefore, hbad⟩
  · rintro ⟨before, after, h, hbefore, hbad⟩
    exact ⟨hbad, before, after, h, hbefore⟩

theorem isJson_iff {type : ColumnType} : type.isJson = true ↔ type = .json ∨ type = .jsonb := by
  cases type <;> decide

theorem resolves_resolve (columns : ColumnSet) (stage : Stage) (key : String) :
    Resolves columns stage key (parse key).column (parse key).segments
      (resolve columns stage key) := by
  rw [resolve]
  split
  · rename_i bad hbad
    obtain ⟨before, after, h, hbefore, hnot⟩ := badSegment?_eq_some_iff.1 hbad
    exact .segment h hbefore hnot
  rename_i hgood
  have hs := badSegment?_eq_none_iff.1 hgood
  split
  · rename_i hfind
    exact .unknown hs hfind
  rename_i declared hfind
  split
  · rename_i hjson
    rw [Bool.not_eq_true', Bool.eq_false_iff, Ne, isJson_iff] at hjson
    rw [ColumnSet.name_of_find? hfind]
    exact .notJson hs hfind (not_or.1 hjson)
  rename_i hjson
  rw [Bool.not_eq_true, Bool.not_eq_false'] at hjson
  have htype := isJson_iff.1 hjson
  split
  · rename_i hempty
    exact .empty hfind htype (List.isEmpty_iff.1 hempty)
  · rename_i hempty
    exact .path hs hfind htype (mt List.isEmpty_iff.2 hempty)

/-- The cases exclude each other. -/
theorem Resolves.eq_resolve
    (h : Resolves columns stage key (parse key).column (parse key).segments result) :
    resolve columns stage key = result := by
  rw [resolve]
  cases h with
  | segment h hbefore hbad =>
    rw [badSegment?_eq_some_iff.2 ⟨_, _, h, hbefore, hbad⟩]
  | unknown hs h =>
    rw [badSegment?_eq_none_iff.2 hs, h]
  | notJson hs h htype =>
    have hjson := Bool.eq_false_iff.2 (mt isJson_iff.1 (not_or.2 htype))
    rw [badSegment?_eq_none_iff.2 hs, h]
    simp only [hjson, ColumnSet.name_of_find? h]
    rfl
  | empty h htype hs =>
    have hgood : (parse key).badSegment? = none :=
      badSegment?_eq_none_iff.2 (hs ▸ List.forall_mem_nil _)
    rw [hgood, h]
    simp only [isJson_iff.2 htype, hs]
    rfl
  | path hs h htype hne =>
    have hsome := Bool.eq_false_iff.2 (mt List.isEmpty_iff.1 hne)
    rw [badSegment?_eq_none_iff.2 hs, h]
    simp only [isJson_iff.2 htype, hsome]
    rfl

theorem resolve_eq_iff : resolve columns stage key = result ↔
    Resolves columns stage key (parse key).column (parse key).segments result :=
  ⟨fun h => h ▸ resolves_resolve columns stage key, Resolves.eq_resolve⟩

/-- What becomes of a key depends on its parts alone, apart from the key that an error names. -/
theorem Resolves.about (h : Resolves columns stage key column segments result) (other : String) :
    Resolves columns stage other column segments (result.mapError (CompileError.about other)) := by
  cases h with
  | segment h hbefore hbad => exact .segment h hbefore hbad
  | unknown hs h => exact .unknown hs h
  | notJson hs h htype => exact .notJson hs h htype
  | empty h htype hs => exact .empty h htype hs
  | path hs h htype hne => exact .path hs h htype hne

/-! ## Runs -/

theorem parse_of_runs {runs : List String} (h : Text.RunsOf isDelimiter key runs) :
    parse key = ⟨runs.headD "", runs.tail⟩ := by
  rw [parse, Text.runsOf_iff.1 h]
  cases runs <;> rfl

theorem runsOf_joined_parse {runs : List String} (h : Text.RunsOf isDelimiter key runs) :
    Text.RunsOf isDelimiter (joined "." ((parse key).column :: (parse key).segments)) runs := by
  rw [parse_of_runs h]
  cases runs with
  | nil => exact .nil
  | cons first rest => exact Text.runsOf_joined (c := '.') rfl rfl h.of_mem

/-- **Keys are accepted by their runs.**  The first maximal run of a key names its column, and the
others are its segments.  Resolution gives what the grammar says of them, and of two keys with the same
runs it says the same.  The parts of a path, joined with points, are the parts of that path again. -/
theorem resolves_by_runs (columns : ColumnSet) (stage : Stage) (key : String) :
    ∃ runs, (∀ others, Text.RunsOf isDelimiter key others ↔ others = runs) ∧
      parse key = ⟨runs.headD "", runs.tail⟩ ∧
      (∀ result, resolve columns stage key = result ↔
        Resolves columns stage key (runs.headD "") runs.tail result) ∧
      (∀ other, Text.RunsOf isDelimiter other runs →
        resolve columns stage other =
          (resolve columns stage key).mapError (CompileError.about other)) ∧
      parse (joined "." ((parse key).column :: (parse key).segments)) = parse key := by
  have hruns : Text.RunsOf isDelimiter key (Text.runs isDelimiter key) := Text.runsOf_iff.2 rfl
  have hparse := parse_of_runs hruns
  refine ⟨Text.runs isDelimiter key, fun others => ?_, hparse, fun result => ?_,
    fun other hother => ?_, ?_⟩
  · rw [Text.runsOf_iff, eq_comm]
  · rw [resolve_eq_iff, hparse]
  · have habout := (resolves_resolve columns stage key).about other
    rw [hparse, ← parse_of_runs hother] at habout
    exact habout.eq_resolve
  · rw [parse_of_runs (runsOf_joined_parse hruns), hparse]

/-- A table with a document and a title. -/
def titledDocuments : ColumnSet := ⟨"t", [⟨"title", .text⟩, ⟨"doc", .jsonb⟩]⟩

/-- Brackets in place of points, doubled points and open ends make no difference. -/
theorem resolves_by_runs_brackets :
    resolve titledDocuments .condition "doc.a-b[0]" =
        .ok (⟨"doc", .jsonb⟩, ["a-b", "0"]) ∧
      resolve titledDocuments .condition "]doc[a-b..0." =
        .ok (⟨"doc", .jsonb⟩, ["a-b", "0"]) := by
  obtain ⟨runs, hruns, hparse, hresolve, hother, -⟩ :=
    resolves_by_runs titledDocuments .condition "doc.a-b[0]"
  have hkey : runs = ["doc", "a-b", "0"] := ((hruns _).1 (Text.runsOf_iff.2 rfl)).symm
  subst hkey
  have hpath : resolve titledDocuments .condition "doc.a-b[0]" =
      .ok (⟨"doc", .jsonb⟩, ["a-b", "0"]) :=
    (hresolve _).2 (.path (by simp [← isSegment_iff]; decide) rfl (.inr rfl) (List.cons_ne_nil _ _))
  refine ⟨hpath, ?_⟩
  rw [hother _ (Text.runsOf_iff.2 rfl), hpath]
  rfl

end JsonPath
end ClauseSql
