import ClauseSql.Proofs.Demands

/-!
# What is compared with what

A server compares values of one type, and values of the plain JSON type with nothing at all.  So the
type of what a leaf looks at has to go with the operands that are bound for it.

## What is here

* `Expr.type?` — the type of an expression, and `Predicate.comparedType?`, that of the expression that
  a leaf compares.
* `Clause.plainJson_iff` — a plain JSON value is compared just where a column of that type is compared
  with scalars.  It is never what rows are ordered by.
* `Clause.plainJson_compared` — a clause that does so.
* `Extraction` — what an expression takes from a place in a document: its text, the number that the
  text spells, or the JSON that is there.
* `Extraction.Suits` — an extraction that goes with what was asked for and with what is bound.
* `Clause.suits_of_compile` — every leaf on a path has one.
-/

set_option autoImplicit false

namespace ClauseSql

/-! ## Types -/

/-- The type of an expression; none if it is about no column. -/
def Expr.type? (columns : ColumnSet) : Expr → Option ColumnType
  | .column name => (columns.find? name).map Column.type
  | .jsonText .. => some .text
  | .jsonNative document _ => (columns.find? document).map Column.type
  | .safeNumeric _ => some .numeric
  | .jsonb _ => some .jsonb

namespace Predicate

/-- The expression that a leaf compares with its operands. -/
def compared? : Predicate → Option Expr
  | .compare expr .. | .inList expr .. | .between expr .. => some expr
  | _ => none

/-- The type of what a leaf compares with its operands. -/
def comparedType? (columns : ColumnSet) (leaf : Predicate) : Option ColumnType :=
  leaf.compared?.bind (Expr.type? columns)

theorem expr?_of_compared? {leaf : Predicate} {expr : Expr} (h : leaf.compared? = some expr) :
    leaf.expr? = some expr := by
  cases leaf with
  | compare | inList | between => exact h
  | _ => cases h

end Predicate

namespace Target

variable {columns : ColumnSet}

theorem type?_column {declared : Column} (h : (Target.column declared).Resolved columns) :
    (Expr.column declared.name).type? columns = some declared.type := by
  rw [Resolved] at h
  rw [Expr.type?, h, Option.map_some]

theorem type?_comparable {declared : Column} (h : (Target.column declared).Resolved columns) :
    declared.comparable.type? columns ≠ some .json := by
  rw [Column.comparable]
  split
  · exact mt Option.some.inj (by decide)
  · rename_i hne
    rw [type?_column h]
    exact mt Option.some.inj hne

/-- Nothing that is made for a path is a plain JSON value. -/
theorem type?_path {document : Column} {segments : List String}
    (h : (Target.path document segments).Resolved columns) :
    ∀ expr ∈ (Target.path document segments).exprs, expr.type? columns ≠ some .json := by
  have hnative : (native document segments).type? columns ≠ some .json := by
    rw [native]
    split
    · exact mt Option.some.inj (by decide)
    · rename_i hne
      rw [Expr.type?, h.1, Option.map_some]
      exact mt Option.some.inj hne
  simp only [exprs, List.forall_mem_cons, List.not_mem_nil, false_implies, implies_true, and_true]
  exact ⟨mt Option.some.inj (by decide), hnative, mt Option.some.inj (by decide)⟩

/-- What rows are ordered by is no plain JSON value. -/
theorem type?_ordered {target : Target} (h : target.Resolved columns) :
    target.ordered.type? columns ≠ some .json := by
  cases target with
  | column declared => exact type?_comparable h
  | path document segments => exact type?_path h _ (ordered_mem_exprs _)

end Target

/-! ## Plain JSON -/

theorem Json.isScalar_of_ne_null {value : Json} (hne : value ≠ .null)
    (h : ¬value.isStructured = true) : value.isScalar = true := by
  cases value with
  | null => exact absurd rfl hne
  | array items => exact absurd rfl h
  | object members => exact absurd rfl h
  | _ => rfl

namespace Operator

variable {columns : ColumnSet} {name : String} {operand : Json} {place : Place} {leaf : Predicate}

/-- On a column the compared value is the column itself, unless the operand is an array or an object. -/
theorem Makes.comparedType?_column {declared : Column}
    (ht : (Target.column declared).Resolved columns)
    (h : Makes (.column declared) operand leaf) :
    leaf.comparedType? columns = some .json ↔
      leaf.compared?.isSome = true ∧ declared.type = .json ∧
        ∀ value ∈ leaf.operands, value.isScalar = true := by
  -- what is compared as it is has the type of the column, and its operands are scalars
  have hbare : ∀ {leaf : Predicate}, leaf.compared? = some (.column declared.name) →
      (∀ value ∈ leaf.operands, value.isScalar = true) →
      (leaf.comparedType? columns = some .json ↔ leaf.compared?.isSome = true ∧
        declared.type = .json ∧ ∀ value ∈ leaf.operands, value.isScalar = true) := by
    intro leaf hcompared hscalar
    rw [Predicate.comparedType?, hcompared, Option.bind_some, Target.type?_column ht]
    exact ⟨fun htype => ⟨rfl, Option.some.inj htype, hscalar⟩, fun h => congrArg some h.2.1⟩
  cases h with
  | compare hne ho =>
    rw [Target.compare]
    split
    · rename_i hstructured
      refine iff_of_false (Target.type?_comparable ht) fun h => ?_
      exact Json.not_isStructured_of_isScalar (h.2.2 _ List.mem_cons_self) hstructured
    · rename_i hstructured
      exact hbare rfl (List.forall_mem_singleton.2 (Json.isScalar_of_ne_null hne hstructured))
  | inList _ _ hs => exact hbare rfl (List.forall_mem_map.2 hs)
  | between _ hs => exact hbare rfl hs
  | isNull | isNotNull | like | regex | constant =>
    exact iff_of_false (Option.some_ne_none _).symm fun h => Bool.false_ne_true h.1

end Operator

/-- A leaf that compares a column of the plain JSON type with scalars, and the demand that it is
for. -/
structure Demand.ComparesPlainJson (columns : ColumnSet) (demand : Demand) (leaf : Predicate) :
    Prop where
  /-- Something is compared. -/
  compared : leaf.compared?.isSome = true
  /-- The key is a column of that type. -/
  column : ∃ declared, Target.resolve columns .condition demand.key = .ok (.column declared) ∧
    declared.type = .json
  /-- Nothing that is bound is an array or an object. -/
  scalar : ∀ value ∈ leaf.operands, value.isScalar = true

/-- What a demand builds compares a plain JSON value just where it compares such a column with
scalars. -/
theorem Demand.Builds.comparedType?_eq_json_iff {columns : ColumnSet} {demand : Demand}
    {leaf : Predicate} (h : demand.Builds columns leaf) :
    leaf.comparedType? columns = some .json ↔ demand.ComparesPlainJson columns leaf := by
  obtain ⟨target, htarget, hbuild⟩ := h
  have hresolved := Target.resolved_of_resolve htarget
  cases target with
  | column declared =>
    rw [(Operator.makes_of_build hbuild).comparedType?_column hresolved]
    refine ⟨fun ⟨hcompared, hjson, hscalar⟩ => ⟨hcompared, ⟨declared, htarget, hjson⟩, hscalar⟩,
      fun ⟨hcompared, ⟨found, hfound, hjson⟩, hscalar⟩ => ⟨hcompared, ?_, hscalar⟩⟩
    cases htarget.symm.trans hfound
    exact hjson
  | path document segments =>
    refine iff_of_false (fun htype => ?_) fun ⟨_, ⟨declared, hdeclared, _⟩, _⟩ => ?_
    · obtain ⟨expr, hcompared, hjson⟩ := Option.bind_eq_some_iff.1 htype
      have hexpr := Operator.mem_exprs_of_build hbuild (Predicate.expr?_of_compared? hcompared)
      exact Target.type?_path hresolved expr hexpr hjson
    · rw [htarget] at hdeclared
      cases hdeclared

/-- **Where plain JSON is compared.**  A leaf of a compiled clause compares a plain JSON value just
where the key that it is for is a column of that type and its operands are scalars.  In every other
leaf, and in everything that rows are ordered by, such a value stands under the cast to the type that
has an order and an equality. -/
theorem Clause.plainJson_iff {columns : ColumnSet} {clause : Clause} {predicate : Predicate}
    {entries : List String} {keys : List OrderKey}
    (h : clause.compile columns = .ok (some predicate))
    (ho : Order.compile columns entries = .ok keys) :
    List.Forall₂ (fun demand leaf => leaf.comparedType? columns = some .json ↔
        demand.ComparesPlainJson columns leaf) (entriesDemands clause) predicate.leaves ∧
      ∀ key ∈ keys, key.expr.type? columns ≠ some .json := by
  refine ⟨(Clause.forall₂_builds h).imp fun demand leaf hbuilds =>
    hbuilds.comparedType?_eq_json_iff, fun key hkey => ?_⟩
  obtain ⟨name, target, htarget, hexpr⟩ := Order.resolve_of_compile ho key hkey
  rw [hexpr]
  exact Target.type?_ordered (Target.resolved_of_resolve htarget)

/-- A document of the plain type. -/
def plainDocument : ColumnSet := ⟨"t", [⟨"doc", .json⟩]⟩

/-- A document compared with an object and with a list, and a list at a path in it. -/
def documentThreeWays : Clause :=
  [("doc", .object [("ne", .object [("k", .null)]), ("in", .array [.number (.int 1), .bool true])]),
    ("doc.a[0]", .array [.string "x"])]

theorem Clause.plainJson_iff_documentThreeWays : ∃ predicate keys,
    documentThreeWays.compile plainDocument = .ok (some predicate) ∧
      Order.compile plainDocument ["doc desc", "doc.a"] = .ok keys ∧
      predicate = .and [.compare (.jsonb (.column "doc")) .ne (.object [("k", .null)]),
        .inList (.column "doc") [.number (.int 1), .bool true] false,
        .inList (.jsonText "doc" ["a", "0"]) [.string "x"] false] ∧
      predicate.leaves.map (·.comparedType? plainDocument) =
        [some .jsonb, some .json, some .text] ∧
      List.Forall₂ (fun demand leaf => leaf.comparedType? plainDocument = some .json ↔
          demand.ComparesPlainJson plainDocument leaf)
        (entriesDemands documentThreeWays) predicate.leaves ∧
      ∀ key ∈ keys, key.expr.type? plainDocument ≠ some .json := by
  have h : documentThreeWays.compile plainDocument = .ok (some _) := rfl
  have ho : Order.compile plainDocument ["doc desc", "doc.a"] = .ok _ := rfl
  exact ⟨_, _, h, ho, rfl, rfl, plainJson_iff h ho⟩

/-- **A plain JSON value that is compared.**  The column is compared with a number as it is, although
its type has no equality. -/
theorem Clause.plainJson_compared :
    compile plainDocument [("doc", .number (.int 1))] =
        .ok (some (.compare (.column "doc") .eq (.number (.int 1)))) ∧
      (Predicate.compare (.column "doc") .eq (.number (.int 1))).comparedType? plainDocument =
        some .json :=
  ⟨rfl, rfl⟩

/-! ## Extractions -/

/-- What an expression takes from a place in a document. -/
inductive Extraction where
  /-- The text of what is there. -/
  | text
  /-- The number that the text spells. -/
  | number
  /-- What is there. -/
  | json
deriving DecidableEq, Repr

namespace Extraction

/-- Whether an extraction can be compared with an operand. -/
def takes : Extraction → Json → Bool
  | .text, .string _ => true
  | .number, .number _ => true
  | .json, .array _ | .json, .object _ => true
  | _, _ => false

end Extraction

namespace Expr

/-- Whether an expression is about a place in a document. -/
def inDocument : Expr → Bool
  | .column _ => false
  | .jsonText .. | .jsonNative .. => true
  | .safeNumeric inner | .jsonb inner => inner.inDocument

/-- What an expression takes from a place in a document, if it is of one of the forms that do. -/
def extraction? : Expr → Option Extraction
  | .jsonText .. => some .text
  | .safeNumeric (.jsonText ..) => some .number
  | .jsonNative .. | .jsonb (.jsonNative ..) => some .json
  | _ => none

end Expr

/-- The operands of a list or a range. -/
def Json.listed (operand : Json) : List Json := (Operator.listValues? operand).getD []

/-- An extraction that goes with the operand that was asked for and with those that a leaf binds. -/
structure Extraction.Suits (extraction : Extraction) (operand : Json) (leaf : Predicate) : Prop where
  /-- Numbers are compared with numbers, texts with strings, and JSON with arrays and objects. -/
  takes : ∀ value ∈ leaf.operands, extraction.takes value = true
  /-- JSON is compared for equality only. -/
  equality : extraction = .json →
    ∃ expr value, leaf = .compare expr .eq value ∨ leaf = .compare expr .ne value
  /-- A single operand is compared as a number just when it is one. -/
  single : ∀ {expr comparison value}, leaf = .compare expr comparison value →
    (extraction = .number ↔ operand.isNumber = true)
  /-- The operands of a list are compared as numbers just when all of them are. -/
  list : ∀ {expr values negated}, leaf = .inList expr values negated →
    (extraction = .number ↔ ∀ value ∈ operand.listed, value.isNumber = true)
  /-- So are those of a range. -/
  range : ∀ {expr low high}, leaf = .between expr low high →
    (extraction = .number ↔ ∀ value ∈ operand.listed, value.isNumber = true)

namespace Target

variable {document : Column} {segments : List String}

theorem extraction?_native : (native document segments).extraction? = some .json := by
  rw [native]
  split <;> rfl

/-- How the operands of a list or a range at a path are compared. -/
def listExtraction (operands : List Json) : Extraction :=
  if operands.all Json.isNumber then .number else .text

theorem extraction?_listExpr (operands : List Json) :
    ((Target.path document segments).listExpr operands).extraction? =
      some (listExtraction operands) := by
  rw [listExpr, listExtraction]
  split <;> rfl

theorem listExtraction_eq_number_iff {operands : List Json} :
    listExtraction operands = .number ↔ ∀ value ∈ operands, value.isNumber = true := by
  rw [listExtraction, ← List.all_eq_true]
  split
  · rename_i h
    exact iff_of_true rfl h
  · rename_i h
    exact iff_of_false nofun h

theorem listExtraction_ne_json {operands : List Json} : listExtraction operands ≠ .json := by
  rw [listExtraction]
  split <;> exact nofun

theorem takes_text_asText {value : Json} (h : value.isScalar = true) :
    Extraction.text.takes value.asText = true := by
  cases value with
  | bool | number | string => rfl
  | _ => exact absurd h Bool.false_ne_true

theorem takes_of_isNumber {value : Json} (h : value.isNumber = true) :
    Extraction.number.takes value = true := by
  cases value with
  | number value => rfl
  | _ => exact absurd h Bool.false_ne_true

theorem takes_listValue {operands : List Json} (hs : ∀ value ∈ operands, value.isScalar = true) :
    ∀ value ∈ operands, (listExtraction operands).takes
      ((Target.path document segments).listValue operands value) = true := by
  intro value hvalue
  rw [listExtraction, listValue]
  split
  · rename_i hall
    exact takes_of_isNumber (List.all_eq_true.1 hall value hvalue)
  · exact takes_text_asText (hs value hvalue)

end Target

namespace Extraction

variable {extraction : Extraction} {operand : Json}

theorem suits_of_not_compared {leaf : Predicate} (hleaf : leaf.compared? = none)
    (ht : ∀ value ∈ leaf.operands, text.takes value = true) : text.Suits operand leaf where
  takes := ht
  equality := nofun
  single h := by subst h; cases hleaf
  list h := by subst h; cases hleaf
  range h := by subst h; cases hleaf

theorem suits_compare {expr : Expr} {comparison : Comparison} {value : Json}
    (ht : extraction.takes value = true)
    (he : extraction = .json → comparison.isOrder ≠ true)
    (hn : extraction = .number ↔ operand.isNumber = true) :
    extraction.Suits operand (.compare expr comparison value) where
  takes := List.forall_mem_singleton.2 ht
  equality hjson := by
    refine ⟨expr, value, ?_⟩
    cases comparison with
    | eq => exact .inl rfl
    | ne => exact .inr rfl
    | _ => exact absurd rfl (he hjson)
  single _ := hn
  list h := nomatch h
  range h := nomatch h

theorem suits_listed {document : Column} {segments : List String} {values : List Json}
    {leaf : Predicate} (hs : ∀ value ∈ values, value.isScalar = true)
    (hlisted : operand.listed = values)
    (ho : leaf.operands = values.map ((Target.path document segments).listValue values))
    (hleaf : ∀ expr comparison value, leaf ≠ .compare expr comparison value) :
    (Target.listExtraction values).Suits operand leaf := by
  have hnumber : Target.listExtraction values = .number ↔
      ∀ value ∈ operand.listed, value.isNumber = true := by
    rw [hlisted, Target.listExtraction_eq_number_iff]
  refine ⟨?_, fun h => absurd h Target.listExtraction_ne_json,
    fun h => absurd h (hleaf _ _ _), fun _ => hnumber, fun _ => hnumber⟩
  rw [ho]
  exact List.forall_mem_map.2 (Target.takes_listValue hs)

end Extraction

namespace Operator

variable {document : Column} {segments : List String} {operand : Json} {leaf : Predicate}

theorem Makes.suits_compare {comparison : Comparison} (hne : operand ≠ .null)
    (ho : comparison.isOrder = true → operand.isScalar = true) :
    ∀ expr, ((Target.path document segments).compare comparison operand).expr? = some expr →
      ∃ extraction, expr.extraction? = some extraction ∧
        extraction.Suits operand ((Target.path document segments).compare comparison operand) := by
  have hstructured (hnot : operand.isScalar = false) : comparison.isOrder ≠ true :=
    fun horder => Bool.noConfusion (hnot.symm.trans (ho horder))
  intro expr hexpr
  cases operand with
  | null => exact absurd rfl hne
  | number value =>
    cases hexpr
    exact ⟨.number, rfl, Extraction.suits_compare rfl nofun (iff_of_true rfl rfl)⟩
  | array | object =>
    cases hexpr
    exact ⟨.json, Target.extraction?_native,
      Extraction.suits_compare rfl (fun _ => hstructured rfl) (iff_of_false nofun nofun)⟩
  | bool | string =>
    cases hexpr
    exact ⟨.text, rfl, Extraction.suits_compare rfl nofun (iff_of_false nofun nofun)⟩

/-- Whatever is made for a path goes with its operand. -/
theorem Makes.suits (h : Makes (.path document segments) operand leaf) :
    ∀ expr, leaf.expr? = some expr →
      ∃ extraction, expr.extraction? = some extraction ∧ extraction.Suits operand leaf := by
  cases h with
  | compare hne ho => exact Makes.suits_compare hne ho
  | isNull | isNotNull =>
    rintro expr ⟨⟩
    exact ⟨.text, rfl, Extraction.suits_of_not_compared rfl nofun⟩
  | like | regex =>
    rintro expr ⟨⟩
    exact ⟨.text, rfl,
      Extraction.suits_of_not_compared rfl (List.forall_mem_singleton.2 rfl)⟩
  | constant => exact nofun
  | @inList values negated hvalues hne hs =>
    rintro expr ⟨⟩
    have hlisted : operand.listed = values := by rw [Json.listed, hvalues, Option.getD_some]
    exact ⟨_, Target.extraction?_listExpr values,
      Extraction.suits_listed hs hlisted rfl (fun _ _ _ => nofun)⟩
  | @between low high hoperand hs =>
    rintro expr ⟨⟩
    have hlisted : operand.listed = [low, high] := by rw [hoperand]; rfl
    exact ⟨_, Target.extraction?_listExpr [low, high],
      Extraction.suits_listed hs hlisted rfl (fun _ _ _ => nofun)⟩

end Operator

/-- Nothing that is made for a column is about a place in it. -/
theorem Target.inDocument_column (declared : Column) :
    ∀ expr ∈ (Target.column declared).exprs, expr.inDocument = false := by
  simp only [exprs, List.forall_mem_cons, List.not_mem_nil, false_implies, implies_true, and_true]
  refine ⟨rfl, ?_⟩
  rw [Column.comparable]
  split <;> rfl

theorem Demand.Builds.suits {columns : ColumnSet} {demand : Demand} {leaf : Predicate}
    (h : demand.Builds columns leaf) : ∀ expr, leaf.expr? = some expr → expr.inDocument = true →
      ∃ extraction, expr.extraction? = some extraction ∧ extraction.Suits demand.operand leaf := by
  intro expr he hpath
  obtain ⟨target, -, hbuild⟩ := h
  cases target with
  | column declared =>
    have hcolumn := Target.inDocument_column declared expr (Operator.mem_exprs_of_build hbuild he)
    exact Bool.noConfusion (hcolumn.symm.trans hpath)
  | path document segments => exact (Operator.makes_of_build hbuild).suits expr he

/-- **Extractions go with operands.**  Every leaf of a compiled clause that is about a place in a
document takes from it what its operands can be compared with: the number for numbers, the text for
strings and for what is turned into strings, and the JSON for arrays and objects, which are compared
for equality only.  A single number is compared as a number, and a list or a range just when all of it
is numbers. -/
theorem Clause.suits_of_compile {columns : ColumnSet} {clause : Clause} {predicate : Predicate}
    (h : clause.compile columns = .ok (some predicate)) :
    List.Forall₂ (fun demand leaf => ∀ expr, leaf.expr? = some expr → expr.inDocument = true →
        ∃ extraction, expr.extraction? = some extraction ∧ extraction.Suits demand.operand leaf)
      (entriesDemands clause) predicate.leaves :=
  (Clause.forall₂_builds h).imp fun _ _ => Demand.Builds.suits

/-- Conditions at two paths, with operands of every kind. -/
def atPaths : Clause :=
  [("doc.n", .object [("gt", .number (.int 1)),
      ("between", .array [.number (.int 1), .number (.int 9)]),
      ("in", .array [.number (.int 1), .string "x", .bool true])]),
    ("doc.a[0]", .object [("ne", .object [("k", .null)]), ("nilike", .string "x%"), ("is", .null),
      ("lte", .bool false)])]

theorem Clause.suits_of_compile_atPaths : ∃ predicate,
    atPaths.compile plainDocument = .ok (some predicate) ∧
      predicate.leaves =
        [.compare (.safeNumeric (.jsonText "doc" ["n"])) .gt (.number (.int 1)),
          .between (.safeNumeric (.jsonText "doc" ["n"])) (.number (.int 1)) (.number (.int 9)),
          .inList (.jsonText "doc" ["n"]) [.string "1", .string "x", .string "true"] false,
          .compare (.jsonb (.jsonNative "doc" ["a", "0"])) .ne (.object [("k", .null)]),
          .like (.jsonText "doc" ["a", "0"]) "x%" true true,
          .isNull (.jsonText "doc" ["a", "0"]),
          .compare (.jsonText "doc" ["a", "0"]) .lte (.string "false")] ∧
      List.Forall₂ (fun demand leaf => ∀ expr, leaf.expr? = some expr → expr.inDocument = true →
          ∃ extraction, expr.extraction? = some extraction ∧
            extraction.Suits demand.operand leaf)
        (entriesDemands atPaths) predicate.leaves := by
  have h : atPaths.compile plainDocument = .ok (some _) := rfl
  exact ⟨_, h, rfl, suits_of_compile h⟩

end ClauseSql
