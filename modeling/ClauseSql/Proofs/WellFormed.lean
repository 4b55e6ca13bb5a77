import ClauseSql.Proofs.Leaves

/-!
# Well-formed predicates

A predicate could say things that no row can answer: a group of nothing, an empty list, a comparison
with null, a range between objects, a place in a column that is not declared.  Compiling a clause makes
none of these, whatever the clause asks for and however its groups nest.

## What is here

* `Expr.WellFormed` — an expression on declared columns.  A value of the plain JSON type occurs in it
  only as a whole column, as text, or cast to the form that has an order.
* `Predicate.OperandsFit` — the operands of a leaf are of the kinds that its form can be compared
  with.
* `Predicate.WellFormed` — both of these in every leaf, and at least two terms in every group.
* `Operator.wellFormed_of_build` — what an operator builds on a resolved target is well formed.
* `Clause.wellFormed_of_compile` — so are compiled clauses, and no null is bound for them.
-/

set_option autoImplicit false

namespace ClauseSql

/-! ## Expressions -/

namespace Expr

/-- The expressions that conditions may look at: a declared column, what a declared column of JSON
type has at an accepted path, as text or as a number, and values that have an equality. -/
inductive WellFormed (columns : ColumnSet) : Expr → Prop where
  | column {declared : Column} (hd : columns.find? declared.name = some declared) :
    WellFormed columns (.column declared.name)
  | jsonText {document : Column} {path : List String}
    (hd : columns.find? document.name = some document) (hj : document.type.isJson = true)
    (hp : IsPath path) : WellFormed columns (.jsonText document.name path)
  | safeNumeric {document : Column} {path : List String}
    (hd : columns.find? document.name = some document) (hj : document.type.isJson = true)
    (hp : IsPath path) : WellFormed columns (.safeNumeric (.jsonText document.name path))
  | jsonNative {document : Column} {path : List String}
    (hd : columns.find? document.name = some document) (ht : document.type = .jsonb)
    (hp : IsPath path) : WellFormed columns (.jsonNative document.name path)
  /-- What a plain column has at a path is compared in the other form only. -/
  | castNative {document : Column} {path : List String}
    (hd : columns.find? document.name = some document) (ht : document.type = .json)
    (hp : IsPath path) : WellFormed columns (.jsonb (.jsonNative document.name path))
  | castColumn {declared : Column} (hd : columns.find? declared.name = some declared)
    (ht : declared.type = .json) : WellFormed columns (.jsonb (.column declared.name))

end Expr

/-- A column of JSON type that is no plain one. -/
theorem ColumnType.eq_jsonb_of_isJson {type : ColumnType} (h : type.isJson = true)
    (hne : type ≠ .json) : type = .jsonb := by
  cases type with
  | json => exact absurd rfl hne
  | jsonb => rfl
  | _ => exact absurd h Bool.false_ne_true

namespace Target

variable {columns : ColumnSet}

theorem wellFormed_comparable {declared : Column}
    (hd : columns.find? declared.name = some declared) : declared.comparable.WellFormed columns := by
  rw [Column.comparable]
  split
  · rename_i ht
    exact .castColumn hd ht
  · exact .column hd

theorem wellFormed_native {document : Column} {path : List String}
    (hd : columns.find? document.name = some document) (hj : document.type.isJson = true)
    (hp : IsPath path) : (native document path).WellFormed columns := by
  rw [native]
  split
  · rename_i ht
    exact .castNative hd ht hp
  · rename_i ht
    exact .jsonNative hd (ColumnType.eq_jsonb_of_isJson hj ht) hp

/-- The expressions of a resolved target are well formed. -/
theorem Resolved.wellFormed {target : Target} (h : target.Resolved columns) :
    ∀ expr ∈ target.exprs, expr.WellFormed columns := by
  cases target with
  | column declared =>
    simp only [exprs, List.forall_mem_cons, List.not_mem_nil, false_implies, implies_true, and_true]
    exact ⟨.column h, wellFormed_comparable h⟩
  | path document path =>
    obtain ⟨hd, hj, hp⟩ := h
    simp only [exprs, List.forall_mem_cons, List.not_mem_nil, false_implies, implies_true, and_true]
    exact ⟨.jsonText hd hj hp, wellFormed_native hd hj hp, .safeNumeric hd hj hp⟩

end Target

/-! ## Operands -/

/-- Whether a comparison needs an order. -/
def Comparison.isOrder : Comparison → Bool
  | .eq | .ne => false
  | .gt | .gte | .lt | .lte => true

namespace Json

theorem ne_null_of_isScalar {value : Json} (h : value.isScalar = true) : value ≠ .null := by
  rintro rfl
  exact absurd h Bool.false_ne_true

theorem not_isStructured_of_isScalar {value : Json} (h : value.isScalar = true) :
    ¬value.isStructured = true := by
  cases value with
  | array items => exact absurd h Bool.false_ne_true
  | object members => exact absurd h Bool.false_ne_true
  | _ => exact Bool.false_ne_true

theorem isScalar_asText {value : Json} (h : value.isScalar = true) : value.asText.isScalar = true := by
  cases value with
  | bool value => rfl
  | number value => rfl
  | string value => rfl
  | _ => exact absurd h Bool.false_ne_true

end Json

/-- The operands of a leaf are of a kind that its form can be compared with: no comparison is with
null, orders and ranges are of scalars, and lists are of scalars and have a member. -/
def Predicate.OperandsFit : Predicate → Prop
  | .compare _ comparison value =>
    value ≠ .null ∧ (comparison.isOrder = true → value.isScalar = true)
  | .inList _ values _ => values ≠ [] ∧ ∀ value ∈ values, value.isScalar = true
  | .between _ low high => low.isScalar = true ∧ high.isScalar = true
  | _ => True

namespace Target

/-- An operand is compared as it is or as text, which keeps it a scalar. -/
theorem operandsFit_compare (target : Target) {comparison : Comparison} {operand : Json}
    (hne : operand ≠ .null) (ho : comparison.isOrder = true → operand.isScalar = true) :
    (target.compare comparison operand).OperandsFit := by
  cases target with
  | column declared =>
    rw [compare]
    split <;> exact ⟨hne, ho⟩
  | path document segments =>
    rw [compare]
    split
    · exact ⟨hne, ho⟩
    split
    · exact ⟨hne, ho⟩
    rename_i hnumber hstructured
    have hscalar : operand.isScalar = true := by
      cases operand with
      | null => exact absurd rfl hne
      | array items => exact absurd rfl hstructured
      | object members => exact absurd rfl hstructured
      | _ => rfl
    have htext := Json.isScalar_asText hscalar
    exact ⟨Json.ne_null_of_isScalar htext, fun _ => htext⟩

theorem isScalar_listValue (target : Target) (operands : List Json) {operand : Json}
    (h : operand.isScalar = true) : (target.listValue operands operand).isScalar = true := by
  cases target with
  | column declared => exact h
  | path document segments =>
    rw [listValue]
    split
    · exact h
    · exact Json.isScalar_asText h

end Target

namespace Operator

variable {name : String} {target : Target} {operand : Json} {place : Place} {leaf : Predicate}

theorem operandsFit_buildEquality (negated : Bool) :
    (buildEquality negated target operand).OperandsFit := by
  have hcompare (hne : operand ≠ .null) :
      (target.compare (if negated then .ne else .eq) operand).OperandsFit := by
    refine target.operandsFit_compare hne fun ho => ?_
    cases negated <;> exact absurd ho Bool.false_ne_true
  cases operand with
  | null => cases negated <;> exact trivial
  | _ => exact hcompare nofun

theorem operandsFit_buildComparison {comparison : Comparison}
    (h : buildComparison comparison name target operand place = .ok leaf) : leaf.OperandsFit := by
  rw [buildComparison] at h
  split at h
  · rename_i hscalar
    cases h
    exact target.operandsFit_compare (Json.ne_null_of_isScalar hscalar) fun _ => hscalar
  · cases h

theorem operandsFit_buildLike {ignoreCase negated : Bool}
    (h : buildLike ignoreCase negated name target operand place = .ok leaf) : leaf.OperandsFit := by
  cases operand with
  | string pattern => cases h; exact trivial
  | _ => cases h

theorem operandsFit_buildRegex {ignoreCase : Bool}
    (h : buildRegex ignoreCase name target operand place = .ok leaf) : leaf.OperandsFit := by
  cases operand with
  | string pattern => cases h; exact trivial
  | _ => cases h

theorem operandsFit_buildList {negated : Bool}
    (h : buildList negated name target operand place = .ok leaf) : leaf.OperandsFit := by
  rw [buildList] at h
  split at h
  · cases h
  · cases h
    exact trivial
  · rename_i value rest hvalues
    split at h
    · rename_i hscalar
      cases h
      refine ⟨List.cons_ne_nil _ _, fun listed hlisted => ?_⟩
      obtain ⟨member, hmember, rfl⟩ := List.mem_map.1 hlisted
      exact target.isScalar_listValue _ (List.all_eq_true.1 hscalar member hmember)
    · cases h

theorem operandsFit_buildRange (h : buildRange name target operand place = .ok leaf) :
    leaf.OperandsFit := by
  rw [buildRange.eq_def] at h
  split at h
  · split at h
    · rename_i hscalar
      cases h
      obtain ⟨hlow, hhigh⟩ := Bool.and_eq_true_iff.1 hscalar
      exact ⟨target.isScalar_listValue _ hlow, target.isScalar_listValue _ hhigh⟩
    · cases h
  · cases h

theorem operandsFit_of_build {operator : Operator}
    (h : operator.build name target operand place = .ok leaf) : leaf.OperandsFit := by
  cases operator with
  | eq | is | ne | isNot => cases h; exact operandsFit_buildEquality _
  | gt | gte | lt | lte => exact operandsFit_buildComparison h
  | like | notLike | ilike | notIlike => exact operandsFit_buildLike h
  | regexp | iregexp => exact operandsFit_buildRegex h
  | oneOf | noneOf => exact operandsFit_buildList h
  | between => exact operandsFit_buildRange h
  | and | or => cases h

end Operator

/-! ## Predicates -/

namespace Predicate

/-- A predicate whose leaves look at well-formed expressions and have operands that fit, and whose
groups have at least two terms, all of them well formed. -/
inductive WellFormed (columns : ColumnSet) : Predicate → Prop where
  | leaf {leaf : Predicate} (hleaf : leaf.isLeaf = true)
    (he : ∀ expr, leaf.expr? = some expr → expr.WellFormed columns) (ho : leaf.OperandsFit) :
    WellFormed columns leaf
  | and {terms : List Predicate} (hlength : 2 ≤ terms.length)
    (hterms : ∀ term ∈ terms, WellFormed columns term) : WellFormed columns (.and terms)
  | or {terms : List Predicate} (hlength : 2 ≤ terms.length)
    (hterms : ∀ term ∈ terms, WellFormed columns term) : WellFormed columns (.or terms)

/-- Operands that fit are no nulls. -/
theorem OperandsFit.ne_null {leaf : Predicate} (hleaf : leaf.isLeaf = true) (h : leaf.OperandsFit) :
    ∀ value ∈ leaf.operands, value ≠ .null := by
  cases leaf with
  | compare expr comparison value => exact List.forall_mem_singleton.2 h.1
  | inList expr values negated =>
    exact fun value hvalue => Json.ne_null_of_isScalar (h.2 value hvalue)
  | between expr low high =>
    exact List.forall_mem_cons.2 ⟨Json.ne_null_of_isScalar h.1,
      List.forall_mem_singleton.2 (Json.ne_null_of_isScalar h.2)⟩
  | like expr pattern ignoreCase negated => exact List.forall_mem_singleton.2 nofun
  | regex expr pattern ignoreCase => exact List.forall_mem_singleton.2 nofun
  | isNull expr => exact nofun
  | isNotNull expr => exact nofun
  | constant value => exact nofun
  | and terms => exact absurd hleaf Bool.false_ne_true
  | or terms => exact absurd hleaf Bool.false_ne_true

/-- Nothing that a well-formed predicate binds is null. -/
theorem WellFormed.operands_ne_null {columns : ColumnSet} {predicate : Predicate}
    (h : predicate.WellFormed columns) : ∀ value ∈ predicate.operands, value ≠ .null := by
  induction h with
  | leaf hleaf _ ho => exact ho.ne_null hleaf
  | and _ _ ih | or _ _ ih =>
    intro value hvalue
    rw [operands, operandsOfTerms_eq_flatMap] at hvalue
    obtain ⟨term, hterm, hvalue⟩ := List.mem_flatMap.1 hvalue
    exact ih term hterm value hvalue

end Predicate

/-- What an operator builds on a resolved target is well formed. -/
theorem Operator.wellFormed_of_build {columns : ColumnSet} {operator : Operator} {name : String}
    {target : Target} {operand : Json} {place : Place} {leaf : Predicate}
    (ht : target.Resolved columns) (h : operator.build name target operand place = .ok leaf) :
    leaf.WellFormed columns :=
  .leaf (build_isLeaf h) (fun expr he => ht.wellFormed expr (mem_exprs_of_build h he))
    (operandsFit_of_build h)

theorem closed_wellFormed (columns : ColumnSet) : Closed columns (Predicate.WellFormed columns) where
  leaf := fun ⟨_, _, _, _, _, hresolve, hbuild⟩ =>
    Operator.wellFormed_of_build (Target.resolved_of_resolve hresolve) hbuild
  and := .and
  or := .or

/-- **Compiled clauses are well formed.**  Every leaf looks at a declared column or an accepted path,
and at a value of plain JSON type only where that has an equality; its operands are of the kinds that
it takes; and every group has at least two terms.  So no null is ever bound. -/
theorem Clause.wellFormed_of_compile {columns : ColumnSet} {clause : Clause} {predicate : Predicate}
    (h : clause.compile columns = .ok (some predicate)) :
    predicate.WellFormed columns ∧ ∀ value ∈ predicate.operands, value ≠ .null :=
  have hwell := (closed_wellFormed columns).of_compile h
  ⟨hwell, hwell.operands_ne_null⟩

/-- A number, and a document of each type. -/
def numberedDocuments : ColumnSet := ⟨"t", [⟨"n", .integer⟩, ⟨"m", .jsonb⟩, ⟨"doc", .json⟩]⟩

/-- A mixed list at a path, an object at a path of a plain document, and a range beside a null check. -/
def mixedOperands : Clause :=
  [("or", .array [.object [("m.a", .array [.number (.int 1), .string "x"])],
    .object [("doc[0].b", .object [("k", .null)])],
    .object [("n", .object [("between", .array [.number (.int 1), .bool true])]), ("doc", .null)]])]

theorem Clause.wellFormed_of_compile_mixedOperands : ∃ predicate,
    mixedOperands.compile numberedDocuments = .ok (some predicate) ∧
    predicate = .or [.inList (.jsonText "m" ["a"]) [.string "1", .string "x"] false,
      .compare (.jsonb (.jsonNative "doc" ["0", "b"])) .eq (.object [("k", .null)]),
      .and [.between (.column "n") (.number (.int 1)) (.bool true), .isNull (.column "doc")]] ∧
    predicate.WellFormed numberedDocuments ∧ ∀ value ∈ predicate.operands, value ≠ .null := by
  have h : mixedOperands.compile numberedDocuments = .ok (some _) := rfl
  exact ⟨_, h, rfl, wellFormed_of_compile h⟩

end ClauseSql
