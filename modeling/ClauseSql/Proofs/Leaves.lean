import ClauseSql.Proofs.ClauseTruth
import ClauseSql.Proofs.Target
import ClauseSql.Sql.Predicate

/-!
# The leaves of compiled clauses

Compiling a clause makes leaves and joins them, and nothing else: every leaf of its predicate was
built by an operator, on a target that some key of the clause resolved to.

## What is here

* `Predicate.leaves` and `Predicate.exprs` — the leaves of a predicate, and the expressions that they
  look at.
* `Built` — a leaf that an operator builds for a key.
* `Closed` and `Closed.of_compile` — how to show a property of every compiled clause: of built leaves,
  and of groups from their terms.
* `Clause.built_of_mem_leaves` — the leaves of a compiled clause are built.
* `Operator.mem_exprs_of_build` — a built leaf looks at an expression of its target, so a compiled
  clause is about declared columns and accepted paths only (`Clause.refers_of_mem_exprs`).
-/

set_option autoImplicit false

namespace ClauseSql

/-! ## Leaves and expressions -/

namespace Predicate

mutual

/-- The leaves of a predicate, in order. -/
def leaves : Predicate → List Predicate
  | .and terms => leavesOfTerms terms
  | .or terms => leavesOfTerms terms
  | leaf => [leaf]

/-- The leaves of the terms. -/
def leavesOfTerms : List Predicate → List Predicate
  | [] => []
  | term :: rest => leaves term ++ leavesOfTerms rest

end

/-- The expression that a leaf looks at; a constant looks at none. -/
def expr? : Predicate → Option Expr
  | .compare expr .. | .isNull expr | .isNotNull expr | .inList expr .. | .between expr ..
  | .like expr .. | .regex expr .. => some expr
  | .and _ | .or _ | .constant _ => none

/-- The expressions that the leaves of a predicate look at, in order. -/
def exprs (predicate : Predicate) : List Expr := predicate.leaves.filterMap expr?

theorem leaves_of_isLeaf {leaf : Predicate} (h : leaf.isLeaf = true) : leaf.leaves = [leaf] := by
  cases leaf with
  | and terms => exact absurd h Bool.false_ne_true
  | or terms => exact absurd h Bool.false_ne_true
  | _ => rfl

theorem leavesOfTerms_eq_flatMap (terms : List Predicate) :
    leavesOfTerms terms = terms.flatMap leaves := by
  induction terms with
  | nil => rfl
  | cons first rest ih => rw [leavesOfTerms, ih, List.flatMap_cons]

theorem operandsOfTerms_eq_flatMap (terms : List Predicate) :
    operandsOfTerms terms = terms.flatMap operands := by
  induction terms with
  | nil => rfl
  | cons first rest ih => rw [operandsOfTerms, ih, List.flatMap_cons]

mutual

/-- The operands of a predicate are those of its leaves, in order. -/
theorem operands_eq_flatMap_leaves : ∀ predicate : Predicate,
    predicate.operands = predicate.leaves.flatMap operands
  | .and terms | .or terms => operandsOfTerms_eq_flatMap_leaves terms
  | .compare .. | .isNull _ | .isNotNull _ | .inList .. | .between .. | .like .. | .regex ..
  | .constant _ => (List.flatMap_singleton _ _).symm

theorem operandsOfTerms_eq_flatMap_leaves : ∀ terms : List Predicate,
    operandsOfTerms terms = (leavesOfTerms terms).flatMap operands
  | [] => rfl
  | term :: rest => by
    rw [operandsOfTerms, leavesOfTerms, List.flatMap_append, operands_eq_flatMap_leaves term,
      operandsOfTerms_eq_flatMap_leaves rest]

end

end Predicate

/-! ## Built leaves -/

/-- A leaf that an operator builds for a key of a table. -/
def Built (columns : ColumnSet) (leaf : Predicate) : Prop :=
  ∃ key target operator name operand, Target.resolve columns .condition key = .ok target ∧
    Operator.build operator name target operand ⟨.condition, columns.table, key⟩ = .ok leaf

theorem Built.isLeaf {columns : ColumnSet} {leaf : Predicate} (h : Built columns leaf) :
    leaf.isLeaf = true := by
  obtain ⟨_, _, _, _, _, -, hbuild⟩ := h
  exact Operator.build_isLeaf hbuild

theorem built_of_compileOperators {columns : ColumnSet} {key : String} {target : Target}
    (ht : Target.resolve columns .condition key = .ok target) {members : Members} :
    ∀ {terms : List Predicate},
    compileOperators ⟨.condition, columns.table, key⟩ target members = .ok terms →
    ∀ term ∈ terms, Built columns term := by
  induction members with
  | nil => intro terms h; cases h; exact nofun
  | cons entry rest ih =>
    intro terms h
    obtain ⟨name, operand⟩ := entry
    obtain ⟨term, hterm, h⟩ := bind_eq_ok_iff.1 h
    obtain ⟨more, hmore, h⟩ := bind_eq_ok_iff.1 h
    cases h
    rw [compileOperator] at hterm
    split at hterm
    · cases hterm
    · rename_i operator hop
      exact List.forall_mem_cons.2 ⟨⟨key, target, operator, name, operand, ht, hterm⟩, ih hmore⟩

/-- What is asked of a column or a path makes leaves and nothing else. -/
theorem built_of_compileTarget {columns : ColumnSet} {key : String} {value : Json}
    {terms : List Predicate} (h : compileTarget columns key value = .ok terms) :
    ∀ term ∈ terms, Built columns term := by
  obtain ⟨target, ht, h⟩ := bind_eq_ok_iff.1 h
  rw [compileCondition] at h
  split at h
  · exact built_of_compileOperators ht h
  · obtain ⟨term, hterm, h⟩ := bind_eq_ok_iff.1 h
    cases h
    exact List.forall_mem_singleton.2 ⟨key, target, _, _, value, ht, hterm⟩

/-- A property that all built leaves have, and every group of two or more predicates that have
it. -/
structure Closed (columns : ColumnSet) (P : Predicate → Prop) : Prop where
  leaf : ∀ {leaf}, Built columns leaf → P leaf
  and : ∀ {terms}, 2 ≤ terms.length → (∀ term ∈ terms, P term) → P (.and terms)
  or : ∀ {terms}, 2 ≤ terms.length → (∀ term ∈ terms, P term) → P (.or terms)

namespace Closed

variable {columns : ColumnSet} {P : Predicate → Prop}

theorem all (hP : Closed columns P) {terms : List Predicate} (h : ∀ term ∈ terms, P term) :
    ∀ joined ∈ (Predicate.all terms).toList, P joined := by
  match terms with
  | [] => exact nofun
  | [only] => exact h
  | first :: second :: rest =>
    exact List.forall_mem_singleton.2 (hP.and (Nat.le_add_left 2 rest.length) h)

theorem any (hP : Closed columns P) {terms : List Predicate} (h : ∀ term ∈ terms, P term) :
    ∀ joined ∈ (Predicate.any terms).toList, P joined := by
  match terms with
  | [] => exact nofun
  | [only] => exact h
  | first :: second :: rest =>
    exact List.forall_mem_singleton.2 (hP.or (Nat.le_add_left 2 rest.length) h)

theorem join (hP : Closed columns P) (junction : Junction) {terms : List Predicate}
    (h : ∀ term ∈ terms, P term) : ∀ joined ∈ (junction.join terms).toList, P joined := by
  cases junction with
  | and => exact hP.all h
  | or => exact hP.any h

theorem compileTarget (hP : Closed columns P) {key : String} {value : Json}
    {terms : List Predicate} (h : compileTarget columns key value = .ok terms) :
    ∀ term ∈ terms, P term := fun term hterm =>
  hP.leaf (built_of_compileTarget h term hterm)

mutual

theorem compileEntries (hP : Closed columns P) : ∀ (clause : List (String × Json))
    {terms : List Predicate}, compileEntries columns clause = .ok terms → ∀ term ∈ terms, P term
  | [], _, h => by
    cases h
    exact nofun
  | (key, value) :: rest, terms, h => by
    obtain ⟨here, hhere, h⟩ := bind_eq_ok_iff.1 (compileEntries.eq_2 .. ▸ h)
    obtain ⟨more, hmore, h⟩ := bind_eq_ok_iff.1 h
    cases h
    exact List.forall_mem_append.2
      ⟨hP.compileEntry key value hhere, hP.compileEntries rest hmore⟩

theorem compileEntry (hP : Closed columns P) (key : String) : ∀ (value : Json)
    {terms : List Predicate}, compileEntry columns key value = .ok terms → ∀ term ∈ terms, P term
  | .array members, terms, h => by
    rw [ClauseSql.compileEntry] at h
    split at h
    · obtain ⟨inner, hinner, h⟩ := bind_eq_ok_iff.1 h
      cases h
      exact hP.join _ (hP.compileMembers key members hinner)
    · exact hP.compileTarget h
  | .object clause, terms, h => by
    rw [ClauseSql.compileEntry] at h
    split at h
    · obtain ⟨inner, hinner, h⟩ := bind_eq_ok_iff.1 h
      cases h
      exact hP.join _ (hP.all (hP.compileEntries clause hinner))
    · exact hP.compileTarget h
  | .null, _, h | .bool _, _, h | .number _, _, h | .string _, _, h => by
    rw [compileEntry_of_not_isStructured rfl] at h
    split at h
    · cases h
    · exact hP.compileTarget h

theorem compileMembers (hP : Closed columns P) (key : String) : ∀ (members : List Json)
    {terms : List Predicate}, compileMembers columns key members = .ok terms →
    ∀ term ∈ terms, P term
  | [], _, h => by
    cases h
    exact nofun
  | .object clause :: rest, terms, h => by
    rw [ClauseSql.compileMembers] at h
    obtain ⟨inner, hinner, h⟩ := bind_eq_ok_iff.1 h
    obtain ⟨more, hmore, h⟩ := bind_eq_ok_iff.1 h
    cases h
    exact List.forall_mem_append.2
      ⟨hP.all (hP.compileEntries clause hinner), hP.compileMembers key rest hmore⟩
  | .null :: _, _, h | .bool _ :: _, _, h | .number _ :: _, _, h | .string _ :: _, _, h
  | .array _ :: _, _, h => nomatch h

end

/-- **Induction on compiled clauses.**  A compiled clause has every property that built leaves have
and that groups of two or more terms take over from their terms. -/
theorem of_compile (hP : Closed columns P) {clause : Clause} {predicate : Predicate}
    (h : clause.compile columns = .ok (some predicate)) : P predicate := by
  obtain ⟨terms, hterms, h⟩ := bind_eq_ok_iff.1 h
  have hall : Predicate.all terms = some predicate := Except.ok.inj h
  have hjoined := hP.all (hP.compileEntries clause hterms)
  rw [hall] at hjoined
  exact hjoined predicate (List.mem_singleton_self predicate)

end Closed

open Predicate (leaves leavesOfTerms)

theorem built_of_mem_leavesOfTerms {columns : ColumnSet} {terms : List Predicate}
    (h : ∀ term ∈ terms, ∀ leaf ∈ term.leaves, Built columns leaf) :
    ∀ leaf ∈ leavesOfTerms terms, Built columns leaf := by
  intro leaf hleaf
  rw [Predicate.leavesOfTerms_eq_flatMap] at hleaf
  obtain ⟨term, hterm, hleaf⟩ := List.mem_flatMap.1 hleaf
  exact h term hterm leaf hleaf

theorem closed_built (columns : ColumnSet) :
    Closed columns fun predicate => ∀ leaf ∈ predicate.leaves, Built columns leaf where
  leaf h := by
    rw [Predicate.leaves_of_isLeaf h.isLeaf]
    exact List.forall_mem_singleton.2 h
  and _ h := built_of_mem_leavesOfTerms h
  or _ h := built_of_mem_leavesOfTerms h

/-- **The leaves of a compiled clause are built.** -/
theorem Clause.built_of_mem_leaves {columns : ColumnSet} {clause : Clause} {predicate : Predicate}
    (h : clause.compile columns = .ok (some predicate)) :
    ∀ leaf ∈ predicate.leaves, Built columns leaf :=
  (closed_built columns).of_compile h

/-! ## Their expressions -/

theorem Target.mem_exprs_of_compare {target : Target} {comparison : Comparison} {operand : Json}
    {expr : Expr} (h : (target.compare comparison operand).expr? = some expr) :
    expr ∈ target.exprs := by
  cases target with
  | column declared =>
    rw [compare] at h
    split at h <;> cases h <;> simp [exprs]
  | path document segments =>
    rw [compare] at h
    split at h
    · cases h; simp [exprs]
    · split at h <;> cases h <;> simp [exprs, text]

theorem Target.listExpr_mem_exprs (target : Target) (operands : List Json) :
    target.listExpr operands ∈ target.exprs := by
  cases target with
  | column declared => exact List.mem_cons_self
  | path document segments =>
    rw [listExpr]
    split
    · simp [exprs]
    · exact text_mem_exprs _

namespace Operator

variable {name : String} {target : Target} {operand : Json} {place : Place} {leaf : Predicate}
  {expr : Expr}

theorem mem_exprs_of_buildEquality {negated : Bool}
    (he : (buildEquality negated target operand).expr? = some expr) : expr ∈ target.exprs := by
  cases operand with
  | null => cases negated <;> cases he <;> exact target.text_mem_exprs
  | _ => exact Target.mem_exprs_of_compare he

theorem mem_exprs_of_buildComparison {comparison : Comparison}
    (h : buildComparison comparison name target operand place = .ok leaf)
    (he : leaf.expr? = some expr) : expr ∈ target.exprs := by
  rw [buildComparison] at h
  split at h
  · cases h
    exact Target.mem_exprs_of_compare he
  · cases h

theorem mem_exprs_of_buildLike {ignoreCase negated : Bool}
    (h : buildLike ignoreCase negated name target operand place = .ok leaf)
    (he : leaf.expr? = some expr) : expr ∈ target.exprs := by
  cases operand with
  | string pattern => cases h; cases he; exact target.text_mem_exprs
  | _ => cases h

theorem mem_exprs_of_buildRegex {ignoreCase : Bool}
    (h : buildRegex ignoreCase name target operand place = .ok leaf)
    (he : leaf.expr? = some expr) : expr ∈ target.exprs := by
  cases operand with
  | string pattern => cases h; cases he; exact target.text_mem_exprs
  | _ => cases h

theorem mem_exprs_of_buildList {negated : Bool}
    (h : buildList negated name target operand place = .ok leaf) (he : leaf.expr? = some expr) :
    expr ∈ target.exprs := by
  rw [buildList] at h
  split at h
  · cases h
  · cases h; cases he
  · split at h
    · cases h; cases he
      exact target.listExpr_mem_exprs _
    · cases h

theorem mem_exprs_of_buildRange (h : buildRange name target operand place = .ok leaf)
    (he : leaf.expr? = some expr) : expr ∈ target.exprs := by
  rw [buildRange.eq_def] at h
  split at h
  · split at h
    · cases h; cases he
      exact target.listExpr_mem_exprs _
    · cases h
  · cases h

/-- **A built leaf looks at an expression of its target.** -/
theorem mem_exprs_of_build {operator : Operator}
    (h : operator.build name target operand place = .ok leaf) (he : leaf.expr? = some expr) :
    expr ∈ target.exprs := by
  cases operator with
  | eq | is | ne | isNot => cases h; exact mem_exprs_of_buildEquality he
  | gt | gte | lt | lte => exact mem_exprs_of_buildComparison h he
  | like | notLike | ilike | notIlike => exact mem_exprs_of_buildLike h he
  | regexp | iregexp => exact mem_exprs_of_buildRegex h he
  | oneOf | noneOf => exact mem_exprs_of_buildList h he
  | between => exact mem_exprs_of_buildRange h he
  | and | or => cases h

end Operator

/-- **A compiled clause is about declared columns and accepted paths.** -/
theorem Clause.refers_of_mem_exprs {columns : ColumnSet} {clause : Clause} {predicate : Predicate}
    (h : clause.compile columns = .ok (some predicate)) :
    ∀ expr ∈ predicate.exprs, expr.Refers columns := by
  intro expr hexpr
  obtain ⟨leaf, hleaf, he⟩ := List.mem_filterMap.1 hexpr
  obtain ⟨key, target, operator, name, operand, hresolve, hbuild⟩ :=
    Clause.built_of_mem_leaves h leaf hleaf
  exact Target.refers_of_resolve hresolve expr (Operator.mem_exprs_of_build hbuild he)

end ClauseSql
