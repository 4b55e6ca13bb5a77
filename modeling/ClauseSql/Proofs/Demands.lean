import ClauseSql.Proofs.WellFormed
import Mathlib.Data.List.Forall2

/-!
# The demands of a clause

Under its groups a clause is a list of demands: each applies an operator to what a key resolves to,
with an operand.  Compiling the clause builds one leaf for each of them, in the order in which they
stand in the clause, and so what a leaf looks at can be told from the operand that was asked for, not
only from the one that is bound.

## What is here

* `Demand` — an operator with its key and its operand, and `entriesDemands`, the demands of a clause.
* `Demand.Builds` — the leaf that a demand builds.
* `Clause.forall₂_builds` — the leaves of a compiled clause are those that its demands build.
* `Operator.Makes` — the forms that a leaf takes for a target and an operand, all of them
  (`Operator.makes_of_build`).
-/

set_option autoImplicit false

namespace ClauseSql

/-! ## Demands -/

/-- What an operator, spelled `name`, asks of a key. -/
structure Demand where
  key : String
  operator : Operator
  name : String
  operand : Json

/-- The demands of an object of operators. -/
def operatorsDemands (key : String) (members : Members) : List Demand :=
  members.filterMap fun member =>
    (Operator.ofName? member.1).map fun operator => ⟨key, operator, member.1, member.2⟩

/-- The demands on a key that is no group: those of an object of operators, or the one that a literal
stands for. -/
def conditionDemands (key : String) (value : Json) : List Demand :=
  match operators? value with
  | some members => operatorsDemands key members
  | none => [⟨key, literalOperator value, (literalOperator value).name, value⟩]

mutual

/-- The demands of the members of a clause, in order. -/
def entriesDemands : List (String × Json) → List Demand
  | [] => []
  | (key, value) :: rest => entryDemands key value ++ entriesDemands rest

/-- The demands of one member of a clause.  A group has those of its clauses. -/
def entryDemands (key : String) : Json → List Demand
  | .array members =>
    match Junction.ofKey? key with
    | some _ => membersDemands members
    | none => conditionDemands key (.array members)
  | .object clause =>
    match Junction.ofKey? key with
    | some _ => entriesDemands clause
    | none => conditionDemands key (.object clause)
  | value =>
    match Junction.ofKey? key with
    | some _ => []
    | none => conditionDemands key value

/-- The demands of the clauses of a group. -/
def membersDemands : List Json → List Demand
  | [] => []
  | .object clause :: rest => entriesDemands clause ++ membersDemands rest
  | _ :: rest => membersDemands rest

end

/-- The leaf that a demand builds, on what its key resolves to. -/
def Demand.Builds (columns : ColumnSet) (demand : Demand) (leaf : Predicate) : Prop :=
  ∃ target, Target.resolve columns .condition demand.key = .ok target ∧
    demand.operator.build demand.name target demand.operand
      ⟨.condition, columns.table, demand.key⟩ = .ok leaf

theorem Demand.Builds.isLeaf {columns : ColumnSet} {demand : Demand} {leaf : Predicate}
    (h : demand.Builds columns leaf) : leaf.isLeaf = true := by
  obtain ⟨_, -, hbuild⟩ := h
  exact Operator.build_isLeaf hbuild

/-! ## The leaves of a clause -/

namespace Predicate

theorem leavesOfTerms_append (front back : List Predicate) :
    leavesOfTerms (front ++ back) = leavesOfTerms front ++ leavesOfTerms back := by
  simp only [leavesOfTerms_eq_flatMap, List.flatMap_append]

theorem leavesOfTerms_singleton (only : Predicate) : leavesOfTerms [only] = only.leaves :=
  List.append_nil _

theorem leavesOfTerms_all (terms : List Predicate) :
    leavesOfTerms (all terms).toList = leavesOfTerms terms := by
  match terms with
  | [] => rfl
  | [_] => rfl
  | _ :: _ :: _ => exact leavesOfTerms_singleton _

theorem leavesOfTerms_any (terms : List Predicate) :
    leavesOfTerms (any terms).toList = leavesOfTerms terms := by
  match terms with
  | [] => rfl
  | [_] => rfl
  | _ :: _ :: _ => exact leavesOfTerms_singleton _

/-- Joining predicates keeps their leaves. -/
theorem leavesOfTerms_join (junction : Junction) (terms : List Predicate) :
    leavesOfTerms (junction.join terms).toList = leavesOfTerms terms := by
  cases junction with
  | and => exact leavesOfTerms_all terms
  | or => exact leavesOfTerms_any terms

end Predicate

open Predicate (leavesOfTerms leavesOfTerms_append leavesOfTerms_singleton leavesOfTerms_all
  leavesOfTerms_join)

section
variable {columns : ColumnSet} {key : String}

theorem forall₂_builds_operators {target : Target}
    (ht : Target.resolve columns .condition key = .ok target) {members : Members} :
    ∀ {terms : List Predicate},
    compileOperators ⟨.condition, columns.table, key⟩ target members = .ok terms →
    List.Forall₂ (Demand.Builds columns) (operatorsDemands key members) (leavesOfTerms terms) := by
  induction members with
  | nil =>
    intro terms h
    cases h
    exact .nil
  | cons member rest ih =>
    intro terms h
    obtain ⟨leaf, hleaf, h⟩ := bind_eq_ok_iff.1 h
    obtain ⟨more, hmore, h⟩ := bind_eq_ok_iff.1 h
    cases h
    rw [compileOperator] at hleaf
    split at hleaf
    · cases hleaf
    · rename_i operator hoperator
      have hbuilds : Demand.Builds columns ⟨key, operator, member.1, member.2⟩ leaf :=
        ⟨target, ht, hleaf⟩
      have hcons : operatorsDemands key (member :: rest) =
          ⟨key, operator, member.1, member.2⟩ :: operatorsDemands key rest :=
        List.filterMap_cons_some (by rw [hoperator]; rfl)
      rw [hcons, leavesOfTerms, Predicate.leaves_of_isLeaf hbuilds.isLeaf]
      exact .cons hbuilds (ih hmore)

/-- What is asked of a column or a path builds one leaf for each of its operators. -/
theorem forall₂_builds_target {value : Json} {terms : List Predicate}
    (h : compileTarget columns key value = .ok terms) :
    List.Forall₂ (Demand.Builds columns) (conditionDemands key value) (leavesOfTerms terms) := by
  obtain ⟨target, ht, h⟩ := bind_eq_ok_iff.1 h
  rw [compileCondition] at h
  rw [conditionDemands]
  cases hoperators : operators? value with
  | some members =>
    rw [hoperators] at h
    exact forall₂_builds_operators ht h
  | none =>
    rw [hoperators] at h
    obtain ⟨leaf, hleaf, h⟩ := bind_eq_ok_iff.1 h
    cases h
    have hbuilds : Demand.Builds columns
        ⟨key, literalOperator value, (literalOperator value).name, value⟩ leaf := ⟨target, ht, hleaf⟩
    rw [leavesOfTerms_singleton, Predicate.leaves_of_isLeaf hbuilds.isLeaf]
    exact .cons hbuilds .nil

mutual

theorem forall₂_builds_entries : ∀ (clause : List (String × Json)) {terms : List Predicate},
    compileEntries columns clause = .ok terms →
    List.Forall₂ (Demand.Builds columns) (entriesDemands clause) (leavesOfTerms terms)
  | [], _, h => by
    cases h
    rw [entriesDemands]
    exact .nil
  | (key, value) :: rest, _, h => by
    rw [compileEntries, bind_eq_ok_iff] at h
    obtain ⟨here, hhere, h⟩ := h
    obtain ⟨more, hmore, h⟩ := bind_eq_ok_iff.1 h
    cases h
    rw [entriesDemands, leavesOfTerms_append]
    exact List.rel_append (forall₂_builds_entry key value hhere)
      (forall₂_builds_entries rest hmore)

theorem forall₂_builds_entry (key : String) : ∀ (value : Json) {terms : List Predicate},
    compileEntry columns key value = .ok terms →
    List.Forall₂ (Demand.Builds columns) (entryDemands key value) (leavesOfTerms terms)
  | .array members, _, h => by
    rw [compileEntry] at h
    rw [entryDemands]
    cases hkey : Junction.ofKey? key with
    | some junction =>
      rw [hkey] at h
      obtain ⟨inner, hinner, h⟩ := bind_eq_ok_iff.1 h
      cases h
      rw [leavesOfTerms_join]
      exact forall₂_builds_members key members hinner
    | none =>
      rw [hkey] at h
      exact forall₂_builds_target h
  | .object clause, _, h => by
    rw [compileEntry] at h
    rw [entryDemands]
    cases hkey : Junction.ofKey? key with
    | some junction =>
      rw [hkey] at h
      obtain ⟨inner, hinner, h⟩ := bind_eq_ok_iff.1 h
      cases h
      rw [leavesOfTerms_join, leavesOfTerms_all]
      exact forall₂_builds_entries clause hinner
    | none =>
      rw [hkey] at h
      exact forall₂_builds_target h
  | .null, _, h | .bool _, _, h | .number _, _, h | .string _, _, h => by
    rw [compileEntry_of_not_isStructured rfl] at h
    unfold entryDemands
    cases hkey : Junction.ofKey? key with
    | some junction => rw [hkey] at h; cases h
    | none =>
      rw [hkey] at h
      exact forall₂_builds_target h

theorem forall₂_builds_members (key : String) : ∀ (members : List Json) {terms : List Predicate},
    compileMembers columns key members = .ok terms →
    List.Forall₂ (Demand.Builds columns) (membersDemands members) (leavesOfTerms terms)
  | [], _, h => by
    cases h
    rw [membersDemands]
    exact .nil
  | .object clause :: rest, _, h => by
    rw [compileMembers, bind_eq_ok_iff] at h
    obtain ⟨inner, hinner, h⟩ := h
    obtain ⟨more, hmore, h⟩ := bind_eq_ok_iff.1 h
    cases h
    rw [membersDemands, leavesOfTerms_append, leavesOfTerms_all]
    exact List.rel_append (forall₂_builds_entries clause hinner)
      (forall₂_builds_members key rest hmore)
  | .null :: _, _, h | .bool _ :: _, _, h | .number _ :: _, _, h | .string _ :: _, _, h
  | .array _ :: _, _, h => nomatch h

end

/-- **Each demand builds a leaf.**  The leaves of a compiled clause are those that its demands build,
one for each, in order. -/
theorem Clause.forall₂_builds {clause : Clause} {predicate : Predicate}
    (h : clause.compile columns = .ok (some predicate)) :
    List.Forall₂ (Demand.Builds columns) (entriesDemands clause) predicate.leaves := by
  obtain ⟨terms, hterms, h⟩ := bind_eq_ok_iff.1 h
  have hjoined : Predicate.all terms = some predicate := Except.ok.inj h
  have hleaves := leavesOfTerms_all terms
  rw [hjoined, Option.toList_some, leavesOfTerms_singleton] at hleaves
  rw [hleaves]
  exact forall₂_builds_entries clause hterms

end

/-! ## The forms of leaves -/

namespace Operator

/-- The leaves that operators make for a target and an operand. -/
inductive Makes (target : Target) (operand : Json) : Predicate → Prop where
  | isNull (h : operand = .null) : Makes target operand (.isNull target.text)
  | isNotNull (h : operand = .null) : Makes target operand (.isNotNull target.text)
  | compare {comparison : Comparison} (hne : operand ≠ .null)
    (ho : comparison.isOrder = true → operand.isScalar = true) :
    Makes target operand (target.compare comparison operand)
  | like {pattern : String} {ignoreCase negated : Bool} (h : operand = .string pattern) :
    Makes target operand (.like target.text pattern ignoreCase negated)
  | regex {pattern : String} {ignoreCase : Bool} (h : operand = .string pattern) :
    Makes target operand (.regex target.text pattern ignoreCase)
  /-- A list without members decides a condition alone. -/
  | constant {value : Bool} (h : listValues? operand = some []) :
    Makes target operand (.constant value)
  | inList {values : List Json} {negated : Bool} (h : listValues? operand = some values)
    (hne : values ≠ []) (hs : ∀ value ∈ values, value.isScalar = true) :
    Makes target operand
      (.inList (target.listExpr values) (values.map (target.listValue values)) negated)
  | between {low high : Json} (h : operand = .array [low, high])
    (hs : ∀ value ∈ [low, high], value.isScalar = true) :
    Makes target operand (.between (target.listExpr [low, high])
      (target.listValue [low, high] low) (target.listValue [low, high] high))

variable {name : String} {target : Target} {operand : Json} {place : Place} {leaf : Predicate}

theorem makes_buildEquality (negated : Bool) :
    Makes target operand (buildEquality negated target operand) := by
  have hcompare (hne : operand ≠ .null) :
      Makes target operand (target.compare (if negated then .ne else .eq) operand) := by
    refine .compare hne fun ho => ?_
    cases negated <;> exact absurd ho Bool.false_ne_true
  cases operand with
  | null =>
    cases negated with
    | false => exact .isNull rfl
    | true => exact .isNotNull rfl
  | _ => exact hcompare nofun

theorem makes_buildComparison {comparison : Comparison}
    (h : buildComparison comparison name target operand place = .ok leaf) :
    Makes target operand leaf := by
  rw [buildComparison] at h
  split at h
  · rename_i hscalar
    cases h
    exact .compare (Json.ne_null_of_isScalar hscalar) fun _ => hscalar
  · cases h

theorem makes_buildLike {ignoreCase negated : Bool}
    (h : buildLike ignoreCase negated name target operand place = .ok leaf) :
    Makes target operand leaf := by
  cases operand with
  | string pattern => cases h; exact .like rfl
  | _ => cases h

theorem makes_buildRegex {ignoreCase : Bool}
    (h : buildRegex ignoreCase name target operand place = .ok leaf) : Makes target operand leaf := by
  cases operand with
  | string pattern => cases h; exact .regex rfl
  | _ => cases h

theorem makes_buildList {negated : Bool}
    (h : buildList negated name target operand place = .ok leaf) : Makes target operand leaf := by
  rw [buildList] at h
  split at h
  · cases h
  · rename_i hvalues
    cases h
    exact .constant hvalues
  · rename_i value rest hvalues
    split at h
    · rename_i hscalar
      cases h
      exact .inList hvalues (List.cons_ne_nil _ _) (List.all_eq_true.1 hscalar)
    · cases h

theorem makes_buildRange (h : buildRange name target operand place = .ok leaf) :
    Makes target operand leaf := by
  rw [buildRange.eq_def] at h
  split at h
  · split at h
    · rename_i hscalar
      cases h
      obtain ⟨hlow, hhigh⟩ := Bool.and_eq_true_iff.1 hscalar
      exact .between rfl (List.forall_mem_cons.2 ⟨hlow, List.forall_mem_singleton.2 hhigh⟩)
    · cases h
  · cases h

/-- **What operators make.** -/
theorem makes_of_build {operator : Operator}
    (h : operator.build name target operand place = .ok leaf) : Makes target operand leaf := by
  cases operator with
  | eq | is | ne | isNot => cases h; exact makes_buildEquality _
  | gt | gte | lt | lte => exact makes_buildComparison h
  | like | notLike | ilike | notIlike => exact makes_buildLike h
  | regexp | iregexp => exact makes_buildRegex h
  | oneOf | noneOf => exact makes_buildList h
  | between => exact makes_buildRange h
  | and | or => cases h

end Operator
end ClauseSql
