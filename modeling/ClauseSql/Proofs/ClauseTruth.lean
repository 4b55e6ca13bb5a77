import ClauseSql.Clause
import ClauseSql.Proofs.Steps
import ClauseSql.Proofs.Truth

/-!
# The truth of a clause

What a clause means can be read off the clause itself: all of its members must hold, a group holds
when all or any of its clauses do, and every other member stands for the leaves that its operators
build.  Compilation makes a predicate of the same meaning, although it drops clauses that ask for
nothing and unwraps groups of one.

## What is here

* `asksEntries` — whether a clause contains a column or a path, however deep in groups.
* `entriesTruth` — the truth value of a clause, by recursion on the clause.  It is `none` when a
  leaf cannot be built.
* `Operator.build_isLeaf` — operators build leaves only.
* `entriesTruth_of_compile` — the predicates of a clause have the truth value of the clause, and
  there are none of them just when the clause asks for nothing.
* `Clause.truthOfJoined_compile` — so has the predicate that the clause compiles to.
-/

set_option autoImplicit false

namespace ClauseSql

/-! ## Asking for something -/

mutual

/-- Whether the members of a clause contain a column or a path. -/
def asksEntries : List (String × Json) → Bool
  | [] => false
  | (key, value) :: rest => asksEntry key value || asksEntries rest

/-- Whether one member of a clause is a column or a path, or a group that contains one. -/
def asksEntry (key : String) : Json → Bool
  | .array members => (Junction.ofKey? key).isNone || asksMembers members
  | .object clause => (Junction.ofKey? key).isNone || asksEntries clause
  | _ => (Junction.ofKey? key).isNone

/-- Whether some clause of a group contains a column or a path. -/
def asksMembers : List Json → Bool
  | [] => false
  | .object clause :: rest => asksEntries clause || asksMembers rest
  | _ :: rest => asksMembers rest

end

/-! ## The direct reading -/

section
variable (columns : ColumnSet) (assign : Predicate → Truth)

/-- The truth value of a group whose clauses that ask for something have the given values.  Without
such a clause the group is skipped. -/
def Junction.truth : Junction → List Truth → Truth
  | _, [] => .holds
  | .and, values => Truth.all values
  | .or, values => Truth.any values

/-- The truth value of the leaf that an operator, spelled `name`, builds for a key and an
operand. -/
def leafTruth (key : String) (operator : Operator) (name : String) (operand : Json) :
    Option Truth :=
  match Target.resolve columns .condition key with
  | .error _ => none
  | .ok target =>
    match operator.build name target operand ⟨.condition, columns.table, key⟩ with
    | .error _ => none
    | .ok leaf => some (assign leaf)

/-- The conjunction of the leaves of an object of operators. -/
def operatorsTruth (key : String) : Members → Option Truth
  | [] => some .holds
  | (name, operand) :: rest => do
    let operator ← Operator.ofName? name
    let here ← leafTruth columns assign key operator name operand
    let more ← operatorsTruth key rest
    return here.and more

/-- The truth value of what is asked of a column or a path: the leaves of a non-empty object whose
names are all those of operators, else one leaf, of `in` for an array and of `eq` for all else. -/
def conditionTruth (key : String) : Json → Option Truth
  | .object (member :: rest) =>
    if (member :: rest).all fun entry => Operator.isName entry.1 then
      operatorsTruth columns assign key (member :: rest)
    else leafTruth columns assign key .eq "eq" (.object (member :: rest))
  | .array items => leafTruth columns assign key .oneOf "in" (.array items)
  | value => leafTruth columns assign key .eq "eq" value

mutual

/-- The truth value of a clause: the conjunction of those of its members. -/
def entriesTruth : List (String × Json) → Option Truth
  | [] => some .holds
  | (key, value) :: rest => do
    let here ← entryTruth key value
    let more ← entriesTruth rest
    return here.and more

/-- The truth value of one member of a clause.  A single clause stands for a list of one. -/
def entryTruth (key : String) : Json → Option Truth
  | .array members =>
    match Junction.ofKey? key with
    | some junction => do
      let values ← membersTruth members
      return junction.truth values
    | none => conditionTruth columns assign key (.array members)
  | .object clause =>
    match Junction.ofKey? key with
    | some junction => do
      let value ← entriesTruth clause
      return junction.truth (if asksEntries clause then [value] else [])
    | none => conditionTruth columns assign key (.object clause)
  | value =>
    match Junction.ofKey? key with
    | some _ => none
    | none => conditionTruth columns assign key value

/-- The truth values of the clauses of a group that ask for something. -/
def membersTruth : List Json → Option (List Truth)
  | [] => some []
  | .object clause :: rest => do
    let value ← entriesTruth clause
    let more ← membersTruth rest
    return if asksEntries clause then value :: more else more
  | _ :: _ => none

end

end

/-! ## Operators build leaves -/

theorem Target.compare_isLeaf (target : Target) (comparison : Comparison) (operand : Json) :
    (target.compare comparison operand).isLeaf = true := by
  cases target with
  | column declared =>
    rw [Target.compare]
    split <;> rfl
  | path document segments =>
    rw [Target.compare]
    split
    · rfl
    · split <;> rfl

namespace Operator

variable {name : String} {target : Target} {operand : Json} {place : Place} {leaf : Predicate}

theorem buildEquality_isLeaf (negated : Bool) :
    (buildEquality negated target operand).isLeaf = true := by
  cases operand with
  | null => cases negated <;> rfl
  | _ => exact target.compare_isLeaf _ _

theorem buildComparison_isLeaf {comparison : Comparison}
    (h : buildComparison comparison name target operand place = .ok leaf) :
    leaf.isLeaf = true := by
  rw [buildComparison] at h
  split at h
  · cases h
    exact target.compare_isLeaf _ _
  · cases h

theorem buildLike_isLeaf {ignoreCase negated : Bool}
    (h : buildLike ignoreCase negated name target operand place = .ok leaf) :
    leaf.isLeaf = true := by
  cases operand with
  | string pattern => cases h; rfl
  | _ => cases h

theorem buildRegex_isLeaf {ignoreCase : Bool}
    (h : buildRegex ignoreCase name target operand place = .ok leaf) : leaf.isLeaf = true := by
  cases operand with
  | string pattern => cases h; rfl
  | _ => cases h

theorem buildList_isLeaf {negated : Bool}
    (h : buildList negated name target operand place = .ok leaf) : leaf.isLeaf = true := by
  rw [buildList] at h
  split at h
  · cases h
  · cases h; rfl
  · split at h
    · cases h; rfl
    · cases h

theorem buildRange_isLeaf (h : buildRange name target operand place = .ok leaf) :
    leaf.isLeaf = true := by
  rw [buildRange.eq_def] at h
  split at h
  · split at h
    · cases h; rfl
    · cases h
  · cases h

/-- **Operators build leaves.**  Groups are made by clauses only. -/
theorem build_isLeaf {operator : Operator}
    (h : operator.build name target operand place = .ok leaf) : leaf.isLeaf = true := by
  cases operator with
  | eq | is | ne | isNot => cases h; exact buildEquality_isLeaf _
  | gt | gte | lt | lte => exact buildComparison_isLeaf h
  | like | notLike | ilike | notIlike => exact buildLike_isLeaf h
  | regexp | iregexp => exact buildRegex_isLeaf h
  | oneOf | noneOf => exact buildList_isLeaf h
  | between => exact buildRange_isLeaf h
  | and | or => cases h

end Operator

/-! ## Conditions -/

section
variable {columns : ColumnSet} (assign : Predicate → Truth) {key : String} {target : Target}

theorem leafTruth_of_build {operator : Operator} {name : String} {operand : Json}
    {leaf : Predicate} (ht : Target.resolve columns .condition key = .ok target)
    (hl : operator.build name target operand ⟨.condition, columns.table, key⟩ = .ok leaf) :
    leafTruth columns assign key operator name operand = some (leaf.truth assign) := by
  rw [leafTruth, ht]
  simp only [hl, Predicate.truth_of_isLeaf assign (Operator.build_isLeaf hl)]

theorem operatorsTruth_of_compile (ht : Target.resolve columns .condition key = .ok target)
    {members : Members} : ∀ {terms : List Predicate},
      compileOperators ⟨.condition, columns.table, key⟩ target members = .ok terms →
      operatorsTruth columns assign key members = some (Truth.all (terms.map (·.truth assign))) ∧
        terms.length = members.length := by
  induction members with
  | nil => intro terms h; cases h; exact ⟨rfl, rfl⟩
  | cons entry rest ih =>
    intro terms h
    obtain ⟨name, operand⟩ := entry
    rw [compileOperators, bind_eq_ok_iff] at h
    obtain ⟨leaf, hl, h⟩ := h
    obtain ⟨more, hm, h⟩ := bind_eq_ok_iff.1 h
    cases h
    obtain ⟨hmore, hlen⟩ := ih hm
    rw [compileOperator] at hl
    split at hl
    · cases hl
    · rename_i operator hop
      refine ⟨?_, congrArg (· + 1) hlen⟩
      rw [operatorsTruth, hop]
      simp only [Option.bind_eq_bind, Option.bind_some, leafTruth_of_build assign ht hl, hmore]
      rfl

/-- What is asked of a column or a path makes at least one leaf. -/
theorem conditionTruth_of_compile {value : Json} {terms : List Predicate}
    (h : compileTarget columns key value = .ok terms) :
    conditionTruth columns assign key value = some (Truth.all (terms.map (·.truth assign))) ∧
      terms ≠ [] := by
  obtain ⟨target, ht, h⟩ := bind_eq_ok_iff.1 h
  -- a literal makes one leaf, of the operator that its kind of value stands for
  have literal : ∀ operator : Operator,
      (do let leaf ← operator.build operator.name target value ⟨.condition, columns.table, key⟩
          return [leaf]) = .ok terms →
      leafTruth columns assign key operator operator.name value =
        some (Truth.all (terms.map (·.truth assign))) ∧ terms ≠ [] := by
    intro operator hb
    obtain ⟨leaf, hl, hb⟩ := bind_eq_ok_iff.1 hb
    cases hb
    rw [leafTruth_of_build assign ht hl, List.map_singleton, Truth.all_singleton]
    exact ⟨rfl, List.cons_ne_nil _ _⟩
  rw [compileCondition] at h
  cases value with
  | object members =>
    cases members with
    | nil => exact literal .eq h
    | cons entry rest =>
      rw [operators?] at h
      rw [conditionTruth]
      by_cases hall : (entry :: rest).all (fun entry => Operator.isName entry.1) = true
      · rw [if_pos hall] at h ⊢
        obtain ⟨htruth, hlen⟩ := operatorsTruth_of_compile assign ht h
        refine ⟨htruth, fun hnil => ?_⟩
        rw [hnil] at hlen
        exact absurd hlen.symm (Nat.succ_ne_zero _)
      · rw [if_neg hall] at h ⊢
        exact literal .eq h
  | array items => exact literal .oneOf h
  | _ => exact literal .eq h

end

/-! ## Clauses -/

section
variable {columns : ColumnSet} (assign : Predicate → Truth)

theorem toList_eq_nil_iff_none {α : Type} {x : Option α} : x.toList = [] ↔ x = none := by
  cases x <;> simp

theorem all_truth_toList (x : Option Predicate) :
    Truth.all (x.toList.map (·.truth assign)) = Predicate.truthOfJoined assign x := by
  cases x with
  | none => rfl
  | some p => exact Truth.all_singleton _

theorem truthOfJoined_join (junction : Junction) (terms : List Predicate) :
    Predicate.truthOfJoined assign (junction.join terms) =
      junction.truth (terms.map (·.truth assign)) := by
  match terms with
  | [] => cases junction <;> rfl
  | first :: rest =>
    cases junction with
    | and => exact Predicate.truthOfJoined_all assign _
    | or => exact Predicate.truthOfJoined_any assign (List.cons_ne_nil _ _)

theorem join_eq_none_iff {junction : Junction} {terms : List Predicate} :
    junction.join terms = none ↔ terms = [] := by
  cases junction with
  | and => exact Predicate.all_eq_none_iff
  | or => exact Predicate.any_eq_none_iff

/-- A clause of a group adds its truth value to the group's just when it asks for something. -/
theorem map_truth_all_toList {terms : List Predicate} {asks : Bool}
    (h : terms = [] ↔ asks = false) :
    (Predicate.all terms).toList.map (·.truth assign) =
      if asks then [Truth.all (terms.map (·.truth assign))] else [] := by
  cases asks with
  | false => rw [h.2 rfl]; rfl
  | true =>
    have hsome := mt Predicate.all_eq_none_iff.1 (mt h.1 (Ne.symm Bool.false_ne_true))
    obtain ⟨p, hp⟩ := Option.ne_none_iff_exists'.1 hsome
    rw [← Predicate.truthOfJoined_all, hp]
    rfl

theorem entryTruth_of_compile_scalar {key : String} {value : Json} {terms : List Predicate}
    (hv : value.isStructured = false) (h : compileEntry columns key value = .ok terms) :
    entryTruth columns assign key value = some (Truth.all (terms.map (·.truth assign))) ∧
      (terms = [] ↔ asksEntry key value = false) := by
  rw [compileEntry_of_not_isStructured hv] at h
  cases hk : Junction.ofKey? key with
  | some junction => rw [hk] at h; cases h
  | none =>
    rw [hk] at h
    obtain ⟨htruth, hne⟩ := conditionTruth_of_compile assign h
    cases value with
    | array items => exact absurd hv (Ne.symm Bool.false_ne_true)
    | object members => exact absurd hv (Ne.symm Bool.false_ne_true)
    | _ =>
      simp only [entryTruth, asksEntry, hk]
      exact ⟨htruth, iff_of_false hne Bool.noConfusion⟩

mutual

theorem entriesTruth_of_compile : ∀ (clause : List (String × Json)) {terms : List Predicate},
    compileEntries columns clause = .ok terms →
      entriesTruth columns assign clause = some (Truth.all (terms.map (·.truth assign))) ∧
        (terms = [] ↔ asksEntries clause = false)
  | [], terms, h => by
    cases h
    exact ⟨rfl, iff_of_true rfl rfl⟩
  | (key, value) :: rest, terms, h => by
    rw [compileEntries, bind_eq_ok_iff] at h
    obtain ⟨here, hh, h⟩ := h
    obtain ⟨more, hm, h⟩ := bind_eq_ok_iff.1 h
    cases h
    obtain ⟨htruth, hasks⟩ := entryTruth_of_compile key value hh
    obtain ⟨hmtruth, hmasks⟩ := entriesTruth_of_compile rest hm
    refine ⟨?_, ?_⟩
    · rw [entriesTruth, htruth, hmtruth, List.map_append, Truth.all_append]
      rfl
    · rw [asksEntries, List.append_eq_nil_iff, hasks, hmasks, Bool.or_eq_false_iff]

theorem entryTruth_of_compile (key : String) : ∀ (value : Json) {terms : List Predicate},
    compileEntry columns key value = .ok terms →
      entryTruth columns assign key value = some (Truth.all (terms.map (·.truth assign))) ∧
        (terms = [] ↔ asksEntry key value = false)
  | .array members, terms, h => by
    rw [compileEntry] at h
    rw [entryTruth, asksEntry]
    cases hk : Junction.ofKey? key with
    | none =>
      rw [hk] at h
      obtain ⟨htruth, hne⟩ := conditionTruth_of_compile assign h
      exact ⟨htruth, iff_of_false hne Bool.noConfusion⟩
    | some junction =>
      rw [hk] at h
      obtain ⟨inner, hi, h⟩ := bind_eq_ok_iff.1 h
      cases h
      obtain ⟨htruth, hasks⟩ := membersTruth_of_compile key members hi
      refine ⟨?_, ?_⟩
      · simp only [htruth, all_truth_toList, truthOfJoined_join]
        rfl
      · rw [toList_eq_nil_iff_none, join_eq_none_iff, hasks]
        rfl
  | .object clause, terms, h => by
    rw [compileEntry] at h
    rw [entryTruth, asksEntry]
    cases hk : Junction.ofKey? key with
    | none =>
      rw [hk] at h
      obtain ⟨htruth, hne⟩ := conditionTruth_of_compile assign h
      exact ⟨htruth, iff_of_false hne Bool.noConfusion⟩
    | some junction =>
      rw [hk] at h
      obtain ⟨inner, hi, h⟩ := bind_eq_ok_iff.1 h
      cases h
      obtain ⟨htruth, hasks⟩ := entriesTruth_of_compile clause hi
      refine ⟨?_, ?_⟩
      · simp only [htruth, all_truth_toList, truthOfJoined_join, map_truth_all_toList assign hasks]
        rfl
      · rw [toList_eq_nil_iff_none, join_eq_none_iff, toList_eq_nil_iff_none,
          Predicate.all_eq_none_iff, hasks]
        rfl
  | .null, _, h | .bool _, _, h | .number _, _, h | .string _, _, h =>
    entryTruth_of_compile_scalar assign rfl h

theorem membersTruth_of_compile (key : String) : ∀ (members : List Json) {terms : List Predicate},
    compileMembers columns key members = .ok terms →
      membersTruth columns assign members = some (terms.map (·.truth assign)) ∧
        (terms = [] ↔ asksMembers members = false)
  | [], terms, h => by
    cases h
    exact ⟨rfl, iff_of_true rfl rfl⟩
  | .object clause :: rest, terms, h => by
    rw [compileMembers, bind_eq_ok_iff] at h
    obtain ⟨inner, hi, h⟩ := h
    obtain ⟨more, hm, h⟩ := bind_eq_ok_iff.1 h
    cases h
    obtain ⟨htruth, hasks⟩ := entriesTruth_of_compile clause hi
    obtain ⟨hmtruth, hmasks⟩ := membersTruth_of_compile key rest hm
    refine ⟨?_, ?_⟩
    · rw [membersTruth, htruth, hmtruth, List.map_append, map_truth_all_toList assign hasks]
      cases asksEntries clause <;> rfl
    · rw [asksMembers, List.append_eq_nil_iff, toList_eq_nil_iff_none, Predicate.all_eq_none_iff,
        hasks, hmasks, Bool.or_eq_false_iff]
  | .null :: _, _, h | .bool _ :: _, _, h | .number _ :: _, _, h | .string _ :: _, _, h
  | .array _ :: _, _, h => nomatch h

end

end

/-- **Compilation keeps the meaning of a clause.**  However its groups nest, and whatever the truth
values of the leaves, the predicate of a clause has the truth value of the clause itself, and there
is no predicate just when the clause contains no column and no path. -/
theorem Clause.truthOfJoined_compile {columns : ColumnSet} {clause : Clause}
    {result : Option Predicate} (h : clause.compile columns = .ok result)
    (assign : Predicate → Truth) :
    entriesTruth columns assign clause = some (Predicate.truthOfJoined assign result) ∧
      (result = none ↔ asksEntries clause = false) := by
  obtain ⟨terms, ht, h⟩ := bind_eq_ok_iff.1 h
  cases h
  obtain ⟨htruth, hasks⟩ := entriesTruth_of_compile assign clause ht
  rw [Predicate.truthOfJoined_all, Predicate.all_eq_none_iff]
  exact ⟨htruth, hasks⟩

/-- A group of a null check, a clause that asks for nothing, and two operators on one column. -/
def nestedClause : Clause :=
  [("or", .array [.object [("a", .null)], .object [("and", .array [])],
    .object [("a", .object [("ne", .string "x"), ("in", .array [.string "y"])])]])]

theorem Clause.truthOfJoined_compile_nestedClause :
    nestedClause.compile ⟨"t", [⟨"a", .text⟩]⟩ =
        .ok (some (.or [.isNull (.column "a"), .and [.compare (.column "a") .ne (.string "x"),
          .inList (.column "a") [.string "y"] false]])) ∧
      entriesTruth ⟨"t", [⟨"a", .text⟩]⟩
        (fun leaf => if leaf matches .isNull _ then .fails else .unknown) nestedClause =
          some .unknown := by
  have h : nestedClause.compile ⟨"t", [⟨"a", .text⟩]⟩ =
      .ok (some (.or [.isNull (.column "a"), .and [.compare (.column "a") .ne (.string "x"),
        .inList (.column "a") [.string "y"] false]])) := rfl
  exact ⟨h, (Clause.truthOfJoined_compile h _).1⟩

end ClauseSql
