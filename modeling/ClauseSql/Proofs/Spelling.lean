import ClauseSql.Proofs.Demands
import Mathlib.Logic.Relation

/-!
# Names of one meaning

Some operators have more than one name.  Which of them a condition uses makes no difference, except
that an error quotes the name that was used.  Names are read in objects of operators only: an object
with any other name in it is a literal, and none of its names means anything.

## What is here

* `Operator.synonyms` — the names that mean one thing.
* `Clause.Respells` — two clauses, the second one of which has another name of the same meaning in
  one of its conditions.
* `SameOutcome` — what respelling leaves: one result, or one error but for the name that it quotes.
* `Clause.Asks` — what stands under a key that is no group, at any depth of a clause.
* `Clause.spelling_is_free` — respelling leaves the outcome as it is, and literals are bound as they
  stand.
-/

set_option autoImplicit false

namespace ClauseSql

/-! ## Synonyms -/

namespace Operator

/-- The names that mean one thing, where there is more than one. -/
def synonyms : List (List String) := [["eq", "is"], ["ne", "neq", "isn"], ["in", "inq"]]

/-- Two names mean one thing. -/
def Synonym (name other : String) : Prop := ∃ names ∈ synonyms, name ∈ names ∧ other ∈ names

instance (name other : String) : Decidable (Synonym name other) :=
  inferInstanceAs (Decidable (∃ names ∈ synonyms, name ∈ names ∧ other ∈ names))

theorem Synonym.trans {first second third : String} (h : Synonym first second)
    (h' : Synonym second third) : Synonym first third := by
  -- no name has two meanings
  have hdisjoint : ∀ names ∈ synonyms, ∀ names' ∈ synonyms, ∀ name ∈ names, name ∈ names' →
      names = names' := by decide
  obtain ⟨names, hnames, hfirst, hsecond⟩ := h
  obtain ⟨names', hnames', hsecond', hthird⟩ := h'
  obtain rfl := hdisjoint names hnames names' hnames' second hsecond hsecond'
  exact ⟨names, hnames, hfirst, hthird⟩

theorem Synonym.isName_right {name other : String} (h : Synonym name other) :
    isName other = true := by
  have hnames : ∀ names ∈ synonyms, ∀ name ∈ names, isName name = true := by decide
  obtain ⟨names, hmem, -, hother⟩ := h
  exact hnames names hmem other hother

end Operator

/-! ## Outcomes -/

/-- Two errors that are the same, but for the names of one meaning that they quote. -/
inductive CompileError.Requotes : CompileError → CompileError → Prop
  | refl (error : CompileError) : Requotes error error
  | operand (place : Place) (cause : OperandFault) {name other : String}
    (h : Operator.Synonym name other) : Requotes (.operand place name cause) (.operand place other cause)

/-- Two outcomes that are the same, but for the name that an error quotes. -/
inductive SameOutcome {α : Type} : Except CompileError α → Except CompileError α → Prop
  | ok (value : α) : SameOutcome (.ok value) (.ok value)
  | error {error other : CompileError} (h : error.Requotes other) :
    SameOutcome (.error error) (.error other)

theorem CompileError.Requotes.trans {first second third : CompileError} (h : first.Requotes second)
    (h' : second.Requotes third) : first.Requotes third := by
  cases h with
  | refl => exact h'
  | operand place cause hname =>
    cases h' with
    | refl => exact .operand place cause hname
    | operand _ _ hname' => exact .operand place cause (hname.trans hname')

namespace SameOutcome

variable {α β : Type} {x y z : Except CompileError α}

theorem refl (x : Except CompileError α) : SameOutcome x x := by
  cases x with
  | ok value => exact .ok value
  | error error => exact .error (.refl error)

theorem trans (h : SameOutcome x y) (h' : SameOutcome y z) : SameOutcome x z := by
  cases h with
  | ok value => exact h'
  | error herror =>
    cases h' with
    | error herror' => exact .error (herror.trans herror')

theorem eq_ok {value : α} (h : SameOutcome (.ok value) y) : y = .ok value := by
  cases h
  rfl

/-- Steps of one outcome, one after the other, have one outcome. -/
theorem bind {f g : α → Except CompileError β} (h : SameOutcome x y)
    (hfg : ∀ value, SameOutcome (f value) (g value)) : SameOutcome (x >>= f) (y >>= g) := by
  cases h with
  | ok value => exact hfg value
  | error herror => exact .error herror

end SameOutcome

/-! ## Conditions -/

namespace Operator

variable {name other : String} (place : Place) (target : Target) (operand : Json)

theorem buildList_sameOutcome (negated : Bool) (h : Synonym name other) :
    SameOutcome (buildList negated name target operand place)
      (buildList negated other target operand place) := by
  rw [buildList, buildList]
  split
  · exact .error (.operand place _ h)
  · exact .refl _
  · split
    · exact .refl _
    · exact .error (.operand place _ h)

/-- Names of one meaning build one predicate, or refuse the operand for one reason. -/
theorem compileOperator_sameOutcome (h : Synonym name other) :
    SameOutcome (compileOperator place target name operand)
      (compileOperator place target other operand) := by
  have hequals : ∀ name ∈ ["eq", "is"],
      compileOperator place target name operand = .ok (buildEquality false target operand) :=
    List.forall_mem_cons.2 ⟨rfl, List.forall_mem_singleton.2 rfl⟩
  have hdiffers : ∀ name ∈ ["ne", "neq", "isn"],
      compileOperator place target name operand = .ok (buildEquality true target operand) :=
    List.forall_mem_cons.2 ⟨rfl, List.forall_mem_cons.2 ⟨rfl, List.forall_mem_singleton.2 rfl⟩⟩
  have hlists : ∀ name ∈ ["in", "inq"],
      compileOperator place target name operand = buildList false name target operand place :=
    List.forall_mem_cons.2 ⟨rfl, List.forall_mem_singleton.2 rfl⟩
  obtain ⟨names, hnames, hname, hother⟩ := id h
  simp only [synonyms, List.mem_cons, List.not_mem_nil, or_false] at hnames
  rcases hnames with rfl | rfl | rfl
  · rw [hequals name hname, hequals other hother]
    exact .refl _
  · rw [hdiffers name hname, hdiffers other hother]
    exact .refl _
  · rw [hlists name hname, hlists other hother]
    exact buildList_sameOutcome place target operand false h

end Operator

theorem compileOperators_sameOutcome (place : Place) (target : Target) {name other : String}
    (h : Operator.Synonym name other) (operand : Json) (back : Members) : ∀ front : Members,
    SameOutcome (compileOperators place target (front ++ (name, operand) :: back))
      (compileOperators place target (front ++ (other, operand) :: back))
  | [] => (Operator.compileOperator_sameOutcome place target operand h).bind fun _ => .refl _
  | (_, _) :: front =>
    (SameOutcome.refl _).bind fun _ =>
      (compileOperators_sameOutcome place target h operand back front).bind fun _ => .refl _

theorem operators?_of_forall_isName {members : Members} (hne : members ≠ [])
    (h : ∀ member ∈ members, Operator.isName member.1 = true) :
    operators? (.object members) = some members := by
  match members with
  | [] => exact absurd rfl hne
  | member :: rest => exact if_pos (List.all_eq_true.2 h)

theorem operators?_eq_none {members : Members}
    (h : ∃ member ∈ members, Operator.isName member.1 = false) :
    operators? (.object members) = none := by
  obtain ⟨unnamed, hmem, hname⟩ := h
  match members with
  | [] => rfl
  | member :: rest =>
    refine if_neg fun hall => ?_
    exact Bool.false_ne_true (hname.symm.trans (List.all_eq_true.1 hall unnamed hmem))

/-- A literal object is compared with as it stands. -/
theorem compileCondition_literal {members : Members}
    (h : ∃ member ∈ members, Operator.isName member.1 = false) (place : Place) (target : Target) :
    compileCondition place target (.object members) =
      .ok [.compare target.ordered .eq (.object members)] := by
  rw [compileCondition, operators?_eq_none h]
  cases target <;> rfl

/-! ## Clauses -/

namespace Clause

/-- A clause and the same clause with another name of the same meaning for an operator of one of its
conditions.  The condition is an object of operators; it may stand in groups of any depth.  That the
object has no such name already, which keeps the names of an object apart, plays no part in what
follows. -/
inductive Respells : Clause → Clause → Prop
  /-- In a condition on a column or a path. -/
  | operator {key name other : String} {operand : Json} {front back rest : Members}
    (hkey : Junction.ofKey? key = none)
    (hnames : ∀ member ∈ front ++ (name, operand) :: back, Operator.isName member.1 = true)
    (h : Operator.Synonym name other) :
    Respells ((key, .object (front ++ (name, operand) :: back)) :: rest)
      ((key, .object (front ++ (other, operand) :: back)) :: rest)
  /-- In a clause that stands for a group of one. -/
  | single {key : String} {clause other rest : Members} (hkey : (Junction.ofKey? key).isSome)
    (h : Respells clause other) :
    Respells ((key, .object clause) :: rest) ((key, .object other) :: rest)
  /-- In a clause of a group. -/
  | member {key : String} {clause other rest : Members} {front back : List Json}
    (hkey : (Junction.ofKey? key).isSome) (h : Respells clause other) :
    Respells ((key, .array (front ++ .object clause :: back)) :: rest)
      ((key, .array (front ++ .object other :: back)) :: rest)
  /-- In what follows the first member. -/
  | later {clause other : Members} (entry : String × Json) (h : Respells clause other) :
    Respells (entry :: clause) (entry :: other)

end Clause

section
variable {columns : ColumnSet}

theorem compileTarget_sameOutcome {key name other : String} {operand : Json}
    {front back : Members}
    (hnames : ∀ member ∈ front ++ (name, operand) :: back, Operator.isName member.1 = true)
    (h : Operator.Synonym name other) :
    SameOutcome (compileTarget columns key (.object (front ++ (name, operand) :: back)))
      (compileTarget columns key (.object (front ++ (other, operand) :: back))) := by
  have hnames' : ∀ member ∈ front ++ (other, operand) :: back, Operator.isName member.1 = true := by
    rw [List.forall_mem_append, List.forall_mem_cons] at hnames ⊢
    exact ⟨hnames.1, h.isName_right, hnames.2.2⟩
  refine (SameOutcome.refl _).bind fun target => ?_
  rw [compileCondition, compileCondition, operators?_of_forall_isName (by simp) hnames,
    operators?_of_forall_isName (by simp) hnames']
  exact compileOperators_sameOutcome _ target h operand back front

theorem compileMembers_sameOutcome {key : String} {clause other : Members}
    (h : SameOutcome (compileEntries columns clause) (compileEntries columns other))
    (back : List Json) : ∀ front : List Json,
    SameOutcome (compileMembers columns key (front ++ .object clause :: back))
      (compileMembers columns key (front ++ .object other :: back)) := by
  intro front
  induction front with
  | nil =>
    rw [List.nil_append, List.nil_append, compileMembers, compileMembers]
    exact h.bind fun _ => .refl _
  | cons first front ih =>
    cases first with
    | object inner =>
      rw [List.cons_append, List.cons_append, compileMembers, compileMembers]
      exact (SameOutcome.refl _).bind fun _ => ih.bind fun _ => .refl _
    | _ => exact .refl _

/-- Respelling an operator leaves the outcome of compiling the members as it is. -/
theorem Clause.Respells.compileEntries {clause other : Clause} (h : clause.Respells other) :
    SameOutcome (compileEntries columns clause) (compileEntries columns other) := by
  induction h with
  | operator hkey hnames hname =>
    rw [ClauseSql.compileEntries, ClauseSql.compileEntries, compileEntry, compileEntry, hkey]
    exact (compileTarget_sameOutcome hnames hname).bind fun _ => .refl _
  | single hkey h ih =>
    obtain ⟨junction, hjunction⟩ := Option.isSome_iff_exists.1 hkey
    rw [ClauseSql.compileEntries, ClauseSql.compileEntries, compileEntry, compileEntry, hjunction]
    exact (ih.bind fun _ => .refl _).bind fun _ => .refl _
  | member hkey h ih =>
    obtain ⟨junction, hjunction⟩ := Option.isSome_iff_exists.1 hkey
    rw [ClauseSql.compileEntries, ClauseSql.compileEntries, compileEntry, compileEntry, hjunction]
    exact ((compileMembers_sameOutcome ih _ _).bind fun _ => .refl _).bind fun _ => .refl _
  | later entry h ih =>
    rw [ClauseSql.compileEntries, ClauseSql.compileEntries]
    exact (SameOutcome.refl _).bind fun _ => ih.bind fun _ => .refl _

/-- So it does however often operators are respelled. -/
theorem Clause.compile_sameOutcome {clause other : Clause}
    (h : Relation.ReflTransGen Clause.Respells clause other) :
    SameOutcome (clause.compile columns) (other.compile columns) := by
  induction h with
  | refl => exact .refl _
  | tail _ hlast ih => exact ih.trans (hlast.compileEntries.bind fun _ => .refl _)

end

/-! ## Literals -/

/-- What stands under a key that is no group, in a clause or in one of the clauses of its groups. -/
inductive Clause.Asks : Clause → String → Json → Prop
  | here {clause : Members} {key : String} {value : Json} (hkey : Junction.ofKey? key = none)
    (h : (key, value) ∈ clause) : Asks clause key value
  | single {clause inner : Members} {group key : String} {value : Json}
    (hgroup : (Junction.ofKey? group).isSome) (hmem : (group, .object inner) ∈ clause)
    (h : Asks inner key value) : Asks clause key value
  | member {clause inner : Members} {group key : String} {value : Json} {members : List Json}
    (hgroup : (Junction.ofKey? group).isSome) (hmem : (group, .array members) ∈ clause)
    (hinner : .object inner ∈ members) (h : Asks inner key value) : Asks clause key value

theorem mem_entriesDemands {clause : Members} {key : String} {value : Json} {demand : Demand}
    (hmem : (key, value) ∈ clause) (h : demand ∈ entryDemands key value) :
    demand ∈ entriesDemands clause := by
  induction clause with
  | nil => cases hmem
  | cons entry rest ih =>
    obtain ⟨first, held⟩ := entry
    rw [entriesDemands, List.mem_append]
    rcases List.mem_cons.1 hmem with heq | hrest
    · cases heq
      exact .inl h
    · exact .inr (ih hrest)

theorem mem_membersDemands {members : List Json} {inner : Members} {demand : Demand}
    (hmem : .object inner ∈ members) (h : demand ∈ entriesDemands inner) :
    demand ∈ membersDemands members := by
  induction members with
  | nil => cases hmem
  | cons first rest ih =>
    rcases List.mem_cons.1 hmem with rfl | hrest
    · rw [membersDemands, List.mem_append]
      exact .inl h
    · cases first with
      | object clause =>
        rw [membersDemands, List.mem_append]
        exact .inr (ih hrest)
      | _ => exact ih hrest

theorem entryDemands_of_ofKey?_eq_none {key : String} (h : Junction.ofKey? key = none)
    (value : Json) : entryDemands key value = conditionDemands key value := by
  cases value <;> simp [entryDemands, h]

/-- The demands of what a clause asks are demands of the clause. -/
theorem Clause.Asks.mem_entriesDemands {clause : Clause} {key : String} {value : Json}
    (h : clause.Asks key value) {demand : Demand} (hdemand : demand ∈ conditionDemands key value) :
    demand ∈ entriesDemands clause := by
  induction h with
  | here hkey hmem =>
    exact ClauseSql.mem_entriesDemands hmem (entryDemands_of_ofKey?_eq_none hkey _ ▸ hdemand)
  | single hgroup hmem _ ih =>
    obtain ⟨junction, hjunction⟩ := Option.isSome_iff_exists.1 hgroup
    refine ClauseSql.mem_entriesDemands hmem ?_
    rw [entryDemands, hjunction]
    exact ih hdemand
  | member hgroup hmem hinner _ ih =>
    obtain ⟨junction, hjunction⟩ := Option.isSome_iff_exists.1 hgroup
    refine ClauseSql.mem_entriesDemands hmem ?_
    rw [entryDemands, hjunction]
    exact mem_membersDemands hinner (ih hdemand)

theorem exists_builds_of_mem {columns : ColumnSet} {demands : List Demand} {leaves : List Predicate}
    (h : List.Forall₂ (Demand.Builds columns) demands leaves) {demand : Demand}
    (hmem : demand ∈ demands) : ∃ leaf ∈ leaves, demand.Builds columns leaf := by
  induction h with
  | nil => cases hmem
  | cons hbuilds _ ih =>
    rcases List.mem_cons.1 hmem with rfl | hrest
    · exact ⟨_, List.mem_cons_self, hbuilds⟩
    · obtain ⟨leaf, hleaf, hbuilds⟩ := ih hrest
      exact ⟨leaf, List.mem_cons_of_mem _ hleaf, hbuilds⟩

/-- A literal object that a clause asks for is compared with in the predicate, as it stands. -/
theorem Clause.Asks.exists_leaf {columns : ColumnSet} {clause : Clause} {key : String}
    {literal : Members} (h : clause.Asks key (.object literal))
    (hliteral : ∃ member ∈ literal, Operator.isName member.1 = false) {result : Option Predicate}
    (hresult : clause.compile columns = .ok result) :
    ∃ predicate target, result = some predicate ∧
      Target.resolve columns .condition key = .ok target ∧
      .compare target.ordered .eq (.object literal) ∈ predicate.leaves := by
  have hdemand : ⟨key, .eq, "eq", .object literal⟩ ∈ entriesDemands clause := by
    refine h.mem_entriesDemands ?_
    rw [conditionDemands, operators?_eq_none hliteral]
    exact List.mem_singleton_self _
  obtain ⟨terms, hterms, hall⟩ := bind_eq_ok_iff.1 hresult
  cases hall
  obtain ⟨leaf, hleaf, target, htarget, hbuild⟩ :=
    exists_builds_of_mem (forall₂_builds_entries clause hterms) hdemand
  have hequals : leaf = .compare target.ordered .eq (.object literal) := by
    cases target <;> cases hbuild <;> rfl
  rw [← Predicate.leavesOfTerms_all] at hleaf
  cases hjoined : Predicate.all terms with
  | none => rw [hjoined] at hleaf; cases hleaf
  | some predicate =>
    rw [hjoined, Option.toList_some, Predicate.leavesOfTerms_singleton] at hleaf
    exact ⟨predicate, target, rfl, htarget, hequals ▸ hleaf⟩

/-! ## Respelled clauses -/

namespace Clause

/-- **How operators are spelled makes no difference.**  A clause that differs from another one in
nothing but names of one meaning, in any of its conditions, compiles to the same predicate, or fails
with the same error but for the name that the error quotes.  In an object that is a literal, at any
depth of the clause, no name is read: it is compared with as it stands, and that is how it is bound. -/
theorem spelling_is_free (columns : ColumnSet) (clause : Clause) :
    (∀ other, Relation.ReflTransGen Respells clause other →
      SameOutcome (clause.compile columns) (other.compile columns)) ∧
    ∀ key literal, clause.Asks key (.object literal) →
      (∃ member ∈ literal, Operator.isName member.1 = false) →
      (∀ place target, compileCondition place target (.object literal) =
        .ok [.compare target.ordered .eq (.object literal)]) ∧
      ∀ result, clause.compile columns = .ok result → ∃ predicate target,
        result = some predicate ∧ Target.resolve columns .condition key = .ok target ∧
        .compare target.ordered .eq (.object literal) ∈ predicate.leaves ∧
        .object literal ∈ predicate.operands := by
  refine ⟨fun other h => compile_sameOutcome h, fun key literal hasks hliteral =>
    ⟨compileCondition_literal hliteral, fun result hresult => ?_⟩⟩
  obtain ⟨predicate, target, hsome, htarget, hleaf⟩ := hasks.exists_leaf hliteral hresult
  have hbound : .object literal ∈ predicate.operands := by
    rw [Predicate.operands_eq_flatMap_leaves]
    exact List.mem_flatMap.2 ⟨_, hleaf, List.mem_singleton_self _⟩
  exact ⟨predicate, target, hsome, htarget, hleaf, hbound⟩

/-- Conditions in groups, on a column and on a path, with a literal object that has the name of an
operator in it. -/
def groupedConditions (differs lists : String) : Clause :=
  [("or", .array [.object [("a", .object [("gt", .number (.int 0)), (differs, .number (.int 5))])],
      .object [("doc.b", .object [("is", .null), ("x", .null)])]]),
    ("and", .object [("doc.c", .object [(lists, .array [.string "y"])])])]

theorem spelling_is_free_groupedConditions : ∃ predicate,
    (groupedConditions "neq" "in").compile ⟨"t", [⟨"a", .integer⟩, ⟨"doc", .jsonb⟩]⟩ =
      .ok (some predicate) ∧
    (groupedConditions "isn" "inq").compile ⟨"t", [⟨"a", .integer⟩, ⟨"doc", .jsonb⟩]⟩ =
      .ok (some predicate) ∧
    .object [("is", .null), ("x", .null)] ∈ predicate.operands := by
  have hdiffers : Respells (groupedConditions "neq" "in") (groupedConditions "isn" "in") :=
    @Respells.member _ _ _ _ [] _ rfl (@Respells.operator _ _ _ _ [_] _ _ rfl (by decide) (by decide))
  have hlists : Respells (groupedConditions "isn" "in") (groupedConditions "isn" "inq") :=
    .later _ (.single rfl (@Respells.operator _ _ _ _ [] _ _ rfl (by decide) (by decide)))
  have hasks : Asks (groupedConditions "neq" "in") "doc.b"
      (.object [("is", .null), ("x", .null)]) :=
    .member rfl List.mem_cons_self (List.mem_cons_of_mem _ List.mem_cons_self)
      (.here rfl List.mem_cons_self)
  obtain ⟨hrespelled, hliteral⟩ := spelling_is_free ⟨"t", [⟨"a", .integer⟩, ⟨"doc", .jsonb⟩]⟩
    (groupedConditions "neq" "in")
  have hsame := hrespelled _ (.tail (.single hdiffers) hlists)
  obtain ⟨-, hbound⟩ := hliteral _ _ hasks ⟨("x", .null), by simp, rfl⟩
  obtain ⟨result, hresult⟩ : ∃ result, (groupedConditions "neq" "in").compile
      ⟨"t", [⟨"a", .integer⟩, ⟨"doc", .jsonb⟩]⟩ = .ok result := ⟨_, rfl⟩
  obtain ⟨predicate, _, rfl, -, -, hmem⟩ := hbound result hresult
  rw [hresult] at hsame
  exact ⟨predicate, hresult, hsame.eq_ok, hmem⟩

end Clause
end ClauseSql
