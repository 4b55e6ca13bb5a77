import ClauseSql.Proofs.Abbreviation
import ClauseSql.Proofs.Evaluation
import ClauseSql.Proofs.RoundTrip

/-!
# Operators and their negations

Some operators come in pairs, an operator and its negation.  On a row where the one holds the other
fails, and where the one is unknown so is the other: a condition and its negation leave out just the
rows of which nothing is known.  A pair takes the same operands, and is about the same expression.

## What is here

* `Operator.negation?` — the pairs.
* `Interpretation` — what the relations mean that conditions ask for without a negation, and
  `Interpretation.reading`, what the negations of these mean.
* `Predicate.Negates` — the leaves that differ in nothing but a negation.
* `Predicate.Negates.truth` — their truth values are the negations of each other, and so are those of
  their texts (`Predicate.Negates.read`).
* `Operator.complements` — a pair of operators makes such leaves, or refuses the operand for one
  reason.
-/

set_option autoImplicit false

namespace ClauseSql

/-! ## Negated truth -/

namespace Truth

@[simp] theorem not_ofBool (value : Bool) : (ofBool value).not = ofBool !value := by
  cases value <;> rfl

theorem not_or (a b : Truth) : (a.or b).not = a.not.and b.not := by
  cases a <;> cases b <;> rfl

/-- What is not true of any is false of all. -/
theorem not_any (values : List Truth) : (any values).not = all (values.map not) := by
  induction values with
  | nil => rfl
  | cons a rest ih => rw [any_cons, not_or, ih, List.map_cons, all_cons]

end Truth

/-! ## Interpretations -/

/-- What expressions and the relations between them and operands mean on a row. -/
structure Interpretation (Value : Type) where
  value : Expr → Value
  isNull : Value → Bool
  equals : Value → Json → Truth
  /-- The truth of a comparison that needs an order. -/
  order : Comparison → Value → Json → Truth
  like (ignoreCase : Bool) : Value → String → Truth
  finds (ignoreCase : Bool) : Value → String → Truth

/-- What leaves mean in an interpretation.  Those with a negation are the negations of the relations
that they are about. -/
def Interpretation.reading {Value : Type} (interpretation : Interpretation Value) : Reading Value where
  value := interpretation.value
  compare
    | .eq, value, operand => interpretation.equals value operand
    | .ne, value, operand => (interpretation.equals value operand).not
    | comparison, value, operand => interpretation.order comparison value operand
  other
    | .isNull expr => .ofBool (interpretation.isNull (interpretation.value expr))
    | .isNotNull expr => .ofBool !interpretation.isNull (interpretation.value expr)
    | .like expr pattern ignoreCase negated =>
      (interpretation.like ignoreCase (interpretation.value expr) pattern).negateIf negated
    | .regex expr pattern ignoreCase =>
      interpretation.finds ignoreCase (interpretation.value expr) pattern
    | _ => .unknown

/-! ## Negated leaves -/

namespace Predicate

/-- A leaf and the leaf that asks for its contrary. -/
inductive Negates : Predicate → Predicate → Prop
  | compare (expr : Expr) (value : Json) : Negates (.compare expr .eq value) (.compare expr .ne value)
  | isNull (expr : Expr) : Negates (.isNull expr) (.isNotNull expr)
  | like (expr : Expr) (pattern : String) (ignoreCase : Bool) :
    Negates (.like expr pattern ignoreCase false) (.like expr pattern ignoreCase true)
  | inList (expr : Expr) (values : List Json) :
    Negates (.inList expr values false) (.inList expr values true)
  | constant : Negates (.constant false) (.constant true)

/-- The readings of constants and of empty lists agree. -/
theorem respects_assign {Value : Type} (reading : Reading Value) : Respects reading.assign where
  constant _ := rfl
  inList_nil _ negated := by cases negated <;> rfl

namespace Negates

variable {positive negative : Predicate}

theorem expr?_eq (h : Negates positive negative) : negative.expr? = positive.expr? := by
  cases h <;> rfl

theorem operands_eq (h : Negates positive negative) : negative.operands = positive.operands := by
  cases h <;> rfl

/-- **The negated leaf is true where the other is false, and unknown where it is unknown.** -/
theorem truth {Value : Type} (interpretation : Interpretation Value)
    (h : Negates positive negative) :
    negative.truth interpretation.reading.assign =
      (positive.truth interpretation.reading.assign).not := by
  cases h with
  | compare expr value => rfl
  | like expr pattern ignoreCase => rfl
  | constant => rfl
  | isNull expr => exact (Truth.not_ofBool _).symm
  | inList expr values =>
    -- being unequal to all is the negation of being equal to one
    show Truth.all (values.map _) = (Truth.any (values.map _)).not
    rw [Truth.not_any, List.map_map]
    rfl

theorem accepted (h : Negates positive negative) (hp : positive.Accepted) : negative.Accepted := by
  cases h <;> exact hp

/-- What the texts of both are read as are negations of each other, too. -/
theorem read (h : Negates positive negative) (hp : positive.Accepted) (bound : List Json) :
    ∃ first second,
      ofText? (positive.render bound).2 (positive.render bound).1 = some first ∧
      ofText? (negative.render bound).2 (negative.render bound).1 = some second ∧
      ∀ {Value : Type} (interpretation : Interpretation Value),
        second.truth interpretation.reading.assign =
          (first.truth interpretation.reading.assign).not := by
  refine ⟨_, _, ofText?_render hp bound, ofText?_render (h.accepted hp) bound,
    fun interpretation => ?_⟩
  have hrespects := respects_assign interpretation.reading
  rw [truth_normal hrespects, truth_normal hrespects, h.truth]

end Negates
end Predicate

/-! ## Pairs of operators -/

/-- The same error about another spelling of the operator. -/
def CompileError.spelled (name : String) : CompileError → CompileError
  | .misplacedOperator place _ => .misplacedOperator place name
  | .operandCount place _ expected actual => .operandCount place name expected actual
  | .operand place _ cause => .operand place name cause
  | other => other

/-- The expressions of a resolved target have accepted paths. -/
theorem Target.Resolved.accepted {columns : ColumnSet} {target : Target}
    (h : target.Resolved columns) : ∀ expr ∈ target.exprs, expr.Accepted := by
  cases target with
  | column declared =>
    have hcomparable : declared.comparable.Accepted := by
      rw [Column.comparable]
      split <;> exact List.forall_mem_nil _
    exact List.forall_mem_cons.2 ⟨List.forall_mem_nil _, List.forall_mem_singleton.2 hcomparable⟩
  | path document segments =>
    have hpath : ∀ segment ∈ segments, isSegment segment = true := h.2.2.2
    have hnative : (native document segments).Accepted := by
      rw [native]
      split <;> exact hpath
    exact List.forall_mem_cons.2 ⟨hpath, List.forall_mem_cons.2
      ⟨hnative, List.forall_mem_singleton.2 hpath⟩⟩

theorem Target.negates_compare (target : Target) (operand : Json) :
    (target.compare .eq operand).Negates (target.compare .ne operand) := by
  cases target with
  | column declared =>
    rw [compare, compare]
    split <;> exact .compare _ _
  | path document segments =>
    rw [compare, compare]
    split
    · exact .compare _ _
    · split <;> exact .compare _ _

namespace Operator

theorem accepted_of_build {columns : ColumnSet} {operator : Operator} {name : String}
    {target : Target} {operand : Json} {place : Place} {leaf : Predicate}
    (ht : target.Resolved columns) (h : operator.build name target operand place = .ok leaf) :
    leaf.Accepted := by
  intro expr hexpr
  rw [Predicate.exprs, Predicate.leaves_of_isLeaf (build_isLeaf h)] at hexpr
  obtain ⟨found, hfound, he⟩ := List.mem_filterMap.1 hexpr
  cases List.mem_singleton.1 hfound
  exact ht.accepted expr (mem_exprs_of_build h he)

/-- The negation of an operator, for those that have one. -/
def negation? : Operator → Option Operator
  | .eq => some .ne
  | .is => some .isNot
  | .like => some .notLike
  | .ilike => some .notIlike
  | .oneOf => some .noneOf
  | _ => none

/-- What an operator makes of an operand, and what its negation does, which may be spelled `other`:
the same error, or a leaf and its contrary. -/
def Opposed (other : String) (made negated : Except CompileError Predicate) : Prop :=
  (∃ error, made = .error error ∧ negated = .error (error.spelled other)) ∨
    ∃ positive negative, made = .ok positive ∧ negated = .ok negative ∧ positive.Negates negative

variable (name other : String) (target : Target) (operand : Json) (place : Place)

theorem negates_buildEquality :
    (buildEquality false target operand).Negates (buildEquality true target operand) := by
  cases operand with
  | null => exact .isNull _
  | _ => exact target.negates_compare _

theorem opposed_buildLike (ignoreCase : Bool) :
    Opposed other (buildLike ignoreCase false name target operand place)
      (buildLike ignoreCase true other target operand place) := by
  cases operand with
  | string pattern => exact .inr ⟨_, _, rfl, rfl, .like _ _ _⟩
  | _ => exact .inl ⟨_, rfl, rfl⟩

theorem opposed_buildList :
    Opposed other (buildList false name target operand place)
      (buildList true other target operand place) := by
  rw [buildList, buildList]
  split
  · exact .inl ⟨_, rfl, rfl⟩
  · exact .inr ⟨_, _, rfl, rfl, .constant⟩
  · split
    · exact .inr ⟨_, _, rfl, rfl, .inList _ _⟩
    · exact .inl ⟨_, rfl, rfl⟩

theorem opposed_build {operator negation : Operator} (h : operator.negation? = some negation) :
    Opposed other (operator.build name target operand place)
      (negation.build other target operand place) := by
  cases operator with
  | eq | is => cases h; exact .inr ⟨_, _, rfl, rfl, negates_buildEquality target operand⟩
  | like => cases h; exact opposed_buildLike name other target operand place false
  | ilike => cases h; exact opposed_buildLike name other target operand place true
  | oneOf => cases h; exact opposed_buildList name other target operand place
  | _ => cases h

/-- **Negations are complements.**  An operator and its negation refuse an operand with the same error,
apart from the spelling of the operator, or both take it.  Then they look at the same expression and
bind the same operands, and in every interpretation the truth value of the one is the negation of the
other's, the unknown one included.  On a resolved target the same goes for what their texts are read
as. -/
theorem complements {operator negation : Operator} (h : operator.negation? = some negation) :
    (∃ error, operator.build name target operand place = .error error ∧
      negation.build other target operand place = .error (error.spelled other)) ∨
    ∃ positive negative, operator.build name target operand place = .ok positive ∧
      negation.build other target operand place = .ok negative ∧
      negative.expr? = positive.expr? ∧ negative.operands = positive.operands ∧
      (∀ {Value : Type} (interpretation : Interpretation Value),
        negative.truth interpretation.reading.assign =
          (positive.truth interpretation.reading.assign).not) ∧
      (∀ columns, target.Resolved columns → ∀ bound, ∃ first second,
        Predicate.ofText? (positive.render bound).2 (positive.render bound).1 = some first ∧
        Predicate.ofText? (negative.render bound).2 (negative.render bound).1 = some second ∧
        ∀ {Value : Type} (interpretation : Interpretation Value),
          second.truth interpretation.reading.assign =
            (first.truth interpretation.reading.assign).not) := by
  refine (opposed_build name other target operand place h).imp_right ?_
  rintro ⟨positive, negative, hpositive, hnegative, hnegates⟩
  exact ⟨positive, negative, hpositive, hnegative, hnegates.expr?_eq, hnegates.operands_eq,
    hnegates.truth, fun columns ht => hnegates.read (accepted_of_build ht hpositive)⟩

/-- A list of two items for a place in a document. -/
def eitherItem : Json := .array [.string "x", .bool true]

/-- A list and its negation are rendered as opposites, with the same placeholders. -/
theorem complements_eitherItem : oneOf.negation? = some noneOf ∧ ∃ positive negative,
    oneOf.build "inq" (.path ⟨"doc", .json⟩ ["a"]) eitherItem ⟨.condition, "t", "doc.a"⟩ =
      .ok positive ∧
    noneOf.build "nin" (.path ⟨"doc", .json⟩ ["a"]) eitherItem ⟨.condition, "t", "doc.a"⟩ =
      .ok negative ∧
    positive.render [] = ("(\"doc\" #>> '\x7b\"a\"\x7d') IN ($1, $2)", [.string "x", .string "true"]) ∧
    negative.render [] =
      ("(\"doc\" #>> '\x7b\"a\"\x7d') NOT IN ($1, $2)", [.string "x", .string "true"]) ∧
    ∀ {Value : Type} (interpretation : Interpretation Value),
      negative.truth interpretation.reading.assign =
        (positive.truth interpretation.reading.assign).not := by
  refine ⟨rfl, ?_⟩
  have hpair : oneOf.negation? = some noneOf := rfl
  rcases complements "inq" "nin" (.path ⟨"doc", .json⟩ ["a"]) eitherItem ⟨.condition, "t", "doc.a"⟩
    hpair with ⟨error, herror, -⟩ | ⟨positive, negative, hpositive, hnegative, -, -, htruth, -⟩
  · cases herror
  · cases hpositive
    cases hnegative
    exact ⟨_, _, rfl, rfl, rfl, rfl, htruth⟩

end Operator
end ClauseSql
