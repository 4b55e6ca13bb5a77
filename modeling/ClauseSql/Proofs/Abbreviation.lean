import ClauseSql.Proofs.Truth
import ClauseSql.Proofs.WellFormed

/-!
# Lists and ranges as comparisons

Membership in a list is short for being equal to one of its items, and a range is short for two
comparisons with its bounds.  The operands of a list are bound in one form for all of them, where
those of single comparisons are each bound in their own, so that the two agree only for operands that
would all be bound alike.

## What is here

* `Reading` — what expressions and comparisons mean on a row, and `Reading.assign`, what the leaves
  mean that are defined by comparisons.
* `Target.Uniform` — operands that a target compares in one form.
* `Target.compare_eq` — each of them is compared alone as it is in the list.
* `Operator.abbreviates` — lists and ranges agree with the comparisons that they are short for, and a
  scalar with the list of it alone.
* `Operator.uniform_of_oneOf` — at a path, operands have to be compared in one form for that.
-/

set_option autoImplicit false

namespace ClauseSql

/-! ## Uniform operands -/

namespace Target

variable {target : Target} {operands : List Json}

/-- Operands that a target compares in one form.  A column takes all of them as they are, a path takes
numbers as numbers and the other scalars as text. -/
def Uniform (target : Target) (operands : List Json) : Prop :=
  (∃ declared, target = .column declared) ∨ (∀ operand ∈ operands, operand.isNumber = true) ∨
    ∀ operand ∈ operands, operand.isNumber = false

/-- Uniform operands are compared alone as they are in a list. -/
theorem compare_eq (hs : ∀ operand ∈ operands, operand.isScalar = true)
    (hu : target.Uniform operands) (comparison : Comparison) : ∀ operand ∈ operands,
    target.compare comparison operand =
      .compare (target.listExpr operands) comparison (target.listValue operands operand) := by
  intro operand hoperand
  have hstructured := Json.not_isStructured_of_isScalar (hs operand hoperand)
  cases target with
  | column declared => rw [compare, if_neg hstructured, listExpr, listValue]
  | path document segments =>
    rw [compare, listExpr, listValue]
    rcases hu with ⟨declared, hcolumn⟩ | hnumbers | hothers
    · cases hcolumn
    · have hall : operands.all Json.isNumber = true := List.all_eq_true.2 hnumbers
      rw [if_pos (hnumbers operand hoperand), if_pos hall, if_pos hall]
    · have hnumber : ¬operand.isNumber = true := ne_true_of_eq_false (hothers operand hoperand)
      have hall : ¬operands.all Json.isNumber = true := fun hall =>
        hnumber (List.all_eq_true.1 hall operand hoperand)
      rw [if_neg hnumber, if_neg hstructured, if_neg hall, if_neg hall]

end Target

/-! ## What operators build for scalars -/

namespace Operator

variable {name : String} {target : Target} {operand : Json} {operands : List Json} {place : Place}

/-- The comparison that an operator makes with a scalar, if it makes one. -/
def comparison? : Operator → Option Comparison
  | .eq | .is => some .eq
  | .ne | .isNot => some .ne
  | .gt => some .gt
  | .gte => some .gte
  | .lt => some .lt
  | .lte => some .lte
  | _ => none

theorem buildEquality_of_isScalar {negated : Bool} (h : operand.isScalar = true) :
    buildEquality negated target operand =
      target.compare (if negated then .ne else .eq) operand := by
  cases operand with
  | null => exact absurd h Bool.false_ne_true
  | _ => rfl

theorem build_of_comparison? {operator : Operator} {comparison : Comparison}
    (hc : operator.comparison? = some comparison) (h : operand.isScalar = true) :
    operator.build name target operand place = .ok (target.compare comparison operand) := by
  cases operator with
  | eq | is | ne | isNot =>
    cases hc
    exact congrArg Except.ok (buildEquality_of_isScalar h)
  | gt | gte | lt | lte =>
    cases hc
    exact if_pos h
  | _ => cases hc

/-- A scalar is a list of one. -/
theorem buildList_scalar {negated : Bool} (h : operand.isScalar = true) :
    buildList negated name target operand place =
      buildList negated name target (.array [operand]) place := by
  have hvalues : listValues? operand = some [operand] := by
    cases operand with
    | bool | number | string => rfl
    | _ => exact absurd h Bool.false_ne_true
  rw [buildList, hvalues]
  rfl

end Operator

/-! ## Readings -/

/-- What the parts of a leaf mean on a row. -/
structure Reading (Value : Type) where
  /-- The value of an expression. -/
  value : Expr → Value
  /-- Whether a comparison of a value with an operand holds. -/
  compare : Comparison → Value → Json → Truth
  /-- Whether a leaf holds that compares nothing. -/
  other : Predicate → Truth

namespace Reading

variable {Value : Type} (reading : Reading Value)

/-- Membership in a list: equality with one of the items.  Its negation is inequality with all of
them. -/
def member (expr : Expr) (items : List Json) : Bool → Truth
  | false => Truth.any (items.map (reading.compare .eq (reading.value expr)))
  | true => Truth.all (items.map (reading.compare .ne (reading.value expr)))

/-- Whether a leaf holds.  Bounds belong to their range. -/
def assign : Predicate → Truth
  | .compare expr comparison operand => reading.compare comparison (reading.value expr) operand
  | .inList expr items negated => reading.member expr items negated
  | .between expr low high =>
    (reading.compare .gte (reading.value expr) low).and
      (reading.compare .lte (reading.value expr) high)
  | .constant value => Truth.ofBool value
  | leaf => reading.other leaf

variable (names : Operator → String) (target : Target) (place : Place)

/-- Whether what an operator builds holds.  Operators may be spelled in any way. -/
def truthOf (operator : Operator) (operand : Json) : Except CompileError Truth :=
  (operator.build (names operator) target operand place).map (Predicate.truth reading.assign)

variable {operands : List Json}

theorem truthOf_of_comparison? {operator : Operator} {comparison : Comparison}
    (hc : operator.comparison? = some comparison)
    (hs : ∀ operand ∈ operands, operand.isScalar = true) (hu : target.Uniform operands) :
    ∀ operand ∈ operands, reading.truthOf names target place operator operand =
      .ok (reading.compare comparison (reading.value (target.listExpr operands))
        (target.listValue operands operand)) := by
  intro operand hoperand
  rw [truthOf, Operator.build_of_comparison? hc (hs operand hoperand),
    Target.compare_eq hs hu comparison operand hoperand]
  rfl

/-- A list of no items is no exception: the constant that it makes is what joining no comparisons
gives. -/
theorem truth_buildList (hs : ∀ operand ∈ operands, operand.isScalar = true) (negated : Bool)
    (name : String) :
    (Operator.buildList negated name target (.array operands) place).map
        (Predicate.truth reading.assign) =
      .ok (reading.member (target.listExpr operands) (operands.map (target.listValue operands))
        negated) := by
  cases operands with
  | nil => cases negated <;> rfl
  | cons first rest =>
    have hall : (first :: rest).all Json.isScalar = true := List.all_eq_true.2 hs
    rw [Operator.buildList, Operator.listValues?]
    exact congrArg (Except.map _) (if_pos hall)

theorem truth_buildRange {low high : Json} (hs : ∀ operand ∈ [low, high], operand.isScalar = true)
    (name : String) :
    (Operator.buildRange name target (.array [low, high]) place).map
        (Predicate.truth reading.assign) =
      .ok ((reading.compare .gte (reading.value (target.listExpr [low, high]))
          (target.listValue [low, high] low)).and
        (reading.compare .lte (reading.value (target.listExpr [low, high]))
          (target.listValue [low, high] high))) := by
  have hboth : (low.isScalar && high.isScalar) = true :=
    Bool.and_eq_true_iff.2
      ⟨hs low List.mem_cons_self, hs high (List.mem_cons_of_mem _ List.mem_cons_self)⟩
  exact congrArg (Except.map _) (if_pos hboth)

end Reading

section
variable {Value : Type} (reading : Reading Value) (names : Operator → String) (place : Place)
  {target : Target} {operands : List Json}

/-- **Lists and ranges are short for comparisons.**  For scalars that a target compares in one form,
membership in their list is the disjunction of being equal to each, its negation is the conjunction of
being unequal to each, and a range is the conjunction of the comparisons with its bounds.  All of these
compile.  A scalar in the place of a list is the list of it alone. -/
theorem Operator.abbreviates (hs : ∀ operand ∈ operands, operand.isScalar = true)
    (hu : target.Uniform operands) :
    (∃ each, operands.mapM (reading.truthOf names target place .eq) = .ok each ∧
      reading.truthOf names target place .oneOf (.array operands) = .ok (Truth.any each)) ∧
    (∃ each, operands.mapM (reading.truthOf names target place .ne) = .ok each ∧
      reading.truthOf names target place .noneOf (.array operands) = .ok (Truth.all each)) ∧
    (∀ low high, operands = [low, high] → ∃ above below,
      reading.truthOf names target place .gte low = .ok above ∧
        reading.truthOf names target place .lte high = .ok below ∧
        reading.truthOf names target place .between (.array operands) = .ok (above.and below)) ∧
    ∀ operand, operand.isScalar = true → ∀ operator, operator = .oneOf ∨ operator = .noneOf → ∃ value,
      reading.truthOf names target place operator operand = .ok value ∧
        reading.truthOf names target place operator (.array [operand]) = .ok value := by
  have hcompare {operator : Operator} {comparison : Comparison}
      (hc : operator.comparison? = some comparison) :=
    reading.truthOf_of_comparison? names target place hc hs hu
  refine ⟨⟨_, mapM_eq_ok_map (hcompare rfl), ?_⟩, ⟨_, mapM_eq_ok_map (hcompare rfl), ?_⟩, ?_, ?_⟩
  · rw [Reading.truthOf, build, Reading.truth_buildList reading target place hs, Reading.member,
      List.map_map]
    rfl
  · rw [Reading.truthOf, build, Reading.truth_buildList reading target place hs, Reading.member,
      List.map_map]
    rfl
  · rintro low high rfl
    exact ⟨_, _, hcompare rfl low List.mem_cons_self,
      hcompare rfl high (List.mem_cons_of_mem _ List.mem_cons_self),
      reading.truth_buildRange target place hs _⟩
  · intro operand hoperand operator hoperator
    have hlist := reading.truth_buildList target place (List.forall_mem_singleton.2 hoperand)
    have hscalar (negated : Bool) (name : String) :=
      (congrArg (Except.map (Predicate.truth reading.assign))
        (buildList_scalar hoperand)).trans (hlist negated name)
    rcases hoperator with rfl | rfl
    · exact ⟨_, hscalar _ _, hlist _ _⟩
    · exact ⟨_, hscalar _ _, hlist _ _⟩

/-- A row of which only one text is known. -/
def Reading.ofText (text : String) : Reading (Option String) where
  value
    | .jsonText .. => some text
    | _ => none
  compare
    | .eq, some value, .string operand => Truth.ofBool (value == operand)
    | .ne, some value, .string operand => Truth.ofBool (value != operand)
    | _, _, _ => .unknown
  other _ := .unknown

/-- Whether what an operator builds for a place in a document holds, on a row with the text of `true`
there. -/
def truthAtTrue : Operator → Json → Except CompileError Truth :=
  (Reading.ofText "true").truthOf Operator.name (.path ⟨"doc", .jsonb⟩ ["a"])
    ⟨.condition, "t", "doc.a"⟩

/-- A boolean in a list is compared with the text there, as it is alone. -/
theorem Operator.abbreviates_truthAtTrue :
    [.string "x", .bool true].mapM (truthAtTrue .eq) = .ok [.fails, .holds] ∧
      truthAtTrue .oneOf (.array [.string "x", .bool true]) = .ok (Truth.any [.fails, .holds]) ∧
      truthAtTrue .noneOf (.array [.string "x", .bool true]) = .ok (Truth.all [.holds, .fails]) ∧
      truthAtTrue .between (.array [.string "x", .bool true]) = .ok (Truth.unknown.and .unknown) := by
  have hs : ∀ operand ∈ [Json.string "x", .bool true], operand.isScalar = true :=
    List.forall_mem_cons.2 ⟨rfl, List.forall_mem_singleton.2 rfl⟩
  have hu : (Target.path ⟨"doc", .jsonb⟩ ["a"]).Uniform [.string "x", .bool true] :=
    .inr (.inr (List.forall_mem_cons.2 ⟨rfl, List.forall_mem_singleton.2 rfl⟩))
  obtain ⟨⟨equal, hequal, hone⟩, ⟨unequal, hunequal, hnone⟩, hrange, -⟩ :=
    abbreviates (.ofText "true") Operator.name ⟨.condition, "t", "doc.a"⟩ hs hu
  obtain ⟨above, below, habove, hbelow, hbetween⟩ := hrange _ _ rfl
  cases hequal
  cases hunequal
  cases habove
  cases hbelow
  exact ⟨rfl, hone, hnone, hbetween⟩

/-- A row on which just the numbers at paths equal something. -/
def Reading.ofNumbers : Reading Expr where
  value expr := expr
  compare _ expr _ := Truth.ofBool (expr matches .safeNumeric _)
  other _ := .unknown

/-- Operands at a path that are short for their comparisons on that row are compared in one form. -/
theorem Operator.uniform_of_oneOf {document : Column} {segments : List String} {each : List Truth}
    (hs : ∀ operand ∈ operands, operand.isScalar = true)
    (heach : operands.mapM
      (Reading.ofNumbers.truthOf names (.path document segments) place .eq) = .ok each)
    (hone : Reading.ofNumbers.truthOf names (.path document segments) place .oneOf
      (.array operands) = .ok (Truth.any each)) :
    (Target.path document segments).Uniform operands := by
  cases hall : operands.all Json.isNumber with
  | true => exact .inr (.inl (List.all_eq_true.1 hall))
  | false =>
    refine .inr (.inr fun operand hoperand => eq_false_of_ne_true fun hnumber => ?_)
    -- in the list the number is compared as text, and so equals nothing
    have hexpr : (Target.path document segments).listExpr operands =
        .jsonText document.name segments := by
      rw [Target.listExpr, if_neg (ne_true_of_eq_false hall), Target.text]
    have hlist := Reading.ofNumbers.truth_buildList (.path document segments) place hs false
      (names .oneOf)
    have hfails : Truth.any each = .fails := by
      refine Except.ok.inj (hone.symm.trans (hlist.trans ?_))
      rw [Reading.member, hexpr]
      exact congrArg Except.ok (Truth.any_eq_fails (List.forall_mem_map.2 fun _ _ => rfl))
    -- alone it is compared as a number
    have hholds : Truth.holds ∈ each := by
      obtain ⟨alone, halone, hbuild⟩ := exists_of_mapM_eq_ok heach operand hoperand
      rw [Reading.truthOf, build_of_comparison? rfl (hs operand hoperand), Target.compare,
        if_pos hnumber] at hbuild
      cases hbuild
      exact halone
    exact Truth.noConfusion (hfails.symm.trans (Truth.any_eq_holds hholds))

end
end ClauseSql
