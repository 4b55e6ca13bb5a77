import ClauseSql.Clause
import ClauseSql.Proofs.Steps
import ClauseSql.Sql.Predicate

/-!
# The shape of a clause

The shape of a JSON value is the value without its scalars: names, lengths and kinds stay, and every
boolean, number and string is replaced by one fixed scalar of its kind.  Two values have the same
shape when nothing but the scalars in them differs.

The SQL of a clause depends on the shape of the clause alone, so no operand reaches the text.

## What is here

* `Json.shape` and `Predicate.shape` — values and predicates without their scalars.
* `Predicate.sql_shape` and `Predicate.length_operands_shape` — a predicate's text, and how many
  values it binds, are those of its shape.
* `compileEntries_shape` — a clause and its shape compile to predicates of one shape, or fail alike.
* `Clause.sql_of_shape_eq` — clauses of one shape fail alike or make the same text.
-/

set_option autoImplicit false

namespace ClauseSql

/-! ## Values without their scalars -/

namespace Json

mutual

/-- A value with every scalar replaced by one of its kind. -/
def shape : Json → Json
  | .null => .null
  | .bool _ => .bool false
  | .number _ => .number (.int 0)
  | .string _ => .string ""
  | .array items => .array (shapeItems items)
  | .object members => .object (shapeMembers members)

/-- The shape of each item. -/
def shapeItems : List Json → List Json
  | [] => []
  | item :: rest => shape item :: shapeItems rest

/-- The members with the shape of each value. -/
def shapeMembers : List (String × Json) → List (String × Json)
  | [] => []
  | (name, value) :: rest => (name, shape value) :: shapeMembers rest

end

theorem shapeItems_eq_map (items : List Json) : shapeItems items = items.map shape := by
  induction items with
  | nil => rw [shapeItems, List.map_nil]
  | cons item rest ih => rw [shapeItems, List.map_cons, ih]

mutual

@[simp] theorem shape_shape : ∀ value : Json, value.shape.shape = value.shape
  | .null | .bool _ | .number _ | .string _ => rfl
  | .array items => congrArg Json.array (shapeItems_shapeItems items)
  | .object members => congrArg Json.object (shapeMembers_shapeMembers members)

theorem shapeItems_shapeItems : ∀ items : List Json,
    shapeItems (shapeItems items) = shapeItems items
  | [] => rfl
  | item :: rest => by
    rw [shapeItems, shapeItems, shape_shape item, shapeItems_shapeItems rest]

theorem shapeMembers_shapeMembers : ∀ members : List (String × Json),
    shapeMembers (shapeMembers members) = shapeMembers members
  | [] => rfl
  | (name, value) :: rest => by
    rw [shapeMembers, shapeMembers, shape_shape value, shapeMembers_shapeMembers rest]

end

@[simp] theorem isScalar_shape (value : Json) : value.shape.isScalar = value.isScalar := by
  cases value <;> rfl

@[simp] theorem isStructured_shape (value : Json) :
    value.shape.isStructured = value.isStructured := by
  cases value <;> rfl

@[simp] theorem isNumber_shape (value : Json) : value.shape.isNumber = value.isNumber := by
  cases value <;> rfl

@[simp] theorem shape_asText_shape (value : Json) :
    value.shape.asText.shape = value.asText.shape := by
  cases value <;> rfl

@[simp] theorem all_isScalar_shape (values : List Json) :
    (values.map shape).all isScalar = values.all isScalar := by
  rw [List.all_map]
  exact congrArg (values.all ·) (funext isScalar_shape)

@[simp] theorem all_isNumber_shape (values : List Json) :
    (values.map shape).all isNumber = values.all isNumber := by
  rw [List.all_map]
  exact congrArg (values.all ·) (funext isNumber_shape)

end Json

/-! ## Predicates without their scalars -/

namespace Predicate

mutual

/-- A predicate with the shapes of its operands. -/
def shape : Predicate → Predicate
  | .compare expr comparison value => .compare expr comparison value.shape
  | .isNull expr => .isNull expr
  | .isNotNull expr => .isNotNull expr
  | .inList expr values negated => .inList expr (values.map Json.shape) negated
  | .between expr low high => .between expr low.shape high.shape
  | .like expr _ ignoreCase negated => .like expr "" ignoreCase negated
  | .regex expr _ ignoreCase => .regex expr "" ignoreCase
  | .and terms => .and (shapeTerms terms)
  | .or terms => .or (shapeTerms terms)
  | .constant value => .constant value

/-- The shape of each term. -/
def shapeTerms : List Predicate → List Predicate
  | [] => []
  | term :: rest => shape term :: shapeTerms rest

end

theorem shapeTerms_eq_map (terms : List Predicate) : shapeTerms terms = terms.map shape := by
  induction terms with
  | nil => rw [shapeTerms, List.map_nil]
  | cons term rest ih => rw [shapeTerms, List.map_cons, ih]

/-! ### The text of a shape -/

theorem placeholderOf_shape (bound : Nat) (value : Json) :
    placeholderOf bound value.shape = placeholderOf bound value := by
  rw [placeholderOf, placeholderOf, Json.isStructured_shape]

theorem placeholdersOf_map_shape (values : List Json) : ∀ bound : Nat,
    placeholdersOf bound (values.map Json.shape) = placeholdersOf bound values := by
  induction values with
  | nil => intro bound; rfl
  | cons value rest ih =>
    intro bound
    rw [List.map_cons, placeholdersOf, placeholdersOf, placeholderOf_shape, ih]

mutual

theorem length_operands_shape : ∀ predicate : Predicate,
    predicate.shape.operands.length = predicate.operands.length
  | .compare .. | .isNull _ | .isNotNull _ | .between .. | .like .. | .regex .. | .constant _ => rfl
  | .inList .. => List.length_map Json.shape
  | .and terms | .or terms => length_operandsOfTerms_shape terms

theorem length_operandsOfTerms_shape : ∀ terms : List Predicate,
    (operandsOfTerms (shapeTerms terms)).length = (operandsOfTerms terms).length
  | [] => rfl
  | term :: rest => by
    rw [shapeTerms, operandsOfTerms, operandsOfTerms, List.length_append, List.length_append,
      length_operands_shape term, length_operandsOfTerms_shape rest]

end

mutual

/-- **The text of a predicate is that of its shape.** -/
theorem sql_shape (bound : Nat) : ∀ predicate : Predicate,
    predicate.shape.sql bound = predicate.sql bound
  | .compare expr comparison value => by rw [shape, sql, sql, placeholderOf_shape]
  | .isNull _ | .isNotNull _ | .constant _ | .inList _ [] _ => rfl
  | .inList expr (value :: rest) negated => by
    rw [shape, List.map_cons, sql, sql, ← List.map_cons, placeholdersOf_map_shape]
  | .between expr low high => by rw [shape, sql, sql, placeholderOf_shape, placeholderOf_shape]
  | .like .. => rfl
  | .regex .. => rfl
  | .and terms => congrArg (joinTerms "AND" true) (sqlOfTerms_shape bound terms)
  | .or terms => congrArg (joinTerms "OR" false) (sqlOfTerms_shape bound terms)

theorem sqlOfTerms_shape (bound : Nat) : ∀ terms : List Predicate,
    sqlOfTerms bound (shapeTerms terms) = sqlOfTerms bound terms
  | [] => rfl
  | term :: rest => by
    rw [shapeTerms, sqlOfTerms, sqlOfTerms, length_operands_shape, sql_shape bound term,
      sqlOfTerms_shape _ rest]

end

end Predicate

/-! ## Operators -/

theorem Target.compare_shape (target : Target) (comparison : Comparison) (operand : Json) :
    (target.compare comparison operand.shape).shape =
      (target.compare comparison operand).shape := by
  cases target with
  | column declared =>
    rw [Target.compare, Target.compare, Json.isStructured_shape]
    split <;> simp only [Predicate.shape, Json.shape_shape]
  | path document segments =>
    rw [Target.compare, Target.compare, Json.isNumber_shape, Json.isStructured_shape]
    split
    · simp only [Predicate.shape, Json.shape_shape]
    · split <;> simp only [Predicate.shape, Json.shape_shape, Json.shape_asText_shape]

theorem Target.listExpr_shape (target : Target) (operands : List Json) :
    target.listExpr (operands.map Json.shape) = target.listExpr operands := by
  cases target with
  | column declared => rfl
  | path document segments => rw [Target.listExpr, Target.listExpr, Json.all_isNumber_shape]

theorem Target.listValue_shape (target : Target) (operands : List Json) (operand : Json) :
    (target.listValue (operands.map Json.shape) operand.shape).shape =
      (target.listValue operands operand).shape := by
  cases target with
  | column declared => exact operand.shape_shape
  | path document segments =>
    rw [Target.listValue, Target.listValue, Json.all_isNumber_shape]
    split
    · exact operand.shape_shape
    · exact operand.shape_asText_shape

theorem Target.map_listValue_shape (target : Target) (operands values : List Json) :
    ((values.map Json.shape).map (target.listValue (operands.map Json.shape))).map Json.shape =
      (values.map (target.listValue operands)).map Json.shape := by
  rw [List.map_map, List.map_map, List.map_map]
  exact List.map_congr_left fun value _ => target.listValue_shape operands value

namespace Operator

variable (name : String) (target : Target) (operand : Json) (place : Place)

theorem buildEquality_shape (negated : Bool) :
    (buildEquality negated target operand.shape).shape =
      (buildEquality negated target operand).shape := by
  cases operand with
  | null => rfl
  | _ => exact target.compare_shape _ _

theorem buildComparison_shape (comparison : Comparison) :
    (buildComparison comparison name target operand.shape place).map Predicate.shape =
      (buildComparison comparison name target operand place).map Predicate.shape := by
  rw [buildComparison, buildComparison, Json.isScalar_shape]
  split
  · exact congrArg Except.ok (target.compare_shape _ _)
  · rfl

theorem buildLike_shape (ignoreCase negated : Bool) :
    (buildLike ignoreCase negated name target operand.shape place).map Predicate.shape =
      (buildLike ignoreCase negated name target operand place).map Predicate.shape := by
  cases operand <;> rfl

theorem buildRegex_shape (ignoreCase : Bool) :
    (buildRegex ignoreCase name target operand.shape place).map Predicate.shape =
      (buildRegex ignoreCase name target operand place).map Predicate.shape := by
  cases operand <;> rfl

theorem listValues?_shape :
    listValues? operand.shape = (listValues? operand).map (List.map Json.shape) := by
  cases operand with
  | array items => exact congrArg some (Json.shapeItems_eq_map items)
  | _ => rfl

theorem buildList_shape (negated : Bool) :
    (buildList negated name target operand.shape place).map Predicate.shape =
      (buildList negated name target operand place).map Predicate.shape := by
  rw [buildList, buildList, listValues?_shape]
  match listValues? operand with
  | none => rfl
  | some [] => rfl
  | some (value :: rest) =>
    simp only [Option.map_some, List.map_cons]
    rw [← List.map_cons, Json.all_isScalar_shape]
    split
    · refine congrArg Except.ok ?_
      rw [Predicate.shape, Predicate.shape, Target.listExpr_shape]
      exact congrArg (Predicate.inList _ · negated) (target.map_listValue_shape _ (value :: rest))
    · rfl

theorem length_shapeItems (items : List Json) : (Json.shapeItems items).length = items.length := by
  rw [Json.shapeItems_eq_map, List.length_map]

theorem buildRange_shape :
    (buildRange name target operand.shape place).map Predicate.shape =
      (buildRange name target operand place).map Predicate.shape := by
  match operand with
  | .array [low, high] =>
    have hexpr := target.listExpr_shape [low, high]
    have hlow := target.listValue_shape [low, high] low
    have hhigh := target.listValue_shape [low, high] high
    simp only [List.map_cons, List.map_nil] at hexpr hlow hhigh
    simp only [Json.shape, Json.shapeItems, buildRange, Json.isScalar_shape]
    split
    · simp only [Except.map, Predicate.shape, hexpr, hlow, hhigh]
    · rfl
  | .array (_ :: _ :: _ :: rest) =>
    exact congrArg
      (fun n => Except.error (CompileError.operandCount place name rangeOperands (n + 3)))
      (length_shapeItems rest)
  | .array [] | .array [_] | .null | .bool _ | .number _ | .string _ | .object _ => rfl

/-- An operator builds predicates of one shape from operands of one shape, or refuses them alike. -/
theorem build_shape (operator : Operator) :
    (operator.build name target operand.shape place).map Predicate.shape =
      (operator.build name target operand place).map Predicate.shape := by
  cases operator with
  | eq | is | ne | isNot => exact congrArg Except.ok (buildEquality_shape target operand _)
  | gt | gte | lt | lte => exact buildComparison_shape name target operand place _
  | like | notLike | ilike | notIlike => exact buildLike_shape name target operand place _ _
  | regexp | iregexp => exact buildRegex_shape name target operand place _
  | oneOf | noneOf => exact buildList_shape name target operand place _
  | between => exact buildRange_shape name target operand place
  | and | or => rfl

end Operator

/-! ## Conditions -/

section
variable (place : Place) (target : Target)

theorem compileOperators_shape : ∀ members : List (String × Json),
    (compileOperators place target (Json.shapeMembers members)).map (List.map Predicate.shape) =
      (compileOperators place target members).map (List.map Predicate.shape)
  | [] => rfl
  | (name, operand) :: rest => by
    refine map_bind_congr (h := Predicate.shape) ?_ fun first first' hf =>
      map_bind_congr (compileOperators_shape rest) fun more more' hm => ?_
    · rw [compileOperator, compileOperator]
      split
      · rfl
      · exact Operator.build_shape name target operand place _
    · exact congrArg Except.ok (by rw [List.map_cons, List.map_cons, hf, hm])

theorem all_isName_shapeMembers (members : List (String × Json)) :
    ((Json.shapeMembers members).all fun entry => Operator.isName entry.1) =
      members.all fun entry => Operator.isName entry.1 := by
  induction members with
  | nil => rfl
  | cons entry rest ih => rw [Json.shapeMembers, List.all_cons, List.all_cons, ih]

/-- A value is an object of operators just when its shape is. -/
theorem operators?_shape (value : Json) :
    operators? value.shape = (operators? value).map Json.shapeMembers := by
  match value with
  | .object (entry :: rest) =>
    simp only [Json.shape, Json.shapeMembers, operators?]
    rw [← Json.shapeMembers, all_isName_shapeMembers]
    split <;> rfl
  | .object [] | .null | .bool _ | .number _ | .string _ | .array _ => rfl

theorem literalOperator_shape (value : Json) :
    literalOperator value.shape = literalOperator value := by
  cases value <;> rfl

theorem compileCondition_shape (value : Json) :
    (compileCondition place target value.shape).map (List.map Predicate.shape) =
      (compileCondition place target value).map (List.map Predicate.shape) := by
  rw [compileCondition, compileCondition, operators?_shape]
  cases operators? value with
  | some members => exact compileOperators_shape place target members
  | none =>
    refine map_bind_congr (h := Predicate.shape) ?_ fun leaf leaf' hl => ?_
    · rw [literalOperator_shape]
      exact Operator.build_shape _ target value place _
    · exact congrArg Except.ok (by rw [List.map_singleton, List.map_singleton, hl])

end

/-! ## Clauses -/

section
variable (columns : ColumnSet)

theorem compileTarget_shape (key : String) (value : Json) :
    (compileTarget columns key value.shape).map (List.map Predicate.shape) =
      (compileTarget columns key value).map (List.map Predicate.shape) := by
  rw [compileTarget, compileTarget]
  refine map_bind_congr (h := id) rfl fun target target' ht => ?_
  cases ht
  exact compileCondition_shape _ target value

theorem all_map_shape (terms : List Predicate) :
    Predicate.all (terms.map Predicate.shape) = (Predicate.all terms).map Predicate.shape := by
  match terms with
  | [] | [_] => rfl
  | first :: second :: rest =>
    exact congrArg (some <| Predicate.and ·)
      (Predicate.shapeTerms_eq_map (first :: second :: rest)).symm

theorem any_map_shape (terms : List Predicate) :
    Predicate.any (terms.map Predicate.shape) = (Predicate.any terms).map Predicate.shape := by
  match terms with
  | [] | [_] => rfl
  | first :: second :: rest =>
    exact congrArg (some <| Predicate.or ·)
      (Predicate.shapeTerms_eq_map (first :: second :: rest)).symm

theorem join_map_shape (junction : Junction) (terms : List Predicate) :
    junction.join (terms.map Predicate.shape) = (junction.join terms).map Predicate.shape := by
  cases junction with
  | and => exact all_map_shape terms
  | or => exact any_map_shape terms

theorem all_toList_congr {terms terms' : List Predicate}
    (h : terms.map Predicate.shape = terms'.map Predicate.shape) :
    (Predicate.all terms).toList.map Predicate.shape =
      (Predicate.all terms').toList.map Predicate.shape := by
  rw [← Option.toList_map, ← Option.toList_map, ← all_map_shape, h, all_map_shape]

theorem join_toList_congr (junction : Junction) {terms terms' : List Predicate}
    (h : terms.map Predicate.shape = terms'.map Predicate.shape) :
    (junction.join terms).toList.map Predicate.shape =
      (junction.join terms').toList.map Predicate.shape := by
  rw [← Option.toList_map, ← Option.toList_map, ← join_map_shape, h, join_map_shape]

theorem compileEntry_shape_of_scalar (key : String) {value : Json}
    (hv : value.isStructured = false) :
    (compileEntry columns key value.shape).map (List.map Predicate.shape) =
      (compileEntry columns key value).map (List.map Predicate.shape) := by
  rw [compileEntry_of_not_isStructured hv,
    compileEntry_of_not_isStructured (value.isStructured_shape.trans hv)]
  cases Junction.ofKey? key with
  | none => exact compileTarget_shape columns key value
  | some junction => rfl

mutual

theorem compileEntries_shape : ∀ clause : List (String × Json),
    (compileEntries columns (Json.shapeMembers clause)).map (List.map Predicate.shape) =
      (compileEntries columns clause).map (List.map Predicate.shape)
  | [] => rfl
  | (key, value) :: rest => by
    rw [Json.shapeMembers, compileEntries, compileEntries]
    refine map_bind_congr (compileEntry_shape key value) fun here here' hh =>
      map_bind_congr (compileEntries_shape rest) fun more more' hm => ?_
    exact congrArg Except.ok (by rw [List.map_append, List.map_append, hh, hm])

theorem compileEntry_shape (key : String) : ∀ value : Json,
    (compileEntry columns key value.shape).map (List.map Predicate.shape) =
      (compileEntry columns key value).map (List.map Predicate.shape)
  | .array members => by
    rw [Json.shape, compileEntry, compileEntry]
    cases Junction.ofKey? key with
    | none => exact compileTarget_shape columns key (.array members)
    | some junction =>
      refine map_bind_congr (compileMembers_shape key members) fun terms terms' ht => ?_
      exact congrArg Except.ok (join_toList_congr junction ht)
  | .object clause => by
    rw [Json.shape, compileEntry, compileEntry]
    cases Junction.ofKey? key with
    | none => exact compileTarget_shape columns key (.object clause)
    | some junction =>
      refine map_bind_congr (compileEntries_shape clause) fun terms terms' ht => ?_
      exact congrArg Except.ok (join_toList_congr junction (all_toList_congr ht))
  | .null | .bool _ | .number _ | .string _ => compileEntry_shape_of_scalar columns key rfl

theorem compileMembers_shape (key : String) : ∀ members : List Json,
    (compileMembers columns key (Json.shapeItems members)).map (List.map Predicate.shape) =
      (compileMembers columns key members).map (List.map Predicate.shape)
  | [] => rfl
  | .object clause :: rest => by
    rw [Json.shapeItems, Json.shape, compileMembers, compileMembers]
    refine map_bind_congr (compileEntries_shape clause) fun terms terms' ht =>
      map_bind_congr (compileMembers_shape key rest) fun more more' hm => ?_
    exact congrArg Except.ok (by rw [List.map_append, List.map_append, all_toList_congr ht, hm])
  | .null :: _ | .bool _ :: _ | .number _ :: _ | .string _ :: _ | .array _ :: _ => rfl

end

end

theorem Clause.compile_shape (columns : ColumnSet) (clause : Clause) :
    (Clause.compile columns (Json.shapeMembers clause)).map (Option.map Predicate.shape) =
      (clause.compile columns).map (Option.map Predicate.shape) := by
  refine map_bind_congr (compileEntries_shape columns clause) fun terms terms' ht => ?_
  exact congrArg Except.ok (by rw [← all_map_shape, ht, all_map_shape])

/-- What a database sees of a predicate, except for the values themselves: the text and how many
values are bound, once the values of `bound` are. -/
def Predicate.outline (bound : List Json) (predicate : Predicate) : String × Nat :=
  ((predicate.render bound).1, (predicate.render bound).2.length)

theorem Predicate.outline_shape (bound : List Json) (predicate : Predicate) :
    predicate.shape.outline bound = predicate.outline bound := by
  rw [outline, outline, render, render, sql_shape, List.length_append, List.length_append,
    length_operands_shape]

theorem Predicate.outline_congr {bound bound' : List Json} (hb : bound.length = bound'.length) :
    outline bound = outline bound' := by
  funext predicate
  rw [outline, outline, render, render, hb, List.length_append, List.length_append, hb]

/-- **No operand reaches the text.**  Two clauses that differ in nothing but their scalars fail with
one error, or compile both, to predicates of the same text that bind equally many values. -/
theorem Clause.sql_of_shape_eq {columns : ColumnSet} {clause other : Clause}
    (h : Json.shapeMembers clause = Json.shapeMembers other) {bound bound' : List Json}
    (hb : bound.length = bound'.length) :
    (∃ error, clause.compile columns = .error error ∧ other.compile columns = .error error) ∨
      ∃ p q : Option Predicate, clause.compile columns = .ok p ∧ other.compile columns = .ok q ∧
        p.map (Predicate.outline bound) = q.map (Predicate.outline bound') := by
  have hshape : (clause.compile columns).map (Option.map Predicate.shape) =
      (other.compile columns).map (Option.map Predicate.shape) := by
    rw [← Clause.compile_shape, h, Clause.compile_shape]
  cases hc : clause.compile columns with
  | error error =>
    cases ho : other.compile columns with
    | error error' =>
      rw [hc, ho] at hshape
      cases hshape
      exact Or.inl ⟨error, rfl, rfl⟩
    | ok q => rw [hc, ho] at hshape; cases hshape
  | ok p =>
    cases ho : other.compile columns with
    | error error' => rw [hc, ho] at hshape; cases hshape
    | ok q =>
      rw [hc, ho] at hshape
      refine Or.inr ⟨p, q, rfl, rfl, ?_⟩
      have houtline : Predicate.outline bound' ∘ Predicate.shape = Predicate.outline bound' :=
        funext fun predicate => predicate.outline_shape bound'
      rw [Predicate.outline_congr hb, ← houtline, ← Option.map_map, ← Option.map_map,
        Except.ok.inj hshape]

/-- A text that a column is compared with, and a number that it is below. -/
def twoComparisons (text : String) (number : Number) : Clause :=
  [("a", .string text), ("or", .array [.object [("a", .object [("lt", .number number)])]])]

theorem Clause.sql_of_shape_eq_twoComparisons : ∃ p q : Option Predicate,
    (twoComparisons "x" (.int 1)).compile ⟨"t", [⟨"a", .text⟩]⟩ = .ok p ∧
    (twoComparisons "' OR 1 = 1 --" (.int (-20))).compile ⟨"t", [⟨"a", .text⟩]⟩ = .ok q ∧
    p.map (Predicate.outline [.null]) = q.map (Predicate.outline [.bool true]) := by
  have hshape : Json.shapeMembers (twoComparisons "x" (.int 1)) =
      Json.shapeMembers (twoComparisons "' OR 1 = 1 --" (.int (-20))) := rfl
  have hbound : [Json.null].length = [Json.bool true].length := rfl
  refine (Clause.sql_of_shape_eq hshape hbound).resolve_left ?_
  rintro ⟨error, h, -⟩
  cases h

end ClauseSql
