import ClauseSql.Proofs.Compilation

/-!
# The trail of a compilation

Compilation takes one step after the other: the columns of a table, the members of its clause one by
one and groups from the inside, the order entries, the fields, and then the inclusions, each with all
the steps of its scope.  Every step belongs to a stage and to a table, whether it fails or not.

## What is here

* `Check` — a step, and `firstFault`, the error of the first of some steps that fails.
* `entriesSteps` — the steps of a clause, and `firstFault_entriesSteps`: it fails where the first of
  them does.
* `Compiler.stepsAt` and `Compiler.includedSteps` — the steps of a filter and of its inclusions, given
  what columns each table has.
* `Compiler.stepsAt_congr` — they depend on the columns of the tables that can be met, and of no
  other.
-/

set_option autoImplicit false

namespace ClauseSql

/-! ## Steps -/

/-- The error of a result, if it is one. -/
def faultOf {α : Type} : Except CompileError α → Option CompileError
  | .ok _ => none
  | .error error => some error

/-- A step of a compilation: the stage and the table that it belongs to, and the error that it fails
with, if it fails. -/
structure Check where
  stage : Stage
  table : String
  fault? : Option CompileError

namespace Check

variable {α : Type}

/-- The step that has a result. -/
def of (stage : Stage) (table : String) (result : Except CompileError α) : Check :=
  ⟨stage, table, faultOf result⟩

/-- The step that has a result, and then the steps that the result leads to. -/
def leading (stage : Stage) (table : String) (result : Except CompileError α)
    (next : α → List Check) : List Check :=
  of stage table result ::
    match result with
    | .ok value => next value
    | .error _ => []

end Check

/-- The error of the first step that fails. -/
def firstFault (steps : List Check) : Option CompileError := steps.findSome? Check.fault?

section FirstFault

variable {α β γ : Type} {stage : Stage} {table : String}

@[simp] theorem firstFault_nil : firstFault [] = none := rfl

@[simp] theorem firstFault_append (front back : List Check) :
    firstFault (front ++ back) = (firstFault front).or (firstFault back) :=
  List.findSome?_append

@[simp] theorem firstFault_of (result : Except CompileError α) (rest : List Check) :
    firstFault (Check.of stage table result :: rest) = (faultOf result).or (firstFault rest) := by
  cases result <;> rfl

theorem firstFault_leading (result : Except CompileError α) (next : α → List Check) :
    firstFault (Check.leading stage table result next) =
      match result with
      | .ok value => firstFault (next value)
      | .error error => some error := by
  cases result <;> rfl

theorem faultOf_bind (x : Except CompileError α) (f : α → Except CompileError β) :
    faultOf (x >>= f) =
      match x with
      | .ok value => faultOf (f value)
      | .error error => some error := by
  cases x <;> rfl

@[simp] theorem faultOf_map (x : Except CompileError α) (f : α → β) :
    faultOf (x >>= fun value => pure (f value)) = faultOf x := by
  cases x <;> rfl

/-- Two results that do not depend on each other fail in this order. -/
theorem faultOf_both (x : Except CompileError α) (y : Except CompileError β) (f : α → β → γ) :
    faultOf (do
      let first ← x
      let second ← y
      return f first second) = (faultOf x).or (faultOf y) := by
  cases x with
  | error error => rfl
  | ok value => cases y <;> rfl

/-- Where the steps of a sequence fail first. -/
theorem firstFault_leading_eq {result : Except CompileError α} {next : α → List Check}
    {f : α → Except CompileError β} (h : ∀ value, firstFault (next value) = faultOf (f value)) :
    firstFault (Check.leading stage table result next) = faultOf (result >>= f) := by
  rw [firstFault_leading, faultOf_bind]
  cases result with
  | error error => rfl
  | ok value => exact h value

end FirstFault

/-! ## Clauses -/

/-- The steps of what is asked of a target: one for each operator, or one for a literal. -/
def conditionSteps (table : String) (place : Place) (target : Target) (value : Json) : List Check :=
  match operators? value with
  | some members =>
    members.map fun member =>
      Check.of .condition table (compileOperator place target member.1 member.2)
  | none =>
    [Check.of .condition table
      ((literalOperator value).build (literalOperator value).name target value place)]

/-- The steps of a member whose key is a column or a path. -/
def targetSteps (table : String) (columns : ColumnSet) (key : String) (value : Json) : List Check :=
  Check.leading .condition table (Target.resolve columns .condition key) fun target =>
    conditionSteps table ⟨.condition, columns.table, key⟩ target value

mutual

/-- The steps of the members of a clause, in order. -/
def entriesSteps (table : String) (columns : ColumnSet) : List (String × Json) → List Check
  | [] => []
  | (key, value) :: rest =>
    entrySteps table columns key value ++ entriesSteps table columns rest

/-- The steps of one member of a clause.  A group has those of its clauses. -/
def entrySteps (table : String) (columns : ColumnSet) (key : String) : Json → List Check
  | .array members =>
    match Junction.ofKey? key with
    | some _ => membersSteps table columns key members
    | none => targetSteps table columns key (.array members)
  | .object clause =>
    match Junction.ofKey? key with
    | some _ => entriesSteps table columns clause
    | none => targetSteps table columns key (.object clause)
  | value =>
    match Junction.ofKey? key with
    | some _ => [⟨.condition, table, some (.group columns.table key .notList)⟩]
    | none => targetSteps table columns key value

/-- The steps of the clauses of a group, one clause after the other. -/
def membersSteps (table : String) (columns : ColumnSet) (key : String) : List Json → List Check
  | [] => []
  | .object clause :: rest =>
    entriesSteps table columns clause ++ membersSteps table columns key rest
  | _ :: rest =>
    ⟨.condition, table, some (.group columns.table key .memberNotObject)⟩ ::
      membersSteps table columns key rest

end

section Clauses

variable {table : String} {columns : ColumnSet}

theorem firstFault_operators (place : Place) (target : Target) (members : Members) :
    firstFault (members.map fun member =>
      Check.of .condition table (compileOperator place target member.1 member.2)) =
      faultOf (compileOperators place target members) := by
  induction members with
  | nil => rfl
  | cons member rest ih =>
    rw [List.map_cons, firstFault_of, ih, compileOperators, faultOf_both]

theorem firstFault_conditionSteps (place : Place) (target : Target) (value : Json) :
    firstFault (conditionSteps table place target value) =
      faultOf (compileCondition place target value) := by
  rw [conditionSteps, compileCondition]
  cases operators? value with
  | some members => exact firstFault_operators place target members
  | none => rw [firstFault_of, faultOf_map, firstFault_nil, Option.or_none]

theorem firstFault_targetSteps (key : String) (value : Json) :
    firstFault (targetSteps table columns key value) =
      faultOf (compileTarget columns key value) :=
  firstFault_leading_eq fun target => firstFault_conditionSteps _ target value

mutual

/-- **A clause fails where the first of its steps does.** -/
theorem firstFault_entriesSteps : ∀ clause : List (String × Json),
    firstFault (entriesSteps table columns clause) = faultOf (compileEntries columns clause)
  | [] => by rw [entriesSteps, compileEntries]; rfl
  | (key, value) :: rest => by
    rw [entriesSteps, compileEntries, firstFault_append, firstFault_entrySteps key value,
      firstFault_entriesSteps rest, faultOf_both]

theorem firstFault_entrySteps (key : String) : ∀ value : Json,
    firstFault (entrySteps table columns key value) = faultOf (compileEntry columns key value)
  | .array members => by
    rw [entrySteps, compileEntry]
    cases Junction.ofKey? key with
    | some junction => exact (firstFault_membersSteps key members).trans (faultOf_map ..).symm
    | none => exact firstFault_targetSteps key _
  | .object clause => by
    rw [entrySteps, compileEntry]
    cases Junction.ofKey? key with
    | some junction => exact (firstFault_entriesSteps clause).trans (faultOf_map ..).symm
    | none => exact firstFault_targetSteps key _
  | .null | .bool _ | .number _ | .string _ => by
    rw [compileEntry_of_not_isStructured rfl]
    unfold entrySteps
    cases Junction.ofKey? key with
    | some junction => rfl
    | none => exact firstFault_targetSteps key _

theorem firstFault_membersSteps (key : String) : ∀ members : List Json,
    firstFault (membersSteps table columns key members) =
      faultOf (compileMembers columns key members)
  | [] => by rw [membersSteps, compileMembers]; rfl
  | .object clause :: rest => by
    rw [membersSteps, compileMembers, firstFault_append, firstFault_entriesSteps clause,
      firstFault_membersSteps key rest, faultOf_both]
  | .null :: _ | .bool _ :: _ | .number _ :: _ | .string _ :: _ | .array _ :: _ => rfl

end

end Clauses

/-! ## The other members of a filter -/

/-- The steps of the clause of a filter. -/
def clauseSteps (table : String) (columns : ColumnSet) : Option Clause → List Check
  | none => []
  | some clause => entriesSteps table columns clause

/-- The steps of the order of a filter: one for each entry. -/
def orderSteps (table : String) (columns : ColumnSet) : Option (List String) → List Check
  | none => []
  | some entries =>
    entries.map fun entry => Check.of .order table (Order.compileEntry columns entry)

/-- The step of the fields of a filter. -/
def fieldsSteps (table : String) : Option Json → List Check
  | none => []
  | some fields => [Check.of .fields table (Projection.compile table fields)]

/-- An order fails where the first of its entries does. -/
theorem firstFault_order {table : String} (columns : ColumnSet) (entries : List String) :
    firstFault (entries.map fun entry =>
      Check.of .order table (Order.compileEntry columns entry)) =
      faultOf (Order.compile columns entries) := by
  induction entries with
  | nil => rfl
  | cons entry rest ih =>
    rw [List.map_cons, firstFault_of, ih, Order.compile, faultOf_both]

/-! ## Inclusions -/

namespace Compiler

/-- The relation that an inclusion names. -/
def lookUp (compiler : Compiler) (table : String) (inclusion : Inclusion) :
    Except CompileError Relation :=
  match compiler.catalog.relation? table inclusion.relation with
  | none => .error (.unknownRelation table inclusion.relation)
  | some relation => .ok relation

/-- Whether the limit on the depth of inclusions is kept. -/
def allow (compiler : Compiler) (depth : Nat) (table : String) (inclusion : Inclusion) :
    Except CompileError Unit :=
  match compiler.limits.maxDepth with
  | none => .ok ()
  | some limit =>
    if limit ≤ depth then .error (.inclusionDepth table inclusion.relation limit) else .ok ()

/-- The relation is looked up before the depth is checked. -/
theorem permit_eq (compiler : Compiler) (depth : Nat) (table : String) (inclusion : Inclusion) :
    compiler.permit depth table inclusion = (do
      let relation ← compiler.lookUp table inclusion
      compiler.allow depth table inclusion
      return relation) := by
  rw [permit, lookUp, allow]
  cases compiler.catalog.relation? table inclusion.relation with
  | none => rfl
  | some relation =>
    cases compiler.limits.maxDepth with
    | none => rfl
    | some limit => by_cases h : limit ≤ depth <;> simp only [h, if_true, if_false] <;> rfl

/-- The step of hiding columns of a table, if a relation hides any: some of the fields that were asked
for must be left. -/
def hidingSteps (columnsOf : TableSchema → Except CompileError ColumnSet) (target : TableSchema)
    (fields : Option Json) : Option (List String) → List Check
  | none => []
  | some hidden =>
    match columnsOf target, requestedOf target.name fields with
    | .ok columns, .ok requested =>
      [Check.of .fields target.name (visibleColumns columns requested hidden)]
    | _, _ => []

mutual

/-- The steps of a filter on a table, `depth` inclusions below the outermost one, if `columnsOf` tells
what columns each table has. -/
def stepsAt (compiler : Compiler) (columnsOf : TableSchema → Except CompileError ColumnSet)
    (depth : Nat) (schema : TableSchema) (filter : Filter) : List Check :=
  Check.leading .schema schema.name (columnsOf schema) fun columns =>
    clauseSteps schema.name columns filter.clause ++
      (orderSteps schema.name columns filter.order ++
        (fieldsSteps schema.name filter.fields ++
          match _h : filter.included with
          | none => []
          | some items => includedSteps compiler columnsOf depth schema items))
termination_by sizeOf filter.included
decreasing_by
  rw [_h]
  simp only [Option.some.sizeOf_spec]
  omega

/-- The steps of the inclusions of a filter.  The shorthand for all rows and columns of a relation
needs no more than the relation; any other inclusion has the steps of its scope, on the target. -/
def includedSteps (compiler : Compiler)
    (columnsOf : TableSchema → Except CompileError ColumnSet) (depth : Nat) (schema : TableSchema) :
    List Json → List Check
  | [] => []
  | item :: rest =>
    (match _h : Inclusion.ofJson schema.name item with
    | .error error => [⟨.include, schema.name, some error⟩]
    | .ok inclusion =>
      ⟨.include, schema.name, none⟩ ::
        Check.leading .include schema.name (compiler.lookUp schema.name inclusion) fun relation =>
          Check.of .include schema.name (compiler.allow depth schema.name inclusion) ::
            if inclusion.scope.isNone && (compiler.hiddenBy? relation).isNone then []
            else
              Check.leading .include schema.name (compiler.targetOf schema.name inclusion relation)
                fun target =>
                  stepsAt compiler columnsOf (depth + 1) target (inclusion.scope.getD {}) ++
                    hidingSteps columnsOf target (inclusion.scope.getD {}).fields
                      (compiler.hiddenBy? relation)) ++
      includedSteps compiler columnsOf depth schema rest
termination_by items => sizeOf items
decreasing_by
  · exact Inclusion.sizeOf_scopeOrEmpty _h rest
  · simp only [List.cons.sizeOf_spec]
    omega

end

/-- The steps of what an inclusion of a relation makes. -/
def relatedSteps (compiler : Compiler)
    (columnsOf : TableSchema → Except CompileError ColumnSet) (depth : Nat) (table : String)
    (inclusion : Inclusion) (relation : Relation) : List Check :=
  if inclusion.scope.isNone && (compiler.hiddenBy? relation).isNone then []
  else
    Check.leading .include table (compiler.targetOf table inclusion relation) fun target =>
      stepsAt compiler columnsOf (depth + 1) target (inclusion.scope.getD {}) ++
        hidingSteps columnsOf target (inclusion.scope.getD {}).fields (compiler.hiddenBy? relation)

/-- The steps of one inclusion. -/
def inclusionSteps (compiler : Compiler)
    (columnsOf : TableSchema → Except CompileError ColumnSet) (depth : Nat) (table : String)
    (item : Json) : List Check :=
  Check.leading .include table (Inclusion.ofJson table item) fun inclusion =>
    Check.leading .include table (compiler.lookUp table inclusion) fun relation =>
      Check.of .include table (compiler.allow depth table inclusion) ::
        relatedSteps compiler columnsOf depth table inclusion relation

variable {compiler : Compiler} {columnsOf : TableSchema → Except CompileError ColumnSet}

theorem includedSteps_cons (depth : Nat) (schema : TableSchema) (item : Json) (rest : List Json) :
    includedSteps compiler columnsOf depth schema (item :: rest) =
      inclusionSteps compiler columnsOf depth schema.name item ++
        includedSteps compiler columnsOf depth schema rest := by
  rw [includedSteps, inclusionSteps]
  congr 1
  split <;> rename_i heq <;> rw [heq] <;> rfl

theorem stepsAt_eq (depth : Nat) (schema : TableSchema) (filter : Filter) :
    stepsAt compiler columnsOf depth schema filter =
      Check.leading .schema schema.name (columnsOf schema) fun columns =>
        clauseSteps schema.name columns filter.clause ++
          (orderSteps schema.name columns filter.order ++
            (fieldsSteps schema.name filter.fields ++
              includedSteps compiler columnsOf depth schema (filter.included.getD []))) := by
  rw [stepsAt]
  obtain ⟨clause, fields, order, included, limit, offset, skip⟩ := filter
  cases included with
  | none => simp only [Option.getD_none, includedSteps]
  | some items => rfl

/-- The steps of compiling a filter on a table. -/
def steps (compiler : Compiler) (columnsOf : TableSchema → Except CompileError ColumnSet)
    (schema : TableSchema) (filter : Filter) : List Check :=
  stepsAt compiler columnsOf 0 schema filter

/-! ### Tables that can be met -/

theorem leading_congr {α : Type} {stage : Stage} {table : String} {result : Except CompileError α}
    {next other : α → List Check} (h : ∀ value, result = .ok value → next value = other value) :
    Check.leading stage table result next = Check.leading stage table result other := by
  cases result with
  | error error => rfl
  | ok value => exact congrArg (Check.of stage table (.ok value) :: ·) (h value rfl)

section Congr

variable {columnsOf' : TableSchema → Except CompileError ColumnSet}

mutual

/-- The steps of a filter depend on the columns of its table and of those in the catalog, and of no
other. -/
theorem stepsAt_congr
    (hcatalog : ∀ {name target}, compiler.catalog.table? name = some target →
      columnsOf target = columnsOf' target) (depth : Nat) {schema : TableSchema}
    (hschema : columnsOf schema = columnsOf' schema) (filter : Filter) :
    stepsAt compiler columnsOf depth schema filter =
      stepsAt compiler columnsOf' depth schema filter := by
  rw [stepsAt_eq, stepsAt_eq, hschema]
  refine leading_congr fun columns _ => ?_
  congr 3
  match hincluded : filter.included with
  | none => rw [Option.getD_none, includedSteps, includedSteps]
  | some items => exact includedSteps_congr hcatalog depth schema items
termination_by sizeOf filter.included
decreasing_by
  rw [hincluded, Option.some.sizeOf_spec]
  omega

theorem includedSteps_congr
    (hcatalog : ∀ {name target}, compiler.catalog.table? name = some target →
      columnsOf target = columnsOf' target) (depth : Nat) (schema : TableSchema)
    (items : List Json) :
    includedSteps compiler columnsOf depth schema items =
      includedSteps compiler columnsOf' depth schema items := by
  match items with
  | [] => rw [includedSteps, includedSteps]
  | item :: rest =>
    rw [includedSteps_cons, includedSteps_cons, includedSteps_congr hcatalog depth schema rest]
    congr 1
    refine leading_congr fun inclusion hinclusion => leading_congr fun relation _ => ?_
    congr 1
    rw [relatedSteps, relatedSteps]
    split
    · rfl
    · refine leading_congr fun target htarget => ?_
      have hcolumns := hcatalog (table?_of_targetOf htarget)
      rw [stepsAt_congr hcatalog (depth + 1) hcolumns (inclusion.scope.getD {})]
      congr 1
      cases compiler.hiddenBy? relation with
      | none => rfl
      | some hidden => simp only [hidingSteps, hcolumns]
termination_by sizeOf items
decreasing_by
  · rw [List.cons.sizeOf_spec]
    omega
  · exact Inclusion.sizeOf_scopeOrEmpty hinclusion rest

end

end Congr

end Compiler

end ClauseSql
