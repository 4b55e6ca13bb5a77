import ClauseSql.Proofs.Trail

/-!
# What errors blame

An error is one of a stage, and names a table.  Whatever fails while a scope is compiled is blamed on
the target of the relation, at the stage that fails; whatever is wrong with the inclusion itself is
blamed on the table that it includes from.

## What is here

* `Blames` — what a computation fails with is an error of a stage, and names a table.
* `Check.Places` — the error of a step tells the stage and the table that the step belongs to.
* `Naming` — tables have columns that are named after them.
* `Compiler.places_stepsAt` — every step of a filter tells its place.
-/

set_option autoImplicit false

namespace ClauseSql

/-! ## Errors -/

/-- The table that an error names. -/
def CompileError.table? : CompileError → Option String
  | .unknownColumn _ table _ | .emptySchema table | .direction table .. | .unknownRelation table _
  | .inclusion table _ | .inclusionDepth table .. | .group table .. | .projection table _
  | .conflict table _ => some table
  | .misplacedOperator place .. | .operandCount place .. | .operand place .. | .pathSegment place ..
  | .notJson place .. | .emptyPath place => some place.table
  | .text .. | .oversized .. => none

/-- Whatever a computation fails with is an error of this stage, and names this table. -/
def Blames {α : Type} (stage : Stage) (table : String) (result : Except CompileError α) : Prop :=
  ∀ error, result = .error error → error.stage = stage ∧ error.table? = some table

/-- If a step fails, its error is one of its stage, and names its table. -/
def Check.Places (check : Check) : Prop :=
  ∀ error, check.fault? = some error → error.stage = check.stage ∧ error.table? = some check.table

section Blames

variable {α β : Type} {stage : Stage} {table : String}

theorem blames_ok (value : α) : Blames stage table (.ok value) := fun _ h => nomatch h

theorem blames_error {error : CompileError} (hstage : error.stage = stage)
    (htable : error.table? = some table) : Blames stage table (.error error : Except _ α) := by
  rintro _ ⟨⟩
  exact ⟨hstage, htable⟩

theorem Blames.bind {x : Except CompileError α} {f : α → Except CompileError β}
    (hx : Blames stage table x) (hf : ∀ value, Blames stage table (f value)) :
    Blames stage table (x >>= f) := by
  cases x with
  | error error =>
    rintro _ ⟨⟩
    exact hx error rfl
  | ok value => exact hf value

theorem Blames.places {result : Except CompileError α} (h : Blames stage table result) :
    (Check.of stage table result).Places := by
  intro error herror
  cases result with
  | error error =>
    cases herror
    exact h error rfl
  | ok value => cases herror

/-- A step and what it leads to tell their places if each of them does. -/
theorem places_leading {result : Except CompileError α} {next : α → List Check}
    (h : Blames stage table result)
    (hnext : ∀ value, result = .ok value → ∀ check ∈ next value, check.Places) :
    ∀ check ∈ Check.leading stage table result next, check.Places := by
  refine List.forall_mem_cons.2 ⟨h.places, ?_⟩
  cases result with
  | error error => exact List.forall_mem_nil _
  | ok value => exact hnext value rfl

/-! ### Where errors arise -/

theorem JsonPath.blames_resolve (columns : ColumnSet) (stage : Stage) (key : String) :
    Blames stage columns.table (JsonPath.resolve columns stage key) := by
  rw [JsonPath.resolve]
  split
  · exact blames_error rfl rfl
  · split
    · exact blames_error rfl rfl
    · split
      · exact blames_error rfl rfl
      · split
        · exact blames_error rfl rfl
        · exact blames_ok _

theorem Target.blames_resolve (columns : ColumnSet) (stage : Stage) (key : String) :
    Blames stage columns.table (Target.resolve columns stage key) := by
  rw [Target.resolve]
  split
  · have hpath := JsonPath.blames_resolve columns stage key
    split
    · rename_i error herror
      obtain ⟨hstage, htable⟩ := hpath error herror
      exact blames_error hstage htable
    · exact blames_ok _
  · split
    · exact blames_error rfl rfl
    · exact blames_ok _

/-- An operator blames the key that it stands under. -/
theorem Operator.blames_build (operator : Operator) (name : String) (target : Target)
    (operand : Json) (place : Place) :
    Blames place.stage place.table (operator.build name target operand place) := by
  unfold build buildComparison buildLike buildRegex buildList buildRange
  -- Whatever is wrong with an operand, the error names the place.
  split <;> (repeat' split) <;> first | exact blames_ok _ | exact blames_error rfl rfl

theorem blames_compileOperator (place : Place) (target : Target) (name : String) (operand : Json) :
    Blames place.stage place.table (compileOperator place target name operand) := by
  rw [compileOperator]
  split
  · exact blames_error rfl rfl
  · rename_i operator _
    exact operator.blames_build name target operand place

theorem Order.blames_compileEntry (columns : ColumnSet) (entry : String) :
    Blames .order columns.table (Order.compileEntry columns entry) := by
  rw [Order.compileEntry]
  split
  · exact blames_ok _
  · refine Blames.bind ?_ fun direction =>
      (Target.blames_resolve columns .order _).bind fun target => blames_ok _
    rw [Order.compileDirection.eq_def]
    split
    · exact blames_ok _
    · split
      · exact blames_ok _
      · exact blames_error rfl rfl
    · exact blames_error rfl rfl

theorem Projection.blames_ofList (table : String) (names : List Json) :
    ∀ chosen : Projection, Blames .fields table (Projection.ofList table chosen names) := by
  induction names with
  | nil => intro chosen; exact blames_ok _
  | cons name rest ih =>
    intro chosen
    cases name with
    | string name => exact ih _
    | _ => exact blames_error rfl rfl

theorem Projection.blames_compile (table : String) (fields : Json) :
    Blames .fields table (Projection.compile table fields) := by
  cases fields with
  | array names => exact Projection.blames_ofList table names []
  | object members => exact blames_ok _
  | _ => exact blames_error rfl rfl

theorem blames_visibleColumns (columns : ColumnSet) (requested : Option Projection)
    (hidden : List String) :
    Blames .fields columns.table (visibleColumns columns requested hidden) := by
  rw [visibleColumns.eq_def]
  split
  · split
    · exact blames_error rfl rfl
    · exact blames_ok _
  · exact blames_ok _

theorem Inclusion.blames_ofJson (table : String) (item : Json) :
    Blames .include table (Inclusion.ofJson table item) := by
  cases item with
  | string relation => exact blames_ok _
  | object members =>
    rw [Inclusion.ofJson]
    split
    · exact blames_ok _
    · exact blames_error rfl rfl
  | _ => exact blames_error rfl rfl

namespace Compiler

variable (compiler : Compiler) (depth : Nat) (inclusion : Inclusion)

theorem blames_lookUp : Blames .include table (compiler.lookUp table inclusion) := by
  rw [lookUp]
  split
  · exact blames_error rfl rfl
  · exact blames_ok _

theorem blames_allow : Blames .include table (compiler.allow depth table inclusion) := by
  rw [allow]
  split
  · exact blames_ok _
  · split
    · exact blames_error rfl rfl
    · exact blames_ok _

theorem blames_targetOf (relation : Relation) :
    Blames .include table (compiler.targetOf table inclusion relation) := by
  rw [targetOf]
  split
  · exact blames_error rfl rfl
  · exact blames_ok _

end Compiler

end Blames

/-! ### Steps tell their places -/

section Clauses

variable {columns : ColumnSet}

theorem places_targetSteps (key : String) (value : Json) :
    ∀ check ∈ targetSteps columns.table columns key value, check.Places := by
  refine places_leading (Target.blames_resolve columns .condition key) fun target _ => ?_
  rw [conditionSteps]
  split
  · rintro _ hcheck
    obtain ⟨member, -, rfl⟩ := List.mem_map.1 hcheck
    exact (blames_compileOperator ⟨.condition, columns.table, key⟩ target member.1 member.2).places
  · refine List.forall_mem_singleton.2 (Blames.places ?_)
    exact (literalOperator value).blames_build _ target value ⟨.condition, columns.table, key⟩

theorem places_group (key : String) (cause : GroupFault) :
    Check.Places ⟨.condition, columns.table, some (.group columns.table key cause)⟩ := by
  rintro _ ⟨⟩
  exact ⟨rfl, rfl⟩

mutual

theorem places_entriesSteps : ∀ clause : List (String × Json),
    ∀ check ∈ entriesSteps columns.table columns clause, check.Places
  | [] => by rw [entriesSteps]; exact List.forall_mem_nil _
  | (key, value) :: rest => by
    rw [entriesSteps]
    exact List.forall_mem_append.2 ⟨places_entrySteps key value, places_entriesSteps rest⟩

theorem places_entrySteps (key : String) : ∀ value : Json,
    ∀ check ∈ entrySteps columns.table columns key value, check.Places
  | .array members => by
    rw [entrySteps]
    split
    · exact places_membersSteps key members
    · exact places_targetSteps key _
  | .object clause => by
    rw [entrySteps]
    split
    · exact places_entriesSteps clause
    · exact places_targetSteps key _
  | .null | .bool _ | .number _ | .string _ => by
    unfold entrySteps
    split
    · exact List.forall_mem_singleton.2 (places_group key _)
    · exact places_targetSteps key _

theorem places_membersSteps (key : String) : ∀ members : List Json,
    ∀ check ∈ membersSteps columns.table columns key members, check.Places
  | [] => by rw [membersSteps]; exact List.forall_mem_nil _
  | .object clause :: rest => by
    rw [membersSteps]
    exact List.forall_mem_append.2 ⟨places_entriesSteps clause, places_membersSteps key rest⟩
  | .null :: rest | .bool _ :: rest | .number _ :: rest | .string _ :: rest | .array _ :: rest =>
    List.forall_mem_cons.2 ⟨places_group key _, places_membersSteps key rest⟩

end

end Clauses

/-- Columns that are known under the names of their tables.  Only tables that declare no column have
none. -/
structure Naming (columnsOf : TableSchema → Except CompileError ColumnSet) : Prop where
  table : ∀ {schema columns}, columnsOf schema = .ok columns → columns.table = schema.name
  error : ∀ {schema error}, columnsOf schema = .error error → error = .emptySchema schema.name

theorem Naming.blames {columnsOf : TableSchema → Except CompileError ColumnSet}
    (h : Naming columnsOf) (schema : TableSchema) :
    Blames .schema schema.name (columnsOf schema) := by
  intro error herror
  cases h.error herror
  exact ⟨rfl, rfl⟩

namespace Compiler

variable {compiler : Compiler} {columnsOf : TableSchema → Except CompileError ColumnSet}

theorem places_hidingSteps (h : Naming columnsOf) (target : TableSchema) (fields : Option Json)
    (hidden : Option (List String)) :
    ∀ check ∈ hidingSteps columnsOf target fields hidden, check.Places := by
  cases hidden with
  | none => exact List.forall_mem_nil _
  | some hidden =>
    rw [hidingSteps]
    split
    · rename_i columns requested hcolumns _
      refine List.forall_mem_singleton.2 (Blames.places ?_)
      rw [← h.table hcolumns]
      exact blames_visibleColumns columns requested hidden
    · exact List.forall_mem_nil _

mutual

/-- **Every step tells its place.**  Whatever fails in the scope of an inclusion, and also when its
columns are hidden, is blamed on the target; whatever fails about the inclusion itself on the table that
is included from. -/
theorem places_stepsAt (h : Naming columnsOf) (depth : Nat) (schema : TableSchema)
    (filter : Filter) : ∀ check ∈ stepsAt compiler columnsOf depth schema filter, check.Places := by
  rw [stepsAt_eq]
  refine places_leading (h.blames schema) fun columns hcolumns => ?_
  rw [← h.table hcolumns]
  refine List.forall_mem_append.2 ⟨?_, List.forall_mem_append.2 ⟨?_, List.forall_mem_append.2 ⟨?_, ?_⟩⟩⟩
  · cases filter.clause with
    | none => exact List.forall_mem_nil _
    | some clause => exact places_entriesSteps clause
  · cases filter.order with
    | none => exact List.forall_mem_nil _
    | some entries =>
      rintro _ hcheck
      obtain ⟨entry, -, rfl⟩ := List.mem_map.1 hcheck
      exact (Order.blames_compileEntry columns entry).places
  · cases filter.fields with
    | none => exact List.forall_mem_nil _
    | some fields =>
      exact List.forall_mem_singleton.2 (Projection.blames_compile columns.table fields).places
  · match hincluded : filter.included with
    | none => rw [Option.getD_none, includedSteps]; exact List.forall_mem_nil _
    | some items => exact places_includedSteps h depth schema items
termination_by sizeOf filter.included
decreasing_by
  rw [hincluded, Option.some.sizeOf_spec]
  omega

theorem places_includedSteps (h : Naming columnsOf) (depth : Nat) (schema : TableSchema)
    (items : List Json) :
    ∀ check ∈ includedSteps compiler columnsOf depth schema items, check.Places := by
  match items with
  | [] => rw [includedSteps]; exact List.forall_mem_nil _
  | item :: rest =>
    rw [includedSteps_cons]
    refine List.forall_mem_append.2 ⟨?_, places_includedSteps h depth schema rest⟩
    refine places_leading (Inclusion.blames_ofJson _ item) fun inclusion hinclusion => ?_
    refine places_leading (blames_lookUp compiler inclusion) fun relation _ => ?_
    refine List.forall_mem_cons.2 ⟨(blames_allow compiler depth inclusion).places, ?_⟩
    rw [relatedSteps]
    split
    · exact List.forall_mem_nil _
    · refine places_leading (blames_targetOf compiler inclusion relation) fun target _ => ?_
      refine List.forall_mem_append.2 ⟨?_, places_hidingSteps h target _ _⟩
      exact places_stepsAt h (depth + 1) target (inclusion.scope.getD {})
termination_by sizeOf items
decreasing_by
  · exact Inclusion.sizeOf_scopeOrEmpty hinclusion rest
  · rw [List.cons.sizeOf_spec]
    omega

end

end Compiler
end ClauseSql
