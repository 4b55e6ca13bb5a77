import ClauseSql.Error
import ClauseSql.NameMap

/-!
# Projections

A projection names the columns to select, as a list of names or as a map from names to `true`.
Entries of the map with any other value are ignored.

## What is here

* `Projection` — the names selected, in the order of names.
* `Projection.compile` and `Projection.warnings` — the projection that a value asks for, and the
  entries it ignores.
-/

set_option autoImplicit false

namespace ClauseSql

/-- The columns to select: the names that are mapped to true. -/
abbrev Projection := NameMap Bool

namespace Projection

/-- The names of a list of names. -/
def ofList (table : String) (chosen : Projection) : List Json → Except CompileError Projection
  | [] => .ok chosen
  | .string name :: rest => ofList table (NameMap.insert name true chosen) rest
  | _ :: _ => .error (.projection table .nameNotString)

/-- The names that a map sends to true. -/
def ofMembers (chosen : Projection) : Members → Projection
  | [] => chosen
  | (name, .bool true) :: rest => ofMembers (NameMap.insert name true chosen) rest
  | _ :: rest => ofMembers chosen rest

/-- The projection that a value asks for. -/
def compile (table : String) (fields : Json) : Except CompileError Projection :=
  match fields with
  | .array names => ofList table [] names
  | .object members => .ok (ofMembers [] members)
  | _ => .error (.projection table .notListOrMap)

/-- The entries of a map that are ignored. -/
def ignored (table : String) : Members → List Warning
  | [] => []
  | (_, .bool true) :: rest => ignored table rest
  | (name, value) :: rest => .projectionEntry table name value :: ignored table rest

/-- What compiling a projection ignores. -/
def warnings (table : String) (fields : Json) : List Warning :=
  match fields with
  | .object members => ignored table members
  | _ => []

end Projection
end ClauseSql
