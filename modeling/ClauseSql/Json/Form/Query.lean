import ClauseSql.Json.Form.Predicate
import ClauseSql.Query

/-!
# Queries as JSON

## What is here

* `Query.toJson` — the object of the members that a query has.  A relation that is wanted whole is
  `true`, any other is the object of its query.
-/

set_option autoImplicit false

namespace ClauseSql

/-- The object of a projection. -/
def Projection.toJson (projection : Projection) : Json :=
  .object (projection.map fun entry => (entry.1, .bool entry.2))

namespace Query

mutual

/-- The object of a query. -/
def toJson : Query → Json
  | ⟨limit, offset, order, condition, included, projection⟩ =>
    .object
      (Filter.member "limit" (limit.map Filter.countJson) ++
        Filter.member "offset" (offset.map Filter.countJson) ++
        Filter.member "orderBy" (order.map fun keys => .array (keys.map OrderKey.toJson)) ++
        Filter.member "where" (condition.map Predicate.toJson) ++
        Filter.member "with" (includedToJson included) ++
        Filter.member "columns" (projection.map Projection.toJson))

/-- The object of the relations of a query. -/
def includedToJson : Option (List (String × Related Query)) → Option Json
  | none => none
  | some entries => some (.object (entriesToMembers entries))

/-- The members for the relations of a query. -/
def entriesToMembers : List (String × Related Query) → List (String × Json)
  | [] => []
  | (name, related) :: rest => (name, relatedToJson related) :: entriesToMembers rest

/-- The value for a relation. -/
def relatedToJson : Related Query → Json
  | .all => .bool true
  | .scoped query => toJson query

end

end Query
end ClauseSql
