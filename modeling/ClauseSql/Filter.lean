import ClauseSql.Clause

/-!
# Filters

A filter says which rows of a table are wanted, in what order, with which columns and with which
related rows.  It arrives as a JSON object.

## What is here

* `Filter` — the members of a filter, all of them optional.
* `Filter.ofJson` — the filter that a value is.  A member that is null counts as absent.  An array
  stands for the members in the order of `Filter.fieldNames`.
* `Filter.toJson` — the object of the members that are present.
* `Inclusion` and `Inclusion.ofJson` — a wanted relation, with the filter of its rows.
-/

set_option autoImplicit false

namespace ClauseSql

/-- A filter. -/
structure Filter where
  /-- The clause that rows must meet. -/
  clause : Option Clause := none
  /-- The columns to select, as a list of names or a map from names to booleans. -/
  fields : Option Json := none
  /-- The order entries. -/
  order : Option (List String) := none
  /-- The relations to include. -/
  included : Option (List Json) := none
  limit : Option UInt64 := none
  offset : Option UInt64 := none
  /-- Another name of `offset`. -/
  skip : Option UInt64 := none
deriving Repr

namespace Filter

/-- The number of rows to leave out; `offset` counts before `skip`. -/
def effectiveOffset (filter : Filter) : Option UInt64 := filter.offset.or filter.skip

/-- The names of the members. -/
def fieldNames : List String := ["where", "fields", "order", "include", "limit", "offset", "skip"]

/-! ## Reading members -/

/-- A clause. -/
def readClause : Json → Except Misshapen (Option Clause)
  | .null => .ok none
  | .object clause => .ok (some clause)
  | value => .error (.wrongType value.found "a map")

/-- The strings of a list. -/
def readStrings : List Json → Except Misshapen (List String)
  | [] => .ok []
  | .string text :: rest => do
    let more ← readStrings rest
    return text :: more
  | value :: _ => .error (.wrongType value.found "a string")

/-- A list of order entries. -/
def readOrder : Json → Except Misshapen (Option (List String))
  | .null => .ok none
  | .array entries => do
    let entries ← readStrings entries
    return some entries
  | value => .error (.wrongType value.found "a sequence")

/-- A list of relations. -/
def readIncluded : Json → Except Misshapen (Option (List Json))
  | .null => .ok none
  | .array items => .ok (some items)
  | value => .error (.wrongType value.found "a sequence")

/-- A count. -/
def readCount : Json → Except Misshapen (Option UInt64)
  | .null => .ok none
  | .number (.int value) =>
    if 0 ≤ value then .ok (some (UInt64.ofNat value.toNat))
    else .error (.wrongValue (.number (.int value)) "u64")
  | value => .error (.wrongType value.found "u64")

/-- Sets a member, or tells what is wrong with its name or value. -/
def set (filter : Filter) (name : String) (value : Json) : Except Misshapen Filter :=
  match name with
  | "where" => do
    let clause ← readClause value
    return { filter with clause }
  | "fields" => .ok { filter with fields := if value matches .null then none else some value }
  | "order" => do
    let order ← readOrder value
    return { filter with order }
  | "include" => do
    let included ← readIncluded value
    return { filter with included }
  | "limit" => do
    let limit ← readCount value
    return { filter with limit }
  | "offset" => do
    let offset ← readCount value
    return { filter with offset }
  | "skip" => do
    let skip ← readCount value
    return { filter with skip }
  | name => .error (.unknownField name fieldNames)

/-- Sets members, in order. -/
def setMembers (filter : Filter) : Members → Except Misshapen Filter
  | [] => .ok filter
  | (name, value) :: rest => do
    let filter ← filter.set name value
    setMembers filter rest

/-- Sets the members of the given names to the items of an array of `length` items. -/
def setItems (length : Nat) (filter : Filter) : List String → List Json → Except Misshapen Filter
  | _, [] => .ok filter
  | [], _ :: _ => .error (.wrongLength length "fewer elements in array")
  | name :: names, value :: rest => do
    let filter ← filter.set name value
    setItems length filter names rest

/-- The filter that a value is. -/
def ofJson : Json → Except Misshapen Filter
  | .object members => setMembers {} members
  | .array items => setItems items.length {} fieldNames items
  | value => .error (.wrongType value.found "struct Filter")

/-! ## Writing members -/

/-- A member, if there is a value for it. -/
def member (name : String) (value : Option Json) : Members :=
  match value with
  | none => []
  | some value => [(name, value)]

/-- A count as a value. -/
def countJson (count : UInt64) : Json := .number (.int count.toNat)

/-- The object of the members that are present. -/
def toJson (filter : Filter) : Json :=
  .object
    (member "where" (filter.clause.map .object) ++
      member "fields" filter.fields ++
      member "order" (filter.order.map fun entries => .array (entries.map .string)) ++
      member "include" (filter.included.map .array) ++
      member "limit" (filter.limit.map countJson) ++
      member "offset" (filter.offset.map countJson) ++
      member "skip" (filter.skip.map countJson))

end Filter

/-! ## Inclusions -/

/-- A wanted relation, and the filter of its rows if one was given. -/
structure Inclusion where
  relation : String
  scope : Option Filter
deriving Repr

namespace Inclusion

/-- The members of an inclusion as they are read. -/
structure Draft where
  relation : Option String := none
  scope : Option Filter := none

/-- The names of the members. -/
def fieldNames : List String := ["relation", "scope"]

/-- The name of a relation. -/
def readRelation : Json → Except Misshapen String
  | .string name => .ok name
  | value => .error (.wrongType value.found "a string")

/-- The filter of a relation's rows. -/
def readScope : Json → Except Misshapen (Option Filter)
  | .null => .ok none
  | value => do
    let filter ← Filter.ofJson value
    return some filter

/-- Sets a member, or tells what is wrong with its name or value. -/
def Draft.set (draft : Draft) (name : String) (value : Json) : Except Misshapen Draft :=
  match name with
  | "relation" => do
    let relation ← readRelation value
    return { draft with relation := some relation }
  | "scope" => do
    let scope ← readScope value
    return { draft with scope }
  | name => .error (.unknownField name fieldNames)

/-- Sets members, in order. -/
def Draft.setMembers (draft : Draft) : Members → Except Misshapen Draft
  | [] => .ok draft
  | (name, value) :: rest => do
    let draft ← draft.set name value
    setMembers draft rest

/-- The inclusion that an object is. -/
def ofMembers (members : Members) : Except Misshapen Inclusion := do
  let draft ← Draft.setMembers {} members
  match draft.relation with
  | some relation => return ⟨relation, draft.scope⟩
  | none => throw (.missingField "relation")

/-- The inclusion that a value asks for, on a table: the name of a relation, or an object. -/
def ofJson (table : String) : Json → Except CompileError Inclusion
  | .string relation => .ok ⟨relation, none⟩
  | .object members =>
    match ofMembers members with
    | .ok inclusion => .ok inclusion
    | .error cause => .error (.inclusion table (.misshapen cause))
  | _ => .error (.inclusion table .notNameOrObject)

end Inclusion

/-! ## Filters are smaller than the values they come from -/

theorem sizeOf_lt_of_mem_members {members : List (String × Json)} {entry : String × Json}
    (h : entry ∈ members) : sizeOf entry.2 < sizeOf members := by
  have h1 := List.sizeOf_lt_of_mem h
  obtain ⟨name, value⟩ := entry
  simp only [Prod.mk.sizeOf_spec] at h1
  show sizeOf value < sizeOf members
  omega

namespace Filter

theorem sizeOf_included_set {filter result : Filter} {name : String} {value : Json} {bound : Nat}
    (hf : sizeOf filter.included ≤ bound) (hv : sizeOf value ≤ bound)
    (h : filter.set name value = .ok result) : sizeOf result.included ≤ bound := by
  unfold set at h
  split at h
  case h_4 =>
    cases value <;> simp only [readIncluded, bind, Except.bind, pure, Except.pure] at h <;>
      cases h
    · simp only [Option.none.sizeOf_spec]
      simp only [Json.null.sizeOf_spec] at hv
      exact hv
    · simp only [Option.some.sizeOf_spec]
      simp only [Json.array.sizeOf_spec] at hv
      exact hv
  case h_2 => cases h; exact hf
  case h_8 => simp at h
  all_goals
    simp only [bind, Except.bind, pure, Except.pure] at h
    split at h
    · simp at h
    · cases h; exact hf

theorem sizeOf_included_setMembers {filter result : Filter} {members : Members} {bound : Nat}
    (hf : sizeOf filter.included ≤ bound) (hm : ∀ entry ∈ members, sizeOf entry.2 ≤ bound)
    (h : filter.setMembers members = .ok result) : sizeOf result.included ≤ bound := by
  induction members generalizing filter with
  | nil => simp only [setMembers] at h; cases h; exact hf
  | cons head rest ih =>
    obtain ⟨name, value⟩ := head
    simp only [setMembers, bind, Except.bind] at h
    split at h
    · simp at h
    · rename_i next hn
      exact ih (sizeOf_included_set hf (hm (name, value) List.mem_cons_self) hn)
        (fun entry he => hm entry (List.mem_cons_of_mem _ he)) h

theorem sizeOf_included_setItems {filter result : Filter} {names : List String} {items : List Json}
    {length bound : Nat} (hf : sizeOf filter.included ≤ bound) (hm : ∀ item ∈ items, sizeOf item ≤ bound)
    (h : setItems length filter names items = .ok result) : sizeOf result.included ≤ bound := by
  induction items generalizing filter names with
  | nil => simp only [setItems] at h; cases h; exact hf
  | cons item rest ih =>
    cases names with
    | nil => simp [setItems] at h
    | cons name names =>
      simp only [setItems, bind, Except.bind] at h
      split at h
      · simp at h
      · rename_i next hn
        exact ih (sizeOf_included_set hf (hm item List.mem_cons_self) hn)
          (fun entry he => hm entry (List.mem_cons_of_mem _ he)) h

/-- The filter that a value is has a list of inclusions that is smaller than the value. -/
theorem sizeOf_included_ofJson {value : Json} {filter : Filter} (h : ofJson value = .ok filter) :
    sizeOf filter.included < sizeOf value := by
  cases value with
  | object members =>
    have hb : sizeOf filter.included ≤ sizeOf members := by
      refine @sizeOf_included_setMembers {} filter members _ ?_ (fun entry he => ?_) h
      · cases members <;> simp only [Option.none.sizeOf_spec, List.nil.sizeOf_spec,
          List.cons.sizeOf_spec] <;> omega
      · exact Nat.le_of_lt (sizeOf_lt_of_mem_members he)
    simp only [Json.object.sizeOf_spec]
    omega
  | array items =>
    have hb : sizeOf filter.included ≤ sizeOf items := by
      refine @sizeOf_included_setItems {} filter _ items _ _ ?_ (fun item he => ?_) h
      · cases items <;> simp only [Option.none.sizeOf_spec, List.nil.sizeOf_spec,
          List.cons.sizeOf_spec] <;> omega
      · exact Nat.le_of_lt (List.sizeOf_lt_of_mem he)
    simp only [Json.array.sizeOf_spec]
    omega
  | _ => simp [ofJson] at h

end Filter

namespace Inclusion

theorem sizeOf_scope_set {draft result : Draft} {name : String} {value : Json} {bound : Nat}
    (hd : ∀ filter, draft.scope = some filter → sizeOf filter.included < bound)
    (hv : sizeOf value ≤ bound) (h : draft.set name value = .ok result) :
    ∀ filter, result.scope = some filter → sizeOf filter.included < bound := by
  unfold Draft.set at h
  split at h
  · simp only [bind, Except.bind, pure, Except.pure] at h
    split at h
    · simp at h
    · cases h; exact hd
  · simp only [bind, Except.bind, pure, Except.pure] at h
    split at h
    · simp at h
    · rename_i scope hs
      cases h
      intro filter hf
      simp only at hf
      subst hf
      unfold readScope at hs
      split at hs
      · simp at hs
      · simp only [bind, Except.bind, pure, Except.pure] at hs
        split at hs
        · simp at hs
        · rename_i other ho
          cases hs
          exact Nat.lt_of_lt_of_le (Filter.sizeOf_included_ofJson ho) hv
  · simp at h

theorem sizeOf_scope_setMembers {draft result : Draft} {members : Members} {bound : Nat}
    (hd : ∀ filter, draft.scope = some filter → sizeOf filter.included < bound)
    (hm : ∀ entry ∈ members, sizeOf entry.2 ≤ bound)
    (h : draft.setMembers members = .ok result) :
    ∀ filter, result.scope = some filter → sizeOf filter.included < bound := by
  induction members generalizing draft with
  | nil => simp only [Draft.setMembers] at h; cases h; exact hd
  | cons head rest ih =>
    obtain ⟨name, value⟩ := head
    simp only [Draft.setMembers, bind, Except.bind] at h
    split at h
    · simp at h
    · rename_i next hn
      exact ih (sizeOf_scope_set hd (hm (name, value) List.mem_cons_self) hn)
        (fun entry he => hm entry (List.mem_cons_of_mem _ he)) h

/-- The scope of an inclusion has a list of inclusions that is smaller than the value it came
from. -/
theorem sizeOf_scope {table : String} {value : Json} {inclusion : Inclusion} {filter : Filter}
    (h : ofJson table value = .ok inclusion) (hs : inclusion.scope = some filter) :
    sizeOf filter.included < sizeOf value := by
  cases value with
  | string relation => simp only [ofJson] at h; cases h; simp at hs
  | object members =>
    simp only [ofJson] at h
    split at h
    · rename_i result hr
      cases h
      simp only [ofMembers, bind, Except.bind] at hr
      split at hr
      · simp at hr
      · rename_i draft hd
        split at hr
        · simp only [pure, Except.pure] at hr
          cases hr
          have := @sizeOf_scope_setMembers _ draft members (sizeOf members) (by simp)
            (fun entry he => Nat.le_of_lt (sizeOf_lt_of_mem_members he)) hd filter hs
          simp only [Json.object.sizeOf_spec]
          omega
        · simp [throw, throwThe, MonadExceptOf.throw] at hr
    · simp at h
  | _ => simp [ofJson] at h

/-- The filter of an inclusion, the empty one if none was given, has a list of inclusions that is
smaller than any list that begins with the value it came from. -/
theorem sizeOf_scopeOrEmpty {table : String} {value : Json} {inclusion : Inclusion}
    (h : ofJson table value = .ok inclusion) (rest : List Json) :
    sizeOf (inclusion.scope.getD {}).included < sizeOf (value :: rest) := by
  simp only [List.cons.sizeOf_spec]
  cases hs : inclusion.scope with
  | none =>
    simp only [Option.getD_none, Option.none.sizeOf_spec]
    cases rest <;> simp only [List.nil.sizeOf_spec, List.cons.sizeOf_spec] <;> omega
  | some filter =>
    have := sizeOf_scope h hs
    simp only [Option.getD_some]
    omega

end Inclusion
end ClauseSql
