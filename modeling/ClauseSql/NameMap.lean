/-!
# Maps from names

A map from names keeps its entries in the order of the names, which is the order of their code
points and also that of their UTF-8 bytes.  Relations, projections and merge expressions are listed
in this order.

## What is here

* `NameMap` — the entries in ascending order of name, with `NameMap.find?` and `NameMap.insert`.
* `NameMap.find?_insert_self` and `NameMap.find?_insert_of_ne` — an insertion changes what is found
  under its own name and nothing else, and `NameMap.find?_insert`, which is both.
* `NameMap.mem_of_mem_insert` and `NameMap.mem_of_find?` — where entries come from.
-/

set_option autoImplicit false

namespace ClauseSql

/-- A map from names, as its entries in ascending order of name. -/
abbrev NameMap (α : Type) := List (String × α)

namespace NameMap

variable {α : Type}

/-- What is stored under a name. -/
def find? (name : String) : NameMap α → Option α
  | [] => none
  | (key, value) :: rest => if key = name then some value else find? name rest

/-- Stores a value under a name, in place of what was stored there. -/
def insert (name : String) (value : α) : NameMap α → NameMap α
  | [] => [(name, value)]
  | (key, old) :: rest =>
    if key = name then (name, value) :: rest
    else if name < key then (name, value) :: (key, old) :: rest
    else (key, old) :: insert name value rest

/-- The map of some entries, the last one of each name. -/
def ofList (entries : List (String × α)) : NameMap α :=
  entries.foldl (fun map entry => insert entry.1 entry.2 map) []

/-- The names, in order. -/
def names (map : NameMap α) : List String := map.map Prod.fst

theorem find?_insert_self (name : String) (value : α) (map : NameMap α) :
    find? name (insert name value map) = some value := by
  induction map with
  | nil => simp [insert, find?]
  | cons head rest ih =>
    obtain ⟨key, old⟩ := head
    by_cases h : key = name
    · simp [insert, find?, h]
    · by_cases hlt : name < key
      · simp [insert, find?, h, hlt]
      · simp [insert, find?, h, hlt, ih]

theorem find?_insert_of_ne {name other : String} (h : other ≠ name) (value : α)
    (map : NameMap α) : find? other (insert name value map) = find? other map := by
  induction map with
  | nil => simp [insert, find?, Ne.symm h]
  | cons head rest ih =>
    obtain ⟨key, old⟩ := head
    by_cases hk : key = name
    · subst hk; simp [insert, find?, Ne.symm h]
    · by_cases hlt : name < key
      · simp [insert, find?, hk, hlt, Ne.symm h]
      · simp only [insert, hk, hlt, if_false, find?, ih]

theorem find?_insert (name : String) (value : α) (map : NameMap α) (other : String) :
    find? other (insert name value map) = if name = other then some value else find? other map := by
  by_cases h : name = other
  · subst h
    rw [find?_insert_self, if_pos rfl]
  · rw [find?_insert_of_ne (Ne.symm h), if_neg h]

theorem mem_of_mem_insert {name : String} {value : α} {entry : String × α} {map : NameMap α}
    (h : entry ∈ insert name value map) : entry = (name, value) ∨ entry ∈ map := by
  induction map with
  | nil => exact .inl (List.mem_singleton.1 h)
  | cons head rest ih =>
    obtain ⟨key, old⟩ := head
    rw [insert] at h
    split at h
    · exact (List.mem_cons.1 h).imp_right (List.mem_cons_of_mem _)
    · split at h
      · exact List.mem_cons.1 h
      · rcases List.mem_cons.1 h with heq | hrest
        · exact .inr (heq ▸ List.mem_cons_self)
        · exact (ih hrest).imp_right (List.mem_cons_of_mem _)

theorem mem_of_find? {name : String} {value : α} {map : NameMap α}
    (h : find? name map = some value) : (name, value) ∈ map := by
  induction map with
  | nil => cases h
  | cons head rest ih =>
    obtain ⟨key, old⟩ := head
    rw [find?] at h
    split at h
    · rename_i hkey
      cases h
      exact hkey ▸ List.mem_cons_self
    · exact List.mem_cons_of_mem _ (ih h)

end NameMap
end ClauseSql
