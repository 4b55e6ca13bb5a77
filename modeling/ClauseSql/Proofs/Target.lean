import ClauseSql.Condition
import ClauseSql.Order
import ClauseSql.Proofs.ColumnIndex
import ClauseSql.Proofs.Database
import ClauseSql.Proofs.Steps

/-!
# What keys resolve to

A key of a clause, of an order entry or of an update is looked up before anything is made of it, so
that every expression is about a declared column, and every path in it is an accepted one.

## What is here

* `JsonPath.resolve_eq_ok_iff` — the path keys that resolve.
* `Target.exprs` — the expressions that are made for a target.
* `Target.Resolved` — what is known of the target of a key (`Target.resolved_of_resolve`).
* `Expr.Refers` — an expression about declared columns and accepted paths, which is what the
  expressions of a resolved target are (`Target.refers_of_resolve`).
* `Order.resolve_of_compile` — what rows are ordered by is made for what some key resolves to.
-/

set_option autoImplicit false

namespace ClauseSql

theorem ColumnSet.name_of_find? {columns : ColumnSet} {name : String} {column : Column}
    (h : columns.find? name = some column) : column.name = name := by
  rw [find?_eq] at h
  have hname := List.find?_some h
  exact eq_of_beq hname

/-- A path key resolves when it addresses a place in a declared column of JSON type and its segments
are accepted. -/
theorem JsonPath.resolve_eq_ok_iff {columns : ColumnSet} {stage : Stage} {key : String}
    {column : Column} {segments : List String} :
    resolve columns stage key = .ok (column, segments) ↔
      columns.find? (parse key).column = some column ∧ column.type.isJson = true ∧
        IsPath segments ∧ segments = (parse key).segments := by
  refine ⟨fun h => ?_, fun ⟨hfind, hjson, ⟨hne, hsegments⟩, hparse⟩ => ?_⟩
  · rw [resolve] at h
    split at h
    · cases h
    rename_i hbad
    split at h
    · cases h
    rename_i found hfind
    split at h
    · cases h
    rename_i hjson
    split at h
    · cases h
    rename_i hempty
    cases h
    rw [Bool.not_eq_true, Bool.not_eq_false'] at hjson
    refine ⟨hfind, hjson, ⟨fun he => hempty (by rw [he]; rfl), fun segment hs => ?_⟩, rfl⟩
    have hsegment := List.find?_eq_none.1 hbad segment hs
    rwa [Bool.not_eq_true, Bool.not_eq_false'] at hsegment
  · subst hparse
    have hbad : (parse key).badSegment? = none := by
      refine List.find?_eq_none.2 fun segment hs => ?_
      rw [hsegments segment hs]
      exact Bool.false_ne_true
    simp [resolve, hbad, hfind, hjson, hne]

/-! ## Expressions -/

/-- An expression about a declared column, with an accepted path if there is one. -/
def Expr.Refers (columns : ColumnSet) : Expr → Prop
  | .column name => ∃ column ∈ columns.columns, column.name = name
  | .jsonText document path | .jsonNative document path =>
    (∃ column ∈ columns.columns, column.name = document) ∧ IsPath path
  | .safeNumeric inner | .jsonb inner => inner.Refers columns

theorem ColumnSet.mem_of_find? {columns : ColumnSet} {name : String} {column : Column}
    (h : columns.find? name = some column) : column ∈ columns.columns := by
  rw [find?_eq] at h
  exact List.mem_of_find?_eq_some h

namespace Target

/-- The expressions that conditions and order entries on a target look at. -/
def exprs : Target → List Expr
  | .column declared => [.column declared.name, declared.comparable]
  | .path document segments =>
    [.jsonText document.name segments, native document segments, numeric document segments]

theorem text_mem_exprs (target : Target) : target.text ∈ target.exprs := by
  cases target <;> exact List.mem_cons_self

theorem ordered_mem_exprs (target : Target) : target.ordered ∈ target.exprs := by
  cases target <;> exact List.mem_cons_of_mem _ List.mem_cons_self

/-- What is known of a target that a key resolved to: its column is the declared one of its name, and
a path is an accepted one in a column of JSON type. -/
def Resolved (columns : ColumnSet) : Target → Prop
  | .column declared => columns.find? declared.name = some declared
  | .path document segments =>
    columns.find? document.name = some document ∧ document.type.isJson = true ∧ IsPath segments

theorem resolved_of_resolve {columns : ColumnSet} {stage : Stage} {key : String} {target : Target}
    (h : resolve columns stage key = .ok target) : target.Resolved columns := by
  rw [resolve] at h
  split at h
  · split at h
    · cases h
    · rename_i document segments hresolve
      cases h
      obtain ⟨hfind, hjson, hpath, -⟩ := JsonPath.resolve_eq_ok_iff.1 hresolve
      exact ⟨ColumnSet.name_of_find? hfind ▸ hfind, hjson, hpath⟩
  · split at h
    · cases h
    · rename_i declared hfind
      cases h
      exact (ColumnSet.name_of_find? hfind ▸ hfind :)

/-- Whatever is asked of a resolved key is about a declared column. -/
theorem refers_of_resolve {columns : ColumnSet} {stage : Stage} {key : String} {target : Target}
    (h : resolve columns stage key = .ok target) : ∀ expr ∈ target.exprs, expr.Refers columns := by
  have hresolved := resolved_of_resolve h
  cases target with
  | path document segments =>
    obtain ⟨hfind, -, hpath⟩ := hresolved
    have hplace : (∃ column ∈ columns.columns, column.name = document.name) ∧ IsPath segments :=
      ⟨⟨document, ColumnSet.mem_of_find? hfind, rfl⟩, hpath⟩
    have hnative : (native document segments).Refers columns := by
      rw [native]
      split <;> exact hplace
    intro expr hexpr
    simp only [exprs, List.mem_cons, List.not_mem_nil, or_false] at hexpr
    rcases hexpr with rfl | rfl | rfl
    · exact hplace
    · exact hnative
    · exact hplace
  | column declared =>
    have hcolumn : ∃ column ∈ columns.columns, column.name = declared.name :=
      ⟨declared, ColumnSet.mem_of_find? hresolved, rfl⟩
    have hcomparable : declared.comparable.Refers columns := by
      rw [Column.comparable]
      split <;> exact hcolumn
    intro expr hexpr
    simp only [exprs, List.mem_cons, List.not_mem_nil, or_false] at hexpr
    rcases hexpr with rfl | rfl
    · exact hcolumn
    · exact hcomparable

end Target

namespace Order

variable {columns : ColumnSet}

theorem resolve_of_compileEntry {entry : String} {key : OrderKey}
    (h : compileEntry columns entry = .ok (some key)) :
    ∃ name target, Target.resolve columns .order name = .ok target ∧ key.expr = target.ordered := by
  rw [compileEntry] at h
  split at h
  · cases h
  · rename_i name words _
    obtain ⟨direction, -, h⟩ := bind_eq_ok_iff.1 h
    obtain ⟨target, htarget, h⟩ := bind_eq_ok_iff.1 h
    cases h
    exact ⟨name, target, htarget, rfl⟩

/-- Rows are ordered by what the keys of the entries resolve to. -/
theorem resolve_of_compile {entries : List String} : ∀ {keys : List OrderKey},
    compile columns entries = .ok keys → ∀ key ∈ keys,
    ∃ name target, Target.resolve columns .order name = .ok target ∧ key.expr = target.ordered := by
  induction entries with
  | nil => intro keys h; cases h; exact nofun
  | cons entry rest ih =>
    intro keys h
    obtain ⟨first, hfirst, h⟩ := bind_eq_ok_iff.1 h
    obtain ⟨more, hmore, h⟩ := bind_eq_ok_iff.1 h
    cases h
    refine List.forall_mem_append.2 ⟨fun key hkey => ?_, ih hmore⟩
    rw [Option.mem_toList] at hkey
    cases hkey
    exact resolve_of_compileEntry hfirst

end Order
end ClauseSql
