import ClauseSql.Predicate

/-!
# Truth values

A condition on a row is true, false or unknown: a comparison with NULL is neither of the first two.
Conjunction and disjunction are those of Kleene.

## What is here

* `Truth` — the three values, with `Truth.and` and `Truth.or`, and `Truth.all` and `Truth.any` for
  lists.
* `Predicate.truth` — the truth value of a predicate, once every leaf has been given one.  A leaf is
  a predicate that is no group (`Predicate.isLeaf`).
* `Predicate.truthOfJoined` — the same for what joining predicates makes, where no predicate at all
  asks for nothing and so holds.
* `truthOfJoined_all` and `truthOfJoined_any` — joining predicates joins their truth values.  For
  `Predicate.any` this needs one predicate: nothing joined holds, but the empty disjunction fails.
-/

set_option autoImplicit false

namespace ClauseSql

/-! ## Three values -/

/-- A truth value. -/
inductive Truth where
  | holds
  | fails
  | unknown
deriving DecidableEq, Repr

namespace Truth

/-- The truth value of a constant. -/
def ofBool (value : Bool) : Truth := if value then .holds else .fails

/-- Conjunction: false as soon as one side is. -/
def and : Truth → Truth → Truth
  | .fails, _ => .fails
  | .holds, right => right
  | .unknown, .fails => .fails
  | .unknown, _ => .unknown

/-- Disjunction: true as soon as one side is. -/
def or : Truth → Truth → Truth
  | .holds, _ => .holds
  | .fails, right => right
  | .unknown, .holds => .holds
  | .unknown, _ => .unknown

/-- The conjunction of a list. -/
def all (values : List Truth) : Truth := values.foldr and .holds

/-- The disjunction of a list. -/
def any (values : List Truth) : Truth := values.foldr or .fails

@[simp] theorem and_holds (a : Truth) : a.and holds = a := by cases a <;> rfl

@[simp] theorem or_fails (a : Truth) : a.or fails = a := by cases a <;> rfl

theorem and_assoc (a b c : Truth) : (a.and b).and c = a.and (b.and c) := by
  cases a <;> cases b <;> cases c <;> rfl

@[simp] theorem all_cons (a : Truth) (rest : List Truth) : all (a :: rest) = a.and (all rest) := rfl

theorem all_append (front back : List Truth) :
    all (front ++ back) = (all front).and (all back) := by
  induction front with
  | nil => rfl
  | cons a rest ih => rw [List.cons_append, all_cons, all_cons, ih, and_assoc]

theorem any_cons (a : Truth) (rest : List Truth) : any (a :: rest) = a.or (any rest) := rfl

theorem any_eq_fails {values : List Truth} (h : ∀ value ∈ values, value = fails) :
    any values = fails := by
  induction values with
  | nil => rfl
  | cons a rest ih =>
    obtain ⟨ha, hrest⟩ := List.forall_mem_cons.1 h
    rw [any_cons, ih hrest, or_fails, ha]

theorem any_eq_holds {values : List Truth} (h : holds ∈ values) : any values = holds := by
  induction values with
  | nil => cases h
  | cons a rest ih =>
    rw [any_cons]
    rcases List.mem_cons.1 h with rfl | hrest
    · rfl
    · rw [ih hrest]
      cases a <;> rfl

theorem all_singleton (a : Truth) : all [a] = a := and_holds a

theorem any_singleton (a : Truth) : any [a] = a := or_fails a

end Truth

/-! ## Predicates -/

namespace Predicate

/-- Whether a predicate is no group. -/
def isLeaf : Predicate → Bool
  | .and _ | .or _ => false
  | _ => true

mutual

/-- The truth value of a predicate whose leaves have the truth values of `assign`. -/
def truth (assign : Predicate → Truth) : Predicate → Truth
  | .and terms => Truth.all (truthOfTerms assign terms)
  | .or terms => Truth.any (truthOfTerms assign terms)
  | leaf => assign leaf

/-- The truth values of the terms. -/
def truthOfTerms (assign : Predicate → Truth) : List Predicate → List Truth
  | [] => []
  | term :: rest => truth assign term :: truthOfTerms assign rest

end

variable (assign : Predicate → Truth)

theorem truthOfTerms_eq_map (terms : List Predicate) :
    truthOfTerms assign terms = terms.map (truth assign) := by
  induction terms with
  | nil => rw [truthOfTerms, List.map_nil]
  | cons term rest ih => rw [truthOfTerms, List.map_cons, ih]

theorem truth_and (terms : List Predicate) :
    truth assign (.and terms) = Truth.all (terms.map (truth assign)) := by
  rw [truth, truthOfTerms_eq_map]

theorem truth_or (terms : List Predicate) :
    truth assign (.or terms) = Truth.any (terms.map (truth assign)) := by
  rw [truth, truthOfTerms_eq_map]

theorem truth_of_isLeaf {leaf : Predicate} (h : leaf.isLeaf = true) :
    truth assign leaf = assign leaf := by
  cases leaf with
  | and terms => exact absurd h Bool.false_ne_true
  | or terms => exact absurd h Bool.false_ne_true
  | _ => rfl

/-! ## Joined predicates -/

/-- The truth value of what joining predicates makes. -/
def truthOfJoined : Option Predicate → Truth
  | none => .holds
  | some predicate => truth assign predicate

theorem truthOfJoined_all (terms : List Predicate) :
    truthOfJoined assign (all terms) = Truth.all (terms.map (truth assign)) := by
  match terms with
  | [] => rfl
  | [only] => exact (Truth.all_singleton _).symm
  | first :: second :: rest => exact truth_and assign _

theorem truthOfJoined_any {terms : List Predicate} (h : terms ≠ []) :
    truthOfJoined assign (any terms) = Truth.any (terms.map (truth assign)) := by
  match terms with
  | [] => exact absurd rfl h
  | [only] => exact (Truth.any_singleton _).symm
  | first :: second :: rest => exact truth_or assign _

theorem all_eq_none_iff {terms : List Predicate} : all terms = none ↔ terms = [] := by
  match terms with
  | [] => simp [all]
  | [only] => simp [all]
  | first :: second :: rest => simp [all]

theorem any_eq_none_iff {terms : List Predicate} : any terms = none ↔ terms = [] := by
  match terms with
  | [] => simp [any]
  | [only] => simp [any]
  | first :: second :: rest => simp [any]

end Predicate
end ClauseSql
