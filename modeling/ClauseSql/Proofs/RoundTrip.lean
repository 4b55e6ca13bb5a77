import ClauseSql.Proofs.Leaves
import ClauseSql.Proofs.Terms
import ClauseSql.Proofs.Truth

/-!
# Rendering and reading

A rendered predicate is read again, with the values that were bound for its placeholders.  A group of
one is written as its term in parentheses, and a group or a list of none as a constant, so these are
read as what they are written as, which has the same truth value.  Anything else is read as it is.

## What is here

* `Expr.Accepted` and `Predicate.Accepted` — all segments of paths are accepted ones.
* `Binds` — values that contain the operands of a predicate where it counts them.
* `Predicate.normal` — a predicate as it is read, and `Predicate.isFull` — those that are read as they
  are.
* `Predicate.predicate?_term` — the term of a predicate is that predicate, as it is read.
* `Predicate.truth_normal` — reading keeps truth values.
* `Predicate.read_render` — rendering can be undone.
-/

set_option autoImplicit false

namespace ClauseSql

open Sql

/-! ## Expressions -/

namespace Expr

/-- The segments of the path in an expression. -/
def segments : Expr → List String
  | .column _ => []
  | .jsonText _ path | .jsonNative _ path => path
  | .safeNumeric inner | .jsonb inner => inner.segments

/-- All segments are accepted ones. -/
def Accepted (expr : Expr) : Prop := ∀ segment ∈ expr.segments, isSegment segment = true

instance (expr : Expr) : Decidable expr.Accepted :=
  inferInstanceAs (Decidable (∀ segment ∈ expr.segments, isSegment segment = true))

end Expr

/-- The term of an expression is that expression. -/
theorem Expr.expr?_term : ∀ {expr : Expr}, expr.Accepted → expr.term.expr? = some expr
  | .column _, _ => rfl
  | .jsonText document _, h => congrArg (Option.map (Expr.jsonText document)) (path?_arrayText h)
  | .jsonNative document _, h => congrArg (Option.map (Expr.jsonNative document)) (path?_arrayText h)
  | .safeNumeric inner, h => by
    have hinner : inner.term.expr? = some inner := expr?_term h
    rw [term, Term.expr?, hinner]
    exact if_pos ⟨rfl, rfl⟩
  | .jsonb inner, h => by
    have hinner : inner.term.expr? = some inner := expr?_term h
    exact congrArg (Option.map Expr.jsonb) hinner

/-! ## Bound values -/

/-- Operands are bound after `bound` other values. -/
def Binds (values : List Json) (bound : Nat) (operands : List Json) : Prop :=
  ∃ before after, values = before ++ (operands ++ after) ∧ before.length = bound

section
variable {values : List Json} {bound : Nat} {first second : List Json}

theorem Binds.left (h : Binds values bound (first ++ second)) : Binds values bound first := by
  obtain ⟨before, after, rfl, rfl⟩ := h
  exact ⟨before, second ++ after, by rw [List.append_assoc], rfl⟩

theorem Binds.right (h : Binds values bound (first ++ second)) :
    Binds values (bound + first.length) second := by
  obtain ⟨before, after, rfl, rfl⟩ := h
  exact ⟨before ++ first, after, by rw [List.append_assoc, List.append_assoc],
    List.length_append⟩

theorem Binds.head {value : Json} {rest : List Json} (h : Binds values bound (value :: rest)) :
    values[bound]? = some value := by
  obtain ⟨before, after, rfl, rfl⟩ := h
  rw [List.getElem?_append_right (Nat.le_refl _), Nat.sub_self]
  rfl

theorem Binds.tail {value : Json} {rest : List Json} (h : Binds values bound (value :: rest)) :
    Binds values (bound + 1) rest := by
  have happend : Binds values bound ([value] ++ rest) := h
  exact happend.right

theorem value?_placeholderTerm {value : Json} {rest : List Json}
    (h : Binds values bound (value :: rest)) :
    Term.value? values (placeholderTerm bound value) = some value := by
  rw [placeholderTerm]
  split
  · exact h.head
  · exact h.head

theorem string?_placeholderTerm {text : String} {rest : List Json}
    (h : Binds values bound (.string text :: rest)) :
    Term.string? values (placeholderTerm bound (.string text)) = some text := by
  rw [Term.string?, value?_placeholderTerm h]

theorem mapM_value?_placeholdersTerms : ∀ {bound : Nat} {operands : List Json},
    Binds values bound operands →
    (placeholdersTerms bound operands).mapM (Term.value? values) = some operands
  | _, [], _ => rfl
  | _, value :: rest, h => by
    rw [placeholdersTerms, List.mapM_cons, value?_placeholderTerm h,
      mapM_value?_placeholdersTerms h.tail]
    rfl

end

/-! ## Predicates -/

namespace Predicate

/-- The paths of all expressions are accepted. -/
def Accepted (predicate : Predicate) : Prop := ∀ expr ∈ predicate.exprs, expr.Accepted

instance (predicate : Predicate) : Decidable predicate.Accepted :=
  inferInstanceAs (Decidable (∀ expr ∈ predicate.exprs, expr.Accepted))

mutual

/-- A predicate as it is read: a group of one is its term, and what has no terms or no values is a
constant. -/
def normal : Predicate → Predicate
  | .and terms => (all (normalOfTerms terms)).getD (.constant true)
  | .or terms => (any (normalOfTerms terms)).getD (.constant false)
  | .inList _ [] negated => .constant negated
  | leaf => leaf

/-- Each predicate as it is read. -/
def normalOfTerms : List Predicate → List Predicate
  | [] => []
  | first :: rest => normal first :: normalOfTerms rest

end

theorem Accepted.expr {leaf : Predicate} (h : leaf.Accepted) (hleaf : leaf.isLeaf = true)
    {expr : Expr} (he : leaf.expr? = some expr) : expr.Accepted := by
  refine h expr ?_
  rw [exprs, leaves_of_isLeaf hleaf]
  exact List.mem_filterMap.2 ⟨leaf, List.mem_singleton_self leaf, he⟩

theorem accepted_of_mem {terms : List Predicate}
    (h : ∀ expr ∈ (leavesOfTerms terms).filterMap expr?, expr.Accepted) :
    ∀ term ∈ terms, term.Accepted := by
  intro term hterm expr hexpr
  obtain ⟨leaf, hleaf, he⟩ := List.mem_filterMap.1 hexpr
  refine h expr (List.mem_filterMap.2 ⟨leaf, ?_, he⟩)
  rw [leavesOfTerms_eq_flatMap]
  exact List.mem_flatMap.2 ⟨term, hterm, hleaf⟩

theorem exists_cons_of_predicates? {values : List Json} {first : Term} {rest : List Term}
    {predicates : List Predicate} (h : Term.predicates? values (first :: rest) = some predicates) :
    ∃ predicate more, Term.predicate? values first = some predicate ∧
      Term.predicates? values rest = some more ∧ predicates = predicate :: more := by
  obtain ⟨predicate, hfirst, h⟩ := Option.bind_eq_some_iff.1 h
  obtain ⟨more, hrest, h⟩ := Option.bind_eq_some_iff.1 h
  cases h
  exact ⟨predicate, more, hfirst, hrest, rfl⟩

/-- What joined terms are, for both ways to join them. -/
theorem predicate?_joinTerm {values : List Json} {join : List Term → Term} {empty : Bool}
    {make : List Predicate → Predicate} {joined : List Predicate → Option Predicate}
    (hjoin : ∀ terms, Term.predicate? values (join terms) = (Term.predicates? values terms).map make)
    (hnone : joined [] = none) (hone : ∀ only, joined [only] = some only)
    (hmany : ∀ first second rest, joined (first :: second :: rest) =
      some (make (first :: second :: rest)))
    {terms : List Term} {predicates : List Predicate}
    (h : Term.predicates? values terms = some predicates) :
    Term.predicate? values (joinTerm join empty terms) =
      some ((joined predicates).getD (.constant empty)) := by
  -- Nothing joined is a constant and one term is itself, so there are three cases.
  match terms with
  | [] =>
    cases h
    rw [hnone]
    rfl
  | [only] =>
    obtain ⟨predicate, _, hpredicate, hrest, rfl⟩ := exists_cons_of_predicates? h
    cases hrest
    rw [hone]
    exact hpredicate
  | first :: second :: rest =>
    have hmake := hjoin (first :: second :: rest)
    rw [h] at hmake
    obtain ⟨_, _, -, hothers, rfl⟩ := exists_cons_of_predicates? h
    obtain ⟨_, _, -, -, rfl⟩ := exists_cons_of_predicates? hothers
    rw [hmany]
    exact hmake

theorem operation?_comparison (values : List Json) (comparison : Comparison) (left right : Term) :
    Term.operation? values comparison.sql left right =
      Term.operation?.compared values left right comparison := by
  cases comparison <;> rfl

theorem operation?_regex (values : List Json) (ignoreCase : Bool) (left right : Term) :
    Term.operation? values (regexOperator ignoreCase) left right =
      Term.operation?.matched values left right ignoreCase := by
  cases ignoreCase <;> rfl

mutual

/-- The term of a predicate is that predicate, as it is read. -/
theorem predicate?_term {values : List Json} {bound : Nat} : ∀ {predicate : Predicate},
    predicate.Accepted → Binds values bound predicate.operands →
    Term.predicate? values (predicate.term bound) = some predicate.normal
  | .compare expr comparison value, h, hb => by
    have he := Expr.expr?_term (h.expr rfl rfl)
    rw [term, Term.predicate?, operation?_comparison, Term.operation?.compared, he,
      value?_placeholderTerm hb]
    rfl
  | .isNull expr, h, _ => congrArg (Option.map isNull) (Expr.expr?_term (h.expr rfl rfl))
  | .isNotNull expr, h, _ => congrArg (Option.map isNotNull) (Expr.expr?_term (h.expr rfl rfl))
  | .inList _ [] _, _, _ => rfl
  | .inList expr (value :: rest) negated, h, hb => by
    have he := Expr.expr?_term (h.expr rfl rfl)
    have hvalues : (placeholdersTerms bound (value :: rest)).mapM (Term.value? values) =
        some (value :: rest) := mapM_value?_placeholdersTerms hb
    rw [term, Term.predicate?, he, hvalues]
    rfl
  | .between expr low high, h, hb => by
    have he := Expr.expr?_term (h.expr rfl rfl)
    rw [term, Term.predicate?, he, value?_placeholderTerm hb, value?_placeholderTerm hb.tail]
    rfl
  | .like expr pattern ignoreCase negated, h, hb => by
    have he := Expr.expr?_term (h.expr rfl rfl)
    rw [term, Term.predicate?, he, string?_placeholderTerm hb]
    rfl
  | .regex expr pattern ignoreCase, h, hb => by
    have he := Expr.expr?_term (h.expr rfl rfl)
    rw [term, Term.predicate?, operation?_regex, Term.operation?.matched, he,
      string?_placeholderTerm hb]
    rfl
  | .and _, h, hb =>
    predicate?_joinTerm (fun _ => rfl) rfl (fun _ => rfl) (fun _ _ _ => rfl)
      (predicates?_termsOfTerms (accepted_of_mem h) hb)
  | .or _, h, hb =>
    predicate?_joinTerm (fun _ => rfl) rfl (fun _ => rfl) (fun _ _ _ => rfl)
      (predicates?_termsOfTerms (accepted_of_mem h) hb)
  | .constant _, _, _ => rfl

theorem predicates?_termsOfTerms {values : List Json} : ∀ {bound : Nat} {terms : List Predicate},
    (∀ term ∈ terms, term.Accepted) → Binds values bound (operandsOfTerms terms) →
    Term.predicates? values (termsOfTerms bound terms) = some (normalOfTerms terms)
  | _, [], _, _ => rfl
  | _, first :: rest, h, hb => by
    obtain ⟨hfirst, hrest⟩ := List.forall_mem_cons.1 h
    rw [termsOfTerms, Term.predicates?, predicate?_term hfirst hb.left,
      predicates?_termsOfTerms hrest hb.right]
    rfl

end

/-! ## What reading keeps -/

/-- The truth values of what reads as a constant are those of the constant. -/
structure Respects (assign : Predicate → Truth) : Prop where
  constant : ∀ value, assign (.constant value) = Truth.ofBool value
  inList_nil : ∀ expr negated, assign (.inList expr [] negated) = Truth.ofBool negated

section
variable {assign : Predicate → Truth}

theorem truth_all_getD (h : Respects assign) (terms : List Predicate) :
    truth assign ((all terms).getD (.constant true)) = Truth.all (truthOfTerms assign terms) := by
  match terms with
  | [] => exact h.constant true
  | [only] => exact (Truth.all_singleton _).symm
  | first :: second :: rest => rfl

theorem truth_any_getD (h : Respects assign) (terms : List Predicate) :
    truth assign ((any terms).getD (.constant false)) = Truth.any (truthOfTerms assign terms) := by
  match terms with
  | [] => exact h.constant false
  | [only] => exact (Truth.any_singleton _).symm
  | first :: second :: rest => rfl

mutual

/-- **Reading keeps the truth value of a predicate.** -/
theorem truth_normal (h : Respects assign) : ∀ predicate : Predicate,
    truth assign predicate.normal = truth assign predicate
  | .and terms => by
    rw [normal, truth_all_getD h, truthOfTerms_normal h terms]
    rfl
  | .or terms => by
    rw [normal, truth_any_getD h, truthOfTerms_normal h terms]
    rfl
  | .inList expr [] negated => (h.constant negated).trans (h.inList_nil expr negated).symm
  | .inList _ (_ :: _) _ | .compare .. | .isNull _ | .isNotNull _ | .between .. | .like ..
  | .regex .. | .constant _ => rfl

theorem truthOfTerms_normal (h : Respects assign) : ∀ terms : List Predicate,
    truthOfTerms assign (normalOfTerms terms) = truthOfTerms assign terms
  | [] => rfl
  | first :: rest => by
    rw [normalOfTerms, truthOfTerms, truthOfTerms, truth_normal h first, truthOfTerms_normal h rest]

end

end

mutual

/-- Whether groups have two terms or more, and lists have a value. -/
def isFull : Predicate → Bool
  | .and terms => decide (2 ≤ terms.length) && areFull terms
  | .or terms => decide (2 ≤ terms.length) && areFull terms
  | .inList _ values _ => !values.isEmpty
  | _ => true

/-- Whether all predicates are full. -/
def areFull : List Predicate → Bool
  | [] => true
  | first :: rest => isFull first && areFull rest

end

theorem all_getD_of_two_le {terms : List Predicate} (h : 2 ≤ terms.length) (empty : Predicate) :
    (all terms).getD empty = .and terms := by
  match terms with
  | [] => cases h
  | [_] => exact absurd h (Nat.not_succ_le_self 1)
  | _ :: _ :: _ => rfl

theorem any_getD_of_two_le {terms : List Predicate} (h : 2 ≤ terms.length) (empty : Predicate) :
    (any terms).getD empty = .or terms := by
  match terms with
  | [] => cases h
  | [_] => exact absurd h (Nat.not_succ_le_self 1)
  | _ :: _ :: _ => rfl

mutual

/-- **A full predicate is read as it is.** -/
theorem normal_of_isFull : ∀ {predicate : Predicate}, predicate.isFull = true →
    predicate.normal = predicate
  | .and terms, h => by
    obtain ⟨hlength, hfull⟩ := Bool.and_eq_true_iff.1 h
    rw [normal, normalOfTerms_of_areFull hfull, all_getD_of_two_le (of_decide_eq_true hlength)]
  | .or terms, h => by
    obtain ⟨hlength, hfull⟩ := Bool.and_eq_true_iff.1 h
    rw [normal, normalOfTerms_of_areFull hfull, any_getD_of_two_le (of_decide_eq_true hlength)]
  | .inList _ [] _, h => absurd h Bool.false_ne_true
  | .inList _ (_ :: _) _, _ | .compare .., _ | .isNull _, _ | .isNotNull _, _ | .between .., _
  | .like .., _ | .regex .., _ | .constant _, _ => rfl

theorem normalOfTerms_of_areFull : ∀ {terms : List Predicate}, areFull terms = true →
    normalOfTerms terms = terms
  | [], _ => rfl
  | _ :: _, h => by
    obtain ⟨hfirst, hrest⟩ := Bool.and_eq_true_iff.1 h
    rw [normalOfTerms, normal_of_isFull hfirst, normalOfTerms_of_areFull hrest]

end

/-! ## The round trip -/

/-- A rendered predicate is read, with the values that were bound for it. -/
theorem ofText?_render {predicate : Predicate} (h : predicate.Accepted)
    (bound : List Json) :
    ofText? (predicate.render bound).2 (predicate.render bound).1 = some predicate.normal := by
  have hbinds : Binds (bound ++ predicate.operands) bound.length predicate.operands :=
    ⟨bound, [], by rw [List.append_nil], rfl⟩
  rw [render, ofText?, readTerm_lex_sql, Option.bind_some]
  exact predicate?_term h hbinds

/-- **Rendering can be undone.**  A rendered predicate is read as one of the same truth value; a full
one is read as it is, so that no other full predicate has its text and values. -/
theorem read_render (bound : List Json) {predicate : Predicate} (h : predicate.Accepted) :
    ∃ read, ofText? (predicate.render bound).2 (predicate.render bound).1 = some read ∧
      (∀ assign, Respects assign → read.truth assign = predicate.truth assign) ∧
      (predicate.isFull = true → read = predicate ∧
        ∀ (before : List Json) (other : Predicate), other.Accepted → other.isFull = true →
          other.render before = predicate.render bound → other = predicate) := by
  have hread := ofText?_render h bound
  refine ⟨predicate.normal, hread, fun assign ha => truth_normal ha predicate, fun hfull => ?_⟩
  refine ⟨normal_of_isFull hfull, fun before other ho hother hrender => ?_⟩
  have hsame := ofText?_render ho before
  rw [hrender, hread] at hsame
  rw [← normal_of_isFull hother, ← normal_of_isFull hfull]
  exact (Option.some.inj hsame).symm

/-- A range beside a group, with a name that contains a quote and a cast within a case. -/
def rangeBesideGroup : Predicate :=
  .and [.between (.column "a\"b") (.number (.int 18)) (.array [.null]),
    .or [.inList (.jsonb (.column "data")) [.string "x", .object []] true,
      .compare (.safeNumeric (.jsonb (.jsonText "data" ["null", "0"]))) .gt .null]]

theorem read_render_rangeBesideGroup :
    rangeBesideGroup.Accepted ∧ rangeBesideGroup.isFull = true ∧
      (rangeBesideGroup.render [.null]).1 = "(\"a\"\"b\" BETWEEN $2 AND $3::jsonb AND " ++
        "(\"data\"::jsonb NOT IN ($4, $5::jsonb) OR " ++
        "(CASE WHEN (\"data\" #>> '\x7b\"null\",\"0\"\x7d')::jsonb ~ '^[-+]?[0-9]+(\\.[0-9]+)?$' " ++
        "THEN ((\"data\" #>> '\x7b\"null\",\"0\"\x7d')::jsonb)::numeric END) > $6))" ∧
      ofText? (rangeBesideGroup.render [.null]).2 (rangeBesideGroup.render [.null]).1 =
        some rangeBesideGroup := by
  have haccepted : rangeBesideGroup.Accepted := by decide
  obtain ⟨read, hread, -, hfull⟩ := read_render [.null] haccepted
  obtain ⟨rfl, -⟩ := hfull rfl
  exact ⟨haccepted, rfl, by decide +kernel, hread⟩

end Predicate
end ClauseSql
