import ClauseSql.Proofs.MergeText
import Mathlib.Data.List.Forall2

/-!
# The tokens of set clauses

A set clause is a list of assignments, each of a placeholder or of a merge expression to a column.
Merge expressions are made of names, strings and a few fixed words and signs, none of which is a
placeholder or the sign of an assignment, so a reader of the clause finds its assignments where they
were written.

## What is here

* `DocExpr.all_isMergePart` — what the tokens of a merge expression are.
* `Update.assignments` and `Update.lex_setClause` — the tokens of each assignment, and of the clause.
* `Sql.assigned` — the columns that tokens assign, and `Update.assigned_setClause`: those of a set
  clause are the columns assigned directly, and then those with a document.
-/

set_option autoImplicit false

namespace ClauseSql

open Sql

/-! ## Merge expressions -/

/-- Whether a token can stand in a merge expression: a name, a string, or a fixed word or sign. -/
def Sql.Token.isMergePart : Token → Bool
  | .identifier _ | .literal _ => true
  | token => token.isAmong Update.mergeWords Update.mergeSigns

/-- A merge expression is made of such tokens. -/
theorem DocExpr.all_isMergePart : ∀ expr : DocExpr, expr.tokens.all Token.isMergePart = true
  | .name _ => rfl
  | .literal _ => rfl
  | .jsonb inner => by
    rw [tokens, castTokens, List.all_append, all_isMergePart inner]
    rfl
  | .plain inner => by
    rw [tokens, plainParts, List.map_id, List.map_id, List.all_append, List.all_append,
      all_isMergePart inner]
    rfl
  | .orElse inner _ => by
    simp only [tokens, coalesceTokens, List.all_append, all_isMergePart inner]
    rfl
  | .extract document _ => by
    simp only [tokens, extractTokens, List.all_append, all_isMergePart document]
    rfl
  | .set document _ value => by
    simp only [tokens, setParts, List.map_id, List.all_append, all_isMergePart document,
      all_isMergePart value]
    rfl
  | .bind value _ body => by
    simp only [tokens, bindParts, List.map_id, List.all_append, all_isMergePart value,
      all_isMergePart body]
    rfl

namespace Update

/-! ## Assignments -/

/-- The tokens that assign the values of members, bound after `bound` others. -/
def directTokens (bound : Nat) : Members → List (List Token)
  | [] => []
  | (column, value) :: rest =>
    (.identifier column :: .symbol "=" :: placeholderTokens bound value) ::
      directTokens (bound + 1) rest

/-- The tokens that assign a document to a column. -/
def mergeTokens (entry : String × DocExpr) : List Token :=
  .identifier entry.1 :: .symbol "=" :: entry.2.tokens

/-- The tokens of each assignment of an update, whose values are bound after `bound` others. -/
def assignments (bound : Nat) (update : Update) : List (List Token) :=
  directTokens bound update.direct ++ update.documents.map mergeTokens

theorem lex_assignment {text : String} {value : List Token} (h : lex text = some value)
    (column : String) :
    lex (Sql.identifier column ++ " = " ++ text) = some (.identifier column :: .symbol "=" :: value) := by
  have hsign : lex " = " = some [.symbol "="] := rfl
  have hcolumn := lex_append (.inr rfl) (lex_identifier column) hsign
  exact lex_append (.inl (ends_append _ rfl)) hcolumn h

theorem lex_directTexts : ∀ (bound : Nat) (direct : Members),
    (directTexts bound direct).map lex = (directTokens bound direct).map some
  | _, [] => rfl
  | bound, (column, value) :: rest => by
    rw [directTexts, directTokens, List.map_cons, List.map_cons,
      lex_assignment (lex_placeholderOf bound value), lex_directTexts]

theorem lex_mergeTexts : ∀ documents : NameMap DocExpr,
    ((documents.map fun entry => (entry.1, entry.2.sql)).map mergeText).map lex =
      (documents.map mergeTokens).map some
  | [] => rfl
  | (column, expr) :: rest => by
    rw [List.map_cons, List.map_cons, List.map_cons, List.map_cons, List.map_cons, mergeText,
      mergeTokens, lex_assignment expr.lex_sql, lex_mergeTexts rest]

/-- The tokens of a set clause are those of its assignments, with commas between them. -/
theorem lex_setClause (bound : Nat) (update : Update) :
    lex (setClause bound update.direct update.merges) =
      some ([.symbol ","].intercalate (update.assignments bound)) := by
  have hcomma : lex ", " = some [.symbol ","] := rfl
  have hparts : (directTexts bound update.direct ++ update.merges.map mergeText).map lex =
      (update.assignments bound).map some := by
    rw [assignments, List.map_append, List.map_append, lex_directTexts, merges,
      lex_mergeTexts]
  exact lex_joined rfl rfl hcomma hparts

end Update

/-! ## Assigned columns -/

namespace Sql

/-- The columns that tokens assign: the names before the sign of an assignment. -/
def assigned : List Token → List String
  | .identifier name :: .symbol "=" :: rest => name :: assigned rest
  | _ :: rest => assigned rest
  | [] => []

/-- Tokens without the sign of an assignment assign nothing, unless the sign follows them. -/
theorem assigned_append {front back : List Token} (hf : ∀ token ∈ front, token ≠ .symbol "=")
    (hb : back.head? ≠ some (.symbol "=")) : assigned (front ++ back) = assigned back := by
  induction front with
  | nil => rfl
  | cons token front ih =>
    obtain ⟨-, hrest⟩ := List.forall_mem_cons.1 hf
    rw [List.cons_append, assigned, ih hrest]
    intro name rest htoken hcons
    cases front with
    | nil => exact hb (by rw [← List.nil_append back, hcons]; rfl)
    | cons next front =>
      obtain ⟨hnext, -⟩ := List.cons.inj hcons
      exact hrest next List.mem_cons_self hnext

/-- The tokens of an assignment to a column. -/
def Assigns (name : String) (tokens : List Token) : Prop :=
  ∃ value, tokens = .identifier name :: .symbol "=" :: value ∧
    ∀ token ∈ value, token ≠ .symbol "="

/-- Assignments with commas between them assign their columns, in order. -/
theorem assigned_intercalate {names : List String} {parts : List (List Token)}
    (h : List.Forall₂ Assigns names parts) : assigned ([.symbol ","].intercalate parts) = names := by
  induction h with
  | nil => rfl
  | @cons name part names parts hpart hparts ih =>
    obtain ⟨value, rfl, hvalue⟩ := hpart
    cases hparts with
    | nil =>
      have hend : assigned (value ++ []) = assigned [] := assigned_append hvalue (by simp)
      rw [List.append_nil] at hend
      rw [List.intercalate_singleton, assigned, hend, assigned]
    | cons hnext hrest =>
      rw [List.intercalate_cons_cons, List.append_assoc, List.cons_append, List.cons_append, assigned,
        assigned_append hvalue (by simp), List.singleton_append, assigned, ih]
      exact nofun

end Sql

namespace Update

theorem ne_equals_of_mem_placeholderTokens {bound : Nat} {value : Json} :
    ∀ token ∈ placeholderTokens bound value, token ≠ .symbol "=" := by
  rw [placeholderTokens]
  split <;> simp [castTokens]

theorem assigns_directTokens : ∀ (bound : Nat) (direct : Members),
    List.Forall₂ Assigns direct.names (directTokens bound direct)
  | _, [] => .nil
  | bound, (_, _) :: rest =>
    .cons ⟨_, rfl, ne_equals_of_mem_placeholderTokens⟩ (assigns_directTokens (bound + 1) rest)

theorem assigns_mergeTokens (documents : NameMap DocExpr) :
    List.Forall₂ Assigns documents.names (documents.map mergeTokens) := by
  rw [NameMap.names, List.forall₂_map_left_iff, List.forall₂_map_right_iff, List.forall₂_same]
  refine fun entry _ => ⟨entry.2.tokens, rfl, fun token htoken => ?_⟩
  rintro rfl
  have hpart := List.all_eq_true.1 entry.2.all_isMergePart _ htoken
  exact absurd hpart (by decide)

/-- A set clause assigns the direct columns in order, and then those with a document. -/
theorem assigned_setClause (bound : Nat) (update : Update) :
    ∃ tokens, lex (setClause bound update.direct update.merges) = some tokens ∧
      assigned tokens = update.direct.names ++ update.documents.names :=
  ⟨_, lex_setClause bound update, assigned_intercalate
    (List.rel_append (assigns_directTokens bound _) (assigns_mergeTokens _))⟩

end Update
end ClauseSql
