import ClauseSql.Proofs.Lexer
import ClauseSql.Sql.Predicate

/-!
# The tokens of conditions

Every text that is put together from expressions, operators and placeholders has the tokens of its
parts, in order.

## What is here

* `Expr.tokens` and `Predicate.tokens` — the tokens of an expression, and of a predicate whose
  operands are bound after some number of other values.
* `Expr.lex_sql` and `Predicate.lex_sql` — these are the tokens of their texts.
-/

set_option autoImplicit false

namespace ClauseSql

namespace Sql

/-! ## Pieces -/

theorem lex_joined {separator : String} {between : List Token} (hb : breaks separator = true)
    (he : ends separator = true) (hs : lex separator = some between) :
    ∀ {texts : List String} {parts : List (List Token)}, texts.map lex = parts.map some →
    lex (joined separator texts) = some (between.intercalate parts)
  | [], [], _ => rfl
  | [], _ :: _, h => by cases h
  | _ :: _, [], h => by cases h
  | [_], [_], h => (List.cons.inj h).1.trans (congrArg some List.intercalate_singleton.symm)
  | [_], _ :: _ :: _, h => by cases (List.cons.inj h).2
  | _ :: _ :: _, [_], h => by cases (List.cons.inj h).2
  | first :: second :: rest, part :: next :: parts, h => by
    obtain ⟨hfirst, hrest⟩ := List.cons.inj h
    rw [joined, List.intercalate_cons_cons]
    exact lex_append (.inl (ends_append first he)) (lex_append (.inr hb) hfirst hs)
      (lex_joined hb he hs hrest)

section
variable {left operator right : String} {first second third : List Token}

/-- An operator with a blank on both sides. -/
theorem lex_infix (hl : lex left = some first) (ho : lex operator = some second)
    (hr : lex right = some third) :
    lex (left ++ " " ++ operator ++ " " ++ right) = some (first ++ second ++ third) := by
  have hblank : lex " " = some [] := rfl
  have hleft : lex (left ++ " ") = some (first ++ []) := lex_append (.inr rfl) hl hblank
  have hop : lex (left ++ " " ++ operator) = some (first ++ [] ++ second) :=
    lex_append (.inl (ends_append left rfl)) hleft ho
  have hblank : lex (left ++ " " ++ operator ++ " ") = some (first ++ [] ++ second ++ []) :=
    lex_append (.inr rfl) hop hblank
  rw [List.append_nil, List.append_nil] at hblank
  exact lex_append (.inl (ends_append _ rfl)) hblank hr

end

theorem lex_pathLiteral (path : List String) :
    lex (pathLiteral path) = some [.literal (arrayText path)] :=
  lex_literal (arrayText path)

/-- The tokens of a place in a document that an operator reads. -/
def extractTokens (operator : String) (document : List Token) (path : List String) : List Token :=
  [.symbol "("] ++ document ++ [.symbol operator] ++ [.literal (arrayText path)] ++ [.symbol ")"]

/-- The tokens of a cast. -/
def castTokens (expr : List Token) (type : String) : List Token :=
  expr ++ [.symbol "::", .word type]

/-- The tokens of the number that a text spells. -/
def safeNumericTokens (text : List Token) : List Token :=
  [.symbol "(", .word "CASE", .word "WHEN"] ++ text ++ [.symbol "~"] ++ [.literal numericPattern] ++
    [.word "THEN", .symbol "("] ++ text ++
    [.symbol ")", .symbol "::", .word "numeric", .word "END", .symbol ")"]

section
variable {document : String} {tokens : List Token}

theorem lex_extractWith {middle operator : String} (hm : lex middle = some [.symbol operator])
    (hb : breaks middle = true) (he : ends middle = true) (h : lex document = some tokens)
    (path : List String) :
    lex ("(" ++ document ++ middle ++ pathLiteral path ++ ")") =
      some (extractTokens operator tokens path) := by
  have hopen : lex ("(" ++ document) = some ([.symbol "("] ++ tokens) :=
    lex_append (.inl rfl) rfl h
  have hoperator := lex_append (.inr hb) hopen hm
  have hpath := lex_append (.inl (ends_append _ he)) hoperator (lex_pathLiteral path)
  exact lex_append (.inr rfl) hpath (rfl : lex ")" = some [.symbol ")"])

theorem lex_extractText (h : lex document = some tokens) (path : List String) :
    lex (extractText document path) = some (extractTokens "#>>" tokens path) :=
  lex_extractWith rfl rfl rfl h path

theorem lex_extract (h : lex document = some tokens) (path : List String) :
    lex (extract document path) = some (extractTokens "#>" tokens path) :=
  lex_extractWith rfl rfl rfl h path

theorem lex_jsonb (h : lex document = some tokens) :
    lex (jsonb document) = some (castTokens tokens "jsonb") :=
  lex_append (.inr rfl) h (rfl : lex "::jsonb" = some [.symbol "::", .word "jsonb"])

theorem lex_safeNumeric (h : lex document = some tokens) :
    lex (safeNumeric document) = some (safeNumericTokens tokens) := by
  have hwhen : lex ("(CASE WHEN " ++ document) =
      some ([.symbol "(", .word "CASE", .word "WHEN"] ++ tokens) :=
    lex_append (.inl rfl) rfl h
  have hmatch := lex_append (.inr rfl) hwhen (rfl : lex " ~ " = some [.symbol "~"])
  have hpattern := lex_append (.inl (ends_append _ rfl)) hmatch (lex_literal numericPattern)
  have hthen := lex_append (.inr rfl) hpattern
    (rfl : lex " THEN (" = some [.word "THEN", .symbol "("])
  have htext := lex_append (.inl (ends_append _ rfl)) hthen h
  exact lex_append (.inr rfl) htext (rfl : lex ")::numeric END)" =
    some [.symbol ")", .symbol "::", .word "numeric", .word "END", .symbol ")"])

end

end Sql

open Sql

/-! ## Expressions -/

/-- The tokens of an expression. -/
def Expr.tokens : Expr → List Token
  | .column name => [.identifier name]
  | .jsonText document path => extractTokens "#>>" [.identifier document] path
  | .jsonNative document path => extractTokens "#>" [.identifier document] path
  | .safeNumeric inner => safeNumericTokens inner.tokens
  | .jsonb inner => castTokens inner.tokens "jsonb"

theorem Expr.lex_sql : ∀ expr : Expr, lex expr.sql = some expr.tokens
  | .column name => lex_identifier name
  | .jsonText document path => lex_extractText (lex_identifier document) path
  | .jsonNative document path => lex_extract (lex_identifier document) path
  | .safeNumeric inner => lex_safeNumeric inner.lex_sql
  | .jsonb inner => lex_jsonb inner.lex_sql

/-- The tokens of the placeholder of a value. -/
def placeholderTokens (bound : Nat) (value : Json) : List Token :=
  if value.isStructured then castTokens [.parameter (bound + 1)] "jsonb" else [.parameter (bound + 1)]

theorem lex_placeholderOf (bound : Nat) (value : Json) :
    lex (placeholderOf bound value) = some (placeholderTokens bound value) := by
  have hplaceholder := lex_placeholder (bound + 1)
  rw [placeholderOf, placeholderTokens]
  split
  · exact lex_jsonb hplaceholder
  · exact hplaceholder

/-- The tokens of the placeholder of each value. -/
def placeholdersTokens (bound : Nat) : List Json → List (List Token)
  | [] => []
  | value :: rest => placeholderTokens bound value :: placeholdersTokens (bound + 1) rest

theorem lex_placeholdersOf : ∀ (bound : Nat) (values : List Json),
    (placeholdersOf bound values).map lex = (placeholdersTokens bound values).map some
  | _, [] => rfl
  | bound, value :: rest => by
    rw [placeholdersOf, placeholdersTokens, List.map_cons, List.map_cons, lex_placeholderOf,
      lex_placeholdersOf]

/-! ## Operators -/

/-- The tokens of the operator of a pattern match. -/
def likeTokens : Bool → Bool → List Token
  | false, false => [.word "LIKE"]
  | false, true => [.word "NOT", .word "LIKE"]
  | true, false => [.word "ILIKE"]
  | true, true => [.word "NOT", .word "ILIKE"]

theorem lex_likeOperator (ignoreCase negated : Bool) :
    lex (likeOperator ignoreCase negated) = some (likeTokens ignoreCase negated) := by
  cases ignoreCase <;> cases negated <;> rfl

theorem lex_regexOperator (ignoreCase : Bool) :
    lex (regexOperator ignoreCase) = some [.symbol (regexOperator ignoreCase)] := by
  cases ignoreCase <;> rfl

theorem lex_comparison (comparison : Comparison) :
    lex comparison.sql = some [.symbol comparison.sql] := by
  cases comparison <;> rfl

theorem lex_constant (value : Bool) : lex (constant value) = some [.word (Sql.constant value)] := by
  cases value <;> rfl

/-- The tokens that begin a list. -/
def listTokens (negated : Bool) : List Token :=
  if negated then [.word "NOT", .word "IN", .symbol "("] else [.word "IN", .symbol "("]

/-! ## Predicates -/

namespace Predicate

/-- The tokens of terms joined by a word. -/
def joinTokens (word : String) (empty : Bool) : List (List Token) → List Token
  | [] => [.word (Sql.constant empty)]
  | term :: rest => [.symbol "("] ++ [.word word].intercalate (term :: rest) ++ [.symbol ")"]

mutual

/-- The tokens of a predicate whose operands are bound after `bound` other values. -/
def tokens (bound : Nat) : Predicate → List Token
  | .compare expr comparison value =>
    expr.tokens ++ [.symbol comparison.sql] ++ placeholderTokens bound value
  | .isNull expr => expr.tokens ++ [.word "IS", .word "NULL"]
  | .isNotNull expr => expr.tokens ++ [.word "IS", .word "NOT", .word "NULL"]
  | .inList _ [] negated => [.word (Sql.constant negated)]
  | .inList expr (value :: rest) negated =>
    expr.tokens ++ listTokens negated ++
      [.symbol ","].intercalate (placeholdersTokens bound (value :: rest)) ++ [.symbol ")"]
  | .between expr low high =>
    expr.tokens ++ [.word "BETWEEN"] ++ placeholderTokens bound low ++ [.word "AND"] ++
      placeholderTokens (bound + 1) high
  | .like expr pattern ignoreCase negated =>
    expr.tokens ++ likeTokens ignoreCase negated ++ placeholderTokens bound (.string pattern)
  | .regex expr pattern ignoreCase =>
    expr.tokens ++ [.symbol (regexOperator ignoreCase)] ++ placeholderTokens bound (.string pattern)
  | .and terms => joinTokens "AND" true (tokensOfTerms bound terms)
  | .or terms => joinTokens "OR" false (tokensOfTerms bound terms)
  | .constant value => [.word (Sql.constant value)]

/-- The tokens of each term. -/
def tokensOfTerms (bound : Nat) : List Predicate → List (List Token)
  | [] => []
  | term :: rest => tokens bound term :: tokensOfTerms (bound + (operands term).length) rest

end

theorem lex_inList (expr : Expr) (negated : Bool) (bound : Nat) (value : Json) (rest : List Json) :
    lex (sql bound (.inList expr (value :: rest) negated)) =
      some (tokens bound (.inList expr (value :: rest) negated)) := by
  have hlist : lex (joined ", " (placeholdersOf bound (value :: rest))) =
      some ([.symbol ","].intercalate (placeholdersTokens bound (value :: rest))) :=
    lex_joined rfl rfl rfl (lex_placeholdersOf bound (value :: rest))
  have hword : lex (if negated then " NOT IN (" else " IN (") = some (listTokens negated) := by
    cases negated <;> rfl
  have hbreaks : breaks (if negated then " NOT IN (" else " IN (") = true := by
    cases negated <;> rfl
  have hends : ends (if negated then " NOT IN (" else " IN (") = true := by
    cases negated <;> rfl
  rw [sql, tokens]
  have hopen := lex_append (.inr hbreaks) expr.lex_sql hword
  have hvalues := lex_append (.inl (ends_append _ hends)) hopen hlist
  exact lex_append (.inr rfl) hvalues (rfl : lex ")" = some [.symbol ")"])

theorem lex_between (expr : Expr) (bound : Nat) (low high : Json) :
    lex (sql bound (.between expr low high)) = some (tokens bound (.between expr low high)) := by
  rw [sql, tokens]
  have hword := lex_append (.inr rfl) expr.lex_sql (rfl : lex " BETWEEN " = some [.word "BETWEEN"])
  have hlow := lex_append (.inl (ends_append _ rfl)) hword (lex_placeholderOf bound low)
  have hand := lex_append (.inr rfl) hlow (rfl : lex " AND " = some [.word "AND"])
  exact lex_append (.inl (ends_append _ rfl)) hand (lex_placeholderOf (bound + 1) high)

theorem lex_joinTerms {word : String} (empty : Bool)
    (hword : lex (" " ++ word ++ " ") = some [.word word]) {texts : List String}
    {parts : List (List Token)} (h : texts.map lex = parts.map some) :
    lex (joinTerms word empty texts) = some (joinTokens word empty parts) := by
  cases texts with
  | nil =>
    cases parts with
    | nil => exact lex_constant empty
    | cons part parts => cases h
  | cons text texts =>
    cases parts with
    | nil => cases h
    | cons part parts =>
      have hbreaks : breaks (" " ++ word ++ " ") = true := by
        rw [breaks, String.toList_append, String.toList_append]
        rfl
      have hjoined := lex_joined hbreaks (ends_append _ rfl) hword h
      have hopen := lex_append (.inl rfl) (rfl : lex "(" = some [.symbol "("]) hjoined
      exact lex_append (.inr rfl) hopen (rfl : lex ")" = some [.symbol ")"])

mutual

/-- **The tokens of a predicate are those of its text.** -/
theorem lex_sql (bound : Nat) : ∀ predicate : Predicate,
    lex (predicate.sql bound) = some (predicate.tokens bound)
  | .compare expr comparison value =>
    lex_infix expr.lex_sql (lex_comparison comparison) (lex_placeholderOf bound value)
  | .isNull expr =>
    lex_append (.inr rfl) expr.lex_sql (rfl : lex " IS NULL" = some [.word "IS", .word "NULL"])
  | .isNotNull expr =>
    lex_append (.inr rfl) expr.lex_sql
      (rfl : lex " IS NOT NULL" = some [.word "IS", .word "NOT", .word "NULL"])
  | .inList _ [] negated => lex_constant negated
  | .inList expr (value :: rest) negated => lex_inList expr negated bound value rest
  | .between expr low high => lex_between expr bound low high
  | .like expr pattern ignoreCase negated =>
    lex_infix expr.lex_sql (lex_likeOperator ignoreCase negated)
      (lex_placeholderOf bound (.string pattern))
  | .regex expr pattern ignoreCase =>
    lex_infix expr.lex_sql (lex_regexOperator ignoreCase) (lex_placeholderOf bound (.string pattern))
  | .and terms => lex_joinTerms true rfl (lex_sqlOfTerms bound terms)
  | .or terms => lex_joinTerms false rfl (lex_sqlOfTerms bound terms)
  | .constant value => lex_constant value

theorem lex_sqlOfTerms : ∀ (bound : Nat) (terms : List Predicate),
    (sqlOfTerms bound terms).map lex = (tokensOfTerms bound terms).map some
  | _, [] => rfl
  | bound, term :: rest => by
    rw [sqlOfTerms, tokensOfTerms, List.map_cons, List.map_cons, lex_sql bound term,
      lex_sqlOfTerms _ rest]

end

end Predicate
end ClauseSql
