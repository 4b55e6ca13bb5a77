import ClauseSql.Proofs.Precedence
import ClauseSql.Proofs.Tokens

/-!
# The terms of predicates

What is rendered is read as it was put together.  An expression is an operand, and a predicate is a
condition, so neither is taken apart by what stands beside it.  Joined predicates stand in
parentheses, and within them by themselves.

## What is here

* `Yields` — tokens that are read as items wherever they stand, and `Yields.enclosed` for brackets.
* `Expr.term` and `Predicate.term` — the term that an expression or a predicate is written as.
* `Expr.items` and `Predicate.items` — the items that stand for it between two brackets.
* `Predicate.yields` and `Predicate.condition` — the tokens of a predicate are read as its items, and
  these are one condition.
* `Predicate.readTerm_lex_sql` — the text of a predicate is read as its term.
-/

set_option autoImplicit false

namespace ClauseSql
namespace Sql

/-! ## Tokens as items -/

section
variable {outside : List (Bracket × List Item)} {before : List Item} {token : Token}

theorem itemsFrom_of_opens {bracket : Bracket} (h : token.opens? = some bracket)
    (rest : List Token) :
    itemsFrom outside before (token :: rest) = itemsFrom ((bracket, before) :: outside) [] rest := by
  rw [itemsFrom.eq_def]
  simp only [h]

theorem itemsFrom_of_closes {bracket : Bracket} {outer : List Item} {item : Item}
    (ho : token.opens? = none) (hc : token.closes? = some bracket)
    (hr : bracket.read before.reverse = some item) (rest : List Token) :
    itemsFrom ((bracket, outer) :: outside) before (token :: rest) =
      itemsFrom outside (item :: outer) rest := by
  rw [itemsFrom.eq_def]
  simp only [ho, hc, hr, if_pos, Option.bind_some]

theorem itemsFrom_of_plain (ho : token.opens? = none) (hc : token.closes? = none)
    (rest : List Token) :
    itemsFrom outside before (token :: rest) = itemsFrom outside (.token token :: before) rest := by
  rw [itemsFrom.eq_def]
  simp only [ho, hc]

end

/-- Tokens that are read as items, wherever they stand. -/
def Yields (tokens : List Token) (items : List Item) : Prop :=
  ∀ outside before rest, itemsFrom outside before (tokens ++ rest) =
    itemsFrom outside (items.reverse ++ before) rest

namespace Yields

variable {tokens more : List Token} {items others : List Item} {token : Token}

theorem append (h : Yields tokens items) (hmore : Yields more others) :
    Yields (tokens ++ more) (items ++ others) := by
  intro outside before rest
  rw [List.append_assoc, h, hmore, List.reverse_append, List.append_assoc]

theorem plain (ho : token.opens? = none) (hc : token.closes? = none) :
    Yields [token] [.token token] := fun _ _ rest => itemsFrom_of_plain ho hc rest

theorem cons (ho : token.opens? = none) (hc : token.closes? = none) (h : Yields tokens items) :
    Yields (token :: tokens) (.token token :: items) :=
  (plain ho hc).append h

/-- A token between what is read on either side. -/
theorem around (ho : token.opens? = none) (hc : token.closes? = none) (h : Yields tokens items)
    (hmore : Yields more others) :
    Yields (tokens ++ [token] ++ more) (items ++ .token token :: others) := by
  rw [List.append_assoc]
  exact h.append (cons ho hc hmore)

/-- What stands in brackets is one item. -/
theorem enclosed {opening closing : Token} {bracket : Bracket} {item : Item}
    (hopens : opening.opens? = some bracket) (hends : closing.opens? = none)
    (hcloses : closing.closes? = some bracket) (h : Yields tokens items)
    (hr : bracket.read items = some item) :
    Yields (opening :: (tokens ++ [closing])) [item] := by
  intro outside before rest
  have hread : bracket.read (items.reverse ++ []).reverse = some item := by
    rw [List.append_nil, List.reverse_reverse, hr]
  rw [List.cons_append, itemsFrom_of_opens hopens, List.append_assoc, h,
    List.singleton_append, itemsFrom_of_closes hends hcloses hread]
  rfl

theorem parentheses (h : Yields tokens items) {terms : List Term}
    (hr : members items = some terms) :
    Yields (.symbol "(" :: (tokens ++ [.symbol ")"])) [.enclosed terms] :=
  enclosed rfl rfl rfl h (congrArg (Option.map Item.enclosed) hr)

theorem group (h : Yields tokens items) {term : Term} (hc : Condition items term) :
    Yields (.symbol "(" :: (tokens ++ [.symbol ")"])) [.enclosed [term]] :=
  h.parentheses hc.members

theorem case (h : Yields tokens items) {term : Term} (hr : branch items = some term) :
    Yields (.word "CASE" :: (tokens ++ [.word "END"])) [.whole term] :=
  enclosed rfl rfl rfl h (congrArg (Option.map Item.whole) hr)

theorem intercalate {separator : Token} (ho : separator.opens? = none)
    (hc : separator.closes? = none) {parts : List (List Token)} {read : List (List Item)}
    (h : List.Forall₂ Yields parts read) :
    Yields ([separator].intercalate parts) ([.token separator].intercalate read) := by
  induction h with
  | nil => exact fun _ _ _ => rfl
  | cons hpart hrest ih =>
    cases hrest with
    | nil =>
      rw [List.intercalate_singleton, List.intercalate_singleton]
      exact hpart
    | cons hnext hmore =>
      rw [List.intercalate_cons_cons, List.intercalate_cons_cons]
      exact (hpart.append (plain ho hc)).append ih

theorem readTerm {term : Term} (h : Yields tokens items) (hr : disjunction items = some term) :
    readTerm tokens = some term := by
  have hitems : itemsFrom [] [] (tokens ++ []) = some items := by
    rw [h, List.append_nil, itemsFrom, List.reverse_reverse]
    rfl
  rw [List.append_nil] at hitems
  rw [Sql.readTerm, hitems, Option.bind_some, hr]

end Yields
end Sql

open Sql

/-! ## Expressions -/

namespace Expr

/-- The term that an expression is written as. -/
def term : Expr → Term
  | .column name => .name name
  | .jsonText document path => .operator "#>>" (.name document) (.text (arrayText path))
  | .jsonNative document path => .operator "#>" (.name document) (.text (arrayText path))
  | .safeNumeric inner =>
    .whenThen (.operator "~" inner.term (.text numericPattern)) (.cast inner.term "numeric")
  | .jsonb inner => .cast inner.term "jsonb"

/-- The items of an expression.  All but columns and casts stand in parentheses. -/
def items : Expr → List Item
  | .column name => [.token (.identifier name)]
  | .jsonb inner => inner.items ++ [.token (.symbol "::"), .token (.word "jsonb")]
  | expr => [.enclosed [expr.term]]

theorem operand : ∀ expr : Expr, Operand expr.items expr.term
  | .column _ | .jsonText .. | .jsonNative .. | .safeNumeric _ => .single rfl rfl
  | .jsonb inner => inner.operand.cast (by decide)

theorem yields_extract {operator : String} (ho : operator ∈ operatorSigns) (document : String)
    (path : List String) : Yields (extractTokens operator [.identifier document] path)
      [.enclosed [.operator operator (.name document) (.text (arrayText path))]] := by
  have hname : Operand [.token (.identifier document)] (.name document) := .single rfl rfl
  have hpath : Operand [.token (.literal (arrayText path))] (.text (arrayText path)) :=
    .single rfl rfl
  have hcondition := Condition.of_operator hname hpath ho
  have hplain : ∀ sign ∈ operatorSigns,
      (Token.symbol sign).opens? = none ∧ (Token.symbol sign).closes? = none := by decide
  obtain ⟨hopens, hcloses⟩ := hplain operator ho
  exact Yields.group (.cons rfl rfl (.cons hopens hcloses (.plain rfl rfl))) hcondition

theorem yields_safeNumeric {tokens : List Token} {items : List Item} {term : Term}
    (h : Yields tokens items) (ht : Operand items term) :
    Yields (safeNumericTokens tokens) [.enclosed
      [.whenThen (.operator "~" term (.text numericPattern)) (.cast term "numeric")]] := by
  -- From the inside out: the match and the cast, the branch, the case, and the parentheses.
  have hpattern : Operand [.token (.literal numericPattern)] (.text numericPattern) :=
    .single rfl rfl
  have hmatch := Condition.of_operator ht hpattern (by decide : "~" ∈ operatorSigns)
  have hcast := (Operand.enclosed term).cast (by decide : "numeric" ∉ separatorWords)
  have hcondition : Yields (tokens ++ [.symbol "~", .literal numericPattern])
      (items ++ [.token (.symbol "~"), .token (.literal numericPattern)]) :=
    h.append (.cons rfl rfl (.plain rfl rfl))
  have hresult : Yields (.symbol "(" :: (tokens ++ [.symbol ")"]) ++ [.symbol "::", .word "numeric"])
      ([.enclosed [term]] ++ [.token (.symbol "::"), .token (.word "numeric")]) :=
    (h.group (.of_operand ht)).append (.cons rfl rfl (.plain rfl rfl))
  have hbranch : Yields (.word "WHEN" :: (tokens ++ [.symbol "~", .literal numericPattern] ++
      .word "THEN" :: (.symbol "(" :: (tokens ++ [.symbol ")"]) ++ [.symbol "::", .word "numeric"])))
      (.token (.word "WHEN") :: (items ++ [.token (.symbol "~"), .token (.literal numericPattern)] ++
        .token (.word "THEN") :: [.enclosed [term], .token (.symbol "::"), .token (.word "numeric")])) :=
    .cons rfl rfl (hcondition.append (.cons rfl rfl hresult))
  have hcase := hbranch.case (branch_of_conditions hmatch (.of_operand hcast))
  have hall := hcase.group (.of_operand (.whole _))
  simpa [safeNumericTokens] using hall

theorem yields : ∀ expr : Expr, Yields expr.tokens expr.items
  | .column _ => .plain rfl rfl
  | .jsonText document path => yields_extract (by decide) document path
  | .jsonNative document path => yields_extract (by decide) document path
  | .safeNumeric inner => yields_safeNumeric inner.yields inner.operand
  | .jsonb inner => inner.yields.append (.cons rfl rfl (.plain rfl rfl))

end Expr

/-! ## Placeholders -/

/-- The term that the placeholder of a value is written as. -/
def placeholderTerm (bound : Nat) (value : Json) : Term :=
  if value.isStructured then .cast (.parameter (bound + 1)) "jsonb" else .parameter (bound + 1)

/-- The items of the placeholder of a value. -/
def placeholderItems (bound : Nat) (value : Json) : List Item :=
  .token (.parameter (bound + 1)) ::
    if value.isStructured then [.token (.symbol "::"), .token (.word "jsonb")] else []

theorem operand_placeholder (bound : Nat) (value : Json) :
    Operand (placeholderItems bound value) (placeholderTerm bound value) := by
  have hsingle : Operand [.token (.parameter (bound + 1))] (.parameter (bound + 1)) :=
    .single rfl rfl
  rw [placeholderItems, placeholderTerm]
  split
  · exact hsingle.cast (by decide)
  · exact hsingle

theorem yields_placeholder (bound : Nat) (value : Json) :
    Yields (placeholderTokens bound value) (placeholderItems bound value) := by
  rw [placeholderTokens, placeholderItems]
  split
  · exact .cons rfl rfl (.cons rfl rfl (.plain rfl rfl))
  · exact .plain rfl rfl

/-- The terms of the placeholders of values. -/
def placeholdersTerms (bound : Nat) : List Json → List Term
  | [] => []
  | value :: rest => placeholderTerm bound value :: placeholdersTerms (bound + 1) rest

/-- The items of the placeholder of each value. -/
def placeholdersItems (bound : Nat) : List Json → List (List Item)
  | [] => []
  | value :: rest => placeholderItems bound value :: placeholdersItems (bound + 1) rest

theorem conditions_placeholders : ∀ (bound : Nat) (values : List Json),
    List.Forall₂ Condition (placeholdersItems bound values) (placeholdersTerms bound values)
  | _, [] => .nil
  | bound, value :: rest =>
    .cons (.of_operand (operand_placeholder bound value)) (conditions_placeholders (bound + 1) rest)

theorem yields_placeholders : ∀ (bound : Nat) (values : List Json),
    List.Forall₂ Yields (placeholdersTokens bound values) (placeholdersItems bound values)
  | _, [] => .nil
  | bound, value :: rest =>
    .cons (yields_placeholder bound value) (yields_placeholders (bound + 1) rest)

/-! ## Predicates -/

namespace Predicate

/-- The term that joined terms are written as. -/
def joinTerm (join : List Term → Term) (empty : Bool) : List Term → Term
  | [] => .truth empty
  | term :: rest => joinParts join (term :: rest)

/-- The items of joined terms: a constant, or one in parentheses. -/
def joinItems (join : List Term → Term) (empty : Bool) : List Term → List Item
  | [] => [.token (.word (Sql.constant empty))]
  | term :: rest => [.enclosed [joinParts join (term :: rest)]]

mutual

/-- The term that a predicate is written as, with its operands bound after `bound` other values. -/
def term (bound : Nat) : Predicate → Term
  | .compare expr comparison value =>
    .operator comparison.sql expr.term (placeholderTerm bound value)
  | .isNull expr => .isNull false expr.term
  | .isNotNull expr => .isNull true expr.term
  | .inList _ [] negated => .truth negated
  | .inList expr (value :: rest) negated =>
    .oneOf negated expr.term (placeholdersTerms bound (value :: rest))
  | .between expr low high =>
    .between false expr.term (placeholderTerm bound low) (placeholderTerm (bound + 1) high)
  | .like expr pattern ignoreCase negated =>
    .like ignoreCase negated expr.term (placeholderTerm bound (.string pattern))
  | .regex expr pattern ignoreCase =>
    .operator (regexOperator ignoreCase) expr.term (placeholderTerm bound (.string pattern))
  | .and terms => joinTerm .and true (termsOfTerms bound terms)
  | .or terms => joinTerm .or false (termsOfTerms bound terms)
  | .constant value => .truth value

/-- The term that each predicate is written as. -/
def termsOfTerms (bound : Nat) : List Predicate → List Term
  | [] => []
  | first :: rest => term bound first :: termsOfTerms (bound + (operands first).length) rest

end

/-- The items of a predicate. -/
def items (bound : Nat) : Predicate → List Item
  | .compare expr comparison value =>
    expr.items ++ .token (.symbol comparison.sql) :: placeholderItems bound value
  | .isNull expr => expr.items ++ [.token (.word "IS"), .token (.word "NULL")]
  | .isNotNull expr =>
    expr.items ++ [.token (.word "IS"), .token (.word "NOT"), .token (.word "NULL")]
  | .inList _ [] negated => [.token (.word (Sql.constant negated))]
  | .inList expr (value :: rest) negated =>
    expr.items ++ (negation negated ++
      [.token (.word "IN"), .enclosed (placeholdersTerms bound (value :: rest))])
  | .between expr low high =>
    expr.items ++ (.token (.word "BETWEEN") :: (placeholderItems bound low ++
      .token (.word "AND") :: placeholderItems (bound + 1) high))
  | .like expr pattern ignoreCase negated =>
    expr.items ++ (negation negated ++ .token (.word (if ignoreCase then "ILIKE" else "LIKE")) ::
      placeholderItems bound (.string pattern))
  | .regex expr pattern ignoreCase =>
    expr.items ++ .token (.symbol (regexOperator ignoreCase)) ::
      placeholderItems bound (.string pattern)
  | .and terms => joinItems .and true (termsOfTerms bound terms)
  | .or terms => joinItems .or false (termsOfTerms bound terms)
  | .constant value => [.token (.word (Sql.constant value))]

/-- The items of each term. -/
def itemsOfTerms (bound : Nat) : List Predicate → List (List Item)
  | [] => []
  | first :: rest => items bound first :: itemsOfTerms (bound + (operands first).length) rest

theorem operand_constant (value : Bool) :
    Operand [.token (.word (Sql.constant value))] (.truth value) := by
  cases value <;> exact .single rfl rfl

theorem operand_joinItems (join : List Term → Term) (empty : Bool) (terms : List Term) :
    Operand (joinItems join empty terms) (joinTerm join empty terms) := by
  cases terms with
  | nil => exact operand_constant empty
  | cons term rest => exact .enclosed _

/-- The items of a predicate are one condition. -/
theorem condition (bound : Nat) (predicate : Predicate) :
    Condition (items bound predicate) (term bound predicate) := by
  cases predicate with
  | compare expr comparison value =>
    have hsign : comparison.sql ∈ comparisonSigns := by cases comparison <;> decide
    exact .of_comparison expr.operand (operand_placeholder bound value) hsign
  | isNull expr => exact .of_isNull expr.operand false
  | isNotNull expr => exact .of_isNull expr.operand true
  | inList expr values negated =>
    cases values with
    | nil => exact .of_operand (operand_constant negated)
    | cons value rest => exact .of_oneOf expr.operand negated _
  | between expr low high =>
    exact .of_between expr.operand (operand_placeholder bound low)
      (operand_placeholder (bound + 1) high)
  | like expr pattern ignoreCase negated =>
    exact .of_like expr.operand (operand_placeholder bound (.string pattern)) ignoreCase negated
  | regex expr pattern ignoreCase =>
    have hsign : regexOperator ignoreCase ∈ operatorSigns := by cases ignoreCase <;> decide
    exact .of_operator expr.operand (operand_placeholder bound (.string pattern)) hsign
  | and terms => exact .of_operand (operand_joinItems .and true (termsOfTerms bound terms))
  | or terms => exact .of_operand (operand_joinItems .or false (termsOfTerms bound terms))
  | constant value => exact .of_operand (operand_constant value)

theorem conditions (terms : List Predicate) : ∀ bound : Nat,
    List.Forall₂ Condition (itemsOfTerms bound terms) (termsOfTerms bound terms) := by
  induction terms with
  | nil => intro bound; exact .nil
  | cons first rest ih => intro bound; exact .cons (condition bound first) (ih _)

theorem yields_constant (value : Bool) :
    Yields [.word (Sql.constant value)] [.token (.word (Sql.constant value))] := by
  cases value <;> exact .plain rfl rfl

theorem yields_inList (expr : Expr) (negated : Bool) (bound : Nat) (value : Json)
    (rest : List Json) : Yields (tokens bound (.inList expr (value :: rest) negated))
      (items bound (.inList expr (value :: rest) negated)) := by
  have hvalues : Yields ([.symbol ","].intercalate (placeholdersTokens bound (value :: rest)))
      ([.token (.symbol ",")].intercalate (placeholdersItems bound (value :: rest))) :=
    .intercalate rfl rfl (yields_placeholders bound (value :: rest))
  have hlist := hvalues.parentheses
    (members_intercalate (conditions_placeholders bound (value :: rest)))
  rw [tokens, items, List.append_assoc, List.append_assoc]
  refine expr.yields.append ?_
  cases negated with
  | false => exact .cons rfl rfl hlist
  | true => exact .cons rfl rfl (.cons rfl rfl hlist)

theorem yields_between (expr : Expr) (bound : Nat) (low high : Json) :
    Yields (tokens bound (.between expr low high)) (items bound (.between expr low high)) := by
  have hlow := yields_placeholder bound low
  have hhigh := yields_placeholder (bound + 1) high
  rw [tokens, items, List.append_assoc, List.append_assoc, List.append_assoc]
  exact expr.yields.append (.cons rfl rfl (hlow.append (.cons rfl rfl hhigh)))

theorem yields_like (expr : Expr) (pattern : String) (ignoreCase negated : Bool) (bound : Nat) :
    Yields (tokens bound (.like expr pattern ignoreCase negated))
      (items bound (.like expr pattern ignoreCase negated)) := by
  have hpattern := yields_placeholder bound (.string pattern)
  rw [tokens, items, List.append_assoc]
  refine expr.yields.append ?_
  cases ignoreCase <;> cases negated
  · exact .cons rfl rfl hpattern
  · exact .cons rfl rfl (.cons rfl rfl hpattern)
  · exact .cons rfl rfl hpattern
  · exact .cons rfl rfl (.cons rfl rfl hpattern)

theorem yields_joinTokens {word : String} {join : List Term → Term} (empty : Bool)
    (ho : (Token.word word).opens? = none) (hc : (Token.word word).closes? = none)
    {tokens : List (List Token)} {items : List (List Item)} {terms : List Term}
    (hreads : ∀ {first rest}, List.Forall₂ Condition (first :: rest) terms →
      members ([.token (.word word)].intercalate (first :: rest)) = some [joinParts join terms])
    (hy : List.Forall₂ Yields tokens items) (ht : List.Forall₂ Condition items terms) :
    Yields (joinTokens word empty tokens) (joinItems join empty terms) := by
  have hjoined := Yields.intercalate ho hc hy
  cases hy with
  | nil =>
    cases ht
    exact yields_constant empty
  | cons hfirst hrest =>
    have hgroup := hjoined.parentheses (hreads ht)
    cases ht
    exact hgroup

mutual

/-- **A rendered predicate is read as the items of the predicate.** -/
theorem yields (bound : Nat) : ∀ predicate : Predicate,
    Yields (tokens bound predicate) (items bound predicate)
  | .compare expr comparison value =>
    expr.yields.around (by cases comparison <;> rfl) (by cases comparison <;> rfl)
      (yields_placeholder bound value)
  | .isNull expr => expr.yields.append (.cons rfl rfl (.plain rfl rfl))
  | .isNotNull expr => expr.yields.append (.cons rfl rfl (.cons rfl rfl (.plain rfl rfl)))
  | .inList _ [] negated => yields_constant negated
  | .inList expr (value :: rest) negated => yields_inList expr negated bound value rest
  | .between expr low high => yields_between expr bound low high
  | .like expr pattern ignoreCase negated => yields_like expr pattern ignoreCase negated bound
  | .regex expr pattern ignoreCase =>
    expr.yields.around (by cases ignoreCase <;> rfl) (by cases ignoreCase <;> rfl)
      (yields_placeholder bound (.string pattern))
  | .and terms => yields_joinTokens true rfl rfl members_conjunction (yieldsOfTerms bound terms)
      (conditions terms bound)
  | .or terms => yields_joinTokens false rfl rfl members_disjunction (yieldsOfTerms bound terms)
      (conditions terms bound)
  | .constant value => yields_constant value

theorem yieldsOfTerms : ∀ (bound : Nat) (terms : List Predicate),
    List.Forall₂ Yields (tokensOfTerms bound terms) (itemsOfTerms bound terms)
  | _, [] => .nil
  | bound, first :: rest => .cons (yields bound first) (yieldsOfTerms _ rest)

end

/-- **A rendered predicate is read as the term of the predicate.** -/
theorem readTerm_lex_sql (bound : Nat) (predicate : Predicate) :
    (lex (predicate.sql bound)).bind readTerm = some (predicate.term bound) := by
  rw [lex_sql, Option.bind_some]
  exact (yields bound predicate).readTerm (condition bound predicate).disjunction

end Predicate
end ClauseSql
