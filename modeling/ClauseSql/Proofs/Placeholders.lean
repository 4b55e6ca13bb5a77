import ClauseSql.Proofs.Partition
import ClauseSql.Proofs.SelectText

/-!
# Placeholders and bound values

A text and the list of the values that it binds are made apart from each other.  They fit together:
the placeholders of the text, read as tokens, are numbered on from the values bound before, one for
each value, in order.

## What is here

* `Sql.placeholders` — the placeholders among tokens, and which of them are cast.
* `Sql.Numbered` — a text whose placeholders are those of some values.
* `Sql.Numbers` — the same of tokens, whatever follows them, which is kept when they are put together.
* `Predicate.numbers_tokens` — a predicate numbers its operands, and a statement and a set clause do
  (`Query.exists_tokens_of_sql`, `Update.numbered_setClause`).
* `placeholders_number_values` — all three of them.
-/

set_option autoImplicit false

namespace ClauseSql

namespace Sql

/-! ## Placeholders -/

/-- The placeholders among tokens, in order, each with whether it is cast to JSON. -/
def placeholders : List Token → List (Nat × Bool)
  | .parameter index :: .symbol "::" :: .word "jsonb" :: rest => (index, true) :: placeholders rest
  | .parameter index :: rest => (index, false) :: placeholders rest
  | _ :: rest => placeholders rest
  | [] => []

/-- The placeholders of values bound after `bound` others: consecutive numbers, cast where the value
is an array or an object. -/
def numbering (bound : Nat) (values : List Json) : List (Nat × Bool) :=
  (List.range' (bound + 1) values.length).zip (values.map Json.isStructured)

/-- A text whose placeholders are those of values bound after `bound` others. -/
def Numbered (bound : Nat) (values : List Json) (text : String) : Prop :=
  ∃ tokens, lex text = some tokens ∧ placeholders tokens = numbering bound values

theorem numbering_append (bound : Nat) (first second : List Json) :
    numbering bound (first ++ second) =
      numbering bound first ++ numbering (bound + first.length) second := by
  rw [numbering, List.length_append, List.map_append, ← List.range'_append_1, List.zip_append]
  · rw [numbering, numbering, Nat.add_right_comm]
  · rw [List.length_range', List.length_map]

/-- Tokens whose placeholders are those of values bound after `bound` others, whatever follows the
tokens, as long as it is no cast of the last one. -/
structure Numbers (bound : Nat) (values : List Json) (tokens : List Token) : Prop where
  head : tokens.head? ≠ some (.symbol "::")
  append : ∀ back : List Token, back.head? ≠ some (.symbol "::") →
    placeholders (tokens ++ back) = numbering bound values ++ placeholders back

/-- Whether a token is no placeholder. -/
def Token.isUnbound : Token → Bool
  | .parameter _ => false
  | _ => true

/-- Whether tokens begin, but not with the sign of a cast, and have no placeholders. -/
def isUnbound (tokens : List Token) : Bool :=
  tokens.head?.any (· != .symbol "::") && tokens.all Token.isUnbound

theorem isUnbound_append {front back : List Token} (hf : isUnbound front = true)
    (hb : back.all Token.isUnbound = true) : isUnbound (front ++ back) = true := by
  rw [isUnbound, Bool.and_eq_true] at hf ⊢
  rw [List.all_append, Bool.and_eq_true]
  cases front with
  | nil => exact absurd hf.1 Bool.false_ne_true
  | cons token front => exact ⟨hf.1, hf.2, hb⟩

theorem all_of_isUnbound {tokens : List Token} (h : isUnbound tokens = true) :
    tokens.all Token.isUnbound = true :=
  (Bool.and_eq_true_iff.1 h).2

theorem placeholders_append_of_all {front : List Token} (h : front.all Token.isUnbound = true)
    (back : List Token) : placeholders (front ++ back) = placeholders back := by
  induction front with
  | nil => rfl
  | cons token front ih =>
    rw [List.all_cons, Bool.and_eq_true] at h
    cases token with
    | parameter index => exact absurd h.1 Bool.false_ne_true
    | _ => exact ih h.2

namespace Numbers

variable {bound other : Nat} {values first second : List Json} {front back tokens : List Token}

theorem placeholders_eq (h : Numbers bound values tokens) :
    placeholders tokens = numbering bound values := by
  have happend := h.append [] nofun
  rwa [List.append_nil, placeholders, List.append_nil] at happend

theorem nil : Numbers bound [] [] := ⟨nofun, fun _ _ => rfl⟩

theorem of_isUnbound (h : isUnbound tokens = true) : Numbers bound [] tokens := by
  refine ⟨fun hhead => ?_, fun back _ => placeholders_append_of_all (all_of_isUnbound h) back⟩
  rw [isUnbound, hhead] at h
  exact absurd (Bool.and_eq_true_iff.1 h).1 (by decide)

theorem trans (hf : Numbers bound first front) (hb : Numbers (bound + first.length) second back) :
    Numbers bound (first ++ second) (front ++ back) := by
  have hhead : ∀ {rest : List Token}, rest.head? ≠ some (.symbol "::") →
      (back ++ rest).head? ≠ some (.symbol "::") := by
    intro rest hrest
    cases back with
    | nil => exact hrest
    | cons token back => exact hb.head
  refine ⟨?_, fun rest hrest => ?_⟩
  · cases front with
    | nil => exact hb.head
    | cons token front => exact hf.head
  · rw [List.append_assoc, hf.append _ (hhead hrest), hb.append rest hrest, numbering_append,
      List.append_assoc]

theorem after (h : isUnbound front = true) (hb : Numbers bound values back) :
    Numbers bound values (front ++ back) :=
  trans (of_isUnbound h) hb

theorem before (hf : Numbers bound values front) (h : isUnbound back = true) :
    Numbers bound values (front ++ back) := by
  rw [← List.append_nil values]
  exact trans hf (of_isUnbound h)

/-- A placeholder is cast where its value is an array or an object, and nowhere else. -/
theorem placeholder (bound : Nat) (value : Json) :
    Numbers bound [value] (placeholderTokens bound value) := by
  have hone : numbering bound [value] = [(bound + 1, value.isStructured)] := rfl
  rw [placeholderTokens]
  cases hvalue : value.isStructured with
  | true =>
    rw [hvalue] at hone
    refine ⟨by simp [castTokens], fun back _ => ?_⟩
    rw [hone]
    rfl
  | false =>
    rw [hvalue] at hone
    refine ⟨by simp, fun back hback => ?_⟩
    rw [hone, if_neg Bool.false_ne_true, List.singleton_append, placeholders, List.singleton_append]
    rintro rest rfl
    exact hback rfl

end Numbers

/-- Parts that number values one after another. -/
inductive NumbersEach : Nat → List Json → List (List Token) → Prop where
  | nil {bound : Nat} : NumbersEach bound [] []
  | cons {bound : Nat} {first rest : List Json} {part : List Token} {parts : List (List Token)}
    (hpart : Numbers bound first part) (hparts : NumbersEach (bound + first.length) rest parts) :
    NumbersEach bound (first ++ rest) (part :: parts)

namespace NumbersEach

variable {bound : Nat} {values first second : List Json} {parts front back : List (List Token)}

theorem intercalate {separator : List Token} (hs : isUnbound separator = true)
    (h : NumbersEach bound values parts) :
    Numbers bound values (separator.intercalate parts) := by
  induction h with
  | nil => exact .nil
  | @cons bound first rest part parts hpart hparts ih =>
    cases hparts with
    | nil =>
      rw [List.intercalate_singleton, List.append_nil]
      exact hpart
    | cons hnext hrest =>
      rw [List.intercalate_cons_cons]
      exact (hpart.before hs).trans ih

theorem append (hf : NumbersEach bound first front)
    (hb : NumbersEach (bound + first.length) second back) :
    NumbersEach bound (first ++ second) (front ++ back) := by
  induction hf with
  | nil => exact hb
  | @cons bound first rest part parts hpart _ ih =>
    rw [List.append_assoc]
    refine .cons hpart (ih ?_)
    rwa [Nat.add_assoc, ← List.length_append]

theorem of_isUnbound : ∀ {parts : List (List Token)}, (∀ part ∈ parts, isUnbound part = true) →
    NumbersEach bound [] parts
  | [], _ => .nil
  | part :: parts, h => by
    obtain ⟨hpart, hparts⟩ := List.forall_mem_cons.1 h
    exact .cons (.of_isUnbound hpart) (of_isUnbound hparts)

theorem placeholders : ∀ (bound : Nat) (values : List Json),
    NumbersEach bound values (placeholdersTokens bound values)
  | _, [] => .nil
  | bound, value :: rest => .cons (.placeholder bound value) (placeholders (bound + 1) rest)

end NumbersEach
end Sql

open Sql

/-! ## Predicates -/

theorem Expr.isUnbound_tokens : ∀ expr : Expr, isUnbound expr.tokens = true
  | .column _ => rfl
  | .jsonText _ _ => rfl
  | .jsonNative _ _ => rfl
  | .safeNumeric inner => by
    have hinner := all_of_isUnbound inner.isUnbound_tokens
    rw [tokens, safeNumericTokens]
    simp only [List.append_assoc]
    refine isUnbound_append rfl ?_
    simp only [List.all_append, hinner]
    rfl
  | .jsonb inner => isUnbound_append inner.isUnbound_tokens rfl

namespace Predicate

theorem numbers_joinTokens {word : String} {empty : Bool} {bound : Nat} {values : List Json}
    {parts : List (List Token)} (h : NumbersEach bound values parts) :
    Numbers bound values (joinTokens word empty parts) := by
  cases h with
  | nil => exact .of_isUnbound rfl
  | cons hpart hparts =>
    have hterms := (NumbersEach.cons hpart hparts).intercalate (rfl : isUnbound [.word word] = true)
    exact (hterms.after rfl).before rfl

mutual

/-- A predicate numbers its operands on from the values bound before. -/
theorem numbers_tokens : ∀ (predicate : Predicate) (bound : Nat),
    Numbers bound predicate.operands (predicate.tokens bound)
  | .compare expr comparison value, bound => by
    have hsign : isUnbound [.symbol comparison.sql] = true := by cases comparison <;> rfl
    rw [tokens, List.append_assoc]
    exact .after expr.isUnbound_tokens (.after hsign (.placeholder bound value))
  | .isNull expr, bound | .isNotNull expr, bound => by
    exact .before (.of_isUnbound expr.isUnbound_tokens) rfl
  | .inList _ [] negated, bound => by
    rw [tokens]
    exact .of_isUnbound rfl
  | .inList expr (value :: rest) negated, bound => by
    have hlist : isUnbound (listTokens negated) = true := by cases negated <;> rfl
    have hvalues := (NumbersEach.placeholders bound (value :: rest)).intercalate
      (rfl : isUnbound [.symbol ","] = true)
    rw [tokens, List.append_assoc, List.append_assoc]
    exact .after expr.isUnbound_tokens (.after hlist (.before hvalues rfl))
  | .between expr low high, bound => by
    have hlow := (Numbers.placeholder bound low).before (rfl : isUnbound [.word "AND"] = true)
    have hbounds := hlow.trans (.placeholder (bound + 1) high)
    have hwhole := (hbounds.after (rfl : isUnbound [.word "BETWEEN"] = true)).after
      expr.isUnbound_tokens
    rw [tokens]
    show Numbers bound ([low] ++ [high]) _
    simpa only [List.append_assoc] using hwhole
  | .like expr pattern ignoreCase negated, bound => by
    have hword : isUnbound (likeTokens ignoreCase negated) = true := by
      cases ignoreCase <;> cases negated <;> rfl
    rw [tokens, List.append_assoc]
    exact .after expr.isUnbound_tokens (.after hword (.placeholder bound (.string pattern)))
  | .regex expr pattern ignoreCase, bound => by
    have hsign : isUnbound [.symbol (regexOperator ignoreCase)] = true := by
      cases ignoreCase <;> rfl
    rw [tokens, List.append_assoc]
    exact .after expr.isUnbound_tokens (.after hsign (.placeholder bound (.string pattern)))
  | .and terms, bound | .or terms, bound => numbers_joinTokens (numbersEach_tokensOfTerms terms bound)
  | .constant value, bound => .of_isUnbound rfl

theorem numbersEach_tokensOfTerms : ∀ (terms : List Predicate) (bound : Nat),
    NumbersEach bound (operandsOfTerms terms) (tokensOfTerms bound terms)
  | [], _ => .nil
  | term :: rest, bound => .cons (numbers_tokens term bound) (numbersEach_tokensOfTerms rest _)

end

end Predicate

/-! ## Statements -/

namespace Query

theorem numbers_selectTokens (columns : ColumnSet) (projection : Option Projection) (bound : Nat) :
    Numbers bound [] (selectTokens columns projection) := by
  cases projection with
  | none => exact .of_isUnbound rfl
  | some projection =>
    have hparts : NumbersEach bound []
        ((selected columns projection).map fun name => [Token.identifier name]) := by
      refine .of_isUnbound fun part hpart => ?_
      obtain ⟨name, -, rfl⟩ := List.mem_map.1 hpart
      rfl
    exact hparts.intercalate rfl

theorem numbers_orderTokens (order : Option (List OrderKey)) (bound : Nat) :
    Numbers bound [] (orderTokens order) := by
  match order with
  | none => exact .nil
  | some [] => exact .nil
  | some (key :: rest) =>
    have hparts : NumbersEach bound [] ((key :: rest).map OrderKey.tokens) := by
      refine .of_isUnbound fun part hpart => ?_
      obtain ⟨key, -, rfl⟩ := List.mem_map.1 hpart
      exact isUnbound_append key.expr.isUnbound_tokens rfl
    have hby : isUnbound [.word "ORDER", .word "BY"] = true := rfl
    exact .after hby (hparts.intercalate rfl)

theorem numbers_countTokens (word : String) (count : Option UInt64) (bound : Nat) :
    Numbers bound [] (countTokens word count) := by
  cases count with
  | none => exact .nil
  | some count => exact .of_isUnbound rfl

theorem numbers_whereTokens (query : Query) :
    Numbers 0 query.parameters (whereTokens query.condition) := by
  rw [parameters]
  cases query.condition with
  | none => exact .nil
  | some condition =>
    have hwhere : isUnbound [.word "WHERE"] = true := rfl
    exact .after hwhere (condition.numbers_tokens 0)

/-- The placeholders of a statement are those of its condition. -/
theorem exists_tokens_of_sql {columns : ColumnSet} {query : Query} {text : String}
    (h : query.sql columns = .ok text) : ∃ front middle back,
      lex text = some (front ++ middle ++ back) ∧ lex (whereText query.condition) = some middle ∧
        Numbers 0 [] front ∧ Numbers 0 query.parameters middle ∧
        Numbers query.parameters.length [] back := by
  have hlex := lex_sql h
  rw [tokens, List.append_assoc (_ ++ whereTokens _)] at hlex
  have hselect := (numbers_selectTokens columns query.projection 0).after
    (rfl : isUnbound [.word "SELECT"] = true)
  have hback (bound : Nat) := (numbers_orderTokens query.order bound).trans
    ((numbers_countTokens "LIMIT" query.limit bound).trans
      (numbers_countTokens "OFFSET" query.offset bound))
  exact ⟨_, _, _, hlex, lex_whereText query.condition, .before (.before hselect rfl) rfl,
    query.numbers_whereTokens, hback _⟩

end Query

/-! ## Set clauses -/

namespace Update

theorem numbersEach_directTokens : ∀ (bound : Nat) (direct : Members),
    NumbersEach bound (direct.map Prod.snd) (directTokens bound direct)
  | _, [] => .nil
  | bound, (column, value) :: rest => by
    have hassignment : isUnbound [.identifier column, .symbol "="] = true := rfl
    exact .cons (.after hassignment (.placeholder bound value))
      (numbersEach_directTokens (bound + 1) rest)

theorem isUnbound_of_isMergePart {token : Token} (h : token.isMergePart = true) :
    token.isUnbound = true := by
  cases token with
  | parameter index => exact absurd h Bool.false_ne_true
  | _ => rfl

theorem all_isUnbound_tokens (expr : DocExpr) : expr.tokens.all Token.isUnbound = true :=
  List.all_eq_true.2 fun token htoken =>
    isUnbound_of_isMergePart (List.all_eq_true.1 expr.all_isMergePart token htoken)

/-- A set clause numbers the values that it assigns directly. -/
theorem numbered_setClause (bound : Nat) (update : Update) :
    Numbered bound (update.direct.map Prod.snd)
      (setClause bound update.direct update.merges) := by
  have hmerges : NumbersEach (bound + (update.direct.map Prod.snd).length) []
      (update.documents.map mergeTokens) := by
    refine .of_isUnbound fun part hpart => ?_
    obtain ⟨entry, -, rfl⟩ := List.mem_map.1 hpart
    have hassignment : isUnbound [.identifier entry.1, .symbol "="] = true := rfl
    exact isUnbound_append hassignment (all_isUnbound_tokens entry.2)
  have hall := ((numbersEach_directTokens bound update.direct).append hmerges).intercalate
    (rfl : isUnbound [.symbol ","] = true)
  rw [List.append_nil] at hall
  exact ⟨_, lex_setClause bound update, hall.placeholders_eq⟩

/-- A merge expression binds nothing. -/
theorem numbered_of_mem_merges {update : Update} {entry : String × String}
    (h : entry ∈ update.merges) : Numbered 0 [] entry.2 := by
  obtain ⟨⟨column, expr⟩, -, rfl⟩ := List.mem_map.1 h
  have hnone := placeholders_append_of_all (all_isUnbound_tokens expr) []
  rw [List.append_nil] at hnone
  exact ⟨expr.tokens, expr.lex_sql, hnone⟩

end Update

/-! ## All of them -/

/-- **Placeholders and bound values correspond.**  A predicate leaves the values bound before as they
are and binds the operands of its leaves after them, from left to right, and its placeholders are
numbered on in the same order.  A statement binds the operands of its condition and has placeholders
nowhere else.  A set clause binds the values of plain keys, and its merge expressions bind none. -/
theorem placeholders_number_values :
    (∀ (predicate : Predicate) (bound : List Json),
      (predicate.render bound).2 = bound ++ predicate.leaves.flatMap Predicate.operands ∧
      Numbered bound.length (predicate.leaves.flatMap Predicate.operands) (predicate.render bound).1) ∧
    (∀ (columns : ColumnSet) (query : Query) (text : String) (values : List Json),
      query.render columns = .ok (text, values) →
      values = query.condition.toList.flatMap (fun condition =>
        condition.leaves.flatMap Predicate.operands) ∧
      Numbered 0 values text ∧
      ∃ front middle back, lex text = some (front ++ middle ++ back) ∧
        lex (Query.whereText query.condition) = some middle ∧
        placeholders front = [] ∧ placeholders middle = numbering 0 values ∧
        placeholders back = []) ∧
    ∀ (columns : ColumnSet) (members : Members) (update : Update),
      Update.compile columns members = .ok update →
      update.render.2 = (Update.plain members).map Prod.snd ∧
      (∀ bound, Numbered bound ((Update.plain members).map Prod.snd)
        (setClause bound update.direct update.merges)) ∧
      ∀ entry ∈ update.merges, Numbered 0 [] entry.2 := by
  refine ⟨fun predicate bound => ?_, fun columns query text values h => ?_,
    fun columns members update h => ?_⟩
  · rw [Predicate.render, ← predicate.operands_eq_flatMap_leaves]
    exact ⟨rfl, _, predicate.lex_sql _, (predicate.numbers_tokens _).placeholders_eq⟩
  · obtain ⟨_, hsql, h⟩ := bind_eq_ok_iff.1 h
    cases h
    obtain ⟨front, middle, back, hlex, hwhere, hfront, hmiddle, hback⟩ :=
      Query.exists_tokens_of_sql hsql
    rw [← Nat.zero_add query.parameters.length] at hback
    have hwhole := (hfront.trans hmiddle).trans hback
    rw [List.append_nil] at hwhole
    refine ⟨?_, ⟨_, hlex, hwhole.placeholders_eq⟩, front, middle, back, hlex, hwhere,
      hfront.placeholders_eq, hmiddle.placeholders_eq, hback.placeholders_eq⟩
    rw [Query.parameters]
    cases query.condition with
    | none => rfl
    | some condition =>
      rw [Option.toList_some, List.flatMap_singleton]
      exact condition.operands_eq_flatMap_leaves
  · obtain ⟨hdirect, -, -⟩ := Update.of_compile h
    rw [← hdirect]
    exact ⟨rfl, fun bound => Update.numbered_setClause bound update,
      fun entry => Update.numbered_of_mem_merges⟩

/-- A query whose table and column look like placeholders, with a number that is compared in a group
beside an empty list. -/
def dollarQuery : Query where
  limit := some 3
  condition := some (.and [.compare (.jsonb (.column "$1")) .eq (.array [.null]),
    .or [.inList (.column "$2") [] true,
      .compare (.safeNumeric (.jsonText "$1" ["a"])) .gt (.number (.int 5))],
    .isNull (.column "$1"), .between (.column "$2") (.string "$9") (.string "x")])

theorem placeholders_number_values_dollar : ∃ text values update,
    dollarQuery.render ⟨"$3", [⟨"$1", .json⟩, ⟨"$2", .text⟩]⟩ = .ok (text, values) ∧
    Numbered 0 values text ∧
    numbering 0 values = [(1, true), (2, false), (3, false), (4, false)] ∧
    Update.compile Update.mixedTable Update.interleaved = .ok update ∧
    Numbered 7 [.bool true] (setClause 7 update.direct update.merges) := by
  obtain ⟨-, hstatement, hupdate⟩ := placeholders_number_values
  obtain ⟨-, hbinds, -⟩ := hstatement ⟨"$3", [⟨"$1", .json⟩, ⟨"$2", .text⟩]⟩ dollarQuery _ _ rfl
  obtain ⟨-, hclause, -⟩ := hupdate Update.mixedTable Update.interleaved _ rfl
  exact ⟨_, _, _, rfl, hbinds, rfl, rfl, hclause 7⟩

end ClauseSql
