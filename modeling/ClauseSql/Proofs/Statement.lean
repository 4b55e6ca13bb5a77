import ClauseSql.Proofs.Steps
import ClauseSql.Proofs.Tokens
import ClauseSql.Query

/-!
# The tokens of statements

A statement is put together from its parts as they are, and no token goes over from one part to the
next.

## What is here

* `Query.tokens` — the tokens of a statement: those of what it selects, of its condition, of its
  order and of its limits.
* `Query.lex_sql` — these are the tokens of its text.
-/

set_option autoImplicit false

namespace ClauseSql

open Sql

/-- The tokens of an order key. -/
def OrderKey.tokens (key : OrderKey) : List Token := key.expr.tokens ++ [.word key.direction.sql]

theorem OrderKey.lex_sql (key : OrderKey) : lex key.sql = some key.tokens := by
  have hdirection : lex key.direction.sql = some [.word key.direction.sql] := by
    cases key.direction <;> rfl
  have hblank : lex (key.expr.sql ++ " ") = some (key.expr.tokens ++ []) :=
    lex_append (.inr rfl) key.expr.lex_sql (rfl : lex " " = some [])
  rw [List.append_nil] at hblank
  exact lex_append (.inl (ends_append _ rfl)) hblank hdirection

namespace Query

/-! ## Parts -/

/-- The tokens of the list of what to select. -/
def selectTokens (columns : ColumnSet) : Option Projection → List Token
  | none => [.symbol "*"]
  | some projection =>
    [.symbol ","].intercalate ((selected columns projection).map fun name => [.identifier name])

/-- The tokens of the condition of a statement. -/
def whereTokens : Option Predicate → List Token
  | none => []
  | some condition => .word "WHERE" :: condition.tokens 0

/-- The tokens of the order of a statement. -/
def orderTokens : Option (List OrderKey) → List Token
  | none | some [] => []
  | some (key :: rest) =>
    [.word "ORDER", .word "BY"] ++ [.symbol ","].intercalate ((key :: rest).map OrderKey.tokens)

/-- The tokens of a number after a word. -/
def countTokens (word : String) : Option UInt64 → List Token
  | none => []
  | some count => [.word word, .number (toString count.toNat)]

/-- The tokens of a statement. -/
def tokens (columns : ColumnSet) (query : Query) : List Token :=
  [.word "SELECT"] ++ selectTokens columns query.projection ++ [.word "FROM"] ++
    [.identifier columns.table] ++ whereTokens query.condition ++ orderTokens query.order ++
    (countTokens "LIMIT" query.limit ++ countTokens "OFFSET" query.offset)

theorem lex_selectList {columns : ColumnSet} {projection : Option Projection} {list : String}
    (h : selectList columns projection = .ok list) :
    lex list = some (selectTokens columns projection) := by
  cases projection with
  | none =>
    cases h
    exact (rfl : lex "*" = some [.symbol "*"])
  | some projection =>
    rw [selectList] at h
    rw [selectTokens]
    split at h
    · cases h
    · rename_i name names hselected
      cases h
      have hcomma : lex ", " = some [.symbol ","] := rfl
      have hnames : ((name :: names).map Sql.identifier).map lex =
          ((name :: names).map fun name => [Token.identifier name]).map some := by
        rw [List.map_map, List.map_map]
        refine List.map_congr_left fun name _ => ?_
        rw [Function.comp_apply, lex_identifier, Function.comp_apply]
      rw [hselected]
      exact lex_joined rfl rfl hcomma hnames

theorem lex_whereText (condition : Option Predicate) :
    lex (whereText condition) = some (whereTokens condition) := by
  cases condition with
  | none => rfl
  | some condition =>
    have hwhere : lex " WHERE " = some [.word "WHERE"] := rfl
    exact lex_append (.inl rfl) hwhere (condition.lex_sql 0)

theorem lex_orderText (order : Option (List OrderKey)) :
    lex (orderText order) = some (orderTokens order) := by
  match order with
  | none => rfl
  | some [] => rfl
  | some (key :: rest) =>
    have hkeys : ((key :: rest).map OrderKey.sql).map lex =
        ((key :: rest).map OrderKey.tokens).map some := by
      rw [List.map_map, List.map_map]
      exact List.map_congr_left fun key _ => key.lex_sql
    have hby : lex " ORDER BY " = some [.word "ORDER", .word "BY"] := rfl
    have hcomma : lex ", " = some [.symbol ","] := rfl
    exact lex_append (.inl rfl) hby (lex_joined rfl rfl hcomma hkeys)

theorem lex_limitText (limit offset : Option UInt64) :
    lex (limitText limit offset) =
      some (countTokens "LIMIT" limit ++ countTokens "OFFSET" offset) := by
  have hblank : lex " " = some [] := rfl
  have hlimitWord : lex "LIMIT " = some [.word "LIMIT"] := rfl
  have hoffsetWord : lex "OFFSET " = some [.word "OFFSET"] := rfl
  have hlimit (count : UInt64) := lex_append (.inl rfl) hlimitWord (lex_toString count.toNat)
  have hoffset (count : UInt64) := lex_append (.inl rfl) hoffsetWord (lex_toString count.toNat)
  match limit, offset with
  | none, none => rfl
  | some limit, none =>
    have honly := lex_append (.inl rfl) hblank (hlimit limit)
    rw [List.nil_append] at honly
    rw [countTokens, countTokens, List.append_nil]
    exact honly
  | none, some offset =>
    have honly := lex_append (.inl rfl) hblank (hoffset offset)
    rw [List.nil_append] at honly
    exact honly
  | some limit, some offset =>
    have hsecond : lex " OFFSET " = some [.word "OFFSET"] := rfl
    have hboth := lex_append (.inl (ends_append _ rfl))
      (lex_append (.inr rfl) (hlimit limit) hsecond) (lex_toString offset.toNat)
    have hafter := lex_append (.inl rfl) hblank hboth
    rw [List.nil_append, List.append_assoc] at hafter
    exact hafter

/-! ## Statements -/

theorem breaks_whereText (condition : Option Predicate) : breaks (whereText condition) = true := by
  cases condition with
  | none => rfl
  | some predicate => rw [whereText, breaks, String.toList_append]; rfl

theorem breaks_orderText (order : Option (List OrderKey)) : breaks (orderText order) = true := by
  match order with
  | none => rfl
  | some [] => rfl
  | some (key :: rest) => rw [orderText, breaks, String.toList_append]; rfl

theorem breaks_limitText (limit offset : Option UInt64) :
    breaks (limitText limit offset) = true := by
  match limit, offset with
  | none, none => rfl
  | some limit, none | none, some offset | some limit, some offset =>
    rw [limitText, breaks, String.toList_append]
    · rfl
    · simp

/-- **The tokens of a statement are those of its parts.** -/
theorem lex_sql {columns : ColumnSet} {query : Query} {text : String}
    (h : query.sql columns = .ok text) : lex text = some (query.tokens columns) := by
  obtain ⟨list, hlist, h⟩ := bind_eq_ok_iff.1 h
  cases h
  have hselectWord : lex "SELECT " = some [.word "SELECT"] := rfl
  have hfromWord : lex " FROM " = some [.word "FROM"] := rfl
  have hselect := lex_append (.inl rfl) hselectWord (lex_selectList hlist)
  have hfrom := lex_append (.inr rfl) hselect hfromWord
  have htable := lex_append (.inl (ends_append _ rfl)) hfrom (lex_identifier columns.table)
  have hwhere := lex_append (.inr (breaks_whereText _)) htable (lex_whereText query.condition)
  have horder := lex_append (.inr (breaks_orderText _)) hwhere (lex_orderText query.order)
  exact lex_append (.inr (breaks_limitText _ _)) horder (lex_limitText query.limit query.offset)

end Query
end ClauseSql
