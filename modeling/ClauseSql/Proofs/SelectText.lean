import ClauseSql.Proofs.ColumnIndex
import ClauseSql.Proofs.Leaves
import ClauseSql.Proofs.Statement
import ClauseSql.Proofs.TwoRuns

/-!
# What stands in a statement

A filter is text from outside.  Of that text the statement that selects its rows contains nothing:
its names are those of the table and of declared columns, its strings are paths of accepted segments
and one fixed pattern, and the rest of it are fixed words and signs, numbered placeholders, and the
two numbers that limit the rows.  Operands are bound.

## What is here

* `Sql.Vocabulary` — the names, numbers and placeholders that are at hand, and
  `Sql.Vocabulary.Contains`, the tokens made of them.
* `Sql.Vocabulary.Covers` — a text that consists of such tokens.
* `Predicate.contains_of_mem_tokens` — the tokens of a condition on declared columns are such.
* `Query.covers_of_sql` — the statement of a query on declared columns consists of them.
* `Compiler.covers_of_ran_select` — and so does the statement of the text of a filter, whatever the
  text is.
-/

set_option autoImplicit false

namespace ClauseSql

open CompileM

namespace Sql

/-! ## Vocabularies -/

/-- The words of statements. -/
def keywords : List String :=
  ["SELECT", "FROM", "WHERE", "ORDER", "BY", "LIMIT", "OFFSET", "ASC", "DESC", "AND", "OR", "IS",
    "NOT", "NULL", "IN", "BETWEEN", "LIKE", "ILIKE", "CASE", "WHEN", "THEN", "END", "TRUE", "FALSE",
    "jsonb", "numeric"]

/-- The operators and punctuation marks of statements. -/
def signs : List String :=
  ["(", ")", ",", "*", "::", "=", "<>", ">", ">=", "<", "<=", "~", "~*", "#>", "#>>"]

/-- Whether a token is a word or a sign of statements. -/
def Token.isFixed (token : Token) : Bool := token.isAmong keywords signs

/-- What a statement can be about: a table with its columns, numbers, and a number of bound
values. -/
structure Vocabulary where
  columns : ColumnSet
  numbers : List Nat
  parameters : Nat

namespace Vocabulary

/-- The tokens that a vocabulary allows. -/
inductive Contains (vocabulary : Vocabulary) : Token → Prop where
  | fixed {token : Token} (h : token.isFixed = true) : Contains vocabulary token
  | table : Contains vocabulary (.identifier vocabulary.columns.table)
  | column {column : Column} (h : column ∈ vocabulary.columns.columns) :
    Contains vocabulary (.identifier column.name)
  | pattern : Contains vocabulary (.literal numericPattern)
  | path {path : List String} (h : IsPath path) : Contains vocabulary (.literal (arrayText path))
  | parameter {index : Nat} (hfirst : 1 ≤ index) (hlast : index ≤ vocabulary.parameters) :
    Contains vocabulary (.parameter index)
  | number {n : Nat} (h : n ∈ vocabulary.numbers) : Contains vocabulary (.number (toString n))

/-- A text that consists of tokens of a vocabulary. -/
def Covers (vocabulary : Vocabulary) (text : String) : Prop :=
  ∃ tokens, lex text = some tokens ∧ ∀ token ∈ tokens, vocabulary.Contains token

variable {vocabulary : Vocabulary}

theorem contains_of_fixed {tokens : List Token} (h : tokens.all Token.isFixed = true) :
    ∀ token ∈ tokens, vocabulary.Contains token :=
  fun token htoken => .fixed (List.all_eq_true.1 h token htoken)

theorem contains_append {front back : List Token}
    (hf : ∀ token ∈ front, vocabulary.Contains token)
    (hb : ∀ token ∈ back, vocabulary.Contains token) :
    ∀ token ∈ front ++ back, vocabulary.Contains token :=
  List.forall_mem_append.2 ⟨hf, hb⟩

theorem contains_intercalate {between : List Token}
    (hb : ∀ token ∈ between, vocabulary.Contains token) : ∀ {parts : List (List Token)},
    (∀ part ∈ parts, ∀ token ∈ part, vocabulary.Contains token) →
    ∀ token ∈ between.intercalate parts, vocabulary.Contains token
  | [], _ => nofun
  | [part], h => by
    rw [List.intercalate_singleton]
    exact h part List.mem_cons_self
  | part :: next :: rest, h => by
    rw [List.intercalate_cons_cons]
    obtain ⟨hpart, hrest⟩ := List.forall_mem_cons.1 h
    exact contains_append (contains_append hpart hb) (contains_intercalate hb hrest)

end Vocabulary
end Sql

open Sql Vocabulary

section
variable {vocabulary : Vocabulary}

/-! ## Expressions and conditions -/

theorem Expr.contains_of_mem_tokens : ∀ expr : Expr, expr.Refers vocabulary.columns →
    ∀ token ∈ expr.tokens, vocabulary.Contains token
  | .column name, h => by
    obtain ⟨column, hcolumn, rfl⟩ := h
    exact List.forall_mem_singleton.2 (.column hcolumn)
  | .jsonText document path, h | .jsonNative document path, h => by
    obtain ⟨⟨column, hcolumn, rfl⟩, hpath⟩ := h
    simp only [tokens, extractTokens, List.forall_mem_append, List.forall_mem_singleton]
    exact ⟨⟨⟨⟨.fixed (by decide), .column hcolumn⟩, .fixed (by decide)⟩, .path hpath⟩,
      .fixed (by decide)⟩
  | .safeNumeric inner, h => by
    have hinner := contains_of_mem_tokens inner h
    simp only [tokens, safeNumericTokens, List.forall_mem_append]
    exact ⟨⟨⟨⟨⟨⟨contains_of_fixed (by decide), hinner⟩, contains_of_fixed (by decide)⟩,
      List.forall_mem_singleton.2 .pattern⟩, contains_of_fixed (by decide)⟩, hinner⟩,
      contains_of_fixed (by decide)⟩
  | .jsonb inner, h => by
    have hinner := contains_of_mem_tokens inner h
    exact contains_append hinner (contains_of_fixed (by decide))

theorem contains_of_mem_placeholderTokens {bound : Nat} (h : bound + 1 ≤ vocabulary.parameters)
    (value : Json) : ∀ token ∈ placeholderTokens bound value, vocabulary.Contains token := by
  have hparameter : ∀ token ∈ [Token.parameter (bound + 1)], vocabulary.Contains token :=
    List.forall_mem_singleton.2 (.parameter (Nat.le_add_left 1 bound) h)
  rw [placeholderTokens]
  split
  · exact contains_append hparameter (contains_of_fixed (by decide))
  · exact hparameter

theorem contains_of_mem_placeholdersTokens : ∀ {bound : Nat} {values : List Json},
    bound + values.length ≤ vocabulary.parameters →
    ∀ part ∈ placeholdersTokens bound values, ∀ token ∈ part, vocabulary.Contains token
  | _, [], _ => nofun
  | bound, value :: rest, h => by
    rw [List.length_cons] at h
    rw [placeholdersTokens, List.forall_mem_cons]
    exact ⟨contains_of_mem_placeholderTokens (by omega) value,
      contains_of_mem_placeholdersTokens (by omega)⟩

theorem isFixed_comparison (comparison : Comparison) :
    [Token.symbol comparison.sql].all Token.isFixed = true := by
  cases comparison <;> decide

theorem isFixed_likeTokens (ignoreCase negated : Bool) :
    (likeTokens ignoreCase negated).all Token.isFixed = true := by
  cases ignoreCase <;> cases negated <;> decide

theorem isFixed_regexOperator (ignoreCase : Bool) :
    [Token.symbol (regexOperator ignoreCase)].all Token.isFixed = true := by
  cases ignoreCase <;> decide

theorem isFixed_constant (value : Bool) :
    [Token.word (Sql.constant value)].all Token.isFixed = true := by
  cases value <;> decide

theorem isFixed_listTokens (negated : Bool) : (listTokens negated).all Token.isFixed = true := by
  cases negated <;> decide

namespace Predicate

theorem contains_of_mem_joinTokens {word : String} {empty : Bool} {parts : List (List Token)}
    (hword : [Token.word word].all Token.isFixed = true)
    (h : ∀ part ∈ parts, ∀ token ∈ part, vocabulary.Contains token) :
    ∀ token ∈ joinTokens word empty parts, vocabulary.Contains token := by
  cases parts with
  | nil => exact contains_of_fixed (isFixed_constant empty)
  | cons part rest =>
    have hterms := contains_intercalate (contains_of_fixed hword) h
    exact contains_append (contains_append (contains_of_fixed (by decide)) hterms)
      (contains_of_fixed (by decide))

mutual

/-- **The tokens of a condition on declared columns.**  The operands are bound after `bound` other
values, and all of them are among the bound ones. -/
theorem contains_of_mem_tokens : ∀ {predicate : Predicate} {bound : Nat},
    bound + predicate.operands.length ≤ vocabulary.parameters →
    (∀ expr ∈ predicate.exprs, expr.Refers vocabulary.columns) →
    ∀ token ∈ predicate.tokens bound, vocabulary.Contains token
  | .compare expr comparison value, bound, hb, he => by
    have hexpr := Expr.contains_of_mem_tokens expr (he expr (by simp [exprs, leaves, expr?]))
    exact contains_append (contains_append hexpr (contains_of_fixed (isFixed_comparison _)))
      (contains_of_mem_placeholderTokens hb value)
  | .isNull expr, _, _, he | .isNotNull expr, _, _, he => by
    have hexpr := Expr.contains_of_mem_tokens expr (he expr (by simp [exprs, leaves, expr?]))
    exact contains_append hexpr (contains_of_fixed (by decide))
  | .inList expr [] negated, _, _, _ => by
    rw [tokens]
    exact contains_of_fixed (isFixed_constant negated)
  | .inList expr (value :: rest) negated, bound, hb, he => by
    have hexpr := Expr.contains_of_mem_tokens expr (he expr (by simp [exprs, leaves, expr?]))
    have hcomma : [Token.symbol ","].all Token.isFixed = true := by decide
    have hvalues := contains_intercalate (contains_of_fixed hcomma)
      (contains_of_mem_placeholdersTokens hb)
    rw [tokens]
    exact contains_append (contains_append (contains_append hexpr
      (contains_of_fixed (isFixed_listTokens negated))) hvalues) (contains_of_fixed (by decide))
  | .between expr low high, bound, hb, he => by
    have hexpr := Expr.contains_of_mem_tokens expr (he expr (by simp [exprs, leaves, expr?]))
    have hlow : bound + 1 ≤ vocabulary.parameters := Nat.le_of_succ_le hb
    exact contains_append (contains_append (contains_append (contains_append hexpr
      (contains_of_fixed (by decide))) (contains_of_mem_placeholderTokens hlow low))
      (contains_of_fixed (by decide))) (contains_of_mem_placeholderTokens hb high)
  | .like expr pattern ignoreCase negated, bound, hb, he => by
    have hexpr := Expr.contains_of_mem_tokens expr (he expr (by simp [exprs, leaves, expr?]))
    exact contains_append (contains_append hexpr (contains_of_fixed (isFixed_likeTokens _ _)))
      (contains_of_mem_placeholderTokens hb (.string pattern))
  | .regex expr pattern ignoreCase, bound, hb, he => by
    have hexpr := Expr.contains_of_mem_tokens expr (he expr (by simp [exprs, leaves, expr?]))
    exact contains_append (contains_append hexpr (contains_of_fixed (isFixed_regexOperator _)))
      (contains_of_mem_placeholderTokens hb (.string pattern))
  | .and terms, _, hb, he | .or terms, _, hb, he =>
    contains_of_mem_joinTokens (by decide) (contains_of_mem_tokensOfTerms hb he)
  | .constant value, _, _, _ => contains_of_fixed (isFixed_constant value)

theorem contains_of_mem_tokensOfTerms : ∀ {terms : List Predicate} {bound : Nat},
    bound + (operandsOfTerms terms).length ≤ vocabulary.parameters →
    (∀ expr ∈ (leavesOfTerms terms).filterMap expr?, expr.Refers vocabulary.columns) →
    ∀ part ∈ tokensOfTerms bound terms, ∀ token ∈ part, vocabulary.Contains token
  | [], _, _, _ => nofun
  | term :: rest, bound, hb, he => by
    rw [operandsOfTerms, List.length_append] at hb
    rw [leavesOfTerms, List.filterMap_append, List.forall_mem_append] at he
    rw [tokensOfTerms, List.forall_mem_cons]
    exact ⟨contains_of_mem_tokens (by omega) he.1, contains_of_mem_tokensOfTerms (by omega) he.2⟩

end

end Predicate

/-! ## Order keys -/

namespace Order

variable {columns : ColumnSet}

/-- An order is about declared columns and accepted paths. -/
theorem refers_of_compile {entries : List String} {keys : List OrderKey}
    (h : compile columns entries = .ok keys) : ∀ key ∈ keys, key.expr.Refers columns := by
  intro key hkey
  obtain ⟨name, target, htarget, hexpr⟩ := resolve_of_compile h key hkey
  rw [hexpr]
  exact Target.refers_of_resolve htarget _ target.ordered_mem_exprs

end Order

theorem OrderKey.contains_of_mem_tokens {key : OrderKey}
    (h : key.expr.Refers vocabulary.columns) : ∀ token ∈ key.tokens, vocabulary.Contains token := by
  have hdirection : [Token.word key.direction.sql].all Token.isFixed = true := by
    cases key.direction <;> decide
  exact contains_append (Expr.contains_of_mem_tokens key.expr h) (contains_of_fixed hdirection)

/-! ## Statements -/

namespace Query

theorem contains_of_mem_selectTokens (projection : Option Projection) :
    ∀ token ∈ selectTokens vocabulary.columns projection, vocabulary.Contains token := by
  cases projection with
  | none => exact List.forall_mem_singleton.2 (.fixed (by decide))
  | some projection =>
    have hcomma : [Token.symbol ","].all Token.isFixed = true := by decide
    refine contains_intercalate (contains_of_fixed hcomma) fun part hpart => ?_
    obtain ⟨name, hname, rfl⟩ := List.mem_map.1 hpart
    obtain ⟨column, hcolumn, rfl⟩ := List.mem_map.1 hname
    exact List.forall_mem_singleton.2 (.column (List.mem_filter.1 hcolumn).1)

theorem contains_of_mem_whereTokens {condition : Option Predicate}
    (hb : ∀ predicate ∈ condition, predicate.operands.length ≤ vocabulary.parameters)
    (he : ∀ predicate ∈ condition, ∀ expr ∈ predicate.exprs, expr.Refers vocabulary.columns) :
    ∀ token ∈ whereTokens condition, vocabulary.Contains token := by
  cases condition with
  | none => exact nofun
  | some predicate =>
    have hbound : 0 + predicate.operands.length ≤ vocabulary.parameters := by
      rw [Nat.zero_add]
      exact hb predicate rfl
    exact List.forall_mem_cons.2 ⟨.fixed (by decide),
      Predicate.contains_of_mem_tokens hbound (he predicate rfl)⟩

theorem contains_of_mem_orderTokens {order : Option (List OrderKey)}
    (h : ∀ keys ∈ order, ∀ key ∈ keys, key.expr.Refers vocabulary.columns) :
    ∀ token ∈ orderTokens order, vocabulary.Contains token := by
  match order with
  | none => exact nofun
  | some [] => exact nofun
  | some (key :: rest) =>
    have hcomma : [Token.symbol ","].all Token.isFixed = true := by decide
    refine contains_append (contains_of_fixed (by decide))
      (contains_intercalate (contains_of_fixed hcomma) fun part hpart => ?_)
    obtain ⟨key', hkey, rfl⟩ := List.mem_map.1 hpart
    exact OrderKey.contains_of_mem_tokens (h _ rfl key' hkey)

theorem contains_of_mem_countTokens {word : String} {count : Option UInt64}
    (hword : [Token.word word].all Token.isFixed = true)
    (h : ∀ n ∈ count, n.toNat ∈ vocabulary.numbers) :
    ∀ token ∈ countTokens word count, vocabulary.Contains token := by
  cases count with
  | none => exact nofun
  | some n =>
    exact contains_append (contains_of_fixed hword) (List.forall_mem_singleton.2 (.number (h n rfl)))

end Query

end

namespace Query

/-- What the statement of a query on a table can be made of. -/
def vocabulary (columns : ColumnSet) (query : Query) : Vocabulary where
  columns := columns
  numbers := query.limit.toList.map UInt64.toNat ++ query.offset.toList.map UInt64.toNat
  parameters := query.parameters.length

/-- **A statement consists of what the query is about**, if the query is about declared columns and
accepted paths. -/
theorem covers_of_sql {columns : ColumnSet} {query : Query} {text : String}
    (h : query.sql columns = .ok text)
    (hcondition : ∀ predicate ∈ query.condition, ∀ expr ∈ predicate.exprs, expr.Refers columns)
    (horder : ∀ keys ∈ query.order, ∀ key ∈ keys, key.expr.Refers columns) :
    (query.vocabulary columns).Covers text := by
  have hparameters : ∀ predicate ∈ query.condition,
      predicate.operands.length ≤ (query.vocabulary columns).parameters := by
    intro predicate hpredicate
    have hoperands : query.parameters = predicate.operands := by
      rw [parameters, Option.mem_def.1 hpredicate]
    exact Nat.le_of_eq (congrArg List.length hoperands.symm)
  have hlimit : ∀ count ∈ query.limit, count.toNat ∈ (query.vocabulary columns).numbers :=
    fun count hcount => List.mem_append_left _ (List.mem_map_of_mem (Option.mem_toList.2 hcount))
  have hoffset : ∀ count ∈ query.offset, count.toNat ∈ (query.vocabulary columns).numbers :=
    fun count hcount => List.mem_append_right _ (List.mem_map_of_mem (Option.mem_toList.2 hcount))
  have hselect : ∀ token ∈ selectTokens (query.vocabulary columns).columns query.projection,
      (query.vocabulary columns).Contains token :=
    contains_of_mem_selectTokens query.projection
  refine ⟨query.tokens columns, lex_sql h, ?_⟩
  simp only [tokens, List.forall_mem_append]
  exact ⟨⟨⟨⟨⟨⟨contains_of_fixed (by decide), hselect⟩, contains_of_fixed (by decide)⟩,
    List.forall_mem_singleton.2 .table⟩, contains_of_mem_whereTokens hparameters hcondition⟩,
    contains_of_mem_orderTokens horder⟩, contains_of_mem_countTokens (by decide) hlimit,
    contains_of_mem_countTokens (by decide) hoffset⟩

end Query

/-! ## Texts of filters -/

namespace ColumnSet

theorem mem_of_mem_distinct {column : Column} : ∀ {columns : List Column} {seen : List String},
    column ∈ distinct seen columns → column ∈ columns
  | [], _, h => h
  | first :: rest, seen, h => by
    rw [distinct] at h
    split at h
    · exact List.mem_cons_of_mem _ (mem_of_mem_distinct h)
    · rcases List.mem_cons.1 h with rfl | h
      · exact List.mem_cons_self
      · exact List.mem_cons_of_mem _ (mem_of_mem_distinct h)

/-- The resolved columns of a table are declared ones. -/
theorem declared_of_ofSchema {schema : TableSchema} {columns : ColumnSet}
    (h : ofSchema schema = .ok columns) :
    columns.table = schema.name ∧ ∀ column ∈ columns.columns, column ∈ schema.columns := by
  obtain ⟨-, rfl⟩ := ofSchema_eq_ok_iff.1 h
  exact ⟨rfl, fun column hcolumn => mem_of_mem_distinct hcolumn⟩

end ColumnSet

namespace Compiler

variable {compiler : Compiler} {schema : TableSchema} {before between after : Journal}
  {query : Query}

/-- How the text of a filter compiles.  The columns of the table are known afterwards. -/
theorem compiled_of_ran_compileText {text : String}
    (h : Ran (compileText compiler schema text) before query between) :
    ∃ columns filter, (before.cache.resolve schema).1 = .ok columns ∧
      NameMap.find? schema.name between.cache = some columns ∧
      Compiled schema.name columns filter query := by
  obtain ⟨_, warned, hwarn, h⟩ := ran_bind_iff.1 h
  obtain ⟨filter, _, hfilter, hcompile⟩ := ran_bind_iff.1 h
  obtain ⟨-, rfl⟩ := ran_check_iff.1 hfilter
  have hwarned : before.cache = warned.cache := by rw [← ran_warn_iff.1 hwarn]
  obtain ⟨columns, resolved, start, hresolve, hstart, hcompiled, hincluded⟩ :=
    ran_compileAt hcompile
  have hcache := ran_resolve hresolve
  have hfind : NameMap.find? schema.name start.cache = some columns := by
    rw [← hstart]
    exact ColumnCache.find?_of_resolve hcache
  refine ⟨columns, filter, by rw [hwarned, hcache], ?_, hcompiled⟩
  rcases hincluded with ⟨-, rfl, -⟩ | ⟨items, entries, -, -, hentries⟩
  · exact hfind
  · have hkeeps := (repeatable_compileIncluded compiler 0 schema [] items).keeps start
    exact hentries.left_eq ▸ hkeeps _ _ hfind

/-- **Nothing of a request reaches a statement but what was looked up.**  Whatever the text of a
filter is, its statement consists of the name of the table, names of resolved columns, accepted
paths, fixed words and signs, placeholders of bound values and the limits.  The resolved columns are
declared ones, unless the journal knows others under the name of the table. -/
theorem covers_of_ran_select {text sql : String} {parameters : List Json}
    (hcompile : Ran (compiler.compileText schema text) before query between)
    (hrender : Ran (renderQuery schema query) between (sql, parameters) after) :
    ∃ columns, (before.cache.resolve schema).1 = .ok columns ∧
      (before.Agrees schema → columns.table = schema.name ∧
        ∀ column ∈ columns.columns, column ∈ schema.columns) ∧
      query.parameters = parameters ∧ (query.vocabulary columns).Covers sql := by
  obtain ⟨columns, filter, hcolumns, hfind, hcompiled⟩ := compiled_of_ran_compileText hcompile
  obtain ⟨known, _, hresolve, hquery⟩ := ran_bind_iff.1 hrender
  obtain ⟨hanswer, rfl⟩ := ran_check_iff.1 hquery
  obtain rfl := hresolve.resolve_eq hfind
  obtain ⟨text, hsql, htext⟩ := bind_eq_ok_iff.1 hanswer
  cases htext
  refine ⟨known, hcolumns, fun hj => ColumnSet.declared_of_ofSchema (hj.ofSchema_eq hcolumns), rfl,
    Query.covers_of_sql hsql (fun predicate hpredicate => ?_) fun keys hkeys => ?_⟩
  · obtain ⟨clause, -, hclause⟩ := hcompiled.condition hpredicate
    exact Clause.refers_of_mem_exprs hclause
  · obtain ⟨entries, -, hentries⟩ := hcompiled.order hkeys
    exact Order.refers_of_compile hentries

/-- Notes with a document each. -/
def notes : TableSchema := ⟨"notes", [⟨"id", .integer⟩, ⟨"data", .jsonb⟩]⟩

theorem covers_of_ran_select_notes : ∃ query between after parameters sql columns,
    Ran (compileText {} notes
      "\x7b\"where\":\x7b\"data.a\":\x7b\"gt\":5\x7d\x7d,\"order\":[\"id desc\"],\"limit\":3\x7d")
      {} query between ∧
    Ran (renderQuery notes query) between (sql, parameters) after ∧
    sql = "SELECT * FROM \"notes\" WHERE (CASE WHEN (\"data\" #>> '\x7b\"a\"\x7d') ~ " ++
      "'^[-+]?[0-9]+(\\.[0-9]+)?$' THEN ((\"data\" #>> '\x7b\"a\"\x7d'))::numeric END) > $1 " ++
      "ORDER BY \"id\" DESC LIMIT 3" ∧
    columns.table = "notes" ∧ (∀ column ∈ columns.columns, column ∈ notes.columns) ∧
    (query.vocabulary columns).Covers sql := by
  let select : CompileM (String × List Json) := do
    let query ← compileText {} notes
      "\x7b\"where\":\x7b\"data.a\":\x7b\"gt\":5\x7d\x7d,\"order\":[\"id desc\"],\"limit\":3\x7d"
    renderQuery notes query
  have hrun : (select.run.run {}).1.toOption.map Prod.fst =
      some ("SELECT * FROM \"notes\" WHERE (CASE WHEN (\"data\" #>> '\x7b\"a\"\x7d') ~ " ++
        "'^[-+]?[0-9]+(\\.[0-9]+)?$' THEN ((\"data\" #>> '\x7b\"a\"\x7d'))::numeric END) > $1 " ++
        "ORDER BY \"id\" DESC LIMIT 3") := by
    decide +kernel
  obtain ⟨⟨sql, parameters⟩, after, hselect, hsql⟩ := exists_ran hrun
  obtain ⟨query, between, hcompile, hrender⟩ := ran_bind_iff.1 hselect
  obtain ⟨columns, -, hdeclared, -, hcovers⟩ := covers_of_ran_select hcompile hrender
  obtain ⟨htable, hcolumns⟩ := hdeclared (Journal.agrees_empty notes)
  exact ⟨query, between, after, parameters, sql, columns, hcompile, hrender, hsql, htable, hcolumns,
    hcovers⟩

end Compiler
end ClauseSql
