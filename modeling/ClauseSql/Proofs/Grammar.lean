import ClauseSql.Predicate
import ClauseSql.Proofs.ArrayLiteral
import ClauseSql.Proofs.Lexer

/-!
# The grammar of conditions

A text is read as the database reads an expression, with no regard to how it was written.  Only what
conditions are made of is covered; all else is not read.  What stands in parentheses, or between CASE
and END, is read first and counts as one item from then on.  Between two brackets the items are taken
apart at what binds loosest: OR, then AND, IS, comparisons, the keywords of matches, operators, and
last the casts.  The first AND after a BETWEEN belongs to the BETWEEN.

## What is here

* `Term` — what an expression is read as.
* `Item` and `splitBy` — what stands beside each other between brackets, and how it is taken apart.
* `casts`, `operators`, `matching`, `comparison`, `nullTest`, `conjunction` and `disjunction` — the
  terms that items are, from what binds tightest to what binds loosest.
* `itemsFrom` and `readTerm` — the items, and the term, that tokens are.
* `Term.expr?`, `Term.value?` and `Term.predicate?` — the expression, the bound value or the predicate
  that a term is.
* `Predicate.ofText?` — the predicate that a text is, with values for its placeholders.
-/

set_option autoImplicit false

namespace ClauseSql
namespace Sql

/-! ## Terms -/

/-- What an expression is read as. -/
inductive Term where
  | name (name : String)
  | text (text : String)
  | parameter (index : Nat)
  | truth (value : Bool)
  | cast (term : Term) (type : String)
  | operator (sign : String) (left right : Term)
  | like (ignoreCase negated : Bool) (term pattern : Term)
  | oneOf (negated : Bool) (term : Term) (members : List Term)
  | between (negated : Bool) (term low high : Term)
  | isNull (negated : Bool) (term : Term)
  /-- A case with one branch. -/
  | whenThen (condition result : Term)
  | and (terms : List Term)
  | or (terms : List Term)
deriving Repr

/-- What stands between two brackets: tokens, and what was read in brackets before. -/
inductive Item where
  | token (token : Token)
  /-- Terms in parentheses. -/
  | enclosed (terms : List Term)
  /-- A term that ends by itself. -/
  | whole (term : Term)
deriving Repr

/-! ## Taking items apart -/

/-- The text of an item, if it is one of some words and signs. -/
def Item.among (words signs : List String) : Item → Option String
  | .token (.word text) => if text ∈ words then some text else none
  | .token (.symbol text) => if text ∈ signs then some text else none
  | _ => none

/-- The items before the first separator, and each separator with the items after it. -/
def splitBy (separator : Item → Option String) : List Item → List Item × List (String × List Item)
  | [] => ([], [])
  | item :: rest =>
    let (first, others) := splitBy separator rest
    match separator item with
    | some text => ([], (text, first) :: others)
    | none => (item :: first, others)

/-- The parts that separators make of items. -/
def parts (separator : Item → Option String) (items : List Item) : List (List Item) :=
  (splitBy separator items).1 :: (splitBy separator items).2.map Prod.snd

/-- The signs of comparisons, which bind looser than other operators. -/
def comparisonSigns : List String := ["=", "<>", ">", ">=", "<", "<="]

/-- The signs of operators. -/
def operatorSigns : List String := ["#>>", "#>", "~", "~*"]

/-- The keywords of matches. -/
def matchWords : List String := ["NOT", "IN", "LIKE", "ILIKE", "BETWEEN", "AND"]

/-- The term that a single item is. -/
def primary : Item → Option Term
  | .token (.identifier name) => some (.name name)
  | .token (.literal text) => some (.text text)
  | .token (.parameter index) => some (.parameter index)
  | .token (.word "TRUE") => some (.truth true)
  | .token (.word "FALSE") => some (.truth false)
  | .enclosed [term] => some term
  | .whole term => some term
  | _ => none

/-- A term with the casts after it. -/
def castsOf (term : Term) : List Item → Option Term
  | [] => some term
  | .token (.symbol "::") :: .token (.word type) :: rest => castsOf (.cast term type) rest
  | _ => none

/-- A single item with casts after it. -/
def casts : List Item → Option Term
  | [] => none
  | first :: rest => (primary first).bind (castsOf · rest)

/-- Operators of one strength, applied from left to right. -/
def operatorsOf (left : Term) : List (String × List Item) → Option Term
  | [] => some left
  | (sign, items) :: rest => (casts items).bind fun right => operatorsOf (.operator sign left right) rest

/-- Operands with operators between them. -/
def operators (items : List Item) : Option Term :=
  let (first, others) := splitBy (Item.among [] operatorSigns) items
  (casts first).bind (operatorsOf · others)

/-- The match that a keyword, or BETWEEN with its AND, makes of a term. -/
def matchOf (negated : Bool) (term : Term) : List (String × List Item) → Option Term
  | [("IN", [.enclosed members])] => some (.oneOf negated term members)
  | [("LIKE", pattern)] => (operators pattern).map (.like false negated term)
  | [("ILIKE", pattern)] => (operators pattern).map (.like true negated term)
  | [("BETWEEN", low), ("AND", high)] => do
    return .between negated term (← operators low) (← operators high)
  | _ => none

/-- What keywords make of a term.  A match may be negated. -/
def matchFrom (term : Term) : List (String × List Item) → Option Term
  | [] => some term
  | ("NOT", []) :: rest => matchOf true term rest
  | rest => matchOf false term rest

/-- A match, or what binds tighter. -/
def matching (items : List Item) : Option Term :=
  let (subject, others) := splitBy (Item.among matchWords []) items
  (operators subject).bind (matchFrom · others)

/-- A comparison, or what binds tighter.  Comparisons do not chain. -/
def comparison (items : List Item) : Option Term :=
  match splitBy (Item.among [] comparisonSigns) items with
  | (subject, []) => matching subject
  | (left, [(sign, right)]) => do return .operator sign (← matching left) (← matching right)
  | _ => none

/-- A null check, or what binds tighter. -/
def nullTest (items : List Item) : Option Term :=
  match splitBy (Item.among ["IS"] []) items with
  | (subject, []) => comparison subject
  | (subject, [(_, [.token (.word "NULL")])]) => (comparison subject).map (.isNull false)
  | (subject, [(_, [.token (.word "NOT"), .token (.word "NULL")])]) =>
    (comparison subject).map (.isNull true)
  | _ => none

/-- How many BETWEENs wait for their AND after an item, where `owed` did before it; none if the item
is an AND that no BETWEEN waits for. -/
def owedAfter : Nat → Item → Option Nat
  | owed, .token (.word "BETWEEN") => some (owed + 1)
  | 0, .token (.word "AND") => none
  | owed + 1, .token (.word "AND") => some owed
  | owed, _ => some owed

/-- The parts that AND makes of items, where `owed` BETWEENs wait for theirs: the items before the
first AND that belongs to none of them, and the parts after it. -/
def conjuncts (owed : Nat) : List Item → List Item × List (List Item)
  | [] => ([], [])
  | item :: rest =>
    match owedAfter owed item with
    | some owed => (item :: (conjuncts owed rest).1, (conjuncts owed rest).2)
    | none => ([], (conjuncts 0 rest).1 :: (conjuncts 0 rest).2)

/-- The term that several parts make, or a single one is. -/
def joinParts (join : List Term → Term) : List Term → Term
  | [only] => only
  | terms => join terms

/-- Conditions with AND between them. -/
def conjunction (items : List Item) : Option Term :=
  (((conjuncts 0 items).1 :: (conjuncts 0 items).2).mapM nullTest).map (joinParts .and)

/-- Conditions with OR between them. -/
def disjunction (items : List Item) : Option Term :=
  ((parts (Item.among ["OR"] []) items).mapM conjunction).map (joinParts .or)

/-! ## Brackets -/

/-- Terms with commas between them. -/
def members (items : List Item) : Option (List Term) :=
  (parts (Item.among [] [","]) items).mapM disjunction

/-- The one branch of a case. -/
def branch (items : List Item) : Option Term :=
  match splitBy (Item.among ["WHEN", "THEN"] []) items with
  | ([], [("WHEN", condition), ("THEN", result)]) => do
    return .whenThen (← disjunction condition) (← disjunction result)
  | _ => none

/-- The two kinds of brackets. -/
inductive Bracket where
  | parentheses
  | case
deriving DecidableEq, Repr

/-- The item that brackets make of the items inside. -/
def Bracket.read : Bracket → List Item → Option Item
  | .parentheses, items => (members items).map .enclosed
  | .case, items => (branch items).map .whole

/-- The bracket that a token opens. -/
def Token.opens? : Token → Option Bracket
  | .symbol "(" => some .parentheses
  | .word "CASE" => some .case
  | _ => none

/-- The bracket that a token closes. -/
def Token.closes? : Token → Option Bracket
  | .symbol ")" => some .parentheses
  | .word "END" => some .case
  | _ => none

/-- The items that tokens are, inside of open brackets and after the items in `before`.  These, and
the items before each open bracket, are held last one first. -/
def itemsFrom (outside : List (Bracket × List Item)) (before : List Item) :
    List Token → Option (List Item)
  | [] => if outside.isEmpty then some before.reverse else none
  | token :: rest =>
    match token.opens?, token.closes?, outside with
    | some bracket, _, outside => itemsFrom ((bracket, before) :: outside) [] rest
    | none, some bracket, (opened, outer) :: outside =>
      if opened = bracket then
        (bracket.read before.reverse).bind fun item => itemsFrom outside (item :: outer) rest
      else none
    | none, some _, [] => none
    | none, none, outside => itemsFrom outside (.token token :: before) rest

/-- The term that tokens are. -/
def readTerm (tokens : List Token) : Option Term := (itemsFrom [] [] tokens).bind disjunction

example :
    (lex "\"a\" BETWEEN $1 AND $2::jsonb AND (TRUE OR \"b\" IS NULL) OR \"c\" #>> 'd' ~ 'e'").bind
      readTerm = some (.or [
        .and [.between false (.name "a") (.parameter 1) (.cast (.parameter 2) "jsonb"),
          .or [.truth true, .isNull false (.name "b")]],
        .operator "~" (.operator "#>>" (.name "c") (.text "d")) (.text "e")]) := by
  rfl

/-! ## What terms are -/

/-- The path that the text of an array is; none of its elements is null. -/
def path? (text : String) : Option (List String) := (readArray text).bind (·.mapM id)

theorem path?_arrayText {path : List String} (h : ∀ segment ∈ path, isSegment segment = true) :
    path? (arrayText path) = some path := by
  rw [path?, readArray_arrayText_of_isSegment h, Option.bind_some, List.mapM_map]
  exact (List.mapM_pure (m := Option) (f := id)).trans (congrArg some (List.map_id path))

namespace Term

/-- The expression that a term is. -/
def expr? : Term → Option Expr
  | .name column => some (.column column)
  | .operator "#>>" (.name document) (.text path) => (path? path).map (.jsonText document)
  | .operator "#>" (.name document) (.text path) => (path? path).map (.jsonNative document)
  | .cast term "jsonb" => term.expr?.map .jsonb
  | .whenThen (.operator "~" subject (.text pattern)) (.cast result "numeric") => do
    let expr ← subject.expr?
    let again ← result.expr?
    if pattern = numericPattern ∧ again = expr then some (.safeNumeric expr) else none
  | _ => none

variable (values : List Json)

/-- The value that a placeholder, with or without a cast, stands for. -/
def value? : Term → Option Json
  | .parameter (index + 1) => values[index]?
  | .cast (.parameter (index + 1)) "jsonb" => values[index]?
  | _ => none

/-- The text that a placeholder stands for. -/
def string? (term : Term) : Option String :=
  match value? values term with
  | some (.string content) => some content
  | _ => none

/-- The predicate that an operator makes. -/
def operation? (sign : String) (left right : Term) : Option Predicate :=
  match sign with
  | "=" => compared .eq
  | "<>" => compared .ne
  | ">" => compared .gt
  | ">=" => compared .gte
  | "<" => compared .lt
  | "<=" => compared .lte
  | "~" => matched false
  | "~*" => matched true
  | _ => none
where
  /-- A comparison. -/
  compared (comparison : Comparison) : Option Predicate := do
    return .compare (← left.expr?) comparison (← value? values right)
  /-- A match of a regular expression. -/
  matched (ignoreCase : Bool) : Option Predicate := do
    return .regex (← left.expr?) (← string? values right) ignoreCase

mutual

/-- The predicate that a term is, with values for its placeholders. -/
def predicate? : Term → Option Predicate
  | .truth value => some (.constant value)
  | .operator sign left right => operation? values sign left right
  | .like ignoreCase negated term pattern => do
    return .like (← term.expr?) (← string? values pattern) ignoreCase negated
  | .oneOf negated term members => do
    return .inList (← term.expr?) (← members.mapM (value? values)) negated
  | .between false term low high => do
    return .between (← term.expr?) (← value? values low) (← value? values high)
  | .isNull false term => term.expr?.map .isNull
  | .isNull true term => term.expr?.map .isNotNull
  | .and terms => (predicates? terms).map .and
  | .or terms => (predicates? terms).map .or
  | _ => none

/-- The predicates that terms are. -/
def predicates? : List Term → Option (List Predicate)
  | [] => some []
  | term :: rest => do return (← predicate? term) :: (← predicates? rest)

end

end Term
end Sql

/-- The predicate that a text is, with values for its placeholders. -/
def Predicate.ofText? (values : List Json) (text : String) : Option Predicate :=
  ((Sql.lex text).bind Sql.readTerm).bind (Sql.Term.predicate? values)

end ClauseSql
