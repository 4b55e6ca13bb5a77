import ClauseSql.Proofs.ArrayLiteral
import ClauseSql.Proofs.Target
import ClauseSql.Proofs.Tokens

/-!
# What path literals denote

A path goes into a statement as a literal within a literal: an array of texts, and the text of that
array as a string.  Its segments are written without escapes.  Both readers give them back all the same,
because a segment that is accepted has no character that means anything to either of them.

## What is here

* `Sql.readLiteral` and `Sql.readPath` — the text that a string literal stands for, and the elements of
  the array that this text is.
* `JsonPath.LeadsAlong` — the paths on the way to where a key leads, as they are needed to create what
  is missing there.
* `JsonPath.denotes_path` — the literal of such a path denotes this path, and no other one has it.
-/

set_option autoImplicit false

namespace ClauseSql
namespace Sql

/-- The text that a string literal stands for. -/
def readLiteral (sql : String) : Option String :=
  match lex sql with
  | some [.literal text] => some text
  | _ => none

/-- The elements of the array that a literal stands for; none of it where an element is no text. -/
def readPath (sql : String) : Option (List (Option String)) :=
  (readLiteral sql).bind readArray

theorem readLiteral_literal (text : String) : readLiteral (literal text) = some text := by
  rw [readLiteral, lex_literal]

example : readPath "'\x7bnull,\"it''s\",\"null\"\x7d'" = some [none, some "it's", some "null"] := by
  decide +kernel

theorem readPath_pathLiteral {path : List String} (h : ∀ segment ∈ path, isSegment segment = true) :
    readPath (pathLiteral path) = some (path.map some) := by
  rw [readPath, pathLiteral, readLiteral_literal, Option.bind_some,
    readArray_arrayText_of_isSegment h]

/-- What a literal denotes tells its path. -/
theorem pathLiteral_inj {path other : List String} (h : ∀ segment ∈ path, isSegment segment = true)
    (hother : ∀ segment ∈ other, isSegment segment = true) :
    pathLiteral other = pathLiteral path ↔ other = path := by
  refine ⟨fun heq => ?_, congrArg pathLiteral⟩
  have hsame : some (other.map some) = some (path.map some) := by
    rw [← readPath_pathLiteral hother, heq, readPath_pathLiteral h]
  exact (List.map_inj_right fun _ _ => Option.some.inj).1 (Option.some.inj hsame)

end Sql

namespace JsonPath

/-- Some segments, one or more, with which the path of a key begins. -/
def LeadsAlong (columns : ColumnSet) (stage : Stage) (key : String) (path : List String) : Prop :=
  path ≠ [] ∧ ∃ document segments,
    resolve columns stage key = .ok (document, segments) ∧ path <+: segments

theorem LeadsAlong.isSegment {columns : ColumnSet} {stage : Stage} {key : String}
    {path : List String} (h : LeadsAlong columns stage key path) :
    ∀ segment ∈ path, isSegment segment = true := by
  obtain ⟨-, document, segments, hresolve, hbegins⟩ := h
  obtain ⟨-, -, ⟨-, hsegments⟩, -⟩ := resolve_eq_ok_iff.1 hresolve
  exact fun segment hmem => hsegments segment (hbegins.subset hmem)

/-- **The literal of a path denotes the path.**  Read as a string and then as an array, it gives the
segments and nothing else, each of them as a text, also one that spells null.  Hence paths that keys
lead along have the same literal only if they are the same. -/
theorem denotes_path {columns : ColumnSet} {stage : Stage} {key : String} {path : List String}
    (h : LeadsAlong columns stage key path) :
    Sql.readPath (Sql.pathLiteral path) = some (path.map some) ∧
      ∀ {columns : ColumnSet} {stage : Stage} {key : String} {other : List String},
        LeadsAlong columns stage key other →
        (Sql.pathLiteral other = Sql.pathLiteral path ↔ other = path) :=
  ⟨Sql.readPath_pathLiteral h.isSegment, fun hother =>
    Sql.pathLiteral_inj h.isSegment hother.isSegment⟩

/-- A segment that spells null is a text, and so is one with a hyphen. -/
theorem denotes_path_null :
    let documents : ColumnSet := ⟨"t", [⟨"doc", .jsonb⟩]⟩
    LeadsAlong documents .condition "doc.NULL[a-b].0" ["NULL", "a-b"] ∧
      Sql.pathLiteral ["NULL", "a-b"] = "'\x7b\"NULL\",\"a-b\"\x7d'" ∧
      Sql.readPath "'\x7b\"NULL\",\"a-b\"\x7d'" = some [some "NULL", some "a-b"] := by
  intro documents
  have hresolve : resolve documents .condition "doc.NULL[a-b].0" =
      .ok (⟨"doc", .jsonb⟩, ["NULL", "a-b", "0"]) := by with_unfolding_all rfl
  have hleads : LeadsAlong documents .condition "doc.NULL[a-b].0" ["NULL", "a-b"] :=
    ⟨List.cons_ne_nil _ _, _, _, hresolve, ["0"], rfl⟩
  obtain ⟨hdenotes, -⟩ := denotes_path hleads
  exact ⟨hleads, rfl, hdenotes⟩

end JsonPath
end ClauseSql
