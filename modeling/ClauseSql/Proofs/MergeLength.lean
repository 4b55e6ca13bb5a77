import ClauseSql.Proofs.MergeText
import Mathlib.Algebra.GroupWithZero.Nat

/-!
# How long merge expressions are

Every update to a column puts text around the expression of those before it, and the text depends on
its own path and value alone.  So the expression of a column grows by the same amount for an update,
however many there are.

## What is here

* `Frame` — text on either side of another, and `Frame.around`, that of many updates.
* `Frame.ofPlace` and `DocExpr.sql_deepSet` — what setting a value at a path puts around a document.
* `Update.merges_grow_by_updates` — the text of a merge expression, and how long it is.
-/

set_option autoImplicit false

namespace ClauseSql

open DocExpr (documentName)

/-! ## Frames -/

/-- Text on either side of another. -/
structure Frame where
  before : String
  after : String

namespace Frame

/-- A text with a frame around it. -/
def fill (frame : Frame) (text : String) : String := frame.before ++ text ++ frame.after

/-- How many bytes a frame adds. -/
def bytes (frame : Frame) : Nat := frame.before.utf8ByteSize + frame.after.utf8ByteSize

/-- A text with many frames around it, the first of them innermost. -/
def around (frames : List Frame) (text : String) : String :=
  frames.foldl (fun text frame => frame.fill text) text

theorem utf8ByteSize_fill (frame : Frame) (text : String) :
    (frame.fill text).utf8ByteSize = text.utf8ByteSize + frame.bytes := by
  rw [fill, bytes, String.utf8ByteSize_append, String.utf8ByteSize_append]
  omega

/-- Each frame adds its bytes once. -/
theorem utf8ByteSize_around (frames : List Frame) : ∀ text : String,
    (around frames text).utf8ByteSize = text.utf8ByteSize + (frames.map bytes).sum := by
  induction frames with
  | nil => exact fun text => rfl
  | cons frame frames ih =>
    intro text
    rw [around, List.foldl_cons, ← around, ih, utf8ByteSize_fill, List.map_cons, List.sum_cons,
      Nat.add_assoc]

/-! ## Steps -/

/-- What setting a value puts around a document. -/
def ofSetAt (path : List String) (value : String) : Frame :=
  ⟨"jsonb_set(", ", " ++ Sql.pathLiteral path ++ ", " ++ value ++ ", true)"⟩

/-- What naming a document for a body puts around it. -/
def ofBind (name body : String) : Frame :=
  ⟨"(SELECT " ++ body ++ " FROM (SELECT ",
    " AS " ++ Sql.identifier name ++ ") AS " ++ Sql.identifier "src" ++ ")"⟩

theorem setAt_eq_fill (document : String) (path : List String) (value : String) :
    Sql.setAt document path value = (ofSetAt path value).fill document := by
  unfold Sql.setAt fill ofSetAt
  dsimp only
  ac_rfl

theorem bind_eq_fill (document name body : String) :
    Sql.bind document name body = (ofBind name body).fill document := by
  unfold Sql.bind fill ofBind
  dsimp only
  ac_rfl

/-- What setting a value at a path with its parents puts around a document.  The parents of a longer
path are read from the name that the document is given. -/
def ofPlace : List String × Json → Frame
  | (first :: second :: rest, value) =>
    let segments := first :: second :: rest
    let parents := (DocExpr.name documentName).withParents [] segments
    ofBind documentName (Sql.setAt parents.sql segments (Sql.jsonLiteral value))
  | (segments, value) => ofSetAt segments (Sql.jsonLiteral value)

/-- What the type of a column puts around its document. -/
def ofType (type : ColumnType) : Frame := if type = .json then ⟨"(", ")::json"⟩ else ⟨"", ""⟩

theorem bytes_ofType (type : ColumnType) : (ofType type).bytes = if type = .json then 8 else 0 := by
  rw [ofType]
  split <;> rfl

end Frame

/-- **A step writes the document once.** -/
theorem DocExpr.sql_deepSet (document : DocExpr) (segments : List String) (value : Json) :
    (document.deepSet segments value).sql = (Frame.ofPlace (segments, value)).fill document.sql := by
  match segments with
  | [] | [_] => exact Frame.setAt_eq_fill _ _ _
  | _ :: _ :: _ => exact Frame.bind_eq_fill _ _ _

namespace Update

/-- The text of the document of a column with values set at places. -/
theorem sql_mergeDocument (column : Column) (places : List (List String × Json)) :
    (mergeDocument column places).sql = (Frame.ofType column.type).fill
      (Frame.around (places.map Frame.ofPlace) (DocExpr.ofColumn column).sql) := by
  have hsteps : ∀ document : DocExpr,
      (places.foldl (fun document place => document.deepSet place.1 place.2) document).sql =
        Frame.around (places.map Frame.ofPlace) document.sql := by
    induction places with
    | nil => exact fun _ => rfl
    | cons place places ih =>
      intro document
      rw [List.foldl_cons, ih, DocExpr.sql_deepSet, List.map_cons, Frame.around, Frame.around,
        List.foldl_cons]
  rw [mergeDocument, DocExpr.toColumn, Frame.ofType, ← hsteps]
  split
  · rfl
  · rw [Frame.fill, String.empty_append, String.append_empty]

/-- **Merge expressions grow linearly.**  Setting a value at a path writes the document once, in a
frame that depends on the path and the value alone.  A merge expression has such a frame for each of
the places that are set in its column.  So its length is that of the document of the column, with an
amount for each of the places, and with eight bytes more in a column of the plain type. -/
theorem merges_grow_by_updates {columns : ColumnSet} {members : Members} {update : Update}
    {name : String} (h : compile columns members = .ok update) (hne : places name members ≠ []) :
    (∀ (document : DocExpr) (place : List String × Json),
      (document.deepSet place.1 place.2).sql = (Frame.ofPlace place).fill document.sql) ∧
    ∃ column text, columns.find? name = some column ∧
      NameMap.find? name update.merges = some text ∧
      text = (Frame.ofType column.type).fill
        (Frame.around ((places name members).map Frame.ofPlace) (DocExpr.ofColumn column).sql) ∧
      text.utf8ByteSize = (DocExpr.ofColumn column).sql.utf8ByteSize +
        (if column.type = .json then 8 else 0) +
        ((places name members).map fun place => (Frame.ofPlace place).bytes).sum := by
  obtain ⟨column, hcolumn, hdocument, -⟩ := exists_column_of_compile h hne
  have htext := sql_mergeDocument column (places name members)
  refine ⟨fun document place => document.sql_deepSet place.1 place.2, column, _, hcolumn, ?_, htext,
    ?_⟩
  · rw [find?_merges, hdocument]
    rfl
  · rw [htext, Frame.utf8ByteSize_fill, Frame.utf8ByteSize_around, Frame.bytes_ofType, List.map_map,
      Nat.add_right_comm]
    rfl

/-- Three places in a column of the plain type, two of them below missing parents. -/
theorem merges_grow_by_updates_sharedParents : ∃ update text,
    compile documentTable sharedParents = .ok update ∧
    NameMap.find? "doc" update.merges = some text ∧
    text.utf8ByteSize = (DocExpr.ofColumn ⟨"doc", .json⟩).sql.utf8ByteSize + 8 +
      ((places "doc" sharedParents).map fun place => (Frame.ofPlace place).bytes).sum := by
  obtain ⟨-, column, text, hcolumn, hfind, -, hbytes⟩ :=
    @merges_grow_by_updates documentTable sharedParents _ "doc" rfl (List.cons_ne_nil _ _)
  cases hcolumn
  have hplain : (⟨"doc", .json⟩ : Column).type = .json := rfl
  rw [if_pos hplain] at hbytes
  exact ⟨_, text, rfl, hfind, hbytes⟩

end Update
end ClauseSql
