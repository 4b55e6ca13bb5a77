import ClauseSql.Condition
import ClauseSql.Proofs.Evaluation
import ClauseSql.Proofs.Literal

/-!
# The numeric guard

A number at a path is compared as a number: the text there is cast, behind a guard that lets signed
decimals through and makes NULL of everything else.  A column of the JSON type that can be changed
writes its numbers in decimal, so all of them pass.  A plain JSON column keeps the text that it was
given, and there a number with an exponent is stopped.

## What is here

* `Source` — a JSON value as it was written, and `Cell`, what a column of either JSON type holds.
* `CellServer` — a server that writes the values of both types.
* `Expr.evalCells` — the value of an expression made from extracted texts.  It depends on nothing but
  these texts, and so agrees with the value on documents (`Expr.evalCells_numeric`).
* `Target.numeric_passes` — what the guard makes of what is at a path: the number, unless it is
  extracted with an exponent, and NULL of all texts but signed decimals.
* `Target.numeric_stops_exponent` — a number that is stopped.
-/

set_option autoImplicit false

namespace ClauseSql

/-! ## Source texts -/

/-- A JSON value as it was written.  Arrays and objects come with their own text. -/
inductive Source where
  | null
  | bool (value : Bool)
  | number (literal : Decimal.Literal)
  | string (value : String)
  | array (characters : String) (items : List Source)
  | object (characters : String) (members : List (String × Source))

namespace Source

/-- What a step leads to.  Of two members of one name the last counts. -/
def child? : Source → String → Option Source
  | .array _ items, segment => if isIndex segment then items[Doc.position segment]? else none
  | .object _ members, segment =>
    (members.reverse.find? fun member => member.1 == segment).map Prod.snd
  | _, _ => none

/-- What a value has at a path. -/
def at? (source : Source) : List String → Option Source
  | [] => some source
  | segment :: rest => (source.child? segment).bind fun child => at? child rest

/-- The text that is extracted for a value: strings without quotes, everything else as it was written.
There is none for null. -/
def text : Source → Option String
  | .null => none
  | .bool value => some (if value then "true" else "false")
  | .number literal => some literal.text
  | .string value => some value
  | .array characters _ | .object characters _ => some characters

end Source

/-! ## Cells -/

/-- What a column of a JSON type holds.  The type that can be changed keeps the value and writes it
anew; the plain one keeps what was written. -/
inductive Cell where
  | binary (source : Source)
  | plain (source : Source)

/-- A server with the texts that it writes for values of the JSON type that can be changed; NULL for
some. -/
structure CellServer extends Server where
  binaryText : Source → Option String

/-- What the documentation of such a server says: it writes a number as a plain decimal. -/
structure CellServer.Documented (server : CellServer) : Prop
    extends documented : server.toServer.Documented where
  binaryText_number : ∀ literal : Decimal.Literal, ∃ decimal : Decimal.Plain,
    server.binaryText (.number literal) = some decimal.text ∧ decimal.value = literal.value

namespace Cell

/-- The value that is held. -/
def source : Cell → Source
  | .binary source | .plain source => source

/-- Whether a column of a type can hold a cell. -/
def fits : Cell → ColumnType → Bool
  | .binary _, .jsonb => true
  | .plain _, .json => true
  | _, _ => false

/-- The text that is extracted at a path. -/
def textAt (server : CellServer) : Cell → List String → Option String
  | .binary source, path => (source.at? path).bind server.binaryText
  | .plain source, path => (source.at? path).bind Source.text

/-- Whether a number is extracted with an exponent: one that the plain type holds, written so. -/
def showsExponent : Cell → Decimal.Literal → Bool
  | .binary _, _ => false
  | .plain _, literal => literal.exponent.isSome

theorem showsExponent_of_fits_jsonb {cell : Cell} (h : cell.fits .jsonb = true)
    (literal : Decimal.Literal) : cell.showsExponent literal = false := by
  cases cell with
  | binary source => rfl
  | plain source => cases h

end Cell

/-! ## Values of extracted texts -/

/-- The value of an expression that is made from extracted texts, in a row of cells. -/
def Expr.evalCells (server : CellServer) (row : String → Option Cell) : Expr → Except String Value
  | .jsonText document path => .ok (.ofText ((row document).bind (·.textAt server path)))
  | .safeNumeric inner => do
    match ← inner.evalCells server row with
    | .text text =>
      if server.finds false Sql.numericPattern text then
        return .number (← server.readNumber text)
      else return .null
    | .null => return .null
    | _ => throw "not a text"
  | .column _ | .jsonNative .. | .jsonb _ => .error "not a text"

/-- Cells from which the same text is extracted as from documents have the same number. -/
theorem Expr.evalCells_numeric {server : CellServer} {cells : String → Option Cell}
    {row : String → Option Doc} {document : Column} {segments : List String}
    (h : (cells document.name).bind (·.textAt server segments) =
      ((row document.name).bind (server.extract · segments)).bind server.text) :
    (Target.numeric document segments).evalCells server cells =
      (Target.numeric document segments).eval server.toServer row := by
  rw [Target.numeric, evalCells, evalCells, h]
  rfl

/-- The guard finds signed decimals. -/
theorem Server.Documented.finds_numericPattern_iff {server : Server} (hs : server.Documented)
    {text : String} : server.finds false Sql.numericPattern text = true ↔ Decimal.IsSigned text := by
  rw [hs.finds_iff _ _ _ Pattern.parse?_numericPattern,
    ← Pattern.matches_iff Pattern.parse?_numericPattern, Pattern.matches_numericPattern_iff]

namespace Target

section
variable {server : CellServer} {row : String → Option Cell} {document : Column}
  {segments : List String} {cell : Cell}

theorem evalCells_numeric_of_none (hrow : row document.name = some cell)
    (h : cell.textAt server segments = none) :
    (numeric document segments).evalCells server row = .ok .null := by
  rw [numeric, Expr.evalCells, Expr.evalCells, hrow, Option.bind_some, h]
  rfl

theorem evalCells_numeric_of_some (hrow : row document.name = some cell) {text : String}
    (h : cell.textAt server segments = some text) :
    (numeric document segments).evalCells server row =
      if server.finds false Sql.numericPattern text then (server.readNumber text).map .number
      else .ok .null := by
  rw [numeric, Expr.evalCells, Expr.evalCells, hrow, Option.bind_some, h]
  show (if _ then _ else _) = _
  split
  · cases server.readNumber text <;> rfl
  · rfl

theorem evalCells_numeric_of_isSigned (hs : server.Documented) (hrow : row document.name = some cell)
    {text : String} (h : cell.textAt server segments = some text) (hsigned : Decimal.IsSigned text) :
    (numeric document segments).evalCells server row = (server.readNumber text).map .number := by
  rw [evalCells_numeric_of_some hrow h, if_pos (hs.finds_numericPattern_iff.2 hsigned)]

theorem evalCells_numeric_of_not_isSigned (hs : server.Documented)
    (hrow : row document.name = some cell) {text : String}
    (h : cell.textAt server segments = some text) (hsigned : ¬ Decimal.IsSigned text) :
    (numeric document segments).evalCells server row = .ok .null := by
  rw [evalCells_numeric_of_some hrow h, if_neg (mt hs.finds_numericPattern_iff.1 hsigned)]

/-- Plain decimals are numbers. -/
theorem evalCells_numeric_of_plain (hs : server.Documented) (hrow : row document.name = some cell)
    {decimal : Decimal.Plain} (h : cell.textAt server segments = some decimal.text) :
    (numeric document segments).evalCells server row = .ok (.number decimal.value) := by
  rw [evalCells_numeric_of_isSigned hs hrow h ⟨decimal, .inl rfl⟩, hs.readNumber_text]
  rfl

/-- The number at a path passes if it is extracted without an exponent. -/
theorem evalCells_numeric_of_number (hs : server.Documented) (hrow : row document.name = some cell)
    {literal : Decimal.Literal} (h : cell.source.at? segments = some (.number literal)) :
    (numeric document segments).evalCells server row =
      .ok (if cell.showsExponent literal then .null else .number literal.value) := by
  cases cell with
  | binary source =>
    obtain ⟨decimal, htext, hvalue⟩ := hs.binaryText_number literal
    have hcell : (Cell.binary source).textAt server segments = some decimal.text :=
      (congrArg (Option.bind · server.binaryText) h).trans htext
    rw [evalCells_numeric_of_plain hs hrow hcell, hvalue]
    rfl
  | plain source =>
    have hcell : (Cell.plain source).textAt server segments = some literal.text :=
      congrArg (Option.bind · Source.text) h
    rw [Cell.showsExponent]
    cases hexponent : literal.exponent with
    | none =>
      rw [Decimal.Literal.text_of_exponent_none hexponent] at hcell
      rw [evalCells_numeric_of_plain hs hrow hcell,
        Decimal.Literal.value_of_exponent_none hexponent]
      rfl
    | some exponent =>
      refine evalCells_numeric_of_not_isSigned hs hrow hcell fun hsigned => ?_
      rw [Decimal.Literal.isSigned_text_iff, hexponent] at hsigned
      cases hsigned

end

/-- **What the guard lets through.**  Operands that are numbers are compared with the guarded cast of
the text at the path.  A JSON number there is that number, unless it is extracted with an exponent,
which happens in plain JSON columns only: then it is NULL.  Any text but a signed decimal is NULL as
well, and never an error, and so is no text at all; only signed decimals are cast. -/
theorem numeric_passes {server : CellServer} (hs : server.Documented) {row : String → Option Cell}
    {document : Column} {segments : List String} {cell : Cell}
    (hrow : row document.name = some cell) (hfits : cell.fits document.type = true) :
    (∀ comparison operand, operand.isNumber = true →
      (path document segments).compare comparison operand =
        .compare (numeric document segments) comparison operand) ∧
    (∀ operands : List Json, operands.all Json.isNumber = true →
      (path document segments).listExpr operands = numeric document segments) ∧
    (∀ literal, cell.source.at? segments = some (.number literal) →
      (numeric document segments).evalCells server row =
          .ok (if cell.showsExponent literal then .null else .number literal.value) ∧
        (document.type = .jsonb → cell.showsExponent literal = false)) ∧
    (∀ text, cell.textAt server segments = some text → ¬ Decimal.IsSigned text →
      (numeric document segments).evalCells server row = .ok .null) ∧
    (∀ text, cell.textAt server segments = some text → Decimal.IsSigned text →
      (numeric document segments).evalCells server row = (server.readNumber text).map .number) ∧
    (cell.textAt server segments = none →
      (numeric document segments).evalCells server row = .ok .null) :=
  ⟨fun _ _ h => if_pos h, fun _ h => if_pos h,
    fun literal h => ⟨evalCells_numeric_of_number hs hrow h,
      fun htype => Cell.showsExponent_of_fits_jsonb (htype ▸ hfits) literal⟩,
    fun _ => evalCells_numeric_of_not_isSigned hs hrow,
    fun _ => evalCells_numeric_of_isSigned hs hrow, evalCells_numeric_of_none hrow⟩

end Target

/-! ## A server -/

/-- The server that behaves as documented, with numbers that are written in full. -/
noncomputable def CellServer.reference : CellServer where
  toServer := .reference
  binaryText source :=
    match source with
    | .number literal => some literal.stored.text
    | other => other.text

theorem CellServer.documented_reference : reference.Documented where
  documented := Server.documented_reference
  binaryText_number literal := ⟨literal.stored, rfl, literal.value_stored⟩

namespace Target

/-! ## A number that is stopped -/

/-- The literal `1e5`. -/
def shortLiteral : Decimal.Literal where
  decimal := ⟨false, ['1'], [], List.cons_ne_nil _ _, List.forall_mem_singleton.2 rfl,
    List.forall_mem_nil _⟩
  exponent := some ⟨false, .absent, ['5'], List.cons_ne_nil _ _, List.forall_mem_singleton.2 rfl⟩
  hasNoLead := .inr (by decide)

theorem value_shortLiteral : shortLiteral.value = 100000 := by
  have hvalue : shortLiteral.decimal.value = 1 / 10 ^ 0 := rfl
  have hshift : shortLiteral.shift = (5 : Nat) := rfl
  rw [Decimal.Literal.value, hvalue, hshift, zpow_natCast]
  norm_num

/-- The literal `2.5`. -/
def pointLiteral : Decimal.Literal where
  decimal := ⟨false, ['2'], ['5'], List.cons_ne_nil _ _, List.forall_mem_singleton.2 rfl,
    List.forall_mem_singleton.2 rfl⟩
  exponent := none
  hasNoLead := .inr (by decide)

/-- A plain JSON cell with three members. -/
def plainCell : Cell := .plain (.object "\x7b\"a\": 1e5, \"b\": 2.5, \"c\": \"12px\"\x7d"
  [("a", .number shortLiteral), ("b", .number pointLiteral), ("c", .string "12px")])

theorem not_isSigned_px : ¬ Decimal.IsSigned "12px" := fun h =>
  absurd (h.mem (c := 'p') (by decide)) (by decide)

/-- A number that passes, and a text that does not. -/
theorem numeric_passes_plainCell :
    plainCell.fits .json = true ∧ pointLiteral.text = "2.5" ∧
    (numeric ⟨"doc", .json⟩ ["b"]).evalCells CellServer.reference (fun _ => some plainCell) =
      .ok (.number pointLiteral.value) ∧
    (numeric ⟨"doc", .json⟩ ["c"]).evalCells CellServer.reference (fun _ => some plainCell) =
      .ok .null := by
  have hs := CellServer.documented_reference
  have hfits : plainCell.fits .json = true := rfl
  obtain ⟨-, -, hnumber, -⟩ :=
    @numeric_passes _ hs (fun _ => some plainCell) ⟨"doc", .json⟩ ["b"] _ rfl hfits
  obtain ⟨-, -, -, htext, -⟩ :=
    @numeric_passes _ hs (fun _ => some plainCell) ⟨"doc", .json⟩ ["c"] _ rfl hfits
  exact ⟨hfits, by decide, (hnumber _ rfl).1, htext "12px" rfl not_isSigned_px⟩

/-- **A number that is stopped.**  A plain JSON column holds `1e5` at a path, which is a number, and
the numeric expression is NULL there. -/
theorem numeric_stops_exponent :
    JsonPath.resolve ⟨"t", [⟨"doc", .json⟩]⟩ .condition "doc.a" = .ok (⟨"doc", .json⟩, ["a"]) ∧
    plainCell.fits .json = true ∧ shortLiteral.text = "1e5" ∧
    plainCell.source.at? ["a"] = some (.number shortLiteral) ∧ shortLiteral.value = 100000 ∧
    (numeric ⟨"doc", .json⟩ ["a"]).evalCells CellServer.reference (fun _ => some plainCell) =
      .ok .null :=
  ⟨rfl, rfl, by decide, rfl, value_shortLiteral,
    evalCells_numeric_of_number CellServer.documented_reference rfl
      (rfl : plainCell.source.at? ["a"] = some (.number shortLiteral))⟩

end Target
end ClauseSql
