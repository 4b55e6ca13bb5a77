import ClauseSql.Proofs.Evaluation
import ClauseSql.Proofs.Leaves
import ClauseSql.Proofs.NumberText

/-!
# Operands as texts

A list at a path that is not made of numbers alone is compared with the text that is found there, so
its operands are bound as texts.  An operand is found again where its text is the one that a database
extracts for it.  Strings and booleans have this text; a number has it unless it is too great or too
small to be written without an exponent, or is a negative zero.

## What is here

* `Server.WritesDecimals` — a server that keeps numbers in decimal and writes them in full, and
  `Server.decimal`, one that does.
* `Json.IsTextual` — the operands whose text is the extracted one
  (`Server.WritesDecimals.text_ofJson_iff`).
* `Operator.binds_texts` — what the lists and ranges that are compared with texts bind.
* `Operator.binds_exponent` — a list that looks for a text that is not found.
-/

set_option autoImplicit false

namespace ClauseSql

/-! ## Servers that write numbers in full -/

/-- What the documentation of a server says of the numbers in documents: they are kept in decimal,
with the digits that they were written with, and never written with an exponent. -/
structure Server.WritesDecimals (server : Server) : Prop
    extends documented : server.Documented where
  text_stored : ∀ value : Number, server.text (.number value) = some value.literal.stored.text

/-- Whether the text of an operand is the one that is extracted for it. -/
def Json.IsTextual : Json → Prop
  | .number value => value.IsPositional ∧ ¬ value.IsNegativeZero
  | _ => True

theorem Server.WritesDecimals.text_ofJson_iff {server : Server} (hs : server.WritesDecimals)
    {operand : Json} {characters : String} (h : operand.scalarText? = some characters) :
    server.text (.ofJson operand) = some characters ↔ operand.IsTextual := by
  cases operand with
  | null | array | object => cases h
  | bool value =>
    rw [Doc.ofJson, ← h]
    exact iff_of_true (hs.text_bool value) trivial
  | string value =>
    rw [Doc.ofJson, ← h]
    exact iff_of_true (hs.text_string value) trivial
  | number value =>
    rw [Doc.ofJson, ← h, hs.text_stored]
    exact (Option.some_inj).trans Number.text_stored_iff

/-! ## Lists and ranges -/

theorem Json.scalarText?_of_isScalar {operand : Json} (h : operand.isScalar = true) :
    ∃ characters, operand.scalarText? = some characters := by
  cases operand with
  | null | array | object => cases h
  | _ => exact ⟨_, rfl⟩

section
variable (document : Column) (segments : List String) {operands : List Json}

theorem Target.listExpr_of_mixed (h : ∃ operand ∈ operands, operand.isNumber = false) :
    (path document segments).listExpr operands = .jsonText document.name segments := by
  obtain ⟨operand, hmem, hnumber⟩ := h
  rw [listExpr, if_neg]
  · rfl
  · exact fun hall => Bool.eq_false_iff.1 hnumber (List.all_eq_true.1 hall operand hmem)

theorem Target.listValue_of_mixed (h : ∃ operand ∈ operands, operand.isNumber = false)
    (operand : Json) : (path document segments).listValue operands operand = operand.asText := by
  obtain ⟨other, hmem, hnumber⟩ := h
  rw [listValue, if_neg]
  exact fun hall => Bool.eq_false_iff.1 hnumber (List.all_eq_true.1 hall other hmem)

namespace Operator

/-- A list that is not made of numbers alone is compared with a text. -/
theorem buildList_mixed (negated : Bool) (name : String) (place : Place)
    (hscalar : ∀ operand ∈ operands, operand.isScalar = true)
    (hmixed : ∃ operand ∈ operands, operand.isNumber = false) :
    ∃ leaf, buildList negated name (.path document segments) (.array operands) place = .ok leaf ∧
      leaf.expr? = some (.jsonText document.name segments) ∧
      leaf.operands = operands.map Json.asText := by
  have hne : operands ≠ [] := hmixed.elim fun _ h => List.ne_nil_of_mem h.1
  obtain ⟨first, rest, rfl⟩ := List.exists_cons_of_ne_nil hne
  refine ⟨_, if_pos (List.all_eq_true.2 hscalar), ?_, ?_⟩
  · exact congrArg some (Target.listExpr_of_mixed document segments hmixed)
  · exact List.map_congr_left fun operand _ =>
      Target.listValue_of_mixed document segments hmixed operand

/-- So is a range. -/
theorem buildRange_mixed (name : String) (place : Place) {low high : Json}
    (hlow : low.isScalar = true) (hhigh : high.isScalar = true)
    (hmixed : ∃ operand ∈ [low, high], operand.isNumber = false) :
    ∃ leaf, buildRange name (.path document segments) (.array [low, high]) place = .ok leaf ∧
      leaf.expr? = some (.jsonText document.name segments) ∧
      leaf.operands = [low, high].map Json.asText := by
  refine ⟨_, if_pos (Bool.and_eq_true_iff.2 ⟨hlow, hhigh⟩), ?_, ?_⟩
  · exact congrArg some (Target.listExpr_of_mixed document segments hmixed)
  · show [low, high].map (Target.listValue _ [low, high]) = _
    exact List.map_congr_left fun operand _ =>
      Target.listValue_of_mixed document segments hmixed operand

/-- An operator that compares with a list of this many operands. -/
def Lists (count : Nat) : Operator → Prop
  | .oneOf | .noneOf => True
  | .between => count = rangeOperands
  | _ => False

theorem build_mixed (name : String) (place : Place) {operator : Operator}
    (hoperator : operator.Lists operands.length)
    (hscalar : ∀ operand ∈ operands, operand.isScalar = true)
    (hmixed : ∃ operand ∈ operands, operand.isNumber = false) :
    ∃ leaf, operator.build name (.path document segments) (.array operands) place = .ok leaf ∧
      leaf.expr? = some (.jsonText document.name segments) ∧
      leaf.operands = operands.map Json.asText := by
  cases operator with
  | oneOf => exact buildList_mixed document segments false name place hscalar hmixed
  | noneOf => exact buildList_mixed document segments true name place hscalar hmixed
  | between =>
    obtain ⟨low, high, rfl⟩ := List.length_eq_two.1 hoperator
    obtain ⟨hlow, hrest⟩ := List.forall_mem_cons.1 hscalar
    have hhigh := hrest high List.mem_cons_self
    exact buildRange_mixed document segments name place hlow hhigh hmixed
  | _ => cases hoperator

/-- **What is bound for a text.**  A list at a path that is not made of numbers alone is compared with
the text there, and every operand is bound as a text.  It is the text that a database extracts for the
operand just when the operand is textual; and the numeric guard lets the text of a number through just
when it is written without an exponent. -/
theorem binds_texts (name : String) (place : Place) {server : Server}
    (hs : server.WritesDecimals) {operator : Operator} (hoperator : operator.Lists operands.length)
    (hscalar : ∀ operand ∈ operands, operand.isScalar = true)
    (hmixed : ∃ operand ∈ operands, operand.isNumber = false) :
    ∃ leaf, operator.build name (.path document segments) (.array operands) place = .ok leaf ∧
      leaf.expr? = some (.jsonText document.name segments) ∧
      List.Forall₂ (fun operand bound => ∃ characters, operand.scalarText? = some characters ∧
          bound = .string characters ∧
          (server.text (.ofJson operand) = some characters ↔ operand.IsTextual) ∧
          ∀ value, operand = .number value →
            (Pattern.Matches Sql.numericPattern characters ↔ value.IsPositional))
        operands leaf.operands := by
  obtain ⟨leaf, hbuild, hexpr, hbound⟩ :=
    build_mixed document segments name place hoperator hscalar hmixed
  refine ⟨leaf, hbuild, hexpr, ?_⟩
  rw [hbound, List.forall₂_map_right_iff]
  refine List.forall₂_same.2 fun operand hmem => ?_
  obtain ⟨characters, htext⟩ := Json.scalarText?_of_isScalar (hscalar operand hmem)
  refine ⟨characters, htext, ?_, hs.text_ofJson_iff htext, ?_⟩
  · rw [Json.asText, htext]
  · rintro value rfl
    cases htext
    rw [Pattern.matches_numericPattern_iff, Number.isSigned_text_iff]

end Operator
end

/-! ## A server -/

/-- The server that behaves as documented, with numbers that are written in full. -/
noncomputable def Server.decimal : Server :=
  { Server.reference with
    text := fun document =>
      match document with
      | .number value => some value.literal.stored.text
      | other => Server.reference.text other }

theorem Server.writesDecimals_decimal : Server.decimal.WritesDecimals where
  toDocumented := Database.documented_reference
  text_null := rfl
  text_bool _ := rfl
  text_string _ := rfl
  text_number value := ⟨value.literal.stored, rfl,
    value.literal.value_stored.trans value.value_literal⟩
  readNumber_text := Server.documented_reference.readNumber_text
  finds_iff := Server.documented_reference.finds_iff
  compare_eq_self := Server.documented_reference.compare_eq_self
  text_stored _ := rfl

/-! ## A list that is not found -/

/-- The double of `10 ^ 16`, the first power of ten that is written with an exponent. -/
def greatNumber : Number := .float ⟨false, 5000000000000000, 1, by decide⟩

theorem text_greatNumber : greatNumber.text = "1e+16" := by decide +kernel

theorem not_isSigned_text_greatNumber : ¬ Decimal.IsSigned greatNumber.text := fun h =>
  absurd (h.mem (c := 'e') (by rw [text_greatNumber]; decide)) (by decide)

namespace Operator

/-- A string and two numbers, one of which is written with an exponent. -/
def mixedList : List Json := [.string "x", .number (.int 3), .number greatNumber]

/-- The text of the great number is not the one that is extracted for it. -/
theorem binds_texts_mixedList :
    oneOf.Lists mixedList.length ∧ (∀ operand ∈ mixedList, operand.isScalar = true) ∧
    (∃ operand ∈ mixedList, operand.isNumber = false) ∧
    ∃ leaf, oneOf.build "in" (.path ⟨"doc", .jsonb⟩ ["a"]) (.array mixedList)
        ⟨.condition, "t", "doc.a"⟩ = .ok leaf ∧
      leaf.expr? = some (.jsonText "doc" ["a"]) ∧
      leaf.operands = [.string "x", .string "3", .string "1e+16"] ∧
      Server.decimal.text (.number (.int 3)) = some "3" ∧
      Server.decimal.text (.number greatNumber) ≠ some "1e+16" := by
  have hscalar : ∀ operand ∈ mixedList, operand.isScalar = true := by decide
  have hmixed : ∃ operand ∈ mixedList, operand.isNumber = false := by decide
  have hlists : oneOf.Lists mixedList.length := trivial
  refine ⟨hlists, hscalar, hmixed, ?_⟩
  obtain ⟨leaf, hbuild, hexpr, hbound⟩ := binds_texts ⟨"doc", .jsonb⟩ ["a"] "in"
    ⟨.condition, "t", "doc.a"⟩ Server.writesDecimals_decimal hlists hscalar hmixed
  refine ⟨leaf, hbuild, hexpr, ?_⟩
  rw [← text_greatNumber]
  generalize leaf.operands = bound at hbound ⊢
  obtain _ | ⟨⟨_, hfirst, rfl, -⟩, _ | ⟨⟨_, hthree, rfl, hfound, -⟩,
    _ | ⟨⟨_, hgreat, rfl, hlost, -⟩, _ | _⟩⟩⟩ := hbound
  cases hfirst
  cases hthree
  obtain rfl : greatNumber.text = _ := Option.some.inj hgreat
  exact ⟨rfl, hfound.2 ⟨trivial, id⟩,
    fun h => not_isSigned_text_greatNumber (Number.isSigned_text_iff.2 (hlost.1 h).1)⟩

/-- **A text that is never found.**  Beside a string the number `10 ^ 16` is bound with an exponent.
It is stored as a decimal without one, and no server that writes plain decimals extracts what was
bound. -/
theorem binds_exponent :
    Clause.compile ⟨"t", [⟨"doc", .jsonb⟩]⟩
        [("doc.a", .object [("in", .array [.string "x", .number greatNumber])])] =
      .ok (some (.inList (.jsonText "doc" ["a"]) [.string "x", .string "1e+16"] false)) ∧
    greatNumber.literal.stored.text = "10000000000000000" ∧
    ¬ Pattern.Matches Sql.numericPattern "1e+16" ∧
    ∀ server : Server, server.Documented → server.text (.number greatNumber) ≠ some "1e+16" := by
  rw [← text_greatNumber, Pattern.matches_numericPattern_iff]
  refine ⟨rfl, by decide +kernel, not_isSigned_text_greatNumber, fun server hs h => ?_⟩
  obtain ⟨decimal, htext, -⟩ := hs.text_number greatNumber
  exact not_isSigned_text_greatNumber ⟨decimal, .inl (Option.some.inj (h.symm.trans htext))⟩

end Operator
end ClauseSql
