import ClauseSql.Json.Reader.Value

/-!
# What values are read from

The first character of a value that is no white space tells what kind of value it is.

## What is here

* `Reader.ReadFrom` — how a value comes about: a string from its characters, an array from its items and
  an object from its members, which have one level less to nest in.
* `Reader.readFrom_of_value` — every value that is read comes about so.
* `Reader.forall_mem_of_readItems` and `Reader.of_readMembers` — what is true of all that an array or an
  object is read from.
* `Json.parse_eq_ok_iff` — the value of a text is what is read of it.  No name comes twice in an object
  (`Json.distinct_of_parse`).
-/

set_option autoImplicit false

namespace ClauseSql
namespace Reader

/-- How a value comes about that is read where arrays and objects may nest `levels` deep. -/
inductive ReadFrom (levels : Nat) (s rest : List Char) : Json → Prop
  | null : ReadFrom levels s rest .null
  | bool (value : Bool) : ReadFrom levels s rest (.bool value)
  | number (value : Number) : ReadFrom levels s rest (.number value)
  | string {text : String} {tail : List Char} (hs : skipBlank s = '"' :: tail)
      (h : readString [] tail = .ok (text, rest)) : ReadFrom levels s rest (.string text)
  | array {below : Nat} {tail : List Char} {items : Step (List Json) tail}
      (hlevels : levels = below + 1) (h : readItems (value below) true tail = .ok items) :
      ReadFrom levels s rest (.array items.value)
  | object {below : Nat} {tail : List Char} {members : Step Members tail}
      (hlevels : levels = below + 1)
      (h : readMembers (fun members name =>
        .ok ((value below).map fun item => Members.insert name item members)) [] true tail =
          .ok members) : ReadFrom levels s rest (.object members.value)

theorem value_eq_of_keyword {α : Type} {letters s rest : List Char} {meaning : α}
    {hshorter : rest.length < s.length} {step : Step α s}
    (h : keyword letters meaning rest hshorter = .ok step) : step.value = meaning := by
  rw [keyword] at h
  split at h
  · cases h
  · rw [← Except.ok.inj h]

theorem readString_of_string {s : List Char} {step : Step String s} (h : string s = .ok step) :
    readString [] s = .ok (step.value, step.rest) := by
  rw [string] at h
  split at h
  · cases h
  · rename_i hread
    rwa [← Except.ok.inj h]

/-- **Every value that is read comes about in one of these ways.** -/
theorem readFrom_of_value {levels : Nat} {s : List Char} {step : Step Json s}
    (h : value levels s = .ok step) : ReadFrom levels s step.rest step.value := by
  unfold value at h
  split at h
  · cases h
  rename_i c tail hs
  dsimp only at h
  split at h
  · rw [value_eq_of_keyword h]
    exact .null
  split at h
  · rw [value_eq_of_keyword h]
    exact .bool true
  split at h
  · rw [value_eq_of_keyword h]
    exact .bool false
  split at h
  · split at h
    · cases h
    · rw [← Except.ok.inj h]
      exact .number _
  split at h
  · split at h
    · cases h
    · rw [← Except.ok.inj h]
      exact .number _
  split at h
  · rename_i hquote
    split at h
    · cases h
    · rename_i text htext
      rw [← Except.ok.inj h]
      exact .string (hquote ▸ hs) (readString_of_string htext)
  split at h
  · split at h
    · cases h
    · split at h
      · cases h
      · rename_i items hitems
        rw [← Except.ok.inj h]
        exact .array rfl hitems
  split at h
  · split at h
    · cases h
    · split at h
      · cases h
      · rename_i members hmembers
        rw [← Except.ok.inj h]
        exact .object rfl hmembers
  · cases h

/-! ## What arrays and objects hold -/

theorem exists_of_map {α β : Type} {f : α → β} {reader : Reader α} {s : List Char} {step : Step β s}
    (h : reader.map f s = .ok step) : ∃ inner, reader s = .ok inner ∧ f inner.value = step.value := by
  rw [Reader.map] at h
  split at h
  · cases h
  · rename_i inner hinner
    rw [← Except.ok.inj h]
    exact ⟨inner, hinner, rfl⟩

/-- Every item of an array is read by the reader of its items. -/
theorem forall_mem_of_readItems {α : Type} {item : Reader α} {P : α → Prop}
    (hitem : ∀ {s : List Char} {step : Step α s}, item s = .ok step → P step.value) {first : Bool}
    {s : List Char} {items : Step (List α) s} (h : readItems item first s = .ok items) :
    ∀ value ∈ items.value, P value := by
  fun_induction readItems item first s with
  | case1 | case3 | case4 => cases h
  | case2 =>
    rw [← Except.ok.inj h]
    exact nofun
  | case5 first s t ht hnext step hstep more hmore ih =>
    rw [← Except.ok.inj h]
    exact List.forall_mem_cons.2 ⟨hitem hstep, ih hmore⟩

/-- What every member keeps is true of an object. -/
theorem of_readMembers {σ : Type} {member : σ → String → Except ReadFault (Reader σ)} {P : σ → Prop}
    (hmember : ∀ {state : σ} {name : String} {reader : Reader σ}, member state name = .ok reader →
      P state → ∀ {s : List Char} {step : Step σ s}, reader s = .ok step → P step.value)
    {state : σ} {first : Bool} {s : List Char} {result : Step σ s} (hstate : P state)
    (h : readMembers member state first s = .ok result) : P result.value := by
  fun_induction readMembers member state first s with
  | case1 | case3 | case4 | case5 | case6 | case7 => cases h
  | case2 =>
    rw [← Except.ok.inj h]
    exact hstate
  | case8 state first s t ht hnext name hname reader hreader mark hmark step hstep more hmore ih =>
    rw [← Except.ok.inj h]
    exact ih (hmember hreader hstate hstep) hmore

/-- A name that comes twice in an object keeps its place and takes the later value. -/
theorem distinct_of_value {levels : Nat} {s : List Char} {step : Step Json s} {members : Members}
    (h : value levels s = .ok step) (hvalue : step.value = .object members) : members.Distinct := by
  have hfrom := readFrom_of_value h
  rw [hvalue] at hfrom
  cases hfrom with
  | object _ hmembers =>
    have hnil : Members.Distinct [] := List.nodup_nil
    refine of_readMembers (P := Members.Distinct) ?_ hnil hmembers
    intro before name reader hreader hdistinct s step hstep
    cases hreader
    obtain ⟨inner, -, hinsert⟩ := exists_of_map hstep
    exact hinsert ▸ hdistinct.insert name inner.value

end Reader

open Reader

/-- What a text is: the value that is read at its start, when nothing but white space follows. -/
theorem Json.parse_eq_ok_iff {text : String} {value : Json} : Json.parse text = .ok value ↔
    ∃ step, Reader.value deepest text.toList = .ok step ∧ step.value = value ∧
      skipBlank step.rest = [] := by
  rw [Json.parse, Reader.parse, readWhole]
  cases hread : Reader.value deepest text.toList with
  | error fault => simp
  | ok step =>
    cases hrest : skipBlank step.rest with
    | nil => simp [hrest]
    | cons c rest => simp [hrest]

/-- No name comes twice in the object that a text is. -/
theorem Json.distinct_of_parse {text : String} {members : Members}
    (h : Json.parse text = .ok (.object members)) : members.Distinct := by
  obtain ⟨step, hstep, hvalue, -⟩ := Json.parse_eq_ok_iff.1 h
  exact distinct_of_value hstep hvalue

end ClauseSql
