import ClauseSql.Proofs.EncodedFilter
import ClauseSql.Proofs.JsonReading

/-!
# Filters that are written

A filter is written as the object of the members that it has.  Reading such an object gives the filter
back, with every order of keys and with nothing that it did not have.  One filter alone is not read
back: `fields` that are null are read as no `fields`.  No filter that was read has such `fields`.

## What is here

* `setMembers_member` — what is written of a member is read as that member.
* `ofJson_toJson` — the object that a filter is written as is read as the filter.
* `fields_ne_null_of_ofJson` — no filter that was read has `fields` that are null.
* `reads_back` — a filter is read back from what is written of it, as a value and as a text.
-/

set_option autoImplicit false

namespace ClauseSql
namespace Filter

/-! ## Members -/

theorem readStrings_map_string (entries : List String) :
    readStrings (entries.map .string) = .ok entries := by
  induction entries with
  | nil => rfl
  | cons entry rest ih =>
    rw [List.map_cons, readStrings, ih]
    rfl

/-- A count is read back, whichever of its values it has. -/
theorem readCount_countJson (count : UInt64) : readCount (countJson count) = .ok (some count) := by
  rw [countJson, readCount, if_pos (Int.natCast_nonneg _), Int.toNat_natCast, UInt64.ofNat_toNat]

theorem setMembers_append {filter next : Filter} {front : Members}
    (h : filter.setMembers front = .ok next) (back : Members) :
    filter.setMembers (front ++ back) = next.setMembers back := by
  induction front generalizing filter with
  | nil =>
    cases h
    rfl
  | cons head rest ih =>
    obtain ⟨name, value⟩ := head
    obtain ⟨first, hfirst, hrest⟩ := bind_eq_ok_iff.1 h
    rw [List.cons_append, setMembers, hfirst]
    exact ih hrest

/-- What is written of a member is read as the member; of one that is absent nothing is written.  `put`
is the filter with a value for the member, or without one. -/
theorem setMembers_member {α : Type} {name : String} {write : α → Json} (put : Option α → Filter)
    {value : Option α} (hset : ∀ a ∈ value, (put none).set name (write a) = .ok (put (some a))) :
    (put none).setMembers (member name (value.map write)) = .ok (put value) := by
  cases value with
  | none => rfl
  | some a =>
    rw [Option.map_some, member, setMembers, hset a rfl]
    rfl

/-! ## Written filters -/

/-- **The object that a filter is written as is read as the filter.** -/
theorem ofJson_toJson {filter : Filter} (h : filter.fields ≠ some .null) :
    ofJson filter.toJson = .ok filter := by
  obtain ⟨clause, fields, order, included, limit, offset, skip⟩ := filter
  have hclause : setMembers {} (member "where" (clause.map .object)) = .ok { clause } :=
    setMembers_member (fun clause => { clause }) fun _ _ => rfl
  have hfields : setMembers { clause } (member "fields" (fields.map id)) = .ok { clause, fields } := by
    refine setMembers_member (fun fields => { clause, fields }) fun value hvalue => ?_
    cases value with
    | null => exact absurd hvalue h
    | _ => rfl
  have horder : setMembers { clause, fields }
      (member "order" (order.map fun entries => .array (entries.map .string))) =
        .ok { clause, fields, order } := by
    refine setMembers_member (fun order => { clause, fields, order }) fun entries _ => ?_
    simp only [set, readOrder, readStrings_map_string]
    rfl
  have hincluded : setMembers { clause, fields, order } (member "include" (included.map .array)) =
      .ok { clause, fields, order, included } :=
    setMembers_member (fun included => { clause, fields, order, included }) fun _ _ => rfl
  have hlimit : setMembers { clause, fields, order, included }
      (member "limit" (limit.map countJson)) = .ok { clause, fields, order, included, limit } := by
    refine setMembers_member (fun limit => { clause, fields, order, included, limit })
      fun count _ => ?_
    simp only [set, readCount_countJson]
    rfl
  have hoffset : setMembers { clause, fields, order, included, limit }
      (member "offset" (offset.map countJson)) =
        .ok { clause, fields, order, included, limit, offset } := by
    refine setMembers_member (fun offset => { clause, fields, order, included, limit, offset })
      fun count _ => ?_
    simp only [set, readCount_countJson]
    rfl
  have hskip : setMembers { clause, fields, order, included, limit, offset }
      (member "skip" (skip.map countJson)) =
        .ok { clause, fields, order, included, limit, offset, skip } := by
    refine setMembers_member
      (fun skip => { clause, fields, order, included, limit, offset, skip }) fun count _ => ?_
    simp only [set, readCount_countJson]
    rfl
  simp only [toJson, ofJson, List.append_assoc]
  rw [Option.map_id_apply] at hfields
  rw [setMembers_append hclause, setMembers_append hfields, setMembers_append horder,
    setMembers_append hincluded, setMembers_append hlimit, setMembers_append hoffset, hskip]

/-! ## Filters that were read -/

/-- Setting a member leaves no `fields` that are null. -/
theorem fields_ne_null_of_set {filter next : Filter} {name : String} {value : Json}
    (hf : filter.fields ≠ some .null) (h : filter.set name value = .ok next) :
    next.fields ≠ some .null := by
  unfold set at h
  split at h
  case h_2 =>
    cases h
    cases value <;> simp
  case h_8 => cases h
  all_goals
    obtain ⟨_, -, h⟩ := bind_eq_ok_iff.1 h
    cases h
    exact hf

theorem fields_ne_null_of_setMembers {filter next : Filter} {members : Members}
    (hf : filter.fields ≠ some .null) (h : filter.setMembers members = .ok next) :
    next.fields ≠ some .null := by
  induction members generalizing filter with
  | nil =>
    cases h
    exact hf
  | cons head rest ih =>
    obtain ⟨first, hfirst, hrest⟩ := bind_eq_ok_iff.1 h
    exact ih (fields_ne_null_of_set hf hfirst) hrest

theorem fields_ne_null_of_setItems {filter next : Filter} {length : Nat} {names : List String}
    {items : List Json} (hf : filter.fields ≠ some .null)
    (h : setItems length filter names items = .ok next) : next.fields ≠ some .null := by
  induction items generalizing filter names with
  | nil =>
    rw [setItems] at h
    cases h
    exact hf
  | cons item rest ih =>
    cases names with
    | nil => cases h
    | cons name names =>
      obtain ⟨first, hfirst, hrest⟩ := bind_eq_ok_iff.1 h
      exact ih (fields_ne_null_of_set hf hfirst) hrest

/-- No filter that was read has `fields` that are null. -/
theorem fields_ne_null_of_ofJson {value : Json} {filter : Filter} (h : ofJson value = .ok filter) :
    filter.fields ≠ some .null := by
  cases value with
  | object members => exact fields_ne_null_of_setMembers (Option.some_ne_none _).symm h
  | array items => exact fields_ne_null_of_setItems (Option.some_ne_none _).symm h
  | _ => cases h

theorem fields_ne_null_of_ofValue {value : Json} {filter : Filter}
    (h : ofValue value = .ok filter) : filter.fields ≠ some .null := by
  cases value with
  | null =>
    cases h
    exact (Option.some_ne_none _).symm
  | object members =>
    rw [ofValue] at h
    split at h
    · rename_i read hread
      cases h
      exact fields_ne_null_of_ofJson hread
    · cases h
  | _ => cases h

/-- A text that is what a filter is written as is read as the filter. -/
theorem parse_of_toJson {filter : Filter} {maxBytes : Nat} {written : String}
    (h : filter.fields ≠ some .null) (hsize : written.utf8ByteSize ≤ maxBytes)
    (hwritten : Json.parse written = .ok filter.toJson) : parse maxBytes written = .ok filter := by
  have hread := ofJson_toJson h
  have hvalue : ofValue filter.toJson = .ok filter := by
    rw [toJson] at hread ⊢
    rw [ofValue, hread]
  exact parse_eq_ok_iff.2 ⟨hsize, written, filter.toJson, .inl rfl, hwritten, hvalue⟩

/-- **A filter is read back as it was written.**  From the object of its members every filter is read
back, just if its `fields` are not null.  This holds of every filter that was read from a text, and so
what it is written as is a text of the same filter again.  The text is any that the reader of values
takes for the object, and its size is within the limit. -/
theorem reads_back (filter : Filter) :
    (ofJson filter.toJson = .ok filter ↔ filter.fields ≠ some .null) ∧
    ∀ maxBytes text, parse maxBytes text = .ok filter → filter.fields ≠ some .null ∧
      ∀ limit written, Json.parse written = .ok filter.toJson → written.utf8ByteSize ≤ limit →
        parse limit written = .ok filter := by
  refine ⟨⟨fields_ne_null_of_ofJson, ofJson_toJson⟩, fun maxBytes text hread => ?_⟩
  obtain ⟨-, _, _, -, -, hvalue⟩ := parse_eq_ok_iff.1 hread
  have hfields := fields_ne_null_of_ofValue hvalue
  exact ⟨hfields, fun limit written hwritten hsize => parse_of_toJson hfields hsize hwritten⟩

/-- A filter with all its members but one, nested keys out of order, and the greatest count. -/
def crowded : Filter where
  clause := some [("or", .array [.object [("b", .null), ("a", .object [("neq", .bool true)])]]),
    ("a", .string "x")]
  fields := some (.object [("b", .bool true), ("a", .bool false)])
  order := some ["b desc", ""]
  included := some [.string "author"]
  limit := some 18446744073709551615
  offset := some 0

/-- The filter is read from a text with white space after it, and so from the compact text that is
written of it.  From the text of a null the empty filter is read, which is written as an empty object. -/
theorem reads_back_crowded : ofJson crowded.toJson = .ok crowded ∧
    parse 168 (crowded.toJson.compact ++ "\n") = .ok crowded ∧
    parse 167 crowded.toJson.compact = .ok crowded ∧
    parse 4 "null" = .ok {} ∧ parse 2 (toJson {}).compact = .ok {} := by
  have hline : Json.parse (crowded.toJson.compact ++ "\n") = .ok crowded.toJson :=
    Json.parse_eq_ok_of_compact (by decide +kernel)
  have hcompact : Json.parse crowded.toJson.compact = .ok crowded.toJson :=
    Json.parse_eq_ok_of_compact (by decide +kernel)
  have hcrowded : parse 168 (crowded.toJson.compact ++ "\n") = .ok crowded :=
    parse_eq_ok_iff.2 ⟨by decide +kernel, _, _, .inl rfl, hline, rfl⟩
  have hnull : Json.parse "null" = .ok .null := by with_unfolding_all rfl
  have hempty : Json.parse (toJson {}).compact = .ok (toJson {}) := by with_unfolding_all rfl
  have hread : parse 4 "null" = .ok {} :=
    parse_eq_ok_iff.2 ⟨by decide, _, _, .inl rfl, hnull, rfl⟩
  obtain ⟨-, hwritten⟩ := (reads_back crowded).2 168 _ hcrowded
  obtain ⟨-, hagain⟩ := (reads_back {}).2 4 "null" hread
  exact ⟨(reads_back crowded).1.2 nofun, hcrowded, hwritten 167 _ hcompact (by decide +kernel), hread,
    hagain 2 _ hempty (by decide)⟩

end Filter
end ClauseSql
