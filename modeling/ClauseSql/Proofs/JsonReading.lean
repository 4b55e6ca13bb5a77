import ClauseSql.Json.Text
import ClauseSql.Proofs.NumberReading
import ClauseSql.Proofs.StringText

/-!
# Reading compact JSON text

A text is read from its start to its end, with no regard to how it was written.  White space is not
read.  What a value stands in is held in frames: an array with the items before the value, or an object
with the members before it.

## What is here

* `Json.Frame` — what a value stands in.
* `Json.readValue`, `Json.readName` and `Json.readOn` — the reader before a value, before the name of a
  member, and after a value.
* `Json.ofText?` — the value that a text is.
* `Json.ofText?_compact` — a value is read from its compact text, so different values have different
  ones (`Json.compact_inj`).
-/

set_option autoImplicit false

namespace ClauseSql

open Reader

namespace Json

/-! ## The reader -/

/-- What a value stands in. -/
inductive Frame where
  /-- An array, with the items before the value, last one first. -/
  | item (before : List Json)
  /-- An object, with the members before the value, last one first, and the name of the value. -/
  | member (before : Members) (name : String)

/-- A character of keywords and numbers. -/
def isWordPart (c : Char) : Bool := c.isAlphanum || c == '+' || c == '-' || c == '.'

/-- The value that a keyword or a number is. -/
def word? (chars : List Char) : Option Json :=
  match String.ofList chars with
  | "null" => some .null
  | "true" => some (.bool true)
  | "false" => some (.bool false)
  | text => (Number.ofText? text).map .number

mutual

/-- The value that a text is, from the start of a value on, or from the end of an array without
items. -/
def readValue (frames : List Frame) : List Char → Option Json
  | [] => none
  | '"' :: rest =>
    match _h : readString [] rest with
    | .ok (text, after) => readOn frames (.string text) after
    | .error _ => none
  | '[' :: rest => readValue (.item [] :: frames) rest
  | ']' :: rest =>
    match frames with
    | .item [] :: outer => readOn outer (.array []) rest
    | _ => none
  | '{' :: rest => readName [] frames rest
  | c :: rest =>
    match word? (c :: rest.takeWhile isWordPart) with
    | some value => readOn frames value (rest.dropWhile isWordPart)
    | none => none
termination_by s => s.length
decreasing_by
  · exact Nat.lt_succ_of_lt (readString_length_lt _h)
  · exact Nat.lt_succ_self _
  · exact Nat.lt_succ_self _
  · exact Nat.lt_succ_self _
  · exact Nat.lt_succ_of_le (length_dropWhile_le isWordPart rest)

/-- The value that a text is, from the start of a name on, or from the end of an object without
members. -/
def readName (before : Members) (frames : List Frame) : List Char → Option Json
  | '"' :: rest =>
    match _h : readString [] rest with
    | .ok (name, ':' :: after) => readValue (.member before name :: frames) after
    | _ => none
  | '}' :: rest => if before.isEmpty then readOn frames (.object []) rest else none
  | _ => none
termination_by s => s.length
decreasing_by
  · exact Nat.lt_succ_of_lt (Nat.lt_of_succ_lt (readString_length_lt _h))
  · exact Nat.lt_succ_self _

/-- The value that a text is, from the end of a value on. -/
def readOn (frames : List Frame) (value : Json) (s : List Char) : Option Json :=
  match frames, s with
  | [], [] => some value
  | .item before :: outer, ',' :: rest => readValue (.item (value :: before) :: outer) rest
  | .item before :: outer, ']' :: rest => readOn outer (.array (value :: before).reverse) rest
  | .member before name :: outer, ',' :: rest => readName ((name, value) :: before) outer rest
  | .member before name :: outer, '}' :: rest =>
    readOn outer (.object ((name, value) :: before).reverse) rest
  | _, _ => none
termination_by s.length
decreasing_by all_goals exact Nat.lt_succ_self _

end

/-- The value that a text is. -/
def ofText? (text : String) : Option Json := readValue [] text.toList

/-! ## Strings -/

/-- What is written for a character stands for it. -/
theorem spells_escapeChar (c : Char) : Spells (escapeChar c) c := by
  have hshort : ∀ {letter : Char}, (letter, c) ∈ shortEscapes → Spells ['\\', letter] c :=
    fun h => .escaped (.short h)
  rw [escapeChar]
  split_ifs with hquote hbackslash _ _ _ _ _ hcontrol
  iterate 7
    · subst c
      exact hshort (by decide)
  · refine .escaped (.unit ⟨[0, 0, c.toNat / 16, c.toNat % 16], rfl, ?_, ?_⟩)
    · exact .cons (by decide) (.cons (by decide) (.cons ⟨by omega, .inl rfl⟩
        (.cons ⟨by omega, .inl rfl⟩ .nil)))
    · simp only [List.foldl_cons, List.foldl_nil]
      omega
  · exact .plain (Nat.not_lt.1 hcontrol) hquote hbackslash

theorem readString_quote (text : String) (rest : List Char) :
    ∃ tail, (quote text).toList ++ rest = '"' :: tail ∧ readString [] tail = .ok (text, rest) := by
  have hpieces : List.Forall₂ Spells (text.toList.map escapeChar) text.toList :=
    List.forall₂_map_left_iff.2 (List.forall₂_same.2 fun c _ => spells_escapeChar c)
  have hread := readString_of_spells hpieces rest []
  rw [List.reverse_nil, List.nil_append, String.ofList_toList] at hread
  refine ⟨_, ?_, hread⟩
  rw [quote, String.toList_ofList, List.flatMap_def, List.cons_append, List.append_assoc,
    List.singleton_append]

/-! ## Steps -/

section
variable {frames : List Frame} {rest : List Char}

theorem readValue_quote (text : String) :
    readValue frames ((quote text).toList ++ rest) = readOn frames (.string text) rest := by
  obtain ⟨tail, htail, hread⟩ := readString_quote text rest
  rw [htail, readValue]
  split
  · rename_i heq
    cases heq.symm.trans hread
    rfl
  · rename_i heq
    cases heq.symm.trans hread

theorem readName_quote {before : Members} (name : String) :
    readName before frames ((quote name).toList ++ ':' :: rest) =
      readValue (.member before name :: frames) rest := by
  obtain ⟨tail, htail, hread⟩ := readString_quote name (':' :: rest)
  rw [htail, readName]
  split
  · rename_i heq
    cases heq.symm.trans hread
    rfl
  · rename_i hno
    exact absurd hread (hno _ _)

theorem readValue_word {c : Char} {word : List Char} {value : Json}
    (hword : word? (c :: word) = some value) (hc : isWordPart c = true)
    (hparts : ∀ d ∈ word, isWordPart d = true) (hrest : Stops isWordPart rest) :
    readValue frames (c :: word ++ rest) = readOn frames value rest := by
  have hspan := span_of_stops hparts hrest
  rw [List.span_eq_takeWhile_dropWhile, Prod.mk.injEq] at hspan
  rw [List.cons_append, readValue.eq_def]
  split
  case h_1 heq => cases heq
  case h_6 heq =>
    cases heq
    rw [hspan.1, hspan.2, hword]
  all_goals
    rename_i heq
    obtain ⟨rfl, -⟩ := List.cons.inj heq
    exact absurd hc (by decide)

theorem word?_of_number {text : String} {value : Number} (h : Number.ofText? text = some value) :
    word? text.toList = some (.number value) := by
  rw [word?, String.ofList_toList]
  split
  · cases h
  · cases h
  · cases h
  · rw [h]
    rfl

/-! ## Numbers -/

theorem isWordPart_of_isDigit {c : Char} (h : c.isDigit = true) : isWordPart c = true := by
  simp only [isWordPart, Char.isAlphanum, h, Bool.or_true, Bool.true_or]

theorem isWordPart_exponent (exponent : Decimal.Exponent) :
    ∀ c ∈ exponent.chars, isWordPart c = true := by
  intro c hc
  rw [Decimal.Exponent.chars, List.mem_cons, List.mem_append] at hc
  rcases hc with rfl | hc | hc
  · rw [Decimal.Exponent.mark]
    split <;> rfl
  · rw [Decimal.Sign.chars.eq_def] at hc
    split at hc
    · cases hc
    · cases List.mem_singleton.1 hc
      rfl
    · cases List.mem_singleton.1 hc
      rfl
  · exact isWordPart_of_isDigit (exponent.isDigit_digits c hc)

theorem isWordPart_literal (literal : Decimal.Literal) :
    ∀ c ∈ literal.text.toList, isWordPart c = true := by
  intro c hc
  rw [Decimal.Literal.toList_text, Decimal.Plain.toList_text, List.mem_append, List.mem_append] at hc
  rcases hc with (hc | hc) | hc
  · split at hc
    · cases List.mem_singleton.1 hc
      rfl
    · cases hc
  · rcases Decimal.Plain.isDigit_or_eq_of_mem hc with hdigit | rfl
    · exact isWordPart_of_isDigit hdigit
    · rfl
  · rw [Decimal.Literal.exponentChars] at hc
    cases hexponent : literal.exponent with
    | none =>
      rw [hexponent] at hc
      cases hc
    | some exponent =>
      rw [hexponent] at hc
      exact isWordPart_exponent exponent c hc

theorem readValue_number (value : Number) (hrest : Stops isWordPart rest) :
    readValue frames (value.text.toList ++ rest) = readOn frames (.number value) rest := by
  have hword := word?_of_number (Number.ofText?_text value)
  have hparts := isWordPart_literal value.literal
  rw [Number.text_literal] at hparts
  cases htext : value.text.toList with
  | nil =>
    rw [htext] at hword
    cases hword
  | cons c word =>
    rw [htext] at hword hparts
    have hcons := List.forall_mem_cons.1 hparts
    exact readValue_word hword hcons.1 hcons.2 hrest

end

/-! ## Values -/

/-- After a value comes a comma, a closing bracket or nothing. -/
theorem stops_of_head {c : Char} (hc : c ∈ [',', ']', '}']) (rest : List Char) :
    Stops isWordPart (c :: rest) := by
  rintro d ⟨⟩
  simp only [List.mem_cons, List.not_mem_nil, or_false] at hc
  rcases hc with rfl | rfl | rfl <;> rfl

theorem toList_joined_comma (first second : String) (more : List String) (rest : List Char) :
    (joined "," (first :: second :: more)).toList ++ rest =
      first.toList ++ ',' :: ((joined "," (second :: more)).toList ++ rest) := by
  rw [joined, String.toList_append, String.toList_append, List.append_assoc, List.append_assoc]
  rfl

/-- A member is read as its value with its name in the frame. -/
theorem readName_of_value {before : Members} {frames : List Frame} {name text : String}
    {rest : List Char} : readName before frames ((quote name ++ ":" ++ text).toList ++ rest) =
      readValue (.member before name :: frames) (text.toList ++ rest) := by
  rw [String.toList_append, String.toList_append, List.append_assoc, List.append_assoc]
  exact readName_quote name

mutual

theorem readValue_compact : ∀ (value : Json) (frames : List Frame) (rest : List Char),
    Stops isWordPart rest →
    readValue frames (value.compact.toList ++ rest) = readOn frames value rest
  | .null, _, _, hrest => readValue_word rfl rfl (List.all_eq_true.1 rfl) hrest
  | .bool true, _, _, hrest => readValue_word rfl rfl (List.all_eq_true.1 rfl) hrest
  | .bool false, _, _, hrest => readValue_word rfl rfl (List.all_eq_true.1 rfl) hrest
  | .number value, _, _, hrest => readValue_number value hrest
  | .string text, _, _, _ => readValue_quote text
  | .array [], frames, rest, _ => by
    show readValue frames ('[' :: ']' :: rest) = _
    rw [readValue, readValue]
  | .array (first :: more), frames, rest, _ => by
    rw [compact, String.toList_append, String.toList_append, List.append_assoc, List.append_assoc]
    show readValue frames ('[' :: (_ ++ (']' :: rest))) = _
    rw [readValue]
    exact readValue_items (first :: more) (List.cons_ne_nil _ _) [] frames rest
  | .object [], frames, rest, _ => by
    show readValue frames ('{' :: '}' :: rest) = _
    rw [readValue, readName]
    rfl
  | .object (first :: more), frames, rest, _ => by
    rw [compact, String.toList_append, String.toList_append, List.append_assoc, List.append_assoc]
    show readValue frames ('{' :: (_ ++ ('}' :: rest))) = _
    rw [readValue]
    exact readName_members (first :: more) (List.cons_ne_nil _ _) [] frames rest

/-- The items of an array are read after the ones before them. -/
theorem readValue_items : ∀ (items : List Json), items ≠ [] → ∀ (before : List Json)
    (frames : List Frame) (rest : List Char),
    readValue (.item before :: frames) ((joined "," (compactItems items)).toList ++ ']' :: rest) =
      readOn frames (.array (before.reverse ++ items)) rest
  | [], hne, _, _, _ => absurd rfl hne
  | [last], _, before, frames, rest => by
    rw [compactItems, compactItems, joined,
      readValue_compact last (.item before :: frames) _ (stops_of_head (by decide) rest), readOn,
      List.reverse_cons]
  | first :: second :: more, _, before, frames, rest => by
    have hrest := readValue_items (second :: more) (List.cons_ne_nil _ _) (first :: before) frames rest
    rw [List.reverse_cons, List.append_assoc, List.singleton_append] at hrest
    rw [← hrest, compactItems, compactItems, toList_joined_comma,
      readValue_compact first (.item before :: frames) _ (stops_of_head (by decide) _), readOn]

/-- The members of an object are read after the ones before them. -/
theorem readName_members : ∀ (members : List (String × Json)), members ≠ [] →
    ∀ (before : Members) (frames : List Frame) (rest : List Char),
    readName before frames ((joined "," (compactMembers members)).toList ++ '}' :: rest) =
      readOn frames (.object (before.reverse ++ members)) rest
  | [], hne, _, _, _ => absurd rfl hne
  | [(name, value)], _, before, frames, rest => by
    rw [compactMembers, compactMembers, joined, readName_of_value, readValue_compact value
      (.member before name :: frames) _ (stops_of_head (by decide) rest), readOn, List.reverse_cons]
  | (name, value) :: (second, other) :: more, _, before, frames, rest => by
    have hrest := readName_members ((second, other) :: more) (List.cons_ne_nil _ _)
      ((name, value) :: before) frames rest
    rw [List.reverse_cons, List.append_assoc, List.singleton_append] at hrest
    rw [← hrest, compactMembers, compactMembers, toList_joined_comma, readName_of_value,
      readValue_compact value (.member before name :: frames) _ (stops_of_head (by decide) _), readOn]

end

/-- **A value is read from its compact text.** -/
theorem ofText?_compact (value : Json) : ofText? value.compact = some value := by
  have hread := readValue_compact value [] [] nofun
  rw [List.append_nil] at hread
  rw [ofText?, hread, readOn]

/-- Different values have different compact texts. -/
theorem compact_inj {value other : Json} (h : value.compact = other.compact) : value = other := by
  have hread := ofText?_compact value
  rw [h, ofText?_compact] at hread
  exact (Option.some.inj hread).symm

/-- What a text is can be told from the compact text of it. -/
theorem parse_eq_ok_of_compact {text : String} {value : Json}
    (h : (Json.parse text).toOption.map compact = some value.compact) : Json.parse text = .ok value := by
  cases hparse : Json.parse text with
  | error fault =>
    rw [hparse] at h
    cases h
  | ok read =>
    rw [hparse] at h
    rw [compact_inj (Option.some.inj h)]

end Json
end ClauseSql
