import ClauseSql.Compiler
import ClauseSql.Proofs.Steps
import ClauseSql.Proofs.StringText

/-!
# Filters inside strings

A filter may arrive as a JSON string that contains it.  Such a text is unwrapped once, and no more than
once, and its size is settled before it is: a string is never longer than what was written for it.

## What is here

* `readBounded_eq_string_iff` — the texts that are read as a string, under a limit.
* `readNested_of_isStringText` — what is read of the text of a string is what is read of the string.
* `Filter.parse_eq_ok_iff` — which texts are read as a filter.
* `Filter.parse_eq_oversized_iff` — a text is refused for its size just if it is too large itself.
* `Filter.unwraps_once` — what becomes of the text of a string.
-/

set_option autoImplicit false

namespace ClauseSql

variable {maxBytes limit : Nat} {text inner : String}

/-! ## Reading under a limit -/

theorem readBounded_eq_ok_iff {value : Json} : readBounded maxBytes text = .ok value ↔
    text.utf8ByteSize ≤ maxBytes ∧ Json.parse text = .ok value := by
  rw [readBounded]
  split
  · rename_i hlarge
    exact iff_of_false nofun fun h => absurd hlarge (Nat.not_lt.2 h.1)
  · rename_i hsmall
    rw [and_iff_right (Nat.not_lt.1 hsmall)]
    cases Json.parse text <;> simp

theorem readBounded_eq_string_iff : readBounded maxBytes text = .ok (.string inner) ↔
    text.utf8ByteSize ≤ maxBytes ∧ IsStringText text inner := by
  rw [readBounded_eq_ok_iff, Json.parse_eq_string_iff]

/-- **A text that is refused for its size is too large.** -/
theorem readBounded_eq_oversized_iff : readBounded maxBytes text = .error (.oversized limit) ↔
    limit = maxBytes ∧ maxBytes < text.utf8ByteSize := by
  rw [readBounded]
  split
  · rename_i hlarge
    rw [and_iff_left hlarge, Except.error.injEq, CompileError.oversized.injEq, eq_comm]
  · rename_i hsmall
    rw [iff_false_right fun h => hsmall h.2]
    cases Json.parse text <;> exact nofun

/-- The string that a text within the limit is read as is within the limit too. -/
theorem utf8ByteSize_le_of_readBounded (h : readBounded maxBytes text = .ok (.string inner)) :
    inner.utf8ByteSize ≤ maxBytes := by
  obtain ⟨hsize, htext⟩ := readBounded_eq_string_iff.1 h
  exact (utf8ByteSize_lt_of_isStringText htext).le.trans hsize

/-- What is read of the text of a string is what is read of the string. -/
theorem readNested_of_isStringText (hsize : text.utf8ByteSize ≤ maxBytes)
    (h : IsStringText text inner) : readNested maxBytes text = readBounded maxBytes inner := by
  rw [readNested, readBounded_eq_string_iff.2 ⟨hsize, h⟩]
  rfl

/-- What is read of any other text is what is read of it at once. -/
theorem readNested_of_ne_string (h : ∀ inner, readBounded maxBytes text ≠ .ok (.string inner)) :
    readNested maxBytes text = readBounded maxBytes text := by
  rw [readNested]
  cases hread : readBounded maxBytes text with
  | error error => rfl
  | ok value =>
    cases value with
    | string inner => exact absurd hread (h inner)
    | _ => rfl

/-- The second check of the size never fails. -/
theorem readNested_eq_oversized_iff : readNested maxBytes text = .error (.oversized limit) ↔
    limit = maxBytes ∧ maxBytes < text.utf8ByteSize := by
  by_cases hstring : ∃ inner, readBounded maxBytes text = .ok (.string inner)
  · obtain ⟨inner, hread⟩ := hstring
    obtain ⟨hsize, htext⟩ := readBounded_eq_string_iff.1 hread
    have hinner := utf8ByteSize_le_of_readBounded hread
    rw [readNested_of_isStringText hsize htext, readBounded_eq_oversized_iff]
    exact iff_of_false (fun h => Nat.not_lt.2 hinner h.2) fun h => Nat.not_lt.2 hsize h.2
  · rw [readNested_of_ne_string (not_exists.1 hstring), readBounded_eq_oversized_iff]

/-! ## Filters -/

namespace Filter

theorem ofValue_ne_oversized (value : Json) : ofValue value ≠ .error (.oversized limit) := by
  cases value with
  | object members =>
    rw [ofValue]
    split <;> exact nofun
  | _ => exact nofun

/-- **A filter is refused for its size just if its text is too large**, whatever it contains. -/
theorem parse_eq_oversized_iff : parse maxBytes text = .error (.oversized limit) ↔
    limit = maxBytes ∧ maxBytes < text.utf8ByteSize := by
  rw [parse, bind_eq_error_iff, readNested_eq_oversized_iff]
  exact or_iff_left fun ⟨value, _, h⟩ => ofValue_ne_oversized value h

/-- **A text is a filter if it is written for one, or for a string that is.** -/
theorem parse_eq_ok_iff {filter : Filter} : parse maxBytes text = .ok filter ↔
    text.utf8ByteSize ≤ maxBytes ∧ ∃ written value, (written = text ∨ IsStringText text written) ∧
      Json.parse written = .ok value ∧ ofValue value = .ok filter := by
  rw [parse, bind_eq_ok_iff]
  constructor
  · rintro ⟨value, hvalue, hfilter⟩
    by_cases hstring : ∃ inner, readBounded maxBytes text = .ok (.string inner)
    · obtain ⟨inner, hread⟩ := hstring
      obtain ⟨hsize, htext⟩ := readBounded_eq_string_iff.1 hread
      rw [readNested_of_isStringText hsize htext] at hvalue
      exact ⟨hsize, inner, value, .inr htext, (readBounded_eq_ok_iff.1 hvalue).2, hfilter⟩
    · rw [readNested_of_ne_string (not_exists.1 hstring), readBounded_eq_ok_iff] at hvalue
      exact ⟨hvalue.1, text, value, .inl rfl, hvalue.2, hfilter⟩
  · rintro ⟨hsize, written, value, rfl | htext, hvalue, hfilter⟩
    · have hread := readBounded_eq_ok_iff.2 ⟨hsize, hvalue⟩
      refine ⟨value, (readNested_of_ne_string fun inner h => ?_).trans hread, hfilter⟩
      cases hread.symm.trans h
      cases hfilter
    · have hinner := (utf8ByteSize_lt_of_isStringText htext).le.trans hsize
      have hread := readBounded_eq_ok_iff.2 ⟨hinner, hvalue⟩
      exact ⟨value, (readNested_of_isStringText hsize htext).trans hread, hfilter⟩

theorem parseWarnings_eq (maxBytes : Nat) (text : String) :
    parseWarnings maxBytes text = sizeWarnings maxBytes text := by
  rw [parseWarnings]
  split
  · rename_i inner hread
    have hinner := utf8ByteSize_le_of_readBounded hread
    rw [sizeWarnings, sizeWarnings, if_neg (Nat.not_lt.2 hinner), List.append_nil]
  · rw [List.append_nil]

/-- **A string is unwrapped once.**  The text of a string that is within the limit stands for the text
that the string is, unless this is the text of a string again, which is no filter.  So a filter is read
from its own text and from that of a string that contains it.  A text is refused for its size just if
it is too large itself; what it contains is never too large. -/
theorem unwraps_once (maxBytes : Nat) (text : String) :
    (∀ inner, IsStringText text inner → text.utf8ByteSize ≤ maxBytes →
      ((∀ innermost, ¬IsStringText inner innermost) →
        parse maxBytes text = parse maxBytes inner) ∧
      ((∃ innermost, IsStringText inner innermost) → ∃ cause,
        parse maxBytes text = .error (.text cause) ∧
          cause.message = "expected a filter object, got string")) ∧
    (∀ filter, parse maxBytes text = .ok filter ↔
      text.utf8ByteSize ≤ maxBytes ∧ ∃ written value, (written = text ∨ IsStringText text written) ∧
        Json.parse written = .ok value ∧ ofValue value = .ok filter) ∧
    (∀ limit, parse maxBytes text = .error (.oversized limit) ↔
      limit = maxBytes ∧ maxBytes < text.utf8ByteSize) ∧
    (∀ inner, readBounded maxBytes text = .ok (.string inner) → inner.utf8ByteSize ≤ maxBytes) ∧
    parseWarnings maxBytes text = sizeWarnings maxBytes text := by
  refine ⟨fun inner htext hsize => ⟨fun hplain => ?_, fun ⟨innermost, hinner⟩ => ?_⟩,
    fun filter => parse_eq_ok_iff, fun limit => parse_eq_oversized_iff, fun inner => utf8ByteSize_le_of_readBounded,
    parseWarnings_eq maxBytes text⟩
  · have hinner : readNested maxBytes inner = readBounded maxBytes inner :=
      readNested_of_ne_string fun innermost h => hplain innermost (readBounded_eq_string_iff.1 h).2
    rw [parse, parse, readNested_of_isStringText hsize htext, hinner]
  · have hle := (utf8ByteSize_lt_of_isStringText htext).le.trans hsize
    rw [parse, readNested_of_isStringText hsize htext,
      readBounded_eq_string_iff.2 ⟨hle, hinner⟩]
    exact ⟨.notFilter "string", rfl, rfl⟩

/-- An object that is written with escapes of both kinds and with white space after it, in as many bytes
as are allowed, and a string in a string. -/
theorem unwraps_once_escapedObject :
    parse 17 "\"\\u007b\\n\\u007D\" " = .ok {} ∧
      parse 17 "\"\\u007b\\n\\u007D\" " = parse 17 "\x7b\n\x7d" ∧
      ∃ cause, parse 17 "\"\\\"a\\\"\"" = .error (.text cause) ∧
        cause.message = "expected a filter object, got string" := by
  have hopen : IsCodeUnit ['0', '0', '7', 'b'] 0x7b :=
    ⟨[0, 0, 7, 11], rfl, .cons (by decide) (.cons (by decide) (.cons (by decide)
      (.cons (by decide) .nil))), rfl⟩
  have hclose : IsCodeUnit ['0', '0', '7', 'D'] 0x7d :=
    ⟨[0, 0, 7, 13], rfl, .cons (by decide) (.cons (by decide) (.cons (by decide)
      (.cons (by decide) .nil))), rfl⟩
  have htext : IsStringText "\"\\u007b\\n\\u007D\" " "\x7b\n\x7d" :=
    ⟨[], ["\\u007b".toList, "\\n".toList, "\\u007D".toList], [' '], rfl, List.forall_mem_nil _,
      List.forall_mem_singleton.2 rfl, .cons (.escaped (.unit hopen))
        (.cons (.escaped (.short (by decide))) (.cons (.escaped (.unit hclose)) .nil))⟩
  have hplain : ∀ innermost, ¬IsStringText "\x7b\n\x7d" innermost := by
    intro innermost h
    obtain ⟨tail, htail⟩ := h.exists_skipBlank
    cases htail
  have ha : Spells ['a'] 'a' := .plain (by decide) (by decide) (by decide)
  have hquote : Spells ['\\', '"'] '"' := .escaped (.short (by decide))
  have hnested : IsStringText "\"\\\"a\\\"\"" "\"a\"" :=
    ⟨[], [['\\', '"'], ['a'], ['\\', '"']], [], rfl, List.forall_mem_nil _, List.forall_mem_nil _,
      .cons hquote (.cons ha (.cons hquote .nil))⟩
  have hinner : IsStringText "\"a\"" "a" :=
    ⟨[], [['a']], [], rfl, List.forall_mem_nil _, List.forall_mem_nil _, .cons ha .nil⟩
  have hvalue : Json.parse "\x7b\n\x7d" = .ok (.object []) := by with_unfolding_all rfl
  obtain ⟨hunwraps, hreads, -⟩ := unwraps_once 17 "\"\\u007b\\n\\u007D\" "
  obtain ⟨hrefuses, -⟩ := unwraps_once 17 "\"\\\"a\\\"\""
  exact ⟨(hreads {}).2 ⟨by decide, _, _, .inr htext, hvalue, rfl⟩,
    (hunwraps _ htext (by decide)).1 hplain, (hrefuses _ hnested (by decide)).2 ⟨_, hinner⟩⟩

end Filter
end ClauseSql
