import ClauseSql.Path
import ClauseSql.Sql.Text

/-!
# Array literals

The text of an array is read as the database reads it: elements stand between braces, with commas
between them.  An element in double quotes is taken as it is, except that a backslash stands for the
character after it.  Any other element goes without the blanks around it, and if it spells NULL it is
no text.

## What is here

* `ArrayScan` and `elementsFrom` — a text read one character at a time, from within any element.
* `readArray` — the elements of the array that a text is.
* `readArray_arrayText` — the text of an array of accepted segments is read as the segments.
-/

set_option autoImplicit false

namespace ClauseSql
namespace Sql

/-! ## Reading -/

/-- Where the text of an array was read up to.  Characters of the element under way are held last one
first. -/
inductive ArrayScan where
  /-- After the brace that opens the array. -/
  | opened
  /-- Before an element. -/
  | waiting
  /-- Within an element in quotes. -/
  | quoted (before : List Char)
  /-- After a backslash in quotes. -/
  | escaped (before : List Char)
  /-- Within an element without quotes. -/
  | bare (before : List Char)
  /-- After an element in quotes. -/
  | complete (element : String)
  /-- After the brace that closes the array. -/
  | closed
deriving DecidableEq, Repr

/-- The element that characters without quotes are. -/
def bareElement (before : List Char) : Option String :=
  let text := (before.dropWhile Char.isWhitespace).reverse
  if text.map Char.toUpper = ['N', 'U', 'L', 'L'] then none else some (String.ofList text)

namespace ArrayScan

/-- The scan after an element and the character that follows it; the element is finished then. -/
def leave (element : Option String) (c : Char) : Option (List (Option String) × ArrayScan) :=
  if c = ',' then some ([element], .waiting)
  else if c = '\x7d' then some ([element], .closed)
  else none

/-- The elements that a character finishes, and the scan after it. -/
def step : ArrayScan → Char → Option (List (Option String) × ArrayScan)
  | .opened, c =>
    if c.isWhitespace then some ([], .opened)
    else if c = '\x7d' then some ([], .closed)
    else enter c
  | .waiting, c => if c.isWhitespace then some ([], .waiting) else enter c
  | .quoted before, c =>
    if c = '"' then some ([], .complete (String.ofList before.reverse))
    else if c = '\\' then some ([], .escaped before)
    else some ([], .quoted (c :: before))
  | .escaped before, c => some ([], .quoted (c :: before))
  | .bare before, c =>
    if ",\x7d".toList.contains c then leave (bareElement before) c
    else if "\x7b\"\\".toList.contains c then none
    else some ([], .bare (c :: before))
  | .complete element, c =>
    if c.isWhitespace then some ([], .complete element) else leave (some element) c
  | .closed, c => if c.isWhitespace then some ([], .closed) else none
where
  /-- The scan after the first character of an element. -/
  enter (c : Char) : Option (List (Option String) × ArrayScan) :=
    if c = '"' then some ([], .quoted [])
    else if "\x7b\x7d,\\".toList.contains c then none
    else some ([], .bare [c])

end ArrayScan

/-- The elements that a scan and the characters after it make. -/
def elementsFrom (scan : ArrayScan) : List Char → Option (List (Option String))
  | [] => if scan = .closed then some [] else none
  | c :: rest =>
    match scan.step c with
    | none => none
    | some (done, next) => (elementsFrom next rest).map (done ++ ·)

/-- The elements of the array that a text is; none of it where an element is no text. -/
def readArray (text : String) : Option (List (Option String)) :=
  match text.toList with
  | '\x7b' :: rest => elementsFrom .opened rest
  | _ => none

example : readArray "\x7b\"a\\\"b\", null ,c d\x7d" = some [some "a\"b", none, some "c d"] := by
  decide +kernel

/-! ## Reading what was written -/

/-- An element whose characters stand for themselves in quotes. -/
def IsPlain (element : String) : Prop := ∀ c ∈ element.toList, c ≠ '"' ∧ c ≠ '\\'

theorem elementsFrom_cons {scan next : ArrayScan} {c : Char} {done : List (Option String)}
    (h : scan.step c = some (done, next)) (rest : List Char) :
    elementsFrom scan (c :: rest) = (elementsFrom next rest).map (done ++ ·) := by
  rw [elementsFrom, h]

theorem elementsFrom_quoted (rest : List Char) : ∀ (text before : List Char),
    (∀ c ∈ text, c ≠ '"' ∧ c ≠ '\\') →
    elementsFrom (.quoted before) (text ++ '"' :: rest) =
      elementsFrom (.complete (String.ofList (before.reverse ++ text))) rest
  | [], before, _ => by
    rw [List.nil_append, List.append_nil, elementsFrom_cons rfl]
    exact Option.map_id_apply
  | c :: text, before, h => by
    obtain ⟨⟨hquote, hbackslash⟩, htext⟩ := List.forall_mem_cons.1 h
    have hstep : (ArrayScan.quoted before).step c = some ([], .quoted (c :: before)) := by
      rw [ArrayScan.step, if_neg hquote, if_neg hbackslash]
    have hrest := elementsFrom_quoted rest text (c :: before) htext
    rw [List.reverse_cons, List.append_assoc, List.singleton_append] at hrest
    rw [List.cons_append, elementsFrom_cons hstep, ← hrest]
    exact Option.map_id_apply

/-- An element in quotes is read as it is. -/
theorem elementsFrom_arrayElement {scan : ArrayScan}
    (hscan : scan.step '"' = some ([], .quoted [])) {element : String} (h : IsPlain element)
    (rest : List Char) : elementsFrom scan ((arrayElement element).toList ++ rest) =
      elementsFrom (.complete element) rest := by
  have hquoted := elementsFrom_quoted rest element.toList [] h
  rw [List.reverse_nil, List.nil_append, String.ofList_toList] at hquoted
  rw [arrayElement, String.toList_append, String.toList_append, List.append_assoc, List.append_assoc,
    ← hquoted]
  exact (elementsFrom_cons hscan _).trans Option.map_id_apply

theorem elementsFrom_elements : ∀ {elements : List String} {first : String} {scan : ArrayScan},
    scan.step '"' = some ([], .quoted []) → (∀ element ∈ first :: elements, IsPlain element) →
    elementsFrom scan ((joined "," ((first :: elements).map arrayElement)).toList ++ ['\x7d']) =
      some ((first :: elements).map some)
  | [], first, _, hscan, h =>
    elementsFrom_arrayElement hscan (h first List.mem_cons_self) ['\x7d']
  | second :: rest, first, _, hscan, h => by
    obtain ⟨hfirst, hrest⟩ := List.forall_mem_cons.1 h
    have hwaiting : ArrayScan.waiting.step '"' = some ([], .quoted []) := rfl
    have hmore := elementsFrom_elements hwaiting hrest
    have hcomma : (ArrayScan.complete first).step ',' = some ([some first], .waiting) := rfl
    rw [List.map_cons, List.map_cons, joined, String.toList_append, String.toList_append,
      List.append_assoc, List.append_assoc, elementsFrom_arrayElement hscan hfirst]
    refine (elementsFrom_cons hcomma _).trans ?_
    exact congrArg (Option.map ([some first] ++ ·)) hmore

/-- **The text of an array of plain texts is read as the texts.** -/
theorem readArray_arrayText {elements : List String} (h : ∀ element ∈ elements, IsPlain element) :
    readArray (arrayText elements) = some (elements.map some) := by
  cases elements with
  | nil => rfl
  | cons first rest =>
    have hopened : ArrayScan.opened.step '"' = some ([], .quoted []) := rfl
    have helements := elementsFrom_elements hopened h
    rw [readArray, arrayText, String.toList_append, String.toList_append]
    exact helements

end Sql

/-! ## Accepted segments -/

theorem isIdentifierPart_of_mem {segment : String} (h : isSegment segment = true) {c : Char}
    (hc : c ∈ segment.toList) : isIdentifierPart c = true := by
  rw [isSegment, Bool.or_eq_true] at h
  rcases h with h | h
  · rw [isIdentifier] at h
    cases hs : segment.toList with
    | nil =>
      rw [hs] at hc
      cases hc
    | cons first rest =>
      rw [hs] at h hc
      obtain ⟨hfirst, hrest⟩ := Bool.and_eq_true_iff.1 h
      rcases List.mem_cons.1 hc with rfl | hc
      · rw [isIdentifierPart, hfirst]
        rfl
      · exact List.all_eq_true.1 hrest c hc
  · rw [isIndex, Bool.and_eq_true] at h
    have hdigit := List.all_eq_true.1 h.2 c hc
    rw [isIdentifierPart, hdigit, Bool.or_true]
    rfl

/-- Accepted segments stand for themselves in quotes. -/
theorem isPlain_of_isSegment {segment : String} (h : isSegment segment = true) :
    Sql.IsPlain segment := by
  intro c hc
  have hpart := isIdentifierPart_of_mem h hc
  refine ⟨?_, ?_⟩
  · rintro rfl
    exact absurd hpart (by decide)
  · rintro rfl
    exact absurd hpart (by decide)

theorem readArray_arrayText_of_isSegment {path : List String}
    (h : ∀ segment ∈ path, isSegment segment = true) :
    Sql.readArray (Sql.arrayText path) = some (path.map some) :=
  Sql.readArray_arrayText fun segment hs => isPlain_of_isSegment (h segment hs)

end ClauseSql
