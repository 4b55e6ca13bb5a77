import ClauseSql.Sql.Text

/-!
# Tokens of SQL text

A statement is read token by token: names between double quotes, strings between single quotes, and
the words, numbers, placeholders and symbols outside of them.  Inside quotes a doubled quote stands
for one, and a backslash is an ordinary character.  Outside of them a token is as long as it can be.

## What is here

* `Token` — the tokens.  Quoted ones are held without their quotes.
* `Scan` and `lexFrom` — a text read one character at a time, from within any token.
* `lex` — the tokens of a text; none when a quote stays open or a character begins no token.
* `lex_append` — two texts beside each other have the tokens of both, if the first one ends with a
  mark (`ends`) or the second one begins with a break (`breaks`).
* `lex_quoted` — a quoted text is one token, and its content is the text.
-/

set_option autoImplicit false

namespace ClauseSql
namespace Sql

/-! ## Tokens -/

/-- A token of SQL text. -/
inductive Token where
  /-- A name between double quotes. -/
  | identifier (name : String)
  /-- A string between single quotes. -/
  | literal (text : String)
  /-- A bind parameter. -/
  | parameter (index : Nat)
  /-- A number. -/
  | number (digits : String)
  /-- A keyword or a name without quotes. -/
  | word (text : String)
  /-- An operator or a punctuation mark. -/
  | symbol (text : String)
deriving DecidableEq, Repr

/-- Whether a token is one of some words and signs. -/
def Token.isAmong (words signs : List String) : Token → Bool
  | .word text => words.contains text
  | .symbol text => signs.contains text
  | _ => false

/-- The two kinds of quoted tokens. -/
inductive Quoting where
  | name
  | string
deriving DecidableEq, Repr

namespace Quoting

/-- The quote that begins and ends a token. -/
def quote : Quoting → Char
  | .name => '"'
  | .string => '\''

/-- The token with a content. -/
def token : Quoting → String → Token
  | .name => .identifier
  | .string => .literal

end Quoting

/-- The kinds of tokens without quotes that go on for as long as they can. -/
inductive Run where
  | word
  | number
  | parameter
  | operator
deriving DecidableEq, Repr

/-- A character that a word goes on with. -/
def isWordPart (c : Char) : Bool := c.isAlphanum || c == '_' || c == '$'

/-- A character of operators. -/
def isOperatorPart (c : Char) : Bool := "+-*/<>=~!@#%^&|`?".toList.contains c

/-- A character that is a token by itself. -/
def isPunctuation (c : Char) : Bool := "(),;.[]".toList.contains c

namespace Run

/-- Whether a run goes on with a character. -/
def takes : Run → Char → Bool
  | .word => isWordPart
  | .number | .parameter => Char.isDigit
  | .operator => isOperatorPart

/-- The token that a run of characters is.  A placeholder needs a number. -/
def token? : Run → List Char → Option Token
  | .word, text => some (.word (String.ofList text))
  | .number, digits => some (.number (String.ofList digits))
  | .parameter, [] => none
  | .parameter, digits => some (.parameter (Nat.ofDigitChars 10 digits 0))
  | .operator, text => some (.symbol (String.ofList text))

end Run

/-! ## Reading characters -/

/-- Where a text was read up to.  Characters of the token under way are held last one first. -/
inductive Scan where
  /-- Between two tokens. -/
  | between
  /-- After a token that nothing is added to. -/
  | complete (token : Token)
  /-- After the first half of a cast. -/
  | colon
  /-- Within a token that goes on for as long as it can. -/
  | run (kind : Run) (before : List Char)
  /-- Within quotes. -/
  | inside (kind : Quoting) (before : List Char)
  /-- After a quote that ends the token, unless another one follows. -/
  | closing (kind : Quoting) (before : List Char)
deriving DecidableEq, Repr

namespace Scan

/-- The scan once it took a character, if the token under way goes on with it. -/
def take : Scan → Char → Option Scan
  | .between, _ | .complete _, _ => none
  | .colon, c => if c = ':' then some (.complete (.symbol "::")) else none
  | .run kind before, c => if kind.takes c then some (.run kind (c :: before)) else none
  | .inside kind before, c =>
    some (if c = kind.quote then .closing kind before else .inside kind (c :: before))
  | .closing kind before, c => if c = kind.quote then some (.inside kind (c :: before)) else none

/-- The token under way, if there is one; none if it cannot end here. -/
def finish : Scan → Option (List Token)
  | .between => some []
  | .complete token => some [token]
  | .colon => none
  | .run kind before => (kind.token? before.reverse).map fun token => [token]
  | .inside .. => none
  | .closing kind before => some [kind.token (String.ofList before.reverse)]

/-- The scan after the first character of a token, or after a blank. -/
def start (c : Char) : Option Scan :=
  if c.isWhitespace then some .between
  else if c = '"' then some (.inside .name [])
  else if c = '\'' then some (.inside .string [])
  else if c = '$' then some (.run .parameter [])
  else if c = ':' then some .colon
  else if c.isAlpha || c == '_' then some (.run .word [c])
  else if c.isDigit then some (.run .number [c])
  else if isOperatorPart c then some (.run .operator [c])
  else if isPunctuation c then some (.complete (.symbol (String.singleton c)))
  else none

end Scan

/-- The tokens that a scan and the characters after it make. -/
def lexFrom (scan : Scan) : List Char → Option (List Token)
  | [] => scan.finish
  | c :: rest =>
    match scan.take c with
    | some next => lexFrom next rest
    | none => do
      let done ← scan.finish
      let next ← Scan.start c
      let more ← lexFrom next rest
      return done ++ more

/-- The tokens of a text. -/
def lex (text : String) : Option (List Token) := lexFrom .between text.toList

/-- What a scan and the characters that it takes make, and the characters that it does not take. -/
def Scan.munch (scan : Scan) : List Char → Option (List Token × List Char)
  | [] => scan.finish.map fun done => (done, [])
  | c :: rest =>
    match scan.take c with
    | some next => next.munch rest
    | none => scan.finish.map fun done => (done, c :: rest)

/-! ## Texts beside each other -/

/-- A character that no token outside of quotes goes on with. -/
def isBreak (c : Char) : Bool := " \t\r\n(),:".toList.contains c

/-- A character that ends with itself outside of quotes: a blank, or a punctuation mark. -/
def isMark (c : Char) : Bool := " \t\r\n(),".toList.contains c

theorem isBreak_of_isMark {c : Char} (h : isMark c = true) : isBreak c = true := by
  simp [isMark] at h
  rcases h with rfl | rfl | rfl | rfl | rfl | rfl | rfl <;> decide

theorem Run.not_takes_of_isBreak {c : Char} (h : isBreak c = true) (kind : Run) :
    kind.takes c = false := by
  simp [isBreak] at h
  rcases h with rfl | rfl | rfl | rfl | rfl | rfl | rfl | rfl <;> cases kind <;> decide

theorem Quoting.ne_quote_of_isBreak {c : Char} (h : isBreak c = true) (kind : Quoting) :
    c ≠ kind.quote := by
  rintro rfl
  cases kind <;> exact absurd h (by decide)

namespace Scan

variable {scan next : Scan} {c : Char} {tokens : List Token}

/-- A token that can end does so before a break. -/
theorem take_of_isBreak (hc : isBreak c = true) (hf : scan.finish = some tokens) :
    scan.take c = none := by
  cases scan with
  | between => rfl
  | complete token => rfl
  | colon => cases hf
  | run kind before => rw [take, Run.not_takes_of_isBreak hc]; rfl
  | inside kind before => cases hf
  | closing kind before => exact if_neg (Quoting.ne_quote_of_isBreak hc kind)

/-- A mark that is taken stands within quotes. -/
theorem finish_of_take_isMark (hc : isMark c = true) (ht : scan.take c = some next) :
    next.finish = none := by
  have hb := isBreak_of_isMark hc
  cases scan with
  | between => cases ht
  | complete token => cases ht
  | colon =>
    rw [take] at ht
    split at ht
    · subst c; exact absurd hc (by decide)
    · cases ht
  | run kind before =>
    rw [take, Run.not_takes_of_isBreak hb] at ht
    cases ht
  | inside kind before =>
    rw [take, if_neg (Quoting.ne_quote_of_isBreak hb kind)] at ht
    cases ht
    rfl
  | closing kind before =>
    rw [take, if_neg (Quoting.ne_quote_of_isBreak hb kind)] at ht
    cases ht

/-- Nothing is added to a mark. -/
theorem take_of_start_isMark (hc : isMark c = true) (hs : start c = some next) (d : Char) :
    next.take d = none := by
  simp [isMark] at hc
  rcases hc with rfl | rfl | rfl | rfl | rfl | rfl | rfl <;> cases hs <;> rfl

end Scan

theorem lexFrom_cons_of_take {scan next : Scan} {c : Char} (h : scan.take c = some next)
    (rest : List Char) : lexFrom scan (c :: rest) = lexFrom next rest := by
  rw [lexFrom, h]

theorem lexFrom_cons_of_finish {scan : Scan} {c : Char} {done : List Token}
    (ht : scan.take c = none) (hf : scan.finish = some done) (rest : List Char) :
    lexFrom scan (c :: rest) =
      ((Scan.start c).bind (lexFrom · rest)).map (done ++ ·) := by
  rw [lexFrom, ht, hf]
  cases Scan.start c with
  | none => rfl
  | some next =>
    show (lexFrom next rest).bind (fun more => some (done ++ more)) =
      (lexFrom next rest).map (done ++ ·)
    cases lexFrom next rest <;> rfl

theorem lexFrom_between_cons (c : Char) (rest : List Char) :
    lexFrom .between (c :: rest) = (Scan.start c).bind (lexFrom · rest) := by
  rw [lexFrom_cons_of_finish rfl (rfl : Scan.between.finish = some [])]
  exact Option.map_id_apply

/-- What follows a token that ends is read from its beginning. -/
theorem lexFrom_eq_map {scan : Scan} {done : List Token} {rest : List Char}
    (hf : scan.finish = some done) (ht : ∀ c ∈ rest.head?, scan.take c = none) :
    lexFrom scan rest = (lexFrom .between rest).map (done ++ ·) := by
  cases rest with
  | nil =>
    rw [lexFrom, hf, lexFrom]
    exact congrArg some (List.append_nil done).symm
  | cons c rest =>
    rw [lexFrom_cons_of_finish (ht c rfl) hf, lexFrom_between_cons]

/-- The tokens of a text are the one that it begins with, and those of what comes after it. -/
theorem lexFrom_eq_bind (text : List Char) : ∀ scan : Scan,
    lexFrom scan text = (scan.munch text).bind fun first =>
      (lexFrom .between first.2).map (first.1 ++ ·) := by
  induction text with
  | nil =>
    intro scan
    rw [lexFrom, Scan.munch]
    cases scan.finish with
    | none => rfl
    | some done => exact congrArg some (List.append_nil done).symm
  | cons c rest ih =>
    intro scan
    cases ht : scan.take c with
    | some next => rw [lexFrom_cons_of_take ht, ih next, Scan.munch, ht]
    | none =>
      rw [Scan.munch, ht]
      cases hf : scan.finish with
      | none => simp [lexFrom, ht, hf]
      | some done =>
        rw [lexFrom_cons_of_finish ht hf, ← lexFrom_between_cons]
        rfl

/-- How the tokens of a text come about: the first character goes to the token under way, or that
token ends and another one starts. -/
theorem lexFrom_cons_eq_some {scan : Scan} {c : Char} {rest : List Char} {tokens : List Token}
    (h : lexFrom scan (c :: rest) = some tokens) :
    (∃ next, scan.take c = some next ∧ lexFrom next rest = some tokens) ∨
      ∃ done next more, scan.take c = none ∧ scan.finish = some done ∧ Scan.start c = some next ∧
        lexFrom next rest = some more ∧ tokens = done ++ more := by
  rw [lexFrom] at h
  cases ht : scan.take c with
  | some next => exact .inl ⟨next, rfl, by rwa [ht] at h⟩
  | none =>
    rw [ht] at h
    obtain ⟨done, hf, h⟩ := Option.bind_eq_some_iff.1 h
    obtain ⟨next, hs, h⟩ := Option.bind_eq_some_iff.1 h
    obtain ⟨more, hm, h⟩ := Option.bind_eq_some_iff.1 h
    cases h
    exact .inr ⟨done, next, more, rfl, hf, hs, hm, rfl⟩

/-- If reading goes on alike after the first character, it goes on alike before it. -/
theorem lexFrom_cons_append {scan : Scan} {c : Char} {front whole : List Char}
    {rest : Option (List Token)} {tokens : List Token}
    (h : lexFrom scan (c :: front) = some tokens)
    (ih : ∀ {next : Scan} {more : List Token}, lexFrom next front = some more →
      lexFrom next whole = rest.map (more ++ ·)) :
    lexFrom scan (c :: whole) = rest.map (tokens ++ ·) := by
  rcases lexFrom_cons_eq_some h with ⟨next, ht, hm⟩ | ⟨done, next, more, ht, hf, hs, hm, rfl⟩
  · rw [lexFrom_cons_of_take ht, ih hm]
  · rw [lexFrom_cons_of_finish ht hf, hs, Option.bind_some, ih hm, Option.map_map]
    exact congrArg (Option.map · rest) (funext fun _ => (List.append_assoc _ _ _).symm)

theorem lexFrom_append_of_isBreak {front back : List Char}
    (hb : ∀ c ∈ back.head?, isBreak c = true) : ∀ {scan : Scan} {tokens : List Token},
    lexFrom scan front = some tokens →
    lexFrom scan (front ++ back) = (lexFrom .between back).map (tokens ++ ·) := by
  induction front with
  | nil =>
    intro scan tokens h
    exact lexFrom_eq_map h fun c hc => Scan.take_of_isBreak (hb c hc) h
  | cons c front ih =>
    intro scan tokens h
    exact lexFrom_cons_append h ih

theorem lexFrom_append_of_isMark {c : Char} (hc : isMark c = true) (front back : List Char) :
    ∀ {scan : Scan} {tokens : List Token}, lexFrom scan (front ++ [c]) = some tokens →
    lexFrom scan (front ++ c :: back) = (lexFrom .between back).map (tokens ++ ·) := by
  induction front with
  | nil =>
    intro scan tokens h
    rcases lexFrom_cons_eq_some h with ⟨next, ht, hm⟩ | ⟨done, next, more, ht, hf, hs, hm, rfl⟩
    · rw [lexFrom, Scan.finish_of_take_isMark hc ht] at hm
      cases hm
    · have hnext : lexFrom next back = (lexFrom .between back).map (more ++ ·) :=
        lexFrom_eq_map hm fun d _ => Scan.take_of_start_isMark hc hs d
      rw [List.nil_append, lexFrom_cons_of_finish ht hf, hs, Option.bind_some, hnext,
        Option.map_map]
      exact congrArg (Option.map · _) (funext fun _ => (List.append_assoc _ _ _).symm)
  | cons d front ih =>
    intro scan tokens h
    exact lexFrom_cons_append h ih

/-- Whether any text can stand before a text, because this one begins with a break. -/
def breaks (text : String) : Bool := text.toList.head?.all isBreak

/-- Whether any text can follow a text, because this one ends with a mark. -/
def ends (text : String) : Bool := text.toList.getLast?.any isMark

theorem ends_append (front : String) {back : String} (h : ends back = true) :
    ends (front ++ back) = true := by
  rw [ends, Option.any_eq_true] at h ⊢
  obtain ⟨c, hlast, hc⟩ := h
  refine ⟨c, ?_, hc⟩
  rw [String.toList_append, List.getLast?_append, hlast]
  rfl

section
variable {front back : String} {first second : List Token}

/-- **Texts that are kept apart have the tokens of both.** -/
theorem lex_append (h : ends front = true ∨ breaks back = true) (hf : lex front = some first)
    (hb : lex back = some second) : lex (front ++ back) = some (first ++ second) := by
  have happend : lexFrom .between (front.toList ++ back.toList) =
      (lexFrom .between back.toList).map (first ++ ·) := by
    rcases h with h | h
    · rw [ends, Option.any_eq_true] at h
      obtain ⟨c, hlast, hc⟩ := h
      obtain ⟨start, hstart⟩ := List.getLast?_eq_some_iff.1 hlast
      rw [lex, hstart] at hf
      rw [hstart, List.append_assoc]
      exact lexFrom_append_of_isMark hc start back.toList hf
    · rw [breaks, Option.all_eq_true] at h
      exact lexFrom_append_of_isBreak h hf
  rw [lex, String.toList_append, happend, ← lex, hb]
  rfl

end

/-! ## Quoted texts -/

namespace Scan

variable {kind : Quoting} {rest : List Char}

theorem take_quote (kind : Quoting) (before : List Char) :
    (inside kind before).take kind.quote = some (closing kind before) := by
  rw [take, if_pos rfl]

/-- A quoted text is taken up to its closing quote, and no further. -/
theorem munch_doubleQuotes (hr : ∀ c ∈ rest.head?, c ≠ kind.quote) (text : List Char) :
    ∀ before : List Char, (inside kind before).munch (doubleQuotes kind.quote text ++ kind.quote :: rest) =
      some ([kind.token (String.ofList (before.reverse ++ text))], rest) := by
  induction text with
  | nil =>
    intro before
    rw [doubleQuotes, List.flatMap_nil, List.nil_append, munch, take_quote, List.append_nil]
    cases rest with
    | nil => rfl
    | cons c rest =>
      have hclosed : (closing kind before).take c = none := if_neg (hr c rfl)
      show (closing kind before).munch (c :: rest) = _
      rw [munch, hclosed]
      rfl
  | cons c text ih =>
    intro before
    have hnext := ih (c :: before)
    rw [List.reverse_cons, List.append_assoc, List.singleton_append] at hnext
    rw [← hnext, doubleQuotes, List.flatMap_cons]
    by_cases hc : c = kind.quote
    · have hopen : (closing kind before).take kind.quote = some (inside kind (kind.quote :: before)) :=
        if_pos rfl
      rw [if_pos hc, hc, List.cons_append, List.cons_append, munch, take_quote]
      show (closing kind before).munch (kind.quote :: _) = _
      rw [munch, hopen]
      rfl
    · have hinside : (inside kind before).take c = some (inside kind (c :: before)) := by
        rw [take, if_neg hc]
      rw [if_neg hc, List.cons_append, List.cons_append, munch, hinside]
      rfl

end Scan

/-- **A quoted text is one token, and its content is the text.**  Reading goes on after the closing
quote, whatever the text contains. -/
theorem lexFrom_quoted (kind : Quoting) (text : String) {rest : List Char}
    (hr : ∀ c ∈ rest.head?, c ≠ kind.quote) :
    lexFrom .between ((quoted kind.quote text).toList ++ rest) =
      (lexFrom .between rest).map (kind.token text :: ·) := by
  have hstart : Scan.start kind.quote = some (.inside kind []) := by cases kind <;> rfl
  have hmunch := Scan.munch_doubleQuotes hr text.toList []
  rw [List.reverse_nil, List.nil_append, String.ofList_toList] at hmunch
  rw [quoted, String.toList_ofList, List.cons_append, List.append_assoc, List.singleton_append,
    lexFrom_between_cons, hstart, Option.bind_some, lexFrom_eq_bind, hmunch]
  rfl

theorem lex_quoted (kind : Quoting) (text : String) :
    lex (quoted kind.quote text) = some [kind.token text] := by
  have h : lexFrom .between ((quoted kind.quote text).toList ++ []) =
      (lexFrom .between []).map (kind.token text :: ·) :=
    lexFrom_quoted kind text fun c hc => by cases hc
  rwa [List.append_nil] at h

theorem lex_identifier (name : String) : lex (identifier name) = some [.identifier name] :=
  lex_quoted .name name

theorem lex_literal (text : String) : lex (literal text) = some [.literal text] :=
  lex_quoted .string text

example : lex (literal "it's \\ \"$1\"") = some [.literal "it's \\ \"$1\""] := by decide +kernel

/-! ## Numbers -/

theorem start_of_isDigit {c : Char} (h : c.isDigit = true) :
    Scan.start c = some (.run .number [c]) := by
  have hrange : 48 ≤ c.toNat ∧ c.toNat ≤ 57 := by
    simpa [Char.isDigit, UInt32.le_iff_toNat_le] using h
  have hdigits : ∀ n < 10, Scan.start (Char.ofNat (48 + n)) =
      some (.run .number [Char.ofNat (48 + n)]) := by decide
  have hc : Char.ofNat (48 + (c.toNat - 48)) = c := by
    rw [Nat.add_sub_cancel' hrange.1, Char.ofNat_toNat]
  have hstart := hdigits (c.toNat - 48) (by omega)
  rwa [hc] at hstart

theorem lexFrom_digits {kind : Run} (hk : kind.takes = Char.isDigit) {digits : List Char}
    (h : ∀ c ∈ digits, c.isDigit = true) : ∀ before : List Char,
    lexFrom (.run kind before) digits =
      (kind.token? (before.reverse ++ digits)).map fun token => [token] := by
  induction digits with
  | nil => intro before; rw [lexFrom, Scan.finish, List.append_nil]
  | cons c digits ih =>
    intro before
    obtain ⟨hc, hrest⟩ := List.forall_mem_cons.1 h
    have ht : (Scan.run kind before).take c = some (.run kind (c :: before)) := by
      rw [Scan.take, hk, if_pos hc]
    rw [lexFrom_cons_of_take ht, ih hrest, List.reverse_cons, List.append_assoc,
      List.singleton_append]

theorem isDigit_of_mem_toString {n : Nat} {c : Char} (h : c ∈ (toString n).toList) :
    c.isDigit = true := by
  rw [Nat.toString_eq_repr, Nat.repr, String.toList_ofList] at h
  exact Nat.isDigit_of_mem_toDigits (by decide) (by decide) h

theorem exists_cons_toString (n : Nat) : ∃ c rest, (toString n).toList = c :: rest := by
  rw [Nat.toString_eq_repr, Nat.repr, String.toList_ofList]
  exact List.exists_cons_of_ne_nil Nat.toDigits_ne_nil

/-- The digits of a number are one token. -/
theorem lex_toString (n : Nat) : lex (toString n) = some [.number (toString n)] := by
  obtain ⟨c, rest, hcons⟩ := exists_cons_toString n
  have hdigits : ∀ d ∈ c :: rest, d.isDigit = true := fun d hd =>
    isDigit_of_mem_toString (n := n) (hcons ▸ hd)
  obtain ⟨hc, hrest⟩ := List.forall_mem_cons.1 hdigits
  rw [lex, hcons, lexFrom_between_cons, start_of_isDigit hc, Option.bind_some,
    lexFrom_digits rfl hrest, List.reverse_singleton, List.singleton_append, ← hcons, Run.token?,
    String.ofList_toList]
  rfl

/-- A placeholder is the token of its number. -/
theorem lex_placeholder (index : Nat) : lex (placeholder index) = some [.parameter index] := by
  have hvalue : Nat.ofDigitChars 10 (toString index).toList 0 = index := by
    rw [Nat.toString_eq_repr, Nat.repr, String.toList_ofList]
    exact Nat.ofDigitChars_toDigits (by decide) (by decide)
  have hstart : Scan.start '$' = some (.run .parameter []) := rfl
  obtain ⟨c, rest, hcons⟩ := exists_cons_toString index
  have htoken : Run.token? .parameter (toString index).toList = some (.parameter index) := by
    rw [hcons]
    show some (Token.parameter (Nat.ofDigitChars 10 (c :: rest) 0)) = _
    rw [← hcons, hvalue]
  rw [lex, placeholder, String.toList_append]
  show lexFrom .between ('$' :: (toString index).toList) = _
  rw [lexFrom_between_cons, hstart, Option.bind_some,
    lexFrom_digits rfl (fun _ => isDigit_of_mem_toString), List.reverse_nil, List.nil_append,
    htoken]
  rfl

end Sql
end ClauseSql
