import ClauseSql.Proofs.Lexer

/-!
# Where a quoted text ends

A quoted text is read up to a quote that no other quote follows.  So its end shows in the text itself,
whatever stands between its quotes, and no other text is read as the same content.

## What is here

* `firstToken?` — the token that a text begins with, and the text after it.  The tokens of a text are
  found by taking one after the other.
* `firstToken?_quote_iff` — a text that begins with a quote begins with a quoted text, and is read as
  what is written there.
* `suffix_of_firstToken?` — no part of a quoted text is left for the next token.
* `Quoting.delimits_itself` — a quoted text is one token, and what is in it can be told from it.
-/

set_option autoImplicit false

namespace ClauseSql
namespace Sql

/-! ## The first token -/

/-- The token that a text begins with, and what comes after it.  A blank makes no token. -/
def firstToken? : List Char → Option (List Token × List Char)
  | [] => none
  | c :: rest => (Scan.start c).bind fun scan => scan.munch rest

/-! ## Within quotes -/

namespace Scan

variable {kind : Quoting} {rest : List Char}

/-- A quote within quotes is the last one, unless another quote follows. -/
theorem cases_of_munch_closing {tokens : List Token} {text before : List Char}
    (h : (closing kind before).munch text = some (tokens, rest)) :
    (∃ after, text = kind.quote :: after ∧
      (inside kind (kind.quote :: before)).munch after = some (tokens, rest)) ∨
    (tokens = [kind.token (String.ofList before.reverse)] ∧ text = rest ∧
      ∀ c ∈ rest.head?, c ≠ kind.quote) := by
  cases text with
  | nil =>
    cases h
    exact .inr ⟨rfl, rfl, by simp⟩
  | cons c text =>
    by_cases hc : c = kind.quote
    · have hopen : (closing kind before).take c = some (inside kind (c :: before)) := if_pos hc
      rw [munch, hopen, hc] at h
      exact .inl ⟨text, by rw [hc], h⟩
    · have hclosed : (closing kind before).take c = none := if_neg hc
      rw [munch, hclosed] at h
      cases h
      exact .inr ⟨rfl, rfl, by simpa using hc⟩

/-- Whatever is taken within quotes is a quoted text. -/
theorem eq_doubleQuotes_of_munch {tokens : List Token} (text : List Char) : ∀ before : List Char,
    (inside kind before).munch text = some (tokens, rest) →
    ∃ content, tokens = [kind.token (String.ofList (before.reverse ++ content))] ∧
      text = doubleQuotes kind.quote content ++ kind.quote :: rest ∧
      ∀ c ∈ rest.head?, c ≠ kind.quote := by
  -- A doubled quote takes two characters for one, so the induction is on the length.
  induction hlength : text.length using Nat.strongRecOn generalizing text with
  | _ length ih =>
    intro before h
    cases text with
    | nil => cases h
    | cons c text =>
      rw [List.length_cons] at hlength
      by_cases hc : c = kind.quote
      · rw [hc, munch, take_quote] at h
        rcases cases_of_munch_closing h with ⟨after, rfl, hafter⟩ | ⟨rfl, rfl, hr⟩
        · rw [List.length_cons] at hlength
          obtain ⟨content, htokens, htext, hr⟩ := ih after.length (by omega) after rfl _ hafter
          refine ⟨kind.quote :: content, by simpa using htokens, ?_, hr⟩
          rw [doubleQuotes, List.flatMap_cons, if_pos rfl, htext, hc]
          rfl
        · exact ⟨[], by rw [List.append_nil], by rw [hc]; rfl, hr⟩
      · have hinside : (inside kind before).take c = some (inside kind (c :: before)) := by
          rw [take, if_neg hc]
        rw [munch, hinside] at h
        obtain ⟨content, htokens, htext, hr⟩ := ih text.length (by omega) text rfl _ h
        refine ⟨c :: content, by simpa using htokens, ?_, hr⟩
        rw [doubleQuotes, List.flatMap_cons, if_neg hc, htext]
        rfl

end Scan

/-! ## Quoted texts -/

namespace Quoting

/-- A text as it is written between quotes. -/
def write : Quoting → String → String
  | .name => identifier
  | .string => literal

theorem toList_write (kind : Quoting) (text : String) : (kind.write text).toList =
    kind.quote :: (doubleQuotes kind.quote text.toList ++ [kind.quote]) := by
  cases kind <;> exact String.toList_ofList

theorem start_quote (kind : Quoting) : Scan.start kind.quote = some (.inside kind []) := by
  cases kind <;> rfl

theorem token_inj {kind : Quoting} {text other : String} (h : kind.token text = kind.token other) :
    text = other := by
  cases kind with
  | name => exact Token.identifier.inj h
  | string => exact Token.literal.inj h

end Quoting

variable {kind : Quoting} {text : String} {rest : List Char}

theorem firstToken?_write (kind : Quoting) (text : String) (hr : ∀ c ∈ rest.head?, c ≠ kind.quote) :
    firstToken? ((kind.write text).toList ++ rest) = some ([kind.token text], rest) := by
  have hmunch := Scan.munch_doubleQuotes hr text.toList []
  rw [List.reverse_nil, List.nil_append, String.ofList_toList] at hmunch
  rw [kind.toList_write, List.cons_append, List.append_assoc, List.singleton_append, firstToken?,
    kind.start_quote, Option.bind_some, hmunch]

theorem firstToken?_write_self (kind : Quoting) (text : String) :
    firstToken? (kind.write text).toList = some ([kind.token text], []) := by
  have hfirst : firstToken? ((kind.write text).toList ++ []) = some ([kind.token text], []) :=
    firstToken?_write kind text nofun
  rwa [List.append_nil] at hfirst

/-- A text that begins with a quote, and a token, begins with a quoted text. -/
theorem exists_write_of_firstToken? {after : List Char} {tokens : List Token}
    (h : firstToken? (kind.quote :: after) = some (tokens, rest)) : ∃ text,
    tokens = [kind.token text] ∧ kind.quote :: after = (kind.write text).toList ++ rest ∧
      ∀ c ∈ rest.head?, c ≠ kind.quote := by
  rw [firstToken?, kind.start_quote, Option.bind_some] at h
  obtain ⟨content, htokens, hafter, hr⟩ := Scan.eq_doubleQuotes_of_munch _ _ h
  refine ⟨String.ofList content, htokens, ?_, hr⟩
  rw [kind.toList_write, String.toList_ofList, hafter, List.cons_append, List.append_assoc]
  rfl

/-- **What is read of a text that begins with a quote.** -/
theorem firstToken?_quote_iff {after : List Char} :
    firstToken? (kind.quote :: after) = some ([kind.token text], rest) ↔
      kind.quote :: after = (kind.write text).toList ++ rest ∧
        ∀ c ∈ rest.head?, c ≠ kind.quote := by
  constructor
  · intro h
    obtain ⟨content, htokens, hafter, hr⟩ := exists_write_of_firstToken? h
    obtain rfl := Quoting.token_inj (List.singleton_inj.1 htokens)
    exact ⟨hafter, hr⟩
  · rintro ⟨hafter, hr⟩
    rw [hafter]
    exact firstToken?_write kind text hr

/-- The first token takes all of a quoted text: a quoted text that is followed by a quote may go on
after it, but it never ends before. -/
theorem suffix_of_firstToken? {rest after : List Char} {tokens : List Token}
    (h : firstToken? ((kind.write text).toList ++ rest) = some (tokens, after)) : after <:+ rest := by
  rw [kind.toList_write, List.cons_append] at h
  obtain ⟨content, -, hcontent, hr⟩ := exists_write_of_firstToken? h
  rw [← List.cons_append, ← kind.toList_write] at hcontent
  rcases List.append_eq_append_iff.1 hcontent with ⟨more, -, rfl⟩ | ⟨more, hmore, rfl⟩
  · exact List.suffix_append more after
  · -- what were left of the quoted text would not begin with a quote, and so be left of it alone
    have hmore' : ∀ c ∈ more.head?, c ≠ kind.quote := by
      intro c hc
      refine hr c ?_
      rw [List.head?_append, Option.mem_def.1 hc]
      rfl
    have hfirst := firstToken?_write kind content hmore'
    have hwhole := firstToken?_write_self kind text
    rw [hmore, hfirst, Option.some.injEq, Prod.mk.injEq] at hwhole
    rw [hwhole.2]
    exact List.suffix_refl rest

namespace Quoting

/-- **A quoted text delimits itself.**  Before anything but its quote it is one token, exactly, and
that token holds the text; reading goes on with what follows.  Nothing else that begins with the quote
is read as this token, so the text can be told from how it is written.  And whatever follows, a quote
too, no part of the quoted text is left for the next token. -/
theorem delimits_itself (kind : Quoting) (text : String) :
    (∀ after rest, firstToken? (kind.quote :: after) = some ([kind.token text], rest) ↔
      kind.quote :: after = (kind.write text).toList ++ rest ∧ ∀ c ∈ rest.head?, c ≠ kind.quote) ∧
    (∀ rest : List Char, (∀ c ∈ rest.head?, c ≠ kind.quote) →
      firstToken? ((kind.write text).toList ++ rest) = some ([kind.token text], rest) ∧
      lexFrom .between ((kind.write text).toList ++ rest) =
        (lexFrom .between rest).map (kind.token text :: ·)) ∧
    (∀ rest tokens after, firstToken? ((kind.write text).toList ++ rest) = some (tokens, after) →
      after <:+ rest) ∧
    ∀ other, kind.write text = kind.write other → text = other := by
  refine ⟨fun after rest => firstToken?_quote_iff, fun rest hr => ⟨firstToken?_write kind text hr, ?_⟩,
    fun rest tokens after => suffix_of_firstToken?, fun other h => ?_⟩
  · have hquoted := lexFrom_quoted kind text hr
    cases kind <;> exact hquoted
  · have htext := firstToken?_write_self kind text
    rw [h, firstToken?_write_self, Option.some.injEq, Prod.mk.injEq, List.singleton_inj] at htext
    exact (token_inj htext.1).symm

/-- A string with quotes at both of its ends and a run of them inside, with a backslash and a dollar. -/
theorem delimits_itself_runsOfQuotes :
    Quoting.string.write "'a''\\$1'" = "'''a''''\\$1'''" ∧
      firstToken? ("'''a''''\\$1'''".toList ++ " = $1".toList) =
        some ([.literal "'a''\\$1'"], " = $1".toList) := by
  have hwrite : Quoting.string.write "'a''\\$1'" = "'''a''''\\$1'''" := by decide
  obtain ⟨-, hdelimits, -, -⟩ := delimits_itself .string "'a''\\$1'"
  rw [hwrite] at hdelimits
  exact ⟨hwrite, (hdelimits " = $1".toList (by simp [Quoting.quote])).1⟩

end Quoting

end Sql
end ClauseSql
