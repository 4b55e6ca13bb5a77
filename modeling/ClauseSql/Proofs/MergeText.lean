import ClauseSql.Proofs.PathUpdate
import ClauseSql.Proofs.Tokens
import ClauseSql.Sql.Update

/-!
# What stands in a merge expression

The values of an update are not bound: each is a literal inside the expression of its column.  The
tokens of the expression are decided by the column and the paths that are set, apart from one token
for each value, and that token holds the text of the value and nothing else.

## What is here

* `DocExpr.tokens` and `DocExpr.lex_sql` — the tokens of a document expression, which are those of its
  text.
* `Sql.Balanced` — tokens with balanced parentheses.
* `Sql.Slot` — a token of a template, or the place of the value of one update; `Slot.fill` puts the
  values in.
* `Update.mergeSlots` — the template of a merge expression, made from a column and paths alone.
* `Update.Template` — what is true of it: which tokens it has, that every value has one place, and
  that its parentheses are balanced.
* `Update.lex_merges` — the tokens of a merge expression are those of its template with the values
  put in.
-/

set_option autoImplicit false

namespace ClauseSql

open DocExpr (documentName)

namespace Sql

/-! ## Pieces

The same pieces are put together from tokens, and from the slots of a template. -/

section
variable {α β : Type} (token : Token → α)

/-- A call that sets a value at a path. -/
def setParts (document : List α) (path : List String) (value : List α) : List α :=
  [.word "jsonb_set", .symbol "("].map token ++ document ++ [.symbol ","].map token ++
    [.literal (arrayText path)].map token ++ [.symbol ","].map token ++ value ++
    [.symbol ",", .word "true", .symbol ")"].map token

/-- An expression in which a name stands for a value. -/
def bindParts (value : List α) (name : String) (body : List α) : List α :=
  [.symbol "(", .word "SELECT"].map token ++ body ++
    [.word "FROM", .symbol "(", .word "SELECT"].map token ++ value ++ [.word "AS"].map token ++
    [.identifier name].map token ++ [.symbol ")", .word "AS"].map token ++
    [.identifier "src"].map token ++ [.symbol ")"].map token

/-- A cast of a document to the plain type. -/
def plainParts (inner : List α) : List α :=
  [.symbol "("].map token ++ inner ++ [.symbol ")", .symbol "::", .word "json"].map token

end

/-- The tokens of a value, or of one in place of NULL. -/
def coalesceTokens (expr : List Token) (fallback : Json) : List Token :=
  [.word "COALESCE", .symbol "("] ++ expr ++ [.symbol ","] ++
    castTokens [.literal fallback.compact] "jsonb" ++ [.symbol ")"]

section
variable {document value : String} {first second : List Token}

theorem lex_jsonLiteral (value : Json) :
    lex (jsonLiteral value) = some (castTokens [.literal value.compact] "jsonb") :=
  lex_jsonb (lex_literal value.compact)

theorem lex_plainJson (h : lex document = some first) :
    lex (plainJson document) = some (plainParts id first) := by
  have hopen : lex "(" = some [.symbol "("] := rfl
  have hclose : lex ")::json" = some [.symbol ")", .symbol "::", .word "json"] := rfl
  exact lex_append (.inr rfl) (lex_append (.inl rfl) hopen h) hclose

theorem lex_coalesce (h : lex document = some first) (fallback : Json) :
    lex (coalesce document fallback) = some (coalesceTokens first fallback) := by
  have hcall : lex "COALESCE(" = some [.word "COALESCE", .symbol "("] := rfl
  have hcomma : lex ", " = some [.symbol ","] := rfl
  have hclose : lex ")" = some [.symbol ")"] := rfl
  have hexpr := lex_append (.inr rfl) (lex_append (.inl rfl) hcall h) hcomma
  exact lex_append (.inr rfl)
    (lex_append (.inl (ends_append _ rfl)) hexpr (lex_jsonLiteral fallback)) hclose

theorem lex_setAt (hd : lex document = some first) (hv : lex value = some second)
    (path : List String) : lex (setAt document path value) = some (setParts id first path second) := by
  have hcall : lex "jsonb_set(" = some [.word "jsonb_set", .symbol "("] := rfl
  have hcomma : lex ", " = some [.symbol ","] := rfl
  have hclose : lex ", true)" = some [.symbol ",", .word "true", .symbol ")"] := rfl
  have hdocument := lex_append (.inr rfl) (lex_append (.inl rfl) hcall hd) hcomma
  have hpath := lex_append (.inl (ends_append _ rfl)) hdocument (lex_pathLiteral path)
  have hvalue := lex_append (.inl (ends_append _ rfl)) (lex_append (.inr rfl) hpath hcomma) hv
  exact lex_append (.inr rfl) hvalue hclose

theorem lex_bind (hv : lex value = some first) {body : String} (hb : lex body = some second)
    (name : String) : lex (bind value name body) = some (bindParts id first name second) := by
  have hselect : lex "(SELECT " = some [.symbol "(", .word "SELECT"] := rfl
  have hfrom : lex " FROM (SELECT " = some [.word "FROM", .symbol "(", .word "SELECT"] := rfl
  have has : lex " AS " = some [.word "AS"] := rfl
  have halias : lex ") AS " = some [.symbol ")", .word "AS"] := rfl
  have hclose : lex ")" = some [.symbol ")"] := rfl
  have hbody := lex_append (.inr rfl) (lex_append (.inl rfl) hselect hb) hfrom
  have hvalue := lex_append (.inr rfl) (lex_append (.inl (ends_append _ rfl)) hbody hv) has
  have hname := lex_append (.inl (ends_append _ rfl)) hvalue (lex_identifier name)
  have hsource := lex_append (.inl (ends_append _ rfl)) (lex_append (.inr rfl) hname halias)
    (lex_identifier "src")
  exact lex_append (.inr rfl) hsource hclose

end
end Sql

open Sql

/-! ## Document expressions -/

namespace DocExpr

/-- The tokens of a document expression. -/
def tokens : DocExpr → List Token
  | .name column => [.identifier column]
  | .literal value => castTokens [.literal value.compact] "jsonb"
  | .jsonb inner => castTokens inner.tokens "jsonb"
  | .plain inner => plainParts id inner.tokens
  | .orElse inner fallback => coalesceTokens inner.tokens fallback
  | .extract document path => extractTokens "#>" document.tokens path
  | .set document path value => setParts id document.tokens path value.tokens
  | .bind value called body => bindParts id value.tokens called body.tokens

theorem lex_sql : ∀ expr : DocExpr, lex expr.sql = some expr.tokens
  | .name column => lex_identifier column
  | .literal value => lex_jsonLiteral value
  | .jsonb inner => lex_jsonb inner.lex_sql
  | .plain inner => lex_plainJson inner.lex_sql
  | .orElse inner fallback => lex_coalesce inner.lex_sql fallback
  | .extract document path => lex_extract document.lex_sql path
  | .set document path value => lex_setAt document.lex_sql value.lex_sql path
  | .bind value called body => lex_bind value.lex_sql body.lex_sql called

end DocExpr

namespace Sql

/-! ## Balanced parentheses -/

/-- Whether a token is a parenthesis. -/
def Token.isParenthesis (token : Token) : Bool := token.isAmong [] ["(", ")"]

/-- Tokens with balanced parentheses. -/
inductive Balanced : List Token → Prop where
  | nil : Balanced []
  | single {token : Token} (h : token.isParenthesis = false) : Balanced [token]
  | enclosed {inner : List Token} (h : Balanced inner) :
    Balanced ([.symbol "("] ++ inner ++ [.symbol ")"])
  | append {front back : List Token} (hf : Balanced front) (hb : Balanced back) :
    Balanced (front ++ back)

namespace Balanced

variable {first second : List Token}

theorem castTokens (h : Balanced first) (type : String) : Balanced (castTokens first type) :=
  .append h (.append (.single rfl) (.single rfl))

theorem extractTokens (h : Balanced first) (path : List String) :
    Balanced (extractTokens "#>" first path) := by
  have hinner : Balanced (first ++ ([.symbol "#>"] ++ [.literal (arrayText path)])) :=
    .append h (.append (.single rfl) (.single rfl))
  simpa [Sql.extractTokens] using Balanced.enclosed hinner

theorem coalesceTokens (h : Balanced first) (fallback : Json) :
    Balanced (coalesceTokens first fallback) := by
  have hinner : Balanced (first ++ ([.symbol ","] ++
      Sql.castTokens [.literal fallback.compact] "jsonb")) :=
    .append h (.append (.single rfl) (castTokens (.single rfl) "jsonb"))
  have hcall : Balanced ([.word "COALESCE"] ++ _) := .append (.single rfl) (.enclosed hinner)
  simpa [Sql.coalesceTokens] using hcall

theorem plainParts (h : Balanced first) : Balanced (plainParts id first) := by
  have hcast : Balanced (_ ++ [.symbol "::", .word "json"]) :=
    .append (.enclosed h) (.append (.single rfl) (.single rfl))
  simpa [Sql.plainParts] using hcast

theorem setParts (hd : Balanced first) (hv : Balanced second) (path : List String) :
    Balanced (setParts id first path second) := by
  have hinner : Balanced (first ++ ([.symbol ","] ++ [.literal (arrayText path)] ++ [.symbol ","] ++
      second ++ [.symbol ",", .word "true"])) :=
    .append hd (.append (.append (.append (.append (.single rfl) (.single rfl)) (.single rfl)) hv)
      (.append (.single rfl) (.single rfl)))
  have hcall : Balanced ([.word "jsonb_set"] ++ _) := .append (.single rfl) (.enclosed hinner)
  simpa [Sql.setParts] using hcall

theorem bindParts (hv : Balanced first) (hb : Balanced second) (name : String) :
    Balanced (bindParts id first name second) := by
  have hsource : Balanced ([.word "SELECT"] ++ first ++ [.word "AS"] ++ [.identifier name]) :=
    .append (.append (.append (.single rfl) hv) (.single rfl)) (.single rfl)
  have hinner : Balanced ([.word "SELECT"] ++ second ++ [.word "FROM"] ++ _ ++ [.word "AS"] ++
      [.identifier "src"]) :=
    .append (.append (.append (.append (.append (.single rfl) hb) (.single rfl)) (.enclosed hsource))
      (.single rfl)) (.single rfl)
  simpa [Sql.bindParts] using Balanced.enclosed hinner

end Balanced
end Sql

theorem DocExpr.balanced_tokens : ∀ expr : DocExpr, Balanced expr.tokens
  | .name _ => .single rfl
  | .literal _ => .castTokens (.single rfl) "jsonb"
  | .jsonb inner => .castTokens inner.balanced_tokens "jsonb"
  | .plain inner => .plainParts inner.balanced_tokens
  | .orElse inner fallback => .coalesceTokens inner.balanced_tokens fallback
  | .extract document path => .extractTokens document.balanced_tokens path
  | .set document path value => .setParts document.balanced_tokens value.balanced_tokens path
  | .bind value called body => .bindParts value.balanced_tokens body.balanced_tokens called

namespace Sql

/-! ## Templates -/

/-- A token of a template, or the place of the text of a value, by the number of its update. -/
inductive Slot where
  | fixed (token : Token)
  | value (index : Nat)
deriving DecidableEq, Repr

namespace Slot

/-- The token, if it is decided by the template. -/
def token? : Slot → Option Token
  | .fixed token => some token
  | .value _ => none

/-- The number of the update whose value belongs here. -/
def index? : Slot → Option Nat
  | .fixed _ => none
  | .value index => some index

/-- The token, once the values are put in. -/
def fill (values : List Json) : Slot → Token
  | .fixed token => token
  | .value index => .literal (values[index]?.getD .null).compact

/-- The place of a value, cast to the type of documents. -/
def ofValue (index : Nat) : List Slot :=
  [.value index, .fixed (.symbol "::"), .fixed (.word "jsonb")]

variable {values : List Json}

theorem map_fill_fixed (tokens : List Token) : (tokens.map fixed).map (fill values) = tokens := by
  rw [List.map_map]
  exact List.map_id tokens

theorem filterMap_token?_fixed (tokens : List Token) :
    (tokens.map fixed).filterMap token? = tokens := by
  rw [List.filterMap_map]
  exact List.filterMap_some

theorem filterMap_index?_fixed (tokens : List Token) :
    (tokens.map fixed).filterMap index? = [] := by
  rw [List.filterMap_map, List.filterMap_eq_nil_iff]
  exact fun _ _ => rfl

section
variable (document value : List Slot) (path : List String) (name : String)

theorem map_fill_setParts : (setParts fixed document path value).map (fill values) =
    setParts id (document.map (fill values)) path (value.map (fill values)) := by
  simp [setParts, fill]

theorem map_fill_bindParts : (bindParts fixed value name document).map (fill values) =
    bindParts id (value.map (fill values)) name (document.map (fill values)) := by
  simp [bindParts, fill]

theorem map_fill_plainParts : (plainParts fixed document).map (fill values) =
    plainParts id (document.map (fill values)) := by
  simp [plainParts, fill]

theorem filterMap_token?_setParts : (setParts fixed document path value).filterMap token? =
    setParts id (document.filterMap token?) path (value.filterMap token?) := by
  simp [setParts, token?]

theorem filterMap_token?_bindParts : (bindParts fixed value name document).filterMap token? =
    bindParts id (value.filterMap token?) name (document.filterMap token?) := by
  simp [bindParts, token?]

theorem filterMap_token?_plainParts : (plainParts fixed document).filterMap token? =
    plainParts id (document.filterMap token?) := by
  simp [plainParts, token?]

theorem filterMap_index?_setParts : (setParts fixed document path value).filterMap index? =
    document.filterMap index? ++ value.filterMap index? := by
  simp [setParts, index?, List.filterMap_cons]

theorem filterMap_index?_bindParts : (bindParts fixed value name document).filterMap index? =
    document.filterMap index? ++ value.filterMap index? := by
  simp [bindParts, index?, List.filterMap_cons]

theorem filterMap_index?_plainParts :
    (plainParts fixed document).filterMap index? = document.filterMap index? := by
  simp [plainParts, index?, List.filterMap_cons]

end

end Slot
end Sql

namespace Update

/-- The template of a document with the value of the update `index` set at a path. -/
def deepSetSlots (document : List Slot) (segments : List String) (index : Nat) : List Slot :=
  match segments with
  | [] => setParts .fixed document [] (Slot.ofValue index)
  | [segment] => setParts .fixed document [segment] (Slot.ofValue index)
  | segments =>
    bindParts .fixed document documentName (setParts .fixed
      (((DocExpr.name documentName).withParents [] segments).tokens.map .fixed) segments
      (Slot.ofValue index))

/-- The template of a document with the values of updates set at paths. -/
def setAllSlots (document : List Slot) (paths : List (List String × Nat)) : List Slot :=
  paths.foldl (fun document path => deepSetSlots document path.1 path.2) document

/-- The template of the merge expression of a column. -/
def mergeSlots (column : Column) (paths : List (List String)) : List Slot :=
  let merged := setAllSlots ((DocExpr.ofColumn column).tokens.map .fixed) paths.zipIdx
  if column.type = .json then plainParts .fixed merged else merged

/-! ### Putting values in -/

section
variable {values : List Json}

theorem map_fill_deepSetSlots {slots : List Slot} {document : DocExpr} {index : Nat} {value : Json}
    (hd : slots.map (Slot.fill values) = document.tokens) (hv : values[index]? = some value)
    (segments : List String) : (deepSetSlots slots segments index).map (Slot.fill values) =
      (document.deepSet segments value).tokens := by
  have hvalue : (Slot.ofValue index).map (Slot.fill values) = (DocExpr.literal value).tokens := by
    simp [Slot.ofValue, Slot.fill, hv, DocExpr.tokens, castTokens]
  match segments with
  | [] =>
    rw [deepSetSlots, Slot.map_fill_setParts, hd, hvalue]
    rfl
  | [segment] =>
    rw [deepSetSlots, Slot.map_fill_setParts, hd, hvalue]
    rfl
  | first :: second :: rest =>
    rw [deepSetSlots, Slot.map_fill_bindParts, Slot.map_fill_setParts, Slot.map_fill_fixed, hd,
      hvalue]
    · rfl
    · exact nofun
    · exact nofun

theorem map_fill_setAllSlots : ∀ {places : List (List String × Json)} {slots : List Slot}
    {document : DocExpr} {first : Nat}, slots.map (Slot.fill values) = document.tokens →
    (∀ i place, places[i]? = some place → values[first + i]? = some place.2) →
    (setAllSlots slots ((places.map Prod.fst).zipIdx first)).map (Slot.fill values) =
      (places.foldl (fun document place => document.deepSet place.1 place.2) document).tokens
  | [], _, _, _, hd, _ => hd
  | place :: rest, slots, document, first, hd, hv => by
    have hplace : (deepSetSlots slots place.1 first).map (Slot.fill values) = _ :=
      map_fill_deepSetSlots hd (hv 0 place rfl) place.1
    have hrest : ∀ i other, rest[i]? = some other → values[first + 1 + i]? = some other.2 := by
      intro i other hother
      rw [Nat.add_assoc, Nat.add_comm 1 i]
      exact hv (i + 1) other hother
    rw [List.map_cons, List.zipIdx_cons, setAllSlots, List.foldl_cons, List.foldl_cons]
    exact map_fill_setAllSlots hplace hrest

/-- **A merge expression is its template with the values put in.** -/
theorem map_fill_mergeSlots (column : Column) (places : List (List String × Json)) :
    (mergeSlots column (places.map Prod.fst)).map (Slot.fill (places.map Prod.snd)) =
      (mergeDocument column places).tokens := by
  have hvalues : ∀ i place, places[i]? = some place →
      (places.map Prod.snd)[0 + i]? = some place.2 := by
    intro i place hplace
    rw [Nat.zero_add, List.getElem?_map, hplace]
    rfl
  have hmerged := map_fill_setAllSlots (Slot.map_fill_fixed (DocExpr.ofColumn column).tokens) hvalues
  rw [mergeSlots, mergeDocument, DocExpr.toColumn]
  split
  · rw [Slot.map_fill_plainParts, hmerged]
    rfl
  · exact hmerged

end

/-! ### What templates contain -/

/-- The words of merge expressions. -/
def mergeWords : List String :=
  ["COALESCE", "jsonb_set", "SELECT", "FROM", "AS", "true", "json", "jsonb"]

/-- The signs of merge expressions. -/
def mergeSigns : List String := ["(", ")", ",", "::", "#>"]

/-- The tokens that the merge expression of a column, with values set at paths, has apart from the
values: fixed words and signs, three names, the empty containers, and what paths begin with.  There are no placeholders among
them. -/
inductive Allows (name : String) (paths : List (List String)) : Token → Prop where
  | fixed {token : Token} (h : token.isAmong mergeWords mergeSigns = true) : Allows name paths token
  | column : Allows name paths (.identifier name)
  | document : Allows name paths (.identifier "doc")
  | source : Allows name paths (.identifier "src")
  | object : Allows name paths (.literal "\x7b\x7d")
  | array : Allows name paths (.literal "[]")
  | path {path start : List String} (hmem : path ∈ paths) (hstart : start <+: path)
    (hne : start ≠ []) : Allows name paths (.literal (arrayText start))

section
variable {name : String} {paths : List (List String)} {first second : List Token}

theorem allows_of_fixed {tokens : List Token}
    (h : tokens.all (Token.isAmong mergeWords mergeSigns) = true) :
    ∀ token ∈ tokens, Allows name paths token :=
  fun token htoken => .fixed (List.all_eq_true.1 h token htoken)

theorem allows_setParts (hd : ∀ token ∈ first, Allows name paths token)
    (hv : ∀ token ∈ second, Allows name paths token) {path : List String}
    (hpath : Allows name paths (.literal (arrayText path))) :
    ∀ token ∈ setParts id first path second, Allows name paths token := by
  simp only [setParts, List.map_id, List.forall_mem_append]
  exact ⟨⟨⟨⟨⟨⟨allows_of_fixed (by decide), hd⟩, allows_of_fixed (by decide)⟩,
    List.forall_mem_singleton.2 hpath⟩, allows_of_fixed (by decide)⟩, hv⟩,
    allows_of_fixed (by decide)⟩

theorem allows_bindParts (hv : ∀ token ∈ first, Allows name paths token)
    (hb : ∀ token ∈ second, Allows name paths token) :
    ∀ token ∈ bindParts id first documentName second, Allows name paths token := by
  simp only [bindParts, List.map_id, List.forall_mem_append]
  exact ⟨⟨⟨⟨⟨⟨⟨⟨allows_of_fixed (by decide), hb⟩, allows_of_fixed (by decide)⟩, hv⟩,
    allows_of_fixed (by decide)⟩, List.forall_mem_singleton.2 .document⟩,
    allows_of_fixed (by decide)⟩, List.forall_mem_singleton.2 .source⟩,
    allows_of_fixed (by decide)⟩

theorem allows_plainParts (h : ∀ token ∈ first, Allows name paths token) :
    ∀ token ∈ plainParts id first, Allows name paths token := by
  simp only [plainParts, List.map_id, List.forall_mem_append]
  exact ⟨⟨allows_of_fixed (by decide), h⟩, allows_of_fixed (by decide)⟩

theorem allows_castTokens (h : ∀ token ∈ first, Allows name paths token) :
    ∀ token ∈ castTokens first "jsonb", Allows name paths token := by
  simp only [castTokens, List.forall_mem_append]
  exact ⟨h, allows_of_fixed (by decide)⟩

theorem allows_coalesceTokens (h : ∀ token ∈ first, Allows name paths token) {fallback : Json}
    (hf : Allows name paths (.literal fallback.compact)) :
    ∀ token ∈ coalesceTokens first fallback, Allows name paths token := by
  simp only [coalesceTokens, List.forall_mem_append]
  exact ⟨⟨⟨⟨allows_of_fixed (by decide), h⟩, allows_of_fixed (by decide)⟩,
    allows_castTokens (List.forall_mem_singleton.2 hf)⟩, allows_of_fixed (by decide)⟩

theorem allows_extractTokens (h : ∀ token ∈ first, Allows name paths token) {path : List String}
    (hpath : Allows name paths (.literal (arrayText path))) :
    ∀ token ∈ extractTokens "#>" first path, Allows name paths token := by
  simp only [extractTokens, List.forall_mem_append]
  exact ⟨⟨⟨⟨allows_of_fixed (by decide), h⟩, allows_of_fixed (by decide)⟩,
    List.forall_mem_singleton.2 hpath⟩, allows_of_fixed (by decide)⟩

theorem allows_emptyParent (segment : String) :
    Allows name paths (.literal (DocExpr.emptyParent segment).compact) := by
  rw [DocExpr.emptyParent]
  split
  · exact .array
  · exact .object

/-- The parents on the way to a path are at the beginnings of the path. -/
theorem allows_withParents {path : List String} (hmem : path ∈ paths) :
    ∀ {segments done : List String} {target : DocExpr}, done ++ segments = path →
    (∀ token ∈ target.tokens, Allows name paths token) →
    ∀ token ∈ (target.withParents done segments).tokens, Allows name paths token
  | [], _, _, _, ht => ht
  | [_], _, _, _, ht => ht
  | segment :: next :: rest, done, target, hpath, ht => by
    have hwhole : (done ++ [segment]) ++ next :: rest = path := by
      rw [← hpath, List.append_assoc, List.singleton_append]
    have hstart : Allows name paths (.literal (arrayText (done ++ [segment]))) :=
      .path hmem ⟨next :: rest, hwhole⟩ (List.append_ne_nil_of_right_ne_nil _ (List.cons_ne_nil _ _))
    have hname : ∀ token ∈ (DocExpr.name documentName).tokens, Allows name paths token :=
      List.forall_mem_singleton.2 .document
    have hparent : ∀ token ∈ (DocExpr.orElse (.extract (.name documentName) (done ++ [segment]))
        (DocExpr.emptyParent next)).tokens, Allows name paths token :=
      allows_coalesceTokens (allows_extractTokens hname hstart) (allows_emptyParent next)
    rw [DocExpr.withParents]
    exact allows_withParents hmem hwhole (allows_setParts ht hparent hstart)

/-- The tokens of the document of a column. -/
theorem allows_ofColumn (column : Column) :
    ∀ token ∈ (DocExpr.ofColumn column).tokens, Allows column.name paths token := by
  have hname : ∀ token ∈ (DocExpr.name column.name).tokens, Allows column.name paths token :=
    List.forall_mem_singleton.2 .column
  rw [DocExpr.ofColumn]
  refine allows_coalesceTokens ?_ .object
  split
  · exact allows_castTokens hname
  · exact hname

end

/-- What is true of the template of a merge expression in which the values of some updates
belong. -/
structure Template (name : String) (paths : List (List String)) (indices : List Nat)
    (slots : List Slot) : Prop where
  /-- Its tokens are allowed. -/
  allows : ∀ token ∈ slots.filterMap Slot.token?, Allows name paths token
  /-- Its parentheses are balanced. -/
  balanced : Balanced (slots.filterMap Slot.token?)
  /-- Every value belongs in one place. -/
  indices : (slots.filterMap Slot.index?).Perm indices

namespace Template

variable {name : String} {paths : List (List String)} {indices others : List Nat}
  {slots value : List Slot}

/-- The template of an expression without values. -/
theorem of_tokens {expr : DocExpr} (h : ∀ token ∈ expr.tokens, Allows name paths token) :
    Template name paths [] (expr.tokens.map .fixed) := by
  refine ⟨?_, ?_, ?_⟩
  · rwa [Slot.filterMap_token?_fixed]
  · rw [Slot.filterMap_token?_fixed]
    exact expr.balanced_tokens
  · rw [Slot.filterMap_index?_fixed]

theorem ofValue (index : Nat) : Template name paths [index] (Slot.ofValue index) := by
  have hcast : [Token.symbol "::", .word "jsonb"].all (Token.isAmong mergeWords mergeSigns) = true := by
    decide
  exact ⟨allows_of_fixed hcast, .append (.single rfl) (.single rfl), .refl _⟩

theorem setParts (hd : Template name paths indices slots) (hv : Template name paths others value)
    {path : List String} (hpath : Allows name paths (.literal (arrayText path))) :
    Template name paths (indices ++ others) (setParts .fixed slots path value) := by
  refine ⟨?_, ?_, ?_⟩
  · rw [Slot.filterMap_token?_setParts]
    exact allows_setParts hd.allows hv.allows hpath
  · rw [Slot.filterMap_token?_setParts]
    exact hd.balanced.setParts hv.balanced path
  · rw [Slot.filterMap_index?_setParts]
    exact hd.indices.append hv.indices

theorem bindParts (hv : Template name paths indices value) (hb : Template name paths others slots) :
    Template name paths (others ++ indices) (bindParts .fixed value documentName slots) := by
  refine ⟨?_, ?_, ?_⟩
  · rw [Slot.filterMap_token?_bindParts]
    exact allows_bindParts hv.allows hb.allows
  · rw [Slot.filterMap_token?_bindParts]
    exact hv.balanced.bindParts hb.balanced documentName
  · rw [Slot.filterMap_index?_bindParts]
    exact hb.indices.append hv.indices

theorem plainParts (h : Template name paths indices slots) :
    Template name paths indices (plainParts .fixed slots) := by
  refine ⟨?_, ?_, ?_⟩
  · rw [Slot.filterMap_token?_plainParts]
    exact allows_plainParts h.allows
  · rw [Slot.filterMap_token?_plainParts]
    exact h.balanced.plainParts
  · rw [Slot.filterMap_index?_plainParts]
    exact h.indices

theorem of_perm (h : Template name paths indices slots) (hp : indices.Perm others) :
    Template name paths others slots :=
  ⟨h.allows, h.balanced, h.indices.trans hp⟩

/-- Setting a value at a path adds a place for it. -/
theorem deepSetSlots (h : Template name paths indices slots) {path : List String}
    (hmem : path ∈ paths) (hne : path ≠ []) (index : Nat) :
    Template name paths (indices ++ [index]) (deepSetSlots slots path index) := by
  have hpath : Allows name paths (.literal (arrayText path)) := .path hmem (List.prefix_refl _) hne
  match path with
  | [] => exact absurd rfl hne
  | [segment] => exact h.setParts (.ofValue index) hpath
  | first :: second :: rest =>
    have hname : ∀ token ∈ (DocExpr.name documentName).tokens, Allows name paths token :=
      List.forall_mem_singleton.2 .document
    have hparents := of_tokens (allows_withParents hmem (List.nil_append _) hname)
    have hbody := hparents.setParts (.ofValue index) hpath
    rw [Update.deepSetSlots]
    · exact (h.bindParts hbody).of_perm List.perm_append_comm
    · exact nofun
    · exact nofun

/-- Induction on the paths: each of them adds its number. -/
theorem setAllSlots (hne : ∀ path ∈ paths, path ≠ []) : ∀ {rest : List (List String)} {first : Nat}
    {slots : List Slot} {indices : List Nat}, (∀ path ∈ rest, path ∈ paths) →
    Template name paths indices slots →
    Template name paths (indices ++ List.range' first rest.length)
      (setAllSlots slots (rest.zipIdx first))
  | [], _, _, _, _, h => by
    rw [List.length_nil, List.range'_zero, List.append_nil]
    exact h
  | path :: rest, first, slots, indices, hmem, h => by
    obtain ⟨hpath, hrest⟩ := List.forall_mem_cons.1 hmem
    have hset := h.deepSetSlots hpath (hne path hpath) first
    have hall : Template name paths _ (Update.setAllSlots _ (rest.zipIdx (first + 1))) :=
      setAllSlots hne hrest hset
    rw [List.length_cons, List.range'_succ, ← List.singleton_append, ← List.append_assoc,
      List.zipIdx_cons, Update.setAllSlots, List.foldl_cons]
    exact hall

/-- **Merge expressions have templates.** -/
theorem mergeSlots (column : Column) (hne : ∀ path ∈ paths, path ≠ []) :
    Template column.name paths (List.range paths.length) (mergeSlots column paths) := by
  have hmerged : Template column.name paths _ (Update.setAllSlots _ paths.zipIdx) :=
    setAllSlots hne (fun _ h => h) (of_tokens (allows_ofColumn column))
  rw [List.nil_append, ← List.range_eq_range'] at hmerged
  rw [Update.mergeSlots]
  split
  · exact hmerged.plainParts
  · exact hmerged

end Template

/-! ## Merge expressions -/

/-- The columns with an expression are those that paths address. -/
theorem exists_column_of_find?_mergeColumns {table name : String} {assignments : List Assignment}
    {expr : DocExpr} : ∀ {columns : List Column} {done documents : NameMap DocExpr},
    mergeColumns table assignments done columns = .ok documents →
    NameMap.find? name documents = some expr →
    NameMap.find? name done = some expr ∨ ∃ column ∈ columns, column.name = name
  | [], _, _, h, hfind => by
    cases h
    exact .inl hfind
  | first :: rest, done, documents, h, hfind => by
    rw [mergeColumns] at h
    split at h
    · cases h
    · rcases exists_column_of_find?_mergeColumns h hfind with hdone | ⟨column, hmem, hname⟩
      · by_cases hfirst : name = first.name
        · exact .inr ⟨first, List.mem_cons_self, hfirst.symm⟩
        · rw [NameMap.find?_insert_of_ne hfirst] at hdone
          exact .inl hdone
      · exact .inr ⟨column, List.mem_cons_of_mem _ hmem, hname⟩

theorem places_ne_nil_of_compile {columns : ColumnSet} {members : Members} {update : Update}
    {name : String} {expr : DocExpr} (h : compile columns members = .ok update)
    (hfind : NameMap.find? name update.documents = some expr) : places name members ≠ [] := by
  rw [compile] at h
  obtain ⟨assignments, hread, h⟩ := bind_eq_ok_iff.1 h
  obtain ⟨documents, hmerge, h⟩ := bind_eq_ok_iff.1 h
  cases h
  obtain ⟨-, hplaces⟩ := Assignment.of_readAll hread
  have hnone : NameMap.find? name ([] : NameMap DocExpr) ≠ some expr := by
    intro hnil
    cases hnil
  obtain ⟨column, hcolumn, hname⟩ :=
    (exists_column_of_find?_mergeColumns hmerge hfind).resolve_left hnone
  obtain ⟨assignment, hmem, hsome⟩ := List.mem_filterMap.1 (List.mem_eraseDups.1 hcolumn)
  cases assignment with
  | direct key value => cases hsome
  | inside document segments value =>
    cases hsome
    rw [← hplaces]
    have hinside : (Assignment.inside column segments value).inside? name =
        some (segments, value) := if_pos hname
    exact List.ne_nil_of_mem (List.mem_filterMap.2 ⟨_, hmem, hinside⟩)

theorem find?_merges (update : Update) (name : String) :
    NameMap.find? name update.merges = (NameMap.find? name update.documents).map DocExpr.sql := by
  rw [merges]
  induction update.documents with
  | nil => rfl
  | cons entry rest ih =>
    rw [List.map_cons, NameMap.find?, NameMap.find?, ih]
    split <;> rfl

/-- **Values cannot leave their literals.**  Every merge expression has a template, made from the
column and the paths that are set in it: the tokens of the expression are those of the template with
the values put in, and so they are for any other values that are accepted at the same paths.  The
template has one place for each value, and apart from these nothing but allowed tokens, with balanced
parentheses. -/
theorem lex_merges {columns : ColumnSet} {members : Members} {update : Update} {name text : String}
    (h : compile columns members = .ok update)
    (hfind : NameMap.find? name update.merges = some text) :
    ∃ slots, Template name ((places name members).map Prod.fst)
        (List.range (places name members).length) slots ∧
      lex text = some (slots.map (Slot.fill ((places name members).map Prod.snd))) ∧
      ∀ {others : Members} {update' : Update}, compile columns others = .ok update' →
        (places name others).map Prod.fst = (places name members).map Prod.fst →
        ∃ text', NameMap.find? name update'.merges = some text' ∧
          lex text' = some (slots.map (Slot.fill ((places name others).map Prod.snd))) := by
  rw [find?_merges, Option.map_eq_some_iff] at hfind
  obtain ⟨expr, hexpr, rfl⟩ := hfind
  have hne := places_ne_nil_of_compile h hexpr
  obtain ⟨column, hcolumn, hdocument, hpaths⟩ := exists_column_of_compile h hne
  cases hexpr.symm.trans hdocument
  have hname := ColumnSet.name_of_find? hcolumn
  have hnonempty : ∀ path ∈ (places name members).map Prod.fst, path ≠ [] := by
    intro path hpath
    obtain ⟨place, hplace, rfl⟩ := List.mem_map.1 hpath
    exact (hpaths place hplace).1
  refine ⟨mergeSlots column ((places name members).map Prod.fst), ?_, ?_, ?_⟩
  · have htemplate := Template.mergeSlots column hnonempty
    rwa [List.length_map, hname] at htemplate
  · rw [map_fill_mergeSlots]
    exact (mergeDocument column (places name members)).lex_sql
  · intro others update' hothers hsame
    have hne' : places name others ≠ [] := by
      intro hnil
      rw [hnil] at hsame
      exact hne (List.map_eq_nil_iff.1 hsame.symm)
    obtain ⟨column', hcolumn', hdocument', -⟩ := exists_column_of_compile hothers hne'
    cases hcolumn.symm.trans hcolumn'
    refine ⟨(mergeDocument column (places name others)).sql, ?_, ?_⟩
    · rw [find?_merges, hdocument']
      rfl
    · rw [← hsame, map_fill_mergeSlots]
      exact (mergeDocument column (places name others)).lex_sql

/-- A value that would close a literal, and one that is a template of its own. -/
def quotedValues : Members := [("m.a.b", .string "x'); --"), ("m.c", .string "'\x7b\x7d'::jsonb")]

theorem lex_merges_quotedValues : ∃ update text slots,
    compile documentTable quotedValues = .ok update ∧
    NameMap.find? "m" update.merges = some text ∧
    Template "m" [["a", "b"], ["c"]] [0, 1] slots ∧
    lex text = some (slots.map
      (Slot.fill [.string "x'); --", .string "'\x7b\x7d'::jsonb"])) ∧
    ∃ update' text', compile documentTable [("m[a].b", .null), ("m.c", .bool true)] = .ok update' ∧
      NameMap.find? "m" update'.merges = some text' ∧
      lex text' = some (slots.map (Slot.fill [.null, .bool true])) := by
  obtain ⟨slots, htemplate, hlex, hsame⟩ :=
    @lex_merges documentTable quotedValues _ "m" _ rfl rfl
  obtain ⟨text', hfind, hlex'⟩ :=
    @hsame [("m[a].b", .null), ("m.c", .bool true)] _ rfl rfl
  exact ⟨_, _, slots, rfl, rfl, htemplate, hlex, _, text', rfl, hfind, hlex'⟩

end Update
end ClauseSql
