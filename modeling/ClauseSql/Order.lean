import ClauseSql.Path

/-!
# Order entries

An order entry is a key, alone or followed by a direction.  Blank entries are ignored.

## What is here

* `Order.compileEntry` — the order key of one entry, none for a blank one.  The direction is checked
  before the key.
* `Order.compile` — the order keys of a list of entries, up to the first fault.
* `Order.warnings` — the blank entries met on the way.
-/

set_option autoImplicit false

namespace ClauseSql
namespace Order

/-- The direction that the words after a key ask for. -/
def compileDirection (columns : ColumnSet) (key : String) (words : List String) :
    Except CompileError Direction :=
  match words with
  | [] => .ok .asc
  | [word] =>
    match Direction.ofWord? word with
    | some direction => .ok direction
    | none => .error (.direction columns.table key word)
  | words => .error (.direction columns.table key (joined " " words))

/-- The order key of an entry; none for a blank one. -/
def compileEntry (columns : ColumnSet) (entry : String) :
    Except CompileError (Option OrderKey) :=
  match Text.words entry with
  | [] => .ok none
  | key :: words => do
    let direction ← compileDirection columns key words
    let target ← Target.resolve columns .order key
    return some ⟨target.ordered, direction⟩

/-- The order keys of the entries, in order. -/
def compile (columns : ColumnSet) : List String → Except CompileError (List OrderKey)
  | [] => .ok []
  | entry :: rest => do
    let key ← compileEntry columns entry
    let more ← compile columns rest
    return key.toList ++ more

/-- The blank entries that are met before the first fault. -/
def warnings (columns : ColumnSet) : List String → List Warning
  | [] => []
  | entry :: rest =>
    match compileEntry columns entry with
    | .error _ => []
    | .ok none => .blankOrder columns.table :: warnings columns rest
    | .ok (some _) => warnings columns rest

end Order
end ClauseSql
