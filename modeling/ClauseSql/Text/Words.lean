/-!
# Runs of characters

## What is here

* `Text.runs` — the maximal runs of a text that contain no delimiter, for any choice of delimiters.
* `Text.isWhite` and `Text.words` — the white space of Unicode, and the runs between it.
-/

set_option autoImplicit false

namespace ClauseSql
namespace Text

/-- The maximal runs of a text that no delimiter interrupts; `before` is the run under way, last
character first. -/
def runsFrom (delimiter : Char → Bool) (before : List Char) : List Char → List (List Char)
  | [] => if before.isEmpty then [] else [before.reverse]
  | c :: rest =>
    if delimiter c then
      if before.isEmpty then runsFrom delimiter [] rest
      else before.reverse :: runsFrom delimiter [] rest
    else runsFrom delimiter (c :: before) rest

/-- The maximal runs of a text that contain no delimiter. -/
def runs (delimiter : Char → Bool) (text : String) : List String :=
  (runsFrom delimiter [] text.toList).map String.ofList

/-- The code points with the property White_Space. -/
def whiteRanges : List (Nat × Nat) :=
  [(0x09, 0x0D), (0x20, 0x20), (0x85, 0x85), (0xA0, 0xA0), (0x1680, 0x1680), (0x2000, 0x200A),
    (0x2028, 0x2029), (0x202F, 0x202F), (0x205F, 0x205F), (0x3000, 0x3000)]

/-- Whether a character is white space. -/
def isWhite (c : Char) : Bool :=
  whiteRanges.any fun (first, last) => first ≤ c.toNat && c.toNat ≤ last

/-- The words of a text. -/
def words (text : String) : List String := runs isWhite text

end Text
end ClauseSql
