import ClauseSql.Json.Value

/-!
# JSON text

Values are written in one of two forms: compact, with no white space at all, and indented, with one
member or item to a line and two more spaces for each level.

## What is here

* `Json.quote` — a string between quotes.  Only the quote, the backslash and the control characters
  below U+0020 are escaped.
* `Json.compact` — the compact text of a value, the form in which values are written into SQL
  literals.
* `Json.indented` — the indented text of a value, the form in which answers are printed.
-/

set_option autoImplicit false

namespace ClauseSql

/-- The strings joined with `separator` between neighbours. -/
def joined (separator : String) : List String → String
  | [] => ""
  | [last] => last
  | first :: second :: rest => first ++ separator ++ joined separator (second :: rest)

namespace Json

/-! ## Strings -/

/-- The lower-case hexadecimal digit of a number below sixteen. -/
def hexDigit (n : Nat) : Char := Nat.digitChar n

/-- The text of one character inside a quoted string. -/
def escapeChar (c : Char) : List Char :=
  if c = '"' then ['\\', '"']
  else if c = '\\' then ['\\', '\\']
  else if c = '\x08' then ['\\', 'b']
  else if c = '\t' then ['\\', 't']
  else if c = '\n' then ['\\', 'n']
  else if c = '\x0c' then ['\\', 'f']
  else if c = '\r' then ['\\', 'r']
  else if c.toNat < 0x20 then ['\\', 'u', '0', '0', hexDigit (c.toNat / 16), hexDigit (c.toNat % 16)]
  else [c]

/-- A string as JSON text. -/
def quote (s : String) : String :=
  String.ofList ('"' :: (s.toList.flatMap escapeChar ++ ['"']))

/-! ## Compact text -/

mutual

/-- The compact text of a value. -/
def compact : Json → String
  | .null => "null"
  | .bool value => if value then "true" else "false"
  | .number value => value.text
  | .string value => quote value
  | .array items => "[" ++ joined "," (compactItems items) ++ "]"
  | .object members => "\x7b" ++ joined "," (compactMembers members) ++ "\x7d"

/-- The compact text of each item. -/
def compactItems : List Json → List String
  | [] => []
  | item :: rest => compact item :: compactItems rest

/-- The compact text of each member. -/
def compactMembers : List (String × Json) → List String
  | [] => []
  | (name, value) :: rest => (quote name ++ ":" ++ compact value) :: compactMembers rest

end

/-! ## Indented text -/

/-- A line break and the indentation of a level. -/
def lineBreak (level : Nat) : String := "\n" ++ String.ofList (List.replicate (2 * level) ' ')

mutual

/-- The indented text of a value that stands at a level. -/
def indentedAt (level : Nat) : Json → String
  | .null => "null"
  | .bool value => if value then "true" else "false"
  | .number value => value.text
  | .string value => quote value
  | .array [] => "[]"
  | .array (item :: rest) =>
    "[" ++ joined "," (indentedItems (level + 1) (item :: rest)) ++ lineBreak level ++ "]"
  | .object [] => "\x7b\x7d"
  | .object (member :: rest) =>
    "\x7b" ++ joined "," (indentedMembers (level + 1) (member :: rest)) ++ lineBreak level ++ "\x7d"

/-- The line of each item. -/
def indentedItems (level : Nat) : List Json → List String
  | [] => []
  | item :: rest => (lineBreak level ++ indentedAt level item) :: indentedItems level rest

/-- The line of each member. -/
def indentedMembers (level : Nat) : List (String × Json) → List String
  | [] => []
  | (name, value) :: rest =>
    (lineBreak level ++ quote name ++ ": " ++ indentedAt level value) :: indentedMembers level rest

end

/-- The indented text of a value. -/
def indented (value : Json) : String := indentedAt 0 value

end Json
end ClauseSql
