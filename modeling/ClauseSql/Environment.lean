import ClauseSql.Text.Alphanumeric
import ClauseSql.Text.Words

/-!
# The environment

Variables come from the process and then from an environment file, which never replaces a variable.
Such a file holds one assignment to a line; a quoted value can go on over several lines.

## What is here

* `Environment` — variables with their values.  `Environment.get?` goes by the text of an entry, so
  that a name can also run on into a value.
* `EnvFile.statements` — the statements of a file: its lines, joined where quotes or a backslash
  leave one open, and cut off before a comment.
* `EnvFile.assignment` — what a statement assigns.  A value can refer to variables.
* `Environment.load?` — the environment after the statements before the first malformed one, unless
  one of them sets a variable to what no variable can hold.
-/

set_option autoImplicit false

namespace ClauseSql

/-- Variables, each with its value. -/
abbrev Environment := List (String × String)

namespace Environment

/-- The text of an entry. -/
def entryText (entry : String × String) : List Char := entry.1.toList ++ '=' :: entry.2.toList

/-- What follows a name and an equals sign in the first entry that begins with them. -/
def get? (name : String) (environment : Environment) : Option String :=
  if name.isEmpty then none
  else
    (environment.findSome? fun entry => (name.toList ++ ['=']).isPrefixOf? (entryText entry)).map
      String.ofList

/-- Whether a variable can hold a value: entries end with the null character. -/
def canHold (value : String) : Bool := !value.toList.contains '\x00'

/-- Sets a variable unless it has a value; none if it has to be set and cannot hold the value. -/
def provide? (name value : String) (environment : Environment) : Option Environment :=
  match environment.get? name with
  | some _ => some environment
  | none => if canHold value then some (environment ++ [(name, value)]) else none

end Environment

namespace EnvFile

/-! ## Statements -/

/-- What the characters of a statement leave open. -/
inductive Scan where
  /-- Nothing. -/
  | plain
  /-- A comment could follow. -/
  | blank
  | escape
  | single
  | singleEscape
  | double
  | doubleEscape
deriving DecidableEq, Repr

namespace Scan

/-- What a character leaves open outside of quotes. -/
def outside (c : Char) : Scan :=
  if c = '\\' then .escape
  else if c = '"' then .double
  else if c = '\'' then .single
  else .plain

/-- What is open after a further character. -/
def next (scan : Scan) (c : Char) : Scan :=
  match scan with
  | .blank => outside c
  | .escape => .plain
  | .plain => if Text.isWhite c && c != '\n' && c != '\r' then .blank else outside c
  | .double => if c = '\\' then .doubleEscape else if c = '"' then .plain else .double
  | .doubleEscape => .double
  | .single => if c = '\\' then .singleEscape else if c = '\'' then .plain else .single
  | .singleEscape => .single

end Scan

/-- The characters of a line up to a comment, and what they leave open. -/
def scanLine (scan : Scan) : List Char → List Char × Scan
  | [] => ([], scan)
  | c :: rest =>
    if scan = .blank ∧ c = '#' then ([], .plain)
    else
      let (kept, last) := scanLine (scan.next c) rest
      (c :: kept, last)

/-- The lines of a text, each with the line break that ends it. -/
def lines : List Char → List (List Char)
  | [] => []
  | c :: rest =>
    if c = '\n' then [c] :: lines rest
    else
      match lines rest with
      | [] => [[c]]
      | line :: more => (c :: line) :: more

/-- Whether a statement is a comment. -/
def isComment (statement : List Char) : Bool :=
  (statement.dropWhile Text.isWhite).head? == some '#'

/-- The statements of lines, the first of which goes on from `before`.  The text must not end within
a statement; one that is left open there is none. -/
def joinLines (scan : Scan) (before : List Char) : List (List Char) → List (List Char)
  | [] => []
  | line :: rest =>
    if isComment (before ++ line) then joinLines .plain [] rest
    else
      match scanLine scan line with
      | (kept, .plain) => (before ++ kept) :: joinLines .plain [] rest
      | (kept, scan) => joinLines scan (before ++ kept) rest

/-- The statements of a text.  A byte order mark in front of it does not count. -/
def statements (text : String) : List (List Char) :=
  match text.toList with
  | '\uFEFF' :: rest => joinLines .plain [] (lines rest)
  | s => joinLines .plain [] (lines s)

/-! ## Values -/

/-- Where a reader stands in a value.  Names are collected last character first. -/
inductive Mode where
  | plain
  | single
  | double
  | escape (quoted : Bool)
  /-- The name of a variable, after a dollar sign. -/
  | name (quoted : Bool) (letters : List Char)
  /-- The name of a variable between braces. -/
  | braced (quoted : Bool) (letters : List Char)
  /-- After the value, where only a comment can follow. -/
  | ended
deriving DecidableEq, Repr

/-- The mode between the parts of a value, inside or outside of double quotes. -/
def Mode.within (quoted : Bool) : Mode := if quoted then .double else .plain

/-- The value of the variable whose name was collected; nothing for an unknown one. -/
def substitute (environment : Environment) (letters : List Char) : List Char :=
  ((environment.get? (String.ofList letters.reverse)).getD "").toList

/-- What an escaped character stands for. -/
def unescape? (c : Char) : Option Char :=
  if c = 'n' then some '\n'
  else if c = '\\' || c = '\'' || c = '"' || c = '$' || c = ' ' then some c
  else none

/-- The rest of a value.  A character that ends the name of a variable stands for itself, even a
quote. -/
def readValue (environment : Environment) (mode : Mode) : List Char → Option (List Char)
  | [] =>
    match mode with
    | .plain | .escape false | .ended => some []
    | .name false letters => some (substitute environment letters)
    | .single | .double | .escape true | .name true _ | .braced .. => none
  | c :: rest =>
    match mode with
    | .ended =>
      if c = ' ' || c = '\t' then readValue environment .ended rest
      else if c = '#' then some []
      else none
    | .escape quoted => do
      let meaning ← unescape? c
      let value ← readValue environment (.within quoted) rest
      return meaning :: value
    | .single => do
      if c = '\'' then readValue environment .plain rest
      else
        let value ← readValue environment .single rest
        return c :: value
    | .name quoted letters => do
      if Text.isAlphanumeric c then readValue environment (.name quoted (c :: letters)) rest
      else if c = '{' ∧ letters = [] then readValue environment (.braced quoted []) rest
      else if c = '$' then
        let value ← readValue environment (.name quoted []) rest
        return substitute environment letters ++ value
      else
        let value ← readValue environment (.within quoted) rest
        return substitute environment letters ++ c :: value
    | .braced quoted letters => do
      if c = '}' then
        let value ← readValue environment (.within quoted) rest
        return substitute environment letters ++ value
      else readValue environment (.braced quoted (c :: letters)) rest
    | .double => do
      if c = '$' then readValue environment (.name true []) rest
      else if c = '"' then readValue environment .plain rest
      else if c = '\\' then readValue environment (.escape true) rest
      else
        let value ← readValue environment .double rest
        return c :: value
    | .plain => do
      if c = '$' then readValue environment (.name false []) rest
      else if c = '\'' then readValue environment .single rest
      else if c = '"' then readValue environment .double rest
      else if c = '\\' then readValue environment (.escape false) rest
      else if c = ' ' || c = '\t' then readValue environment .ended rest
      else
        let value ← readValue environment .plain rest
        return c :: value

/-! ## Assignments -/

/-- Whether a character can begin the name of a variable. -/
def isNameStart (c : Char) : Bool := c.isAlpha || c == '_'

/-- Whether the name of a variable can go on with a character. -/
def isNamePart (c : Char) : Bool := c.isAlphanum || c == '_' || c == '.'

/-- The name at the start of a text and what comes after it. -/
def readName? (s : List Char) : Option (String × List Char) :=
  if s.head?.any isNameStart then
    some (String.ofList (s.takeWhile isNamePart), (s.dropWhile isNamePart).dropWhile Text.isWhite)
  else none

/-- The name of an assignment and what comes after the equals sign.  The word `export` may stand in
front. -/
def readTarget? (s : List Char) : Option (String × List Char) := do
  let (name, rest) ← readName? s
  if rest.head? = some '=' then return (name, rest.tail)
  else if name = "export" then
    let (name, rest) ← readName? rest
    if rest.head? = some '=' then return (name, rest.tail) else none
  else none

/-- Whether nothing but a comment is left. -/
def isOver (s : List Char) : Bool := s.isEmpty || s.head? == some '#'

/-- A text without the white space at its end. -/
def trimEnd (s : List Char) : List Char := (s.reverse.dropWhile Text.isWhite).reverse

/-- What a statement assigns: none if it is malformed, and nothing if it is blank. -/
def assignment (environment : Environment) (statement : List Char) :
    Option (Option (String × String)) := do
  let s := (trimEnd statement).dropWhile Text.isWhite
  if isOver s then return none
  else
    let (name, rest) ← readTarget? s
    let rest := rest.dropWhile Text.isWhite
    if isOver rest then return some (name, "")
    else
      let value ← readValue environment .plain rest
      return some (name, String.ofList value)

/-- The environment after some statements, up to the first malformed one; none if one of them sets a
variable to what no variable can hold. -/
def run? (environment : Environment) : List (List Char) → Option Environment
  | [] => some environment
  | statement :: rest =>
    match assignment environment statement with
    | none => some environment
    | some none => run? environment rest
    | some (some (name, value)) =>
      match environment.provide? name value with
      | none => none
      | some environment => run? environment rest

/-- The names that a text can refer to or assign. -/
def mentioned (text : String) : List String :=
  (Text.runs (!Text.isAlphanumeric ·) text ++ Text.runs (!isNamePart ·) text ++
    Text.runs (fun c => c == '{' || c == '}') text).eraseDups

end EnvFile

/-- The environment with the variables of a file added; none if one of them cannot hold its value. -/
def Environment.load? (environment : Environment) (text : String) : Option Environment :=
  EnvFile.run? environment (EnvFile.statements text)

end ClauseSql
