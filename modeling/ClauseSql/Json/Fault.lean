import ClauseSql.Json.Text
import ClauseSql.Text.Visible

/-!
# What can be wrong with JSON input

Input fails in one of two ways.  A text can be *malformed*, that is, no JSON at all; the fault then
has a place in the text.  Or it is JSON of the wrong shape for what is read from it.

## What is here

* `Malformed` — the ways in which a text fails to be JSON, and `Position`, the line and column of
  the offending byte.
* `Found` and `Misshapen` — what stood in place of the expected value, and the ways in which a value
  has the wrong shape.
* `ReadFault` — either of the two, as a reader meets it, and `Fault`, with the place worked out.
* `Fault.message` — the wording of a fault.
-/

set_option autoImplicit false

namespace ClauseSql

/-! ## Malformed text -/

/-- The ways in which a text fails to be JSON. -/
inductive Malformed where
  | endInValue
  | endInString
  | endInArray
  | endInObject
  | expectedValue
  | expectedKeyword
  | expectedColon
  | expectedArrayEnd
  | expectedObjectEnd
  | nameNotString
  | trailingComma
  | trailingText
  | badNumber
  | numberTooLarge
  | badEscape
  | truncatedSurrogate
  | loneSurrogate
  | rawControl
  | tooDeep
deriving DecidableEq, Repr

/-- The wording of a malformed text's fault. -/
def Malformed.message : Malformed → String
  | .endInValue => "EOF while parsing a value"
  | .endInString => "EOF while parsing a string"
  | .endInArray => "EOF while parsing a list"
  | .endInObject => "EOF while parsing an object"
  | .expectedValue => "expected value"
  | .expectedKeyword => "expected ident"
  | .expectedColon => "expected `:`"
  | .expectedArrayEnd => "expected `,` or `]`"
  | .expectedObjectEnd => "expected `,` or `\x7d`"
  | .nameNotString => "key must be a string"
  | .trailingComma => "trailing comma"
  | .trailingText => "trailing characters"
  | .badNumber => "invalid number"
  | .numberTooLarge => "number out of range"
  | .badEscape => "invalid escape"
  | .truncatedSurrogate => "unexpected end of hex escape"
  | .loneSurrogate => "lone leading surrogate in hex escape"
  | .rawControl => "control character (\\u0000-\\u001F) found while parsing a string"
  | .tooDeep => "recursion limit exceeded"

/-- A place in a text: lines count from one, columns count the bytes since the last line break. -/
structure Position where
  line : Nat
  column : Nat
deriving DecidableEq, Repr

/-- The bytes that a list of characters takes in UTF-8. -/
def byteCount (s : List Char) : Nat := s.foldl (fun n c => n + c.utf8Size) 0

/-- Moves a position over the first `bytes` bytes of a text. -/
def Position.advance (position : Position) (bytes : Nat) : List Char → Position
  | [] => position
  | c :: rest =>
    if bytes = 0 then position
    else if c = '\n' then advance ⟨position.line + 1, 0⟩ (bytes - 1) rest
    else advance { position with column := position.column + min bytes c.utf8Size }
      (bytes - c.utf8Size) rest

/-- The position that leaves `remaining` bytes of a text. -/
def Position.beforeLast (text : String) (remaining : Nat) : Position :=
  Position.advance ⟨1, 0⟩ (text.utf8ByteSize - remaining) text.toList

/-! ## Values of the wrong shape -/

/-- A value found where another kind was expected. -/
inductive Found where
  | null
  | bool (value : Bool)
  | number (value : Number)
  | string (value : String)
  | array
  | object
deriving DecidableEq, Repr

/-- What a value is found to be. -/
def Json.found : Json → Found
  | .null => .null
  | .bool value => .bool value
  | .number value => .number value
  | .string value => .string value
  | .array _ => .array
  | .object _ => .object

/-- The ways in which JSON has the wrong shape. -/
inductive Misshapen where
  | wrongType (found : Found) (expected : String)
  | wrongValue (found : Found) (expected : String)
  | wrongLength (length : Nat) (expected : String)
  | unknownField (name : String) (known : List String)
  | missingField (name : String)
  | repeatedField (name : String)
  | unknownVariant (name : String) (known : List String)
deriving DecidableEq, Repr

/-! ## Faults and their wording -/

/-- A fault as a reader meets it; a malformed text's fault comes with the number of bytes of the
text that lie after it. -/
inductive ReadFault where
  | malformed (cause : Malformed) (remaining : Nat)
  | misshapen (cause : Misshapen)
deriving DecidableEq, Repr

/-- A fault with its place worked out. -/
inductive Fault where
  | malformed (cause : Malformed) (position : Position)
  | misshapen (cause : Misshapen)
deriving DecidableEq, Repr

/-- Works out the place of a fault in the text it was met in. -/
def ReadFault.locate (text : String) : ReadFault → Fault
  | .malformed cause remaining => .malformed cause (Position.beforeLast text remaining)
  | .misshapen cause => .misshapen cause

/-- How a fault names what it found. -/
def Found.message : Found → String
  | .null => "null"
  | .bool value => "boolean `" ++ (if value then "true" else "false") ++ "`"
  | .number (.int value) => "integer `" ++ toString value ++ "`"
  | .number (.float value) => "floating point `" ++ value.text Number.layout ++ "`"
  | .string value => "string " ++ Text.visibleQuote value
  | .array => "sequence"
  | .object => "map"

/-- How a fault lists the names that would have been accepted. -/
def oneOf : List String → String
  | [] => "nothing"
  | [only] => "`" ++ only ++ "`"
  | [first, second] => "`" ++ first ++ "` or `" ++ second ++ "`"
  | names => "one of " ++ joined ", " (names.map fun name => "`" ++ name ++ "`")

/-- The wording of a wrong shape. -/
def Misshapen.message : Misshapen → String
  | .wrongType found expected => "invalid type: " ++ found.message ++ ", expected " ++ expected
  | .wrongValue found expected => "invalid value: " ++ found.message ++ ", expected " ++ expected
  | .wrongLength length expected =>
    "invalid length " ++ toString length ++ ", expected " ++ expected
  | .unknownField name known => "unknown field `" ++ name ++ "`, expected " ++ oneOf known
  | .missingField name => "missing field `" ++ name ++ "`"
  | .repeatedField name => "duplicate field `" ++ name ++ "`"
  | .unknownVariant name known => "unknown variant `" ++ name ++ "`, expected " ++ oneOf known

/-- The wording of a fault, without its place. -/
def Fault.summary : Fault → String
  | .malformed cause _ => cause.message
  | .misshapen cause => cause.message

/-- The wording of a fault; a malformed text's fault ends with its place. -/
def Fault.message : Fault → String
  | .malformed cause position =>
    cause.message ++ " at line " ++ toString position.line ++ " column " ++
      toString position.column
  | .misshapen cause => cause.message

end ClauseSql
