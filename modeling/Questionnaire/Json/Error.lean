import Questionnaire.Json.Number
import Questionnaire.Text.Quoted

/-!
# Json — errors of reading and decoding

A reading or decoding error is a cause, optionally placed at a line and
column of the text. Syntax causes come from the text itself; data causes come
from a value of the wrong shape for the type being decoded. The message of an
error is the text of its cause, followed by ` at line L column C` when it is
placed.

**Main definitions.** `Unexpected.text`, `Problem.text`, `Error.message`.
-/

namespace Questionnaire
namespace Json

/-- What was found where something else was expected. -/
inductive Unexpected where
  | bool (b : Bool)
  | unsigned (n : Nat)
  | signed (n : Int)
  | float (x : Float)
  | str (s : String)
  | null
  | seq
  | map

namespace Unexpected

/-- The text naming what was found, as in `invalid type: integer 3`. -/
def text : Unexpected → String
  | .bool b => "boolean `" ++ toString b ++ "`"
  | .unsigned n => "integer `" ++ toString n ++ "`"
  | .signed n => "integer `" ++ toString n ++ "`"
  | .float x => "floating point `" ++ floatText x ++ "`"
  | .str s => "string " ++ Text.quoted s
  | .null => "null"
  | .seq => "sequence"
  | .map => "map"

/-- What a value is, for an error about its type. -/
def ofValue : Value → Unexpected
  | .null => .null
  | .bool b => .bool b
  | .num (.nat n) => .unsigned n
  | .num (.neg n) => .signed n
  | .num (.float x) => .float x
  | .str s => .str s
  | .arr _ => .seq
  | .obj _ => .map

end Unexpected

/-- **The cause of an error.** The first group are faults of the text, the
second faults of the data for the type being decoded. -/
inductive Problem where
  | eofWhileParsingList
  | eofWhileParsingObject
  | eofWhileParsingString
  | eofWhileParsingValue
  | expectedColon
  | expectedListCommaOrEnd
  | expectedObjectCommaOrEnd
  | expectedSomeIdent
  | expectedSomeValue
  | invalidEscape
  | invalidNumber
  | numberOutOfRange
  | controlCharacterWhileParsingString
  | keyMustBeAString
  | loneLeadingSurrogateInHexEscape
  | trailingComma
  | trailingCharacters
  | unexpectedEndOfHexEscape
  | recursionLimitExceeded
  | invalidType (found : Unexpected) (expected : String)
  | invalidValue (found : Unexpected) (expected : String)
  | invalidLength (length : Nat) (expected : String)
  | unknownVariant (name : String) (expected : List String)
  | missingField (name : String)
  | duplicateField (name : String)
  | untaggedMismatch (typeName : String)

/-- Names in backquotes, joined as `a`, `a` or `b`, or one of `a`, `b`, `c`. -/
def oneOf (names : List String) : String :=
  let q := names.map (fun n => "`" ++ n ++ "`")
  match q with
  | [a] => a
  | [a, b] => a ++ " or " ++ b
  | _ => "one of " ++ ", ".intercalate q

namespace Problem

/-- The text of a cause. -/
def text : Problem → String
  | .eofWhileParsingList => "EOF while parsing a list"
  | .eofWhileParsingObject => "EOF while parsing an object"
  | .eofWhileParsingString => "EOF while parsing a string"
  | .eofWhileParsingValue => "EOF while parsing a value"
  | .expectedColon => "expected `:`"
  | .expectedListCommaOrEnd => "expected `,` or `]`"
  | .expectedObjectCommaOrEnd => "expected `,` or `\x7d`"
  | .expectedSomeIdent => "expected ident"
  | .expectedSomeValue => "expected value"
  | .invalidEscape => "invalid escape"
  | .invalidNumber => "invalid number"
  | .numberOutOfRange => "number out of range"
  | .controlCharacterWhileParsingString =>
    "control character (\\u0000-\\u001F) found while parsing a string"
  | .keyMustBeAString => "key must be a string"
  | .loneLeadingSurrogateInHexEscape => "lone leading surrogate in hex escape"
  | .trailingComma => "trailing comma"
  | .trailingCharacters => "trailing characters"
  | .unexpectedEndOfHexEscape => "unexpected end of hex escape"
  | .recursionLimitExceeded => "recursion limit exceeded"
  | .invalidType found expected => "invalid type: " ++ found.text ++ ", expected " ++ expected
  | .invalidValue found expected => "invalid value: " ++ found.text ++ ", expected " ++ expected
  | .invalidLength n expected => "invalid length " ++ toString n ++ ", expected " ++ expected
  | .unknownVariant name [] => "unknown variant `" ++ name ++ "`, there are no variants"
  | .unknownVariant name expected =>
    "unknown variant `" ++ name ++ "`, expected " ++ oneOf expected
  | .missingField name => "missing field `" ++ name ++ "`"
  | .duplicateField name => "duplicate field `" ++ name ++ "`"
  | .untaggedMismatch typeName => "data did not match any variant of untagged enum " ++ typeName

end Problem

/-- A line (from 1) and a column (bytes since the line began) of a text. -/
structure Position where
  line : Nat
  column : Nat

/-- **An error**: a cause and, for errors of a text, where it was found. -/
structure Error where
  problem : Problem
  position : Option Position := none

namespace Error

/-- The cause, then ` at line L column C` when the error is placed. -/
def message (e : Error) : String :=
  match e.position with
  | none => e.problem.text
  | some p =>
    e.problem.text ++ " at line " ++ toString p.line ++ " column " ++ toString p.column

/-- An unplaced error of the given cause. -/
def of (p : Problem) : Error := { problem := p }

/-- A value of the wrong kind for what was expected. -/
def invalidType (v : Value) (expected : String) : Error :=
  of (.invalidType (Unexpected.ofValue v) expected)

end Error

end Json
end Questionnaire
