import Questionnaire.Json.Number

/-!
# Json — writing values

Values are written with their entries in list order. Strings escape the quote
and the backslash, use the short escapes for backspace, form feed, line feed,
carriage return and tab, and `\u00xx` with lowercase hex digits for the other
control characters; everything else is written as it is. Numbers follow
`Num.text`.

The compact form has no blanks. The pretty form puts each item and entry on
its own line, indented by two spaces per level, with `": "` after a key; an
empty array or object stays `[]` or `{}`.

**Main definitions.** `quote`, `Value.compact`, `Value.pretty`.
-/

namespace Questionnaire
namespace Json

/-- The escape of one character inside a JSON string. -/
def escapeChar (c : Char) : List Char :=
  match c with
  | '"' => ['\\', '"']
  | '\\' => ['\\', '\\']
  | '\x08' => ['\\', 'b']
  | '\x0c' => ['\\', 'f']
  | '\n' => ['\\', 'n']
  | '\r' => ['\\', 'r']
  | '\t' => ['\\', 't']
  | c =>
    if c.toNat < 0x20 then
      let hex := "0123456789abcdef".toList
      ['\\', 'u', '0', '0', hex.getD (c.toNat / 16) '0', hex.getD (c.toNat % 16) '0']
    else [c]

/-- A string as a JSON string literal. -/
def quote (s : String) : String :=
  String.ofList ('"' :: s.toList.flatMap escapeChar ++ ['"'])

namespace Value

mutual

/-- **The compact text** of a value. -/
def compact : Value → String
  | .null => "null"
  | .bool b => if b then "true" else "false"
  | .num n => n.text
  | .str s => quote s
  | .arr items => "[" ++ compactItems items ++ "]"
  | .obj entries => "\x7b" ++ compactEntries entries ++ "\x7d"

/-- Items separated by commas. -/
def compactItems : List Value → String
  | [] => ""
  | [v] => compact v
  | v :: rest => compact v ++ "," ++ compactItems rest

/-- Entries separated by commas. -/
def compactEntries : List (String × Value) → String
  | [] => ""
  | [(k, v)] => quote k ++ ":" ++ compact v
  | (k, v) :: rest => quote k ++ ":" ++ compact v ++ "," ++ compactEntries rest

end

/-- A line break followed by the indentation of a level. -/
def indent (level : Nat) : String := "\n" ++ String.ofList (List.replicate (2 * level) ' ')

mutual

/-- **The pretty text** of a value at an indentation level. -/
def prettyAt (level : Nat) : Value → String
  | .arr [] => "[]"
  | .obj [] => "\x7b\x7d"
  | .arr items => "[" ++ prettyItems (level + 1) items ++ indent level ++ "]"
  | .obj entries => "\x7b" ++ prettyEntries (level + 1) entries ++ indent level ++ "\x7d"
  | v => compact v

/-- Items, each on its own line at the level. -/
def prettyItems (level : Nat) : List Value → String
  | [] => ""
  | [v] => indent level ++ prettyAt level v
  | v :: rest => indent level ++ prettyAt level v ++ "," ++ prettyItems level rest

/-- Entries, each on its own line at the level. -/
def prettyEntries (level : Nat) : List (String × Value) → String
  | [] => ""
  | [(k, v)] => indent level ++ quote k ++ ": " ++ prettyAt level v
  | (k, v) :: rest =>
    indent level ++ quote k ++ ": " ++ prettyAt level v ++ "," ++ prettyEntries level rest

end

/-- The pretty text of a value. -/
def pretty (v : Value) : String := prettyAt 0 v

end Value

end Json
end Questionnaire
