import Questionnaire.Pattern.Syntax

/-!
# Pattern — fault messages

The text of a pattern's fault: the pattern, carets under the span the
fault is about (and under the earlier span it clashes with), and the
fault's text. A pattern of several lines gets its lines numbered between
two rules of tildes, and a span that runs over several lines is named by
its lines and columns instead of being underlined.

**Main definitions.** `SyntaxError.message`.
-/

namespace Questionnaire
namespace Pattern

/-- The lines of a text: split at line feeds, a carriage return just before
a line feed dropped with it, and no empty line after a final line feed. A
carriage return that ends the text stays in the last line. -/
def textLines (s : String) : List String :=
  let parts := s.splitOn "\n"
  let ended := parts.dropLast.map fun l => if l.endsWith "\r" then String.ofList l.toList.dropLast else l
  if s.endsWith "\n" then ended else ended ++ [parts.getLast?.getD ""]

/-- `n` copies of a character. -/
def repeatChar (c : Char) (n : Nat) : String := String.ofList (List.replicate n c)

/-- The carets under one line for its spans, after `pad` blanks. -/
def caretLine (pad : Nat) (spans : List Span) : String :=
  let (out, _) := spans.foldl (fun (acc : String × Nat) sp =>
    let (s, pos) := acc
    let gap := sp.start.column - 1 - pos
    let width := max 1 (sp.stop.column - sp.start.column)
    (s ++ repeatChar ' ' gap ++ repeatChar '^' width, pos + gap + width)) (repeatChar ' ' pad, 0)
  out

/-- Sorts spans by their start. -/
def sortSpans (spans : List Span) : List Span :=
  spans.mergeSort Span.before

/-- **The message of a fault** in a pattern. -/
def SyntaxError.message (e : SyntaxError) (pattern : String) : String :=
  let spans := e.span :: e.aux.toList
  let lines := textLines pattern
  let lineCount := lines.length + (if pattern.endsWith "\n" then 1 else 0)
  let width := if lineCount ≤ 1 then 0 else (toString lineCount).length
  let pad := if width = 0 then 4 else 2 + width
  let single := sortSpans (spans.filter Span.oneLine)
  let multi := sortSpans (spans.filter fun s => !s.oneLine)
  let numbered (i : Nat) : String :=
    if width = 0 then "    "
    else
      let n := toString (i + 1)
      repeatChar ' ' (width - n.length) ++ n ++ ": "
  let notated := String.join ((lines.zipIdx).map fun (l, i) =>
    let here := single.filter fun s => s.start.line = i + 1
    numbered i ++ l ++ "\n" ++ (if here.isEmpty then "" else caretLine pad here ++ "\n"))
  if pattern.contains '\n' then
    let divider := repeatChar '~' 79
    let notes := multi.map fun s =>
      "on line " ++ toString s.start.line ++ " (column " ++ toString s.start.column ++
        ") through line " ++ toString s.stop.line ++ " (column " ++ toString (s.stop.column - 1) ++ ")"
    "regex parse error:\n" ++ divider ++ "\n" ++ notated ++ divider ++ "\n" ++
      (if notes.isEmpty then "" else "\n".intercalate notes ++ "\n") ++ "error: " ++ e.fault.text
  else
    "regex parse error:\n" ++ notated ++ "error: " ++ e.fault.text

end Pattern
end Questionnaire
