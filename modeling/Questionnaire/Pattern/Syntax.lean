/-!
# Pattern — syntax

The syntax tree of a pattern, and the faults a pattern can have. A
position counts characters: its offset from the start, its line and its
column, both from 1; a span runs from its start up to, not including, its
stop. Spans name the part of the pattern a fault is about.

**Main definitions.** `Pos`, `Span`, `Ast`, `SetExpr`, `Fault`, `Fault.text`.
-/

namespace Questionnaire
namespace Pattern

/-- **A position** in a pattern: characters before it, and its line and column. -/
structure Pos where
  offset : Nat := 0
  line : Nat := 1
  column : Nat := 1
  deriving DecidableEq, Inhabited, Repr

/-- **A span** of a pattern. -/
structure Span where
  start : Pos
  stop : Pos
  deriving DecidableEq, Inhabited, Repr

namespace Span

/-- The empty span at a position. -/
def point (p : Pos) : Span := ⟨p, p⟩

/-- Whether the span starts and stops on one line. -/
def oneLine (s : Span) : Bool := s.start.line == s.stop.line

/-- Spans in order of their start, then their stop. -/
def before (a b : Span) : Bool :=
  a.start.offset < b.start.offset || (a.start.offset == b.start.offset && a.stop.offset ≤ b.stop.offset)

end Span

/-- The switches of a pattern. -/
inductive Flag where
  | caseInsensitive
  | multiLine
  | dotAll
  | swapGreed
  | unicode
  | crlf
  | ignoreWhitespace
  deriving DecidableEq, Inhabited, Repr

/-- One item of a flag group: a flag, or the negation that turns the flags after it off. -/
inductive FlagItem where
  | negation
  | flag (f : Flag)
  deriving DecidableEq, Inhabited, Repr

/-- The ASCII classes written `[:name:]` inside brackets. -/
inductive AsciiClass where
  | alnum | alpha | ascii | blank | cntrl | digit | graph | lower | print | punct
  | space | upper | word | xdigit
  deriving DecidableEq, Inhabited, Repr

/-- The ASCII class of a name. -/
def AsciiClass.ofName? : String → Option AsciiClass
  | "alnum" => some .alnum
  | "alpha" => some .alpha
  | "ascii" => some .ascii
  | "blank" => some .blank
  | "cntrl" => some .cntrl
  | "digit" => some .digit
  | "graph" => some .graph
  | "lower" => some .lower
  | "print" => some .print
  | "punct" => some .punct
  | "space" => some .space
  | "upper" => some .upper
  | "word" => some .word
  | "xdigit" => some .xdigit
  | _ => none

/-- The classes `\d`, `\s` and `\w`. -/
inductive PerlClass where
  | digit
  | space
  | word
  deriving DecidableEq, Inhabited, Repr

/-- What `\p` names: one letter, a name, or a property and its value. -/
inductive Query where
  | letter (c : Char)
  | name (s : String)
  | byValue (property value : String)
  deriving DecidableEq, Inhabited, Repr

/-- The zero-width assertions. -/
inductive Assertion where
  | startLine | endLine | startText | endText
  | wordBoundary | notWordBoundary
  | wordStart | wordEnd | wordStartHalf | wordEndHalf
  deriving DecidableEq, Inhabited, Repr

/-- The operations between sets in brackets. -/
inductive SetOp where
  | intersection
  | difference
  | symmetricDifference
  deriving DecidableEq, Inhabited, Repr

/-- **A set expression** inside brackets. -/
inductive SetExpr where
  | literal (c : Char) (span : Span) (byte : Option Nat)
  | range (lo hi : Char) (span : Span)
  | ascii (kind : AsciiClass) (negated : Bool) (span : Span)
  | unicode (query : Query) (negated : Bool) (span : Span)
  | perl (kind : PerlClass) (negated : Bool) (span : Span)
  | bracket (body : SetExpr) (negated : Bool) (span : Span)
  | union (items : List SetExpr) (span : Span)
  | op (kind : SetOp) (lhs rhs : SetExpr) (span : Span)
  deriving Inhabited, Repr

/-- How a group is opened. -/
inductive GroupKind where
  | capture
  | named (name : String)
  | plain (flags : List (FlagItem × Span))
  deriving Inhabited, Repr

/-- **The syntax tree of a pattern.** -/
inductive Ast where
  | empty (span : Span)
  | literal (c : Char) (span : Span) (byte : Option Nat)
  | dot (span : Span)
  | assertion (kind : Assertion) (span : Span)
  | perl (kind : PerlClass) (negated : Bool) (span : Span)
  | unicode (query : Query) (negated : Bool) (span : Span)
  | bracket (body : SetExpr) (negated : Bool) (span : Span)
  | repetition (body : Ast) (min : Nat) (max : Option Nat) (greedy : Bool) (span : Span)
  | group (kind : GroupKind) (body : Ast) (span : Span)
  | flags (items : List (FlagItem × Span)) (span : Span)
  | concat (items : List Ast) (span : Span)
  | alternation (items : List Ast) (span : Span)
  deriving Inhabited, Repr

/-- The span of a set expression. -/
def SetExpr.span : SetExpr → Span
  | .literal _ s _ | .range _ _ s | .ascii _ _ s | .unicode _ _ s | .perl _ _ s
  | .bracket _ _ s | .union _ s | .op _ _ _ s => s

/-- The span of a syntax tree. -/
def Ast.span : Ast → Span
  | .empty s | .literal _ s _ | .dot s | .assertion _ s | .perl _ _ s | .unicode _ _ s
  | .bracket _ _ s | .repetition _ _ _ _ s | .group _ _ s | .flags _ s | .concat _ s
  | .alternation _ s => s

/-- **The faults of a pattern.** -/
inductive Fault where
  | classEscapeInvalid
  | classRangeInvalid
  | classRangeLiteral
  | classUnclosed
  | decimalEmpty
  | decimalInvalid
  | escapeHexEmpty
  | escapeHexInvalid
  | escapeHexInvalidDigit
  | escapeUnexpectedEof
  | escapeUnrecognized
  | flagDanglingNegation
  | flagDuplicate
  | flagRepeatedNegation
  | flagUnexpectedEof
  | flagUnrecognized
  | groupNameDuplicate
  | groupNameEmpty
  | groupNameInvalid
  | groupNameUnexpectedEof
  | groupUnclosed
  | groupUnopened
  | nestLimitExceeded (limit : Nat)
  | repetitionCountInvalid
  | repetitionCountDecimalEmpty
  | repetitionCountUnclosed
  | repetitionMissing
  | specialWordBoundaryUnclosed
  | specialWordBoundaryUnrecognized
  | specialWordOrRepetitionUnexpectedEof
  | unsupportedBackreference
  | unsupportedLookAround
  | unicodeClassInvalid
  | unicodeNotAllowed
  | invalidUtf8
  | propertyNotFound
  | propertyValueNotFound
  deriving DecidableEq, Inhabited, Repr

/-- The text of a fault. -/
def Fault.text : Fault → String
  | .classEscapeInvalid => "invalid escape sequence found in character class"
  | .classRangeInvalid => "invalid character class range, the start must be <= the end"
  | .classRangeLiteral => "invalid range boundary, must be a literal"
  | .classUnclosed => "unclosed character class"
  | .decimalEmpty => "decimal literal empty"
  | .decimalInvalid => "decimal literal invalid"
  | .escapeHexEmpty => "hexadecimal literal empty"
  | .escapeHexInvalid => "hexadecimal literal is not a Unicode scalar value"
  | .escapeHexInvalidDigit => "invalid hexadecimal digit"
  | .escapeUnexpectedEof => "incomplete escape sequence, reached end of pattern prematurely"
  | .escapeUnrecognized => "unrecognized escape sequence"
  | .flagDanglingNegation => "dangling flag negation operator"
  | .flagDuplicate => "duplicate flag"
  | .flagRepeatedNegation => "flag negation operator repeated"
  | .flagUnexpectedEof => "expected flag but got end of regex"
  | .flagUnrecognized => "unrecognized flag"
  | .groupNameDuplicate => "duplicate capture group name"
  | .groupNameEmpty => "empty capture group name"
  | .groupNameInvalid => "invalid capture group character"
  | .groupNameUnexpectedEof => "unclosed capture group name"
  | .groupUnclosed => "unclosed group"
  | .groupUnopened => "unopened group"
  | .nestLimitExceeded limit =>
    "exceed the maximum number of nested parentheses/brackets (" ++ toString limit ++ ")"
  | .repetitionCountInvalid => "invalid repetition count range, the start must be <= the end"
  | .repetitionCountDecimalEmpty => "repetition quantifier expects a valid decimal"
  | .repetitionCountUnclosed => "unclosed counted repetition"
  | .repetitionMissing => "repetition operator missing expression"
  | .specialWordBoundaryUnclosed =>
    "special word boundary assertion is either unclosed or contains an invalid character"
  | .specialWordBoundaryUnrecognized =>
    "unrecognized special word boundary assertion, valid choices are: start, end, start-half or end-half"
  | .specialWordOrRepetitionUnexpectedEof =>
    "found either the beginning of a special word boundary or a bounded repetition on a \\b with an opening brace, but no closing brace"
  | .unsupportedBackreference => "backreferences are not supported"
  | .unsupportedLookAround => "look-around, including look-ahead and look-behind, is not supported"
  | .unicodeClassInvalid => "invalid Unicode character class"
  | .unicodeNotAllowed => "Unicode not allowed here"
  | .invalidUtf8 => "pattern can match invalid UTF-8"
  | .propertyNotFound => "Unicode property not found"
  | .propertyValueNotFound => "Unicode property value not found"

/-- **A fault at a span**, and the span of an earlier part it clashes with. -/
structure SyntaxError where
  fault : Fault
  span : Span
  aux : Option Span := none
  deriving Inhabited, Repr

end Pattern
end Questionnaire
