import Questionnaire.Pattern.Nesting
import Questionnaire.Text.Blank

/-!
# Pattern — parsing

Reads a pattern into its syntax tree, or stops at its first fault with the
span the fault is about. The reader walks the pattern once, left to right:
groups and alternations wait on a stack until their closing parenthesis,
and bracketed sets likewise wait on a stack of their own until their
closing bracket. Every step consumes at least one character, so the
pattern's length bounds the walk.

The syntax is the usual one: literals and escapes, `.`, `^`, `$`, classes
`\d \s \w` and their negations, Unicode classes `\p{..}`, bracketed sets
with ranges, ASCII classes `[:name:]` and the operations `&&`, `--`, `~~`,
groups (capturing, named, or with flags), alternation, and the repetitions
`?`, `*`, `+`, `{n}`, `{n,}`, `{n,m}`, each optionally lazy. With the flag
`x`, blanks and `#` comments between items are skipped. Look-around and
backreferences are faults.

**Main definitions.** `parse`.
-/

namespace Questionnaire
namespace Pattern

/-- A sequence being read: where it starts, and its items so far, last first. -/
structure Run where
  start : Pos
  items : List Ast := []
  deriving Inhabited

/-- The items of a bracketed set being read: where they start, and the
items so far, last first. -/
structure SetRun where
  start : Pos
  items : List SetExpr := []
  deriving Inhabited

/-- A sequence ending at `stop`, as one item. -/
def Run.close (run : Run) (stop : Pos) : Ast :=
  match run.items with
  | [] => .empty ⟨run.start, stop⟩
  | [x] => x
  | items => .concat items.reverse ⟨run.start, stop⟩

/-- Adds an item to a sequence. -/
def Run.push (run : Run) (a : Ast) : Run := { run with items := a :: run.items }

/-- The union of gathered items, in order, spanning from the first item to
the last; with no items, the empty union where they would start. -/
def SetRun.union (run : SetRun) : SetExpr :=
  match run.items with
  | [x] => x
  | [] => .union [] (Span.point run.start)
  | last :: rest =>
    let first := (rest.getLast?).getD last
    .union run.items.reverse ⟨first.span.start, last.span.stop⟩

/-- One open group, or the alternatives gathered so far in the innermost
one and where the first starts. -/
inductive Frame where
  | group (prior : Run) (kind : GroupKind) (openSpan : Span) (ignoreSpace : Bool)
  | alternation (alts : List Ast) (start : Pos)
  deriving Inhabited

/-- One open bracketed set, or a set operation waiting for its right side. -/
inductive SetFrame where
  | opened (parent : SetRun) (negated : Bool) (openSpan : Span)
  | op (kind : SetOp) (lhs : SetExpr)
  deriving Inhabited

/-- **The reader's state**: the pattern, the position, the open groups and sets. -/
structure Reader where
  text : Array Char
  pos : Pos := {}
  ignoreSpace : Bool := false
  groups : List Frame := []
  sets : List SetFrame := []
  names : List (String × Span) := []

/-- A step of reading. -/
abbrev Parse := StateT Reader (Except SyntaxError)

/-- A single item of a pattern, before repetition. -/
inductive Primitive where
  | literal (c : Char) (span : Span) (byte : Option Nat)
  | assertion (kind : Assertion) (span : Span)
  | dot (span : Span)
  | perl (kind : PerlClass) (negated : Bool) (span : Span)
  | unicode (query : Query) (negated : Bool) (span : Span)

namespace Primitive

/-- The span of a primitive. -/
def span : Primitive → Span
  | .literal _ s _ | .assertion _ s | .dot s | .perl _ _ s | .unicode _ _ s => s

/-- The primitive as a pattern. -/
def toAst : Primitive → Ast
  | .literal c s b => .literal c s b
  | .assertion k s => .assertion k s
  | .dot s => .dot s
  | .perl k n s => .perl k n s
  | .unicode q n s => .unicode q n s

/-- The primitive with its span starting at `p`. -/
def startAt (p : Pos) : Primitive → Primitive
  | .literal c s b => .literal c ⟨p, s.stop⟩ b
  | .assertion k s => .assertion k ⟨p, s.stop⟩
  | .dot s => .dot ⟨p, s.stop⟩
  | .perl k n s => .perl k n ⟨p, s.stop⟩
  | .unicode q n s => .unicode q n ⟨p, s.stop⟩

end Primitive

/-- Whether a character is one of the pattern's operators. -/
def isMeta (c : Char) : Bool :=
  "\\.+*?()|[]{}^$#&-~".toList.contains c

/-- Whether an escaped character stands for itself: an operator, or ASCII
that is not a letter, a digit, `<` or `>`. -/
def isEscapable (c : Char) : Bool :=
  isMeta c || (c.toNat < 128 && !c.isAlphanum && c != '<' && c != '>')

/-- Whether a character may stand in a group name; the first may not be a
digit or a punctuation mark. -/
def isNameChar (c : Char) (first : Bool) : Bool :=
  if first then c == '_' || c.isAlpha || (c.toNat ≥ 128 && !Text.isBlank c)
  else c == '_' || c == '.' || c == '[' || c == ']' || c.isAlphanum || (c.toNat ≥ 128 && !Text.isBlank c)

namespace Parse

variable {α : Type}

/-- Stops with a fault. -/
def fault (f : Fault) (span : Span) (aux : Option Span := none) : Parse α :=
  throw { fault := f, span := span, aux := aux }

/-- The position. -/
def here : Parse Pos := do pure (← get).pos

/-- The character at the position, if any. -/
def current : Parse (Option Char) := do
  let r ← get
  pure r.text[r.pos.offset]?

/-- The character at the position, or a blank at the end. -/
def char : Parse Char := do pure ((← current).getD ' ')

/-- Whether the whole pattern has been read. -/
def isEof : Parse Bool := do pure (← current).isNone

/-- The character after the current one. -/
def peek : Parse (Option Char) := do
  let r ← get
  pure r.text[r.pos.offset + 1]?

/-- The position after a character at `p`. -/
def Pos.after (p : Pos) (c : Char) : Pos :=
  if c = '\n' then ⟨p.offset + 1, p.line + 1, 1⟩ else ⟨p.offset + 1, p.line, p.column + 1⟩

/-- The span of the current character. -/
def charSpan : Parse Span := do
  let p ← here
  pure ⟨p, Pos.after p (← char)⟩

/-- The empty span at the position. -/
def pointSpan : Parse Span := do pure (Span.point (← here))

/-- Moves past the current character; whether a character follows. -/
def bump : Parse Bool := do
  match ← current with
  | none => pure false
  | some c =>
    modify fun r => { r with pos := Pos.after r.pos c }
    pure !(← isEof)

/-- Moves to a position read before. -/
def reset (p : Pos) : Parse Unit := modify fun r => { r with pos := p }

/-- Skips the rest of a comment line. -/
def skipComment : Nat → Parse Unit
  | 0 => pure ()
  | fuel + 1 => do
    match ← current with
    | none => pure ()
    | some c =>
      let _ ← bump
      if c = '\n' then pure () else skipComment fuel

/-- With the flag `x`, skips blanks and comments. -/
def bumpSpace : Parse Unit := do
  if !(← get).ignoreSpace then return
  let n := (← get).text.size
  go n
where
  go : Nat → Parse Unit
    | 0 => pure ()
    | fuel + 1 => do
      match ← current with
      | none => pure ()
      | some c =>
        if Text.isBlank c then do let _ ← bump; go fuel
        else if c = '#' then do
          let _ ← bump
          skipComment (← get).text.size
          go fuel
        else pure ()

/-- Moves past the current character and any blanks after it; whether a
character follows. -/
def bumpAndBumpSpace : Parse Bool := do
  if !(← bump) then return false
  bumpSpace
  pure !(← isEof)

/-- Whether the text at the position starts with `s`. -/
def startsWithChars (s : List Char) : Parse Bool := do
  let r ← get
  pure (s.length ≤ r.text.size - r.pos.offset ∧
    (List.range s.length).all fun i => r.text[r.pos.offset + i]? == s[i]?)

/-- Moves past `s` if the text at the position starts with it. -/
def bumpIf (s : List Char) : Parse Bool := do
  if ← startsWithChars s then
    for _ in s do
      let _ ← bump
    pure true
  else pure false

/-- The next character after the current one, skipping blanks and comments
with the flag `x`. -/
def peekSpace : Parse (Option Char) := do
  let r ← get
  if !r.ignoreSpace then return ← peek
  if ← isEof then return none
  let rest := (r.text.toList.drop (r.pos.offset + 1))
  pure (go false rest)
where
  go (inComment : Bool) : List Char → Option Char
    | [] => none
    | c :: cs =>
      if Text.isBlank c then go inComment cs
      else if !inComment && c = '#' then go true cs
      else if inComment && c = '\n' then go false cs
      else some c

/-! ## Escapes -/

/-- Whether a character is a hexadecimal digit. -/
def isHex (c : Char) : Bool := c.isDigit || ('a' ≤ c && c ≤ 'f') || ('A' ≤ c && c ≤ 'F')

/-- The value of hexadecimal digits. -/
def hexValue (ds : List Char) : Nat :=
  ds.foldl (fun n c =>
    n * 16 + (if c.isDigit then c.toNat - '0'.toNat
      else if 'a' ≤ c ∧ c ≤ 'f' then c.toNat - 'a'.toNat + 10 else c.toNat - 'A'.toNat + 10)) 0

/-- The character of a code point, if it is a scalar value. -/
def scalar? (n : Nat) : Option Char :=
  if n < 0xD800 ∨ (0xDFFF < n ∧ n ≤ 0x10FFFF) then some (Char.ofNat n) else none

/-- A fixed number of hexadecimal digits, the first at the position. -/
def hexDigits (count : Nat) (isByte : Bool) : Parse Primitive := do
  let start ← here
  let mut ds : List Char := []
  for i in List.range count do
    if i > 0 then
      if !(← bumpAndBumpSpace) then
        fault .escapeUnexpectedEof (← pointSpan)
    let c ← char
    if !isHex c then fault .escapeHexInvalidDigit (← charSpan)
    ds := ds ++ [c]
  let _ ← bumpAndBumpSpace
  let stop ← here
  match scalar? (hexValue ds) with
  | none => fault .escapeHexInvalid ⟨start, stop⟩
  | some c => pure (.literal c ⟨start, stop⟩ (if isByte ∧ c.toNat ≤ 0xFF then some c.toNat else none))

/-- Hexadecimal digits in braces, the brace at the position. -/
def hexBrace : Parse Primitive := do
  let bracePos ← here
  let start := (← charSpan).stop
  let mut ds : List Char := []
  let mut fuel := (← get).text.size
  while fuel > 0 do
    fuel := fuel - 1
    if !(← bumpAndBumpSpace) then break
    let c ← char
    if c = '}' then break
    if !isHex c then fault .escapeHexInvalidDigit (← charSpan)
    ds := ds ++ [c]
  if ← isEof then fault .escapeUnexpectedEof ⟨bracePos, ← here⟩
  let stop ← here
  let _ ← bumpAndBumpSpace
  if ds.isEmpty then fault .escapeHexEmpty ⟨bracePos, ← here⟩
  match scalar? (hexValue ds) with
  | none => fault .escapeHexInvalid ⟨start, stop⟩
  | some c => pure (.literal c ⟨start, ← here⟩ none)

/-- `\x`, `\u` or `\U` and what follows, the letter at the position. -/
def hex : Parse Primitive := do
  let count := match ← char with
    | 'x' => 2
    | 'u' => 4
    | _ => 8
  let isByte := (← char) = 'x'
  if !(← bumpAndBumpSpace) then fault .escapeUnexpectedEof (← pointSpan)
  if (← char) = '{' then hexBrace else hexDigits count isByte

/-- The query of the text in the braces of `\p{..}`. -/
def queryOf (name : String) : Query × Bool :=
  match name.splitOn "!=" with
  | a :: b :: rest => (.byValue a ("!=".intercalate (b :: rest)), true)
  | _ =>
    let cs := name.toList
    match cs.findIdx? (fun c => c = ':' ∨ c = '=') with
    | some i => (.byValue (String.ofList (cs.take i)) (String.ofList (cs.drop (i + 1))), false)
    | none => (.name name, false)

/-- `\p` or `\P` and what follows, the letter at the position. -/
def unicodeClass : Parse Primitive := do
  let negated := (← char) = 'P'
  if !(← bumpAndBumpSpace) then fault .escapeUnexpectedEof (← pointSpan)
  if (← char) = '{' then
    let start := (← charSpan).stop
    let mut name : List Char := []
    let mut fuel := (← get).text.size
    while fuel > 0 do
      fuel := fuel - 1
      if !(← bumpAndBumpSpace) then break
      let c ← char
      if c = '}' then break
      name := name ++ [c]
    if ← isEof then fault .escapeUnexpectedEof (← pointSpan)
    let _ ← bump
    let (q, flip) := queryOf (String.ofList name)
    pure (.unicode q (negated != flip) ⟨start, ← here⟩)
  else
    let start ← here
    let c ← char
    if c = '\\' then fault .unicodeClassInvalid (← charSpan)
    let _ ← bumpAndBumpSpace
    pure (.unicode (.letter c) negated ⟨start, ← here⟩)

/-- `\d \D \s \S \w \W`, the letter at the position. -/
def perlClass : Parse Primitive := do
  let c ← char
  let span ← charSpan
  let _ ← bump
  let kind := if c = 'd' ∨ c = 'D' then PerlClass.digit else if c = 's' ∨ c = 'S' then .space else .word
  pure (.perl kind (c = 'D' ∨ c = 'S' ∨ c = 'W') span)

/-- After `\b`, a brace: a special word boundary, or nothing (the brace
then starts a repetition). -/
def specialWordBoundary (wbStart : Pos) : Parse (Option Assertion) := do
  let start ← here
  if !(← bumpAndBumpSpace) then
    fault .specialWordOrRepetitionUnexpectedEof ⟨wbStart, ← here⟩
  let startContents ← here
  let valid (c : Char) : Bool := c.isAlpha || c = '-'
  if !valid (← char) then
    reset start
    return none
  let mut name : List Char := []
  let mut fuel := (← get).text.size
  while fuel > 0 do
    fuel := fuel - 1
    match ← current with
    | some c =>
      if valid c then
        name := name ++ [c]
        let _ ← bumpAndBumpSpace
      else break
    | none => break
  if (← isEof) || (← char) != '}' then
    fault .specialWordBoundaryUnclosed ⟨start, ← here⟩
  let stop ← here
  let _ ← bump
  match String.ofList name with
  | "start" => pure (some .wordStart)
  | "end" => pure (some .wordEnd)
  | "start-half" => pure (some .wordStartHalf)
  | "end-half" => pure (some .wordEndHalf)
  | _ => fault .specialWordBoundaryUnrecognized ⟨startContents, stop⟩

/-- **An escape**, the backslash at the position. -/
def escape : Parse Primitive := do
  let start ← here
  if !(← bump) then fault .escapeUnexpectedEof ⟨start, ← here⟩
  let c ← char
  if c.isDigit then fault .unsupportedBackreference ⟨start, (← charSpan).stop⟩
  if c = 'x' ∨ c = 'u' ∨ c = 'U' then return (← hex).startAt start
  if c = 'p' ∨ c = 'P' then return (← unicodeClass).startAt start
  if "dswDSW".toList.contains c then return (← perlClass).startAt start
  let _ ← bump
  let span : Span := ⟨start, ← here⟩
  if isEscapable c then return .literal c span none
  match c with
  | 'a' => pure (.literal (Char.ofNat 7) span none)
  | 'f' => pure (.literal (Char.ofNat 12) span none)
  | 't' => pure (.literal '\t' span none)
  | 'n' => pure (.literal '\n' span none)
  | 'r' => pure (.literal '\r' span none)
  | 'v' => pure (.literal (Char.ofNat 11) span none)
  | 'A' => pure (.assertion .startText span)
  | 'z' => pure (.assertion .endText span)
  | 'B' => pure (.assertion .notWordBoundary span)
  | '<' => pure (.assertion .wordStart span)
  | '>' => pure (.assertion .wordEnd span)
  | 'b' =>
    if (← current) = some '{' then
      match ← specialWordBoundary start with
      | some k => pure (.assertion k ⟨start, ← here⟩)
      | none => pure (.assertion .wordBoundary span)
    else pure (.assertion .wordBoundary span)
  | _ => fault .escapeUnrecognized span

/-- **A primitive** at the position. -/
def primitive : Parse Primitive := do
  let c ← char
  if c = '\\' then return ← escape
  let span ← charSpan
  let _ ← bump
  match c with
  | '.' => pure (.dot span)
  | '^' => pure (.assertion .startLine span)
  | '$' => pure (.assertion .endLine span)
  | _ => pure (.literal c span none)

/-! ## Bracketed sets -/

/-- The fault of a set that is never closed, at the innermost open bracket. -/
def unclosedSet : Parse α := do
  let open? := (← get).sets.findSome? fun
    | .opened _ _ s => some s
    | .op _ _ => none
  fault .classUnclosed (open?.getD (← pointSpan))

/-- A primitive inside brackets: an escape or any character. -/
def setPrimitive : Parse Primitive := do
  if (← char) = '\\' then escape
  else
    let span ← charSpan
    let c ← char
    let _ ← bump
    pure (.literal c span none)

/-- A primitive as an item of a set; assertions and `.` are faults. -/
def setItemOf : Primitive → Parse SetExpr
  | .literal c s b => pure (.literal c s b)
  | .perl k n s => pure (.perl k n s)
  | .unicode q n s => pure (.unicode q n s)
  | p => fault .classEscapeInvalid p.span

/-- A primitive as the end of a range: only a literal. -/
def rangeEndOf : Primitive → Parse Char
  | .literal c _ _ => pure c
  | p => fault .classRangeLiteral p.span

/-- An item of a set, or a range of two literals. -/
def setRange : Parse SetExpr := do
  let p1 ← setPrimitive
  bumpSpace
  if ← isEof then unclosedSet
  let next ← peekSpace
  if (← char) != '-' || next = some ']' || next = some '-' then return ← setItemOf p1
  if !(← bumpAndBumpSpace) then unclosedSet
  let p2 ← setPrimitive
  let span : Span := ⟨p1.span.start, p2.span.stop⟩
  let lo ← rangeEndOf p1
  let hi ← rangeEndOf p2
  if lo > hi then fault .classRangeInvalid span
  pure (.range lo hi span)

/-- `[:name:]` inside brackets, or nothing with the position unchanged. -/
def asciiClass : Parse (Option SetExpr) := do
  let start ← here
  if !(← bump) || (← char) != ':' then reset start; return none
  if !(← bump) then reset start; return none
  let mut negated := false
  if (← char) = '^' then
    negated := true
    if !(← bump) then reset start; return none
  let nameStart := (← here).offset
  let mut fuel := (← get).text.size
  while fuel > 0 do
    fuel := fuel - 1
    if (← char) = ':' then break
    if !(← bump) then break
  if ← isEof then reset start; return none
  let r ← get
  let name := String.ofList ((r.text.toList.drop nameStart).take (r.pos.offset - nameStart))
  if !(← bumpIf [':', ']']) then reset start; return none
  match AsciiClass.ofName? name with
  | some k => pure (some (.ascii k negated ⟨start, ← here⟩))
  | none => reset start; pure none

/-- Opens a set, the bracket at the position: reads `^` and leading `-` and `]`. -/
def openSet (parent : SetRun) : Parse SetRun := do
  let start ← here
  if !(← bumpAndBumpSpace) then fault .classUnclosed ⟨start, ← here⟩
  let mut negated := false
  if (← char) = '^' then
    negated := true
    if !(← bumpAndBumpSpace) then fault .classUnclosed ⟨start, ← here⟩
  let itemsStart ← here
  let mut items : List SetExpr := []
  let mut fuel := (← get).text.size
  while fuel > 0 ∧ (← char) = '-' do
    fuel := fuel - 1
    items := .literal '-' (← charSpan) none :: items
    if !(← bumpAndBumpSpace) then fault .classUnclosed ⟨start, start⟩
  if items.isEmpty ∧ (← char) = ']' then
    items := .literal ']' (← charSpan) none :: items
    if !(← bumpAndBumpSpace) then fault .classUnclosed ⟨start, ← here⟩
  let openSpan : Span := ⟨start, ← here⟩
  modify fun r => { r with sets := .opened parent negated openSpan :: r.sets }
  pure { start := itemsStart, items := items }

/-- Joins `rhs` to a waiting operation, if one waits. -/
def popSetOp (rhs : SetExpr) : Parse SetExpr := do
  match (← get).sets with
  | .op kind lhs :: rest =>
    modify fun r => { r with sets := rest }
    pure (.op kind lhs rhs ⟨lhs.span.start, rhs.span.stop⟩)
  | _ => pure rhs

/-- Starts an operation with the items so far as its left side. -/
def pushSetOp (kind : SetOp) (run : SetRun) : Parse SetRun := do
  let lhs ← popSetOp run.union
  modify fun r => { r with sets := .op kind lhs :: r.sets }
  pure { start := ← here }

/-- Closes a set, the bracket at the position: the items of the enclosing
set, or the whole set when it was the outermost. -/
def closeSet (run : SetRun) : Parse (Sum SetRun Ast) := do
  let body ← popSetOp run.union
  match (← get).sets with
  | .opened parent negated openSpan :: rest =>
    modify fun r => { r with sets := rest }
    let _ ← bump
    let span : Span := ⟨openSpan.start, ← here⟩
    if rest.isEmpty then pure (.inr (.bracket body negated span))
    else pure (.inl { parent with items := .bracket body negated span :: parent.items })
  | _ => unclosedSet

/-- **A bracketed set**, its bracket at the position. -/
def bracketed : Parse Ast := do
  go { start := ← here } (← get).text.size
where
  go (run : SetRun) : Nat → Parse Ast
    | 0 => unclosedSet
    | fuel + 1 => do
      bumpSpace
      if ← isEof then unclosedSet
      let c ← char
      let next ← peek
      if c = '[' then
        if !(← get).sets.isEmpty then
          if let some cls ← asciiClass then return ← go { run with items := cls :: run.items } fuel
        go (← openSet run) fuel
      else if c = ']' then
        match ← closeSet run with
        | .inl outer => go outer fuel
        | .inr ast => pure ast
      else if c = '&' ∧ next = some '&' then do
        let _ ← bumpIf ['&', '&']
        go (← pushSetOp .intersection run) fuel
      else if c = '-' ∧ next = some '-' then do
        let _ ← bumpIf ['-', '-']
        go (← pushSetOp .difference run) fuel
      else if c = '~' ∧ next = some '~' then do
        let _ ← bumpIf ['~', '~']
        go (← pushSetOp .symmetricDifference run) fuel
      else go { run with items := (← setRange) :: run.items } fuel

/-! ## Repetitions -/

/-- The last item of a sequence, which a repetition applies to. -/
def repeated (run : Run) : Parse (Ast × List Ast) := do
  match run.items with
  | [] => fault .repetitionMissing (← pointSpan)
  | .flags _ _ :: _ | .empty _ :: _ => fault .repetitionMissing (← pointSpan)
  | a :: rest => pure (a, rest)

/-- `?`, `*` or `+`, at the position. -/
def uncounted (run : Run) (min : Nat) (max : Option Nat) : Parse Run := do
  let (a, rest) ← repeated run
  let mut greedy := true
  if (← bump) && (← char) = '?' then
    greedy := false
    let _ ← bump
  pure { run with items := .repetition a min max greedy ⟨a.span.start, ← here⟩ :: rest }

/-- A decimal number, blanks around it skipped. -/
def decimal : Parse Nat := do
  let n := (← get).text.size
  for _ in List.range n do
    match ← current with
    | some c => if Text.isBlank c then let _ ← bump else break
    | none => break
  let start ← here
  let mut ds : List Char := []
  for _ in List.range n do
    match ← current with
    | some c => if c.isDigit then ds := ds ++ [c]; let _ ← bumpAndBumpSpace else break
    | none => break
  let span : Span := ⟨start, ← here⟩
  for _ in List.range n do
    match ← current with
    | some c => if Text.isBlank c then let _ ← bumpAndBumpSpace else break
    | none => break
  if ds.isEmpty then fault .repetitionCountDecimalEmpty span
  let v := ds.foldl (fun acc c => acc * 10 + (c.toNat - '0'.toNat)) 0
  if v ≥ Nat.pow 2 32 then fault .decimalInvalid span
  pure v

/-- `{n}`, `{n,}` or `{n,m}`, the brace at the position. -/
def counted (run : Run) : Parse Run := do
  let start ← here
  let (a, rest) ← repeated run
  if !(← bumpAndBumpSpace) then fault .repetitionCountUnclosed ⟨start, ← here⟩
  let lo ← decimal
  let mut hi : Option Nat := some lo
  if ← isEof then fault .repetitionCountUnclosed ⟨start, ← here⟩
  if (← char) = ',' then
    if !(← bumpAndBumpSpace) then fault .repetitionCountUnclosed ⟨start, ← here⟩
    if (← char) != '}' then hi := some (← decimal) else hi := none
  if (← isEof) || (← char) != '}' then fault .repetitionCountUnclosed ⟨start, ← here⟩
  let mut greedy := true
  if (← bumpAndBumpSpace) && (← char) = '?' then
    greedy := false
    let _ ← bump
  let opSpan : Span := ⟨start, ← here⟩
  if let some h := hi then
    if lo > h then fault .repetitionCountInvalid opSpan
  pure { run with items := .repetition a lo hi greedy ⟨a.span.start, opSpan.stop⟩ :: rest }

/-! ## Groups -/

/-- One flag letter at the position. -/
def flagAt : Parse Flag := do
  match ← char with
  | 'i' => pure .caseInsensitive
  | 'm' => pure .multiLine
  | 's' => pure .dotAll
  | 'U' => pure .swapGreed
  | 'u' => pure .unicode
  | 'R' => pure .crlf
  | 'x' => pure .ignoreWhitespace
  | _ => fault .flagUnrecognized (← charSpan)

/-- The flags of a group, up to `:` or `)`. -/
def flagItems : Parse (List (FlagItem × Span)) := do
  let mut items : List (FlagItem × Span) := []
  let mut lastNegation : Option Span := none
  let mut fuel := (← get).text.size
  while fuel > 0 ∧ (← char) != ':' ∧ (← char) != ')' do
    fuel := fuel - 1
    let span ← charSpan
    if (← char) = '-' then
      lastNegation := some span
      match items.find? (fun i => i.1 = .negation) with
      | some orig => fault .flagRepeatedNegation span (some orig.2)
      | none => items := items ++ [(.negation, span)]
    else
      lastNegation := none
      let f ← flagAt
      match items.find? (fun i => i.1 = .flag f) with
      | some orig => fault .flagDuplicate span (some orig.2)
      | none => items := items ++ [(.flag f, span)]
    if !(← bump) then fault .flagUnexpectedEof (← pointSpan)
  if let some s := lastNegation then fault .flagDanglingNegation s
  pure items

/-- The state of the flag `x` a list of flag items leaves. -/
def spaceFlag (items : List (FlagItem × Span)) : Option Bool :=
  go true items
where
  go (on : Bool) : List (FlagItem × Span) → Option Bool
    | [] => none
    | (.negation, _) :: rest => go false rest
    | (.flag .ignoreWhitespace, _) :: rest => (go on rest).orElse fun _ => some on
    | _ :: rest => go on rest

/-- The name of a named group, up to `>`. -/
def groupName : Parse String := do
  if ← isEof then fault .groupNameUnexpectedEof (← pointSpan)
  let start ← here
  let mut fuel := (← get).text.size
  while fuel > 0 do
    fuel := fuel - 1
    let c ← char
    if c = '>' then break
    if !isNameChar c ((← here) == start) then fault .groupNameInvalid (← charSpan)
    if !(← bump) then break
  let stop ← here
  if ← isEof then fault .groupNameUnexpectedEof (← pointSpan)
  let _ ← bump
  let r ← get
  let name := String.ofList ((r.text.toList.drop start.offset).take (stop.offset - start.offset))
  if name.isEmpty then fault .groupNameEmpty ⟨start, start⟩
  let span : Span := ⟨start, stop⟩
  match r.names.lookup name with
  | some orig => fault .groupNameDuplicate span (some orig)
  | none => modify fun r => { r with names := (name, span) :: r.names }
  pure name

/-- **Opens a group**, the parenthesis at the position: a group waits on
the stack, while a bare flag setting joins the sequence. -/
def openGroup (run : Run) : Parse Run := do
  let openSpan ← charSpan
  let _ ← bump
  bumpSpace
  if (← bumpIf ['?', '=']) || (← bumpIf ['?', '!']) || (← bumpIf ['?', '<', '=']) ||
      (← bumpIf ['?', '<', '!']) then
    fault .unsupportedLookAround ⟨openSpan.start, ← here⟩
  let innerSpan ← pointSpan
  let push (kind : GroupKind) (space : Option Bool) : Parse Run := do
    let r ← get
    set { r with groups := .group run kind openSpan r.ignoreSpace :: r.groups,
                 ignoreSpace := space.getD r.ignoreSpace }
    pure { start := ← here }
  if (← bumpIf ['?', 'P', '<']) || (← bumpIf ['?', '<']) then
    let name ← groupName
    push (.named name) none
  else if ← bumpIf ['?'] then
    if ← isEof then fault .groupUnclosed openSpan
    let items ← flagItems
    let close ← char
    let _ ← bump
    if close = ')' then
      if items.isEmpty then fault .repetitionMissing innerSpan
      if let some on := spaceFlag items then
        modify fun r => { r with ignoreSpace := on }
      pure { run with items := .flags items ⟨openSpan.start, ← here⟩ :: run.items }
    else push (.plain items) (spaceFlag items)
  else push .capture none

/-- Alternatives as one item spanning `span`. -/
def alternativesOf (items : List Ast) (span : Span) : Ast :=
  match items with
  | [x] => x
  | _ => .alternation items span

/-- `|` at the position: the sequence so far becomes an alternative. -/
def alternate (run : Run) : Parse Run := do
  let alt := run.close (← here)
  match (← get).groups with
  | .alternation alts start :: rest =>
    modify fun r => { r with groups := .alternation (alts ++ [alt]) start :: rest }
  | gs => modify fun r => { r with groups := .alternation [alt] run.start :: gs }
  let _ ← bump
  pure { start := ← here }

/-- **Closes a group**, the parenthesis at the position. -/
def closeGroup (run : Run) : Parse Run := do
  let (alts, prior, kind, openSpan, space, rest) ← match (← get).groups with
    | .group prior kind o space :: rest => pure (none, prior, kind, o, space, rest)
    | .alternation alts start :: .group prior kind o space :: rest =>
      pure (some (alts, start), prior, kind, o, space, rest)
    | _ => fault .groupUnopened (← charSpan)
  modify fun r => { r with groups := rest, ignoreSpace := space }
  let stop ← here
  let _ ← bump
  let body := match alts with
    | some (alts, start) => alternativesOf (alts ++ [run.close stop]) ⟨start, stop⟩
    | none => run.close stop
  pure (prior.push (.group kind body ⟨openSpan.start, ← here⟩))

/-- The end of the pattern: every group must be closed. -/
def finish (run : Run) : Parse Ast := do
  let stop ← here
  match (← get).groups with
  | [] => pure (run.close stop)
  | [.alternation alts start] => pure (alternativesOf (alts ++ [run.close stop]) ⟨start, stop⟩)
  | .alternation _ _ :: .group _ _ s _ :: _ => fault .groupUnclosed s
  | .group _ _ s _ :: _ => fault .groupUnclosed s
  | _ => pure (run.close stop)

/-- **The main walk** over the pattern. -/
def walk (run : Run) : Nat → Parse Ast
  | 0 => finish run
  | fuel + 1 => do
    bumpSpace
    if ← isEof then return ← finish run
    match ← char with
    | '(' => walk (← openGroup run) fuel
    | ')' => walk (← closeGroup run) fuel
    | '|' => walk (← alternate run) fuel
    | '[' => walk (run.push (← bracketed)) fuel
    | '?' => walk (← uncounted run 0 (some 1)) fuel
    | '*' => walk (← uncounted run 0 none) fuel
    | '+' => walk (← uncounted run 1 none) fuel
    | '{' => walk (← counted run) fuel
    | _ => walk (run.push (← primitive).toAst) fuel

end Parse

/-- **Parses a pattern** into its syntax tree, or its first fault; a tree
nested past the limit is a fault at its first node past it. -/
def parse (pattern : String) : Except SyntaxError Ast := do
  let text := pattern.toList.toArray
  let ast ← (Parse.walk { start := {} } (text.size + 1)).run' { text := text }
  match ast.tooDeep 0 with
  | some span => throw { fault := .nestLimitExceeded nestLimit, span := span }
  | none => pure ast

end Pattern
end Questionnaire
