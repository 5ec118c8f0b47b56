import Questionnaire.Json.Error

/-!
# Json — scanning text

A cursor walks a JSON text one character at a time and knows its line and
column. Errors are placed by two rules: an error *at* the cursor is placed
before the next character, an error *about* the next character is placed one
byte further. A text read as a stream counts a character it has looked at as
already read, so there both rules place the error after a looked-at
character.

The scanner reads the pieces of JSON text: blanks, literal words, numbers,
strings with escapes, and whole values in document order. It also steps
over a value without building it, with that stepping's own, more lenient
checks. Nesting is limited to 127 levels of arrays and objects.

**Main definitions.** `Cursor`, `Scan`, `Scan.number`, `Scan.stringBody`,
`Scan.anyValue`, `Scan.skipValue`, `Scan.nested`.
-/

namespace Questionnaire
namespace Json

/-- Where a text comes from: wholly in memory, or read as a stream. -/
inductive Source where
  | memory
  | stream
  deriving DecidableEq

/-- **A cursor** over the characters still to read, with the line and the
column (in bytes) of the next one. -/
structure Cursor where
  source : Source
  rest : List Char
  line : Nat := 1
  col : Nat := 0
  /-- A streamed text has read the next character to look at it. -/
  looked : Bool := false
  /-- How many more levels of arrays and objects may open. -/
  depth : Nat := 128

namespace Cursor

/-- A cursor at the start of a text. -/
def start (source : Source) (text : String) : Cursor := { source, rest := text.toList }

/-- The position before the next character. -/
def here (c : Cursor) : Position := ⟨c.line, c.col⟩

/-- The position one byte past the start of the next character. -/
def ahead (c : Cursor) : Position :=
  match c.rest with
  | [] => c.here
  | '\n' :: _ => ⟨c.line + 1, 0⟩
  | _ :: _ => ⟨c.line, c.col + 1⟩

/-- Where an error at the cursor is placed. -/
def errorPos (c : Cursor) : Position :=
  match c.source with
  | .memory => c.here
  | .stream => if c.looked then c.ahead else c.here

/-- Where an error about the next character is placed. -/
def peekErrorPos (c : Cursor) : Position :=
  match c.source with
  | .memory => c.ahead
  | .stream => if c.looked then c.ahead else c.here

/-- Steps over the next character. -/
def advance (c : Cursor) : Cursor :=
  match c.rest with
  | [] => c
  | ch :: rest =>
    if ch = '\n' then { c with rest, line := c.line + 1, col := 0, looked := false }
    else { c with rest, col := c.col + ch.utf8Size, looked := false }

/-- Steps over `n` bytes of text: whole characters while they fit, and into
a longer character only by the column, which counts bytes. -/
def skipBytes (n : Nat) (c : Cursor) : Cursor :=
  go n c.rest c
where
  go (n : Nat) : List Char → Cursor → Cursor
    | [], c => c
    | ch :: rest, c =>
      if n = 0 then c
      else if ch.utf8Size ≤ n then go (n - ch.utf8Size) rest c.advance
      else { c with col := c.col + n, looked := false }

end Cursor

/-- **Scanning**: a computation over a cursor that may fail with an error;
the cursor keeps its place when it fails. -/
abbrev Scan := ExceptT Error (StateM Cursor)

namespace Scan

/-- The next character, looked at but not read. -/
def peek : Scan (Option Char) :=
  modifyGet fun c => (c.rest.head?, { c with looked := !c.rest.isEmpty })

/-- Steps over the next character. -/
def eat : Scan Unit := modify Cursor.advance

/-- Reads the next character. -/
def next : Scan (Option Char) := do
  let c ← peek
  eat
  pure c

/-- Fails with an error at the cursor. -/
def fail (p : Problem) : Scan α := do
  let c ← get
  throw { problem := p, position := some c.errorPos }

/-- Fails with an error about the next character. -/
def failAhead (p : Problem) : Scan α := do
  let c ← get
  throw { problem := p, position := some c.peekErrorPos }

/-- Places an unplaced error at the cursor. -/
def place (e : Error) : Scan Error := do
  match e.position with
  | some _ => pure e
  | none =>
    let c ← get
    pure { e with position := some c.errorPos }

/-- Runs `m`, placing an unplaced error at the cursor where it stopped. -/
def placed (m : Scan α) : Scan α :=
  tryCatch m fun e => do throw (← place e)

/-- Runs `m` and reports its outcome; the cursor stays where `m` left it. -/
def attempt (m : Scan α) : Scan (Except Error α) :=
  tryCatch (Except.ok <$> m) fun e => pure (.error e)

/-- How many characters are left: a bound on every loop over them. -/
def budget : Scan Nat := do
  let c ← get
  pure (c.rest.length + 1)

/-- Steps over blanks (space, tab, line feed, carriage return) and looks at
the character after them. -/
def whitespace : Scan (Option Char) := do
  go (← budget)
where
  go : Nat → Scan (Option Char)
    | 0 => peek
    | fuel + 1 => do
      match ← peek with
      | some ' ' | some '\n' | some '\t' | some '\r' => eat; go fuel
      | c => pure c

/-- Reads the rest of a literal word, failing at the first wrong character. -/
def ident : List Char → Scan Unit
  | [] => pure ()
  | ch :: rest => do
    match ← next with
    | none => fail .eofWhileParsingValue
    | some c => if c = ch then ident rest else fail .expectedSomeIdent

/-! ## Numbers -/

/-- The value of a decimal digit. -/
def digitVal (c : Char) : Nat := c.toNat - '0'.toNat

/-- Whether `acc * 10 + d` would pass `max`. -/
def overflows (acc d max : Nat) : Bool :=
  acc ≥ max / 10 && (acc > max / 10 || d > max % 10)

/-- The largest 32-bit signed value, the bound of an exponent. -/
def i32Max : Int := Int.pow 2 31 - 1

/-- Clamps to the 32-bit signed range. -/
def saturate (x : Int) : Int := max (-(Int.pow 2 31)) (min i32Max x)

/-- Builds the double from significand and exponent, failing at the cursor
when it is out of range. -/
def fromParts (positive : Bool) (significand : Nat) (exponent : Int) : Scan Float :=
  match scaleByPow10 significand exponent with
  | .ok f => pure (if positive then f else -f)
  | .error .outOfRange => fail .numberOutOfRange

/-- Steps over digits. -/
def skipDigits : Nat → Scan Unit
  | 0 => pure ()
  | fuel + 1 => do
    match ← peek with
    | some c => if c.isDigit then do eat; skipDigits fuel else pure ()
    | none => pure ()

/-- An exponent too large for 32 bits: out of range for a nonzero significand
and a positive exponent, zero otherwise. -/
def exponentOverflow (positive zeroSignificand positiveExp : Bool) : Scan Float := do
  if !zeroSignificand && positiveExp then fail .numberOutOfRange
  else
    skipDigits (← budget)
    pure (if positive then 0.0 else -0.0)

/-- Reads the exponent after `e` or `E` and builds the double. -/
def exponentPart (positive : Bool) (significand : Nat) (startExp : Int) : Scan Float := do
  eat
  let positiveExp ← do
    match ← peek with
    | some '+' => eat; pure true
    | some '-' => eat; pure false
    | _ => pure true
  match ← next with
  | none => fail .eofWhileParsingValue
  | some c =>
    if !c.isDigit then fail .invalidNumber
    else go positiveExp (digitVal c) (← budget)
where
  go (positiveExp : Bool) (exp : Nat) : Nat → Scan Float
    | 0 => fromParts positive significand startExp
    | fuel + 1 => do
      match ← peek with
      | some c =>
        if c.isDigit then do
          eat
          let d := digitVal c
          if overflows exp d i32Max.toNat then
            exponentOverflow positive (significand == 0) positiveExp
          else go positiveExp (exp * 10 + d) fuel
        else finish positiveExp exp
      | none => finish positiveExp exp
  finish (positiveExp : Bool) (exp : Nat) : Scan Float :=
    let e := if positiveExp then saturate (startExp + exp) else saturate (startExp - exp)
    fromParts positive significand e

/-- Digits past the capacity of the significand are dropped. -/
def decimalOverflow (positive : Bool) (significand : Nat) (exponent : Int) : Scan Float := do
  skipDigits (← budget)
  match ← peek with
  | some 'e' | some 'E' => exponentPart positive significand exponent
  | _ => fromParts positive significand exponent

/-- Reads the fraction after the point and builds the double. -/
def decimalPart (positive : Bool) (significand : Nat) (expBefore : Int) : Scan Float := do
  eat
  go significand 0 (← budget)
where
  go (sig : Nat) (after : Nat) : Nat → Scan Float
    | 0 => fromParts positive sig expBefore
    | fuel + 1 => do
      match ← peek with
      | some c =>
        if c.isDigit then
          let d := digitVal c
          if overflows sig d u64Max then decimalOverflow positive sig (expBefore - after)
          else do eat; go (sig * 10 + d) (after + 1) fuel
        else finish sig after
      | none => finish sig after
  finish (sig : Nat) (after : Nat) : Scan Float := do
    if after = 0 then
      match ← peek with
      | some _ => failAhead .invalidNumber
      | none => failAhead .eofWhileParsingValue
    else
      match ← peek with
      | some 'e' | some 'E' => exponentPart positive sig (expBefore - after)
      | _ => fromParts positive sig (expBefore - after)

/-- Digits of an integer past 64 bits only raise the exponent. -/
def longInteger (positive : Bool) (significand : Nat) : Scan Float := do
  go 0 (← budget)
where
  go (exponent : Nat) : Nat → Scan Float
    | 0 => fromParts positive significand exponent
    | fuel + 1 => do
      match ← peek with
      | some '.' => decimalPart positive significand exponent
      | some 'e' | some 'E' => exponentPart positive significand exponent
      | some c =>
        if c.isDigit then do eat; go (exponent + 1) fuel
        else fromParts positive significand exponent
      | none => fromParts positive significand exponent

/-- After the integer digits: a fraction, an exponent, or an integer. A
negative integer below `-2^63`, and `-0`, are doubles. -/
def afterInteger (positive : Bool) (significand : Nat) : Scan Num := do
  match ← peek with
  | some '.' => .float <$> decimalPart positive significand 0
  | some 'e' | some 'E' => .float <$> exponentPart positive significand 0
  | _ =>
    if positive then pure (.nat significand)
    else if significand = 0 then pure (.float (-0.0))
    else if significand ≤ Nat.pow 2 63 then pure (.neg (-(significand : Int)))
    else pure (.float (-(Decimal.Binary.ofNat significand)))

/-- **Reads a number** after its sign: one leading zero or a nonzero digit,
then integer digits, a fraction and an exponent. -/
def number (positive : Bool) : Scan Num := do
  match ← next with
  | none => fail .eofWhileParsingValue
  | some '0' =>
    match ← peek with
    | some d => if d.isDigit then failAhead .invalidNumber else afterInteger positive 0
    | none => afterInteger positive 0
  | some c =>
    if '1' ≤ c ∧ c ≤ '9' then go (digitVal c) (← budget)
    else fail .invalidNumber
where
  go (sig : Nat) : Nat → Scan Num
    | 0 => afterInteger positive sig
    | fuel + 1 => do
      match ← peek with
      | some c =>
        if c.isDigit then
          let d := digitVal c
          if overflows sig d u64Max then .float <$> longInteger positive sig
          else do eat; go (sig * 10 + d) fuel
        else afterInteger positive sig
      | none => afterInteger positive sig

/-! ## Strings -/

/-- The value of a hexadecimal digit. -/
def hexVal (c : Char) : Option Nat :=
  if c.isDigit then some (digitVal c)
  else if 'a' ≤ c ∧ c ≤ 'f' then some (c.toNat - 'a'.toNat + 10)
  else if 'A' ≤ c ∧ c ≤ 'F' then some (c.toNat - 'A'.toNat + 10)
  else none

/-- Moves to the end of the text. -/
def toEnd : Scan Unit :=
  modify fun c =>
    c.rest.foldl (fun (acc : Cursor) _ => acc.advance) c

/-- **Reads the four bytes of a `\u` escape** as hexadecimal digits. The
four bytes are taken before they are looked at, so an escape that is not
four hexadecimal digits is an error placed after its fourth byte; with fewer
than four bytes left, the text ends inside the string. -/
def hex4 : Scan Nat := do
  let c ← get
  if ((c.rest.take 4).map Char.utf8Size).foldr (· + ·) 0 < 4 then
    toEnd
    fail .eofWhileParsingString
  else
    match (c.rest.take 4).map hexVal with
    | [some a, some b, some d, some e] => do
      eat; eat; eat; eat
      pure (((a * 16 + b) * 16 + d) * 16 + e)
    | _ => do
      modify (Cursor.skipBytes 4)
      fail .invalidEscape

/-- Expects the next character of a surrogate pair's second escape; any
other is an error placed after its first byte. -/
def pairChar (ch : Char) : Scan Unit := do
  match ← peek with
  | none => fail .eofWhileParsingString
  | some c =>
    if c = ch then eat
    else do
      modify (Cursor.skipBytes 1)
      fail .unexpectedEndOfHexEscape

/-- A `\u` escape: a character, or a pair of surrogate escapes. -/
def unicodeEscape : Scan Char := do
  let n ← hex4
  if 0xDC00 ≤ n ∧ n ≤ 0xDFFF then fail .loneLeadingSurrogateInHexEscape
  else if 0xD800 ≤ n ∧ n ≤ 0xDBFF then
    pairChar '\\'
    pairChar 'u'
    let n2 ← hex4
    if n2 < 0xDC00 ∨ 0xDFFF < n2 then fail .loneLeadingSurrogateInHexEscape
    else pure (Char.ofNat ((((n - 0xD800) * 1024) ||| (n2 - 0xDC00)) + 0x10000))
  else pure (Char.ofNat n)

/-- The character a simple escape stands for. -/
def simpleEscape : Char → Option Char
  | '"' => some '"'
  | '\\' => some '\\'
  | '/' => some '/'
  | 'b' => some '\x08'
  | 'f' => some '\x0c'
  | 'n' => some '\n'
  | 'r' => some '\r'
  | 't' => some '\t'
  | _ => none

/-- **Reads a string** after its opening quote, up to and over the closing
quote. A control character is an error placed after it. -/
def stringBody : Scan String := do
  go [] (← budget)
where
  go (acc : List Char) : Nat → Scan String
    | 0 => fail .eofWhileParsingString
    | fuel + 1 => do
      match ← next with
      | none => fail .eofWhileParsingString
      | some '"' => pure (String.ofList acc.reverse)
      | some '\\' =>
        match ← next with
        | none => fail .eofWhileParsingString
        | some 'u' => do let ch ← unicodeEscape; go (ch :: acc) fuel
        | some e =>
          match simpleEscape e with
          | some ch => go (ch :: acc) fuel
          | none => fail .invalidEscape
      | some ch =>
        if ch.toNat < 0x20 then fail .controlCharacterWhileParsingString
        else go (ch :: acc) fuel

/-- Steps over a string after its opening quote without keeping it: escapes
are checked only for their shape, and a control character in a text in
memory is an error placed before it. -/
def skipString : Scan Unit := do
  go (← budget)
where
  go : Nat → Scan Unit
    | 0 => fail .eofWhileParsingString
    | fuel + 1 => do
      match ← peek with
      | none => fail .eofWhileParsingString
      | some '"' => eat
      | some '\\' => do
        eat
        match ← next with
        | none => fail .eofWhileParsingString
        | some 'u' => do let _ ← hex4; go fuel
        | some e =>
          match simpleEscape e with
          | some _ => go fuel
          | none => fail .invalidEscape
      | some ch =>
        if ch.toNat < 0x20 then
          match (← get).source with
          | .memory => fail .controlCharacterWhileParsingString
          | .stream => do eat; fail .controlCharacterWhileParsingString
        else do eat; go fuel

/-! ## Arrays and objects -/

/-- Opens one level of nesting, failing past the limit. -/
def enter : Scan Unit := do
  let c ← get
  if c.depth ≤ 1 then
    set { c with depth := 0 }
    failAhead .recursionLimitExceeded
  else set { c with depth := c.depth - 1 }

/-- Closes one level of nesting. -/
def leave : Scan Unit := modify fun c => { c with depth := c.depth + 1 }

/-- The end of an array: its closing bracket, or the error of what stands there. -/
def endArray : Scan Unit := do
  match ← whitespace with
  | some ']' => eat
  | some ',' => do
    eat
    match ← whitespace with
    | some ']' => failAhead .trailingComma
    | _ => failAhead .trailingCharacters
  | some _ => failAhead .trailingCharacters
  | none => failAhead .eofWhileParsingList

/-- The end of an object: its closing brace, or the error of what stands there. -/
def endObject : Scan Unit := do
  match ← whitespace with
  | some '}' => eat
  | some ',' => failAhead .trailingComma
  | some _ => failAhead .trailingCharacters
  | none => failAhead .eofWhileParsingObject

/-- **Inside brackets.** Opens a level of nesting at the bracket under the
cursor, runs `body`, and closes with `close`. An error of the body wins over
one of the closing, but the closing still moves the cursor first. -/
def nested (close : Scan Unit) (body : Scan α) : Scan α := do
  enter
  eat
  let r ← attempt body
  leave
  let e ← attempt close
  match r, e with
  | .ok v, .ok _ => pure v
  | .error err, _ => throw err
  | .ok _, .error err => throw err

/-- Looks for the next item of an array: `true` when one follows, `false`
at the closing bracket. -/
def nextItem (first : Bool) : Scan Bool := do
  match ← whitespace with
  | some ']' => pure false
  | some ',' =>
    if first then pure true
    else do
      eat
      match ← whitespace with
      | some ']' => failAhead .trailingComma
      | some _ => pure true
      | none => failAhead .eofWhileParsingValue
  | some _ => if first then pure true else failAhead .expectedListCommaOrEnd
  | none => failAhead .eofWhileParsingList

/-- Looks for the next key of an object and reads it, or `none` at the
closing brace. -/
def nextKey (first : Bool) : Scan (Option String) := do
  match ← whitespace with
  | some '}' => pure none
  | some ',' =>
    if first then keyAt (some ',')
    else do eat; keyAt (← whitespace)
  | some ch => if first then keyAt (some ch) else failAhead .expectedObjectCommaOrEnd
  | none => failAhead .eofWhileParsingObject
where
  keyAt : Option Char → Scan (Option String)
    | some '"' => do eat; some <$> stringBody
    | some '}' => failAhead .trailingComma
    | some _ => failAhead .keyMustBeAString
    | none => failAhead .eofWhileParsingValue

/-- The colon after a key. -/
def colon : Scan Unit := do
  match ← whitespace with
  | some ':' => eat
  | some _ => failAhead .expectedColon
  | none => failAhead .eofWhileParsingObject

/-- Reads the items of an array with `item`, up to the closing bracket. -/
def items (item : Scan α) : Scan (List α) := do
  go true [] (← budget)
where
  go (first : Bool) (acc : List α) : Nat → Scan (List α)
    | 0 => failAhead .eofWhileParsingList
    | fuel + 1 => do
      if ← nextItem first then
        let v ← item
        go false (v :: acc) fuel
      else pure acc.reverse

/-- Reads the entries of an object with `value`, up to the closing brace. -/
def entries (value : String → Scan α) : Scan (List (String × α)) := do
  go true [] (← budget)
where
  go (first : Bool) (acc : List (String × α)) : Nat → Scan (List (String × α))
    | 0 => failAhead .eofWhileParsingObject
    | fuel + 1 => do
      match ← nextKey first with
      | none => pure acc.reverse
      | some k =>
        colon
        let v ← value k
        go false ((k, v) :: acc) fuel

/-! ## Whole values -/

/-- **Reads any value** in document order: object entries as written,
duplicates kept. -/
def anyValue : Nat → Scan Value
  | 0 => failAhead .recursionLimitExceeded
  | fuel + 1 => do
    match ← whitespace with
    | none => failAhead .eofWhileParsingValue
    | some 'n' => do eat; ident ['u', 'l', 'l']; pure .null
    | some 't' => do eat; ident ['r', 'u', 'e']; pure (.bool true)
    | some 'f' => do eat; ident ['a', 'l', 's', 'e']; pure (.bool false)
    | some '-' => do eat; .num <$> number false
    | some '"' => do eat; .str <$> stringBody
    | some '[' => .arr <$> nested endArray (items (anyValue fuel))
    | some '{' => .obj <$> nested endObject (entries fun _ => anyValue fuel)
    | some c =>
      if c.isDigit then .num <$> number true
      else failAhead .expectedSomeValue

/-- The most levels of nesting a text may have. -/
def nestLimit : Nat := 130

/-- Steps over the digits of a number, checking only its shape. -/
def skipNumber : Scan Unit := do
  let first ← next
  match first with
  | some '0' =>
    match ← peek with
    | some d => if d.isDigit then failAhead .invalidNumber else pure ()
    | none => pure ()
  | some c =>
    if '1' ≤ c ∧ c ≤ '9' then skipDigits (← budget) else fail .invalidNumber
  | none => fail .invalidNumber
  match ← peek with
  | some '.' => do
    eat
    match ← peek with
    | some d =>
      if d.isDigit then skipDigits (← budget) else failAhead .invalidNumber
    | none => failAhead .invalidNumber
    skipExponent
  | _ => skipExponent
where
  skipExponent : Scan Unit := do
    match ← peek with
    | some 'e' | some 'E' => do
      eat
      match ← peek with
      | some '+' | some '-' => eat
      | _ => pure ()
      match ← next with
      | some d => if d.isDigit then skipDigits (← budget) else fail .invalidNumber
      | none => fail .invalidNumber
    | _ => pure ()

/-- Steps over one scalar or opens a bracket: `some` the bracket opened. -/
def skipScalarOrOpen : Scan (Option Char) := do
  match ← whitespace with
  | none => failAhead .eofWhileParsingValue
  | some 'n' => do eat; ident ['u', 'l', 'l']; pure none
  | some 't' => do eat; ident ['r', 'u', 'e']; pure none
  | some 'f' => do eat; ident ['a', 'l', 's', 'e']; pure none
  | some '-' => do eat; skipNumber; pure none
  | some '"' => do eat; skipString; pure none
  | some '[' => do eat; pure (some '[')
  | some '{' => do eat; pure (some '{')
  | some c => if c.isDigit then do skipNumber; pure none else failAhead .expectedSomeValue

/-- After an object is opened or an entry is done: the next key and its
colon. -/
def skipKey : Scan Unit := do
  match ← whitespace with
  | some '"' => eat
  | some _ => failAhead .keyMustBeAString
  | none => failAhead .eofWhileParsingObject
  skipString
  match ← whitespace with
  | some ':' => eat
  | some _ => failAhead .expectedColon
  | none => failAhead .eofWhileParsingObject

/-- **Steps over a value** without building it, keeping open brackets on a
stack instead of nesting: no depth limit, no range check of numbers, and an
item missing after a comma is an expected value. -/
def skipValue : Scan Unit := do
  go [] (← budget)
where
  /-- Closes brackets while the one on top of the stack ends here; returns
  the stack left, or `none` when the outer value is complete. -/
  close (stack : List Char) (acceptComma : Bool) : Nat → Scan (Option (List Char))
    | 0 => failAhead .eofWhileParsingValue
    | fuel + 1 => do
      match stack with
      | [] => pure none
      | frame :: outer =>
        match ← whitespace with
        | some ',' =>
          if acceptComma then do eat; pure (some stack)
          else pure (some stack)
        | some ']' =>
          if frame = '[' then do eat; close outer true fuel
          else if acceptComma then failAhead .expectedObjectCommaOrEnd else pure (some stack)
        | some '}' =>
          if frame = '{' then do eat; close outer true fuel
          else if acceptComma then failAhead .expectedListCommaOrEnd else pure (some stack)
        | some _ =>
          if acceptComma then
            failAhead (if frame = '[' then .expectedListCommaOrEnd else .expectedObjectCommaOrEnd)
          else pure (some stack)
        | none =>
          failAhead (if frame = '[' then .eofWhileParsingList else .eofWhileParsingObject)
  go (stack : List Char) : Nat → Scan Unit
    | 0 => failAhead .eofWhileParsingValue
    | fuel + 1 => do
      let opened ← skipScalarOrOpen
      let stack' := match opened with
        | some b => b :: stack
        | none => stack
      let acceptComma := opened.isNone
      match ← close stack' acceptComma (← budget) with
      | none => pure ()
      | some [] => pure ()
      | some s@(frame :: _) =>
        if frame = '{' then skipKey
        go s fuel

/-- The end of a text: only blanks may follow the value. -/
def finish : Scan Unit := do
  match ← whitespace with
  | some _ => failAhead .trailingCharacters
  | none => pure ()

/-- Runs a scan over a whole text, requiring that nothing but blanks follow. -/
def runText (source : Source) (text : String) (m : Scan α) : Except Error α :=
  Prod.fst (((do let v ← m; finish; pure v) : Scan α).run.run (Cursor.start source text))

end Scan

/-- **Reads a JSON text** into its canonical value: keys sorted, the last
duplicate kept. -/
def parse (text : String) : Except Error Value :=
  Value.normalize <$> Scan.runText .memory text (Scan.anyValue Scan.nestLimit)

end Json
end Questionnaire
