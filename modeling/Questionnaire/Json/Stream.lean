import Questionnaire.Json.Scan
import Questionnaire.Json.Decode

/-!
# Json — decoding straight from text

The decoding primitives over a text: each reads its value at the cursor as it
goes, so the first fault in document order is the one reported, whether it is
a fault of the text or of the data. A fault of the data is placed where the
cursor stopped: after a scalar that was read, or past the closing bracket of
the array or object whose reading it interrupted. A value of the wrong kind
is read first when it is a scalar, so that its text can be named.

Untagged alternatives take the whole value first, in document order, and
decode it as a value in memory.

**Main definitions.** the `Decoder Scan` instance, `decodeText`.
-/

namespace Questionnaire
namespace Json

namespace Scan

variable {α : Type}

/-- What a number is, for an error about its type. -/
def Num.unexpected : Num → Unexpected
  | .nat n => .unsigned n
  | .neg n => .signed n
  | .float x => .float x

/-- The error for a value of the wrong kind at the cursor: a scalar is read
to name it, a bracket is named without reading on. -/
def wrongKind (expected : String) : Scan Error := do
  let found ← attempt do
    match ← peek with
    | some 'n' => do eat; ident ['u', 'l', 'l']; pure Unexpected.null
    | some 't' => do eat; ident ['r', 'u', 'e']; pure (Unexpected.bool true)
    | some 'f' => do eat; ident ['a', 'l', 's', 'e']; pure (Unexpected.bool false)
    | some '-' => do eat; Num.unexpected <$> number false
    | some '"' => do eat; Unexpected.str <$> stringBody
    | some '[' => pure Unexpected.seq
    | some '{' => pure Unexpected.map
    | some c => if c.isDigit then Num.unexpected <$> number true else failAhead .expectedSomeValue
    | none => failAhead .expectedSomeValue
  match found with
  | .error e => pure e
  | .ok u => place (Error.of (.invalidType u expected))

/-- Lifts the outcome of a check into a scan, unplaced. -/
def lift : Except Error α → Scan α
  | .ok a => pure a
  | .error e => throw e

/-- A number at the cursor, then checked by `visit`. -/
def numberWith (expected : String) (visit : Num → Except Error α) : Scan α := placed do
  match ← whitespace with
  | none => failAhead .eofWhileParsingValue
  | some '-' => do eat; lift (visit (← number false))
  | some c =>
    if c.isDigit then do lift (visit (← number true))
    else throw (← wrongKind expected)

/-- A natural number up to `max`. -/
def natUpTo (max : Nat) (name : String) : Scan Nat :=
  numberWith name fun
    | .nat n => if n ≤ max then .ok n else .error (.of (.invalidValue (.unsigned n) name))
    | .neg n => .error (.of (.invalidValue (.signed n) name))
    | .float x => .error (.of (.invalidType (.float x) name))

/-- A string at the cursor. -/
def string : Scan String := placed do
  match ← whitespace with
  | none => failAhead .eofWhileParsingValue
  | some '"' => do eat; stringBody
  | some _ => throw (← wrongKind "a string")

/-- `true` or `false` at the cursor. -/
def bool : Scan Bool := placed do
  match ← whitespace with
  | none => failAhead .eofWhileParsingValue
  | some 't' => do eat; ident ['r', 'u', 'e']; pure true
  | some 'f' => do eat; ident ['a', 'l', 's', 'e']; pure false
  | some _ => throw (← wrongKind "a boolean")

/-- `null`, or the value read by `inner`. -/
def option (inner : Scan α) : Scan (Option α) := do
  match ← whitespace with
  | some 'n' => do eat; ident ['u', 'l', 'l']; pure none
  | _ => some <$> inner

/-- An array of values read by `inner`. -/
def seq (inner : Scan α) : Scan (List α) := placed do
  match ← whitespace with
  | none => failAhead .eofWhileParsingValue
  | some '[' => nested endArray (items inner)
  | some _ => throw (← wrongKind "a sequence")

/-- An object whose values are read by `inner`. -/
def map (inner : Scan α) : Scan (List (String × α)) := placed do
  match ← whitespace with
  | none => failAhead .eofWhileParsingValue
  | some '{' => nested endObject (entries fun _ => inner)
  | some _ => throw (← wrongKind "a map")

/-- `null` at the cursor, the value of a name in an object. -/
def unit : Scan Unit := placed do
  match ← whitespace with
  | none => failAhead .eofWhileParsingValue
  | some 'n' => do eat; ident ['u', 'l', 'l']
  | some _ => throw (← wrongKind "unit")

/-- A name as a string, resolved among the variants; a wrong name is placed
after the string. -/
def variantName (variants : List (String × α)) (other : Option α) (expected : String) :
    Scan α := placed do
  match ← whitespace with
  | none => failAhead .eofWhileParsingValue
  | some '"' => do
    eat
    let s ← stringBody
    lift (Tree.variant variants other s)
  | some _ => throw (← wrongKind expected)

/-- A name, or an object of one key whose value is null. -/
def enumeration (variants : List (String × α)) (other : Option α) : Scan α := do
  match ← whitespace with
  | none => failAhead .eofWhileParsingValue
  | some '"' => variantName variants other "variant identifier"
  | some '{' => do
    enter
    eat
    let r ← attempt do
      let a ← variantName variants other "variant identifier"
      colon
      unit
      pure a
    leave
    let a ← lift r
    match ← whitespace with
    | some '}' => do eat; pure a
    | some _ => fail .expectedSomeValue
    | none => fail .eofWhileParsingObject
  | some _ => failAhead .expectedSomeValue

/-- The first required field not seen. -/
def missing (slots : List (Slot Scan α)) (seen : List String) : Option String :=
  (slots.find? (fun s => s.required && !seen.contains s.key)).map Slot.key

/-- The entries of an object read into a draft record. -/
def recordEntries (slots : List (Slot Scan α)) (d : α) : Scan α := do
  go true [] d (← budget)
where
  go (first : Bool) (seen : List String) (d : α) : Nat → Scan α
    | 0 => failAhead .eofWhileParsingObject
    | fuel + 1 => do
      match ← nextKey first with
      | none =>
        match missing slots seen with
        | some k => throw (Error.of (.missingField k))
        | none => pure d
      | some k =>
        match slots.find? (fun s => s.key == k) with
        | none => do colon; skipValue; go false seen d fuel
        | some s =>
          if seen.contains k then throw (Error.of (.duplicateField k))
          else do
            colon
            let d' ← s.read d
            go false (k :: seen) d' fuel

/-- The items of an array read into a draft record, one field per item. -/
def recordItems (name : String) (total : Nat) (d : α) (slots : List (Slot Scan α)) : Scan α :=
  go true 0 d slots
where
  go (first : Bool) (i : Nat) (d : α) : List (Slot Scan α) → Scan α
    | [] => pure d
    | s :: rest => do
      if ← nextItem first then
        let d' ← s.read d
        go false (i + 1) d' rest
      else if s.required then
        throw (Error.of (.invalidLength i (Decoder.arrayExpectation name total)))
      else go first (i + 1) d rest

/-- A record from an object or an array at the cursor. -/
def record (name : String) (slots : List (Slot Scan α)) (d : α) : Scan α := placed do
  match ← whitespace with
  | none => failAhead .eofWhileParsingValue
  | some '[' => nested endArray (recordItems name slots.length d slots)
  | some '{' => nested endObject (recordEntries slots d)
  | some _ => throw (← wrongKind ("struct " ++ name))

instance : Decoder Scan where
  string := string
  bool := bool
  natUpTo := natUpTo
  float := numberWith "f64" fun n => .ok n.toFloat
  option := option
  seq := seq
  map := map
  enumeration := enumeration
  record := record
  content := anyValue nestLimit
  fail := fun e => throw e

end Scan

/-- **Decodes a whole text** with a decoder; nothing but blanks may follow. -/
def decodeText {α : Type} (source : Source) (d : Scan α) (text : String) : Except Error α :=
  Scan.runText source text d

end Json
end Questionnaire
