import Questionnaire.Json.Error

/-!
# Json — decoding typed data

A type is decoded from JSON by a small set of primitives: strings, booleans,
bounded naturals, doubles, optional values, sequences, string-keyed maps,
enumerations of names, records of named fields, and whole values. The
`Decoder` class names these primitives, so the decoder of a type is written
once and runs over any source of JSON. This module gives the source that is
a value in memory (`Tree`); the text source lives in `Json.Stream`.

Records follow one rule for every type. Entries are read in their order; a
key naming a field is decoded into the draft record, a repeated one is an
error, any other key is skipped; after the last entry the first required
field never seen is missing. A record may also be written as an array of its
fields in order.

**Main definitions.** `Slot`, `Decoder`, `Decoder.untagged`, `Tree`.
-/

namespace Questionnaire
namespace Json

/-- **A field of a record**: its key, whether it has no default, and how its
value is decoded into a draft of the record. -/
structure Slot (m : Type → Type) (α : Type) where
  key : String
  required : Bool := false
  read : α → m α

/-- **The decoding primitives** over a source of JSON. -/
class Decoder (m : Type → Type) where
  string : m String
  bool : m Bool
  /-- A natural number up to `max`, named `name` in errors. -/
  natUpTo : Nat → String → m Nat
  float : m Float
  option : {α : Type} → m α → m (Option α)
  seq : {α : Type} → m α → m (List α)
  map : {α : Type} → m α → m (List (String × α))
  /-- A name among `variants`, or `other` for any unknown name when given. -/
  enumeration : {α : Type} → List (String × α) → Option α → m α
  /-- A record named `name` with the given fields, starting from a draft. -/
  record : {α : Type} → String → List (Slot m α) → α → m α
  /-- The whole value, entries in source order. -/
  content : m Value
  fail : {α : Type} → Error → m α

namespace Decoder

variable {m : Type → Type} [Monad m] [Decoder m] {α : Type}

/-- The first alternative that decodes the value. -/
def firstOk (alts : List (Value → Except Error α)) (v : Value) : Option α :=
  match alts with
  | [] => none
  | f :: rest =>
    match f v with
    | .ok a => some a
    | .error _ => firstOk rest v

/-- **Untagged alternatives**: the whole value is taken, then each
alternative is tried on it in order; if none fits, the error names the type. -/
def untagged (name : String) (alts : List (Value → Except Error α)) : m α := do
  let v ← content
  match firstOk alts v with
  | some a => pure a
  | none => fail (Error.of (.untaggedMismatch name))

/-- A whole JSON value in canonical form. -/
def value : m Value := Value.normalize <$> content

/-- The names of the fields of a record as an array expects them. -/
def arrayExpectation (name : String) (count : Nat) : String :=
  "struct " ++ name ++ " with " ++ toString count ++ (if count = 1 then " element" else " elements")

end Decoder

/-- **Decoding from a value in memory.** -/
abbrev Tree := ReaderT Value (Except Error)

namespace Tree

variable {α : Type}

/-- The name among `variants`, else `other`, else an unknown variant. -/
def variant (variants : List (String × α)) (other : Option α) (s : String) : Except Error α :=
  match variants.lookup s, other with
  | some a, _ => .ok a
  | none, some a => .ok a
  | none, none => .error (.of (.unknownVariant s (variants.map Prod.fst)))

/-- Reads the entries of an object into a draft record, field by field. -/
def recordEntries (slots : List (Slot Tree α)) (seen : List String) (d : α) :
    List (String × Value) → Except Error (α × List String)
  | [] => .ok (d, seen)
  | (k, x) :: rest =>
    match slots.find? (fun s => s.key == k) with
    | none => recordEntries slots seen d rest
    | some s =>
      if seen.contains k then .error (.of (.duplicateField k))
      else
        match s.read d x with
        | .ok d' => recordEntries slots (k :: seen) d' rest
        | .error e => .error e

/-- The first required field not seen. -/
def missing (slots : List (Slot Tree α)) (seen : List String) : Option String :=
  (slots.find? (fun s => s.required && !seen.contains s.key)).map Slot.key

/-- Reads the items of an array into a draft record, one field per item in
order; a missing required field or a surplus item is an error. -/
def recordItems (name : String) (len : Nat) (total : Nat) :
    List (Slot Tree α) → Nat → α → List Value → Except Error α
  | [], _, d, [] => .ok d
  | [], _, _, _ :: _ => .error (.of (.invalidLength len "fewer elements in array"))
  | s :: rest, i, d, x :: xs =>
    match s.read d x with
    | .ok d' => recordItems name len total rest (i + 1) d' xs
    | .error e => .error e
  | s :: rest, i, d, [] =>
    if s.required then .error (.of (.invalidLength i (Decoder.arrayExpectation name total)))
    else recordItems name len total rest (i + 1) d []

/-- A record from an object or an array. -/
def record (name : String) (slots : List (Slot Tree α)) (d : α) : Tree α := fun v =>
  match v with
  | .obj entries =>
    match recordEntries slots [] d entries with
    | .ok (d', seen) =>
      match missing slots seen with
      | some k => .error (.of (.missingField k))
      | none => .ok d'
    | .error e => .error e
  | .arr items => recordItems name items.length slots.length slots 0 d items
  | v => .error (Error.invalidType v ("struct " ++ name))

/-- A name, or an object of one key whose value is null. -/
def enumeration (variants : List (String × α)) (other : Option α) : Tree α := fun v =>
  match v with
  | .str s => variant variants other s
  | .obj [(k, x)] =>
    match variant variants other k with
    | .ok a =>
      match x with
      | .null => .ok a
      | x => .error (Error.invalidType x "unit")
    | .error e => .error e
  | .obj _ => .error (.of (.invalidValue .map "map with a single key"))
  | v => .error (Error.invalidType v "string or map")

/-- A natural number up to `max`. -/
def natUpTo (max : Nat) (name : String) : Tree Nat := fun v =>
  match v with
  | .num (.nat n) => if n ≤ max then .ok n else .error (.of (.invalidValue (.unsigned n) name))
  | .num (.neg n) => .error (.of (.invalidValue (.signed n) name))
  | v => .error (Error.invalidType v name)

instance : Decoder Tree where
  string := fun v => match v with
    | .str s => .ok s
    | v => .error (Error.invalidType v "a string")
  bool := fun v => match v with
    | .bool b => .ok b
    | v => .error (Error.invalidType v "a boolean")
  natUpTo := natUpTo
  float := fun v => match v with
    | .num n => .ok n.toFloat
    | v => .error (Error.invalidType v "f64")
  option := fun inner v => match v with
    | .null => .ok none
    | v => some <$> inner v
  seq := fun inner v => match v with
    | .arr items => items.mapM inner
    | v => .error (Error.invalidType v "a sequence")
  map := fun inner v => match v with
    | .obj entries => entries.mapM fun (k, x) => (fun a => (k, a)) <$> inner x
    | v => .error (Error.invalidType v "a map")
  enumeration := enumeration
  record := record
  content := fun v => .ok v
  fail := fun e _ => .error e

end Tree

/-- Decodes a value in memory with a decoder. -/
def decodeValue {α : Type} (d : Tree α) (v : Value) : Except Error α := d v

end Json
end Questionnaire
