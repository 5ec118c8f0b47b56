/-!
# Pattern — UTF-8 forms

A code point is written in UTF-8 as one to four bytes: one below `0x80`,
two below `0x800`, three below `0x10000`, four above. An automaton reads
bytes, so a range of code points becomes a list of byte-range sequences:
each sequence is as long as the UTF-8 form of its code points and matches
exactly the forms of a sub-range, and the sequences of a range, in order,
cover it with no overlap.

A range is split until each part can be written as a sequence: first around
the surrogates, which have no UTF-8 form; then where the length of the
UTF-8 form changes; then, from the last continuation byte up, where a part
does not start or end on a boundary of the trailing bytes. A part that
survives has first and last code points whose forms differ byte by byte by
ranges, which is the sequence.

**Main definitions.** `utf8Length`, `utf8Bytes`, `utf8Sequences`.
-/

namespace Questionnaire
namespace Pattern

/-- The length of a code point's UTF-8 form. -/
def utf8Length (c : Nat) : Nat :=
  if c < 0x80 then 1 else if c < 0x800 then 2 else if c < 0x10000 then 3 else 4

/-- **The UTF-8 form** of a code point. -/
def utf8Bytes (c : Nat) : List Nat :=
  if c < 0x80 then [c]
  else if c < 0x800 then [0xC0 + c / 64, 0x80 + c % 64]
  else if c < 0x10000 then [0xE0 + c / 4096, 0x80 + c / 64 % 64, 0x80 + c % 64]
  else [0xF0 + c / 262144, 0x80 + c / 4096 % 64, 0x80 + c / 64 % 64, 0x80 + c % 64]

/-- The UTF-8 form of a text. -/
def textBytes (cs : List Char) : List Nat := cs.flatMap fun c => utf8Bytes c.toNat

/-- The greatest code point of a UTF-8 form of `n` bytes. -/
def greatestOfLength : Nat → Nat
  | 1 => 0x7F
  | 2 => 0x7FF
  | 3 => 0xFFFF
  | _ => 0x10FFFF

/-- The first length, of one to three bytes, whose greatest code point lies
inside the range without ending it: where the range must be split. -/
def lengthSplit (lo hi : Nat) : Option Nat :=
  [1, 2, 3].find? fun n => lo ≤ greatestOfLength n ∧ greatestOfLength n < hi

/-- The first trailing-byte count, of one to three, over which the range
is not aligned: its bounds differ above the trailing bytes, and the range
does not start at their least or end at their greatest. The split point
is returned as the last code point of the first part. -/
def alignSplit (lo hi : Nat) : Option Nat :=
  let rec go : List Nat → Option Nat
    | [] => none
    | k :: ks =>
      let m := Nat.pow 64 k
      if lo / m ≠ hi / m then
        if lo % m ≠ 0 then some (lo - lo % m + (m - 1))
        else if hi % m ≠ m - 1 then some (hi - hi % m - 1)
        else go ks
      else go ks
  go [1, 2, 3]

/-- **The sequences of a range** of code points, with `fuel` bounding the
depth of splitting (twelve levels suffice: each split either leaves the
surrogates, fixes a length, or aligns one more trailing byte). -/
def utf8SequencesFuel : Nat → Nat → Nat → List (List (Nat × Nat))
  | 0, _, _ => []
  | fuel + 1, lo, hi =>
    if lo < 0xE000 ∧ hi > 0xD7FF then
      utf8SequencesFuel fuel lo 0xD7FF ++ utf8SequencesFuel fuel 0xE000 hi
    else if hi < lo then []
    else
      match lengthSplit lo hi with
      | some n =>
        utf8SequencesFuel fuel lo (greatestOfLength n) ++
          utf8SequencesFuel fuel (greatestOfLength n + 1) hi
      | none =>
        if hi ≤ 0x7F then [[(lo, hi)]]
        else
          match alignSplit lo hi with
          | some mid => utf8SequencesFuel fuel lo mid ++ utf8SequencesFuel fuel (mid + 1) hi
          | none => [(utf8Bytes lo).zip (utf8Bytes hi)]

/-- **The byte-range sequences** of the code points from `lo` to `hi`. -/
def utf8Sequences (lo hi : Nat) : List (List (Nat × Nat)) := utf8SequencesFuel 16 lo hi

end Pattern
end Questionnaire
