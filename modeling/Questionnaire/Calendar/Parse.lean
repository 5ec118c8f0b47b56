import Questionnaire.Calendar.Date
import Questionnaire.Text.Blank

/-!
# Calendar — reading dates

Three forms of date are read.

* `YYYY-MM-DD`, where each number may be preceded by blanks, the year has one
  to four digits or a sign and any number of digits, and month and day one or
  two digits.
* An internet timestamp: a four-digit year, two-digit month and day, `T`, `t`
  or a space, hours, minutes and seconds of two digits, an optional fraction
  of seconds, and `Z` or an offset `±HH:MM` below a day; the date is the one
  written.
* `YYYY-MM-DDTHH:MM`, numbers as in the first form.

A text that is not a date gets the reason: invalid characters, a premature
end, trailing input, or a number out of range.

**Main definitions.** `Fault`, `parseYmd`, `parseTimestamp`, `parseDate`.
-/

namespace Questionnaire
namespace Calendar

/-- **Why a text is not a date.** -/
inductive Fault where
  | outOfRange
  | impossible
  | notEnough
  | invalid
  | tooShort
  | tooLong
  deriving DecidableEq

/-- The text of a fault. -/
def Fault.text : Fault → String
  | .outOfRange => "input is out of range"
  | .impossible => "no possible date and time matching input"
  | .notEnough => "input is not enough for unique date and time"
  | .invalid => "input contains invalid characters"
  | .tooShort => "premature end of input"
  | .tooLong => "trailing input"

/-- Reading a prefix of a text. -/
abbrev Reader (α : Type) := List Char → Except Fault (α × List Char)

/-- Between `min` and `max` digits as a number. -/
def number (min max : Nat) : Reader Nat := fun cs =>
  if cs.length < min then .error .tooShort
  else
    let ds := (cs.take max).takeWhile Char.isDigit
    if ds.length < min then .error .invalid
    else .ok (ds.foldl (fun n c => n * 10 + (c.toNat - '0'.toNat)) 0, cs.drop ds.length)

/-- Exactly the character `ch`. -/
def literal (ch : Char) : Reader Unit := fun cs =>
  match cs with
  | [] => .error .tooShort
  | c :: rest => if c = ch then .ok ((), rest) else .error .invalid

/-- A number of a pattern field: blanks skipped, then `min` to `max` digits. -/
def field (min max : Nat) : Reader Nat := fun cs => number min max (cs.dropWhile Text.isBlank)

/-- A year of a pattern: blanks skipped, then a sign and any digits, or up to four digits. -/
def year : Reader Int := fun cs =>
  match cs.dropWhile Text.isBlank with
  | '-' :: rest => (number 1 rest.length rest).map fun (n, r) => (-(n : Int), r)
  | '+' :: rest => (number 1 rest.length rest).map fun (n, r) => ((n : Int), r)
  | rest => (number 1 4 rest).map fun (n, r) => ((n : Int), r)

/-- Checks a number against a range. -/
def inRange (lo hi n : Nat) : Except Fault Nat := if lo ≤ n ∧ n ≤ hi then .ok n else .error .outOfRange

/-- The date of checked fields, or out of range. -/
def dateOf (y : Int) (m d : Nat) : Except Fault Date :=
  match Date.ofYmd? y m d with
  | some date => .ok date
  | none => .error .outOfRange

/-- The fields `year-month-day` of the pattern forms. -/
def ymdFields (cs : List Char) : Except Fault ((Int × Nat × Nat) × List Char) := do
  let (y, cs) ← year cs
  if y < -(Int.pow 2 31) ∨ Int.pow 2 31 ≤ y then throw .outOfRange
  let ((), cs) ← literal '-' cs
  let (m, cs) ← field 1 2 cs
  let m ← inRange 1 12 m
  let ((), cs) ← literal '-' cs
  let (d, cs) ← field 1 2 cs
  let d ← inRange 1 31 d
  pure ((y, m, d), cs)

/-- **`YYYY-MM-DD`**, the whole text. -/
def parseYmd (s : String) : Except Fault Date := do
  let ((y, m, d), rest) ← ymdFields s.toList
  if !rest.isEmpty then throw .tooLong
  dateOf y m d

/-- **`YYYY-MM-DDTHH:MM`**, the whole text; the date part of it. -/
def parseYmdHm (s : String) : Except Fault Date := do
  let ((y, m, d), cs) ← ymdFields s.toList
  let ((), cs) ← literal 'T' cs
  let (h, cs) ← field 1 2 cs
  let _ ← inRange 0 23 h
  let ((), cs) ← literal ':' cs
  let (mi, cs) ← field 1 2 cs
  let _ ← inRange 0 59 mi
  if !cs.isEmpty then throw .tooLong
  dateOf y m d

/-- A timestamp offset: `Z`, or a sign, two-digit hours, a colon and two-digit minutes. -/
def offset : Reader Int := fun cs =>
  match cs with
  | 'Z' :: rest | 'z' :: rest => .ok (0, rest)
  | c :: rest =>
    if c = '+' ∨ c = '-' ∨ c = '−' then do
      let neg := c != '+'
      match rest with
      | h1 :: h2 :: rest =>
        if !(h1.isDigit && h2.isDigit) then throw .invalid
        let hours := (h1.toNat - '0'.toNat) * 10 + (h2.toNat - '0'.toNat)
        let ((), rest) ← literal ':' rest
        match rest with
        | m1 :: m2 :: rest =>
          if '0' ≤ m1 ∧ m1 ≤ '5' ∧ m2.isDigit then
            let secs : Int := hours * 3600 + ((m1.toNat - '0'.toNat) * 10 + (m2.toNat - '0'.toNat)) * 60
            pure (if neg then -secs else secs, rest)
          else if '6' ≤ m1 ∧ m1 ≤ '9' ∧ m2.isDigit then throw .outOfRange
          else throw .invalid
        | _ => throw .tooShort
      | _ => throw .tooShort
    else .error .invalid
  | [] => .error .tooShort

/-- **An internet timestamp**, the whole text; the date written in it. -/
def parseTimestamp (s : String) : Except Fault Date := do
  let (y, cs) ← number 4 4 s.toList
  let ((), cs) ← literal '-' cs
  let (m, cs) ← number 2 2 cs
  let m ← inRange 1 12 m
  let ((), cs) ← literal '-' cs
  let (d, cs) ← number 2 2 cs
  let d ← inRange 1 31 d
  let cs ← match cs with
    | c :: rest => if c = 'T' ∨ c = 't' ∨ c = ' ' then pure rest else throw Fault.invalid
    | [] => throw Fault.tooShort
  let (h, cs) ← number 2 2 cs
  let _ ← inRange 0 23 h
  let ((), cs) ← literal ':' cs
  let (mi, cs) ← number 2 2 cs
  let _ ← inRange 0 59 mi
  let ((), cs) ← literal ':' cs
  let (sec, cs) ← number 2 2 cs
  let _ ← inRange 0 60 sec
  let cs ← match cs with
    | '.' :: rest => do
      let (_, r) ← number 1 9 rest
      pure (r.dropWhile Char.isDigit)
    | _ => pure cs
  let (off, cs) ← offset cs
  if off.natAbs > (23 * 60 + 59) * 60 then throw .outOfRange
  if !cs.isEmpty then throw .tooLong
  dateOf (y : Int) m d

/-- **Reads a date** in any of the three forms, after trimming blanks. -/
def parseDate (s : String) : Option Date :=
  let t := Text.trim s
  match parseYmd t with
  | .ok d => some d
  | .error _ =>
    match parseTimestamp t with
    | .ok d => some d
    | .error _ =>
      match parseYmdHm t with
      | .ok d => some d
      | .error _ => none

end Calendar
end Questionnaire
