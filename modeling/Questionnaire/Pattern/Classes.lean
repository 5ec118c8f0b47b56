import Questionnaire.Pattern.Syntax
import Questionnaire.Pattern.Unicode.Category
import Questionnaire.Pattern.Unicode.Script
import Questionnaire.Pattern.Unicode.ScriptExtension
import Questionnaire.Pattern.Unicode.Property
import Questionnaire.Pattern.Unicode.Fold
import Questionnaire.Pattern.Unicode.Age
import Questionnaire.Pattern.Unicode.Break

/-!
# Pattern — the sets classes stand for

The code points of `\d`, `\s`, `\w`, of the ASCII classes, and of the
Unicode classes `\p{..}`, and the closure of a set under simple case
folding.

A Unicode class names a binary property, a general category or a script;
names are compared loosely: case, blanks, underscores and hyphens do not
count, nor does a leading `is`. A bare name is tried as a property first
(except `cf`, `sc` and `lc`, which are categories), then as a category,
then as a script. `name=value` names a category, a script, a script
extension, an age or a segmentation class by value; a class by age holds
the code points of that version and of every earlier one.

**Main definitions.** `perlSet`, `asciiSet`, `querySet`, `CharSet.caseFold`.
-/

namespace Questionnaire
namespace Pattern

open Unicode

/-- **Loose form of a name**: ASCII only, lower case, without blanks,
underscores, hyphens or a leading `is`. -/
def looseName (s : String) : String :=
  let cs := s.toList
  let (stripped, body) := match cs with
    | a :: b :: rest => if (a = 'i' ∨ a = 'I') ∧ (b = 's' ∨ b = 'S') then (true, rest) else (false, cs)
    | _ => (false, cs)
  let kept := body.filterMap fun c =>
    if c = ' ' ∨ c = '_' ∨ c = '-' then none
    else if 'A' ≤ c ∧ c ≤ 'Z' then some (Char.ofNat (c.toNat + 32))
    else if c.toNat ≤ 0x7F then some c else none
  if stripped ∧ kept = ['c'] then "isc" else String.ofList kept

/-- The set of a table entry whose names include `name`. -/
def tableSet? (table : List (List String × String)) (name : String) : Option CharSet :=
  (table.find? (fun e => e.1.contains name)).map fun e => CharSet.ofText e.2

/-- The word characters. -/
def wordSet : CharSet := CharSet.ofText wordText

/-- The decimal digits. -/
def digitSet : CharSet := (tableSet? categoryTable "nd").getD {}

/-- The white space. -/
def spaceSet : CharSet := (tableSet? binaryTable "White_Space").getD {}

/-- **The set of `\d`, `\s` or `\w`**, in Unicode or in ASCII. -/
def perlSet (kind : PerlClass) (unicode : Bool) : CharSet :=
  match kind, unicode with
  | .digit, true => digitSet
  | .space, true => spaceSet
  | .word, true => wordSet
  | .digit, false => .ofRanges [(0x30, 0x39)]
  | .space, false => .ofRanges [(9, 13), (0x20, 0x20)]
  | .word, false => .ofRanges [(0x30, 0x39), (0x41, 0x5A), (0x5F, 0x5F), (0x61, 0x7A)]

/-- **The set of an ASCII class.** -/
def asciiSet : AsciiClass → CharSet
  | .alnum => .ofRanges [(0x30, 0x39), (0x41, 0x5A), (0x61, 0x7A)]
  | .alpha => .ofRanges [(0x41, 0x5A), (0x61, 0x7A)]
  | .ascii => .ofRanges [(0, 0x7F)]
  | .blank => .ofRanges [(9, 9), (0x20, 0x20)]
  | .cntrl => .ofRanges [(0, 0x1F), (0x7F, 0x7F)]
  | .digit => .ofRanges [(0x30, 0x39)]
  | .graph => .ofRanges [(0x21, 0x7E)]
  | .lower => .ofRanges [(0x61, 0x7A)]
  | .print => .ofRanges [(0x20, 0x7E)]
  | .punct => .ofRanges [(0x21, 0x2F), (0x3A, 0x40), (0x5B, 0x60), (0x7B, 0x7E)]
  | .space => .ofRanges [(9, 13), (0x20, 0x20)]
  | .upper => .ofRanges [(0x41, 0x5A)]
  | .word => .ofRanges [(0x30, 0x39), (0x41, 0x5A), (0x5F, 0x5F), (0x61, 0x7A)]
  | .xdigit => .ofRanges [(0x30, 0x39), (0x41, 0x46), (0x61, 0x66)]

/-- The set of a general category by loose name, with `any`, `assigned` and `ascii`. -/
def categorySet? (name : String) : Option CharSet :=
  match name with
  | "any" => some CharSet.full
  | "assigned" => (tableSet? categoryTable "cn").map CharSet.complement
  | "ascii" => some (.ofRanges [(0, 0x7F)])
  | _ => tableSet? categoryTable name

/-- The canonical name of a property by loose name. -/
def propertyName? (name : String) : Option String := propertyNames.lookup name

/-- The set of a binary property by canonical name. -/
def binarySet? (canonical : String) : Option CharSet := tableSet? binaryTable canonical

/-- The set of a script by loose name: a known script without code points
has no set, and an unknown name is `none`. -/
def scriptSet? (table : List (List String × String)) (name : String) : Option (Except Fault CharSet) :=
  match tableSet? table name with
  | some s => some (.ok s)
  | none => if scriptsWithoutCodePoints.contains name then some (.error .propertyValueNotFound) else none

/-- The code points assigned by the Unicode version of a loose name or by
an earlier one. -/
def ageSet? (name : String) : Option CharSet :=
  match ageTable.findIdx? (fun e => e.1.contains name) with
  | some i => some ((ageTable.take (i + 1)).foldl (fun acc e => acc.union (CharSet.ofText e.2)) CharSet.empty)
  | none => none

/-- The set of a name standing alone. -/
def nameSet (raw : String) : Except Fault CharSet :=
  let n := looseName raw
  let asProperty := if n = "cf" ∨ n = "sc" ∨ n = "lc" then none else propertyName? n
  match asProperty with
  | some canonical =>
    match binarySet? canonical with
    | some s => .ok s
    | none => .error .propertyNotFound
  | none =>
    match categorySet? n with
    | some s => .ok s
    | none =>
      match scriptSet? scriptTable n with
      | some r => r
      | none => .error .propertyNotFound

/-- **The set of a Unicode class query.** -/
def querySet : Query → Except Fault CharSet
  | .letter c => nameSet (String.singleton c)
  | .name s => nameSet s
  | .byValue p v =>
    let value := looseName v
    match propertyName? (looseName p) with
    | none => .error .propertyNotFound
    | some "General_Category" =>
      match categorySet? value with
      | some s => .ok s
      | none => .error .propertyValueNotFound
    | some "Script" => ((scriptSet? scriptTable value).getD (.error .propertyValueNotFound))
    | some "Script_Extensions" => ((scriptSet? scriptExtensionTable value).getD (.error .propertyValueNotFound))
    | some "Age" => (ageSet? value).elim (.error .propertyValueNotFound) .ok
    | some "Grapheme_Cluster_Break" =>
      (tableSet? graphemeBreakTable value).elim (.error .propertyValueNotFound) .ok
    | some "Word_Break" => (tableSet? wordBreakTable value).elim (.error .propertyValueNotFound) .ok
    | some "Sentence_Break" => (tableSet? sentenceBreakTable value).elim (.error .propertyValueNotFound) .ok
    | some _ => .error .propertyValueNotFound

/-- The classes of simple case folding, as lists of code points. -/
def foldClasses : List (List Nat) :=
  ((foldText.splitOn " ").filter (fun s => !s.isEmpty)).map fun cls =>
    (cls.splitOn ",").filterMap CharSet.readHex

/-- **Closure under simple case folding**: every member of a folding class
that meets the set joins it. -/
def CharSet.caseFold (s : CharSet) : CharSet :=
  let extra := foldClasses.filter (fun cls => cls.any s.mem)
  s.union (CharSet.ofRanges (extra.flatten.map fun c => (c, c)))

/-- Closure under ASCII case: each ASCII letter's other case joins. -/
def CharSet.asciiCaseFold (s : CharSet) : CharSet :=
  let letters := (List.range 26).flatMap fun i => [0x41 + i, 0x61 + i]
  let extra := letters.filter fun c =>
    s.mem c ∨ s.mem (if c < 0x61 then c + 32 else c - 32)
  s.union (CharSet.ofRanges (extra.map fun c => (c, c)))

end Pattern
end Questionnaire
