import Questionnaire.Decimal.Binary

/-!
# Json — values

A JSON value as a reader produces it. A number keeps the form it was read in:
a natural number below `2^64`, a negative integer down to `-2^63`, or a
double for everything else. An object keeps its entries as a list, so one
type serves both the document-order form of a text (duplicate keys kept)
and the canonical form in which keys are sorted and the last duplicate wins.

**Main definitions.** `Value.normalize` gives the canonical form;
`Num.toFloat` reads any number as a double.
-/

namespace Questionnaire
namespace Json

/-- **A number as read.** `nat n` holds `n < 2^64`, `neg n` holds
`-2^63 ≤ n < 0`; any other number, and every number written with a fraction
or an exponent, is a `float`. -/
inductive Num where
  | nat (n : Nat)
  | neg (n : Int)
  | float (x : Float)

/-- A JSON value; an object's entries in list order. -/
inductive Value where
  | null
  | bool (b : Bool)
  | num (n : Num)
  | str (s : String)
  | arr (items : List Value)
  | obj (entries : List (String × Value))

instance : Inhabited Value := ⟨.null⟩

namespace Num

/-- The number as a double: integers round to the nearest double. -/
def toFloat : Num → Float
  | .nat n => Decimal.Binary.ofNat n
  | .neg n => Decimal.Binary.ofRatio true n.natAbs 1
  | .float x => x

end Num

namespace Value

/-- Puts `(k, v)` into entries sorted by key, replacing an entry of the same key. -/
def insertSorted (k : String) (v : Value) : List (String × Value) → List (String × Value)
  | [] => [(k, v)]
  | (k', v') :: rest =>
    if k < k' then (k, v) :: (k', v') :: rest
    else if k = k' then (k, v) :: rest
    else (k', v') :: insertSorted k v rest

mutual

/-- **The canonical form**: every object's keys sorted, the last of
duplicate keys kept. -/
def normalize : Value → Value
  | .arr items => .arr (normalizeItems items)
  | .obj entries => .obj (normalizeEntries [] entries)
  | v => v

/-- `normalize` on each item. -/
def normalizeItems : List Value → List Value
  | [] => []
  | v :: rest => normalize v :: normalizeItems rest

/-- Inserts each entry, normalized, into the sorted accumulator, in order. -/
def normalizeEntries (acc : List (String × Value)) : List (String × Value) → List (String × Value)
  | [] => acc
  | (k, v) :: rest => normalizeEntries (insertSorted k (normalize v) acc) rest

end

mutual

/-- How deeply arrays and objects nest in a value; a scalar has depth 0. -/
def depth : Value → Nat
  | .arr items => 1 + depthItems items
  | .obj entries => 1 + depthEntries entries
  | _ => 0

/-- The greatest depth of the items. -/
def depthItems : List Value → Nat
  | [] => 0
  | v :: rest => max v.depth (depthItems rest)

/-- The greatest depth of the entries' values. -/
def depthEntries : List (String × Value) → Nat
  | [] => 0
  | (_, v) :: rest => max v.depth (depthEntries rest)

end

/-- The value of key `k` in an object: the first entry with that key. -/
def get? (v : Value) (k : String) : Option Value :=
  match v with
  | .obj entries => entries.lookup k
  | _ => none

/-- Whether the value is an array. -/
def isArray : Value → Bool
  | .arr _ => true
  | _ => false

/-- Whether the value is `null`. -/
def isNull : Value → Bool
  | .null => true
  | _ => false

end Value

end Json
end Questionnaire
