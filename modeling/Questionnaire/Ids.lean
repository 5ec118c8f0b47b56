/-!
# Ids — sets and maps keyed by field id

Field ids key every collection of the library: the visible and required
sets, the answers, the error messages. Each is a list sorted by id without
repeats, so its order is the order a reader sees, two collections with the
same content are equal lists, and every operation is one walk down the list.

**Main definitions.** `IdSet` with `insert`, `contains`, `ofList`; `IdMap`
with `insert`, `erase`, `get?`, `ofList` (a later entry wins).
-/

namespace Questionnaire

/-- **A set of ids**, sorted, without repeats. -/
structure IdSet where
  toList : List String := []
  deriving DecidableEq, Inhabited

namespace IdSet

/-- Adds an id in its sorted place. -/
def insertSorted (k : String) : List String → List String
  | [] => [k]
  | k' :: rest => if k < k' then k :: k' :: rest else if k = k' then k' :: rest
    else k' :: insertSorted k rest

/-- The set with `k` added. -/
def insert (s : IdSet) (k : String) : IdSet := ⟨insertSorted k s.toList⟩

/-- Whether `k` is in the set. -/
def contains (s : IdSet) (k : String) : Bool := s.toList.contains k

/-- The set of the ids in a list. -/
def ofList (ks : List String) : IdSet := ks.foldl insert {}

/-- The empty set. -/
def empty : IdSet := {}

/-- How many ids the set holds. -/
def size (s : IdSet) : Nat := s.toList.length

end IdSet

/-- **A map from ids**, sorted by id, one entry per id. -/
structure IdMap (α : Type) where
  toList : List (String × α) := []

namespace IdMap

variable {α : Type}

/-- Puts `(k, v)` in its sorted place, replacing an entry for `k`. -/
def insertSorted (k : String) (v : α) : List (String × α) → List (String × α)
  | [] => [(k, v)]
  | (k', v') :: rest =>
    if k < k' then (k, v) :: (k', v') :: rest
    else if k = k' then (k, v) :: rest
    else (k', v') :: insertSorted k v rest

/-- The map with `k` mapped to `v`. -/
def insert (m : IdMap α) (k : String) (v : α) : IdMap α := ⟨insertSorted k v m.toList⟩

/-- The map without an entry for `k`. -/
def erase (m : IdMap α) (k : String) : IdMap α := ⟨m.toList.filter (fun e => e.1 != k)⟩

/-- The value of `k`. -/
def get? (m : IdMap α) (k : String) : Option α := m.toList.lookup k

/-- Whether `k` has an entry. -/
def contains (m : IdMap α) (k : String) : Bool := (m.get? k).isSome

/-- The ids with an entry, in order. -/
def keys (m : IdMap α) : List String := m.toList.map Prod.fst

/-- The map of a list of entries; of two entries for one id the later wins. -/
def ofList (l : List (String × α)) : IdMap α := l.foldl (fun m e => m.insert e.1 e.2) {}

/-- The empty map. -/
def empty : IdMap α := {}

/-- Whether the map has no entry. -/
def isEmpty (m : IdMap α) : Bool := m.toList.isEmpty

/-- How many entries the map has. -/
def size (m : IdMap α) : Nat := m.toList.length

/-- The map with the entries of `other` added, replacing those of the same ids. -/
def union (m other : IdMap α) : IdMap α := other.toList.foldl (fun acc e => acc.insert e.1 e.2) m

/-- The entries whose ids satisfy `p`. -/
def filter (m : IdMap α) (p : String → Bool) : IdMap α := ⟨m.toList.filter (fun e => p e.1)⟩

instance : Inhabited (IdMap α) := ⟨{}⟩

end IdMap

end Questionnaire
