import Mathlib.Data.List.Sort
import Mathlib.Data.String.Basic
import Questionnaire.Ids
/-!
# Ids — what the id collections hold

The id sets and maps, read through `contains` and `get?`. `insert` adds one
id, `ofList` holds exactly the ids of its list, and a map built entry by
entry answers an id with one of that id's entries, or with nothing when the
list has none. These lookup facts hold of any underlying list.

The sorted order matters twice. For **canonical form**: a set that `insert`
built is sorted without repeats, and two such sets with the same members are
the same list (`IdSet.eq_of_contains_eq`). So a set that depends only on
which ids went in does not depend on the order they went in. And for
**union**: a map that `insert` built holds each id once, so adding its
entries to another map gives each id its own entry (`IdMap.get?_union`).
-/

namespace Questionnaire

namespace IdSet

variable {s t : IdSet} {k x : String} {l : List String}

@[simp] theorem contains_iff_mem : s.contains x = true ↔ x ∈ s.toList := by
  simp [contains]

theorem mem_insertSorted : x ∈ insertSorted k l ↔ x = k ∨ x ∈ l := by
  induction l with
  | nil => simp [insertSorted]
  | cons k' rest ih =>
    simp only [insertSorted]
    split_ifs with hlt heq
    · simp
    · subst heq
      simp
    · simp only [List.mem_cons, ih]
      tauto

@[simp] theorem mem_toList_insert : x ∈ (s.insert k).toList ↔ x = k ∨ x ∈ s.toList :=
  mem_insertSorted

theorem mem_toList_foldl_insert (ks : List String) :
    x ∈ (ks.foldl insert s).toList ↔ x ∈ s.toList ∨ x ∈ ks := by
  induction ks generalizing s with
  | nil => simp
  | cons k ks ih =>
    rw [List.foldl_cons, ih, mem_toList_insert, List.mem_cons]
    tauto

/-- **The set of a list holds exactly its ids.** -/
@[simp] theorem mem_toList_ofList : x ∈ (ofList l).toList ↔ x ∈ l := by
  rw [ofList, mem_toList_foldl_insert]
  simp

/-- **Sorted without repeats**, the shape `insert` keeps. -/
def Sorted (s : IdSet) : Prop := s.toList.Pairwise (· < ·)

theorem pairwise_insertSorted (h : l.Pairwise (· < ·)) : (insertSorted k l).Pairwise (· < ·) := by
  induction l with
  | nil => simp [insertSorted]
  | cons k' rest ih =>
    rw [List.pairwise_cons] at h
    simp only [insertSorted]
    split_ifs with hlt heq
    · refine List.Pairwise.cons (fun y hy => ?_) (List.pairwise_cons.2 h)
      rcases List.mem_cons.1 hy with rfl | hy
      · exact hlt
      · exact lt_trans hlt (h.1 y hy)
    · exact List.pairwise_cons.2 h
    -- neither before nor equal: `k'` stays first and `k` goes further in
    · have hgt : k' < k := lt_of_le_of_ne (not_lt.1 hlt) (Ne.symm heq)
      refine List.Pairwise.cons (fun y hy => ?_) (ih h.2)
      rcases mem_insertSorted.1 hy with rfl | hy
      · exact hgt
      · exact h.1 y hy

theorem sorted_insert (h : s.Sorted) : (s.insert k).Sorted := pairwise_insertSorted h

theorem sorted_empty : (({} : IdSet)).Sorted := List.Pairwise.nil

theorem sorted_foldl_insert (ks : List String) (h : s.Sorted) : (ks.foldl insert s).Sorted := by
  induction ks generalizing s with
  | nil => exact h
  | cons k ks ih => exact ih (sorted_insert h)

theorem sorted_ofList : (ofList l).Sorted := sorted_foldl_insert l sorted_empty

/-- **Canonical form.** Two sorted sets with the same members are equal. -/
theorem eq_of_contains_eq (hs : s.Sorted) (ht : t.Sorted) (h : ∀ x, s.contains x = t.contains x) :
    s = t := by
  have hl : s.toList = t.toList := List.Pairwise.eq_of_mem_iff hs ht fun x => by
    rw [← contains_iff_mem, ← contains_iff_mem, h x]
  cases s
  cases t
  simp only at hl
  rw [hl]

end IdSet

namespace IdMap

variable {α : Type} {m o : IdMap α} {k x : String} {v : α}

@[simp] theorem get?_empty : (({} : IdMap α)).get? x = none := rfl

theorem lookup_cons_eq_ite (k' : String) (v' : α) (l : List (String × α)) :
    ((k', v') :: l).lookup x = if x = k' then some v' else l.lookup x := by
  rw [List.lookup_cons]
  by_cases hx : x = k'
  · simp [hx]
  · simp [beq_eq_false_iff_ne.2 hx, hx]

theorem lookup_insertSorted (l : List (String × α)) :
    (insertSorted k v l).lookup x = if x = k then some v else l.lookup x := by
  induction l with
  | nil => simp [insertSorted, lookup_cons_eq_ite]
  | cons e rest ih =>
    obtain ⟨k', v'⟩ := e
    rw [insertSorted]
    by_cases hlt : k < k'
    · simp only [hlt, if_true, lookup_cons_eq_ite]
    by_cases heq : k = k'
    · subst heq
      simp only [hlt, if_false, if_true, lookup_cons_eq_ite]
      by_cases hx : x = k <;> simp [hx]
    -- `(k', v')` stays first and the entry for `k` goes further in
    · simp only [hlt, heq, if_false, lookup_cons_eq_ite, ih]
      by_cases hx : x = k
      · subst hx
        simp [heq]
      · simp [hx]

/-- Looking up after an insert: the new entry for its id, the old ones elsewhere. -/
@[simp] theorem get?_insert : (m.insert k v).get? x = if x = k then some v else m.get? x :=
  lookup_insertSorted m.toList

theorem lookup_filter_ne (l : List (String × α)) :
    (l.filter fun e => e.1 != k).lookup x = if x = k then none else l.lookup x := by
  induction l with
  | nil => simp
  | cons e rest ih =>
    obtain ⟨k', v'⟩ := e
    rw [List.filter_cons]
    by_cases hk : k' = k
    · subst hk
      simp only [bne_self_eq_false, Bool.false_eq_true, if_false, ih, lookup_cons_eq_ite]
      by_cases hx : x = k' <;> simp [hx]
    · simp only [bne_iff_ne, ne_eq, hk, not_false_eq_true, if_true, lookup_cons_eq_ite, ih]
      by_cases hx : x = k'
      · subst hx
        simp [hk]
      · simp [hx]

/-- Looking up after an erase: nothing for the erased id, the old entries elsewhere. -/
@[simp] theorem get?_erase : (m.erase k).get? x = if x = k then none else m.get? x :=
  lookup_filter_ne m.toList

/-- **The ids with an entry** are those `get?` answers. -/
theorem mem_keys : x ∈ m.keys ↔ (m.get? x).isSome := by
  simp only [keys, get?, List.lookup_isSome_iff, List.mem_map, beq_iff_eq]
  constructor
  · rintro ⟨p, hp, rfl⟩
    exact ⟨p, hp, rfl⟩
  · rintro ⟨p, hp, rfl⟩
    exact ⟨p, hp, rfl⟩

theorem mem_keys_of_get? (h : m.get? x = some v) : x ∈ m.keys := by
  simp [mem_keys, h]

theorem get?_eq_none_iff : m.get? x = none ↔ x ∉ m.keys := by
  rw [mem_keys, Option.not_isSome_iff_eq_none]

theorem isEmpty_iff : m.isEmpty = true ↔ ∀ x, m.get? x = none := by
  simp only [isEmpty, List.isEmpty_iff, get?, List.lookup_eq_none_iff, bne_iff_ne, ne_eq]
  constructor
  · rintro h x p hp
    simp [h] at hp
  · intro h
    cases hm : m.toList with
    | nil => rfl
    | cons p rest => exact absurd rfl (h p.1 p (by simp [hm]))

/-- Inserting a list of entries, the way `ofList` and `union` do. -/
theorem get?_foldl_insert_eq_none (l : List (String × α)) :
    (l.foldl (fun m e => m.insert e.1 e.2) m).get? x = none ↔
      m.get? x = none ∧ x ∉ l.map Prod.fst := by
  induction l generalizing m with
  | nil => simp
  | cons e l ih =>
    rw [List.foldl_cons, ih, get?_insert]
    by_cases hx : x = e.1 <;> simp [hx]

theorem mem_of_get?_foldl_insert {l : List (String × α)}
    (h : (l.foldl (fun m e => m.insert e.1 e.2) m).get? x = some v) :
    m.get? x = some v ∨ (x, v) ∈ l := by
  induction l generalizing m with
  | nil => exact Or.inl h
  | cons e l ih =>
    rcases ih h with h | h
    · rw [get?_insert] at h
      split_ifs at h with hx
      · cases h
        subst hx
        exact Or.inr List.mem_cons_self
      · exact Or.inl h
    · exact Or.inr (List.mem_cons_of_mem e h)

/-- **A map of a list has an entry exactly for the ids of the list.** -/
theorem get?_ofList_eq_none {l : List (String × α)} :
    (ofList l).get? x = none ↔ x ∉ l.map Prod.fst := by
  rw [ofList, get?_foldl_insert_eq_none]
  simp

/-- And the entry it has is one of the list's entries for that id. -/
theorem mem_of_get?_ofList {l : List (String × α)} (h : (ofList l).get? x = some v) :
    (x, v) ∈ l := by
  rcases mem_of_get?_foldl_insert h with h | h
  · simp at h
  · exact h

/-- **A map of a list answers an id with its entry**, when every entry the
list has for that id is the same. -/
theorem get?_ofList_of_mem {l : List (String × α)} (hmem : (x, v) ∈ l)
    (huniq : ∀ v', (x, v') ∈ l → v' = v) : (ofList l).get? x = some v := by
  have hne : (ofList l).get? x ≠ none := by
    rw [ne_eq, get?_ofList_eq_none, not_not]
    exact List.mem_map.2 ⟨(x, v), hmem, rfl⟩
  obtain ⟨v', hv'⟩ := Option.ne_none_iff_exists'.1 hne
  rw [hv', huniq v' (mem_of_get?_ofList hv')]

/-- **A map of entries each keyed by its own id**, one per id of a list,
answers an id of the list with that id's entry. -/
theorem get?_ofList_filterMap {f : String → Option (String × α)} {l : List String}
    (hf : ∀ i e, f i = some e → e.1 = i) :
    (ofList (l.filterMap f)).get? x = some v ↔ x ∈ l ∧ f x = some (x, v) := by
  constructor
  · intro h
    obtain ⟨i, hi, he⟩ := List.mem_filterMap.1 (mem_of_get?_ofList h)
    obtain rfl : x = i := hf i (x, v) he
    exact ⟨hi, he⟩
  · rintro ⟨hx, hfx⟩
    refine get?_ofList_of_mem (List.mem_filterMap.2 ⟨x, hx, hfx⟩) fun v' hv' => ?_
    -- every entry for `x` is the one `f` gives `x`
    obtain ⟨i, -, he⟩ := List.mem_filterMap.1 hv'
    obtain rfl : x = i := hf i (x, v') he
    rw [hfx, Option.some.injEq, Prod.mk.injEq] at he
    exact he.2.symm

/-- An id the union has an entry for has one in either map. -/
theorem get?_union_eq_none : (m.union o).get? x = none ↔ m.get? x = none ∧ o.get? x = none := by
  rw [union, get?_foldl_insert_eq_none, get?_eq_none_iff (m := o)]
  exact Iff.rfl

/-- Looking up after erasing a list of ids, as `next` drops a page's messages. -/
theorem get?_foldl_erase (ks : List String) :
    (ks.foldl erase m).get? x = if x ∈ ks then none else m.get? x := by
  induction ks generalizing m with
  | nil => simp
  | cons k ks ih =>
    rw [List.foldl_cons, ih, get?_erase]
    by_cases hx : x = k <;> simp [hx]

theorem lookup_filter (p : String → Bool) (l : List (String × α)) :
    (l.filter fun e => p e.1).lookup x = if p x then l.lookup x else none := by
  induction l with
  | nil => simp
  | cons e rest ih =>
    obtain ⟨k', v'⟩ := e
    rw [List.filter_cons, lookup_cons_eq_ite]
    by_cases hx : x = k'
    · subst hx
      by_cases hp : p x
      · simp [hp]
      · simp [hp, ih]
    · split <;> simp [hx, ih, lookup_cons_eq_ite]

/-- Looking up after keeping the ids that satisfy `p`. -/
@[simp] theorem get?_filter (p : String → Bool) :
    (m.filter p).get? x = if p x then m.get? x else none :=
  lookup_filter p m.toList

theorem mem_keys_insert : x ∈ (m.insert k v).keys ↔ x = k ∨ x ∈ m.keys := by
  rw [mem_keys, mem_keys, get?_insert]
  by_cases hx : x = k <;> simp [hx]

/-- **Sorted by id without repeats**, the shape `insert` keeps. -/
def Sorted (m : IdMap α) : Prop := m.keys.Pairwise (· < ·)

theorem pairwise_insertSorted {l : List (String × α)} (h : (l.map Prod.fst).Pairwise (· < ·)) :
    ((insertSorted k v l).map Prod.fst).Pairwise (· < ·) := by
  induction l with
  | nil => simp [insertSorted]
  | cons e rest ih =>
    obtain ⟨k', v'⟩ := e
    rw [List.map_cons, List.pairwise_cons] at h
    simp only [insertSorted]
    split_ifs with hlt heq
    · refine List.Pairwise.cons (fun y hy => ?_) (List.pairwise_cons.2 h)
      rcases List.mem_cons.1 hy with rfl | hy
      · exact hlt
      · exact lt_trans hlt (h.1 y hy)
    · subst heq
      exact List.pairwise_cons.2 h
    -- neither before nor equal: `k'` stays first and `k` goes further in
    · have hgt : k' < k := lt_of_le_of_ne (not_lt.1 hlt) (Ne.symm heq)
      rw [List.map_cons]
      refine List.Pairwise.cons (fun y hy => ?_) (ih h.2)
      rcases (mem_keys_insert (m := ⟨rest⟩)).1 hy with rfl | hy
      · exact hgt
      · exact h.1 y hy

theorem sorted_insert (h : m.Sorted) : (m.insert k v).Sorted := pairwise_insertSorted h

theorem sorted_foldl_insert (l : List (String × α)) (h : m.Sorted) :
    (l.foldl (fun m e => m.insert e.1 e.2) m).Sorted := by
  induction l generalizing m with
  | nil => exact h
  | cons e l ih => exact ih (sorted_insert h)

/-- A map built from a list is sorted. -/
theorem sorted_ofList (l : List (String × α)) : (ofList l).Sorted :=
  sorted_foldl_insert l List.Pairwise.nil

theorem nodup_keys (h : m.Sorted) : m.keys.Nodup := h.imp ne_of_lt

/-- Inserting entries with distinct ids: each id takes its entry, the others keep theirs. -/
theorem get?_foldl_insert_of_nodup {l : List (String × α)} (hl : (l.map Prod.fst).Nodup) :
    (l.foldl (fun m e => m.insert e.1 e.2) m).get? x = (l.lookup x).or (m.get? x) := by
  induction l generalizing m with
  | nil => simp
  | cons e l ih =>
    obtain ⟨k, v⟩ := e
    rw [List.map_cons, List.nodup_cons] at hl
    rw [List.foldl_cons, ih hl.2, get?_insert, lookup_cons_eq_ite]
    by_cases hx : x = k
    · subst hx
      have hnone : l.lookup x = none := (get?_eq_none_iff (m := ⟨l⟩)).2 hl.1
      simp [hnone]
    · simp [hx]

/-- **The union answers from `o` first**, when `o` is sorted. -/
theorem get?_union (ho : o.Sorted) : (m.union o).get? x = (o.get? x).or (m.get? x) :=
  get?_foldl_insert_of_nodup (nodup_keys ho)

end IdMap

end Questionnaire
