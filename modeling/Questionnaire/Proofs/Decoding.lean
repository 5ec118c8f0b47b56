import Mathlib.Data.List.Nodup
import Mathlib.Data.String.Basic
import Questionnaire.Schema.Json
/-!
# Json — reading back what was written

The writers of the library emit each record as an object whose keys are
distinct, a required key always, an optional one only when its value is
there. This file gives the facts that reading such an object back rests on,
once for every record type.

A record is read entry by entry into a draft; an entry with no field of that
name is skipped. When the keys are distinct and every required field is among
them, reading the object is just reading its entries in order
(`Tree.record_obj`): the check for repeated keys never fires, and no field is
missing. An optional entry that is left out leaves the draft's default
(`Schema.foldlM_optEntry`). Each primitive of the reader then reads back the
value its writer gives: an optional part that is there, a count within its
bound, a name, an array item by item (`Tree.seq_of_forall`).

A JSON value itself is read back as its canonical form, every object's keys
sorted with the last of a repeated key kept. A value that is already
canonical (`Value.Canonical`: keys strictly increasing at every depth, as in
the maps of the serialisation library) comes back unchanged
(`Value.normalize_of_canonical`).
-/

namespace Questionnaire
namespace Json

/-! ## Canonical values -/

namespace Value

/-- **A value in canonical form**: at every depth an object's keys strictly
increase, so none repeats. -/
inductive Canonical : Value → Prop
  | null : Canonical .null
  | bool (b : Bool) : Canonical (.bool b)
  | num (n : Num) : Canonical (.num n)
  | str (s : String) : Canonical (.str s)
  | arr {items : List Value} : (∀ v ∈ items, Canonical v) → Canonical (.arr items)
  | obj {entries : List (String × Value)} : (entries.map Prod.fst).Pairwise (· < ·) →
      (∀ e ∈ entries, Canonical e.2) → Canonical (.obj entries)

theorem normalizeItems_eq_map (items : List Value) : normalizeItems items = items.map normalize := by
  induction items with
  | nil => rfl
  | cons v rest ih => rw [normalizeItems, ih, List.map_cons]

/-- A key above every key of the entries goes last. -/
theorem insertSorted_of_lt {k : String} {v : Value} {acc : List (String × Value)}
    (h : ∀ k' ∈ acc.map Prod.fst, k' < k) : insertSorted k v acc = acc ++ [(k, v)] := by
  induction acc with
  | nil => rfl
  | cons e rest ih =>
    obtain ⟨k', v'⟩ := e
    have hk' : k' < k := h k' (by simp)
    rw [insertSorted, if_neg (not_lt.2 hk'.le), if_neg (ne_of_gt hk'),
      ih fun k'' hk'' => h k'' (List.mem_cons_of_mem _ hk'')]
    rfl

/-- Entries sorted by key, each already normal, are put in place one after
the other: each new key is above those before it. -/
theorem normalizeEntries_of_sorted :
    ∀ (acc entries : List (String × Value)), ((acc ++ entries).map Prod.fst).Pairwise (· < ·) →
      (∀ e ∈ entries, normalize e.2 = e.2) → normalizeEntries acc entries = acc ++ entries
  | acc, [], _, _ => by simp [normalizeEntries]
  | acc, (k, v) :: rest, hsorted, hnorm => by
    have hv : normalize v = v := hnorm (k, v) List.mem_cons_self
    have hlt : ∀ k' ∈ acc.map Prod.fst, k' < k := by
      rw [List.map_append, List.pairwise_append] at hsorted
      exact fun k' hk' => hsorted.2.2 k' hk' k (by simp)
    rw [normalizeEntries, hv, insertSorted_of_lt hlt,
      normalizeEntries_of_sorted (acc ++ [(k, v)]) rest (by simpa using hsorted)
        fun e he => hnorm e (List.mem_cons_of_mem _ he)]
    simp

/-- **A canonical value is its own canonical form.** -/
theorem normalize_of_canonical {v : Value} (h : v.Canonical) : v.normalize = v := by
  induction h with
  | null | bool | num | str => rfl
  | @arr items _ ih =>
    show Value.arr (normalizeItems items) = .arr items
    rw [normalizeItems_eq_map, List.map_congr_left ih, List.map_id']
  | @obj entries hsorted _ ih =>
    show Value.obj (normalizeEntries [] entries) = .obj entries
    rw [normalizeEntries_of_sorted [] entries (by simpa using hsorted) ih, List.nil_append]

end Value

/-! ## Records -/

namespace Tree

variable {α : Type} {slots : List (Slot Tree α)} {k : String} {x : Value} {d : α}
variable {s : Slot Tree α}

/-- **Reading one entry** into a draft record: the field of its key reads
it, and an entry with no such field is skipped. -/
def readEntry (slots : List (Slot Tree α)) (d : α) (e : String × Value) : Except Error α :=
  match slots.find? (fun s => s.key == e.1) with
  | some s => s.read d e.2
  | none => .ok d

theorem readEntry_of_find?_eq_some (hs : slots.find? (fun s => s.key == k) = some s) :
    readEntry slots d (k, x) = s.read d x := by
  simp [readEntry, hs]

theorem readEntry_of_find?_eq_none (hs : slots.find? (fun s => s.key == k) = none) :
    readEntry slots d (k, x) = .ok d := by
  simp [readEntry, hs]

/-- Reading entries with distinct keys, none seen before, reads them in
order; afterwards every key seen before and every key with a field is seen. -/
theorem recordEntries_of_foldlM (slots : List (Slot Tree α)) :
    ∀ (entries : List (String × Value)) (seen : List String) (d d' : α),
    (entries.map Prod.fst).Nodup → (∀ k ∈ entries.map Prod.fst, k ∉ seen) →
    entries.foldlM (readEntry slots) d = .ok d' →
    ∃ seen', recordEntries slots seen d entries = .ok (d', seen') ∧
      ∀ k, k ∈ seen ∨ (k ∈ entries.map Prod.fst ∧ (slots.find? (·.key == k)).isSome) → k ∈ seen'
  | [], seen, d, d', _, _, h => by
    cases h
    exact ⟨seen, rfl, fun k hk => by simpa using hk⟩
  | (k, x) :: rest, seen, d, d', hnd, hseen, h => by
    rw [List.map_cons, List.nodup_cons] at hnd
    have hk : k ∉ seen := hseen k List.mem_cons_self
    rw [List.foldlM_cons] at h
    cases hs : slots.find? (fun s => s.key == k) with
    | none =>
      -- an entry without a field is skipped
      rw [readEntry_of_find?_eq_none hs] at h
      obtain ⟨seen', hrec, hmem⟩ := recordEntries_of_foldlM slots rest seen d d' hnd.2
        (fun k' hk' => hseen k' (List.mem_cons_of_mem _ hk')) h
      refine ⟨seen', by rw [recordEntries, hs]; exact hrec, fun k' hk' => hmem k' ?_⟩
      rcases hk' with hk' | ⟨hk', hsome⟩
      · exact .inl hk'
      · rcases List.mem_cons.1 hk' with rfl | hk'
        · simp [hs] at hsome
        · exact .inr ⟨hk', hsome⟩
    | some s =>
      -- an entry with a field is read, and its key is seen from then on
      rw [readEntry_of_find?_eq_some hs] at h
      cases hread : s.read d x with
      | error e => rw [hread] at h; cases h
      | ok d₁ =>
        rw [hread] at h
        obtain ⟨seen', hrec, hmem⟩ := recordEntries_of_foldlM slots rest (k :: seen) d₁ d' hnd.2
          (fun k' hk' hk's => by
            rcases List.mem_cons.1 hk's with rfl | hk's
            · exact hnd.1 hk'
            · exact hseen k' (List.mem_cons_of_mem _ hk') hk's) h
        refine ⟨seen', ?_, fun k' hk' => hmem k' ?_⟩
        · rw [recordEntries, hs]
          simp only [List.contains_iff_mem, hk, if_false, hread]
          exact hrec
        · rcases hk' with hk' | ⟨hk', hsome⟩
          · exact .inl (List.mem_cons_of_mem _ hk')
          · rcases List.mem_cons.1 hk' with rfl | hk'
            · exact .inl List.mem_cons_self
            · exact .inr ⟨hk', hsome⟩

/-- **A record from an object whose keys are distinct** is the reading of
its entries in order, when every required field is among them. -/
theorem record_obj (name : String) {entries : List (String × Value)} {d' : α}
    (hnd : (entries.map Prod.fst).Nodup)
    (hreq : ∀ k ∈ (slots.filter (·.required)).map Slot.key, k ∈ entries.map Prod.fst)
    (h : entries.foldlM (readEntry slots) d = .ok d') :
    (Decoder.record name slots d : Tree α) (.obj entries) = .ok d' := by
  obtain ⟨seen, hrec, hmem⟩ := recordEntries_of_foldlM slots entries [] d d' hnd (by simp) h
  have hmissing : missing slots seen = none := by
    rw [missing, Option.map_eq_none_iff, List.find?_eq_none]
    intro s hs
    -- every required field was read, so it is seen
    cases hr : s.required
    · simp
    · have hfind : (slots.find? (·.key == s.key)).isSome := by
        rw [List.find?_isSome]
        exact ⟨s, hs, by simp⟩
      have hkey := hreq s.key (List.mem_map_of_mem (List.mem_filter.2 ⟨hs, hr⟩))
      have hseen := hmem s.key (.inr ⟨hkey, hfind⟩)
      simp [hseen]
  simp [Decoder.record, record, hrec, hmissing]

/-- Reading the first entry into `d₁`, given explicitly where the reading
does not show it. -/
theorem foldlM_cons_of_readEntry {e : String × Value} {rest : List (String × Value)} (d₁ : α)
    (h : readEntry slots d e = .ok d₁) :
    (e :: rest).foldlM (readEntry slots) d = rest.foldlM (readEntry slots) d₁ := by
  rw [List.foldlM_cons, h]
  rfl

theorem foldlM_append_of_ok {l rest : List (String × Value)} {d₁ : α}
    (h : l.foldlM (readEntry slots) d = .ok d₁) :
    (l ++ rest).foldlM (readEntry slots) d = rest.foldlM (readEntry slots) d₁ := by
  rw [List.foldlM_append, h]
  rfl

/-! ## The primitives on values -/

variable {β γ : Type} {v : Value} {b : β}

@[simp] theorem map_apply (g : β → γ) (x : Tree β) : (g <$> x) v = g <$> x v := rfl

/-- An optional part that is there is read by its reader. -/
theorem option_of_ok {inner : Tree β} (hv : v.isNull = false) (h : inner v = .ok b) :
    (Decoder.option inner : Tree (Option β)) v = .ok (some b) := by
  cases v <;> simp_all [Decoder.option, Value.isNull]

theorem natUpTo_of_le {max n : Nat} {name : String} (h : n ≤ max) :
    (Decoder.natUpTo max name : Tree Nat) (.num (.nat n)) = .ok n := by
  simp [Decoder.natUpTo, natUpTo, h]

theorem enumeration_str (vs : List (String × β)) (other : Option β) (s : String) :
    (Decoder.enumeration vs other : Tree β) (.str s) = variant vs other s := rfl

/-- One untagged alternative is read as that alternative. -/
theorem untagged_single {name : String} {dec : Value → Except Error β} (h : dec v = .ok b) :
    (Decoder.untagged name [dec] : Tree β) v = .ok b := by
  simp [Decoder.untagged, Decoder.firstOk, h, Decoder.content, bind, ReaderT.bind, pure,
    ReaderT.pure, Except.bind, Except.pure]

/-- **A list reads back item by item** when each item does. -/
theorem mapM_map_of_forall {dec : Value → Except Error β} {enc : β → Value} :
    ∀ l : List β, (∀ b ∈ l, dec (enc b) = .ok b) → (l.map enc).mapM dec = .ok l
  | [], _ => rfl
  | b :: rest, h => by
    rw [List.map_cons, List.mapM_cons, h b List.mem_cons_self,
      mapM_map_of_forall rest fun b' hb' => h b' (List.mem_cons_of_mem _ hb')]
    rfl

/-- **An array reads back item by item** when each item does. -/
theorem seq_of_forall {dec : Tree β} {enc : β → Value} (l : List β)
    (h : ∀ b ∈ l, dec (enc b) = .ok b) :
    (Decoder.seq dec : Tree (List β)) (.arr (l.map enc)) = .ok l :=
  mapM_map_of_forall l h

theorem seq_string (ts : List String) :
    (Decoder.seq Decoder.string : Tree (List String)) (.arr (ts.map Value.str)) = .ok ts :=
  seq_of_forall ts fun _ _ => rfl

end Tree

end Json

/-! ## Optional entries -/

namespace Schema

open Json

variable {α β : Type} {k : String} {f : β → Value} {o : Option β}

@[simp] theorem nodup_map_fst_optEntry : ((optEntry k f o).map Prod.fst).Nodup := by
  cases o <;> simp [optEntry]

theorem mem_map_fst_optEntry {k' : String} :
    k' ∈ (optEntry k f o).map Prod.fst ↔ o.isSome ∧ k' = k := by
  cases o <;> simp [optEntry]

/-- The keys of an object that begins with an optional entry are distinct
when its key, if there, is not among the rest and the rest are distinct. -/
theorem nodup_optEntry_append {rest : List String} :
    ((optEntry k f o).map Prod.fst ++ rest).Nodup ↔ (o.isSome → k ∉ rest) ∧ rest.Nodup := by
  cases o <;> simp [optEntry]

/-- The other way the writers leave out a missing part. -/
theorem map_getD_eq_optEntry : (o.map fun a => [(k, f a)]).getD [] = optEntry k f o := by
  cases o <;> rfl

/-- **Reading an optional entry**: its field is set when the entry is there,
and the draft keeps its default when it is not. -/
theorem foldlM_optEntry {slots : List (Slot Json.Tree α)} {d : α} (u : α → Option β → α)
    (hread : ∀ a, o = some a → Tree.readEntry slots d (k, f a) = .ok (u d (some a)))
    (hnone : u d none = d) :
    (optEntry k f o).foldlM (Tree.readEntry slots) d = .ok (u d o) := by
  cases o with
  | none =>
    rw [hnone]
    rfl
  | some a =>
    rw [optEntry, List.foldlM_cons, hread a rfl]
    rfl

theorem foldlM_optEntry_append {slots : List (Slot Json.Tree α)} {d : α} {rest : List (String × Value)}
    (u : α → Option β → α)
    (hread : ∀ a, o = some a → Tree.readEntry slots d (k, f a) = .ok (u d (some a)))
    (hnone : u d none = d) :
    (optEntry k f o ++ rest).foldlM (Tree.readEntry slots) d =
      rest.foldlM (Tree.readEntry slots) (u d o) :=
  Tree.foldlM_append_of_ok (foldlM_optEntry u hread hnone)

end Schema

end Questionnaire
