import Mathlib.Data.Fin.SuccPred
import Mathlib.Data.List.Forall2
import Questionnaire.Proofs.Ids
import Questionnaire.Rules.Eval
/-!
# Rules — what one evaluation pass computes

An evaluation pass filters the rules and folds the actions of those that
fire into an outcome, which it then resolves against the fields. This file
reads the pass back as a closed form (`IsPass`), one fact per output:

* the fired indices are the ascending indices of the rules that fire, and
  whether a rule fires reads that rule alone;
* each set of the outcome holds the targets of the actions of its kind among
  the rules that fire (`FiredTarget`), and an unknown action adds nothing;
* a field is visible unless hidden, and required when it is required by
  itself or forced so, unless forced optional.

Everything the pass returns depends on which targets were gathered and not
on the order they came in, since the sets are kept sorted
(`IdSet.eq_of_contains_eq`). So reordering the rules, or the actions of a
rule, changes only the fired indices, which follow the rules to their new
places (`evaluateWithTrace_reorder`); and show actions never change the
derived state (`state_eq_of_sameBut_reveal`).
-/

namespace Questionnaire
namespace Rules

open Schema

variable {l : Limits} {answers : Answers} {known : IdSet} {fields : List Field}
variable {rules rules' : List Rule} {k : ActionKind} {x : String}

/-! ## Gathering actions -/

namespace Outcome

variable {o o' : Outcome} {a : Action}

/-- The ids an outcome gathered for one kind of action; none for an unknown action. -/
def ids (o : Outcome) : ActionKind → IdSet
  | .hide => o.hidden
  | .reveal => o.shown
  | .require => o.forceRequired
  | .optional => o.forceOptional
  | .unknown => {}

/-- **One action adds its target to the set of its kind**, unless the kind is unknown. -/
theorem contains_ids_apply :
    ((o.apply a).ids k).contains x = true ↔
      (o.ids k).contains x = true ∨ (k ≠ .unknown ∧ a.kind = k ∧ a.target = x) := by
  obtain ⟨ka, t⟩ := a
  cases ka <;> cases k <;> simp [apply, ids, eq_comm (a := x), or_comm]

theorem contains_ids_applyAll (as : List Action) :
    ((o.applyAll as).ids k).contains x = true ↔
      (o.ids k).contains x = true ∨ (k ≠ .unknown ∧ ∃ a ∈ as, a.kind = k ∧ a.target = x) := by
  induction as generalizing o with
  | nil => simp [applyAll]
  | cons a as ih =>
    rw [applyAll, List.foldl_cons, ← applyAll, ih, contains_ids_apply]
    simp only [List.mem_cons, exists_eq_or_imp]
    tauto

/-- **Sorted**: every set of the outcome is, so it is determined by its members. -/
def Sorted (o : Outcome) : Prop := ∀ k, (o.ids k).Sorted

@[simp] theorem ids_baseline : baseline.ids k = {} := by
  cases k <;> rfl

theorem sorted_baseline : baseline.Sorted := by
  intro k
  rw [ids_baseline]
  exact IdSet.sorted_empty

theorem sorted_apply (h : o.Sorted) : (o.apply a).Sorted := by
  intro k
  obtain ⟨ka, t⟩ := a
  have hk := h k
  cases ka <;> cases k <;> simp_all [apply, ids, IdSet.sorted_insert]

theorem sorted_applyAll (as : List Action) (h : o.Sorted) : (o.applyAll as).Sorted := by
  induction as generalizing o with
  | nil => exact h
  | cons a as ih => exact ih (sorted_apply h)

/-- Two outcomes that gathered the same ids for every kind are equal. -/
theorem ext_ids (h : ∀ k, o.ids k = o'.ids k) : o = o' := by
  have hh := h .hide
  have hs := h .reveal
  have hr := h .require
  have hp := h .optional
  cases o
  cases o'
  simp_all [ids]

/-- Resolving reads the hidden and the forced ids, never the shown ones. -/
theorem resolve_congr (hh : o.hidden = o'.hidden) (hr : o.forceRequired = o'.forceRequired)
    (hp : o.forceOptional = o'.forceOptional) : o.resolve fields = o'.resolve fields := by
  obtain ⟨h, s, r, p⟩ := o
  obtain ⟨h', s', r', p'⟩ := o'
  simp only at hh hr hp
  subst hh hr hp
  rfl

/-- **A field is visible unless hidden.** -/
theorem contains_visible_resolve :
    (o.resolve fields).visible.contains x = true ↔
      ∃ f ∈ fields, f.id = x ∧ o.hidden.contains x = false := by
  simp only [resolve, IdSet.contains_iff_mem, IdSet.mem_toList_ofList, List.mem_map, List.mem_filter, visibleField,
    Bool.not_eq_true']
  constructor
  · rintro ⟨f, ⟨hf, hh⟩, rfl⟩
    exact ⟨f, hf, rfl, hh⟩
  · rintro ⟨f, hf, rfl, hh⟩
    exact ⟨f, ⟨hf, hh⟩, rfl⟩

/-- **A field is required by itself or forced so, unless forced optional.** -/
theorem contains_required_resolve :
    (o.resolve fields).required.contains x = true ↔
      ∃ f ∈ fields, f.id = x ∧ (f.required = true ∨ o.forceRequired.contains x = true) ∧
        o.forceOptional.contains x = false := by
  simp only [resolve, IdSet.contains_iff_mem, IdSet.mem_toList_ofList, List.mem_map, List.mem_filter, requiredField,
    Bool.and_eq_true, Bool.or_eq_true, Bool.not_eq_true']
  constructor
  · rintro ⟨f, ⟨hf, hr, ho⟩, rfl⟩
    exact ⟨f, hf, rfl, hr, ho⟩
  · rintro ⟨f, hf, rfl, hr, ho⟩
    exact ⟨f, ⟨hf, hr, ho⟩, rfl⟩

end Outcome

/-! ## Which rules fire -/

/-- Whether a rule fires reads its conditions only. -/
theorem Rule.fires_congr {r r' : Rule} (h : r.conditions = r'.conditions) :
    r.fires l answers known = r'.fires l answers known := by
  simp [Rule.fires, h]

/-- **The fired indices are the ascending indices of the rules that fire.** -/
theorem firedRules_eq_filter (rules : List Rule) :
    firedRules l answers known rules =
      (List.range rules.length).filter fun i => rules[i]?.any (Rule.fires l answers known) := by
  induction rules with
  | nil => rfl
  | cons r rs ih =>
    -- index `0` is the head; the others are the tail's indices moved up by one
    have hzip : (List.range (r :: rs).length).zip (r :: rs) =
        (0, r) :: ((List.range rs.length).zip rs).map fun p => (p.1 + 1, p.2) := by
      rw [List.length_cons, List.range_succ_eq_map, List.zip_cons_cons, List.zip_map_left]
      rfl
    have htail : (((List.range rs.length).zip rs).map fun p => (p.1 + 1, p.2)).filterMap
        (fun (p : Nat × Rule) => if p.2.fires l answers known then some p.1 else none) =
          (firedRules l answers known rs).map (· + 1) := by
      rw [firedRules, List.filterMap_map, List.map_filterMap]
      congr 1
      funext p
      by_cases h : p.2.fires l answers known <;> simp [h]
    rw [firedRules, hzip, List.filterMap_cons, htail, ih, List.length_cons, List.range_succ_eq_map,
      List.filter_cons, List.filter_map]
    by_cases hr : r.fires l answers known <;> simp [hr, Function.comp_def]

theorem mem_firedRules {i : Nat} :
    i ∈ firedRules l answers known rules ↔ ∃ h : i < rules.length, rules[i].fires l answers known := by
  rw [firedRules_eq_filter, List.mem_filter, List.mem_range]
  constructor
  · rintro ⟨hi, hf⟩
    exact ⟨hi, by simpa [hi] using hf⟩
  · rintro ⟨hi, hf⟩
    exact ⟨hi, by simpa [hi] using hf⟩

/-! ## The outcome of a pass -/

/-- `x` is the target of a `k` action of a rule that fires. -/
def FiredTarget (l : Limits) (answers : Answers) (known : IdSet) (rules : List Rule)
    (k : ActionKind) (x : String) : Prop :=
  ∃ r ∈ rules, r.fires l answers known = true ∧ ∃ a ∈ r.actions, a.kind = k ∧ a.target = x

/-- Folding the actions of a list of rule indices into an outcome. -/
theorem contains_ids_foldl (is : List Nat) (o : Outcome) :
    ((is.foldl (fun o i => o.applyAll ((rules[i]?.map Rule.actions).getD [])) o).ids k).contains
        x = true ↔
      (o.ids k).contains x = true ∨
        (k ≠ .unknown ∧ ∃ i ∈ is, ∃ a ∈ (rules[i]?.map Rule.actions).getD [],
          a.kind = k ∧ a.target = x) := by
  induction is generalizing o with
  | nil => simp
  | cons i is ih =>
    rw [List.foldl_cons, ih, Outcome.contains_ids_applyAll]
    simp only [List.mem_cons, exists_eq_or_imp, and_or_left, or_assoc]

theorem exists_mem_firedRules {P : List Action → Prop} :
    (∃ i ∈ firedRules l answers known rules, P ((rules[i]?.map Rule.actions).getD [])) ↔
      ∃ r ∈ rules, r.fires l answers known = true ∧ P r.actions := by
  constructor
  · rintro ⟨i, hi, hP⟩
    obtain ⟨hlt, hf⟩ := mem_firedRules.1 hi
    refine ⟨rules[i], List.getElem_mem hlt, hf, ?_⟩
    simpa [List.getElem?_eq_getElem hlt] using hP
  · rintro ⟨r, hr, hf, hP⟩
    obtain ⟨i, hlt, rfl⟩ := List.getElem_of_mem hr
    exact ⟨i, mem_firedRules.2 ⟨hlt, hf⟩, by simpa [List.getElem?_eq_getElem hlt] using hP⟩

/-- **Each set of the outcome holds the targets of its kind among the rules that fire.** -/
theorem contains_outcome_ids :
    ((evaluateWithTrace l rules answers fields).outcome.ids k).contains x = true ↔
      k ≠ .unknown ∧ FiredTarget l answers (IdSet.ofList (fields.map Field.id)) rules k x := by
  simp only [evaluateWithTrace]
  rw [contains_ids_foldl, Outcome.ids_baseline,
    exists_mem_firedRules (P := fun as => ∃ a ∈ as, a.kind = k ∧ a.target = x)]
  simp [FiredTarget]

theorem sorted_foldl_applyAll (is : List Nat) {o : Outcome} (h : o.Sorted) :
    (is.foldl (fun o i => o.applyAll ((rules[i]?.map Rule.actions).getD [])) o).Sorted := by
  induction is generalizing o with
  | nil => exact h
  | cons i is ih => exact ih (Outcome.sorted_applyAll _ h)

@[simp] theorem evaluateWithTrace_fired :
    (evaluateWithTrace l rules answers fields).fired =
      firedRules l answers (IdSet.ofList (fields.map Field.id)) rules := rfl

@[simp] theorem evaluateWithTrace_state :
    (evaluateWithTrace l rules answers fields).state =
      (evaluateWithTrace l rules answers fields).outcome.resolve fields := rfl

theorem sorted_outcome : (evaluateWithTrace l rules answers fields).outcome.Sorted :=
  sorted_foldl_applyAll _ Outcome.sorted_baseline

/-! ## The pass in closed form -/

/-- **What one pass over `rules` computes**, read off the rules and the fields
one at a time. -/
structure IsPass (l : Limits) (rules : List Rule) (answers : Answers) (fields : List Field)
    (t : Trace) : Prop where
  /-- The ascending indices of the rules within the limits whose conditions
  hold, a condition on an id no field has being false. -/
  fired : t.fired = (List.range rules.length).filter fun i =>
    rules[i]?.any (Rule.fires l answers (IdSet.ofList (fields.map Field.id)))
  hidden : ∀ x, t.outcome.hidden.contains x = true ↔
    FiredTarget l answers (IdSet.ofList (fields.map Field.id)) rules .hide x
  shown : ∀ x, t.outcome.shown.contains x = true ↔
    FiredTarget l answers (IdSet.ofList (fields.map Field.id)) rules .reveal x
  forceRequired : ∀ x, t.outcome.forceRequired.contains x = true ↔
    FiredTarget l answers (IdSet.ofList (fields.map Field.id)) rules .require x
  forceOptional : ∀ x, t.outcome.forceOptional.contains x = true ↔
    FiredTarget l answers (IdSet.ofList (fields.map Field.id)) rules .optional x
  /-- Visible: the ids of the fields, less the hidden ones. -/
  visible : ∀ x, t.state.visible.contains x = true ↔
    ∃ f ∈ fields, f.id = x ∧ t.outcome.hidden.contains x = false
  /-- Required: the ids of the fields required by themselves or forced so,
  less those forced optional. -/
  required : ∀ x, t.state.required.contains x = true ↔
    ∃ f ∈ fields, f.id = x ∧ (f.required = true ∨ t.outcome.forceRequired.contains x = true) ∧
      t.outcome.forceOptional.contains x = false

theorem evaluateWithTrace_isPass :
    IsPass l rules answers fields (evaluateWithTrace l rules answers fields) where
  fired := firedRules_eq_filter rules
  hidden _ := (contains_outcome_ids (k := .hide)).trans (and_iff_right (by decide))
  shown _ := (contains_outcome_ids (k := .reveal)).trans (and_iff_right (by decide))
  forceRequired _ := (contains_outcome_ids (k := .require)).trans (and_iff_right (by decide))
  forceOptional _ := (contains_outcome_ids (k := .optional)).trans (and_iff_right (by decide))
  visible _ := Outcome.contains_visible_resolve
  required _ := Outcome.contains_required_resolve

/-! ## What the pass does not depend on -/

/-- Whether a rule fires reads that rule alone: two rules with the same
conditions, in any two lists, fire together. -/
theorem mem_fired_iff_of_conditions_eq {i j : Nat} (hi : i < rules.length) (hj : j < rules'.length)
    (h : rules'[j].conditions = rules[i].conditions) :
    j ∈ (evaluateWithTrace l rules' answers fields).fired ↔
      i ∈ (evaluateWithTrace l rules answers fields).fired := by
  rw [evaluateWithTrace_fired, evaluateWithTrace_fired, mem_firedRules, mem_firedRules]
  constructor
  · rintro ⟨_, hf⟩
    exact ⟨hi, (Rule.fires_congr h).symm.trans hf⟩
  · rintro ⟨_, hf⟩
    exact ⟨hj, (Rule.fires_congr h).trans hf⟩

/-- Two rules agree on `k`: the same conditions, and the same actions of kind `k`. -/
def SameFor (k : ActionKind) (r' r : Rule) : Prop :=
  r'.conditions = r.conditions ∧ ∀ a, a.kind = k → (a ∈ r'.actions ↔ a ∈ r.actions)

/-- **Matching rules give the same targets.** The rules of the two lists are
paired by `σ`, each with one that agrees on `k`. -/
theorem firedTarget_congr (σ : Fin rules'.length ≃ Fin rules.length)
    (hσ : ∀ j, SameFor k (rules'.get j) (rules.get (σ j))) :
    FiredTarget l answers known rules' k x ↔ FiredTarget l answers known rules k x := by
  constructor
  · rintro ⟨r', hr', hf, a, ha, hk, rfl⟩
    obtain ⟨j, rfl⟩ := List.mem_iff_get.1 hr'
    obtain ⟨hc, hs⟩ := hσ j
    exact ⟨_, List.get_mem _ _, (Rule.fires_congr hc).symm.trans hf, a, (hs a hk).1 ha, hk, rfl⟩
  · rintro ⟨r, hr, hf, a, ha, hk, rfl⟩
    obtain ⟨i, rfl⟩ := List.mem_iff_get.1 hr
    obtain ⟨hc, hs⟩ := hσ (σ.symm i)
    rw [Equiv.apply_symm_apply] at hc hs
    exact ⟨_, List.get_mem _ _, (Rule.fires_congr hc).trans hf, a, (hs a hk).2 ha, hk, rfl⟩

/-- Passes whose rules give the same `k` targets gather the same `k` ids. -/
theorem outcome_ids_eq (k : ActionKind)
    (h : ∀ x, FiredTarget l answers (IdSet.ofList (fields.map Field.id)) rules' k x ↔
      FiredTarget l answers (IdSet.ofList (fields.map Field.id)) rules k x) :
    (evaluateWithTrace l rules' answers fields).outcome.ids k =
      (evaluateWithTrace l rules answers fields).outcome.ids k :=
  IdSet.eq_of_contains_eq (sorted_outcome k) (sorted_outcome k) fun x => by
    rw [Bool.eq_iff_iff, contains_outcome_ids, contains_outcome_ids, h x]

/-- **Reordering the rules, and the actions inside each rule,** leaves the
state and the outcome as they are; each fired index follows its rule. -/
theorem evaluateWithTrace_reorder (σ : Fin rules'.length ≃ Fin rules.length)
    (hσ : ∀ j, (rules'.get j).conditions = (rules.get (σ j)).conditions ∧
      (rules'.get j).actions.Perm (rules.get (σ j)).actions) :
    (evaluateWithTrace l rules' answers fields).state =
        (evaluateWithTrace l rules answers fields).state ∧
      (evaluateWithTrace l rules' answers fields).outcome =
        (evaluateWithTrace l rules answers fields).outcome ∧
      ∀ j : Fin rules'.length, (j : Nat) ∈ (evaluateWithTrace l rules' answers fields).fired ↔
        (σ j : Nat) ∈ (evaluateWithTrace l rules answers fields).fired := by
  have hsame : ∀ k j, SameFor k (rules'.get j) (rules.get (σ j)) :=
    fun _ j => ⟨(hσ j).1, fun _ _ => (hσ j).2.mem_iff⟩
  have ho : (evaluateWithTrace l rules' answers fields).outcome =
      (evaluateWithTrace l rules answers fields).outcome :=
    Outcome.ext_ids fun k => outcome_ids_eq k fun _ => firedTarget_congr σ (hsame k)
  refine ⟨?_, ho, fun j => ?_⟩
  · rw [evaluateWithTrace_state, evaluateWithTrace_state, ho]
  · exact mem_fired_iff_of_conditions_eq (σ j).2 j.2 (by simpa using (hσ j).1)

/-- **Show actions never change the derived state**: rules that differ only
in their show actions derive the same visible and required fields. -/
theorem state_eq_of_sameBut_reveal
    (h : List.Forall₂ (fun r' r => r'.conditions = r.conditions ∧
      r'.actions.filter (·.kind != .reveal) = r.actions.filter (·.kind != .reveal)) rules' rules) :
    (evaluateWithTrace l rules' answers fields).state =
      (evaluateWithTrace l rules answers fields).state := by
  -- the rules pair up position by position, and agree on every kind but `reveal`
  have hsame : ∀ k, k ≠ .reveal → ∀ j,
      SameFor k (rules'.get j) (rules.get (finCongr h.length_eq j)) := by
    intro k hk j
    obtain ⟨hc, hf⟩ := h.get j.2 (h.length_eq ▸ j.2)
    refine ⟨hc, fun a ha => ?_⟩
    have hkeep : (a.kind != .reveal) = true := by simp [ha, hk]
    have := congrArg (a ∈ ·) hf
    simpa [List.mem_filter, hkeep] using this
  have hids : ∀ k, k ≠ .reveal → (evaluateWithTrace l rules' answers fields).outcome.ids k =
      (evaluateWithTrace l rules answers fields).outcome.ids k :=
    fun k hk => outcome_ids_eq k fun _ => firedTarget_congr _ (hsame k hk)
  rw [evaluateWithTrace_state, evaluateWithTrace_state]
  exact Outcome.resolve_congr (hids .hide (by decide)) (hids .require (by decide))
    (hids .optional (by decide))

/-! ## The pass -/

/-- **One evaluation pass, in closed form.** The fired indices are the
ascending indices of the rules that fire; the outcome gathers the targets of
their actions kind by kind; the state resolves it, hiding over showing and
forcing optional over forcing required and over a field's own flag. Whether
a rule fires reads that rule alone, show actions never reach the state, and
reordering the rules or the actions inside them moves only the fired
indices, each along with its rule. -/
theorem evaluateWithTrace_spec (l : Limits) (rules : List Rule) (answers : Answers)
    (fields : List Field) :
    IsPass l rules answers fields (evaluateWithTrace l rules answers fields) ∧
    (∀ (rules' : List Rule) (i j : Nat) (hi : i < rules.length) (hj : j < rules'.length),
      rules'[j].conditions = rules[i].conditions →
        (j ∈ (evaluateWithTrace l rules' answers fields).fired ↔
          i ∈ (evaluateWithTrace l rules answers fields).fired)) ∧
    (∀ rules' : List Rule, List.Forall₂ (fun r' r => r'.conditions = r.conditions ∧
        r'.actions.filter (·.kind != .reveal) = r.actions.filter (·.kind != .reveal)) rules' rules →
      (evaluateWithTrace l rules' answers fields).state =
        (evaluateWithTrace l rules answers fields).state) ∧
    (∀ (rules' : List Rule) (σ : Fin rules'.length ≃ Fin rules.length),
      (∀ j, (rules'.get j).conditions = (rules.get (σ j)).conditions ∧
        (rules'.get j).actions.Perm (rules.get (σ j)).actions) →
      (evaluateWithTrace l rules' answers fields).state =
          (evaluateWithTrace l rules answers fields).state ∧
        (evaluateWithTrace l rules' answers fields).outcome =
          (evaluateWithTrace l rules answers fields).outcome ∧
        ∀ j : Fin rules'.length, (j : Nat) ∈ (evaluateWithTrace l rules' answers fields).fired ↔
          (σ j : Nat) ∈ (evaluateWithTrace l rules answers fields).fired) :=
  ⟨evaluateWithTrace_isPass, fun _ _ _ hi hj h => mem_fired_iff_of_conditions_eq hi hj h,
    fun _ h => state_eq_of_sameBut_reveal h, fun _ σ hσ => evaluateWithTrace_reorder σ hσ⟩

/-- Two rules over three fields: the firing of the first read off a copy of
its conditions placed second, its `reveal` dropped, and the two rules
swapped with the first one's actions reordered. -/
theorem evaluateWithTrace_spec_swap :
    let first : Rule := { conditions := Group.all [.leaf ⟨"a", .isEmpty, .null⟩],
                          actions := [⟨.hide, "b"⟩, ⟨.reveal, "c"⟩] }
    let second : Rule := { conditions := Group.any [], actions := [⟨.require, "a"⟩] }
    let fields := [Field.new "a" .text, Field.new "b" .text, Field.new "c" .text]
    let rules := [first, second]
    let noReveal := [{ first with actions := [⟨.hide, "b"⟩] }, second]
    let swapped := [second, { first with actions := [⟨.reveal, "c"⟩, ⟨.hide, "b"⟩] }]
    let σ : Fin swapped.length ≃ Fin rules.length := Equiv.swap 0 1
    (swapped[1].conditions = rules[0].conditions ∧
      (1 ∈ (evaluateWithTrace {} swapped {} fields).fired ↔
        0 ∈ (evaluateWithTrace {} rules {} fields).fired)) ∧
    (List.Forall₂ (fun r' r => r'.conditions = r.conditions ∧
        r'.actions.filter (·.kind != .reveal) = r.actions.filter (·.kind != .reveal)) noReveal rules ∧
      (evaluateWithTrace {} noReveal {} fields).state = (evaluateWithTrace {} rules {} fields).state) ∧
    ((∀ j, (swapped.get j).conditions = (rules.get (σ j)).conditions ∧
        (swapped.get j).actions.Perm (rules.get (σ j)).actions) ∧
      (evaluateWithTrace {} swapped {} fields).state = (evaluateWithTrace {} rules {} fields).state ∧
      (evaluateWithTrace {} swapped {} fields).outcome = (evaluateWithTrace {} rules {} fields).outcome ∧
      ∀ j : Fin swapped.length, (j : Nat) ∈ (evaluateWithTrace {} swapped {} fields).fired ↔
        (σ j : Nat) ∈ (evaluateWithTrace {} rules {} fields).fired) := by
  intro first second fields rules noReveal swapped σ
  have hspec := evaluateWithTrace_spec {} rules {} fields
  have hcopy : swapped[1].conditions = rules[0].conditions := rfl
  have hreveal : List.Forall₂ (fun r' r => r'.conditions = r.conditions ∧
      r'.actions.filter (·.kind != .reveal) = r.actions.filter (·.kind != .reveal)) noReveal rules :=
    .cons ⟨rfl, rfl⟩ (.cons ⟨rfl, rfl⟩ .nil)
  -- the second rule goes first, the first goes second with its two actions swapped
  have hswap : ∀ j, (swapped.get j).conditions = (rules.get (σ j)).conditions ∧
      (swapped.get j).actions.Perm (rules.get (σ j)).actions := by
    intro j
    match j with
    | ⟨0, _⟩ => exact ⟨rfl, List.Perm.refl _⟩
    | ⟨1, _⟩ => exact ⟨rfl, List.Perm.swap _ _ []⟩
    | ⟨n + 2, h⟩ => exact absurd h (by simp [swapped])
  exact ⟨⟨hcopy, hspec.2.1 swapped 0 1 (by decide) (by decide) hcopy⟩,
    ⟨hreveal, hspec.2.2.1 noReveal hreveal⟩, ⟨hswap, hspec.2.2.2 swapped σ hswap⟩⟩

end Rules
end Questionnaire
