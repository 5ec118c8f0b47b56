import Mathlib.Data.List.Nodup
import Questionnaire.Proofs.Ids
import Questionnaire.Flow.PageCheck
/-!
# Flow — checking the form is checking its pages

Submitting checks the whole form in one go, compiling validators over every
field at once; moving forwards checks one page, compiling over that page's
fields alone. Compiling keys the validators by id and keeps the last field of
an id, so the two paths see the same validator for an id only when no other
field shares it.

On a form whose field ids are distinct they agree (`checkAll_eq_pages`): the
messages of the whole form are the union of those of its pages, no id has a
message on two pages, and so the form passes exactly when every page does.
Without distinct ids they part: an id whose first field refuses an answer
and whose last accepts it blocks its page and lets the form through.

The facts below them: an id fails in a check when it is checked, visible
and refused by its validator (`get?_checkFields_errors`), and over distinct
ids the validator of an id is the one its own field compiles to
(`get?_compile_of_nodup`).

Whatever the ids, a check reports only what it checks
(`checks_report_visible_fields`): a page only visible fields of its own that
take input, a step past the last page nothing, and the whole form only
visible fields of the form.
-/

namespace Questionnaire

open Schema

namespace Validation

variable {c : Compiler} {fields : List Field} {required visible : IdSet} {k : String}
variable {v : Validator}

theorem mem_compileEntries :
    (k, v) ∈ fields.filterMap (fun f =>
        (c.compileField f (required.contains f.id) (visible.contains f.id)).map fun v => (f.id, v)) ↔
      ∃ f ∈ fields, f.id = k ∧ c.compileField f (required.contains k) (visible.contains k) = some v := by
  simp only [List.mem_filterMap, Option.map_eq_some_iff, Prod.mk.injEq]
  constructor
  · rintro ⟨f, hf, v', hv, rfl, rfl⟩
    exact ⟨f, hf, rfl, hv⟩
  · rintro ⟨f, hf, rfl, hv⟩
    exact ⟨f, hf, v, hv, rfl, rfl⟩

/-- **The validator compiled for an id is one of its fields'.** -/
theorem exists_field_of_get?_compile (h : (c.compile fields required visible).get? k = some v) :
    ∃ f ∈ fields, f.id = k ∧ c.compileField f (required.contains k) (visible.contains k) = some v :=
  mem_compileEntries.1 (IdMap.mem_of_get?_ofList h)

/-- Only a field that takes input gets a validator. -/
theorem isValidatable_of_compileField {f : Field} {r vis : Bool} (h : c.compileField f r vis = some v) :
    f.kind.isValidatable = true := by
  by_contra hk
  simp [Compiler.compileField, hk] at h

/-- **Over distinct ids, the validator of a field's id is the field's own.** -/
theorem get?_compile_of_nodup (hnd : (fields.map Field.id).Nodup) {f : Field} (hf : f ∈ fields) :
    (c.compile fields required visible).get? f.id =
      c.compileField f (required.contains f.id) (visible.contains f.id) := by
  -- any entry for `f.id` comes from a field of that id, which can only be `f`
  have hown : ∀ g ∈ fields, g.id = f.id → g = f := fun g hg h =>
    List.inj_on_of_nodup_map hnd hg hf h
  cases hv : c.compileField f (required.contains f.id) (visible.contains f.id) with
  | none =>
    cases hget : (c.compile fields required visible).get? f.id with
    | none => rfl
    | some v =>
      obtain ⟨g, hg, hid, hgv⟩ := exists_field_of_get?_compile hget
      rw [hown g hg hid, hv] at hgv
      cases hgv
  | some v =>
    rw [ValidatorSet.get?, Compiler.compile]
    refine IdMap.get?_ofList_of_mem (mem_compileEntries.2 ⟨f, hf, rfl, hv⟩) fun v' hv' => ?_
    obtain ⟨g, hg, hid, hgv⟩ := mem_compileEntries.1 hv'
    rw [hown g hg hid, hv] at hgv
    exact (Option.some.inj hgv).symm

/-- **The failures of a list of ids**: an id fails when the list holds it and
its validator refuses its answer. -/
theorem get?_validateAnswers {s : ValidatorSet} {answers : Answers} {ids : List String}
    {m : String} :
    (s.validateAnswers answers ids).get? k = some m ↔
      k ∈ ids ∧ s.validate k (answers.get? k) = .error m := by
  -- the entry of an id `i` is `(i, message)` exactly when `i` fails with that message
  rw [ValidatorSet.validateAnswers, IdMap.get?_ofList_filterMap]
  · cases s.validate k (answers.get? k) <;> simp
  · intro i e he
    split at he
    · cases he
      rfl
    · cases he

end Validation

namespace Schema

variable {s : Schema} {k : String} {p q : Nat}

theorem allFieldIds_eq_flatMap (s : Schema) : s.allFieldIds = s.pages.flatMap Page.fieldIds := by
  simp only [allFieldIds, allFields, List.map_flatMap]
  rfl

/-- **An id of the form is an id of one of its pages.** -/
theorem mem_allFieldIds : k ∈ s.allFieldIds ↔ ∃ p, ∃ hp : p < s.pages.length, k ∈ s.pages[p].fieldIds := by
  rw [allFieldIds_eq_flatMap, List.mem_flatMap]
  constructor
  · rintro ⟨pg, hpg, hk⟩
    obtain ⟨p, hp, rfl⟩ := List.getElem_of_mem hpg
    exact ⟨p, hp, hk⟩
  · rintro ⟨p, hp, hk⟩
    exact ⟨_, List.getElem_mem hp, hk⟩

theorem mem_allFields {f : Field} (hp : p < s.pages.length) (hf : f ∈ s.pages[p].fields) :
    f ∈ s.allFields :=
  List.mem_flatMap.2 ⟨_, List.getElem_mem hp, hf⟩

/-- A page of a form with distinct ids has distinct ids. -/
theorem nodup_fieldIds (hnd : s.allFieldIds.Nodup) (hp : p < s.pages.length) :
    s.pages[p].fieldIds.Nodup := by
  rw [allFieldIds_eq_flatMap, List.nodup_flatMap] at hnd
  exact hnd.1 _ (List.getElem_mem hp)

/-- **In a form with distinct ids, an id sits on one page.** -/
theorem eq_of_mem_fieldIds (hnd : s.allFieldIds.Nodup) (hp : p < s.pages.length)
    (hq : q < s.pages.length) (hkp : k ∈ s.pages[p].fieldIds) (hkq : k ∈ s.pages[q].fieldIds) :
    p = q := by
  rw [allFieldIds_eq_flatMap, List.nodup_flatMap, List.pairwise_iff_getElem] at hnd
  by_contra hne
  rcases Nat.lt_or_gt_of_ne hne with h | h
  · exact hnd.2 p q hp hq h hkp hkq
  · exact hnd.2 q p hq hp h hkq hkp

end Schema

namespace Flow

open Validation Rules

variable {c : Compiler} {s : Schema} {answers : Answers} {state : Derived}
variable {fields : List Field} {k m : String}

/-- **An id fails a check** when one of the checked fields has it, it is
visible, and its validator refuses its answer. -/
theorem get?_checkFields_errors :
    (checkFields c fields answers state).errors.get? k = some m ↔
      k ∈ fields.map Field.id ∧ state.visible.contains k = true ∧
        (c.compile fields state.required state.visible).validate k (answers.get? k) = .error m := by
  rw [checkFields, get?_validateAnswers, List.mem_filter, and_assoc]

/-- **Only fields that take input get messages.** -/
theorem exists_field_of_mem_keys (hk : k ∈ (checkFields c fields answers state).errors.keys) :
    ∃ f ∈ fields, f.id = k ∧ f.kind.isValidatable = true := by
  obtain ⟨m, hm⟩ := Option.isSome_iff_exists.1 (IdMap.mem_keys.1 hk)
  obtain ⟨-, -, hfail⟩ := get?_checkFields_errors.1 hm
  -- an id without a validator passes, so the failing id has one
  cases hv : (c.compile fields state.required state.visible).get? k with
  | none => simp [ValidatorSet.validate, hv] at hfail
  | some v =>
    obtain ⟨f, hf, hid, hcomp⟩ := exists_field_of_get?_compile hv
    exact ⟨f, hf, hid, isValidatable_of_compileField hcomp⟩

theorem checkPage_eq {p : Nat} (hp : p < s.pages.length) :
    checkPage c s answers p state = checkFields c s.pages[p].fields answers state := by
  simp [checkPage, List.getElem?_eq_getElem hp]

theorem validate_congr {v w : ValidatorSet} (h : v.get? k = w.get? k) (value : Option Answer) :
    v.validate k value = w.validate k value := by
  simp [ValidatorSet.validate, h]

/-- **Over distinct ids, a page's validators are the form's**, on that page's ids. -/
theorem get?_compile_page (hnd : s.allFieldIds.Nodup) {p : Nat} (hp : p < s.pages.length)
    (hk : k ∈ s.pages[p].fieldIds) (required visible : IdSet) :
    (c.compile s.allFields required visible).get? k =
      (c.compile s.pages[p].fields required visible).get? k := by
  obtain ⟨f, hf, rfl⟩ := List.mem_map.1 hk
  rw [get?_compile_of_nodup hnd (Schema.mem_allFields hp hf),
    get?_compile_of_nodup (Schema.nodup_fieldIds hnd hp) hf]

/-- **The messages of the form are those of its pages.** -/
theorem get?_checkAll_errors (hnd : s.allFieldIds.Nodup) :
    (checkAll c s answers state).errors.get? k = some m ↔
      ∃ p < s.pageCount, (checkPage c s answers p state).errors.get? k = some m := by
  rw [checkAll, get?_checkFields_errors]
  constructor
  · rintro ⟨hk, hv, hm⟩
    obtain ⟨p, hp, hkp⟩ := Schema.mem_allFieldIds.1 hk
    refine ⟨p, hp, ?_⟩
    rw [checkPage_eq hp, get?_checkFields_errors]
    exact ⟨hkp, hv, by rwa [← validate_congr (get?_compile_page hnd hp hkp _ _)]⟩
  · rintro ⟨p, hp, h⟩
    rw [checkPage_eq hp, get?_checkFields_errors] at h
    obtain ⟨hkp, hv, hm⟩ := h
    exact ⟨Schema.mem_allFieldIds.2 ⟨p, hp, hkp⟩, hv,
      by rwa [validate_congr (get?_compile_page hnd hp hkp _ _)]⟩

/-- An id with a message on a page is an id of that page. -/
theorem mem_fieldIds_of_mem_keys {p : Nat} (hp : p < s.pages.length)
    (hk : k ∈ (checkPage c s answers p state).errors.keys) : k ∈ s.pages[p].fieldIds := by
  obtain ⟨m, hm⟩ := Option.isSome_iff_exists.1 (IdMap.mem_keys.1 hk)
  rw [checkPage_eq hp, get?_checkFields_errors] at hm
  exact hm.1

/-- **The whole form checks as its pages do.** -/
structure ChecksByPage (c : Compiler) (s : Schema) (answers : Answers) (state : Derived) : Prop where
  /-- The messages of the form are the union of those of its pages. -/
  errors : ∀ k m, (checkAll c s answers state).errors.get? k = some m ↔
    ∃ p < s.pageCount, (checkPage c s answers p state).errors.get? k = some m
  /-- No id has a message on two pages. -/
  disjoint : ∀ p q k, p < s.pageCount → q < s.pageCount →
    k ∈ (checkPage c s answers p state).errors.keys →
    k ∈ (checkPage c s answers q state).errors.keys → p = q
  /-- The form passes exactly when every page does. -/
  ok : (checkAll c s answers state).ok = true ↔
    ∀ p < s.pageCount, (checkPage c s answers p state).ok = true
  /-- An id's validator is the same compiled over the form or over its page. -/
  validators : ∀ p (hp : p < s.pages.length), ∀ k ∈ s.pages[p].fieldIds,
    (c.compile s.allFields state.required state.visible).get? k =
      (c.compile s.pages[p].fields state.required state.visible).get? k

theorem checksByPage_of_nodup (hnd : s.allFieldIds.Nodup) : ChecksByPage c s answers state where
  errors _ _ := get?_checkAll_errors hnd
  disjoint p q _ hp hq hkp hkq := Schema.eq_of_mem_fieldIds hnd hp hq
    (mem_fieldIds_of_mem_keys hp hkp) (mem_fieldIds_of_mem_keys hq hkq)
  ok := by
    simp only [PageCheck.ok, IdMap.isEmpty_iff, Option.eq_none_iff_forall_ne_some]
    constructor
    · intro h p hp k m hm
      exact h k m ((get?_checkAll_errors hnd).2 ⟨p, hp, hm⟩)
    · intro h k m hm
      obtain ⟨p, hp, hpm⟩ := (get?_checkAll_errors hnd).1 hm
      exact h p hp k m hpm
  validators _ hp _ hk := get?_compile_page hnd hp hk _ _

/-! ## What a check reports -/

/-- **What a check over some fields may report**: it passes exactly when no
id has a message, and an id with a message is that of one of those fields
that takes input and is visible. -/
structure ReportsOnly (fields : List Field) (visible : IdSet) (p : PageCheck) : Prop where
  /-- It passes exactly when no id has a message. -/
  ok : p.ok = true ↔ ∀ k, p.errors.get? k = none
  /-- An id with a message is that of a visible checked field that takes input. -/
  keys : ∀ k ∈ p.errors.keys,
    ∃ f ∈ fields, f.id = k ∧ f.kind.isValidatable = true ∧ visible.contains k = true

theorem checkFields_reportsOnly :
    ReportsOnly fields state.visible (checkFields c fields answers state) where
  ok := IdMap.isEmpty_iff
  keys k hk := by
    obtain ⟨f, hf, hid, hv⟩ := exists_field_of_mem_keys hk
    obtain ⟨m, hm⟩ := Option.isSome_iff_exists.1 (IdMap.mem_keys.1 hk)
    exact ⟨f, hf, hid, hv, (get?_checkFields_errors.1 hm).2.1⟩

/-- A step past the last page checks no field. -/
theorem checkPage_of_pageCount_le {step : Nat} (hs : s.pageCount ≤ step) :
    checkPage c s answers step state = {} := by
  rw [checkPage, List.getElem?_eq_none hs]
  rfl

/-- **A check reports only visible fields that take input, among those it
checks.** Page `step` reports only fields of that page, and nothing past
the last page; the whole form reports only fields of the form; each passes
exactly when it has no message. So a hidden field is never reported,
whatever makes it required and whatever its answer, and a page never
reports a field of another page. -/
theorem checks_report_visible_fields (c : Compiler) (s : Schema) (answers : Answers)
    (state : Derived) :
    (∀ step, ReportsOnly ((s.pages[step]?.map Page.fields).getD []) state.visible
        (checkPage c s answers step state)) ∧
    (∀ step, s.pageCount ≤ step → checkPage c s answers step state = {}) ∧
    ReportsOnly s.allFields state.visible (checkAll c s answers state) :=
  ⟨fun _ => checkFields_reportsOnly, fun _ hs => checkPage_of_pageCount_le hs,
    checkFields_reportsOnly⟩

/-- A form of one page checked at its second step passes with no message. -/
theorem checks_report_visible_fields_past_last :
    (Schema.new [(Page.new "p1" "One").withFields [Field.new "a" .text]]).pageCount ≤ 1 ∧
      checkPage { today := ⟨2024, 1, 1⟩ } (Schema.new [(Page.new "p1" "One").withFields
        [Field.new "a" .text]]) (IdMap.ofList [("a", .bool true)]) 1
          { visible := IdSet.ofList ["a"] } = {} :=
  ⟨by decide, (checks_report_visible_fields _ _ _ _).2.1 1 (by decide)⟩

/-- **Checking the form is checking its pages**, for every compiler, answers
and visible and required ids, on every form whose field ids are distinct. The
ids must be distinct: a form whose one id is an agreement box on its first
page, which refuses a text, and a text field on its second, which takes it,
passes as a whole while its first page is blocked. -/
theorem checkAll_eq_pages :
    (∀ (c : Compiler) (s : Schema) (answers : Answers) (state : Derived),
      s.allFieldIds.Nodup → ChecksByPage c s answers state) ∧
    ∃ (c : Compiler) (s : Schema) (answers : Answers) (state : Derived),
      ¬ s.allFieldIds.Nodup ∧ (checkAll c s answers state).ok = true ∧
        (checkPage c s answers 0 state).ok = false :=
  ⟨fun _ _ _ _ hnd => checksByPage_of_nodup hnd,
    { today := ⟨2024, 1, 1⟩ },
    Schema.new [(Page.new "p1" "One").withFields [Field.new "a" .checkbox],
      (Page.new "p2" "Two").withFields [Field.new "a" .text]],
    IdMap.ofList [("a", .text "x")], { visible := IdSet.ofList ["a"] },
    by decide, by decide, by decide⟩

/-- A two-page form of distinct ids, its agreement box on the first page
answered with a text, checks as its pages do. -/
theorem checkAll_eq_pages_distinct :
    let form := Schema.new [(Page.new "p1" "One").withFields [Field.new "terms" .checkbox],
      (Page.new "p2" "Two").withFields [Field.new "name" .text]]
    form.allFieldIds.Nodup ∧
      ChecksByPage { today := ⟨2024, 1, 1⟩ } form (IdMap.ofList [("terms", .text "x")])
        { visible := IdSet.ofList ["terms", "name"] } := by
  intro form
  have hnd : form.allFieldIds.Nodup := by decide
  exact ⟨hnd, checkAll_eq_pages.1 _ form _ _ hnd⟩

end Flow

end Questionnaire
