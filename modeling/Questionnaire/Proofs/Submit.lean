import Mathlib.Order.Bounds.Defs
import Questionnaire.Proofs.Stepper
/-!
# Flow — what submitting does

Submitting is possible from the last page only; anywhere else it reports
where the stepper stands and changes nothing. On the last page it checks the
whole form, and its messages replace the stepper's. A form that passes goes
out, carrying its id and the answers of its visible fields that take input;
a form that fails sends the user back to the first page that holds a failing
field. When the form's ids are distinct, that is the first page whose own
check fails (`submit_rules`).

Handing the submission to a receiver asks it once, and only for a form that
went out. A receiver that refuses leaves the form not submitted, and its
failure comes back as a refused submission.

The page a failing field is sent back to is the least of the failing ids'
pages (`firstPageOf_isLeast`). Every failing id has one, since it is the id
of a field of the form (`exists_pageIndexOf_of_ok_eq_false`).
-/

namespace Questionnaire

open Schema Validation Rules Questionnaire.Flow

namespace Failure

/-- A failure that is no refused submission becomes one, with its sentence. -/
theorem asRejection_of_ne {f : Failure} (h : ∀ m, f ≠ .submission m) :
    f.asRejection = .submission f.text := by
  cases f with
  | submission m => exact absurd rfl (h m)
  | _ => rfl

end Failure

namespace Schema

variable {s : Schema} {k : String} {p : Nat}

theorem any_id_eq_true_iff (pg : Page) :
    (pg.fields.any fun f => f.id == k) = true ↔ k ∈ pg.fieldIds := by
  simp only [List.any_eq_true, beq_iff_eq, Page.fieldIds, List.mem_map]

/-- **The page of an id** is the first page that holds it. -/
theorem pageIndexOf_eq_some_iff : s.pageIndexOf k = some p ↔
    ∃ hp : p < s.pages.length, k ∈ s.pages[p].fieldIds ∧
      ∀ q (hq : q < p), k ∉ s.pages[q].fieldIds := by
  rw [pageIndexOf, List.findIdx?_eq_some_iff_getElem]
  simp only [any_id_eq_true_iff]

/-- An id on a page has a page, that one or an earlier one. -/
theorem exists_pageIndexOf_le (hp : p < s.pages.length) (hk : k ∈ s.pages[p].fieldIds) :
    ∃ q ≤ p, s.pageIndexOf k = some q := by
  obtain ⟨q, hq⟩ : ∃ q, s.pageIndexOf k = some q := by
    rw [← Option.isSome_iff_exists, pageIndexOf, List.findIdx?_isSome, List.any_eq_true]
    exact ⟨_, List.getElem_mem hp, (any_id_eq_true_iff _).2 hk⟩
  obtain ⟨_, _, hfirst⟩ := pageIndexOf_eq_some_iff.1 hq
  refine ⟨q, ?_, hq⟩
  by_contra hlt
  exact hfirst p (by omega) hk

end Schema

namespace Flow

variable {c : Compiler} {s : Schema} {answers : Answers} {state : Derived}

theorem PageCheck.ok_eq_false_iff {p : PageCheck} :
    p.ok = false ↔ ∃ k m, p.errors.get? k = some m := by
  rw [← Bool.not_eq_true, PageCheck.ok, IdMap.isEmpty_iff]
  simp only [not_forall, Option.ne_none_iff_exists']

/-- **Every failing id of the form has a page.** -/
theorem exists_pageIndexOf_of_ok_eq_false (hfail : (checkAll c s answers state).ok = false) :
    ∃ k ∈ (checkAll c s answers state).errors.keys, (s.pageIndexOf k).isSome := by
  obtain ⟨k, m, hm⟩ := PageCheck.ok_eq_false_iff.1 hfail
  -- a failing id is the id of a field, and so on some page
  have hk : k ∈ s.allFieldIds := (get?_checkFields_errors.1 hm).1
  obtain ⟨p, hp, hkp⟩ := Schema.mem_allFieldIds.1 hk
  obtain ⟨q, -, hq⟩ := Schema.exists_pageIndexOf_le hp hkp
  exact ⟨k, IdMap.mem_keys_of_get? hm, by simp [hq]⟩

namespace Stepper

variable {st : Stepper}

/-- **The page to go back to is the least page of the ids**, when one has a page. -/
theorem firstPageOf_isLeast (fallback : Nat) {ids : List String}
    (h : ∃ k ∈ ids, (s.pageIndexOf k).isSome) :
    IsLeast {p | ∃ k ∈ ids, s.pageIndexOf k = some p} (firstPageOf s ids fallback) := by
  have hmem : ∀ p, p ∈ ids.filterMap s.pageIndexOf ↔ ∃ k ∈ ids, s.pageIndexOf k = some p :=
    fun _ => List.mem_filterMap
  cases hl : ids.filterMap s.pageIndexOf with
  | nil =>
    obtain ⟨k, hk, hsome⟩ := h
    obtain ⟨p, hp⟩ := Option.isSome_iff_exists.1 hsome
    have hp' := (hmem p).2 ⟨k, hk, hp⟩
    simp [hl] at hp'
  | cons p ps =>
    rw [firstPageOf, hl]
    -- the fold takes the least of the ids' pages
    obtain ⟨hin, hle⟩ := List.min?_eq_some_iff.1
      (List.min?_cons' : (p :: ps).min? = some (ps.foldl min p))
    rw [← hl] at hin hle
    exact ⟨(hmem _).1 hin, fun q hq => hle q ((hmem q).2 hq)⟩

/-- **With distinct ids, the page to go back to is the first failing page.**
Each failing id sits on one page, whose own check then fails; and each
failing page holds a failing id of the form. -/
theorem firstPageOf_isLeast_failing (hnd : s.allFieldIds.Nodup)
    (hfail : (checkAll c s answers state).ok = false) (fallback : Nat) :
    IsLeast {q | q < s.pageCount ∧ (checkPage c s answers q state).ok = false}
      (firstPageOf s (checkAll c s answers state).errors.keys fallback) := by
  obtain ⟨⟨k, hk, hp⟩, hlow⟩ :=
    firstPageOf_isLeast fallback (exists_pageIndexOf_of_ok_eq_false hfail)
  obtain ⟨hplen, hkp, -⟩ := Schema.pageIndexOf_eq_some_iff.1 hp
  refine ⟨⟨hplen, ?_⟩, ?_⟩
  · -- the failing id fails on the one page that holds it
    obtain ⟨m, hm⟩ := Option.isSome_iff_exists.1 (IdMap.mem_keys.1 hk)
    obtain ⟨q, hq, hqm⟩ := (get?_checkAll_errors hnd).1 hm
    have hkq := mem_fieldIds_of_mem_keys hq (IdMap.mem_keys_of_get? hqm)
    obtain rfl := Schema.eq_of_mem_fieldIds hnd hq hplen hkq hkp
    exact PageCheck.ok_eq_false_iff.2 ⟨k, m, hqm⟩
  · rintro q ⟨hq, hqfail⟩
    obtain ⟨k', m', hk'⟩ := PageCheck.ok_eq_false_iff.1 hqfail
    have hA := (get?_checkAll_errors hnd).2 ⟨q, hq, hk'⟩
    have hk'q := mem_fieldIds_of_mem_keys hq (IdMap.mem_keys_of_get? hk')
    obtain ⟨q', hq'q, hq'⟩ := Schema.exists_pageIndexOf_le hq hk'q
    exact le_trans (hlow ⟨k', IdMap.mem_keys_of_get? hA, hq'⟩) hq'q

theorem submit_of_not_last (h : st.pageCount = 0 ∨ st.step ≠ st.pageCount - 1) :
    st.submit s answers state = (.notOnLastPage st.step, st) := by
  have hoff : (st.pageCount == 0 || !st.isLastPage) = true := by
    simp only [isLastPage, Bool.or_eq_true, beq_iff_eq, Bool.not_eq_true', Bool.or_eq_false_iff,
      beq_eq_false_iff_ne]
    omega
  simp [submit, hoff]

/-- On the last page, submitting checks the whole form. -/
theorem submit_of_last (h0 : st.pageCount ≠ 0) (hl : st.step = st.pageCount - 1) :
    st.submit s answers state =
      if (checkAll st.compiler s answers state).ok = true then
        (.submitted (Submission.collect s answers state),
          { st with errors := (checkAll st.compiler s answers state).errors, submitted := true })
      else
        (.blocked (firstPageOf s (checkAll st.compiler s answers state).errors.keys st.step)
          (checkAll st.compiler s answers state).errors,
          { st with errors := (checkAll st.compiler s answers state).errors }) := by
  have hon : (st.pageCount == 0 || !st.isLastPage) = false := by simp [isLastPage, h0, hl]
  by_cases hok : (checkAll st.compiler s answers state).ok <;> simp [submit, hon, hok]

/-- **The answers that go out**: those of the visible fields that take input. -/
theorem get?_collect_answers (k : String) :
    (Submission.collect s answers state).answers.get? k =
      if (∃ f ∈ s.allFields, f.id = k ∧ f.kind.isValidatable = true) ∧
          state.visible.contains k = true
      then answers.get? k else none := by
  have hkept : ((s.allFields.filter fun f => f.kind.isValidatable && state.isVisible f.id).map
        Field.id).contains k = true ↔
      (∃ f ∈ s.allFields, f.id = k ∧ f.kind.isValidatable = true) ∧
        state.visible.contains k = true := by
    simp only [List.contains_iff_mem, List.mem_map, List.mem_filter, Bool.and_eq_true,
      Derived.isVisible]
    constructor
    · rintro ⟨f, ⟨hf, hv, hvis⟩, rfl⟩
      exact ⟨⟨f, hf, rfl, hv⟩, hvis⟩
    · rintro ⟨⟨f, hf, rfl, hv⟩, hvis⟩
      exact ⟨f, ⟨hf, hv, hvis⟩, rfl⟩
  simp only [Submission.collect, IdMap.get?_filter, hkept]

variable {σ : Type} {accept : σ → Submission → Except Failure σ} {sink sink' : σ}
variable {sub : Submission} {f : Failure}

theorem submitTo_of_not_submitted (h : ∀ sub, (st.submit s answers state).1 ≠ .submitted sub) :
    st.submitTo s answers state accept sink =
      (.ok ((st.submit s answers state).1, sink), (st.submit s answers state).2) := by
  -- the equation of the catch-all case of `submitTo` asks for `h`
  simp only [submitTo]

theorem submitTo_of_accept (h : (st.submit s answers state).1 = .submitted sub)
    (ha : accept sink sub = .ok sink') :
    st.submitTo s answers state accept sink =
      (.ok (.submitted sub, sink'), (st.submit s answers state).2) := by
  rw [submitTo_of_submitted h, ha]

theorem submitTo_of_refuse (h : (st.submit s answers state).1 = .submitted sub)
    (ha : accept sink sub = .error f) :
    st.submitTo s answers state accept sink =
      (.error f.asRejection, { (st.submit s answers state).2 with submitted := false }) := by
  rw [submitTo_of_submitted h, ha]

/-- **What submitting does**, from a stepper, for a form, its answers and
its derived state, with `A` the check of the whole form under the stepper's
compiler. -/
structure SubmitRules (st : Stepper) (s : Schema) (answers : Answers) (state : Derived) :
    Prop where
  /-- Off the last page nothing is checked and nothing changes. -/
  offLastPage : st.pageCount = 0 ∨ st.step ≠ st.pageCount - 1 →
    st.submit s answers state = (.notOnLastPage st.step, st)
  /-- On the last page, a form that passes goes out: its messages, none,
  replace the stepper's, and the stepper is submitted. -/
  passes : st.pageCount ≠ 0 → st.step = st.pageCount - 1 →
    (checkAll st.compiler s answers state).errors.isEmpty = true →
    st.submit s answers state = (.submitted (Submission.collect s answers state),
      { st with errors := (checkAll st.compiler s answers state).errors, submitted := true })
  /-- On the last page, a form that fails is blocked: its messages replace
  the stepper's, and the page to go back to is the least page of the failing
  ids; with distinct ids, the first page whose check fails. -/
  fails : st.pageCount ≠ 0 → st.step = st.pageCount - 1 →
    (checkAll st.compiler s answers state).errors.isEmpty = false →
    ∃ p, st.submit s answers state = (.blocked p (checkAll st.compiler s answers state).errors,
        { st with errors := (checkAll st.compiler s answers state).errors }) ∧
      IsLeast {q | ∃ k ∈ (checkAll st.compiler s answers state).errors.keys,
        s.pageIndexOf k = some q} p ∧
      (s.allFieldIds.Nodup →
        IsLeast {q | q < s.pageCount ∧ (checkPage st.compiler s answers q state).ok = false} p)
  /-- The submission carries the form's id. -/
  formId : (Submission.collect s answers state).formId = s.id
  /-- The submission carries the answers of the visible fields that take input. -/
  collected : ∀ k, (Submission.collect s answers state).answers.get? k =
    if (∃ f ∈ s.allFields, f.id = k ∧ f.kind.isValidatable = true) ∧
        state.visible.contains k = true
    then answers.get? k else none
  /-- A form that does not go out leaves the receiver untouched. -/
  keepsSink : ∀ {σ : Type} (accept : σ → Submission → Except Failure σ) (sink : σ),
    (∀ sub, (st.submit s answers state).1 ≠ .submitted sub) →
    st.submitTo s answers state accept sink =
      (.ok ((st.submit s answers state).1, sink), (st.submit s answers state).2)
  /-- A form that goes out is handed to the receiver once; what it keeps is
  what that one call gives. -/
  accepted : ∀ {σ : Type} (accept : σ → Submission → Except Failure σ) (sink sink' : σ)
    (sub : Submission), (st.submit s answers state).1 = .submitted sub →
    accept sink sub = .ok sink' →
    st.submitTo s answers state accept sink =
      (.ok (.submitted sub, sink'), (st.submit s answers state).2)
  /-- A receiver that refuses leaves the form not submitted, and its failure
  comes back as a refused submission. -/
  refused : ∀ {σ : Type} (accept : σ → Submission → Except Failure σ) (sink : σ)
    (sub : Submission) (f : Failure), (st.submit s answers state).1 = .submitted sub →
    accept sink sub = .error f →
    st.submitTo s answers state accept sink =
      (.error f.asRejection, { (st.submit s answers state).2 with submitted := false })
  /-- A refusal keeps its reason; any other failure is refused with its sentence. -/
  rejection : (∀ m, (Failure.submission m).asRejection = .submission m) ∧
    ∀ f : Failure, (∀ m, f ≠ .submission m) → f.asRejection = .submission f.text

/-- **Submitting follows `SubmitRules`**, from every stepper, for every form,
answers and derived state: off the last page it changes nothing; on it, the
whole form's messages replace the stepper's, a form that passes goes out
with its id and the answers of its visible fields that take input, and a
form that fails sends the user back to the least page of its failing ids,
the first failing page when the ids are distinct; a receiver is asked once,
only for a form that goes out, and its refusal unsubmits the form. -/
theorem submit_rules (st : Stepper) (s : Schema) (answers : Answers) (state : Derived) :
    SubmitRules st s answers state where
  offLastPage := submit_of_not_last
  passes h0 hl hempty := by
    have hok : (checkAll st.compiler s answers state).ok = true := hempty
    rw [submit_of_last h0 hl, if_pos hok]
  fails h0 hl hfull := by
    have hfail : (checkAll st.compiler s answers state).ok = false := hfull
    refine ⟨_, by rw [submit_of_last h0 hl, if_neg (by simp [hfail])], ?_, fun hnd => ?_⟩
    · exact firstPageOf_isLeast _ (exists_pageIndexOf_of_ok_eq_false hfail)
    · exact firstPageOf_isLeast_failing hnd hfail st.step
  formId := rfl
  collected := get?_collect_answers
  keepsSink _ _ := submitTo_of_not_submitted
  accepted _ _ _ _ := submitTo_of_accept
  refused _ _ _ _ := submitTo_of_refuse
  rejection := ⟨fun _ => rfl, fun _ => Failure.asRejection_of_ne⟩

/-- A two-page form whose first page asks for agreement, submitted from
either page: from the first nothing happens; from the last it is blocked
while the box is unticked, with the first page to go back to, and goes out
once it is ticked, to a receiver that keeps it or one that refuses it. -/
theorem submit_rules_agreement :
    let form := Schema.new [(Page.new "p1" "One").withFields [Field.new "terms" .checkbox],
      (Page.new "p2" "Two").withFields [Field.new "name" .text]]
    let state : Derived := { visible := IdSet.ofList ["terms", "name"], required := IdSet.ofList ["terms"] }
    let first : Stepper := { pageCount := 2, compiler := { today := ⟨2024, 1, 1⟩ } }
    let last : Stepper := { first with step := 1 }
    let ticked : Answers := IdMap.ofList [("terms", .bool true)]
    let sub := Submission.collect form ticked state
    ((first.pageCount = 0 ∨ first.step ≠ first.pageCount - 1) ∧
      first.submit form {} state = (.notOnLastPage first.step, first)) ∧
    (last.pageCount ≠ 0 ∧ last.step = last.pageCount - 1 ∧
      (checkAll last.compiler form {} state).errors.isEmpty = false ∧ form.allFieldIds.Nodup ∧
      ∃ p, last.submit form {} state = (.blocked p (checkAll last.compiler form {} state).errors,
          { last with errors := (checkAll last.compiler form {} state).errors }) ∧
        IsLeast {q | ∃ k ∈ (checkAll last.compiler form {} state).errors.keys,
          form.pageIndexOf k = some q} p ∧
        IsLeast {q | q < form.pageCount ∧ (checkPage last.compiler form {} q state).ok = false} p) ∧
    ((∀ s, (last.submit form {} state).1 ≠ .submitted s) ∧
      last.submitTo form {} state collecting [] =
        (.ok ((last.submit form {} state).1, []), (last.submit form {} state).2)) ∧
    ((checkAll last.compiler form ticked state).errors.isEmpty = true ∧
      last.submit form ticked state = (.submitted sub,
        { last with errors := (checkAll last.compiler form ticked state).errors, submitted := true })) ∧
    ((last.submit form ticked state).1 = .submitted sub ∧ collecting [] sub = .ok [sub] ∧
      last.submitTo form ticked state collecting [] =
        (.ok (.submitted sub, [sub]), (last.submit form ticked state).2)) ∧
    (refusing (.submission "closed") [] sub = .error (.submission "closed") ∧
      last.submitTo form ticked state (refusing (.submission "closed")) [] =
        (.error (Failure.submission "closed").asRejection,
          { (last.submit form ticked state).2 with submitted := false })) := by
  intro form state first last ticked sub
  have hoff : first.pageCount = 0 ∨ first.step ≠ first.pageCount - 1 := by decide
  -- unticked: the whole form fails, on its first page
  have hfull : (checkAll last.compiler form {} state).errors.isEmpty = false := by decide
  have hnd : form.allFieldIds.Nodup := by decide
  obtain ⟨p, hblocked, hleast, hfirst⟩ :=
    (submit_rules last form {} state).fails (by decide) (by decide) hfull
  have hnot : ∀ s, (last.submit form {} state).1 ≠ .submitted s := by
    intro s h
    rw [hblocked] at h
    cases h
  -- ticked: the whole form passes and goes out
  have hempty : (checkAll last.compiler form ticked state).errors.isEmpty = true := by decide
  have hpass := (submit_rules last form ticked state).passes (by decide) (by decide) hempty
  have hout : (last.submit form ticked state).1 = .submitted sub := by rw [hpass]
  exact ⟨⟨hoff, (submit_rules first form {} state).offLastPage hoff⟩,
    ⟨by decide, by decide, hfull, hnd, p, hblocked, hleast, hfirst hnd⟩,
    ⟨hnot, (submit_rules last form {} state).keepsSink collecting [] hnot⟩,
    ⟨hempty, hpass⟩,
    ⟨hout, rfl, (submit_rules last form ticked state).accepted collecting [] [sub] sub hout rfl⟩,
    ⟨rfl, (submit_rules last form ticked state).refused _ [] sub _ hout rfl⟩⟩

end Stepper

end Flow

end Questionnaire
