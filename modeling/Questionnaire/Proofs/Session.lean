import Questionnaire.Proofs.PageCheck
import Questionnaire.Flow.Session
/-!
# Flow — what every session keeps

A session caches what it derives from its answers: the visible and required
fields are computed when an answer changes, not when they are read. This
file shows the cache is never stale. Whatever operations a host performs,
in whatever order (`Op`, `Session.run`), the session keeps the form's
fields, its state is the evaluation of the form's rules over the stored
answers under the configured limits, its stepper counts the form's pages,
every message it holds belongs to a field of the form that takes input, and
its version counts the answer changes made so far (`run_coherent`).

The invariant is `Session.Coherent`; `Stepper.Fits` is its stepper part.
Each operation keeps it (`Coherent.apply`), and so does every run.
-/

namespace Questionnaire
namespace Flow

open Schema Validation Rules

variable {schema : Schema} {config : Config}

/-! ## Messages -/

/-- Every id with a message is the id of a field of `schema` that takes input. -/
def KeysOfInputs (schema : Schema) (errors : IdMap String) : Prop :=
  ∀ k ∈ errors.keys, ∃ f ∈ schema.allFields, f.id = k ∧ f.kind.isValidatable = true

namespace KeysOfInputs

variable {m o : IdMap String}

theorem erase (h : KeysOfInputs schema m) (k : String) : KeysOfInputs schema (m.erase k) := by
  intro x hx
  rw [IdMap.mem_keys, IdMap.get?_erase] at hx
  split_ifs at hx
  · simp at hx
  · exact h x (IdMap.mem_keys.2 hx)

theorem foldl_erase (h : KeysOfInputs schema m) (ks : List String) :
    KeysOfInputs schema (ks.foldl IdMap.erase m) := by
  induction ks generalizing m with
  | nil => exact h
  | cons k ks ih => exact ih (h.erase k)

theorem union (hm : KeysOfInputs schema m) (ho : KeysOfInputs schema o) :
    KeysOfInputs schema (m.union o) := by
  intro x hx
  rw [IdMap.mem_keys, Option.isSome_iff_ne_none, ne_eq, IdMap.get?_union_eq_none,
    not_and_or] at hx
  rcases hx with hx | hx
  · exact hm x (IdMap.mem_keys.2 (Option.isSome_iff_ne_none.2 hx))
  · exact ho x (IdMap.mem_keys.2 (Option.isSome_iff_ne_none.2 hx))

/-- A check of some of the form's fields leaves messages only on fields that take input. -/
theorem checkFields {c : Compiler} {fields : List Field} {answers : Answers} {state : Derived}
    (hsub : ∀ f ∈ fields, f ∈ schema.allFields) :
    KeysOfInputs schema (checkFields c fields answers state).errors := by
  intro k hk
  obtain ⟨f, hf, hid, hv⟩ := exists_field_of_mem_keys hk
  exact ⟨f, hsub f hf, hid, hv⟩

theorem checkAll {c : Compiler} {answers : Answers} {state : Derived} :
    KeysOfInputs schema (Flow.checkAll c schema answers state).errors :=
  checkFields fun _ hf => hf

theorem checkPage {c : Compiler} {answers : Answers} {p : Nat} {state : Derived} :
    KeysOfInputs schema (Flow.checkPage c schema answers p state).errors := by
  rw [Flow.checkPage]
  apply checkFields
  intro f hf
  cases hp : schema.pages[p]? with
  | none => simp [hp] at hf
  | some pg =>
    rw [hp, Option.map_some, Option.getD_some] at hf
    exact List.mem_flatMap.2 ⟨pg, List.mem_of_getElem? hp, hf⟩

end KeysOfInputs

/-! ## The stepper -/

/-- **A stepper that fits a form**: it counts the form's pages, and holds
messages only for fields of the form that take input. -/
structure Stepper.Fits (schema : Schema) (st : Stepper) : Prop where
  pageCount_eq : st.pageCount = schema.pageCount
  errors_keys : KeysOfInputs schema st.errors

namespace Stepper.Fits

variable {st st' : Stepper} {answers : Answers} {state : Derived}

theorem withToday (h : st.Fits schema) (today : Calendar.Date) : (st.withToday today).Fits schema :=
  ⟨h.pageCount_eq, h.errors_keys⟩

theorem answerChanged (h : st.Fits schema) (k : String) : (st.answerChanged k).2.Fits schema :=
  ⟨h.pageCount_eq, h.errors_keys.erase k⟩

theorem back (h : st.Fits schema) : st.back.2.Fits schema := by
  unfold Stepper.back
  split
  · exact h
  · exact ⟨h.pageCount_eq, h.errors_keys⟩

/-- A jump keeps the stepper fitting when it succeeds; when it fails the
stepper is left as it was. -/
theorem jumpTo (h : st.Fits schema) {target : Nat} {nav : Navigation}
    (hj : st.jumpTo target = .ok (nav, st')) : st'.Fits schema := by
  unfold Stepper.jumpTo at hj
  split_ifs at hj
  · cases hj
    exact h
  · cases hj
    exact ⟨h.pageCount_eq, h.errors_keys⟩

theorem next (h : st.Fits schema) : (st.next schema answers state).2.Fits schema := by
  -- the page's old messages are dropped, then the new ones added if it fails
  have herased := h.errors_keys.foldl_erase (schema.pageFieldIds st.step)
  simp only [Stepper.next]
  split_ifs
  · exact ⟨h.pageCount_eq, herased.union KeysOfInputs.checkPage⟩
  · exact ⟨h.pageCount_eq, herased⟩
  · exact ⟨h.pageCount_eq, herased⟩

theorem submit (h : st.Fits schema) : (st.submit schema answers state).2.Fits schema := by
  -- checking the whole form replaces every message
  simp only [Stepper.submit]
  split_ifs
  · exact h
  · exact ⟨h.pageCount_eq, KeysOfInputs.checkAll⟩
  · exact ⟨h.pageCount_eq, KeysOfInputs.checkAll⟩

theorem submitTo (h : st.Fits schema) {σ : Type} (accept : σ → Submission → Except Failure σ)
    (sink : σ) : (st.submitTo schema answers state accept sink).2.Fits schema := by
  have hs : (st.submit schema answers state).2.Fits schema := h.submit
  simp only [Stepper.submitTo]
  cases hsub : st.submit schema answers state with
  | mk outcome st' =>
    rw [hsub] at hs
    -- a refused submission only clears the submitted flag
    cases outcome with
    | submitted sub =>
      dsimp only
      cases accept sink sub with
      | ok _ => exact hs
      | error _ => exact ⟨hs.pageCount_eq, hs.errors_keys⟩
    | blocked _ _ => exact hs
    | notOnLastPage _ => exact hs

end Stepper.Fits

/-! ## Sessions -/

/-- **One operation a host performs on a session.** -/
inductive Op : Type 1 where
  | withAnswers (answers : Answers)
  | withToday (today : Calendar.Date)
  | setAnswer (fieldId : String) (value : Answer)
  | clearAnswer (fieldId : String)
  | next
  | back
  | jumpTo (target : Nat)
  | submit
  | submitTo {σ : Type} (accept : σ → Submission → Except Failure σ) (sink : σ)

/-- Whether an operation changes the answers. -/
def Op.changesAnswers : Op → Bool
  | .withAnswers _ | .setAnswer _ _ | .clearAnswer _ => true
  | _ => false

namespace Session

variable {s : Session}

/-- **The session after one operation.** A jump that fails leaves it as it was. -/
def apply (s : Session) : Op → Session
  | .withAnswers answers => s.withAnswers answers
  | .withToday today => s.withToday today
  | .setAnswer k v => (s.setAnswer k v).2
  | .clearAnswer k => (s.clearAnswer k).2
  | .next => s.next.2
  | .back => s.back.2
  | .jumpTo target =>
    match s.jumpTo target with
    | .ok (_, s') => s'
    | .error _ => s
  | .submit => s.submit.2
  | .submitTo accept sink => (s.submitTo accept sink).2

/-- The session after operations, in order. -/
def run (s : Session) (ops : List Op) : Session := ops.foldl apply s

/-- **A session of `schema` under `config`**: it keeps the form and its
fields, its state is the evaluation of the form's rules over its answers
under the configured limits, and its stepper fits the form. -/
structure Coherent (schema : Schema) (config : Config) (s : Session) : Prop where
  schema_eq : s.schema = schema
  fields_eq : s.fields = schema.allFields
  limits_eq : s.limits = config.limits
  state_eq : s.state = evaluate config.limits schema.rules s.answers schema.allFields
  stepper_fits : s.stepper.Fits schema

theorem coherent_create (schema : Schema) (config : Config) (today : Calendar.Date) :
    Coherent schema config (create schema config today) where
  schema_eq := rfl
  fields_eq := rfl
  limits_eq := rfl
  state_eq := rfl
  stepper_fits := ⟨rfl, fun k hk => by simp [create, Stepper.new, IdMap.keys] at hk⟩

namespace Coherent

/-- Changing the answers and recomputing keeps a session coherent. -/
theorem recompute (h : Coherent schema config s) (answers : Answers) {st : Stepper}
    (hst : st.Fits schema) (version : Nat) :
    Coherent schema config (Session.recompute { s with answers, stepper := st, version }) where
  schema_eq := h.schema_eq
  fields_eq := h.fields_eq
  limits_eq := h.limits_eq
  state_eq := by
    simp only [Session.recompute]
    rw [h.limits_eq, h.schema_eq, h.fields_eq]
  stepper_fits := hst

/-- Replacing the stepper by one that fits keeps a session coherent. -/
theorem withStepper (h : Coherent schema config s) {st : Stepper} (hst : st.Fits schema) :
    Coherent schema config { s with stepper := st } :=
  ⟨h.schema_eq, h.fields_eq, h.limits_eq, h.state_eq, hst⟩

/-- **Every operation keeps a session coherent.** -/
theorem apply (h : Coherent schema config s) : ∀ op, Coherent schema config (s.apply op)
  | .withAnswers answers => h.recompute answers h.stepper_fits _
  | .withToday today => h.withStepper (h.stepper_fits.withToday today)
  | .setAnswer k _ => h.recompute _ (h.stepper_fits.answerChanged k) _
  | .clearAnswer k => h.recompute _ (h.stepper_fits.answerChanged k) _
  | .next => h.withStepper (h.schema_eq ▸ h.stepper_fits.next)
  | .back => h.withStepper h.stepper_fits.back
  | .jumpTo target => by
    simp only [Session.apply, Session.jumpTo]
    cases hj : s.stepper.jumpTo target with
    | error _ => exact h
    | ok r => exact h.withStepper (h.stepper_fits.jumpTo hj)
  | .submit => h.withStepper (h.schema_eq ▸ h.stepper_fits.submit)
  | .submitTo accept sink => h.withStepper (h.schema_eq ▸ h.stepper_fits.submitTo accept sink)

theorem run (h : Coherent schema config s) (ops : List Op) : Coherent schema config (s.run ops) := by
  induction ops generalizing s with
  | nil => exact h
  | cons op ops ih => exact ih (h.apply op)

end Coherent

/-- **The version counts the answer changes.** -/
theorem version_apply (op : Op) :
    (s.apply op).version = s.version + if op.changesAnswers then 1 else 0 := by
  cases op with
  | jumpTo target =>
    simp only [apply, jumpTo, Op.changesAnswers]
    cases s.stepper.jumpTo target <;> rfl
  | _ => rfl

theorem version_run (ops : List Op) :
    (s.run ops).version = s.version + (ops.filter Op.changesAnswers).length := by
  induction ops generalizing s with
  | nil => rfl
  | cons op ops ih =>
    rw [run, List.foldl_cons, ← run, ih, version_apply, List.filter_cons]
    by_cases hc : op.changesAnswers
    · simp only [hc, if_true, List.length_cons]
      omega
    · simp [hc]

/-- The trace of a session derives the state the session holds. -/
theorem trace_state_eq (h : Coherent schema config s) : s.trace.state = s.state := by
  rw [h.state_eq, trace, h.limits_eq, h.schema_eq, h.fields_eq]
  rfl

end Session

/-- **Every reachable session is coherent.** Whatever operations a host
performs on a fresh session, in any order and whichever fail: it keeps the
form's fields; its state, and the state of its trace, are the evaluation of
the form's rules over the stored answers under the configured limits; its
stepper counts the form's pages and holds messages only for fields of the
form that take input; and its version is the number of answer changes. -/
theorem run_coherent (schema : Schema) (config : Config) (today : Calendar.Date) (ops : List Op) :
    Session.Coherent schema config ((Session.create schema config today).run ops) ∧
    ((Session.create schema config today).run ops).trace.state =
      ((Session.create schema config today).run ops).state ∧
    ((Session.create schema config today).run ops).version = (ops.filter Op.changesAnswers).length := by
  have h := (Session.coherent_create schema config today).run ops
  refine ⟨h, Session.trace_state_eq h, ?_⟩
  rw [Session.version_run]
  simp [Session.create]

/-! ## What an answer change touches -/

namespace Session

/-- **What a change of `x`'s answer keeps**, `r` being its result: every
message but `x`'s, the current page and the submitted flag; and it returns
the new version. -/
structure KeepsAllBut (x : String) (s : Session) (r : Nat × Session) : Prop where
  error? : ∀ y, r.2.stepper.error? y = if y = x then none else s.stepper.error? y
  step_eq : r.2.stepper.step = s.stepper.step
  submitted_eq : r.2.stepper.submitted = s.stepper.submitted
  returns_version : r.1 = r.2.version

variable (s : Session) (x : String)

theorem keepsAllBut_setAnswer (v : Answer) : KeepsAllBut x s (s.setAnswer x v) where
  error? _ := IdMap.get?_erase
  step_eq := rfl
  submitted_eq := rfl
  returns_version := rfl

theorem keepsAllBut_clearAnswer : KeepsAllBut x s (s.clearAnswer x) where
  error? _ := IdMap.get?_erase
  step_eq := rfl
  submitted_eq := rfl
  returns_version := rfl

end Session

/-- **An answer change touches only its field.** Storing `v` for `x` maps
`x` to `v` and keeps every other answer; clearing `x` removes it and keeps
every other answer. Either way the session forgets `x`'s message and keeps
every other one, even for a field whose visibility or required-ness the
change turns around through the rules; it stays on its page, keeps its
submitted flag, and returns its new version. -/
theorem answer_change_frame (s : Session) (x : String) (v : Answer) :
    (∀ y, (s.setAnswer x v).2.answers.get? y = if y = x then some v else s.answers.get? y) ∧
      Session.KeepsAllBut x s (s.setAnswer x v) ∧
      (∀ y, (s.clearAnswer x).2.answers.get? y = if y = x then none else s.answers.get? y) ∧
      Session.KeepsAllBut x s (s.clearAnswer x) :=
  ⟨fun _ => IdMap.get?_insert, s.keepsAllBut_setAnswer x v, fun _ => IdMap.get?_erase,
    s.keepsAllBut_clearAnswer x⟩

end Flow
end Questionnaire
