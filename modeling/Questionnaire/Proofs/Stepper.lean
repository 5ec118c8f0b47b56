import Questionnaire.Proofs.PageCheck
import Questionnaire.Flow.Stepper
/-!
# Flow — how the page moves

A stepper moves its page in three ways only: `next` goes forwards by one
from a page that passes and is not the last, `back` goes back by one, and a
jump goes to an earlier page. Everything else a host does (submitting,
forgetting a message, setting the reference day) leaves the page where it
is, and a jump past the last page fails and changes nothing (`MoveRules`).

So from a fresh stepper of `n` pages, whatever operations follow, the page
stays among the `n`, or on the first when there are none (`OnPage`). The
compiler stays the one the stepper was built with, except for the reference
day, which is the one the last `setToday` gave (`run_moveRules`). A page is
checked under that day: setting a later day lets a page through that the
first compiler refused (`next_after_setToday_passes_refused_page`).

Moving forwards drops the old messages of the page it checks and records
the new ones. The message of every field on another page stays as it was
(`next_keeps_other_messages`).
-/

namespace Questionnaire
namespace Flow

open Schema Validation Rules

namespace Stepper

/-- **One operation a host performs on a stepper.** -/
inductive Op : Type 1 where
  | next (s : Schema) (answers : Answers) (state : Derived)
  | back
  | jumpTo (target : Nat)
  | submit (s : Schema) (answers : Answers) (state : Derived)
  | submitTo {σ : Type} (s : Schema) (answers : Answers) (state : Derived)
      (accept : σ → Submission → Except Failure σ) (sink : σ)
  | answerChanged (fieldId : String)
  | setToday (today : Calendar.Date)

/-- The moves: `next`, `back` and jumps. -/
def Op.isMove : Op → Bool
  | .next .. | .back | .jumpTo _ => true
  | _ => false

/-- The reference day an operation sets, if it sets one. -/
def Op.today? : Op → Option Calendar.Date
  | .setToday today => some today
  | _ => none

/-- **The stepper after one operation.** A jump that fails leaves it as it was. -/
def apply (st : Stepper) : Op → Stepper
  | .next s answers state => (st.next s answers state).2
  | .back => st.back.2
  | .jumpTo target =>
    match st.jumpTo target with
    | .ok (_, st') => st'
    | .error _ => st
  | .submit s answers state => (st.submit s answers state).2
  | .submitTo s answers state accept sink => (st.submitTo s answers state accept sink).2
  | .answerChanged fieldId => (st.answerChanged fieldId).2
  | .setToday today => st.withToday today

/-- The stepper after operations, in order. -/
def run (st : Stepper) (ops : List Op) : Stepper := ops.foldl apply st

variable {st : Stepper} {s : Schema} {answers : Answers} {state : Derived} {t : Nat}

/-! ## Each operation -/

/-- Submitting changes only the messages and the submitted flag. -/
theorem submit_snd_eq :
    ∃ errors submitted, (st.submit s answers state).2 = { st with errors, submitted } := by
  simp only [submit]
  split_ifs <;> exact ⟨_, _, rfl⟩

/-- A form that went out is handed to the receiver, whose verdict decides
the result; a refusal unsubmits the form. -/
theorem submitTo_of_submitted {σ : Type} {accept : σ → Submission → Except Failure σ} {sink : σ}
    {sub : Submission} (h : (st.submit s answers state).1 = .submitted sub) :
    st.submitTo s answers state accept sink =
      match accept sink sub with
      | .ok sink' => (.ok (.submitted sub, sink'), (st.submit s answers state).2)
      | .error f => (.error f.asRejection, { (st.submit s answers state).2 with submitted := false }) := by
  simp only [submitTo]
  rcases hsub : st.submit s answers state with ⟨outcome, st'⟩
  rw [hsub] at h
  dsimp only at h ⊢
  subst h
  rfl

theorem submitTo_snd_eq {σ : Type} (accept : σ → Submission → Except Failure σ) (sink : σ) :
    ∃ errors submitted, (st.submitTo s answers state accept sink).2 = { st with errors, submitted } := by
  obtain ⟨e, b, hs⟩ := @submit_snd_eq st s answers state
  by_cases hsub : ∃ sub, (st.submit s answers state).1 = .submitted sub
  · -- the receiver's verdict touches the submitted flag only
    obtain ⟨sub, hsub⟩ := hsub
    rw [submitTo_of_submitted hsub]
    cases accept sink sub
    · exact ⟨e, false, by rw [hs]⟩
    · exact ⟨e, b, hs⟩
  · -- the catch-all case of `submitTo` asks that the form did not go out
    have hnot : ∀ sub, (st.submit s answers state).1 ≠ .submitted sub := not_exists.1 hsub
    simp only [submitTo]
    exact ⟨e, b, hs⟩

/-- **What an operation may change**: the page, the messages, the submitted
flag, and the compiler's reference day; the page count never. -/
theorem apply_eq (op : Op) : ∃ step errors submitted, st.apply op =
    { st with step, errors, submitted,
              compiler := { st.compiler with today := op.today?.getD st.compiler.today } } := by
  cases op with
  | next => simp only [apply, next]; split_ifs <;> exact ⟨_, _, _, rfl⟩
  | back => simp only [apply, back]; split_ifs <;> exact ⟨_, _, _, rfl⟩
  | jumpTo t => simp only [apply, jumpTo]; split_ifs <;> exact ⟨_, _, _, rfl⟩
  | submit s answers state =>
    obtain ⟨e, b, h⟩ := @submit_snd_eq st s answers state
    exact ⟨_, _, _, h⟩
  | submitTo s answers state accept sink =>
    obtain ⟨e, b, h⟩ := @submitTo_snd_eq st s answers state _ accept sink
    exact ⟨_, _, _, h⟩
  | answerChanged | setToday => exact ⟨_, _, _, rfl⟩

theorem pageCount_apply (op : Op) : (st.apply op).pageCount = st.pageCount := by
  obtain ⟨_, _, _, h⟩ := @apply_eq st op
  rw [h]

/-- Only `setToday` touches the compiler, and only its reference day. -/
theorem compiler_apply (op : Op) :
    (st.apply op).compiler = { st.compiler with today := op.today?.getD st.compiler.today } := by
  obtain ⟨_, _, _, h⟩ := @apply_eq st op
  rw [h]

/-- **The three outcomes of `next`**: a page that fails blocks, its
messages put over the others; a last page that passes stays; any other page
that passes moves on by one. Each drops the page's old messages. -/
theorem next_cases :
    ((checkPage st.compiler s answers st.step state).ok = false ∧
      st.next s answers state = (.blocked (checkPage st.compiler s answers st.step state).errors,
        { st with errors := (((s.pageFieldIds st.step).foldl IdMap.erase st.errors).union
          (checkPage st.compiler s answers st.step state).errors) })) ∨
    ((checkPage st.compiler s answers st.step state).ok = true ∧ st.isLastPage = true ∧
      st.next s answers state = (.unchanged st.step,
        { st with errors := (s.pageFieldIds st.step).foldl IdMap.erase st.errors })) ∨
    ((checkPage st.compiler s answers st.step state).ok = true ∧ st.isLastPage = false ∧
      st.next s answers state = (.moved st.step (st.step + 1),
        { st with errors := (s.pageFieldIds st.step).foldl IdMap.erase st.errors,
                  step := st.step + 1 })) := by
  by_cases hok : (checkPage st.compiler s answers st.step state).ok <;>
    by_cases hlast : st.isLastPage <;> simp [next, hok, hlast]

/-- `next` moves by one exactly when the page passes and is not the last. -/
theorem step_next : (st.next s answers state).2.step =
    if (checkPage st.compiler s answers st.step state).ok = true ∧ st.isLastPage = false
    then st.step + 1 else st.step := by
  rcases @next_cases st s answers state with ⟨hok, h⟩ | ⟨hok, hlast, h⟩ | ⟨hok, hlast, h⟩
  · simp [h, hok]
  · simp [h, hok, hlast]
  · simp [h, hok, hlast]

theorem next_moved (hok : (checkPage st.compiler s answers st.step state).ok = true)
    (hlast : st.isLastPage = false) :
    (st.next s answers state).1 = .moved st.step (st.step + 1) := by
  simp [next, hok, hlast]

/-- `back` goes down by one, and stays on the first page. -/
theorem step_back : st.back.2.step = st.step - 1 := by
  unfold back
  split_ifs with h
  · simp_all
  · rfl

theorem jumpTo_of_le (h : st.pageCount ≤ t) :
    st.jumpTo t = .error (.stepOutOfRange t st.pageCount) := by
  simp [jumpTo, h]

/-- A jump moves only to an earlier page among the stepper's. -/
theorem step_apply_jumpTo :
    (st.apply (.jumpTo t)).step = if t < st.pageCount ∧ t < st.step then t else st.step := by
  simp only [apply, jumpTo]
  split_ifs <;> first | rfl | omega

theorem step_apply_of_isMove_eq_false {op : Op} (h : op.isMove = false) :
    (st.apply op).step = st.step := by
  cases op with
  | next | back | jumpTo => simp [Op.isMove] at h
  | submit s answers state =>
    obtain ⟨e, b, h⟩ := @submit_snd_eq st s answers state
    simp only [apply, h]
  | submitTo s answers state accept sink =>
    obtain ⟨e, b, h⟩ := @submitTo_snd_eq st s answers state _ accept sink
    simp only [apply, h]
  | answerChanged | setToday => rfl

/-! ## The rules of a move -/

/-- **On one of its pages**: the page is among the stepper's pages, or the
first when there are none. -/
def OnPage (st : Stepper) : Prop := st.step = 0 ∨ st.step < st.pageCount

/-- On a page, the last page is the one with no page after it. -/
theorem isLastPage_eq_false (h : st.OnPage) : st.isLastPage = false ↔ st.step + 1 < st.pageCount := by
  simp only [isLastPage, Bool.or_eq_false_iff, beq_eq_false_iff_ne]
  unfold OnPage at h
  omega

/-- **How one operation may move the page.** -/
structure MoveRules (st : Stepper) (op : Op) : Prop where
  /-- Forwards only by `next`, by one, from a page that passes and is not
  the last; `next` then reports the move. -/
  forward : st.step < (st.apply op).step → ∃ s answers state, op = .next s answers state ∧
    (checkPage st.compiler s answers st.step state).ok = true ∧ st.step + 1 < st.pageCount ∧
    (st.apply op).step = st.step + 1 ∧ (st.next s answers state).1 = .moved st.step (st.step + 1)
  /-- Back only by `back`, by one, or by a jump to an earlier page. -/
  backward : (st.apply op).step < st.step → (op = .back ∧ (st.apply op).step + 1 = st.step) ∨
    ∃ t, op = .jumpTo t ∧ t < st.step ∧ (st.apply op).step = t
  /-- A jump past the last page fails and changes nothing. -/
  jumpPastEnd : ∀ t, op = .jumpTo t → st.pageCount ≤ t →
    st.jumpTo t = .error (.stepOutOfRange t st.pageCount) ∧ st.apply op = st
  /-- Submitting, forgetting a message and setting the day keep the page. -/
  steady : op.isMove = false → (st.apply op).step = st.step

theorem moveRules (h : st.OnPage) (op : Op) : st.MoveRules op where
  forward hlt := by
    cases op with
    | next s answers state =>
      simp only [apply] at hlt ⊢
      rw [step_next] at hlt ⊢
      split_ifs at hlt ⊢ with hmove
      · exact ⟨s, answers, state, rfl, hmove.1, (isLastPage_eq_false h).1 hmove.2, rfl,
          next_moved hmove.1 hmove.2⟩
      · exact absurd hlt (lt_irrefl _)
    | back =>
      simp only [apply] at hlt
      rw [step_back] at hlt
      omega
    | jumpTo t =>
      rw [step_apply_jumpTo] at hlt
      split_ifs at hlt <;> omega
    | _ =>
      rw [step_apply_of_isMove_eq_false rfl] at hlt
      exact absurd hlt (lt_irrefl _)
  backward hlt := by
    cases op with
    | next s answers state =>
      simp only [apply] at hlt
      rw [step_next] at hlt
      split_ifs at hlt <;> omega
    | back =>
      refine .inl ⟨rfl, ?_⟩
      simp only [apply] at hlt ⊢
      rw [step_back] at hlt ⊢
      omega
    | jumpTo t =>
      rw [step_apply_jumpTo] at hlt ⊢
      split_ifs at hlt ⊢ with hj
      · exact .inr ⟨t, rfl, hj.2, rfl⟩
      · exact absurd hlt (lt_irrefl _)
    | _ =>
      rw [step_apply_of_isMove_eq_false rfl] at hlt
      exact absurd hlt (lt_irrefl _)
  jumpPastEnd t hop hle := by
    subst hop
    have hj := jumpTo_of_le hle
    exact ⟨hj, by simp only [apply, hj]⟩
  steady := step_apply_of_isMove_eq_false

/-- **Every operation keeps the stepper on a page.** -/
theorem OnPage.apply (h : st.OnPage) (op : Op) : (st.apply op).OnPage := by
  unfold OnPage
  rw [pageCount_apply]
  -- the page grows only by `next`, and then stays below the count
  rcases Nat.lt_or_ge st.step (st.apply op).step with hlt | hge
  · obtain ⟨-, -, -, -, -, hlt', hstep, -⟩ := (moveRules h op).forward hlt
    exact .inr (hstep ▸ hlt')
  · unfold OnPage at h
    omega

/-! ## Runs -/

theorem OnPage.run (h : st.OnPage) (ops : List Op) : (st.run ops).OnPage := by
  induction ops generalizing st with
  | nil => exact h
  | cons op ops ih => exact ih (h.apply op)

theorem pageCount_run (ops : List Op) : (st.run ops).pageCount = st.pageCount := by
  induction ops generalizing st with
  | nil => rfl
  | cons op ops ih => rw [run, List.foldl_cons, ← run, ih, pageCount_apply]

/-- **After a run the compiler is the first one**, with the reference day of
the last `setToday`, if any. -/
theorem compiler_run (ops : List Op) :
    (st.run ops).compiler =
      { st.compiler with today := ((ops.filterMap Op.today?).getLast?).getD st.compiler.today } := by
  induction ops generalizing st with
  | nil => rfl
  | cons op ops ih =>
    rw [run, List.foldl_cons, ← run, ih, compiler_apply]
    -- a day set later overrides this operation's
    cases hop : op.today? with
    | none => simp [hop]
    | some day => simp [hop, List.getLast?_cons]

/-- **The page moves only as the rules allow, on every run.** From a fresh
stepper of `n` pages under compiler `c`, after any operations: the stepper
still counts `n` pages; its page is below `n`, or the first when `n = 0`;
its compiler is `c` with the reference day the last `setToday` set; and the
next operation, whichever it is, moves the page by `MoveRules`: forwards
only by `next`, by one, from a page that passes under that compiler and is
not the last; back only by `back` by one or by a jump to an earlier page; a
jump past the last page fails and leaves the stepper as it was; and
submitting, forgetting a message or setting the day keep the page. -/
theorem run_moveRules (n : Nat) (c : Compiler) (ops : List Op) (op : Op) :
    ((new n c).run ops).pageCount = n ∧
    (0 < n → ((new n c).run ops).step < n) ∧ (n = 0 → ((new n c).run ops).step = 0) ∧
    ((new n c).run ops).compiler =
      { c with today := ((ops.filterMap Op.today?).getLast?).getD c.today } ∧
    ((new n c).run ops).MoveRules op := by
  have hon : ((new n c).run ops).OnPage := OnPage.run (Or.inl rfl) ops
  have hcount : ((new n c).run ops).pageCount = n := pageCount_run ops
  unfold OnPage at hon
  refine ⟨hcount, fun _ => ?_, fun _ => ?_, compiler_run ops, moveRules hon op⟩ <;> omega

/-- **Pages pass under the day last set, not the first compiler's.** A form
whose first page asks for a date not in the future, answered 2025-01-01: the
compiler of 2020-01-01 refuses that page, yet after `setToday` 2030-01-01 the
stepper built with that compiler, still on the first page, moves on. -/
theorem next_after_setToday_passes_refused_page :
    (checkPage { today := ⟨2020, 1, 1⟩ }
        (Schema.new [(Page.new "p1" "One").withFields
          [(Field.new "d" .date).withValidation { disallowFuture := true }], Page.new "p2" "Two"])
        (IdMap.ofList [("d", .text "2025-01-01")]) 0
        (Derived.baseline [(Field.new "d" .date).withValidation { disallowFuture := true }])).ok =
      false ∧
    ((new 2 { today := ⟨2020, 1, 1⟩ }).run [.setToday ⟨2030, 1, 1⟩]).step = 0 ∧
    (((new 2 { today := ⟨2020, 1, 1⟩ }).run [.setToday ⟨2030, 1, 1⟩]).apply
        (.next (Schema.new [(Page.new "p1" "One").withFields
          [(Field.new "d" .date).withValidation { disallowFuture := true }], Page.new "p2" "Two"])
        (IdMap.ofList [("d", .text "2025-01-01")])
        (Derived.baseline [(Field.new "d" .date).withValidation { disallowFuture := true }]))).step =
      1 := by
  decide

/-! ## Messages when moving forwards -/

/-- A page's check has messages only for that page's fields. -/
theorem mem_pageFieldIds_of_get?_checkPage {c : Compiler} {p : Nat} {k m : String}
    (h : (checkPage c s answers p state).errors.get? k = some m) : k ∈ s.pageFieldIds p := by
  rw [checkPage, get?_checkFields_errors] at h
  unfold Schema.pageFieldIds
  cases hp : s.pages[p]? with
  | none => simp [hp] at h
  | some pg => simpa [hp, Page.fieldIds] using h.1

theorem sorted_checkPage_errors {c : Compiler} {p : Nat} :
    (checkPage c s answers p state).errors.Sorted :=
  IdMap.sorted_ofList _

/-- `next` drops the page's old messages, and adds its new ones if it fails. -/
theorem next_errors : (st.next s answers state).2.errors =
    if (checkPage st.compiler s answers st.step state).ok = true
    then (s.pageFieldIds st.step).foldl IdMap.erase st.errors
    else ((s.pageFieldIds st.step).foldl IdMap.erase st.errors).union
      (checkPage st.compiler s answers st.step state).errors := by
  rcases @next_cases st s answers state with ⟨hok, h⟩ | ⟨hok, -, h⟩ | ⟨hok, -, h⟩ <;> simp [h, hok]

/-- **The messages after `next`**: the page's new ones, over the old ones of
the fields on other pages. -/
theorem get?_next_errors (k : String) :
    (st.next s answers state).2.errors.get? k =
      ((checkPage st.compiler s answers st.step state).errors.get? k).or
        (if k ∈ s.pageFieldIds st.step then none else st.errors.get? k) := by
  have herase := IdMap.get?_foldl_erase (m := st.errors) (x := k) (s.pageFieldIds st.step)
  rw [next_errors]
  by_cases hok : (checkPage st.compiler s answers st.step state).ok = true
  · -- passed: the page has no message
    have hnone : (checkPage st.compiler s answers st.step state).errors.get? k = none :=
      IdMap.isEmpty_iff.1 hok k
    rw [if_pos hok, hnone, Option.none_or, herase]
  · -- blocked: the new messages are added over what is left
    rw [if_neg hok, IdMap.get?_union sorted_checkPage_errors, herase]

/-- **Moving forwards touches only the page's messages.** For any stepper,
form, answers and derived state, with `P` the check of the current page: the
messages after `next` are those of `P` together with the old messages of
fields not on the page, so every message of a field on another page is kept
as it was; `next` reports a block, with `P`'s messages, exactly when `P` has
messages; and it leaves the submitted flag as it was. -/
theorem next_keeps_other_messages (st : Stepper) (s : Schema) (answers : Answers)
    (state : Derived) :
    (∀ k, (st.next s answers state).2.errors.get? k =
      ((checkPage st.compiler s answers st.step state).errors.get? k).or
        (if k ∈ s.pageFieldIds st.step then none else st.errors.get? k)) ∧
    (∀ k, k ∉ s.pageFieldIds st.step →
      (st.next s answers state).2.errors.get? k = st.errors.get? k) ∧
    (∀ e, (st.next s answers state).1 = .blocked e ↔
      e = (checkPage st.compiler s answers st.step state).errors ∧
        (checkPage st.compiler s answers st.step state).errors.isEmpty = false) ∧
    (st.next s answers state).2.submitted = st.submitted := by
  refine ⟨get?_next_errors, fun k hk => ?_, fun e => ?_, ?_⟩
  · -- off the page the check has no message for `k`
    have hnone : (checkPage st.compiler s answers st.step state).errors.get? k = none :=
      Option.eq_none_iff_forall_ne_some.2 fun m hm => hk (mem_pageFieldIds_of_get?_checkPage hm)
    rw [get?_next_errors, hnone, Option.none_or, if_neg hk]
  · rcases @next_cases st s answers state with ⟨hok, h⟩ | ⟨hok, -, h⟩ | ⟨hok, -, h⟩ <;>
      simp only [PageCheck.ok] at hok <;> simp [h, hok, eq_comm]
  · rcases @next_cases st s answers state with ⟨-, h⟩ | ⟨-, -, h⟩ | ⟨-, -, h⟩ <;> simp [h]

end Stepper

end Flow
end Questionnaire
