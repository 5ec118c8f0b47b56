import Mathlib.Data.List.DropRight
import Questionnaire.Validation.Compile
/-!
# Validation — what required-ness adds

A field's validator is compiled with two flags, required and visible. A
hidden field's validator accepts everything. A visible field's check reads
the answer first; when the input is **empty for its kind** it stops there,
failing with the kind's message if the field is required and passing if
not; otherwise it runs its constraints, which never look at the flag. So
required-ness only adds refusals, and only of empty inputs: the validator
compiled required refuses the empty inputs with the kind's message and
otherwise agrees with the one compiled optional (`RequiredLaw`).

The one place an optional check refuses an empty input is the agreement
box that must be checked, left unchecked; it refuses it with the same
message, so even there required-ness changes nothing.

`requiredLaw_text` to `requiredLaw_files` prove the law kind by kind, one
case per shape of answer; `compileField_required_refuses_only_empty` reads
it off for every field that takes input.
-/

namespace Questionnaire

namespace Text

theorem trimChars_eq_nil_iff (cs : List Char) : trimChars cs = [] ↔ ∀ c ∈ cs, isBlank c = true := by
  rw [trimChars, List.reverse_eq_nil_iff, List.dropWhile_eq_nil_iff]
  simp only [List.mem_reverse]
  -- what is left after dropping the leading blanks is all blank only if nothing is left
  rw [← List.dropWhile_eq_nil_iff, List.dropWhile_idempotent, List.dropWhile_eq_nil_iff]

/-- **A text trims to nothing exactly when it is blank.** -/
theorem isEmpty_trim (s : String) : (trim s).isEmpty = isBlankText s := by
  rw [Bool.eq_iff_iff, String.isEmpty_iff, trim, isBlankText, List.all_eq_true,
    ← trimChars_eq_nil_iff]
  simp

end Text

namespace Validation

open Schema

namespace Check

/-- **The inputs a check reads as empty**: no answer and `null` for every
check; the empty text for texts, single and several choices; a blank text
for numbers and dates; an empty list for several choices and files; no
files; and, for an agreement box, leaving it unchecked. -/
def isEmptyInput : Check → Option Answer → Bool
  | _, none | _, some .null => true
  | .text _, some (.text s) | .choice .., some (.text s) | .multiChoice .., some (.text s) =>
    s.isEmpty
  | .number .., some (.text s) | .date .., some (.text s) => Text.isBlankText s
  | .multiChoice .., some (.list items) | .files _, some (.list items) => items.isEmpty
  | .files _, some (.files fs) => fs.isEmpty
  | .agreement .., some (.bool b) => !b
  | _, _ => false

/-- The message a required check refuses an empty input with. -/
def emptyMessage (m : Catalog) : Check → String
  | .multiChoice .. => m.selectAtLeastOne
  | .agreement .. => m.mustAgree
  | .files _ => m.fileRequired
  | _ => m.required

theorem isEmptyInput_none (ch : Check) : ch.isEmptyInput none = true := by
  cases ch <;> rfl

end Check

/-- **Required-ness adds refusals of empty inputs and nothing else.** `vr`
is a field's validator compiled required, `vo` the same compiled optional. -/
structure RequiredLaw (vr vo : Validator) : Prop where
  /-- Optional, no answer passes. -/
  optional_none : vo.validate none = .ok ()
  /-- Required, an empty input fails with the kind's message, and any other
  input fares as it does optional. -/
  eq : ∀ v, vr.validate v =
    if vr.check.isEmptyInput v then .error (vr.check.emptyMessage vr.messages) else vo.validate v
  /-- Optional, an empty input fails, if at all, with that same message. -/
  empty_message : ∀ v msg, vr.check.isEmptyInput v = true → vo.validate v = .error msg →
    msg = vr.check.emptyMessage vr.messages

namespace RequiredLaw

variable {vr vo : Validator}

theorem required_none (law : RequiredLaw vr vo) :
    vr.validate none = .error (vr.check.emptyMessage vr.messages) := by
  rw [law.eq, if_pos (Check.isEmptyInput_none _)]

/-- **What the optional validator refuses, the required one refuses with the
same message.** -/
theorem keeps (law : RequiredLaw vr vo) {v : Option Answer} {msg : String}
    (h : vo.validate v = .error msg) : vr.validate v = .error msg := by
  rw [law.eq]
  split
  next he => rw [law.empty_message v msg he h]
  next => exact h

end RequiredLaw

/-! ## The law, kind by kind

Each check reads the answer (`null` as none) and stops at an empty one; the
cases follow the shapes an answer can have. -/

variable {fid : String} {m : Catalog}

/-- A read that fails ends the check. -/
theorem throw_bind_verdict {α : Type} (e : String) (f : α → Verdict) :
    (throw e >>= f : Verdict) = .error e := rfl

open Validator

theorem requiredLaw_text (e : Bool) (p : Option Pattern.Regex) (pm : Option String)
    (lo hi : Option Nat) :
    RequiredLaw ⟨fid, .text ⟨true, e, p, pm, lo, hi⟩, m⟩
      ⟨fid, .text ⟨false, e, p, pm, lo, hi⟩, m⟩ where
  optional_none := rfl
  eq v := by
    rcases v with _ | (_ | b | x | s | items | fs)
    case some.text =>
      cases hs : s.isEmpty
      · simp only [validate, validateText, Check.isEmptyInput, hs, pure_bind, Bool.false_eq_true,
          if_false]
      · simp only [validate, validateText, Check.isEmptyInput, hs, pure_bind, if_true]
        rfl
    all_goals rfl
  empty_message v msg hv h := by
    rcases v with _ | (_ | b | x | s | items | fs)
    case some.text =>
      simp only [validate, validateText, pure_bind, show s.isEmpty = true from hv, if_true] at h
      cases h
    all_goals cases hv
    all_goals cases h

theorem requiredLaw_number (lo hi : Option Float) :
    RequiredLaw ⟨fid, .number true lo hi, m⟩ ⟨fid, .number false lo hi, m⟩ where
  optional_none := rfl
  eq v := by
    rcases v with _ | (_ | b | x | s | items | fs)
    -- a blank text is no number
    case some.text =>
      cases hs : Text.isBlankText s
      · simp only [validate, validateNumber, Check.isEmptyInput, hs, pure_bind, Bool.false_eq_true,
          if_false]
      · simp only [validate, validateNumber, Check.isEmptyInput, hs, pure_bind, if_true]
        rfl
    all_goals rfl
  empty_message v msg hv h := by
    rcases v with _ | (_ | b | x | s | items | fs)
    case some.text =>
      simp only [validate, validateNumber, pure_bind, show Text.isBlankText s = true from hv,
        if_true] at h
      cases h
    all_goals cases hv
    all_goals cases h

theorem requiredLaw_date (lo hi : Option Calendar.Date) (future : Bool) (today : Calendar.Date) :
    RequiredLaw ⟨fid, .date true lo hi future today, m⟩
      ⟨fid, .date false lo hi future today, m⟩ where
  optional_none := rfl
  eq v := by
    rcases v with _ | (_ | b | x | s | items | fs)
    case none | some.null => rfl
    -- a date is read trimmed, so a blank text is empty
    case some.text =>
      cases hs : Text.isBlankText s
      · simp only [validate, validateDate, Check.isEmptyInput, Text.isEmpty_trim, hs, pure_bind,
          Bool.false_eq_true, if_false]
      · simp only [validate, validateDate, Check.isEmptyInput, Text.isEmpty_trim, hs, pure_bind,
          if_true]
        rfl
    -- not a text: both fail at the read, before the date is parsed
    all_goals simp only [validate, validateDate, Check.isEmptyInput, throw_bind_verdict,
      Bool.false_eq_true, if_false]
  empty_message v msg hv h := by
    rcases v with _ | (_ | b | x | s | items | fs)
    case some.text =>
      simp only [validate, validateDate, pure_bind, Text.isEmpty_trim,
        show Text.isBlankText s = true from hv, if_true] at h
      cases h
    all_goals cases hv
    all_goals cases h

theorem requiredLaw_choice (allowed : Option (List String)) :
    RequiredLaw ⟨fid, .choice true allowed, m⟩ ⟨fid, .choice false allowed, m⟩ where
  optional_none := rfl
  eq v := by
    rcases v with _ | (_ | b | x | s | items | fs)
    case some.text =>
      cases hs : s.isEmpty
      · simp only [validate, validateChoice, Check.isEmptyInput, hs, pure_bind, Bool.false_eq_true,
          if_false]
      · simp only [validate, validateChoice, Check.isEmptyInput, hs, pure_bind, if_true]
        rfl
    all_goals rfl
  empty_message v msg hv h := by
    rcases v with _ | (_ | b | x | s | items | fs)
    case some.text =>
      simp only [validate, validateChoice, pure_bind, show s.isEmpty = true from hv, if_true] at h
      cases h
    all_goals cases hv
    all_goals cases h

theorem requiredLaw_multiChoice (allowed : Option (List String)) :
    RequiredLaw ⟨fid, .multiChoice true allowed, m⟩ ⟨fid, .multiChoice false allowed, m⟩ where
  optional_none := rfl
  eq v := by
    rcases v with _ | (_ | b | x | s | items | fs)
    -- the empty text stands for no choice; any other text is the wrong type
    case some.text =>
      cases hs : s.isEmpty
      · simp only [validate, validateMultiChoice, Check.isEmptyInput, hs, Bool.false_eq_true,
          if_false, throw_bind_verdict]
      · simp only [validate, validateMultiChoice, Check.isEmptyInput, hs, pure_bind, if_true]
        rfl
    case some.list =>
      cases hi : items.isEmpty
      · simp only [validate, validateMultiChoice, Check.isEmptyInput, hi, pure_bind,
          Bool.false_eq_true, if_false]
      · simp only [validate, validateMultiChoice, Check.isEmptyInput, hi, pure_bind, if_true]
        rfl
    all_goals rfl
  empty_message v msg hv h := by
    rcases v with _ | (_ | b | x | s | items | fs)
    case some.text =>
      simp only [validate, validateMultiChoice, pure_bind, show s.isEmpty = true from hv,
        if_true] at h
      cases h
    case some.list =>
      simp only [validate, validateMultiChoice, pure_bind, show items.isEmpty = true from hv,
        if_true] at h
      cases h
    all_goals cases hv
    all_goals cases h

theorem requiredLaw_agreement (mustBeTrue : Bool) :
    RequiredLaw ⟨fid, .agreement true mustBeTrue, m⟩ ⟨fid, .agreement false mustBeTrue, m⟩ where
  optional_none := rfl
  eq v := by
    rcases v with _ | (_ | b | x | s | items | fs)
    case some.bool => cases b <;> rfl
    all_goals rfl
  empty_message v msg hv h := by
    rcases v with _ | (_ | b | x | s | items | fs)
    -- an unchecked box that must be checked is refused with the same message
    case some.bool =>
      cases b
      · cases mustBeTrue
        · cases h
        · cases h
          rfl
      · cases hv
    all_goals cases hv
    all_goals cases h

theorem requiredLaw_files (maxFiles maxSize : Option Nat) (accepted : Option (List String)) :
    RequiredLaw ⟨fid, .files ⟨true, maxFiles, maxSize, accepted⟩, m⟩
      ⟨fid, .files ⟨false, maxFiles, maxSize, accepted⟩, m⟩ where
  optional_none := rfl
  eq v := by
    rcases v with _ | (_ | b | x | s | items | fs)
    -- an empty list stands for no files; any other list is the wrong type
    case some.list =>
      cases items
      · rfl
      · simp only [validate, validateFiles, Check.isEmptyInput, List.isEmpty_cons,
          Bool.false_eq_true, if_false, throw_bind_verdict]
    case some.files =>
      cases hf : fs.isEmpty
      · simp only [validate, validateFiles, Check.isEmptyInput, hf, pure_bind,
          Bool.false_eq_true, if_false]
      · simp only [validate, validateFiles, Check.isEmptyInput, hf, pure_bind, if_true]
        rfl
    all_goals rfl
  empty_message v msg hv h := by
    rcases v with _ | (_ | b | x | s | items | fs)
    case some.list =>
      cases items
      · cases h
      · cases hv
    case some.files =>
      simp only [validate, validateFiles, pure_bind, show fs.isEmpty = true from hv, if_true] at h
      cases h
    all_goals cases hv
    all_goals cases h

/-! ## Fields -/

namespace Compiler

variable {c : Compiler} {f : Field}

theorem compileField_visible (hf : f.kind.isValidatable = true) (r : Bool) :
    c.compileField f r true = some ⟨f.id, c.checkFor f r, c.messages⟩ := by
  simp [compileField, hf]

theorem compileField_hidden (hf : f.kind.isValidatable = true) (r : Bool) :
    c.compileField f r false = some ⟨f.id, .permissive, c.messages⟩ := by
  simp [compileField, hf]

/-- **Every field that takes input obeys the law**: its check is one of the
seven kinds, each compiled with the flag it is given. -/
theorem requiredLaw_checkFor (c : Compiler) (f : Field) (hf : f.kind.isValidatable = true) :
    RequiredLaw ⟨f.id, c.checkFor f true, c.messages⟩ ⟨f.id, c.checkFor f false, c.messages⟩ := by
  unfold checkFor
  cases hk : f.kind with
  | text | textarea | email => exact requiredLaw_text ..
  | number => exact requiredLaw_number ..
  | date => exact requiredLaw_date ..
  | select | radio => exact requiredLaw_choice ..
  | checkbox =>
    -- a checkbox with options takes several choices, without them it is an agreement
    cases f.hasOptions
    · exact requiredLaw_agreement ..
    · exact requiredLaw_multiChoice ..
  | multiselect => exact requiredLaw_multiChoice ..
  | file => exact requiredLaw_files ..
  | paragraph | divider | spacer | image => simp [FieldKind.isValidatable, hk] at hf

end Compiler

/-- **Required-ness only adds refusals, and only of empty inputs.** For a
field that takes input, compiled hidden its validator accepts every input;
compiled visible and optional it accepts no answer; compiled visible and
required it refuses no answer with the kind's message, refuses whatever the
optional one refuses with the same message, and differs from it only on the
kind's empty inputs. -/
theorem compileField_required_refuses_only_empty (c : Compiler) (f : Field)
    (hf : f.kind.isValidatable = true) :
    ∃ vr vo : Validator, c.compileField f true true = some vr ∧
      c.compileField f false true = some vo ∧
      (∀ (r : Bool) (v : Option Answer),
        ∃ vh : Validator, c.compileField f r false = some vh ∧ vh.validate v = .ok ()) ∧
      vo.validate none = .ok () ∧
      vr.validate none = .error (vr.check.emptyMessage c.messages) ∧
      (∀ v msg, vo.validate v = .error msg → vr.validate v = .error msg) ∧
      ∀ v, vr.validate v =
        if vr.check.isEmptyInput v then .error (vr.check.emptyMessage c.messages)
        else vo.validate v := by
  have law := Compiler.requiredLaw_checkFor c f hf
  exact ⟨_, _, Compiler.compileField_visible hf true, Compiler.compileField_visible hf false,
    fun r _ => ⟨_, Compiler.compileField_hidden hf r, rfl⟩, law.optional_none, law.required_none,
    fun _ _ h => law.keeps h, law.eq⟩

/-- An agreement box: optional it accepts no answer, required it refuses no
answer with the message to check the box. -/
theorem compileField_required_refuses_only_empty_agreement :
    (Field.new "terms" .checkbox).kind.isValidatable = true ∧
    ∃ vr vo : Validator,
      Compiler.compileField { today := ⟨2024, 1, 1⟩ } (Field.new "terms" .checkbox) true true =
        some vr ∧
      Compiler.compileField { today := ⟨2024, 1, 1⟩ } (Field.new "terms" .checkbox) false true =
        some vo ∧
      (∀ (r : Bool) (v : Option Answer), ∃ vh : Validator,
        Compiler.compileField { today := ⟨2024, 1, 1⟩ } (Field.new "terms" .checkbox) r false =
          some vh ∧ vh.validate v = .ok ()) ∧
      vo.validate none = .ok () ∧
      vr.validate none =
        .error (vr.check.emptyMessage ({ today := ⟨2024, 1, 1⟩ } : Compiler).messages) ∧
      (∀ v msg, vo.validate v = .error msg → vr.validate v = .error msg) ∧
      ∀ v, vr.validate v =
        if vr.check.isEmptyInput v
        then .error (vr.check.emptyMessage ({ today := ⟨2024, 1, 1⟩ } : Compiler).messages)
        else vo.validate v :=
  ⟨rfl, compileField_required_refuses_only_empty _ _ rfl⟩

end Validation
end Questionnaire
