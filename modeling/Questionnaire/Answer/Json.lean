import Questionnaire.Answer.Basic
import Questionnaire.Json.Decode
import Questionnaire.Ids

/-!
# Answer — answers as JSON

An answer is written without a tag, so reading one tries the shapes in order:
`null`, a truth value, any number, a text, an array of texts (the empty array
among them), an array of file records. Anything else, such as an object, a
mixed array or an array of numbers, is no answer. A file record needs a name
and may carry a size (a natural number below `2^64`), a media type and an
address; unknown keys are ignored.

Written back, a number that is not finite becomes `null`, and a file record
leaves out its missing parts.

**Main definitions.** `FileRef.decode`, `Answer.ofValue`, `Answer.decode`,
`Answer.toValue`, `Answers`, `Answers.decode`.
-/

namespace Questionnaire

open Json

/-- **The answers of a form**, by field id. -/
abbrev Answers := IdMap Answer

namespace FileRef

/-- The record of a file reference. -/
def decode {m : Type → Type} [Monad m] [Decoder m] : m FileRef :=
  Decoder.record "FileRef"
    [ { key := "name", required := true, read := fun f => do
          let v ← Decoder.string
          pure { f with name := v } },
      { key := "size", read := fun f => do
          let v ← Decoder.option (Decoder.natUpTo u64Max "u64")
          pure { f with size := v } },
      { key := "mimeType", read := fun f => do
          let v ← Decoder.option Decoder.string
          pure { f with mimeType := v } },
      { key := "url", read := fun f => do
          let v ← Decoder.option Decoder.string
          pure { f with url := v } } ]
    { name := "" }

/-- A file record as a JSON object, missing parts left out. -/
def toValue (f : FileRef) : Value :=
  .obj ([("name", Value.str f.name)] ++
    (f.size.map fun n => [("size", Value.num (.nat n))]).getD [] ++
    (f.mimeType.map fun t => [("mimeType", Value.str t)]).getD [] ++
    (f.url.map fun u => [("url", Value.str u)]).getD [])

end FileRef

namespace Answer

/-- The texts of an array whose items are all texts. -/
def textsOf : List Value → Option (List String)
  | [] => some []
  | .str s :: rest => (textsOf rest).map (s :: ·)
  | _ :: _ => none

/-- The shapes of an answer, tried in order. -/
def shapes : List (Value → Except Error Answer) :=
  [ fun v => match v with
      | .null => .ok .null
      | _ => .error (.of (.untaggedMismatch "")),
    fun v => match v with
      | .bool b => .ok (.bool b)
      | _ => .error (.of (.untaggedMismatch "")),
    fun v => match v with
      | .num n => .ok (.number n.toFloat)
      | _ => .error (.of (.untaggedMismatch "")),
    fun v => match v with
      | .str s => .ok (.text s)
      | _ => .error (.of (.untaggedMismatch "")),
    fun v => match v with
      | .arr items =>
        match textsOf items with
        | some ts => .ok (.list ts)
        | none => .error (.of (.untaggedMismatch ""))
      | _ => .error (.of (.untaggedMismatch "")),
    fun v => match v with
      | .arr items => Answer.files <$> items.mapM (decodeValue FileRef.decode)
      | _ => .error (.of (.untaggedMismatch "")) ]

/-- **An answer from a value**, by the first shape that fits. -/
def ofValue (v : Value) : Except Error Answer :=
  match Decoder.firstOk shapes v with
  | some a => .ok a
  | none => .error (.of (.untaggedMismatch "AnswerValue"))

/-- An answer from any JSON source. -/
def decode {m : Type → Type} [Monad m] [Decoder m] : m Answer :=
  Decoder.untagged "AnswerValue" shapes

/-- **An answer as JSON**; a number that is not finite is `null`. -/
def toValue : Answer → Value
  | .null => .null
  | .bool b => .bool b
  | .number x => if x.isFinite then .num (.float x) else .null
  | .text s => .str s
  | .list items => .arr (items.map Value.str)
  | .files fs => .arr (fs.map FileRef.toValue)

end Answer

namespace Answers

/-- Answers from a JSON object of field id to answer; of repeated ids the
later wins. -/
def decode {m : Type → Type} [Monad m] [Decoder m] : m Answers :=
  IdMap.ofList <$> Decoder.map Answer.decode

/-- Answers as a JSON object, in id order. -/
def toValue (a : Answers) : Value := .obj (a.toList.map fun (k, v) => (k, v.toValue))

end Answers

end Questionnaire
