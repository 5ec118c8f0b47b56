import Questionnaire.CommandLine.Parse
import Questionnaire.Flow.PageCheck
import Questionnaire.Failure
import Questionnaire.Config
import Questionnaire.Schema.Json
import Questionnaire.Rules.Json
import Questionnaire.Json.Stream
import Questionnaire.Json.Write

/-!
# Command line — running a task

A task reads its files through a view of the file system, so that it is a
function of the command line, the files and the reference day. The settings
file is read first, then the form, then the answers; the first failure ends
the run with `Error: <failure>` on standard error and exit code 2.

* `check` prints the integrity report and fails (exit 1) on an error issue;
* `evaluate` prints the derived state, or with `--trace` the whole pass;
* `validate` prints the check of one page, or of every page, and fails
  (exit 1) when a field fails; a page past the last is a failure.

Results are printed as indented JSON followed by a line break. Future dates
are refused against the reference day the caller passes in.

**Main definitions.** `ReadFault`, `Files`, `Exit`, `Invocation.run`,
`runCommandLine`.
-/

namespace Questionnaire
namespace CommandLine

open Json Schema

/-- **Why a file could not be read.** -/
inductive ReadFault where
  | notFound
  | isDirectory
  | notDirectory
  | other (message : String)
  deriving Inhabited

/-- The system's sentence for a read fault. -/
def ReadFault.text : ReadFault → String
  | .notFound => "No such file or directory (os error 2)"
  | .isDirectory => "Is a directory (os error 21)"
  | .notDirectory => "Not a directory (os error 20)"
  | .other m => m

/-- **A view of the files**: the text of a path, or why it cannot be read. -/
abbrev Files := String → Except ReadFault String

/-- **How a run ends**: the exit code and the two output streams. -/
structure Exit where
  code : Nat
  stdout : String := ""
  stderr : String := ""
  deriving Inhabited

/-- The settings of the `--config` file; the defaults without one. -/
def loadConfig (files : Files) : Option String → Except Failure Config
  | none => .ok {}
  | some p =>
    match files p with
    | .error .isDirectory => .error (.config ("Failed to parse " ++ p ++ ": " ++ ReadFault.isDirectory.text))
    | .error f => .error (.config ("Failed to open " ++ p ++ ": " ++ f.text))
    | .ok text =>
      match decodeText .stream Config.decode text with
      | .ok c => .ok c
      | .error e => .error (.config ("Failed to parse " ++ p ++ ": " ++ e.message))

/-- The form of a file. -/
def loadSchema (files : Files) (p : String) : Except Failure Schema :=
  match files p with
  | .error f => .error (.internal ("Failed to read schema file " ++ p ++ ": " ++ f.text))
  | .ok text =>
    match decodeText .memory Schema.decode text with
    | .ok s => .ok s
    | .error e => .error (.schema ("Failed to parse form schema: " ++ e.message))

/-- The answers of a file; none without one. -/
def loadAnswers (files : Files) : Option String → Except Failure Answers
  | none => .ok {}
  | some p =>
    match files p with
    | .error f => .error (.internal ("Failed to read answers file " ++ p ++ ": " ++ f.text))
    | .ok text =>
      match decodeText .memory Answers.decode text with
      | .ok a => .ok a
      | .error e => .error (.internal ("Failed to parse answers file " ++ p ++ ": " ++ e.message))

/-- **Performs a task**: what to print, and whether it succeeded. -/
def Task.perform (t : Task) (config : Config) (files : Files) (today : Calendar.Date) :
    Except Failure (Value × Bool) :=
  match t with
  | .check p => do
    let report := Questionnaire.Schema.check (← loadSchema files p) config
    pure (report.toValue, report.isOk)
  | .evaluate p answers trace => do
    let s ← loadSchema files p
    let a ← loadAnswers files answers
    let pass := Rules.evaluateWithTrace config.limits s.rules a s.allFields
    pure (if trace then pass.toValue else pass.state.toValue, true)
  | .validate p answers step => do
    let s ← loadSchema files p
    let a ← loadAnswers files answers
    let state := Rules.evaluate config.limits s.rules a s.allFields
    let compiler : Validation.Compiler := { messages := config.messages, today }
    let result ← match step with
      | some n =>
        if n ≥ s.pageCount then throw (Failure.stepOutOfRange n s.pageCount)
        else pure (Flow.checkPage compiler s a n state)
      | none => pure (Flow.checkAll compiler s a state)
    pure (result.toValue, result.ok)

/-- **Runs an understood command line.** -/
def Invocation.run (inv : Invocation) (files : Files) (today : Calendar.Date) : Exit :=
  match (do inv.task.perform (← loadConfig files inv.config) files today) with
  | .ok (v, ok) => { code := if ok then 0 else 1, stdout := v.pretty ++ "\n" }
  | .error f => { code := 2, stderr := "Error: " ++ f.text ++ "\n" }

/-- The files a command line reads, in the order it reads them. -/
def Invocation.paths (inv : Invocation) : List String :=
  inv.config.toList ++ match inv.task with
    | .check p => [p]
    | .evaluate p a _ => p :: a.toList
    | .validate p a _ => p :: a.toList

/-- **Runs the program** on the words after its name. -/
def runCommandLine (words : List String) (files : Files) (today : Calendar.Date) : Exit :=
  match readCommandLine words with
  | .ok inv => inv.run files today
  | .error (.display text) => { code := 0, stdout := text }
  | .error (.refuse text) => { code := 2, stderr := text }

end CommandLine
end Questionnaire
