import Questionnaire.CommandLine.Run
import Std.Time.DateTime.Timestamp

/-!
# The program

Reads the files the command line names, takes today's date from the system
clock (in UTC), runs the command line, and prints what it printed, ending
with its exit code.
-/

open Questionnaire Questionnaire.CommandLine

/-- The reason a file could not be read, as the program reports it. -/
def readFault (e : IO.Error) : ReadFault :=
  match e with
  | .noFileOrDirectory _ _ _ => .notFound
  | .inappropriateType _ 21 _ => .isDirectory
  | .inappropriateType _ 20 _ => .notDirectory
  | _ => .other (toString e)

/-- Reads one file. -/
def readPath (p : String) : IO (Except ReadFault String) := do
  try
    pure (.ok (← IO.FS.readFile p))
  catch e =>
    pure (.error (readFault e))

/-- Today in UTC. -/
def today : IO Calendar.Date := do
  pure (Calendar.Date.ofUnixDays (← Std.Time.Timestamp.now).toDaysSinceUnixEpoch.val)

def main (args : List String) : IO UInt32 := do
  let day ← today
  let read ← match readCommandLine args with
    | .ok inv => inv.paths.mapM fun p => do pure (p, ← readPath p)
    | .error _ => pure []
  let files : Files := fun p => (read.lookup p).getD (.error .notFound)
  let exit := runCommandLine args files day
  IO.print exit.stdout
  IO.eprint exit.stderr
  pure exit.code.toUInt32
