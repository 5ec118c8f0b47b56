import Questionnaire.CommandLine.Grammar
import Questionnaire.CommandLine.Similar

/-!
# Command line — reading the words

The words after the program name are read left to right, one command level
at a time. At the program level a word naming a subcommand hands the rest
of the words to that subcommand; `help` instead prints the help page of the
commands named after it.

* `--long` and `--long=value` name a switch by its long name; `-abc` is a
  cluster of short names, and an option in a cluster takes the rest of the
  word as its value (after an optional `=`), or else the next word.
* `--` ends the switches: every later word is positional.
* An option's value is checked, and a repeated switch refused, when the
  next switch or positional argument is read, or at the end; an unknown
  switch is reported before that.
* At the end, a missing required argument is reported with a usage line
  naming what was given; the program level with no words at all prints its
  help page as an error, and with some words but no subcommand asks for one.

Help and version requests print to standard output and succeed; every fault
prints to standard error.

**Main definitions.** `Task`, `Invocation`, `Fault`, `Halt`, `readCommandLine`.
-/

namespace Questionnaire
namespace CommandLine

/-- **What the program is asked to do.** -/
inductive Task where
  | check (schema : String)
  | evaluate (schema : String) (answers : Option String) (trace : Bool)
  | validate (schema : String) (answers : Option String) (step : Option Nat)
  deriving Inhabited

/-- **A command line understood**: the task and the common switches. -/
structure Invocation where
  task : Task
  config : Option String := none
  verbose : Bool := false
  deriving Inhabited

/-- **Why a command line was refused.** -/
inductive Fault where
  /-- A word that is no argument here, perhaps with a similar switch, the
  subcommand where the switch exists, and whether to suggest `--`. -/
  | unknownArgument (word : String) (similar : Option String) (elsewhere : Option (String × String))
      (asValue : Bool) (usage : String)
  /-- A word in the place of a subcommand that names none. -/
  | unknownCommand (word : String) (similar : List String) (usage : String)
  /-- A subcommand name after `--`. -/
  | commandAfterDashes (word : String) (usage : String)
  | missingArguments (names : List String) (usage : String)
  | missingCommand (names : List String) (usage : String)
  | emptyValue (arg : String)
  | invalidValue (value arg reason : String)
  | repeated (arg : String) (usage : String)
  | extraValue (value arg : String) (usage : String)
  deriving Inhabited

/-- **How the reading stopped** short of a task. -/
inductive Halt where
  /-- A help page or the version, on standard output. -/
  | display (text : String)
  /-- A refusal, on standard error. -/
  | refuse (text : String)
  deriving Inhabited

namespace Fault

/-- A quoted word. -/
def quoted (s : String) : String := "\x27" ++ s ++ "\x27"

/-- The tips after a message: the similar names, then the other advice. -/
def tips (what : String) (similar : List String) (advice : List String) : String :=
  let first := match similar with
    | [] => ""
    | [one] => "\n\n  tip: a similar " ++ what ++ " exists: " ++ quoted one
    | many => "\n\n  tip: some similar " ++ what ++ "s exist: " ++ ", ".intercalate (many.map quoted)
  let rest := if advice.isEmpty then "" else
    (if similar.isEmpty then "\n" else "") ++ String.join (advice.map ("\n  tip: " ++ ·))
  first ++ rest

/-- The usage part of a message. -/
def usageLine (usage : String) : String := "\n\nUsage: " ++ usage

/-- The message of a fault, and whether to point to `--help`. -/
def message : Fault → String
  | .unknownArgument w similar elsewhere asValue usage =>
    "unexpected argument " ++ quoted w ++ " found" ++
      tips "argument" similar.toList
        ((if asValue then ["to pass " ++ quoted w ++ " as a value, use " ++ quoted ("-- " ++ w)] else []) ++
          (match elsewhere with
           | some (sub, flag) => [quoted (sub ++ " " ++ flag) ++ " exists"]
           | none => [])) ++
      usageLine usage
  | .unknownCommand w similar usage =>
    "unrecognized subcommand " ++ quoted w ++ tips "subcommand" similar [] ++ usageLine usage
  | .commandAfterDashes w usage =>
    "unexpected argument " ++ quoted w ++ " found" ++
      tips "argument" [] ["subcommand " ++ quoted w ++ " exists; to use it, remove the " ++
        quoted "--" ++ " before it"] ++ usageLine usage
  | .missingArguments names usage =>
    "the following required arguments were not provided:" ++
      String.join (names.map ("\n  " ++ ·)) ++ usageLine usage
  | .missingCommand names usage =>
    quoted programName ++ " requires a subcommand but one was not provided\n  [subcommands: " ++
      ", ".intercalate names ++ "]" ++ usageLine usage
  | .emptyValue arg => "a value is required for " ++ quoted arg ++ " but none was supplied"
  | .invalidValue v arg reason => "invalid value " ++ quoted v ++ " for " ++ quoted arg ++ ": " ++ reason
  | .repeated arg usage => "the argument " ++ quoted arg ++ " cannot be used multiple times" ++ usageLine usage
  | .extraValue v arg usage =>
    "unexpected value " ++ quoted v ++ " for " ++ quoted arg ++ " found; no more were expected" ++
      usageLine usage

/-- **The text of a fault** raised while reading command `c`. -/
def render (c : Command) (f : Fault) : String :=
  "error: " ++ f.message ++
    (if c.switches.any (fun s => s.action == .help) || !c.subcommands.isEmpty
     then "\n\nFor more information, try " ++ quoted (if c.switches.any (fun s => s.action == .help) then "--help" else "help") ++ ".\n"
     else "\n")

end Fault

/-- Reads a count the way unsigned machine integers are read: an optional
`+`, then decimal digits, at most `2^64 - 1`. -/
def readCount (s : String) : Except String Nat :=
  let tooBig := "number too large to fit in target type"
  let bad := "invalid digit found in string"
  match s.toList with
  | [] => .error "cannot parse integer from empty string"
  | ['+'] => .error bad
  | cs =>
    let digits := match cs with
      | '+' :: rest => rest
      | _ => cs
    digits.foldlM (fun (n : Nat) c =>
      if c.isDigit then
        let m := n * 10 + (c.toNat - '0'.toNat)
        if m ≥ Nat.pow 2 64 then .error tooBig else .ok m
      else .error bad) 0

/-- **An argument awaiting or holding its value.** -/
inductive Slot where
  | switch (s : Switch)
  | positional (p : Positional)
  deriving Inhabited

/-- How an argument is quoted. -/
def Slot.display : Slot → String
  | .switch s => s.display
  | .positional p => { p with required := true }.display

/-- **What one command level has read.** -/
structure Level where
  /-- The switches given, in the order first given, with their values. -/
  seen : List (String × Option String) := []
  /-- The positional values. -/
  values : List String := []
  /-- The argument whose value comes next, or came last and is not yet checked. -/
  pending : Option (Slot × Option String) := none
  /-- Whether `--` was read. -/
  afterDashes : Bool := false
  deriving Inhabited

namespace Level

/-- The ids of the arguments given so far. -/
def given (lv : Level) (c : Command) : List String :=
  lv.seen.map Prod.fst ++ (c.positionals.take lv.values.length).map Positional.id

/-- The value of a switch. -/
def value? (lv : Level) (id : String) : Option String := (lv.seen.lookup id).getD none

/-- Whether a switch was given. -/
def has (lv : Level) (id : String) : Bool := (lv.seen.lookup id).isSome

/-- How many positional values are taken, the pending one included. -/
def positionCount (lv : Level) : Nat :=
  lv.values.length + match lv.pending with
    | some (.positional _, _) => 1
    | _ => 0

/-- Checks a value given to an argument. -/
def checkValue (slot : Slot) (v : String) : Except Fault Unit :=
  match slot with
  | .switch s =>
    if s.kind == .count then
      match readCount v with
      | .ok _ => .ok ()
      | .error reason => .error (.invalidValue v s.display reason)
    else if v.isEmpty then .error (.emptyValue s.display) else .ok ()
  | .positional _ => if v.isEmpty then .error (.emptyValue slot.display) else .ok ()

/-- **Records an argument** with its value, refusing a repeated switch. -/
def record (c : Command) (lv : Level) (slot : Slot) (v : Option String) : Except Fault Level := do
  match slot with
  | .switch s =>
    if lv.has s.id then throw (.repeated s.display c.helpUsage)
    if let some x := v then checkValue slot x
    pure { lv with seen := lv.seen ++ [(s.id, v)] }
  | .positional _ =>
    if let some x := v then checkValue slot x
    pure { lv with values := lv.values ++ v.toList }

/-- **Settles the pending argument**: an option still without a value is a fault. -/
def settle (c : Command) (lv : Level) : Except Fault Level :=
  match lv.pending with
  | none => .ok lv
  | some (slot, none) => .error (.emptyValue slot.display)
  | some (slot, some v) => record c { lv with pending := none } slot (some v)

/-- The level with the pending argument settled if it can be, as it was otherwise. -/
def settleQuietly (c : Command) (lv : Level) : Level :=
  match lv.settle c with
  | .ok l => l
  | .error _ => { lv with pending := none }

end Level

/-- **The similar long switch** for an unknown one: among the command's own
switches, or among a subcommand's that is named later on the line. -/
def similarSwitch (c : Command) (name : String) (later : List String) :
    Option (String × Option String) :=
  match (similarNames name (c.switches.map Switch.long)).getLast? with
  | some cand => some (cand, none)
  | none =>
    let found := c.subcommands.filterMap fun sub =>
      match (similarNames name (sub.switches.map Switch.long)).getLast?, later.idxOf? sub.name with
      | some cand, some pos => some (cand, sub.name, pos)
      | _, _ => none
    match found with
    | [] => none
    | f :: fs =>
      let best := fs.foldl (fun b x => if x.2.2 ≥ b.2.2 then x else b) f
      some (best.1, some best.2.1)

/-- The fault of an unknown long switch `--name`. -/
def unknownLong (c : Command) (lv : Level) (name : String) (later : List String) : Fault :=
  let lv := lv.settleQuietly c
  let found := similarSwitch c name later
  let given := lv.given c
  let used := match found with
    | some (cand, none) =>
      match c.byLong? cand with
      | some s => if given.contains s.id then given else given ++ [s.id]
      | none => given
    | _ => given
  let asValue := found.isNone && !lv.afterDashes && !c.positionals.isEmpty
  match found with
  | some (cand, none) => .unknownArgument ("--" ++ name) (some ("--" ++ cand)) none asValue (c.usageOf used)
  | some (cand, some sub) =>
    .unknownArgument ("--" ++ name) none (some (sub, "--" ++ cand)) asValue (c.usageOf used)
  | none => .unknownArgument ("--" ++ name) none none asValue (c.usageOf used)

/-- **The help page asked for** by `help` followed by command names. -/
def helpFor (c : Command) : List String → Halt
  | [] => .display c.helpText
  | w :: ws =>
    match c.subcommand? w with
    | some sub => helpFor sub ws
    | none => .refuse (Fault.render c (.unknownCommand w [] c.helpUsage))

/-- What reading one level came to. -/
inductive LevelEnd where
  /-- The words ran out. -/
  | done (lv : Level)
  /-- A subcommand takes the rest of the words. -/
  | enter (lv : Level) (sub : Command) (rest : List String)
  deriving Inhabited

/-- A fault raised at command `c`, as a halt. -/
def refuseAt {α : Type} (c : Command) (f : Fault) : Except Halt α := .error (.refuse (Fault.render c f))

/-- Lifts a check at command `c`. -/
def atCommand {α : Type} (c : Command) : Except Fault α → Except Halt α
  | .ok a => .ok a
  | .error f => refuseAt c f

/-- The version line. -/
def versionText : String := programName ++ " " ++ programVersion ++ "\n"

/-- **Reacts to a known switch** given without an attached value. -/
def react (c : Command) (lv : Level) (s : Switch) : Except Halt Level := do
  let lv ← atCommand c (lv.settle c)
  match s.action with
  | .help => throw (.display c.helpText)
  | .version => throw (.display versionText)
  | .flag => atCommand c (lv.record c (.switch s) none)
  | .value => pure { lv with pending := some (.switch s, none) }

/-- **Reacts to a known switch** given with an attached value. -/
def reactWith (c : Command) (lv : Level) (s : Switch) (v : String) (used : List String) :
    Except Halt Level := do
  if s.takesValue then
    let lv ← atCommand c (lv.settle c)
    atCommand c (lv.record c (.switch s) (some v))
  else
    refuseAt c (.extraValue v s.display (c.usageWith (used ++ [s.id])))

/-- Reads a cluster of short switches, the characters after the dash. -/
def readShorts (c : Command) (lv : Level) : List Char → Except Halt Level
  | [] => .ok lv
  | ch :: rest =>
    match c.byShort? ch with
    | none =>
      refuseAt c (.unknownArgument ("-" ++ String.singleton ch) none none
        (!lv.afterDashes && !c.positionals.isEmpty) c.helpUsage)
    | some s =>
      if s.takesValue then
        let attached := match rest with
          | '=' :: v => some (String.ofList v)
          | [] => none
          | v => some (String.ofList v)
        match attached with
        | some v => reactWith c lv s v []
        | none => react c lv s
      else do
        let lv ← react c lv s
        readShorts c lv rest

/-- Reads a positional word. -/
def readPositional (c : Command) (lv : Level) (w : String) : Except Halt Level :=
  match lv.pending with
  | some (.switch s, none) => .ok { lv with pending := some (.switch s, some w) }
  | _ =>
    match c.positionals[lv.positionCount]? with
    | some p => do
      let lv ← atCommand c (lv.settle c)
      pure { lv with pending := some (.positional p, some w) }
    | none =>
      if lv.afterDashes && (c.subcommand? w).isSome then
        refuseAt c (.commandAfterDashes w c.helpUsage)
      else if !c.subcommands.isEmpty then
        refuseAt c (.unknownCommand w (similarNames w (c.subcommands.map Command.name)) c.helpUsage)
      else
        let isSwitch := w.startsWith "-" && w != "-"
        refuseAt c (.unknownArgument w none none (!lv.afterDashes && !c.positionals.isEmpty && isSwitch)
          c.helpUsage)

/-- **Reads the words of one command level.** -/
def readLevel (c : Command) (lv : Level) : List String → Except Halt LevelEnd
  | [] => .ok (.done lv)
  | w :: rest =>
    if lv.afterDashes then do
      readLevel c (← readPositional c lv w) rest
    else
      match c.subcommand? w with
      | some sub =>
        if sub.name == "help" then .error (helpFor c rest)
        else .ok (.enter lv sub rest)
      | none =>
        if w == "--" then readLevel c { lv with afterDashes := true } rest
        else if w.startsWith "--" then do
          let body := w.toList.drop 2
          let name := String.ofList (body.takeWhile (· != '='))
          let attached := if body.contains '=' then some (String.ofList ((body.dropWhile (· != '=')).drop 1))
            else none
          match c.byLong? name with
          | none => refuseAt c (unknownLong c lv name rest)
          | some s =>
            let lv ← match attached with
              | some v => reactWith c lv s v (lv.given c |>.filter fun id =>
                  !(c.positionals.any fun p => p.required && p.id == id))
              | none => react c lv s
            readLevel c lv rest
        else if w.startsWith "-" && w != "-" then do
          readLevel c (← readShorts c lv (w.toList.drop 1)) rest
        else do
          readLevel c (← readPositional c lv w) rest

/-- **Finishes a subcommand level**: the pending value, then the required arguments. -/
def finishLevel (c : Command) (lv : Level) : Except Halt Level := do
  let lv ← atCommand c (lv.settle c)
  let missing := (c.positionals.drop lv.values.length).filter Positional.required
  if missing.isEmpty then pure lv
  else
    let names := missing.map fun p => { p with required := true }.display
    refuseAt c (.missingArguments names (c.usageWith (lv.given c ++ missing.map Positional.id)))

/-- The task of a subcommand from what its level read. -/
def taskOf (sub : Command) (lv : Level) : Task :=
  let schema := lv.values.headD ""
  match sub.name with
  | "evaluate" => .evaluate schema (lv.value? "answers") (lv.has "trace")
  | "validate" => .validate schema (lv.value? "answers") ((lv.value? "step").bind fun v => (readCount v).toOption)
  | _ => .check schema

/-- **Reads a command line**, the words after the program name. -/
def readCommandLine (words : List String) : Except Halt Invocation := do
  match ← readLevel root {} words with
  | .done lv =>
    let lv ← atCommand root (lv.settle root)
    if lv.seen.isEmpty then throw (.refuse root.helpText)
    refuseAt root (.missingCommand (root.subcommands.map Command.name) root.helpUsage)
  | .enter lv sub rest =>
    let slv ← match ← readLevel sub {} rest with
      | .done slv => finishLevel sub slv
      | .enter slv _ _ => finishLevel sub slv
    let lv ← atCommand root (lv.settle root)
    pure { task := taskOf sub slv
           config := (slv.value? "config").orElse fun _ => lv.value? "config"
           verbose := slv.has "verbose" || lv.has "verbose" }

end CommandLine
end Questionnaire
