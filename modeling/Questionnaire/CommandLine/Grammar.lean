/-!
# Command line — the grammar

The commands the interpreter answers to, their switches and their
positional arguments, and the texts that describe them: the help page of a
command and the one-line usage forms that error messages quote.

A switch is a flag, an option taking one value, or one of the two switches
that print the help page or the version. The configuration and verbosity
switches belong to every command. A help page lists, in this order, the
subcommands, the positional arguments and the switches, each section in
two columns: the names padded to the widest of the section, then two spaces
and the description.

**Main definitions.** `Switch`, `Positional`, `Command`, `Command.helpText`,
`Command.helpUsage`, `Command.usageWith`, `root`.
-/

namespace Questionnaire
namespace CommandLine

/-- The name the program calls itself by. -/
def programName : String := "formlogic"

/-- The version the program reports. -/
def programVersion : String := "0.1.0"

/-- **What a switch does** when it is given. -/
inductive Action where
  | flag
  | value
  | help
  | version
  deriving DecidableEq, Inhabited

/-- What an option's value must be. -/
inductive ValueKind where
  | path
  | count
  deriving DecidableEq, Inhabited

/-- **A named argument**: `-s` and `--long`, with a value for an option. -/
structure Switch where
  id : String
  short : Option Char := none
  long : String
  action : Action := .flag
  valueName : String := ""
  kind : ValueKind := .path
  help : String := ""
  deriving Inhabited

namespace Switch

/-- Whether the switch takes a value. -/
def takesValue (s : Switch) : Bool := s.action == .value

/-- How the switch is quoted: `--long`, with `<VALUE>` for an option. -/
def display (s : Switch) : String :=
  "--" ++ s.long ++ (if s.takesValue then " <" ++ s.valueName ++ ">" else "")

/-- The left column of the switch on a help page. -/
def column (s : Switch) : String :=
  (match s.short with
   | some c => "-" ++ String.singleton c ++ ", "
   | none => "    ") ++ s.display

end Switch

/-- **A positional argument.** -/
structure Positional where
  id : String
  valueName : String
  required : Bool := true
  many : Bool := false
  help : String := ""
  deriving Inhabited

/-- How a positional argument is quoted: `<NAME>`, or `[NAME]` when optional,
followed by `...` when it takes many values. -/
def Positional.display (p : Positional) : String :=
  (if p.required then "<" ++ p.valueName ++ ">" else "[" ++ p.valueName ++ "]") ++
    (if p.many then "..." else "")

/-- **A command**: its name as used in messages, its description, its
arguments, and the commands below it. -/
structure Command where
  name : String
  path : String
  about : String
  positionals : List Positional := []
  switches : List Switch := []
  subcommands : List Command := []
  deriving Inhabited

namespace Command

/-- The switch of a long name. -/
def byLong? (c : Command) (long : String) : Option Switch := c.switches.find? fun s => s.long == long

/-- The switch of a short name. -/
def byShort? (c : Command) (ch : Char) : Option Switch := c.switches.find? fun s => s.short == some ch

/-- The subcommand of a name. -/
def subcommand? (c : Command) (name : String) : Option Command :=
  c.subcommands.find? fun s => s.name == name

/-- The quoted form of an argument of the command, by its id. -/
def display? (c : Command) (id : String) : Option String :=
  match c.switches.find? (fun s => s.id == id) with
  | some s => some s.display
  | none => (c.positionals.find? fun p => p.id == id).map fun p => { p with required := true }.display

/-- Whether a usage line needs `[OPTIONS]`: some switch besides help and version. -/
def hasOptions (c : Command) : Bool := c.switches.any fun s => s.action == .flag || s.action == .value

/-- The subcommand placeholder of a usage line. -/
def commandTag (c : Command) : String := if c.subcommands.isEmpty then "" else " <COMMAND>"

/-- **The full usage line**: options, every positional, the subcommand. -/
def helpUsage (c : Command) : String :=
  c.path ++ (if c.hasOptions then " [OPTIONS]" else "") ++
    String.join ((c.positionals.filter Positional.required).map fun p => " " ++ p.display) ++
    String.join ((c.positionals.filter fun p => !p.required).map fun p => " " ++ p.display) ++
    c.commandTag

/-- **The usage line naming given arguments**: the switches among `ids` in
that order, then the positionals that are required or among `ids`. -/
def usageWith (c : Command) (ids : List String) : String :=
  let switches := ids.filterMap fun id => (c.switches.find? fun s => s.id == id).map Switch.display
  let positionals := (c.positionals.filter fun p => p.required || ids.contains p.id).map fun p =>
    { p with required := true }.display
  c.path ++ String.join ((switches.eraseDups ++ positionals).map (" " ++ ·)) ++ c.commandTag

/-- A usage line given no arguments: the full one. -/
def usageOf (c : Command) (ids : List String) : String :=
  if ids.isEmpty then c.helpUsage else c.usageWith ids

/-- Spaces to widen a text of `n` characters to `width`. -/
def pad (n width : Nat) : String := String.ofList (List.replicate (width - n) ' ')

/-- A two-column section: names padded to the widest, then descriptions. -/
def columns (rows : List (String × String)) (minWidth : Nat) : String :=
  let width := rows.foldl (fun w r => max w r.1.length) minWidth
  "\n".intercalate (rows.map fun (l, r) => "  " ++ l ++ pad l.length width ++ "  " ++ r)

/-- The text without trailing blanks and line breaks. -/
def trimEnd (s : String) : String :=
  String.ofList (s.toList.reverse.dropWhile Char.isWhitespace).reverse

/-- **The help page** of a command. -/
def helpText (c : Command) : String :=
  let commands := if c.subcommands.isEmpty then [] else
    ["Commands:\n" ++ columns (c.subcommands.map fun s => (s.name, s.about)) 0]
  let arguments := if c.positionals.isEmpty then [] else
    ["Arguments:\n" ++ columns (c.positionals.map fun p => (p.display, p.help)) 2]
  let options := if c.switches.isEmpty then [] else
    ["Options:\n" ++ columns (c.switches.map fun s => (s.column, s.help)) 2]
  trimEnd (c.about ++ "\n\nUsage: " ++ c.helpUsage ++ "\n\n" ++
    "\n\n".intercalate (commands ++ arguments ++ options)) ++ "\n"

end Command

/-- The configuration switch, common to every command. -/
def configSwitch : Switch :=
  { id := "config", short := some 'c', long := "config", action := .value, valueName := "CONFIG",
    help := "Path to interpreter config (limits, messages)" }

/-- The verbosity switch, common to every command. -/
def verboseSwitch : Switch :=
  { id := "verbose", short := some 'v', long := "verbose", help := "Enable debug mode" }

/-- The help switch. -/
def helpSwitch : Switch :=
  { id := "help", short := some 'h', long := "help", action := .help, help := "Print help" }

/-- The version switch, of the program itself only. -/
def versionSwitch : Switch :=
  { id := "version", short := some 'V', long := "version", action := .version,
    help := "Print version" }

/-- The answers file switch. -/
def answersSwitch (help : String) : Switch :=
  { id := "answers", short := some 'a', long := "answers", action := .value,
    valueName := "ANSWERS", help }

/-- The form file, the positional argument of every command that reads one. -/
def schemaArgument : Positional := { id := "schema", valueName := "SCHEMA" }

/-- The switches every command takes after its own. -/
def commonSwitches : List Switch := [configSwitch, verboseSwitch]

/-- `check`: the integrity report of a form. -/
def checkCommand : Command :=
  { name := "check", path := programName ++ " check",
    about := "Check a schema for duplicate ids, dangling references and broken constraints",
    positionals := [schemaArgument], switches := commonSwitches ++ [helpSwitch] }

/-- The switch asking for the fired rules too. -/
def traceSwitch : Switch :=
  { id := "trace", long := "trace", help := "Include the fired rules and raw outcome" }

/-- The switch choosing one page. -/
def stepSwitch : Switch :=
  { id := "step", short := some 's', long := "step", action := .value, valueName := "STEP",
    kind := .count }

/-- `evaluate`: the visible and required fields for some answers. -/
def evaluateCommand : Command :=
  { name := "evaluate", path := programName ++ " evaluate",
    about := "Print visible and required field ids for an answers snapshot",
    positionals := [schemaArgument],
    switches := [answersSwitch "JSON object of field id to answer", traceSwitch] ++
      commonSwitches ++ [helpSwitch] }

/-- `validate`: one page, or the whole form, checked. -/
def validateCommand : Command :=
  { name := "validate", path := programName ++ " validate",
    about := "Validate one page, or every page when no step is given",
    positionals := [schemaArgument],
    switches := [answersSwitch "", stepSwitch] ++ commonSwitches ++ [helpSwitch] }

/-- The commands whose help page is asked for. -/
def commandsArgument : Positional :=
  { id := "subcommand", valueName := "COMMAND", required := false, many := true,
    help := "Print help for the subcommand(s)" }

/-- `help`: the help page of a command. It reads only command names, so it
has no switches of its own. -/
def helpCommand : Command :=
  { name := "help", path := programName ++ " help",
    about := "Print this message or the help of the given subcommand(s)",
    positionals := [commandsArgument], switches := [] }

/-- **The program's command.** -/
def root : Command :=
  { name := programName, path := programName,
    about := "Form schema interpreter: conditional visibility, required-ness, per-field validation and multi-step navigation",
    switches := commonSwitches ++ [helpSwitch, versionSwitch],
    subcommands := [checkCommand, evaluateCommand, validateCommand, helpCommand] }

end CommandLine
end Questionnaire
