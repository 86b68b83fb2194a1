import Remit.Cli.Command

/-!
# What is shown instead of a result

The text about a command that is shown when help is asked for, and the lines for a command line
that is not carried out.
-/

namespace Remit.Cli

/-! ### Commands -/

/-- The command that names lead to, looking from the given one. -/
def Grammar.follow (g : Grammar) : List String → Option Grammar
  | [] => some g
  | name :: rest => (g.subcommand? name).bind (Grammar.follow · rest)

/-- How an option is written. -/
def OptionSpec.usage (o : OptionSpec) : String :=
  let short := match o.short with
    | some c => s!"-{c}, "
    | none => "    "
  match o.effect with
  | .value _ => s!"  {short}--{o.long} <{o.long}>"
  | _ => s!"  {short}--{o.long}"

/-- The text about a command, whose path starts with the name of the program. -/
def usage (path : List String) : List String :=
  let g := (grammar.follow (path.drop 1)).getD grammar
  let own := if path.length ≤ 1 then g.options else g.options ++ globalOptions
  let operands := g.operands.map fun name => s!" <{name}>"
  let command := if g.subcommands.isEmpty then "" else " <command>"
  let commands :=
    if g.subcommands.isEmpty then []
    else ["", "Commands:"] ++ g.subcommands.map (fun sub => s!"  {sub.name}") ++ ["  help"]
  let name := String.intercalate " " path
  [s!"Usage: {name} [options]{String.join operands}{command}"] ++ commands ++
    ["", "Options:"] ++ (own ++ commonOptions).map OptionSpec.usage

/-! ### Refusals -/

/-- Asking for help or for the version is no mistake. -/
def Refusal.isAnswered : Refusal → Bool
  | help _ | version _ => true
  | _ => false

/-- What is wrong with a command line. -/
def Refusal.reason : Refusal → String
  | help _ | version _ | nothingGiven _ => ""
  | missingSubcommand => "a command is missing"
  | invalidSubcommand => "there is no such command"
  | unknownArgument => "an argument is not known here"
  | missingArgument => "a required argument is missing"
  | conflict => "arguments do not go together"
  | missingValue => "the value of an argument is missing"
  | badValue => "the value of an argument cannot be read"
  | unwantedValue => "an argument has a value that takes none"

/-- What is shown for a command line that is not carried out. -/
def Refusal.lines : Refusal → List String
  | help path | nothingGiven path => usage path
  | version path => [versionText path]
  | refusal => [s!"error: {refusal.reason}", "", "For more information, try --help."]

/-- The exit code for a command line that is not carried out. -/
def Refusal.exitCode (refusal : Refusal) : UInt32 := if refusal.isAnswered then 0 else 2

end Remit.Cli
