/-!
# Command lines

A command line is read against a `Grammar`: a tree of commands, each with options, operands and
subcommands. Options start with one dash and a letter, several of which may stand together, or with
two dashes and a name; their value follows behind `=`, directly behind the letter, or as the next
argument. Global options are allowed at every command below the one that has them. Behind `--`
there are only operands.

An option may also be given by an environment variable, and may have a default. A value is checked
where it is read, and what is missing or does not go together is noticed at the end of a command,
after its subcommands. The first flaw that is met is the one that is reported.

## Main statements

* `valueOf_commandLine`: what stands on the command line goes before everything else.
-/

namespace Remit.Cli

/-! ### Grammars -/

/-- Why a command line is not carried out. The path names the command it was about. -/
inductive Refusal where
  | help (path : List String)
  | version (path : List String)
  /-- A command was given nothing at all, not even one of its subcommands. -/
  | nothingGiven (path : List String)
  | missingSubcommand
  | invalidSubcommand
  | unknownArgument
  | missingArgument
  /-- Two arguments that do not go together, or one that is given twice. -/
  | conflict
  /-- A value is missing. -/
  | missingValue
  /-- A value is not what it should be. -/
  | badValue
  /-- A value for an option that takes none. -/
  | unwantedValue
  deriving DecidableEq

/-- What an option does. -/
inductive Effect where
  /-- It takes a value, which is checked. -/
  | value (check : String → Option Refusal)
  | flag
  | help
  | version

/-- An option of a command. -/
structure OptionSpec where
  long : String
  short : Option Char := none
  effect : Effect
  isGlobal : Bool := false
  /-- The environment variable that stands for it. -/
  standIn : Option String := none
  fallback : Option String := none

/-- A condition on what is given to a command. -/
inductive Rule where
  /-- The two are not given together. -/
  | exclusive (a b : String)
  /-- It is given, or else the other one is, if there is another one. -/
  | required (name : String) (unlessGiven : Option String)

/-- A command with its options, operands, conditions and subcommands. -/
inductive Grammar where
  | command (name : String) (options : List OptionSpec) (operands : List String)
      (rules : List Rule) (subcommands : List Grammar)

namespace Grammar

/-- The name of a command. -/
def name : Grammar → String
  | command name _ _ _ _ => name

/-- The options of a command, without inherited ones. -/
def options : Grammar → List OptionSpec
  | command _ options _ _ _ => options

/-- The names of the operands. -/
def operands : Grammar → List String
  | command _ _ operands _ _ => operands

/-- The conditions of a command. -/
def rules : Grammar → List Rule
  | command _ _ _ rules _ => rules

/-- The subcommands. One of them has to follow, if there are any. -/
def subcommands : Grammar → List Grammar
  | command _ _ _ _ subcommands => subcommands

/-- The subcommand with the given name. -/
def subcommand? (g : Grammar) (name : String) : Option Grammar :=
  g.subcommands.find? (·.name == name)

end Grammar

/-- The options that every command has. -/
def commonOptions : List OptionSpec :=
  [{ long := "help", short := some 'h', effect := .help },
   { long := "version", short := some 'V', effect := .version }]

/-! ### Values -/

/-- Where a value comes from; a later one goes before an earlier one. -/
inductive Source where
  | default
  | environment
  | commandLine
  deriving DecidableEq

/-- The place of a source among all. -/
def Source.rank : Source → Nat
  | default => 0
  | environment => 1
  | commandLine => 2

/-- What is known of an option or operand. -/
structure Given where
  name : String
  source : Source
  value : String

/-- A command on the command line with all that is known for it. -/
structure Level where
  command : String
  given : List Given

/-- What is known of an option or operand at a command. -/
def Level.find? (level : Level) (name : String) : Option Given :=
  level.given.find? (·.name == name)

/-- Prefers what comes from a higher source, and the later of two from one source. -/
def prefer : Option Given → Option Given → Option Given
  | some a, some b => if a.source.rank > b.source.rank then some a else some b
  | some a, none => some a
  | none, b => b

/-- The value of an option that may stand at several commands. -/
def valueOf (levels : List Level) (name : String) : Option String :=
  (levels.foldl (fun best level => prefer best (level.find? name)) none).map (·.value)

/-! ### Reading one command -/

/-- An option or operand that was met, whose value may still be to come. -/
structure Held where
  name : String
  check : String → Option Refusal
  value : Option String

/-- How far a command has been read. -/
structure State where
  /-- Names and values that were checked, newest first. -/
  checked : List (String × String) := []
  held : Option Held := none
  operands : List String
  /-- There are only operands to come. -/
  afterDashes : Bool := false

namespace State

/-- The next argument is the value of an option, unless it is an option itself. -/
def awaitsValue (s : State) : Bool :=
  match s.held with
  | some held => held.value.isNone
  | none => false

/-- Takes over a value that is not given yet. -/
def record (s : State) (name value : String) : Except Refusal State :=
  if (s.checked.lookup name).isSome then .error .conflict
  else .ok { s with checked := (name, value) :: s.checked }

/-- Checks what is held. -/
def settle (s : State) : Except Refusal State :=
  match s.held with
  | none => .ok s
  | some held =>
    match held.value with
    | none => .error .missingValue
    | some value => do
      let s ← { s with held := none }.record held.name value
      match held.check value with
      | some refusal => .error refusal
      | none => .ok s

/-- Holds an option whose value is the next argument. -/
def await (s : State) (o : OptionSpec) (check : String → Option Refusal) :
    Except Refusal State := do
  .ok { ← s.settle with held := some ⟨o.long, check, none⟩ }

/-- Takes an option with its value. -/
def give (s : State) (o : OptionSpec) (check : String → Option Refusal) (value : String) :
    Except Refusal State := do
  let s ← s.settle
  { s with held := some ⟨o.long, check, some value⟩ }.settle

/-- Takes an option that has no value. -/
def raise (s : State) (path : List String) (o : OptionSpec) : Except Refusal State := do
  let s ← s.settle
  match o.effect with
  | .help => .error (.help path)
  | .version => .error (.version path)
  | _ => s.record o.long "true"

end State

/-- Reads an argument that starts with two dashes. -/
def readLong (path : List String) (options : List OptionSpec) (s : State) (text : List Char) :
    Except Refusal State :=
  let name := String.ofList (text.takeWhile (· ≠ '='))
  let value : Option String :=
    match text.dropWhile (· ≠ '=') with
    | [] => none
    | _ :: value => some (String.ofList value)
  match options.find? (·.long == name) with
  | none => .error .unknownArgument
  | some o =>
    match o.effect, value with
    | .value check, some value => s.give o check value
    | .value check, none => s.await o check
    | _, some _ => .error .unwantedValue
    | _, none => s.raise path o

/-- Reads the letters behind a single dash. -/
def readShort (path : List String) (options : List OptionSpec) (s : State) :
    List Char → Except Refusal State
  | [] => .ok s
  | c :: rest =>
    match options.find? (·.short == some c) with
    | none => .error .unknownArgument
    | some o =>
      match o.effect, rest with
      | .value check, [] => s.await o check
      | .value check, '=' :: value => s.give o check (String.ofList value)
      | .value check, value => s.give o check (String.ofList value)
      | _, rest => do readShort path options (← s.raise path o) rest

/-- Reads an argument that belongs to an option before it, or is an operand. -/
def readPlain (g : Grammar) (s : State) (text : String) : Except Refusal State :=
  match s.afterDashes, s.held with
  | false, some ⟨name, check, none⟩ =>
    .ok { s with held := some ⟨name, check, some text⟩ }
  | _, _ =>
    match s.operands with
    | name :: rest => do
      let s ← s.settle
      .ok { s with held := some ⟨name, fun _ => none, some text⟩, operands := rest }
    | [] =>
      if s.afterDashes && (text == "help" && !g.subcommands.isEmpty || (g.subcommand? text).isSome)
      then .error .unknownArgument
      else if !g.subcommands.isEmpty && g.operands.isEmpty then .error .invalidSubcommand
      else .error .unknownArgument

/-- Reads an argument that is no subcommand. -/
def readArgument (path : List String) (g : Grammar) (options : List OptionSpec) (s : State)
    (text : String) : Except Refusal State :=
  if s.afterDashes then readPlain g s text
  else
    match text.toList with
    | ['-', '-'] => .ok { s with afterDashes := true }
    | '-' :: '-' :: long => readLong path options s long
    | '-' :: c :: rest => readShort path options s (c :: rest)
    | _ => readPlain g s text

/-! ### The end of a command -/

/-- What environment variables say about options that are not on the command line. -/
def fromEnvironment (environment : List (String × String)) (s : State) :
    List OptionSpec → Except Refusal (List Given)
  | [] => .ok []
  | o :: rest =>
    match o.effect, o.standIn.bind fun v => environment.lookup v, s.checked.lookup o.long with
    | .value check, some value, none =>
      match check value with
      | some refusal => .error refusal
      | none => do .ok (⟨o.long, .environment, value⟩ :: (← fromEnvironment environment s rest))
    | _, _, _ => fromEnvironment environment s rest

/-- The defaults of options. -/
def defaults (options : List OptionSpec) : List Given :=
  options.filterMap fun o => o.fallback.map fun value => ⟨o.long, .default, value⟩

/-- The condition holds for what was given by the user. -/
def Rule.check (given : List Given) : Rule → Except Refusal Unit
  | exclusive a b =>
    if given.any (·.name == a) && given.any (·.name == b) then .error .conflict else .ok ()
  | required name unlessGiven =>
    if given.any fun g => g.name == name || some g.name == unlessGiven then .ok ()
    else .error .missingArgument

/-- Puts together what is known for a command and checks its conditions. -/
def finish (environment : List (String × String)) (path : List String) (g : Grammar)
    (options : List OptionSpec) (s : State) (hasSubcommand : Bool) : Except Refusal Level := do
  let s ← s.settle
  let fromUser := s.checked.map fun (name, value) => Given.mk name .commandLine value
  let given := fromUser ++ (← fromEnvironment environment s options)
  if !hasSubcommand && !g.subcommands.isEmpty then
    .error (if given.isEmpty then .nothingGiven path else .missingSubcommand)
  else do
    g.rules.forM (Rule.check given)
    .ok ⟨g.name, given ++ defaults options⟩

/-! ### The whole command line -/

/-- Follows names of subcommands to the one whose help is asked for. -/
def helpOn (path : List String) (subcommands : List Grammar) : List String → Refusal
  | [] => .help path
  | name :: rest =>
    if name == "help" && !subcommands.isEmpty then
      if rest.isEmpty then .help (path ++ [name]) else .invalidSubcommand
    else
      match subcommands.find? (·.name == name) with
      | some g => helpOn (path ++ [name]) g.subcommands rest
      | none => .invalidSubcommand

/-- Reads a command that has been read up to a state, and its subcommands. -/
def readCommand (environment : List (String × String)) (path : List String) (g : Grammar)
    (inherited : List OptionSpec) (s : State) : List String → Except Refusal (List Level)
  | [] => do
    let options := g.options ++ inherited ++ commonOptions
    .ok [← finish environment path g options s false]
  | text :: rest =>
    let options := g.options ++ inherited ++ commonOptions
    let mayBeSubcommand := !s.afterDashes && !s.awaitsValue
    if mayBeSubcommand && text == "help" && !g.subcommands.isEmpty then
      .error (helpOn path g.subcommands rest)
    else
      match if mayBeSubcommand then g.subcommand? text else none with
      | some sub => do
        let inherited := g.options.filter (·.isGlobal) ++ inherited
        let levels ← readCommand environment (path ++ [sub.name]) sub inherited
          { operands := sub.operands } rest
        .ok ((← finish environment path g options s true) :: levels)
      | none => do
        readCommand environment path g inherited (← readArgument path g options s text) rest

/-- Reads a command line without the name of the program. -/
def read (g : Grammar) (environment : List (String × String)) (arguments : List String) :
    Except Refusal (List Level) :=
  readCommand environment [g.name] g [] { operands := g.operands } arguments

/-! ### Laws -/

theorem prefer_commandLine (best : Option Given) {g : Given} (h : g.source = .commandLine) :
    prefer best (some g) = some g := by
  cases best with
  | none => rfl
  | some a =>
    have : ¬ a.source.rank > g.source.rank := by
      rw [h]; cases a.source <;> decide
    simp [prefer, this]

theorem valueOf_commandLine (levels : List Level) (level : Level) {name : String} {g : Given}
    (h : level.find? name = some g) (hs : g.source = .commandLine) :
    valueOf (levels ++ [level]) name = some g.value := by
  simp [valueOf, h, prefer_commandLine _ hs]

end Remit.Cli
