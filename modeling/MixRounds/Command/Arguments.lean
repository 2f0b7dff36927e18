import MixRounds.Decimal.Scan

/-!
# The arguments of the program

The program has two options of its own, which may also stand after a command, and two commands:
`simulate`, with options of its own, and `config`.

An option's value is the next argument, or is attached to it.  A value that does not begin with a
hyphen is taken for what it is even if it names a command; an argument that begins with one is never a
value.  The value of an option is looked at only when the next option comes or the arguments of its
command end, so of two mistakes the one that is looked at first is reported.
-/

namespace MixRounds.Command

/-- What is wrong with the arguments, or what they ask for instead of a command. -/
inductive UsageFault where
  | argumentConflict
  | invalidSubcommand
  | invalidValue
  | missingSubcommand
  | tooManyValues
  | unknownArgument
  | valueValidation
  /-- Help on the program, or on the command of that name. -/
  | help (command : Option String)
  /-- Help because no command was given. -/
  | helpForNothing
  | version
  deriving DecidableEq, Repr

namespace UsageFault

/-- The name of the fault for programs that read answers. -/
def code : UsageFault → String
  | argumentConflict => "ArgumentConflict"
  | invalidSubcommand => "InvalidSubcommand"
  | invalidValue => "InvalidValue"
  | missingSubcommand => "MissingSubcommand"
  | tooManyValues => "TooManyValues"
  | unknownArgument => "UnknownArgument"
  | valueValidation => "ValueValidation"
  | help _ => "DisplayHelp"
  | helpForNothing => "DisplayHelpOnMissingArgumentOrSubcommand"
  | version => "DisplayVersion"

end UsageFault

/-- What an option takes. -/
inductive Takes where
  /-- Nothing: it is on or off. -/
  | nothing
  | text
  /-- A path, which is not empty. -/
  | path
  /-- A whole number of 64 bits. -/
  | word
  | real
  deriving DecidableEq, Repr

/-- What an option is for. -/
inductive Purpose where
  | setting
  | help
  | version
  deriving DecidableEq, Repr

/-- An option. -/
structure Flag where
  long : String
  short : Option Char
  takes : Takes
  purpose : Purpose
  /-- What it does, in a few words. -/
  about : String
  /-- The value in use when none is given. -/
  preset : Option String
  deriving DecidableEq, Repr

/-- A command with its options. -/
structure Grammar where
  name : String
  about : String
  flags : List Flag
  deriving Repr

def helpFlag : Flag := ⟨"help", some 'h', .nothing, .help, "Print help", none⟩

/-- The options that may stand before or after a command. -/
def sharedFlags : List Flag :=
  [⟨"config", some 'c', .path, .setting, "Path to config file", none⟩,
   ⟨"log-level", some 'l', .text, .setting, "Log level (trace, debug, info, warn, error)", none⟩]

/-- The program itself. -/
def program : Grammar :=
  ⟨"ms", "Round scheduler for a permissioned mix-network",
    sharedFlags ++ [helpFlag,
      ⟨"version", some 'V', .nothing, .version, "Print version", none⟩]⟩

/-- The command that drives simulated nodes; its options are listed as help shows them. -/
def simulateGrammar : Grammar :=
  ⟨"simulate", "Drive simulated nodes through rounds against a live scheduler",
    [⟨"config", some 'c', .path, .setting, "Path to config file", none⟩,
     ⟨"nodes", some 'n', .word, .setting, "Number of nodes to register", some "10"⟩,
     ⟨"log-level", some 'l', .text, .setting, "Log level (trace, debug, info, warn, error)", none⟩,
     ⟨"rounds", some 'r', .word, .setting, "Stop after this many rounds have completed or failed",
      some "5"⟩,
     ⟨"deadline-secs", none, .word, .setting, "Give up after this many seconds", some "120"⟩,
     ⟨"failure-rate", none, .real, .setting,
      "Probability that a node errors out instead of reaching standby", some "0.0"⟩,
     ⟨"json", none, .nothing, .setting, "Print the report as JSON", none⟩,
     helpFlag]⟩

/-- The command that prints the settings. -/
def configGrammar : Grammar :=
  ⟨"config", "Print the effective configuration", sharedFlags ++ [helpFlag]⟩

/-- The commands that do something. -/
def commands : List Grammar := [simulateGrammar, configGrammar]

/-- The name of the command that explains the others. -/
def helpName : String := "help"

/-- Whether the word names a command. -/
def isCommandName (word : String) : Bool := word == helpName || commands.any fun g => g.name == word

/-! ## Values -/

/-- Check the value of an option. -/
def checkValue (takes : Takes) (value : String) : Except UsageFault Unit :=
  match takes with
  | .nothing | .text => .ok ()
  | .path => if value.isEmpty then .error .invalidValue else .ok ()
  | .word =>
      if (Decimal.natural? 10 UInt64.size value.toList).isSome then .ok () else .error .valueValidation
  | .real => if (Decimal.real? value.toList).isSome then .ok () else .error .valueValidation

/-- How far the arguments of one command have been read. -/
structure Reading where
  /-- The options given, with their values. -/
  given : List (String × String)
  /-- An option that waits for its value or was just given one. -/
  pending : Option (Flag × Option String)
  /-- Only plain arguments follow. -/
  onlyPlain : Bool

def Reading.start : Reading := ⟨[], none, false⟩

/-- Whether the next argument is the value of an option. -/
def Reading.expectsValue (r : Reading) : Bool :=
  match r.pending with
  | some (_, none) => true
  | _ => false

/-- Record an option and its value. -/
def record (r : Reading) (flag : Flag) (value : Option String) : Except UsageFault Reading :=
  match value with
  | none => .error .invalidValue
  | some value =>
      if r.given.any fun g => g.1 == flag.long then .error .argumentConflict
      else
        match checkValue flag.takes value with
        | .error fault => .error fault
        | .ok () => .ok { r with given := r.given ++ [(flag.long, value)] }

/-- Look at the option that is pending. -/
def resolve (r : Reading) : Except UsageFault Reading :=
  match r.pending with
  | none => .ok r
  | some (flag, value) => record { r with pending := none } flag value

/-- An option that takes nothing. -/
def switch (g : Grammar) (r : Reading) (flag : Flag) : Except UsageFault Reading :=
  match resolve r with
  | .error fault => .error fault
  | .ok r =>
      match flag.purpose with
      | .help => .error (.help (if g.name = program.name then none else some g.name))
      | .version => .error .version
      | .setting => record r flag (some "true")

/-- An option with an attached value, or one whose value is still to come. -/
def option (r : Reading) (flag : Flag) (attached : Option String) : Except UsageFault Reading :=
  match resolve r with
  | .error fault => .error fault
  | .ok r =>
      match attached with
      | some value => record r flag (some value)
      | none => .ok { r with pending := some (flag, none) }

/-- An argument that begins with two hyphens. -/
def longArgument (g : Grammar) (r : Reading) (body : List Char) : Except UsageFault Reading :=
  let name := String.ofList (body.takeWhile (· ≠ '='))
  let attached := match body.dropWhile (· ≠ '=') with
    | _ :: value => some (String.ofList value)
    | [] => none
  match g.flags.find? fun f => f.long == name with
  | none => .error .unknownArgument
  | some flag =>
      if flag.takes = .nothing then
        if attached.isSome then .error .tooManyValues else switch g r flag
      else option r flag attached

/-- An argument that begins with one hyphen: letters up to the first that takes a value, and that
value. -/
def shortArgument (g : Grammar) (r : Reading) : List Char → Except UsageFault Reading
  | [] => .ok r
  | letter :: rest =>
      match g.flags.find? fun f => f.short == some letter with
      | none => .error .unknownArgument
      | some flag =>
          if flag.takes = .nothing then
            match switch g r flag with
            | .error fault => .error fault
            | .ok r => shortArgument g r rest
          else
            option r flag (match rest with
              | [] => none
              | '=' :: value => some (String.ofList value)
              | value => some (String.ofList value))

/-- What is wrong with a plain argument where none is expected. -/
def plainFault (isProgram : Bool) (r : Reading) (word : String) : UsageFault :=
  if !isProgram then .unknownArgument
  else if r.onlyPlain && isCommandName word then .unknownArgument
  else .invalidSubcommand

/-- Help on the command that the words lead to. -/
def helpFault : List String → UsageFault
  | [] => .help none
  | [word] => if isCommandName word then .help (some word) else .invalidSubcommand
  | _ => .invalidSubcommand

/-- Read the arguments of the program or of a command, up to the name of a command; what was read, and
that name with the arguments after it. -/
def readLevel (g : Grammar) (isProgram : Bool) :
    Reading → List String → Except UsageFault (Reading × Option (String × List String))
  | r, [] => .ok (r, none)
  | r, word :: rest =>
      if r.onlyPlain then .error (plainFault isProgram r word)
      else if isProgram && !r.expectsValue && isCommandName word then .ok (r, some (word, rest))
      else
        match word.toList with
        | ['-', '-'] => readLevel g isProgram { r with onlyPlain := true } rest
        | '-' :: '-' :: body =>
            match longArgument g r body with
            | .error fault => .error fault
            | .ok r => readLevel g isProgram r rest
        | '-' :: c :: letters =>
            match shortArgument g r (c :: letters) with
            | .error fault => .error fault
            | .ok r => readLevel g isProgram r rest
        | _ =>
            match r.pending with
            | some (flag, none) =>
                readLevel g isProgram { r with pending := some (flag, some word) } rest
            | _ => .error (plainFault isProgram r word)

/-! ## Invocations -/

/-- What to simulate. -/
structure SimulateOptions where
  nodes : Nat
  rounds : Nat
  deadlineSecs : Nat
  failureRate : Float
  json : Bool

/-- What to do. -/
inductive Job where
  | simulate (options : SimulateOptions)
  | config

/-- A whole command line. -/
structure Invocation where
  config : Option String
  logLevel : Option String
  job : Job

/-- The value of an option, or the one preset for it. -/
def valueOf (g : Grammar) (r : Reading) (long : String) : Option String :=
  (r.given.lookup long).or ((g.flags.find? fun f => f.long == long).bind Flag.preset)

/-- The value of an option that takes a whole number. -/
def wordOf (g : Grammar) (r : Reading) (long : String) : Nat :=
  ((valueOf g r long).bind fun v => Decimal.natural? 10 UInt64.size v.toList).getD 0

/-- What a command and its options ask for. -/
def jobOf (name : String) (r : Reading) : Job :=
  if name = configGrammar.name then .config
  else
    let g := simulateGrammar
    .simulate ⟨wordOf g r "nodes", wordOf g r "rounds", wordOf g r "deadline-secs",
      ((valueOf g r "failure-rate").bind fun v => Decimal.real? v.toList).getD 0.0,
      (r.given.lookup "json").isSome⟩

/-- Read a command line. -/
def parse (args : List String) : Except UsageFault Invocation := do
  let (outer, command) ← readLevel program true .start args
  match command with
  | none =>
      let outer ← resolve outer
      .error (if outer.given.isEmpty then .helpForNothing else .missingSubcommand)
  | some (name, rest) =>
      match commands.find? fun g => g.name == name with
      | none => .error (helpFault rest)
      | some g =>
          let (inner, _) ← readLevel g false .start rest
          let inner ← resolve inner
          let outer ← resolve outer
          return ⟨(inner.given.lookup "config").or (outer.given.lookup "config"),
            (inner.given.lookup "log-level").or (outer.given.lookup "log-level"), jobOf name inner⟩

end MixRounds.Command
