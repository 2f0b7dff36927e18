import MixRounds.Command.Arguments

/-!
# Help

The help on the program and on each command is laid out from the grammar that reads the arguments: what
it is for, how it is used, and a table of commands or options.  The explanations stand in a column of
their own, two blanks after the longest of the entries they explain.
-/

namespace MixRounds.Command

/-- What the version option prints. -/
def versionLine : String := "ms 0.1.0\n"

/-- Rows of an entry and its explanation under a title. -/
def table (title : String) (rows : List (String × String)) : String :=
  let width := rows.foldl (fun w row => max w row.1.length) 0
  title ++ ":\n" ++ String.join (rows.map fun row =>
    "  " ++ row.1 ++ "".pushn ' ' (width + 2 - row.1.length) ++ row.2 ++ "\n")

/-- How an option is written. -/
def Flag.usage (f : Flag) : String :=
  let letter := match f.short with
    | some c => "-" ++ String.singleton c ++ ", "
    | none => "    "
  let value :=
    if f.takes = .nothing then ""
    else " <" ++ String.map (fun c => if c = '-' then '_' else c.toUpper) f.long ++ ">"
  letter ++ "--" ++ f.long ++ value

/-- What an option does, with its preset value. -/
def Flag.explanation (f : Flag) : String :=
  f.about ++ match f.preset with
    | some value => " [default: " ++ value ++ "]"
    | none => ""

/-- The table of the options of a command. -/
def optionTable (g : Grammar) : String :=
  table "Options" (g.flags.map fun f => (f.usage, f.explanation))

/-- What the help command is for. -/
def helpAbout : String := "Print this message or the help of the given subcommand(s)"

/-- The help on the program. -/
def programHelp : String :=
  program.about ++ "\n\nUsage: ms [OPTIONS] <COMMAND>\n\n" ++
    table "Commands" (commands.map (fun g => (g.name, g.about)) ++ [(helpName, helpAbout)]) ++ "\n" ++
    optionTable program ++ "\nLog verbosity follows RUST_LOG unless --log-level is given\n"

/-- The help on a command. -/
def commandHelp (name : String) : String :=
  match commands.find? fun g => g.name == name with
  | some g => g.about ++ "\n\nUsage: ms " ++ g.name ++ " [OPTIONS]\n\n" ++ optionTable g
  | none =>
      helpAbout ++ "\n\nUsage: ms help [COMMAND]...\n\n" ++
        table "Arguments" [("[COMMAND]...", "Print help for the subcommand(s)")]

/-- What is printed instead of running a command; faults print nothing on standard output. -/
def UsageFault.output : UsageFault → Option String
  | help none => some programHelp
  | help (some name) => some (commandHelp name)
  | version => some versionLine
  | _ => none

end MixRounds.Command
