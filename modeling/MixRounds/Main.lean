import MixRounds.Command.Program

/-!
# The executable

All that touches the world: the arguments, the files that settings are looked for in, a random seed for
the signing key, standard output and the exit code.  What is done with them is `Command.run`.
-/

namespace MixRounds

/-- The text of the file at a path, if it can be read. -/
def readText? (path : String) : IO (Option String) := do
  try
    return some (← IO.FS.readFile path)
  catch _ =>
    return none

/-- The directory of the user's own settings: an absolute path from the environment, or one below the
home directory. -/
def userDirectory : IO String := do
  let home := ((← IO.getEnv "HOME").getD "") ++ "/.config"
  match ← IO.getEnv "XDG_CONFIG_HOME" with
  | some path => return if path.startsWith "/" then path else home
  | none => return home

/-- Those of the files that can be read, with their texts. -/
def readTexts : List String → IO (List (String × String))
  | [] => return []
  | path :: rest => do
      let texts ← readTexts rest
      match ← readText? path with
      | some text => return (path, text) :: texts
      | none => return texts

/-- Run the program with these arguments; the exit code. -/
def runProgram (args : List String) : IO UInt32 := do
  let directory ← userDirectory
  let texts ← readTexts (Command.placesFor directory args)
  let seed := (← IO.getRandomBytes 32).toList
  let now := Instant.ofMillis (← IO.monoMsNow)
  let ending := Command.run (.ofTexts texts) directory seed now args
  IO.print ending.stdout
  return ending.code.toUInt32

end MixRounds

/-- The entry point. -/
def main (args : List String) : IO UInt32 := MixRounds.runProgram args
