import MixRounds.Settings.File

/-!
# Finding the settings

A file named by the user must load.  Without one, the file of the working directory is tried and then
the user's own; one that does not load is passed over, and if none loads the built-in settings are in
use.
-/

namespace MixRounds.Settings

/-- The files that can be read: the text at a path, if there is a file. -/
structure Files where
  read? : String → Option String

namespace Files

/-- The names that a path is made of. -/
def steps (path : String) : List String := path.splitOn "/"

/-- One name further, from a place given by its names from the innermost outward: nothing and `.` stay,
`..` goes back. -/
def move (place : List String) (name : String) : List String :=
  if name = "" ∨ name = "." then place else if name = ".." then place.tail else name :: place

/-- The places that are passed on the way along a path, the last one first. -/
def trail (path : String) : List (List String) :=
  (steps path).foldl (fun places name => move (places.headD []) name :: places) [[]]

/-- Whether a place is a directory above one of the files. -/
def isDirectory (entries : List (String × String)) (place : List String) : Bool :=
  place.isEmpty || entries.any fun e => (trail e.1).tail.contains place

/-- One name further, which only a directory can be left by, and the working directory by no `..`. -/
def walk (entries : List (String × String)) (place : List String) (name : String) :
    Option (List String) :=
  if !isDirectory entries place ∨ (name = ".." ∧ place.isEmpty) then none else some (move place name)

/-- The files of a working directory, from their paths and texts, of which the last at a place counts;
nothing outside it can be read. -/
def inDirectory (entries : List (String × String)) : Files :=
  ⟨fun path =>
    if path.startsWith "/" ∨ path.endsWith "/" then none
    else
      ((steps path).foldlM (walk entries) []).bind fun place =>
        (entries.reverse.find? fun e => (trail e.1).head? = some place).map Prod.snd⟩

/-- Files that were read beforehand, each under the path it was asked for. -/
def ofTexts (texts : List (String × String)) : Files := ⟨fun path => texts.lookup path⟩

end Files

/-- Why a named file did not load. -/
inductive LoadFault where
  | unreadable (path : String)
  | unparsable (path : String)
  deriving DecidableEq, Repr

namespace LoadFault

/-- What failed, and why. -/
def messages : LoadFault → List String
  | unreadable path => ["Failed to load config from " ++ path, "Failed to read config file"]
  | unparsable path => ["Failed to load config from " ++ path, "Failed to parse config file"]

end LoadFault

/-- Load one file. -/
def loadFile (files : Files) (path : String) : Except LoadFault Settings :=
  match files.read? path with
  | none => .error (.unreadable path)
  | some text =>
      match ofFile? text with
      | none => .error (.unparsable path)
      | some s => .ok s

/-- Where settings are looked for when the user names no file, in order. -/
def usualPlaces (userDirectory : String) : List String :=
  [".mixsched.yml", userDirectory ++ "/mixsched/mixsched.yml"]

/-- The first of the places that loads. -/
def firstOf (files : Files) : List String → Settings
  | [] => builtIn
  | path :: rest =>
      match loadFile files path with
      | .ok s => s
      | .error _ => firstOf files rest

/-- Load the settings, from the named file if there is one. -/
def load (files : Files) (userDirectory : String) : Option String → Except LoadFault Settings
  | some path => loadFile files path
  | none => .ok (firstOf files (usualPlaces userDirectory))

/-- What is wrong with settings that a scheduler cannot run with: that they are invalid, and why. -/
def invalidMessages? (s : Settings) : Option (List String) :=
  match s.validate with
  | .ok () => none
  | .error fault => some ["Invalid scheduler configuration", fault.message]

end MixRounds.Settings
