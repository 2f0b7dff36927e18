import MixRounds.Command.Help
import MixRounds.Command.LogFilter
import MixRounds.Json.Pretty
import MixRounds.Settings.Locate
import MixRounds.Simulation.Drive

/-!
# The program

Given the files it can see and its arguments, the program prints something and ends with a code: 0 when
it did what it was asked, 2 when the arguments make no sense, 1 when the log filter or the settings do not, and 101
when a filter cannot be taken apart or a scheduler cannot be built with the settings after all.
-/

namespace MixRounds.Command

/-- What a run of the program leaves behind. -/
structure Ending where
  code : Nat
  stdout : String
  deriving DecidableEq, Repr

/-- The end of a run that printed nothing. -/
def Ending.silent (code : Nat) : Ending := ⟨code, ""⟩

/-- The report of a simulation in lines. -/
def reportText (r : Simulation.Report) (updates unverified : Nat) : String :=
  let c := r.metrics.counters
  let row (label : String) (value : String) : String :=
    label ++ ":" ++ "".pushn ' ' (19 - label.length) ++ value ++ "\n"
  row "Rounds completed" (toString c.roundsCompleted) ++
    row "Rounds failed" (toString c.roundsFailed) ++
    row "Rounds started" (toString c.roundsStarted) ++
    row "Timeouts" (toString c.timeouts) ++
    row "Updates processed" (toString c.updatesProcessed) ++
    row "Update errors" (toString c.updateErrors) ++
    row "Polls" (toString r.polls ++ " (" ++ toString r.busy ++ " busy)") ++
    row "Injected errors" (toString r.injected) ++
    row "Round broadcasts" (toString updates ++ " (" ++ toString unverified ++
      " failed verification)") ++
    (if r.timedOut then "Deadline reached before the requested number of rounds finished\n" else "")

/-- A network of nodes spread over the regions in turn. -/
def spreadNetwork (key : SigningKey) (names : List NodeId) (now : Instant) : Network :=
  (names.zip (List.range names.length)).foldl (fun net (name, i) =>
    let region := (Region.all[i % 8]?).getD .americas
    net.register name region.tag .active now) (.empty key (.ofNat 1))

/-- Simulate nodes against a scheduler with the settings, shut it down, and report. -/
def simulate (s : Settings) (o : SimulateOptions) (seed : List UInt8) (now : Instant) : Ending :=
  let names := (List.range o.nodes).map Simulation.nodeName
  let net := spreadNetwork (.ofSeed seed) names now
  match Live.World.create? s .builtIn (fun _ => false) net now with
  | none => .silent 101
  | some w =>
      let plan : Simulation.Plan :=
        ⟨names, 10, Simulation.evenly o.failureRate, o.rounds, 1000 * o.deadlineSecs⟩
      match Simulation.simulate plan w.launch.settle with
      | .error _ => .silent 1
      | .ok state =>
          let w := Simulation.untilAnswered 1 1000000 (state.world.request (.shutdown 1)).settle
          let log := w.shared.net.log
          let key := w.shared.net.key.pub
          let unverified := (log.updates.filter fun u => !u.isVerified key).length
          ⟨0, if o.json then state.report.toJson.pretty ++ "\n"
            else reportText state.report log.updates.length unverified⟩

/-- The files that a run with these arguments may look at. -/
def placesFor (userDirectory : String) (args : List String) : List String :=
  match parse args with
  | .error _ => []
  | .ok i =>
      match i.config with
      | some path => [path]
      | none => Settings.usualPlaces userDirectory

/-- Do what an invocation asks. -/
def perform (files : Settings.Files) (userDirectory : String) (seed : List UInt8) (now : Instant)
    (i : Invocation) : Ending :=
  match LogFilter.check (i.logLevel.getD "") with
  | .error .malformed => .silent 1
  | .error .misaligned => .silent 101
  | .ok () =>
      match Settings.load files userDirectory i.config with
      | .error _ => .silent 1
      | .ok s =>
          match s.validate with
          | .error _ => .silent 1
          | .ok () =>
              match i.job with
              | .config => ⟨0, s.toFile⟩
              | .simulate o => simulate s o seed now

/-- Run the program. -/
def run (files : Settings.Files) (userDirectory : String) (seed : List UInt8) (now : Instant)
    (args : List String) : Ending :=
  match parse args with
  | .ok i => perform files userDirectory seed now i
  | .error fault =>
      match fault.output with
      | some text => ⟨0, text⟩
      | none => .silent 2

end MixRounds.Command
