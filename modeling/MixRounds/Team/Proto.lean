import MixRounds.Fault
import MixRounds.Team.Order

/-!
# Assembled teams

A proto-round is a team in relay order under a number drawn for it, with everything the start needs to
know.  Assembling one fails on a team without members or with too many, and on a region tag that names
no region — the first such tag in the order of the members.  It has no outcome at all if the costs of the
team overflow on the search for its order: that is no fault, and whoever assembles the team goes down with
it.
-/

namespace MixRounds

/-- An assembled round that has not started. -/
structure ProtoRound where
  id : RoundId
  /-- The members in relay order. -/
  topology : List NodeId
  batch : UInt32
  /-- Milliseconds a started round may stay in precomputing. -/
  precomputationTimeout : Nat
  /-- Milliseconds a round may stay in realtime. -/
  realtimeTimeout : Nat
  deriving DecidableEq, Repr

/-- What keeps something from being done. -/
inductive Setback where
  /-- It is refused. -/
  | fault (fault : Fault)
  /-- A sum of costs overflows, and the task that asked for it breaks down. -/
  | overflow
  deriving DecidableEq, Repr

namespace Team

/-- The search tries every order, so teams are kept small. -/
def maxSize : Nat := 10

/-- The regions that the tags name, or a complaint about the first tag that names none. -/
def regionsOf : List String → Except Fault (List Region)
  | [] => .ok []
  | tag :: rest =>
      match Region.ofTag? tag with
      | none => .error (.unknownRegion tag)
      | some region =>
          match regionsOf rest with
          | .error fault => .error fault
          | .ok regions => .ok (region :: regions)

/-- The members, given with their region tags, in the cheapest relay order. -/
def ordered (table : Latency) (members : List (NodeId × String)) :
    Except Setback (List (NodeId × String)) :=
  if members.isEmpty then .error (.fault .emptyTeam)
  else if maxSize < members.length then
    .error (.fault (.invalidSettings ("team of " ++ toString members.length ++
      " exceeds the exhaustive search limit of " ++ toString maxSize)))
  else
    match regionsOf (members.map Prod.snd) with
    | .error fault => .error (.fault fault)
    | .ok regions =>
        match cheapestOrder table regions with
        | none => .error .overflow
        | some order => .ok (order.filterMap fun i => members[i]?)

end Team

end MixRounds
