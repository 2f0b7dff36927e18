import MixRounds.Node.Activity
import MixRounds.Round.Id
import MixRounds.Round.Phase
import MixRounds.Text.Quoted

/-!
# What can go wrong

Every refusal of the library is one of these causes, and `Fault.message` is the only place where one
is put into words.  Three questions are asked of a fault: whether the loop simply tries again later,
whether an operator has to step in, and whether a node broke the protocol.
-/

namespace MixRounds

/-- The cause of a refusal. -/
inductive Fault where
  | unknownNode (node : NodeId)
  | notRegistered (node : NodeId)
  | banned (node : NodeId)
  | unknownRound (round : RoundId)
  /-- A report that needs a round came from a node without one. -/
  | noRound (node : NodeId) (activity : Activity)
  | illegalActivity (node : NodeId) (current next : Activity)
  | illegalPhase (round : RoundId) (current next : Phase)
  | readinessOverflow (round : RoundId) (teamSize : Nat)
  | holdsRound (node : NodeId) (held : RoundId)
  | slotOccupied (round : RoundId)
  | poolTooSmall (available threshold teamSize : Nat)
  | unknownRegion (tag : String)
  | emptyTeam
  | invalidSettings (reason : String)
  | roundIds (reason : String)
  | badSignature
  /-- The loop is gone. -/
  | channelClosed
  deriving DecidableEq, Repr

namespace Fault

/-- The fault in a sentence. -/
def message : Fault → String
  | unknownNode node => "Unknown node: " ++ node
  | notRegistered node => "Node " ++ node ++ " is not registered"
  | banned node => "Node " ++ node ++ " is banned"
  | unknownRound round => "Unknown round: " ++ round.text
  | noRound node activity => "Node " ++ node ++ " reported " ++ activity.word ++ " without holding a round"
  | illegalActivity node current next =>
      "Node " ++ node ++ " cannot move from " ++ current.word ++ " to " ++ next.word
  | illegalPhase round current next =>
      "Round " ++ round.text ++ " cannot move from " ++ current.word ++ " to " ++ next.word
  | readinessOverflow round teamSize =>
      "Round " ++ round.text ++ " readiness already at team size " ++ toString teamSize
  | holdsRound node held => "Node " ++ node ++ " already holds round " ++ held.text
  | slotOccupied round => "Round slot " ++ round.text ++ " is already occupied"
  | poolTooSmall available threshold teamSize =>
      "Waiting pool too small: " ++ toString available ++ " eligible, threshold " ++
        toString threshold ++ ", team size " ++ toString teamSize
  | unknownRegion tag => "Unknown region tag: " ++ Text.quoted tag
  | emptyTeam => "Cannot order an empty team"
  | invalidSettings reason => "Invalid configuration: " ++ reason
  | roundIds reason => "Round id source exhausted or unavailable: " ++ reason
  | badSignature => "Signature verification failed"
  | channelClosed => "Channel closed"

/-- The name of the fault for programs that read answers. -/
def code : Fault → String
  | unknownNode _ => "UnknownNode"
  | notRegistered _ => "NodeNotRegistered"
  | banned _ => "NodeBanned"
  | unknownRound _ => "UnknownRound"
  | noRound .. => "NoRound"
  | illegalActivity .. => "InvalidActivityTransition"
  | illegalPhase .. => "InvalidRoundTransition"
  | readinessOverflow .. => "ReadinessOverflow"
  | holdsRound .. => "NodeHoldsRound"
  | slotOccupied _ => "RoundSlotOccupied"
  | poolTooSmall .. => "InsufficientPool"
  | unknownRegion _ => "UnknownRegion"
  | emptyTeam => "EmptyTeam"
  | invalidSettings _ => "InvalidConfig"
  | roundIds _ => "RoundIds"
  | badSignature => "BadSignature"
  | channelClosed => "ChannelClosed"

/-- The loop tries again at the next occasion. -/
def isSteadyState : Fault → Bool
  | poolTooSmall .. => true
  | _ => false

/-- The fault repeats until an operator steps in. -/
def isConfiguration : Fault → Bool
  | unknownRegion _ | invalidSettings _ | emptyTeam => true
  | _ => false

/-- A node or round was asked to do what the protocol does not allow. -/
def isProtocolViolation : Fault → Bool
  | noRound .. | illegalActivity .. | illegalPhase .. | readinessOverflow .. | holdsRound .. => true
  | _ => false

end Fault

end MixRounds
